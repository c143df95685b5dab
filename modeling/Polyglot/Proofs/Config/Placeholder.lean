import Mathlib.Logic.Relation
import Polyglot.Config.Placeholder
import Polyglot.Proofs.Outcome
import Polyglot.Proofs.Text.Digit
import Polyglot.Proofs.Text.Parts

/-!
# Placeholders

The references between texts form a graph. A text is resolved to its substitution, in which every
reference is replaced by what it stands for, if and only if there is one and no chain of references
is longer than the limit; a circle of references makes chains of every length.
-/
namespace Polyglot.Config

variable {env : Environment} {data : Bundle} {s t r : String}

/-! ## References -/

/-- Whether a text refers to a configured value with another text. -/
def Refers (env : Environment) (data : Bundle) (s t : String) : Prop :=
  ∃ inner, Piece.reference inner ∈ pieces s.toList ∧ target env data inner = .configured t

/-- Whether every reference that a text comes to stands for something that can be written. -/
def IsComplete (env : Environment) (data : Bundle) (s : String) : Prop :=
  ∀ t inner, Relation.ReflTransGen (Refers env data) s t →
    Piece.reference inner ∈ pieces t.toList →
      target env data inner ≠ .missing ∧ target env data inner ≠ .unwritable

/-- Whether references lead from a text through a number of configured texts, each of which may
refer to others. -/
def HasChain (env : Environment) (data : Bundle) : Nat → String → Prop
  | 0, _ => True
  | n + 1, s => ∃ t, Refers env data s t ∧ mayRefer t = true ∧ HasChain env data n t

/-- Whether a text comes to a circle of references. -/
def MeetsCycle (env : Environment) (data : Bundle) (s : String) : Prop :=
  ∃ t, Relation.ReflTransGen (Refers env data) s t ∧ Relation.TransGen (Refers env data) t t

/-- The substitution of the pieces of a text: characters stay as they are, a text of the environment
or of the reference itself is taken as it is, and a configured text is substituted in turn. -/
inductive Fills (env : Environment) (data : Bundle) : List Piece → String → Prop
  | nil : Fills env data [] ""
  | char {c : Char} {ps : List Piece} {r : String} (hr : Fills env data ps r) :
      Fills env data (.char c :: ps) (String.singleton c ++ r)
  | verbatim {inner : List Char} {t : String} {ps : List Piece} {r : String}
      (ht : target env data inner = .verbatim t) (hr : Fills env data ps r) :
      Fills env data (.reference inner :: ps) (t ++ r)
  | configured {inner : List Char} {t w : String} {ps : List Piece} {r : String}
      (ht : target env data inner = .configured t) (hw : Fills env data (pieces t.toList) w)
      (hr : Fills env data ps r) : Fills env data (.reference inner :: ps) (w ++ r)

/-- Whether a text is the complete substitution of another one. -/
def Substitutes (env : Environment) (data : Bundle) (s r : String) : Prop :=
  Fills env data (pieces s.toList) r

/-! ## Pieces -/

theorem braced?_eq_none {cs : List Char} (h : ['$', '\x7b'].isPrefixOf ('$' :: cs) = false) :
    braced? cs = none := by
  unfold braced?
  split
  · simp at h
  · rfl

/-- A text without the beginning of a placeholder is all characters. -/
theorem pieces_eq_map {cs : List Char} (h : Text.contains ['$', '\x7b'] cs = false) :
    pieces cs = cs.map Piece.char := by
  induction cs with
  | nil => rw [pieces, List.map_nil]
  | cons c r ih =>
    obtain ⟨hfront, hrest⟩ := Bool.or_eq_false_iff.1 h
    have hr := ih hrest
    rw [pieces]
    split
    · rename_i hc
      subst hc
      split
      · rename_i hbraced
        rw [braced?_eq_none hfront] at hbraced
        cases hbraced
      · rw [hr, List.map_cons]
    · rw [hr, List.map_cons]

theorem mayRefer_of_mem {inner : List Char} (h : Piece.reference inner ∈ pieces s.toList) :
    mayRefer s = true := by
  by_contra hnone
  rw [pieces_eq_map (Bool.eq_false_iff.2 hnone)] at h
  obtain ⟨c, -, hc⟩ := List.mem_map.1 h
  cases hc

theorem Refers.mayRefer (h : Refers env data s t) : mayRefer s = true := by
  obtain ⟨inner, hinner, -⟩ := h
  exact mayRefer_of_mem hinner

theorem fills_map_char_iff {cs : List Char} :
    Fills env data (cs.map Piece.char) r ↔ r = String.ofList cs := by
  induction cs generalizing r with
  | nil =>
    constructor
    · rintro ⟨⟩
      rfl
    · rintro rfl
      exact .nil
  | cons c rest ih =>
    have hcons : String.ofList (c :: rest) = String.singleton c ++ String.ofList rest := by
      rw [String.singleton_eq_ofList, ← String.ofList_append]
      rfl
    rw [hcons, List.map_cons]
    constructor
    · rintro (_ | hr)
      rw [ih.1 hr]
    · rintro rfl
      exact .char (ih.2 rfl)

/-- A text without the beginning of a placeholder is its own substitution. -/
theorem substitutes_iff_of_not_mayRefer (h : mayRefer s = false) :
    Substitutes env data s r ↔ r = s := by
  rw [Substitutes, pieces_eq_map h, fills_map_char_iff, String.ofList_toList]

/-! ## References to keys -/

/-- The text that refers to a key and to nothing else. -/
def referenceTo (key : String) : String := "$\x7b" ++ key ++ "\x7d"

/-- Whether a key can stand in a reference. -/
structure IsReferable (key : String) : Prop where
  nonempty : key ≠ ""
  colon : ':' ∉ key.toList
  brace : '\x7d' ∉ key.toList

variable {key : String}

theorem pieces_referenceTo (hkey : IsReferable key) :
    pieces (referenceTo key).toList = [.reference key.toList] := by
  have hlist : (referenceTo key).toList = '$' :: '\x7b' :: (key.toList ++ ['\x7d']) := by
    simp [referenceTo]
  have hcut := Text.cutAt_append hkey.brace []
  have hbraced : braced? ('\x7b' :: (key.toList ++ ['\x7d'])) = some (key.toList, []) := by
    cases hcs : key.toList with
    | nil => exact absurd (String.toList_eq_nil_iff.1 hcs) hkey.nonempty
    | cons c r =>
      rw [hcs] at hcut
      simp only [braced?, hcut]
  rw [hlist, pieces, if_pos rfl]
  split
  · rename_i inner rest h
    cases hbraced.symm.trans h
    rw [pieces]
  · rename_i h
    cases hbraced.symm.trans h

theorem target_key (hkey : IsReferable key) :
    target env data key.toList =
      match Entries.get? env key with
      | some t => .verbatim t
      | none =>
          match find? data key with
          | some v => if v.isWritable then .configured v.display else .unwritable
          | none => .missing := by
  have hcut := Text.cutAt_of_not_mem hkey.colon
  cases hname : Entries.get? env key with
  | some t => simp [target, hcut, hname]
  | none => cases hfind : find? data key <;> simp [target, hcut, hname, hfind]

/-! ## Substitutions -/

def PieceFills (env : Environment) (data : Bundle) : Piece → String → Prop
  | .char c, w => w = String.singleton c
  | .reference inner, w =>
      target env data inner = .verbatim w ∨
        ∃ t, target env data inner = .configured t ∧ Substitutes env data t w

theorem fills_nil_iff : Fills env data [] r ↔ r = "" := by
  constructor
  · rintro ⟨⟩
    rfl
  · rintro rfl
    exact .nil

theorem fills_cons_iff {p : Piece} {ps : List Piece} :
    Fills env data (p :: ps) r ↔
      ∃ w v, PieceFills env data p w ∧ Fills env data ps v ∧ w ++ v = r := by
  constructor
  · rintro (_ | hr | ⟨ht, hr⟩ | ⟨ht, hw, hr⟩)
    · exact ⟨_, _, rfl, hr, rfl⟩
    · exact ⟨_, _, .inl ht, hr, rfl⟩
    · exact ⟨_, _, .inr ⟨_, ht, hw⟩, hr, rfl⟩
  · rintro ⟨w, v, hp, hv, rfl⟩
    cases p with
    | char c =>
      cases hp
      exact .char hv
    | reference inner =>
      rcases hp with ht | ⟨t, ht, hw⟩
      · exact .verbatim ht hv
      · exact .configured ht hw hv

/-- There is at most one substitution. -/
theorem Fills.unique {ps : List Piece} {r' : String} (h : Fills env data ps r)
    (h' : Fills env data ps r') : r = r' := by
  induction h generalizing r' with
  | nil => exact (fills_nil_iff.1 h').symm
  | char hr ih =>
    obtain ⟨w, v, rfl, hv, rfl⟩ := fills_cons_iff.1 h'
    rw [ih hv]
  | verbatim ht hr ih =>
    obtain ⟨w, v, ht' | ⟨t, ht', -⟩, hv, rfl⟩ := fills_cons_iff.1 h'
    · cases ht.symm.trans ht'
      rw [ih hv]
    · cases ht.symm.trans ht'
  | configured ht hw hr ihw ihr =>
    obtain ⟨w, v, ht' | ⟨t, ht', hw'⟩, hv, rfl⟩ := fills_cons_iff.1 h'
    · cases ht.symm.trans ht'
    · cases ht.symm.trans ht'
      rw [ihw hw', ihr hv]

/-! ## Resolving -/

/-- What a piece is replaced by when references are followed to a depth. -/
def replaceTo (env : Environment) (data : Bundle) (depth : Nat) :
    Piece → Except PlaceholderFault String
  | .char c => .ok (String.singleton c)
  | .reference inner =>
      match target env data inner with
      | .verbatim t => .ok t
      | .configured t => if mayRefer t then resolveTo env data depth t else .ok t
      | .unwritable => .error .numberTooLong
      | .missing => .error (.unresolved (String.ofList inner))

theorem resolveTo_succ (depth : Nat) (s : String) :
    resolveTo env data (depth + 1) s =
      ((pieces s.toList).mapM (replaceTo env data depth)).map String.join := by
  rw [resolveTo]
  rfl

/-- Whether a piece leads to no chain of a length. -/
def IsShort (env : Environment) (data : Bundle) (depth : Nat) : Piece → Prop
  | .char _ => True
  | .reference inner =>
      ∀ t, target env data inner = .configured t → mayRefer t = true →
        ¬HasChain env data depth t

theorem not_hasChain_succ_iff {depth : Nat} :
    ¬HasChain env data (depth + 1) s ↔ ∀ p ∈ pieces s.toList, IsShort env data depth p := by
  constructor
  · intro h p hp
    cases p with
    | char c => trivial
    | reference inner => exact fun t ht hrefer hchain => h ⟨t, ⟨inner, hp, ht⟩, hrefer, hchain⟩
  · rintro h ⟨t, ⟨inner, hinner, ht⟩, hrefer, hchain⟩
    exact h _ hinner t ht hrefer hchain

section Depth

variable {depth : Nat} (hdepth : ∀ t w, resolveTo env data depth t = .ok w ↔
  Substitutes env data t w ∧ ¬HasChain env data depth t)
include hdepth

theorem replaceTo_eq_ok_iff {p : Piece} {w : String} :
    replaceTo env data depth p = .ok w ↔ PieceFills env data p w ∧ IsShort env data depth p := by
  cases p with
  | char c => simp [replaceTo, PieceFills, IsShort, eq_comm]
  | reference inner =>
    rw [replaceTo, PieceFills, IsShort]
    cases htarget : target env data inner with
    | verbatim t => simp
    | unwritable => simp
    | missing => simp
    | configured t =>
      cases hrefer : mayRefer t with
      | false =>
        have hsub : Substitutes env data t w ↔ t = w :=
          (substitutes_iff_of_not_mayRefer hrefer).trans eq_comm
        simp [hrefer, hsub]
      | true => simp [hrefer, hdepth]

omit hdepth in
theorem mapM_replaceTo_cons_eq_ok_iff {p : Piece} {ps : List Piece} :
    ((p :: ps).mapM (replaceTo env data depth)).map String.join = .ok r ↔
      ∃ w v, replaceTo env data depth p = .ok w ∧
        (ps.mapM (replaceTo env data depth)).map String.join = .ok v ∧ w ++ v = r := by
  rw [List.mapM_cons]
  cases replaceTo env data depth p with
  | error f => simp [bind, Except.bind, Except.map]
  | ok w =>
    cases ps.mapM (replaceTo env data depth) with
    | error f => simp [bind, Except.bind, Except.map]
    | ok ws => simp [bind, Except.bind, Except.map, pure, Except.pure, String.join_cons]

theorem mapM_replaceTo_eq_ok_iff {ps : List Piece} :
    (ps.mapM (replaceTo env data depth)).map String.join = .ok r ↔
      Fills env data ps r ∧ ∀ p ∈ ps, IsShort env data depth p := by
  induction ps generalizing r with
  | nil => simp [fills_nil_iff, Except.map, pure, Except.pure, eq_comm]
  | cons p rest ih =>
    simp only [mapM_replaceTo_cons_eq_ok_iff, fills_cons_iff, List.forall_mem_cons, ih,
      replaceTo_eq_ok_iff hdepth]
    constructor
    · rintro ⟨w, v, ⟨hp, hpshort⟩, ⟨hrest, hshort⟩, rfl⟩
      exact ⟨⟨w, v, hp, hrest, rfl⟩, hpshort, hshort⟩
    · rintro ⟨⟨w, v, hp, hrest, rfl⟩, hpshort, hshort⟩
      exact ⟨w, v, ⟨hp, hpshort⟩, ⟨hrest, hshort⟩, rfl⟩

end Depth

/-- A text is resolved to its substitution, if and only if no chain is as long as the depth. -/
theorem resolveTo_eq_ok_iff (depth : Nat) (s r : String) :
    resolveTo env data depth s = .ok r ↔
      Substitutes env data s r ∧ ¬HasChain env data depth s := by
  induction depth generalizing s r with
  | zero => simp [resolveTo, HasChain]
  | succ depth ih =>
    rw [resolveTo_succ, mapM_replaceTo_eq_ok_iff ih, not_hasChain_succ_iff, Substitutes]

/-! ## When there is a substitution -/

theorem PieceFills.isFound {inner : List Char} (h : PieceFills env data (.reference inner) r) :
    target env data inner ≠ .missing ∧ target env data inner ≠ .unwritable := by
  rcases h with h | ⟨t, h, -⟩ <;> simp [h]

theorem Fills.exists_pieceFills {ps : List Piece} (h : Fills env data ps r) {p : Piece}
    (hp : p ∈ ps) : ∃ w, PieceFills env data p w := by
  induction ps generalizing r with
  | nil => cases hp
  | cons q rest ih =>
    obtain ⟨w, v, hq, hrest, -⟩ := fills_cons_iff.1 h
    rcases List.mem_cons.1 hp with rfl | hp
    · exact ⟨w, hq⟩
    · exact ih hrest hp

theorem exists_fills {ps : List Piece} (h : ∀ p ∈ ps, ∃ w, PieceFills env data p w) :
    ∃ r, Fills env data ps r := by
  induction ps with
  | nil => exact ⟨"", .nil⟩
  | cons p rest ih =>
    obtain ⟨⟨w, hw⟩, hrest⟩ := List.forall_mem_cons.1 h
    obtain ⟨v, hv⟩ := ih hrest
    exact ⟨w ++ v, fills_cons_iff.2 ⟨w, v, hw, hv, rfl⟩⟩

theorem Substitutes.exists_of_refers (h : Substitutes env data s r) (ht : Refers env data s t) :
    ∃ w, Substitutes env data t w := by
  obtain ⟨inner, hinner, htarget⟩ := ht
  obtain ⟨w, hw | ⟨u, hu, hw⟩⟩ := h.exists_pieceFills hinner
  · cases htarget.symm.trans hw
  · cases htarget.symm.trans hu
    exact ⟨w, hw⟩

theorem Substitutes.exists_of_reaches (h : Substitutes env data s r)
    (hreach : Relation.ReflTransGen (Refers env data) s t) :
    ∃ w, Substitutes env data t w := by
  induction hreach with
  | refl => exact ⟨r, h⟩
  | tail _ hstep ih =>
    obtain ⟨w, hw⟩ := ih
    exact hw.exists_of_refers hstep

/-- A text that has a substitution comes to no reference that stands for nothing. -/
theorem Substitutes.isComplete (h : Substitutes env data s r) : IsComplete env data s := by
  intro t inner hreach hinner
  obtain ⟨w, hw⟩ := h.exists_of_reaches hreach
  obtain ⟨v, hv⟩ := hw.exists_pieceFills hinner
  exact hv.isFound

theorem IsComplete.of_refers (h : IsComplete env data s) (ht : Refers env data s t) :
    IsComplete env data t :=
  fun u inner hreach hinner => h u inner (.head ht hreach) hinner

/-- A text whose references all stand for something has a substitution, if its chains are
bounded. -/
theorem IsComplete.exists_substitutes {depth : Nat} (h : IsComplete env data s)
    (hshort : ¬HasChain env data depth s) : ∃ r, Substitutes env data s r := by
  -- The bound on the chains takes the place of a measure on the graph of references.
  induction depth generalizing s with
  | zero => exact absurd trivial hshort
  | succ depth ih =>
    refine exists_fills fun p hp => ?_
    cases p with
    | char c => exact ⟨_, rfl⟩
    | reference inner =>
      obtain ⟨hmissing, hunwritable⟩ := h s inner .refl hp
      cases htarget : target env data inner with
      | verbatim t => exact ⟨t, .inl htarget⟩
      | missing => exact absurd htarget hmissing
      | unwritable => exact absurd htarget hunwritable
      | configured t =>
        cases hrefer : mayRefer t with
        | false => exact ⟨t, .inr ⟨t, htarget, (substitutes_iff_of_not_mayRefer hrefer).2 rfl⟩⟩
        | true =>
          have hnext := not_hasChain_succ_iff.1 hshort _ hp t htarget hrefer
          obtain ⟨w, hw⟩ := ih (h.of_refers ⟨inner, hp, htarget⟩) hnext
          exact ⟨w, .inr ⟨t, htarget, hw⟩⟩

/-! ## Circles -/

theorem MeetsCycle.exists_refers (h : MeetsCycle env data s) :
    ∃ t, Refers env data s t ∧ MeetsCycle env data t := by
  obtain ⟨t, hreach, hcycle⟩ := h
  rcases hreach.cases_head with rfl | ⟨u, hstep, hrest⟩
  · obtain ⟨u, hstep, hback⟩ := Relation.TransGen.head'_iff.1 hcycle
    exact ⟨u, hstep, s, hback, hcycle⟩
  · exact ⟨u, hstep, t, hrest, hcycle⟩

/-- A circle makes chains of every length. -/
theorem MeetsCycle.hasChain (h : MeetsCycle env data s) (n : Nat) : HasChain env data n s := by
  induction n generalizing s with
  | zero => trivial
  | succ n ih =>
    obtain ⟨t, hstep, ht⟩ := h.exists_refers
    obtain ⟨u, hnext, -⟩ := ht.exists_refers
    exact ⟨t, hstep, hnext.mayRefer, ih ht⟩

/-! ## Resolving -/

/-- A text is resolved if and only if every reference that it comes to stands for something that can
be written and no chain leads on through more than ten configured texts, which excludes circles.
It is resolved to its substitution, which is the only one; a text that comes to a circle is not
resolved at all. -/
theorem resolve_eq_substitution (env : Environment) (data : Bundle) (s : String) :
    (IsComplete env data s → ¬HasChain env data 11 s →
      ∃ r, resolve env data s = .ok r ∧ Substitutes env data s r) ∧
    (∀ r, resolve env data s = .ok r →
      IsComplete env data s ∧ ¬HasChain env data 11 s ∧
        ∀ r', Substitutes env data s r' ↔ r' = r) ∧
    (MeetsCycle env data s → ∃ fault, resolve env data s = .error fault) := by
  refine ⟨fun hcomplete hshort => ?_, fun r hr => ?_, fun hcycle => ?_⟩
  · obtain ⟨r, hr⟩ := hcomplete.exists_substitutes hshort
    exact ⟨r, (resolveTo_eq_ok_iff 11 s r).2 ⟨hr, hshort⟩, hr⟩
  · obtain ⟨hsub, hshort⟩ := (resolveTo_eq_ok_iff 11 s r).1 hr
    refine ⟨hsub.isComplete, hshort, fun r' => ⟨fun hr' => Fills.unique hr' hsub, ?_⟩⟩
    rintro rfl
    exact hsub
  · cases hresolve : resolve env data s with
    | error fault => exact ⟨fault, rfl⟩
    | ok r =>
      obtain ⟨-, hshort⟩ := (resolveTo_eq_ok_iff 11 s r).1 hresolve
      exact absurd (hcycle.hasChain 11) hshort

def shopVariables : Environment := [("HOST", "shop.example")]

def shopData : Bundle :=
  [("app", .dict [("name", .text "Shop"),
    ("title", .text "$\x7bapp.name\x7d at $\x7bHOST\x7d:$\x7bPORT:80\x7d")])]

/-- Two values that refer to each other. -/
def circle : Bundle :=
  [("ping", .text (referenceTo "pong")), ("pong", .text (referenceTo "ping"))]

theorem meetsCycle_circle : MeetsCycle [] circle (referenceTo "ping") := by
  have hping : Refers [] circle (referenceTo "ping") (referenceTo "pong") :=
    ⟨"ping".toList, by decide +kernel, rfl⟩
  have hpong : Refers [] circle (referenceTo "pong") (referenceTo "ping") :=
    ⟨"pong".toList, by decide +kernel, rfl⟩
  exact ⟨referenceTo "ping", .refl, .tail (.single hping) hpong⟩

theorem resolve_eq_substitution_shop :
    Substitutes shopVariables shopData "See $\x7bapp.title\x7d" "See Shop at shop.example:80" ∧
    (∃ r, resolve shopVariables shopData "See $\x7bapp.title\x7d" = .ok r ∧
      Substitutes shopVariables shopData "See $\x7bapp.title\x7d" r) ∧
    ∃ fault, resolve [] circle (referenceTo "ping") = .error fault := by
  have hresolve : resolve shopVariables shopData "See $\x7bapp.title\x7d" =
      .ok "See Shop at shop.example:80" := by
    decide +kernel
  obtain ⟨hcompletes, hresolves, -⟩ :=
    resolve_eq_substitution shopVariables shopData "See $\x7bapp.title\x7d"
  obtain ⟨-, -, hcycles⟩ := resolve_eq_substitution [] circle (referenceTo "ping")
  obtain ⟨hcomplete, hshort, hsub⟩ := hresolves _ hresolve
  exact ⟨(hsub _).2 rfl, hcompletes hcomplete hshort, hcycles meetsCycle_circle⟩

/-- The least whole number that cannot be written. -/
def leastUnwritable : Int := Int.ofNat (10 ^ Literal.maxIntDigits)

theorem isWritable_leastUnwritable : Literal.isWritable leastUnwritable = false :=
  Bool.eq_false_iff.2 fun h => Nat.lt_irrefl _ (Literal.isWritable_ofNat_iff.1 h)

/-- A configuration with a whole number that cannot be written. -/
def unwritableData : Bundle := [("big", .int leastUnwritable)]

theorem isReferable_big : IsReferable "big" where
  nonempty := by decide
  colon := by decide
  brace := by decide

theorem target_unwritableData : target [] unwritableData "big".toList = .unwritable := by
  have hpath : keyPath "big" = ["big"] := rfl
  have hfind : find? unwritableData "big" = some (.int leastUnwritable) := by
    rw [find?, hpath]
    rfl
  have hwritable : (Value.int leastUnwritable).isWritable = false := by
    rw [Value.isWritable, isWritable_leastUnwritable]
  rw [target_key isReferable_big, hfind]
  simp [hwritable, Entries.get?]

/-- A reference to a whole number that cannot be written is not substituted. -/
theorem resolve_unwritableData :
    (∀ t inner, Relation.ReflTransGen (Refers [] unwritableData) (referenceTo "big") t →
      Piece.reference inner ∈ pieces t.toList → target [] unwritableData inner ≠ .missing) ∧
    ¬MeetsCycle [] unwritableData (referenceTo "big") ∧
    ¬HasChain [] unwritableData 1 (referenceTo "big") ∧
    resolve [] unwritableData (referenceTo "big") = .error .numberTooLong := by
  have hrefers : ∀ t, ¬Refers [] unwritableData (referenceTo "big") t := by
    rintro t ⟨inner, hinner, ht⟩
    rw [pieces_referenceTo isReferable_big] at hinner
    cases List.mem_singleton.1 hinner
    cases target_unwritableData.symm.trans ht
  refine ⟨fun t inner hreach hinner => ?_, fun hcycle => ?_, ?_, ?_⟩
  · rcases hreach.cases_head with rfl | ⟨u, hstep, -⟩
    · rw [pieces_referenceTo isReferable_big] at hinner
      rw [List.mem_singleton.1 hinner |> Piece.reference.inj, target_unwritableData]
      simp
    · exact absurd hstep (hrefers u)
  · obtain ⟨t, ht, -⟩ := hcycle.exists_refers
    exact hrefers t ht
  · rintro ⟨t, ht, -⟩
    exact hrefers t ht
  · have hreplace : replaceTo [] unwritableData 10 (.reference "big".toList) =
        .error .numberTooLong := by
      rw [replaceTo, target_unwritableData]
    rw [resolve, maxDepth, resolveTo_succ, pieces_referenceTo isReferable_big, List.mapM_cons,
      hreplace]
    rfl

end Polyglot.Config
