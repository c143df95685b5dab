import Polyglot.Proofs.Entries
import Polyglot.Proofs.Message.Recovery
import Polyglot.Proofs.Message.Selection
import Polyglot.Proofs.Number.Equality

/-!
# The order of arms

The arms of an argument can stand in any order. A category and the key of a choice name their arm,
and of exact selectors that stand for different numbers at most one is found for a number. The
exact ones come first: they are compared with the number itself, and only if there is none for it
does the number without its offset have a category.
-/
namespace Polyglot.Message

/-! ## Exact selectors -/

/-- The number of an exact selector, if there is one. -/
def exactDecimal? (s : String) : Option Decimal := (exactNumber? s).bind Decimal.read?

/-- What an exact selector stands for. -/
def exactValue? (s : String) : Option (WithBot (WithTop ℚ)) :=
  (exactDecimal? s).bind Decimal.value?

/-- Whether a selector is an exact one that stands for a number. -/
def IsExactFor (x : Decimal) (s : String) : Prop :=
  ∃ v, exactValue? s = some v ∧ x.value? = some v

/-- Whether exact selectors stand for numbers, and different ones for different numbers. -/
structure HasDistinctNumbers (selectors : List String) : Prop where
  number : ∀ s ∈ selectors, (exactNumber? s).isSome → ∃ v, exactValue? s = some v
  distinct : ∀ s ∈ selectors, ∀ t ∈ selectors, ∀ v, exactValue? s = some v →
    exactValue? t = some v → s = t

theorem isExactFor_iff {x : Decimal} {s : String} :
    IsExactFor x s ↔ ∃ d ∈ exactDecimal? s, d.compare? x = some .eq := by
  simp only [IsExactFor, exactValue?, Option.bind_eq_some_iff, Decimal.compare?_eq_iff,
    Option.mem_def]
  constructor
  · rintro ⟨v, ⟨d, hd, hv⟩, hx⟩
    exact ⟨d, hd, v, hv, hx⟩
  · rintro ⟨d, hd, v, hv, hx⟩
    exact ⟨v, ⟨d, hd, hv⟩, hx⟩

instance (x : Decimal) (s : String) : Decidable (IsExactFor x s) :=
  decidable_of_iff _ isExactFor_iff.symm

theorem hasDistinctNumbers_iff {ss : List String} :
    HasDistinctNumbers ss ↔
      (∀ s ∈ ss, (exactNumber? s).isSome → ∃ d ∈ exactDecimal? s, d.isNaN = false) ∧
        ∀ s ∈ ss, ∀ t ∈ ss, ∀ d ∈ exactDecimal? s, IsExactFor d t → s = t := by
  have hvalue {d : Decimal} : d.isNaN = false ↔ ∃ v, d.value? = some v := by
    cases d <;> simp [Decimal.isNaN, Decimal.value?]
  constructor
  · rintro ⟨hnumber, hdistinct⟩
    refine ⟨fun s hs hexact => ?_, fun s hs t ht d hd hexact => ?_⟩
    · obtain ⟨v, hv⟩ := hnumber s hs hexact
      obtain ⟨d, hd, hdv⟩ := Option.bind_eq_some_iff.1 hv
      exact ⟨d, hd, hvalue.2 ⟨v, hdv⟩⟩
    · obtain ⟨v, htv, hdv⟩ := hexact
      exact hdistinct s hs t ht v (Option.bind_eq_some_iff.2 ⟨d, hd, hdv⟩) htv
  · rintro ⟨hnumber, hdistinct⟩
    refine ⟨fun s hs hexact => ?_, fun s hs t ht v hsv htv => ?_⟩
    · obtain ⟨d, hd, hnan⟩ := hnumber s hs hexact
      obtain ⟨v, hdv⟩ := hvalue.1 hnan
      exact ⟨v, Option.bind_eq_some_iff.2 ⟨d, hd, hdv⟩⟩
    · obtain ⟨d, hd, hdv⟩ := Option.bind_eq_some_iff.1 hsv
      exact hdistinct s hs t ht d hd ⟨v, htv, hdv⟩

instance (ss : List String) : Decidable (HasDistinctNumbers ss) :=
  decidable_of_iff _ hasDistinctNumbers_iff.symm

section Exact

variable {x : Decimal} {s t : String} {ss us : List String}

theorem HasDistinctNumbers.of_subset (h : HasDistinctNumbers ss) (hsub : us ⊆ ss) :
    HasDistinctNumbers us where
  number s hs := h.number s (hsub hs)
  distinct s hs t ht := h.distinct s (hsub hs) t (hsub ht)

theorem HasDistinctNumbers.eq_of_isExactFor (h : HasDistinctNumbers ss) (hs : s ∈ ss) (ht : t ∈ ss)
    (hxs : IsExactFor x s) (hxt : IsExactFor x t) : s = t := by
  obtain ⟨v, hsv, hxv⟩ := hxs
  obtain ⟨w, htw, hxw⟩ := hxt
  obtain rfl := Option.some.inj (hxv.symm.trans hxw)
  exact h.distinct s hs t ht v hsv htw

/-- What the search does at a selector: it passes over it, it finds it, or it fails at a number that
cannot be compared. -/
theorem HasDistinctNumbers.findExact_cons (h : HasDistinctNumbers (s :: ss)) :
    IsExactFor x s ∧ findExact x (s :: ss) = .ok (some s) ∨
      ¬ IsExactFor x s ∧ (findExact x (s :: ss) = findExact x ss ∨
        x.signals = true ∧ findExact x (s :: ss) = .error (.decimal .invalid)) := by
  have hnumber := h.number s List.mem_cons_self
  rw [findExact, IsExactFor]
  cases hexact : exactNumber? s with
  | none =>
    have hvalue : exactValue? s = none := by
      rw [exactValue?, exactDecimal?, hexact]
      rfl
    exact .inr ⟨by simp [hvalue], .inl rfl⟩
  | some cs =>
    obtain ⟨v, hv⟩ := hnumber (by rw [hexact]; rfl)
    obtain ⟨d, hread, hdv⟩ : ∃ d, Decimal.read? cs = some d ∧ d.value? = some v := by
      simpa [exactValue?, exactDecimal?, hexact, Option.bind_eq_some_iff] using hv
    simp only [hread]
    by_cases hx : x.value? = some v
    · simp [Decimal.equal_eq_true hdv hx, hv, hx]
    · have hnot : ¬ ∃ w, exactValue? s = some w ∧ x.value? = some w := by simp [hv, hx]
      rcases Decimal.equal_eq_false hdv hx with ⟨-, heq⟩ | ⟨hsignals, heq⟩
      · exact .inr ⟨hnot, .inl (by rw [heq])⟩
      · exact .inr ⟨hnot, .inr ⟨hsignals, by rw [heq]⟩⟩

/-- The selector for a number is found wherever it stands. -/
theorem HasDistinctNumbers.findExact_eq_some (h : HasDistinctNumbers ss) (hs : s ∈ ss)
    (hx : IsExactFor x s) : findExact x ss = .ok (some s) := by
  induction ss with
  | nil => cases hs
  | cons t ts ih =>
    rcases h.findExact_cons with ⟨hxt, hfind⟩ | ⟨hxt, hfind | ⟨hsignals, -⟩⟩
    · rw [hfind, h.eq_of_isExactFor hs List.mem_cons_self hx hxt]
    · have hst : s ≠ t := by
        rintro rfl
        exact hxt hx
      rw [hfind]
      exact ih (h.of_subset (List.subset_cons_self t ts)) ((List.mem_cons.1 hs).resolve_left hst)
    · obtain ⟨v, -, hxv⟩ := hx
      cases x with
      | nan => cases hxv
      | _ => cases hsignals

/-- Without a selector for a number none is found, or the number cannot be compared. -/
theorem HasDistinctNumbers.findExact_eq_none (h : HasDistinctNumbers ss)
    (hx : ∀ s ∈ ss, ¬ IsExactFor x s) :
    findExact x ss = .ok none ∨
      x.signals = true ∧ findExact x ss = .error (.decimal .invalid) := by
  induction ss with
  | nil => exact .inl rfl
  | cons t ts ih =>
    have hrest := ih (h.of_subset (List.subset_cons_self t ts))
      fun s hs => hx s (List.mem_cons_of_mem _ hs)
    rcases h.findExact_cons with ⟨hxt, -⟩ | ⟨-, hfind | hfail⟩
    · exact absurd hxt (hx t List.mem_cons_self)
    · rwa [hfind]
    · exact .inr hfail

end Exact

/-! ## The choice of an arm -/

section Choice

variable {l : Locale} {offset : Nat} {ordinal : Bool} {x : Decimal} {s : String}
  {ss us : List String}

theorem orOther_perm (hperm : ss.Perm us) (s : String) : orOther ss s = orOther us s := by
  simp only [orOther, List.contains_eq_mem, hperm.mem_iff]

/-- The arm for a number wins over those for categories, wherever it stands. -/
theorem choosePlural_of_isExactFor (h : HasDistinctNumbers ss) (hs : s ∈ ss)
    (hx : IsExactFor x s) :
    choosePlural l offset ordinal ss x =
      ((x.sub (.ofInt offset)).mapError .decimal).map fun r => (s, r) := by
  rw [choosePlural, h.findExact_eq_some hs hx]

/-- Without an arm for a number, the category of the number without its offset decides. -/
theorem choosePlural_of_not_isExactFor (h : HasDistinctNumbers ss)
    (hx : ∀ s ∈ ss, ¬ IsExactFor x s) :
    choosePlural l offset ordinal ss x =
      (x.sub (.ofInt offset)).mapError .decimal >>= fun r =>
        ((rulesOf l ordinal).categoryOf r).mapError .plural >>= fun c =>
          .ok (orOther ss c.name, r) := by
  rw [choosePlural]
  rcases h.findExact_eq_none hx with hfind | ⟨hsignals, hfind⟩
  · rw [hfind]
    cases x.sub (.ofInt offset) with
    | error e => rfl
    | ok r =>
      simp only [rulesOf]
      change _ = (PluralRules.categoryOf _ r).mapError RenderFault.plural >>= fun c =>
        .ok (orOther ss c.name, r)
      cases (if ordinal then l.data.ordinal else l.data.plural).categoryOf r <;> rfl
  · -- A number that cannot be compared cannot be reduced by the offset either.
    cases x with
    | nan negative signaling payload =>
      obtain rfl : signaling = true := hsignals
      rw [hfind]
      rfl
    | _ => cases hsignals

theorem choosePlural_perm (h : HasDistinctNumbers ss) (hperm : ss.Perm us) :
    choosePlural l offset ordinal ss x = choosePlural l offset ordinal us x := by
  have hus : HasDistinctNumbers us := h.of_subset hperm.symm.subset
  by_cases hx : ∃ s ∈ ss, IsExactFor x s
  · obtain ⟨s, hs, hx⟩ := hx
    rw [choosePlural_of_isExactFor h hs hx, choosePlural_of_isExactFor hus (hperm.subset hs) hx]
  · have hnone : ∀ s ∈ ss, ¬ IsExactFor x s := fun s hs hxs => hx ⟨s, hs, hxs⟩
    rw [choosePlural_of_not_isExactFor h hnone,
      choosePlural_of_not_isExactFor hus fun s hs => hnone s (hperm.symm.subset hs)]
    simp only [orOther_perm hperm]

end Choice

/-! ## Rearranged arms -/

mutual

/-- Whether a node comes from another one by putting arms in another order, at any depth. -/
inductive Node.IsRearranged : Node → Node → Prop
  | refl (n : Node) : Node.IsRearranged n n
  | select (name : String) {arms more others : List (String × List Node)}
      (inside : HaveRearrangedArms arms more) (order : more.Perm others) :
      Node.IsRearranged (.select name arms) (.select name others)
  | plural (name : String) (offset : Nat) (ordinal : Bool)
      {arms more others : List (String × List Node)}
      (inside : HaveRearrangedArms arms more) (order : more.Perm others) :
      Node.IsRearranged (.plural name offset ordinal arms) (.plural name offset ordinal others)

/-- Whether nodes come from others by putting arms in another order. -/
inductive AreRearranged : List Node → List Node → Prop
  | nil : AreRearranged [] []
  | cons {n m : Node} {ns ms : List Node} (first : Node.IsRearranged n m)
      (rest : AreRearranged ns ms) : AreRearranged (n :: ns) (m :: ms)

/-- Whether arms come from others, in the same order, by putting arms inside of them in another
order. -/
inductive HaveRearrangedArms : List (String × List Node) → List (String × List Node) → Prop
  | nil : HaveRearrangedArms [] []
  | cons (s : String) {ns ms : List Node} {arms more : List (String × List Node)}
      (inside : AreRearranged ns ms) (rest : HaveRearrangedArms arms more) :
      HaveRearrangedArms ((s, ns) :: arms) ((s, ms) :: more)

end

theorem AreRearranged.refl (ns : List Node) : AreRearranged ns ns := by
  induction ns with
  | nil => exact .nil
  | cons n ns ih => exact .cons (.refl n) ih

theorem HaveRearrangedArms.refl (arms : List (String × List Node)) :
    HaveRearrangedArms arms arms := by
  induction arms with
  | nil => exact .nil
  | cons arm arms ih => exact .cons arm.1 (.refl arm.2) ih

theorem HaveRearrangedArms.keys_eq {arms more : List (String × List Node)}
    (h : HaveRearrangedArms arms more) : Entries.keys more = Entries.keys arms := by
  induction arms generalizing more with
  | nil => cases h; rfl
  | cons arm arms ih =>
    cases h with
    | cons s inside rest => exact congrArg (s :: ·) (ih rest)

/-! ## Rendering -/

/-- Whether the arms of a node can be told apart. -/
def Node.HasDistinctArms : Node → Prop
  | .select _ arms => (Entries.keys arms).Nodup
  | .plural _ _ _ arms => (Entries.keys arms).Nodup ∧ HasDistinctNumbers (Entries.keys arms)
  | _ => True

section Rendering

variable (l : Locale) (currency : Option String) (values : Bundle)

theorem renderArm_perm {arms others : List (String × List Node)} (hperm : arms.Perm others)
    (h : (Entries.keys arms).Nodup) (pound : Option Decimal) (selector : String) :
    renderArm l currency values pound selector arms =
      renderArm l currency values pound selector others := by
  rw [renderArm_eq, renderArm_eq, Entries.get?_perm hperm h]

mutual

/-- Rendering does not depend on the order of arms. -/
theorem renderNodes_rearranged (pound : Option Decimal) (ns ms : List Node)
    (h : AreRearranged ns ms) (hns : ∀ n ∈ everyNode ns, n.HasDistinctArms) :
    renderNodes l currency values pound ms = renderNodes l currency values pound ns := by
  match ns with
  | [] =>
    cases h
    rfl
  | n :: ns =>
    cases h with
    | cons first rest =>
      simp only [everyNode, List.forall_mem_append] at hns
      rw [renderNodes, renderNodes, renderNode_rearranged pound n _ first hns.1,
        renderNodes_rearranged pound ns _ rest hns.2]

theorem renderNode_rearranged (pound : Option Decimal) (n m : Node) (h : n.IsRearranged m)
    (hn : ∀ k ∈ n.everyNode, k.HasDistinctArms) :
    renderNode l currency values pound m = renderNode l currency values pound n := by
  match n with
  | .select name arms =>
    cases h with
    | refl => rfl
    | @select _ _ more others inside order =>
      simp only [Node.everyNode, List.forall_mem_cons] at hn
      obtain ⟨hnodup, hinside⟩ := hn
      rw [Node.HasDistinctArms, ← inside.keys_eq] at hnodup
      have harm (s : String) : renderArm l currency values pound s others =
          renderArm l currency values pound s arms :=
        (renderArm_perm l currency values order hnodup pound s).symm.trans
          (renderArm_rearranged pound s arms _ inside hinside)
      have hother (s : String) :
          orOther (Entries.keys others) s = orOther (Entries.keys arms) s := by
        rw [← inside.keys_eq, orOther_perm (Entries.keys_perm order)]
      simp only [renderNode, harm, hother]
  | .plural name offset ordinal arms =>
    cases h with
    | refl => rfl
    | @plural _ _ _ _ more others inside order =>
      simp only [Node.everyNode, List.forall_mem_cons] at hn
      obtain ⟨⟨hnodup, hnumbers⟩, hinside⟩ := hn
      rw [← inside.keys_eq] at hnodup hnumbers
      have harm (r : Decimal) (s : String) : renderArm l currency values (some r) s others =
          renderArm l currency values (some r) s arms :=
        (renderArm_perm l currency values order hnodup (some r) s).symm.trans
          (renderArm_rearranged (some r) s arms _ inside hinside)
      have hchoice (x : Decimal) : choosePlural l offset ordinal (Entries.keys others) x =
          choosePlural l offset ordinal (Entries.keys arms) x := by
        rw [← inside.keys_eq, choosePlural_perm hnumbers (Entries.keys_perm order)]
      simp only [renderNode, harm, hchoice]
  | .text _ | .argument .. | .pound | .number .. | .moment .. =>
    cases h
    rfl

theorem renderArm_rearranged (pound : Option Decimal) (selector : String)
    (arms more : List (String × List Node)) (h : HaveRearrangedArms arms more)
    (harms : ∀ n ∈ everyArmNode arms, n.HasDistinctArms) :
    renderArm l currency values pound selector more =
      renderArm l currency values pound selector arms := by
  match arms with
  | [] =>
    cases h
    rfl
  | (s, ns) :: arms =>
    cases h with
    | cons _ inside rest =>
      simp only [everyArmNode, List.forall_mem_append] at harms
      rw [renderArm, renderArm, renderNodes_rearranged pound ns _ inside harms.1,
        renderArm_rearranged pound selector arms _ rest harms.2]

end

variable {l currency values} {name : String} {offset : Nat} {ordinal : Bool}
  {arms : List (String × List Node)} {pound : Option Decimal} {v : Value} {x : Decimal}

/-- The arm for a number is rendered with the number without its offset for `#`. -/
theorem renderNode_plural_of_isExactFor (hnodup : (Entries.keys arms).Nodup)
    (hnumbers : HasDistinctNumbers (Entries.keys arms)) (hv : require name values = .ok v)
    (hx : toDecimal name v = .ok x) {s : String} {branch : List Node}
    (hbranch : (s, branch) ∈ arms) (hs : IsExactFor x s) :
    renderNode l currency values pound (.plural name offset ordinal arms) =
      (x.sub (.ofInt offset)).mapError .decimal >>= fun r =>
        renderNodes l currency values (some r) branch := by
  have hmem : s ∈ Entries.keys arms := List.mem_map_of_mem hbranch
  have hfound : Entries.get? arms s = some branch := Entries.get?_of_mem hnodup hbranch
  rw [renderNode, hv]
  simp only [hx, choosePlural_of_isExactFor hnumbers hmem hs]
  cases x.sub (.ofInt offset) with
  | error e => rfl
  | ok r =>
    change renderArm l currency values (some r) s arms = _
    rw [renderArm_eq, hfound]
    rfl

/-- Without an arm for a number, that of the category of the number without its offset is rendered,
or the one for all other cases. -/
theorem renderNode_plural_of_not_isExactFor (hnumbers : HasDistinctNumbers (Entries.keys arms))
    (hv : require name values = .ok v) (hx : toDecimal name v = .ok x)
    (hs : ∀ s ∈ Entries.keys arms, ¬ IsExactFor x s) :
    renderNode l currency values pound (.plural name offset ordinal arms) =
      (x.sub (.ofInt offset)).mapError .decimal >>= fun r =>
        ((rulesOf l ordinal).categoryOf r).mapError .plural >>= fun c =>
          renderArm l currency values (some r) (orOther (Entries.keys arms) c.name) arms := by
  rw [renderNode, hv]
  simp only [hx, choosePlural_of_not_isExactFor hnumbers hs]
  cases x.sub (.ofInt offset) with
  | error e => rfl
  | ok r =>
    simp only [Except.mapError, bind, Except.bind]
    cases (rulesOf l ordinal).categoryOf r <;> rfl

end Rendering

/-! ## Parsed messages -/

/-- Whether the exact selectors of every plural argument stand for different numbers. -/
def HaveDistinctNumbers (nodes : List Node) : Prop :=
  ∀ name offset ordinal arms, .plural name offset ordinal arms ∈ everyNode nodes →
    HasDistinctNumbers (Entries.keys arms)

/-- The arms of a message that was parsed can be told apart if its exact selectors can. -/
theorem hasDistinctArms_of_parse {source : String} {nodes : List Node}
    (hparse : parse source = .ok nodes) (hnumbers : HaveDistinctNumbers nodes) :
    ∀ n ∈ everyNode nodes, n.HasDistinctArms := by
  intro n hn
  obtain ⟨rest, hmessage⟩ := parse_eq_ok_iff.1 hparse
  have hwf := (message_sound maxNesting false false source.toList nodes rest hmessage).wellFormed
  obtain ⟨b, hb⟩ := exists_isWellFormed false nodes hwf hn
  cases n with
  | select name arms =>
    rw [Node.IsWellFormed] at hb
    exact hb.2.1.nodup
  | plural name offset ordinal arms =>
    rw [Node.IsWellFormed] at hb
    exact ⟨hb.2.1.nodup, hnumbers name offset ordinal arms hn⟩
  | _ => trivial

/-- A message that was parsed renders alike with its arms in any order, at any depth, or fails for
the same reason, if its exact selectors stand for different numbers. The arm for the number itself
is rendered if there is one, wherever it stands, and else the arm for the category of the number
without its offset. -/
theorem render_rearranged {source : String} {nodes others : List Node}
    (hparse : parse source = .ok nodes) (hnumbers : HaveDistinctNumbers nodes)
    (h : AreRearranged nodes others) (l : Locale) (currency : Option String) (values : Bundle) :
    Template.render ⟨others, l, currency⟩ values = Template.render ⟨nodes, l, currency⟩ values ∧
      ∀ name offset ordinal arms, .plural name offset ordinal arms ∈ everyNode nodes →
        ∀ (pound : Option Decimal) (v : Value) (x : Decimal),
        require name values = .ok v → toDecimal name v = .ok x →
        (∀ s branch, (s, branch) ∈ arms → IsExactFor x s →
          renderNode l currency values pound (.plural name offset ordinal arms) =
            (x.sub (.ofInt offset)).mapError .decimal >>= fun r =>
              renderNodes l currency values (some r) branch) ∧
        ((∀ s ∈ Entries.keys arms, ¬ IsExactFor x s) →
          renderNode l currency values pound (.plural name offset ordinal arms) =
            (x.sub (.ofInt offset)).mapError .decimal >>= fun r =>
              ((rulesOf l ordinal).categoryOf r).mapError .plural >>= fun c =>
                renderArm l currency values (some r) (orOther (Entries.keys arms) c.name)
                  arms) := by
  have hdistinct := hasDistinctArms_of_parse hparse hnumbers
  refine ⟨renderNodes_rearranged l currency values none nodes others h hdistinct, ?_⟩
  intro name offset ordinal arms hnode pound v x hv hx
  obtain ⟨hnodup, hselectors⟩ := hdistinct _ hnode
  exact ⟨fun s branch hbranch hs =>
      renderNode_plural_of_isExactFor hnodup hselectors hv hx hbranch hs,
    renderNode_plural_of_not_isExactFor hselectors hv hx⟩

/-- A message with an offset, arms for numbers and for categories, and a choice in one of them. -/
def partySource : String :=
  "\x7bn, plural, offset:1 =0 \x7bnobody\x7d " ++
    "=1.0 \x7b\x7bwho, select, me \x7bme\x7d other \x7bthem\x7d\x7d\x7d " ++
    "one \x7bone other\x7d other \x7b# others\x7d\x7d"

def personArms : List (String × List Node) := [("me", [.text "me"]), ("other", [.text "them"])]

/-- The arms that are read for the message. -/
def partyArms (person : List (String × List Node)) : List (String × List Node) :=
  [("=0", [.text "nobody"]), ("=1.0", [.select "who" person]), ("one", [.text "one other"]),
    ("other", [.pound, .text " others"])]

theorem parse_partySource :
    parse partySource = .ok [.plural "n" 1 false (partyArms personArms)] := by
  with_unfolding_all rfl

theorem rearranged_party :
    AreRearranged [.plural "n" 1 false (partyArms personArms)]
      [.plural "n" 1 false (partyArms personArms.reverse).reverse] := by
  have hperson : AreRearranged [.select "who" personArms] [.select "who" personArms.reverse] :=
    .cons (.select "who" (.refl _) (List.reverse_perm _).symm) .nil
  have hinside : HaveRearrangedArms (partyArms personArms) (partyArms personArms.reverse) :=
    .cons "=0" (.refl _) (.cons "=1.0" hperson (.refl _))
  exact .cons (.plural "n" 1 false hinside (List.reverse_perm _).symm) .nil

/-- The arm for one person is found behind the one for the category of one, which is that of two
persons without the offset. -/
theorem render_rearranged_party :
    Template.render ⟨[.plural "n" 1 false (partyArms personArms.reverse).reverse], .english, none⟩
        [("n", .int 1), ("who", .text "me")] = .ok "me" ∧
      renderNode .english none [("n", .int 2)] none (.plural "n" 1 false (partyArms personArms)) =
        renderArm .english none [("n", .int 2)] (some (.ofInt 1)) "one" (partyArms personArms) := by
  have hnumbers : HaveDistinctNumbers [.plural "n" 1 false (partyArms personArms)] := by
    intro name offset ordinal arms hmem
    obtain ⟨rfl, rfl, rfl, rfl⟩ : name = "n" ∧ offset = 1 ∧ ordinal = false ∧
        arms = partyArms personArms := by
      simpa [everyNode, Node.everyNode, everyArmNode, partyArms, personArms] using hmem
    decide +kernel
  have hparty := render_rearranged parse_partySource hnumbers rearranged_party .english none
  constructor
  · rw [(hparty _).1]
    decide +kernel
  · have hnode := ((hparty [("n", .int 2)]).2 "n" 1 false (partyArms personArms) (.head _) none
      (.int 2) (.ofInt 2) rfl rfl).2 (by decide +kernel)
    have hsub : (Decimal.ofInt 2).sub (.ofInt (1 : Nat)) = .ok (.ofInt 1) := by decide +kernel
    have hcategory : (rulesOf .english false).categoryOf (.ofInt 1) = .ok .one := by decide +kernel
    rw [hnode, hsub]
    change ((rulesOf .english false).categoryOf (.ofInt 1)).mapError RenderFault.plural >>= _ = _
    rw [hcategory]
    rfl

end Polyglot.Message
