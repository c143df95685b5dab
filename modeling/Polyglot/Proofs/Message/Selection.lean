import Polyglot.Proofs.Locale.PluralRule
import Polyglot.Proofs.Message.Rendering

/-!
# Arms for numbers

An exact selector is compared with a number when the search for an arm comes to it. The parser takes
any word for one that begins with a sign of equality, and where no number follows that sign the
comparison fails. Otherwise an arm is found for every finite number, unless the number is too large
for the offset to be taken off or for a rule of the language.
-/
namespace Polyglot.Message

variable {x : Decimal} {s : String} {ss : List String}

/-! ## Exact selectors -/

/-- Whether an exact selector can be compared with finite numbers: it has a number, and one that
does not signal. -/
def IsComparable (s : String) : Prop :=
  ∀ cs ∈ exactNumber? s, ∃ d ∈ Decimal.read? cs, d.signals = false

instance (s : String) : Decidable (IsComparable s) :=
  inferInstanceAs (Decidable (∀ cs ∈ exactNumber? s, ∃ d ∈ Decimal.read? cs, d.signals = false))

/-- Whether a selector is an exact one for a number. -/
def HasNumber (x : Decimal) (s : String) : Prop :=
  ∃ cs ∈ exactNumber? s, ∃ d ∈ Decimal.read? cs, d.equal x = .ok true

instance (x : Decimal) (s : String) : Decidable (HasNumber x s) :=
  inferInstanceAs
    (Decidable (∃ cs ∈ exactNumber? s, ∃ d ∈ Decimal.read? cs, d.equal x = .ok true))

theorem cutMinus_cases (cs : List Char) : (cutMinus cs).1 = [] ∨ (cutMinus cs).1 = ['-'] := by
  unfold cutMinus
  split
  · exact .inr rfl
  · exact .inl rfl

theorem cutFraction_cases (cs : List Char) :
    (cutFraction cs).1 = [] ∨
      ∃ t, (cutFraction cs).1 = '.' :: t ∧ ∀ c ∈ t, Text.isDigit c = true := by
  unfold cutFraction
  split
  · split
    · exact .inl rfl
    · exact .inr ⟨_, rfl, fun c hc => List.mem_takeWhile_imp hc⟩
  · exact .inl rfl

/-- A selector that is read as an exact one can be compared. -/
theorem isComparable_of_exactSelector? (h : exactSelector? s.toList = some (s.toList, []))
    (hlength : s.length ≤ 10 ^ 18) : IsComparable s := by
  intro cs hcs
  rw [Option.mem_def, exactNumber?] at hcs
  split at hcs
  · rename_i r hs
    cases hcs
    rw [hs, exactSelector?] at h
    split at h
    · cases h
    · rename_i hwhole
      obtain ⟨hr, -⟩ := Prod.mk.inj (Option.some.inj h)
      rw [List.cons_inj_right, List.append_assoc] at hr
      rw [← String.length_toList, hs, List.length_cons, ← hr, List.length_append] at hlength
      obtain ⟨n, c, e, hread⟩ := Decimal.read?_eq_finite (cutMinus_cases cs)
        (List.isEmpty_iff.not.1 hwhole) (fun c hc => List.mem_takeWhile_imp hc)
        (cutFraction_cases ((cutMinus cs).2.dropWhile Text.isDigit)) (by omega)
      rw [hr] at hread
      exact ⟨_, hread, rfl⟩
  · cases hcs

/-- A selector that begins with a sign of equality is a number behind it, or no number is there. -/
theorem IsSelector.exactSelector?_cases (h : IsSelector s) :
    exactSelector? s.toList = some (s.toList, []) ∨ exactSelector? s.toList = none := by
  have hwhole := h.whole
  rw [cutSelector] at hwhole
  cases hexact : exactSelector? s.toList with
  | none => exact .inr rfl
  | some p =>
    rw [hexact] at hwhole
    exact .inl (congrArg some hwhole)

/-! ## The search for an exact selector -/

/-- Whether the search for a number comes to a selector: those before it can be compared, and none
of them has that number. -/
inductive ComesTo (x : Decimal) : List String → String → Prop
  | here (s : String) (ss : List String) : ComesTo x (s :: ss) s
  | there {s : String} {ss : List String} {t : String} (hs : IsComparable s)
      (hne : ¬HasNumber x s) (h : ComesTo x ss t) : ComesTo x (s :: ss) t

/-- What the search does at a selector: it fails, it ends, or it goes on. -/
theorem findExact_cons_cases (hx : x.isFinite = true) (s : String) (ss : List String) :
    (¬IsComparable s ∧ ∃ f, findExact x (s :: ss) = .error f) ∨
    (IsComparable s ∧ HasNumber x s ∧ findExact x (s :: ss) = .ok (some s)) ∨
    (IsComparable s ∧ ¬HasNumber x s ∧ findExact x (s :: ss) = findExact x ss) := by
  rw [findExact, IsComparable, HasNumber]
  cases exactNumber? s with
  | none => simp
  | some cs =>
    cases hread : Decimal.read? cs with
    | none => simp [hread]
    | some d =>
      rcases Decimal.equal_cases hx d with ⟨hd, he⟩ | ⟨hd, b, he⟩
      · simp [hread, hd, he]
      · cases b <;> simp [hread, hd, he]

theorem exists_findExact_eq_error_iff (hx : x.isFinite = true) :
    (∃ f, findExact x ss = .error f) ↔ ∃ s, ComesTo x ss s ∧ ¬IsComparable s := by
  induction ss with
  | nil =>
    constructor
    · rintro ⟨f, hf⟩
      cases hf
    · rintro ⟨s, hs, -⟩
      cases hs
  | cons s ss ih =>
    rcases findExact_cons_cases hx s ss with ⟨hs, hf⟩ | ⟨hs, hnumber, hf⟩ | ⟨hs, hnumber, hf⟩
    · exact ⟨fun _ => ⟨s, .here s ss, hs⟩, fun _ => hf⟩
    · rw [hf]
      constructor
      · rintro ⟨f, hf⟩
        cases hf
      · rintro ⟨t, ht, hstop⟩
        cases ht with
        | here => exact absurd hs hstop
        | there _ hne _ => exact absurd hnumber hne
    · rw [hf, ih]
      constructor
      · rintro ⟨t, ht, hstop⟩
        exact ⟨t, .there hs hnumber ht, hstop⟩
      · rintro ⟨t, ht, hstop⟩
        cases ht with
        | here => exact absurd hs hstop
        | there _ _ ht => exact ⟨t, ht, hstop⟩

theorem findExact_eq_none_iff (hx : x.isFinite = true) :
    findExact x ss = .ok none ↔ ∀ s ∈ ss, IsComparable s ∧ ¬HasNumber x s := by
  induction ss with
  | nil => simp [findExact]
  | cons s ss ih =>
    rw [List.forall_mem_cons, ← ih]
    rcases findExact_cons_cases hx s ss with ⟨hs, f, hf⟩ | ⟨hs, hnumber, hf⟩ | ⟨hs, hnumber, hf⟩
    · simp [hf, hs]
    · simp [hf, hs, hnumber]
    · simp [hf, hs, hnumber]

/-! ## The choice of an arm -/

/-- The rules that give the category of a number in a locale. -/
def rulesOf (l : Locale) (ordinal : Bool) : PluralRules :=
  if ordinal then l.data.ordinal else l.data.plural

theorem exists_choosePlural_eq_error_iff (l : Locale) (offset : Nat) (ordinal : Bool)
    (hx : x.isFinite = true) :
    (∃ f, choosePlural l offset ordinal ss x = .error f) ↔
      (∃ s, ComesTo x ss s ∧ ¬IsComparable s) ∨
      x.sub (Decimal.ofInt offset) = .error .overflow ∨
      (∀ s ∈ ss, IsComparable s ∧ ¬HasNumber x s) ∧
        ∃ r f, x.sub (Decimal.ofInt offset) = .ok r ∧
          (rulesOf l ordinal).categoryOf r = .error f := by
  rw [← exists_findExact_eq_error_iff hx, ← findExact_eq_none_iff hx]
  have hsub := Decimal.isRounded_sub hx (y := Decimal.ofInt offset) rfl
  rw [choosePlural]
  cases hfind : findExact x ss with
  | error f => simp
  | ok found =>
    rcases hsub with hsub | ⟨negative, c, e, hsub, -⟩
    · rw [hsub]
      cases found <;> simp [Except.mapError, Except.map]
    · rw [hsub]
      cases found with
      | some s => simp [Except.mapError, Except.map]
      | none =>
        rw [← rulesOf]
        cases hcategory : (rulesOf l ordinal).categoryOf (.finite negative c e) <;> simp [hcategory]

/-- A number without its offset has a category, unless it overruns a rule of the language. -/
theorem overrun_of_categoryOf_sub {l : Locale} {offset : Nat} {ordinal : Bool} {r : Decimal}
    {f : PluralFault} (hx : x.isFinite = true) (hsub : x.sub (Decimal.ofInt offset) = .ok r)
    (h : (rulesOf l ordinal).categoryOf r = .error f) :
    ∃ negative c e, r = .finite negative c e ∧
      (rulesOf l ordinal).Overrun (Decimal.wholeAbs c e) := by
  rcases Decimal.isRounded_sub hx (y := Decimal.ofInt offset) rfl with
    herror | ⟨negative, c, e, hok, hfits⟩
  · rw [herror] at hsub
    cases hsub
  · cases hsub.symm.trans hok
    exact ⟨negative, c, e, rfl, PluralRules.overrun_of_categoryOf hfits h⟩

/-- In a message that was parsed, a selector with a sign of equality in front is an exact one, which
can be compared with every number, or there is no number behind that sign. Choosing an arm for a
finite number fails in three cases only: the search comes to a selector that cannot be compared, the
number without the offset is too large, or it overruns a rule of the language. -/
theorem choosePlural_fails_iff {source : String} {nodes : List Node}
    (hparse : parse source = .ok nodes) {name : String} {offset : Nat} {ordinal : Bool}
    {arms : List (String × List Node)}
    (hnode : Node.plural name offset ordinal arms ∈ everyNode nodes) :
    (∀ s ∈ Entries.keys arms, s.toList.head? = some '=' →
      exactSelector? s.toList = some (s.toList, []) ∧ (s.length ≤ 10 ^ 18 → IsComparable s) ∨
        exactSelector? s.toList = none) ∧
    ∀ (l : Locale) (x : Decimal), x.isFinite = true →
      ((∃ f, choosePlural l offset ordinal (Entries.keys arms) x = .error f) ↔
        (∃ s, ComesTo x (Entries.keys arms) s ∧ ¬IsComparable s) ∨
        x.sub (Decimal.ofInt offset) = .error .overflow ∨
        (∀ s ∈ Entries.keys arms, IsComparable s ∧ ¬HasNumber x s) ∧
          ∃ r f, x.sub (Decimal.ofInt offset) = .ok r ∧
            (rulesOf l ordinal).categoryOf r = .error f) ∧
      ∀ r f, x.sub (Decimal.ofInt offset) = .ok r → (rulesOf l ordinal).categoryOf r = .error f →
        ∃ negative c e, r = .finite negative c e ∧
          (rulesOf l ordinal).Overrun (Decimal.wholeAbs c e) := by
  constructor
  · intro s hs _
    obtain ⟨rest, hmessage⟩ := parse_eq_ok_iff.1 hparse
    have hwf := (message_sound maxNesting false false source.toList nodes rest hmessage).wellFormed
    obtain ⟨b, hb⟩ := exists_isWellFormed false nodes hwf hnode
    have hselector : IsSelector s := hb.isSelector hs
    exact hselector.exactSelector?_cases.imp_left fun h =>
      ⟨h, isComparable_of_exactSelector? h⟩
  · intro l x hx
    exact ⟨exists_choosePlural_eq_error_iff l offset ordinal hx,
      fun r f hsub h => overrun_of_categoryOf_sub hx hsub h⟩

/-- A choice with a word behind a sign of equality. -/
def wordSource : String :=
  "\x7bn, plural, =0 \x7bnone\x7d =abc \x7bx\x7d other \x7by\x7d\x7d"

def wordArms : List (String × List Node) :=
  [("=0", [.text "none"]), ("=abc", [.text "x"]), ("other", [.text "y"])]

theorem parse_wordSource : parse wordSource = .ok [.plural "n" 0 false wordArms] := by
  with_unfolding_all rfl

theorem mem_everyNode_word :
    Node.plural "n" 0 false wordArms ∈ everyNode [.plural "n" 0 false wordArms] := by
  simp [everyNode, Node.everyNode]

/-- The search does not come to the word for zero, and it fails there for five. -/
theorem choosePlural_fails_word :
    (¬∃ f, choosePlural .english 0 false (Entries.keys wordArms) (.ofInt 0) = .error f) ∧
      ∃ f, choosePlural .english 0 false (Entries.keys wordArms) (.ofInt 5) = .error f := by
  have h := (choosePlural_fails_iff parse_wordSource mem_everyNode_word).2 .english
  constructor
  · rw [(h (.ofInt 0) rfl).1]
    rintro (⟨s, hs, hstop⟩ | hsub | ⟨hselectors, -⟩)
    · cases hs with
      | here => exact absurd hstop (by decide +kernel)
      | there _ hne _ => exact absurd hne (by decide +kernel)
    · revert hsub
      decide +kernel
    · revert hselectors
      decide +kernel
  · rw [(h (.ofInt 5) rfl).1]
    refine .inl ⟨"=abc", .there ?_ ?_ (.here _ _), ?_⟩ <;> decide +kernel

/-- An accepted message can hold a selector with which no number can be compared. -/
theorem not_forall_choosePlural :
    ¬∀ (source : String) (nodes : List Node) (name : String) (offset : Nat) (ordinal : Bool)
      (arms : List (String × List Node)) (l : Locale) (x : Decimal),
      parse source = .ok nodes → Node.plural name offset ordinal arms ∈ everyNode nodes →
        x.isFinite = true → ∃ p, choosePlural l offset ordinal (Entries.keys arms) x = .ok p := by
  intro h
  obtain ⟨p, hp⟩ := h wordSource _ "n" 0 false wordArms .english (.ofInt 5) parse_wordSource
    mem_everyNode_word rfl
  have hfail : (choosePlural .english 0 false (Entries.keys wordArms) (.ofInt 5)).toBool =
      false := by
    decide +kernel
  rw [hp] at hfail
  cases hfail

end Polyglot.Message
