import Mathlib.Data.List.TakeWhile
import Polyglot.Locale.Number
import Polyglot.Proofs.Number.Decimal
import Polyglot.Proofs.Outcome
import Polyglot.Proofs.Text.Parts

/-!
# Patterns without groups

A pattern without commas prints no mark between the digits of a number: its groups are wider than
any number with the digits that fit. What it prints is made of digits, signs, the point, words for
what is not finite, and the texts around the number.
-/
namespace Polyglot.NumberPattern

/-! ## Plain patterns -/

/-- Whether a character of a pattern stands for a unit beside the number. -/
def isUnit (c : Char) : Bool := c == '¤' || c == '%'

/-- Whether the characters are a fraction in a pattern: nothing, or a point with digits. -/
def IsFraction (cs : List Char) : Prop :=
  cs = [] ∨ ∃ ds, cs = '.' :: ds ∧ ∀ c ∈ ds, c = '0' ∨ c = '#'

/-- The text of a pattern without groups: one digit with a fraction, between two texts of units. -/
structure PlainSource where
  front : List Char
  fraction : List Char
  back : List Char
  front_units : ∀ c ∈ front, isUnit c = true
  isFraction : IsFraction fraction
  back_units : ∀ c ∈ back, isUnit c = true

def PlainSource.chars (s : PlainSource) : List Char := s.front ++ '0' :: (s.fraction ++ s.back)

/-- Whether a pattern has no groups, and nothing in it but digits between two texts. -/
structure IsPlain (p : NumberPattern) (front back : List Char) : Prop where
  positive : p.positive = ⟨front, back⟩
  negative : p.negative = ⟨'-' :: front, back⟩
  minWhole : p.minWhole = 1
  groups : p.groups = (wideGroup, wideGroup)
  exponent : p.exponent = none
  significant : p.isSignificant = false

section Parse

variable {front fraction : List Char} {c : Char} (s : PlainSource)

theorem isUnit_iff : isUnit c = true ↔ c = '¤' ∨ c = '%' := by
  simp [isUnit]

theorem mem_of_isFraction (h : IsFraction fraction) (hc : c ∈ fraction) :
    c = '.' ∨ c = '0' ∨ c = '#' := by
  obtain rfl | ⟨ds, rfl, hds⟩ := h
  · cases hc
  · rcases List.mem_cons.1 hc with rfl | hc
    · exact .inl rfl
    · exact .inr (hds c hc)

theorem cutFront_append (hfront : ∀ c ∈ front, isUnit c = true) (cs : List Char) :
    cutFront (front ++ '0' :: cs) = (front, '0' :: cs) := by
  induction front with
  | nil => rfl
  | cons c r ih =>
    have ih := ih fun d hd => hfront d (List.mem_cons_of_mem _ hd)
    rw [cutFront] at ih ⊢
    rcases isUnit_iff.1 (hfront c List.mem_cons_self) with rfl | rfl
    all_goals
      rw [List.cons_append, cutFrontFrom, ih]
      rfl

theorem cutLastPoint_eq (hfraction : IsFraction fraction) :
    ∃ ds, cutLastPoint ('0' :: fraction) = (['0'], ds) := by
  obtain rfl | ⟨ds, rfl, hds⟩ := hfraction
  · exact ⟨[], rfl⟩
  · have hpoint : '.' ∉ ds := fun h => by
      rcases hds _ h with h | h <;> cases h
    refine ⟨ds, ?_⟩
    have hsplit : Text.splitOn '.' (['0'] ++ '.' :: ds) = [['0'], ds] := by
      rw [Text.splitOn_append_cons, Text.splitOn_of_not_mem hpoint]
      rfl
    rw [List.singleton_append] at hsplit
    rw [cutLastPoint, hsplit]
    rfl

namespace PlainSource

/-- The number of the pattern is made of digits and a point. -/
theorem number_cases (hc : c ∈ '0' :: s.fraction) : c = '.' ∨ c = '0' ∨ c = '#' := by
  rcases List.mem_cons.1 hc with rfl | hc
  · exact .inr (.inl rfl)
  · exact mem_of_isFraction s.isFraction hc

theorem chars_cases (hc : c ∈ s.chars) :
    (c = '¤' ∨ c = '%') ∨ c = '.' ∨ c = '0' ∨ c = '#' := by
  rw [chars, ← List.cons_append] at hc
  rcases List.mem_append.1 hc with hc | hc
  · exact .inl (isUnit_iff.1 (s.front_units c hc))
  · rcases List.mem_append.1 hc with hc | hc
    · exact .inr (s.number_cases hc)
    · exact .inl (isUnit_iff.1 (s.back_units c hc))

theorem cutParts_chars : cutParts s.chars = (s.front, '0' :: s.fraction, s.back) := by
  have hnumber : ∀ c ∈ '0' :: s.fraction, isNumberChar c = true := by
    intro c hc
    rcases s.number_cases hc with rfl | rfl | rfl <;> rfl
  have hback : ∀ c ∈ s.back, isNumberChar c = false ∧ decide (c ≠ '\n') = true := by
    intro c hc
    rcases isUnit_iff.1 (s.back_units c hc) with rfl | rfl <;> exact ⟨rfl, rfl⟩
  have hhead (hlen : 0 < s.back.length) : ¬ isNumberChar (s.back.get ⟨0, hlen⟩) = true :=
    Bool.not_eq_true _ ▸ (hback _ (List.get_mem s.back _)).1
  rw [cutParts, chars, cutFront_append s.front_units]
  simp only [← List.cons_append]
  rw [List.takeWhile_append_of_pos hnumber, List.dropWhile_append_of_pos hnumber,
    List.takeWhile_eq_nil_iff.2 hhead, List.dropWhile_eq_self_iff.2 hhead, List.append_nil,
    List.takeWhile_eq_self_iff.2 fun c hc => (hback c hc).2]

/-- The text is a plain pattern. -/
theorem exists_isPlain :
    ∃ p, parse (String.ofList s.chars) = .ok p ∧ p.IsPlain s.front s.back := by
  have hsemicolon : ';' ∉ s.chars := fun h => by simpa using s.chars_cases h
  have hat : '@' ∉ s.chars := fun h => by simpa using s.chars_cases h
  have hmark : 'E' ∉ '0' :: s.fraction := fun h => by simpa using s.number_cases h
  have hsignificant : ('0' :: s.fraction).contains '@' = false := by
    rw [List.contains_eq_mem, decide_eq_false_iff_not]
    exact fun h => by simpa using s.number_cases h
  obtain ⟨ds, hpoint⟩ := cutLastPoint_eq s.isFraction
  rw [parse, String.toList_ofList, Text.cutAt_of_not_mem hsemicolon]
  simp only [s.cutParts_chars, Text.cutAt_of_not_mem hmark, hsignificant, hpoint, Bool.false_and,
    Bool.false_eq_true, if_false]
  exact ⟨_, rfl, rfl, rfl, rfl, rfl, rfl, by simpa [isSignificant] using hat⟩

end PlainSource

end Parse

/-! ## Digits -/

/-- Whether a character is not one that a number is written with: no digit, no sign, and in no word
or symbol of a number. -/
def IsForeign (symbols : NumberSymbols) (c : Char) : Prop :=
  c ∉ "0123456789-sNaN".toList ++ symbols.point.toList ++ symbols.infinity.toList

instance (symbols : NumberSymbols) (c : Char) : Decidable (IsForeign symbols c) :=
  inferInstanceAs (Decidable (c ∉ _))

section Digits

variable {symbols : NumberSymbols} {m : Char} {cs : List Char}

theorem IsForeign.not_mem_digits (hm : IsForeign symbols m) : m ∉ "0123456789-sNaN".toList :=
  fun h => hm (List.mem_append_left _ (List.mem_append_left _ h))

theorem IsForeign.not_mem_point (hm : IsForeign symbols m) : m ∉ symbols.point.toList :=
  fun h => hm (List.mem_append_left _ (List.mem_append_right _ h))

theorem IsForeign.not_mem_infinity (hm : IsForeign symbols m) : m ∉ symbols.infinity.toList :=
  fun h => hm (List.mem_append_right _ h)

theorem IsForeign.not_mem_natDigits (hm : IsForeign symbols m) (n : Nat) :
    m ∉ Text.natDigits n := by
  intro h
  obtain ⟨d, rfl⟩ := Text.exists_of_mem_natDigits h
  have hall : ∀ k < 10, Char.ofNat (48 + k) ∈ "0123456789-sNaN".toList := by decide
  exact hm.not_mem_digits (hall (d % 10) (Nat.mod_lt _ (by decide)))

theorem IsForeign.ne_zero (hm : IsForeign symbols m) : m ≠ '0' := by
  rintro rfl
  exact hm.not_mem_digits (by decide)

theorem IsForeign.not_mem_zeros (hm : IsForeign symbols m) (n : Nat) : m ∉ List.replicate n '0' :=
  fun h => hm.ne_zero (List.eq_of_mem_replicate h)

theorem IsForeign.not_mem_padZeros (hm : IsForeign symbols m) (h : m ∉ cs) (width : Nat) :
    m ∉ Text.padZeros width cs := by
  simp [Text.padZeros, h, hm.not_mem_zeros]

/-- What a number is written with in front of the point and behind it. -/
structure IsWritten (symbols : NumberSymbols) (whole fraction : List Char) : Prop where
  front : ∀ c, IsForeign symbols c → c ∉ whole
  back : ∀ c, IsForeign symbols c → c ∉ fraction
  length : whole.length < wideGroup

theorem length_fixedParts_le (c n : Nat) :
    (Decimal.fixedParts c (-Int.ofNat n)).1.length ≤ Decimal.width c := by
  have hpos := Decimal.width_pos c
  simp only [Decimal.fixedParts]
  split
  · rename_i hn
    have hzero : (-Int.ofNat n).toNat = 0 := by
      rw [Int.ofNat_eq_natCast] at hn ⊢
      omega
    rw [hzero, List.replicate_zero, List.append_nil, ite_self, Decimal.width]
  · rw [List.length_take, Text.length_padZeros]
    rw [Decimal.width] at hpos ⊢
    omega

theorem IsForeign.not_mem_fixedParts (hm : IsForeign symbols m) (c : Nat) (e : Int) :
    m ∉ (Decimal.fixedParts c e).1 ∧ m ∉ (Decimal.fixedParts c e).2 := by
  have hdigits := hm.not_mem_natDigits c
  simp only [Decimal.fixedParts]
  split
  · split
    · exact ⟨hdigits, List.not_mem_nil⟩
    · exact ⟨fun h => (List.mem_append.1 h).elim hdigits (hm.not_mem_zeros _),
        List.not_mem_nil⟩
  · have hpadded := hm.not_mem_padZeros hdigits ((-e).toNat + 1)
    exact ⟨fun h => hpadded (List.mem_of_mem_take h), fun h => hpadded (List.mem_of_mem_drop h)⟩

theorem isWritten_nan (negative : Bool) {payload : Nat}
    (h : payload < 10 ^ Decimal.precision) :
    IsWritten symbols (Decimal.nan negative false payload).text.toList [] := by
  have hdigits : ∀ c, IsForeign symbols c → c ∉ Decimal.payloadText payload := by
    intro c hc
    rw [Decimal.payloadText]
    split
    · exact List.not_mem_nil
    · exact hc.not_mem_natDigits payload
  have hlength : (Decimal.payloadText payload).length ≤ Decimal.precision := by
    rw [Decimal.payloadText]
    split
    · exact Nat.zero_le _
    · exact (Decimal.width_le_iff (by decide)).2 h
  have hprecision : Decimal.precision + 4 < wideGroup := by decide
  rw [Decimal.text, String.toList_ofList]
  refine ⟨fun c hc => ?_, fun c _ => List.not_mem_nil, ?_⟩
  · have hword := hc.not_mem_digits
    have hpayload := hdigits c hc
    cases negative <;> simp_all
  · have hsign : (if negative then ['-'] else []).length ≤ 1 := by cases negative <;> decide
    rw [List.length_append, List.length_append]
    change _ + 3 + _ < _
    omega

theorem isWritten_finite (negative : Bool) {c places : Nat}
    (h : Decimal.width c ≤ Decimal.precision) :
    IsWritten symbols (digitParts (.finite negative c (-Int.ofNat places))).1
      (digitParts (.finite negative c (-Int.ofNat places))).2 := by
  have hlength := length_fixedParts_le c places
  have hprecision : Decimal.precision + 1 < wideGroup := by decide
  refine ⟨fun d hd => ?_, fun d hd => (hd.not_mem_fixedParts c _).2, ?_⟩
  · have hdigits := (hd.not_mem_fixedParts c (-Int.ofNat places)).1
    have hsign : d ≠ '-' := by
      rintro rfl
      exact hd.not_mem_digits (by decide)
    cases negative <;> simp_all [digitParts]
  · cases negative
    · change (Decimal.fixedParts c (-Int.ofNat places)).1.length < _
      omega
    · change (Decimal.fixedParts c (-Int.ofNat places)).1.length + 1 < _
      omega

/-- A number that was rounded to some places is written with few digits in front of the point. -/
theorem isWritten_digitParts {x y : Decimal} {places : Nat} (h : x.quantize places = .ok y) :
    IsWritten symbols (digitParts y).1 (digitParts y).2 := by
  cases x with
  | infinity => cases h
  | nan negative signaling payload =>
    cases signaling with
    | true => cases h
    | false =>
      cases h
      exact isWritten_nan negative (Nat.mod_lt _ (by decide))
  | finite negative c e =>
    simp only [Decimal.quantize] at h
    split at h
    · cases h
    · split at h
      · cases h
      · rename_i hwidth
        cases h
        exact isWritten_finite negative (Nat.not_lt.1 hwidth)

end Digits

/-! ## Texts -/

section Texts

variable {p : NumberPattern} {symbols : NumberSymbols} {m : Char} {front back cs : List Char}
  {least most : Nat} {x : Decimal}

/-- Digits that fit into one group are left alone. -/
theorem group_eq_self (mark : String) (h : cs.length ≤ wideGroup) :
    group (wideGroup, wideGroup) mark cs = cs := by
  rw [group, groupReversed, List.length_reverse, if_pos h, List.reverse_reverse]

theorem IsForeign.not_mem_fractionText (hm : IsForeign symbols m) (h : m ∉ cs) :
    m ∉ fractionText least most symbols.point cs := by
  have hfilled : m ∉ cs ++ List.replicate (least - cs.length) '0' :=
    fun hmem => (List.mem_append.1 hmem).elim h (hm.not_mem_zeros _)
  simp only [fractionText]
  split
  · exact List.not_mem_nil
  · intro hmem
    rcases List.mem_append.1 hmem with hmem | hmem
    · exact hm.not_mem_point hmem
    rcases List.mem_append.1 hmem with hmem | hmem
    · exact hfilled (List.mem_of_mem_take hmem)
    · rw [List.mem_reverse] at hmem
      have hkept := (List.dropWhile_sublist _).subset hmem
      exact hfilled (List.mem_of_mem_drop (List.mem_reverse.1 hkept))

theorem IsPlain.not_mem_numberText (hp : p.IsPlain front back) (hm : IsForeign symbols m)
    (h : p.numberText symbols least most x = .ok cs) : m ∉ cs := by
  rw [numberText] at h
  split at h
  · cases h
    exact hm.not_mem_infinity
  · split at h
    · cases h
    · rename_i rounded hrounded
      have hwritten : IsWritten symbols _ _ := isWritten_digitParts hrounded
      generalize digitParts rounded = parts at h hwritten
      obtain ⟨whole, fraction⟩ := parts
      cases h
      have hlength : (Text.padZeros 1 whole).length ≤ wideGroup := by
        rw [Text.length_padZeros]
        exact Nat.max_le.2 ⟨by decide, Nat.le_of_lt hwritten.length⟩
      rw [wholeText, hp.minWhole, hp.groups, group_eq_self _ hlength]
      intro hmem
      rcases List.mem_append.1 hmem with hmem | hmem
      · exact hm.not_mem_padZeros (hwritten.front m hm) 1 hmem
      · refine hm.not_mem_fractionText ?_ hmem
        split
        · exact fun hzero => hm.ne_zero (List.mem_singleton.1 hzero)
        · exact hwritten.back m hm

theorem IsPlain.not_mem_absoluteText (hp : p.IsPlain front back) (hm : IsForeign symbols m)
    {places : Places} (h : p.absoluteText symbols places x = .ok cs) : m ∉ cs := by
  simp only [absoluteText, hp.exponent] at h
  obtain ⟨⟨least, most⟩, -, htext⟩ := Outcome.bind_eq_ok_iff.1 h
  rw [hp.significant] at htext
  exact hp.not_mem_numberText hm htext

theorem mem_of_mem_unquoteFrom {q : Quoting} {c : Char} (h : c ∈ unquoteFrom q cs) : c ∈ cs := by
  fun_induction unquoteFrom q cs <;> simp_all
  all_goals tauto

/-- A plain pattern prints no character but those that numbers are written with, those of its texts
and those of the currency. -/
theorem IsPlain.not_mem_apply (hp : p.IsPlain front back) (hm : IsForeign symbols m)
    (hfront : m ∉ front) (hback : m ∉ back) {currency : Option String}
    (hcurrency : ∀ s, currency = some s → m ∉ s.toList) {places : Places} {text : String}
    (h : p.apply symbols places currency x = .ok text) : m ∉ text.toList := by
  simp only [apply] at h
  obtain ⟨y, -, h⟩ := Outcome.bind_eq_ok_iff.1 h
  obtain ⟨a, -, h⟩ := Outcome.bind_eq_ok_iff.1 h
  obtain ⟨n, -, h⟩ := Outcome.bind_eq_ok_iff.1 h
  obtain ⟨number, hnumber, h⟩ := Outcome.bind_eq_ok_iff.1 h
  rw [hp.positive, hp.negative] at h
  have hnumber := hp.not_mem_absoluteText hm hnumber
  have hsign : m ≠ '-' := by
    rintro rfl
    exact hm.not_mem_digits (by decide)
  have htext (negative : Bool) :
      let affixes := if negative then ⟨'-' :: front, back⟩ else (⟨front, back⟩ : Affixes)
      m ∉ affixes.front ++ (if p.hasNumber then number else []) ++ affixes.back := by
    cases negative <;> cases p.hasNumber <;> simp_all
  obtain rfl := Except.ok.inj h
  rw [String.toList_ofList]
  intro hmem
  have hmem := mem_of_mem_unquoteFrom hmem
  cases currency with
  | none => exact htext _ hmem
  | some s =>
    obtain ⟨c, hc, hmem⟩ := List.mem_flatMap.1 hmem
    split at hmem
    · exact hcurrency s rfl hmem
    · rw [← List.mem_singleton.1 hmem] at hc
      exact htext _ hc

end Texts

end Polyglot.NumberPattern
