import Mathlib.Data.List.TakeWhile
import Polyglot.Number.Decimal
import Polyglot.Proofs.Text.Digit

/-!
# Rounded decimal numbers

A finite number is rounded to one that fits, and one that fits is left as it is. Sums and
differences of finite numbers are rounded at the end, so that they fail for one reason only: the
result is too large.
-/
namespace Polyglot

theorem divHalfEven_le (num den : Nat) : divHalfEven num den ≤ num / den + 1 := by
  simp only [divHalfEven]
  split
  · omega
  · split
    · omega
    · split <;> omega

namespace Decimal

/-! ## Numbers that fit -/

/-- Whether a number needs no rounding: it has few enough digits, and its exponents are within
the limits. -/
structure Fits (coefficient : Nat) (exponent : Int) : Prop where
  digits : width coefficient ≤ precision
  scale : minScale ≤ exponent
  top : adjusted coefficient exponent ≤ maxExponent

variable {c : Nat} {e target : Int} {x y : Decimal}

theorem width_le_iff {n k : Nat} (hk : 0 < k) : width n ≤ k ↔ n < 10 ^ k :=
  Text.length_natDigits_le_iff hk

theorem width_zero : width 0 = 1 := by
  rw [width, Text.natDigits]
  rfl

theorem width_pos (n : Nat) : 0 < width n :=
  List.length_pos_iff.2 (Text.natDigits_ne_nil n)

/-- A number that fits is not changed. -/
theorem Fits.fix_eq (h : Fits c e) (s : Bool) : fix s c e = .ok (.finite s c e) := by
  obtain ⟨hdigits, hscale, htop⟩ := h
  rw [adjusted] at htop
  by_cases hc : c = 0
  · subst hc
    rw [width_zero] at htop
    have hexponent : min (max e minScale) maxExponent = e := by
      have : Int.ofNat 1 = 1 := rfl
      omega
    rw [fix, if_pos rfl, hexponent]
  · have htarget :
        max (e + (Int.ofNat (width c) - Int.ofNat precision)) minScale ≤ e := by
      have : Int.ofNat (width c) ≤ Int.ofNat precision := Int.ofNat_le.2 hdigits
      omega
    rw [fix, if_neg hc]
    simp only [if_pos htarget, if_neg (Int.not_lt.2 htop)]

/-- Rounding away digits leaves as many as fit, or a power of ten with one digit more. -/
theorem rescale_le (hlow : e < target)
    (hdigits : e + (Int.ofNat (width c) - Int.ofNat precision) ≤ target) :
    rescale c e target ≤ 10 ^ precision := by
  rw [rescale, if_neg (Int.not_le.2 hlow)]
  simp only [Nat.pow_eq]
  generalize hdrop : (target - e).toNat = drop
  split
  · exact Nat.zero_le _
  · have hwidth : width c ≤ drop + precision := by
      simp only [Int.ofNat_eq_natCast] at hdigits
      omega
    have hbound : c < 10 ^ precision * 10 ^ drop := by
      rw [← Nat.pow_add, Nat.add_comm precision drop]
      have hpos : 0 < drop + precision := Nat.add_pos_right drop (by decide)
      exact (width_le_iff hpos).1 hwidth
    have hquotient : c / 10 ^ drop < 10 ^ precision :=
      (Nat.div_lt_iff_lt_mul (Nat.pow_pos (by decide))).2 hbound
    exact Nat.le_trans (divHalfEven_le c (10 ^ drop)) hquotient

theorem fits_or_overflow (s : Bool) {n : Nat} {k : Int} (hdigits : width n ≤ precision)
    (hscale : minScale ≤ k) :
    let limited : Except DecimalFault Decimal :=
      if maxExponent < k + Int.ofNat (width n) - 1 then .error .overflow else .ok (.finite s n k)
    limited = .error .overflow ∨ ∃ m j, limited = .ok (.finite s m j) ∧ Fits m j := by
  simp only
  split
  · exact .inl rfl
  · rename_i htop
    exact .inr ⟨n, k, rfl, hdigits, hscale, Int.not_lt.1 htop⟩

/-- Rounding overflows, or it yields a number that fits. -/
theorem fix_cases (s : Bool) (c : Nat) (e : Int) :
    fix s c e = .error .overflow ∨ ∃ n k, fix s c e = .ok (.finite s n k) ∧ Fits n k := by
  by_cases hc : c = 0
  · refine .inr ⟨0, min (max e minScale) maxExponent, by rw [fix, if_pos hc], ?_⟩
    have hlimits : minScale ≤ maxExponent := by decide
    constructor
    · rw [width_zero]
      decide
    · omega
    · rw [adjusted, width_zero]
      have : Int.ofNat 1 = 1 := rfl
      omega
  · rw [fix, if_neg hc]
    generalize htarget : max (e + (Int.ofNat (width c) - Int.ofNat precision)) minScale = target
    simp only
    by_cases hexact : target ≤ e
    · rw [if_pos hexact]
      refine fits_or_overflow s ?_ (by omega)
      have hwidth : Int.ofNat (width c) ≤ Int.ofNat precision := by omega
      exact Int.ofNat_le.1 hwidth
    · rw [if_neg hexact]
      have hbound : rescale c e target ≤ 10 ^ precision := rescale_le (by omega) (by omega)
      by_cases hwide : precision < width (rescale c e target)
      · rw [if_pos hwide]
        refine fits_or_overflow s ?_ (by omega)
        rw [width_le_iff (by decide)]
        exact Nat.lt_of_le_of_lt (Nat.div_le_div_right hbound) (by decide)
      · rw [if_neg hwide]
        exact fits_or_overflow s (Nat.not_lt.1 hwide) (by omega)

/-! ## Sums -/

/-- Whether a result overflows or is a finite number that fits. -/
def IsRounded (r : Except DecimalFault Decimal) : Prop :=
  r = .error .overflow ∨ ∃ s n k, r = .ok (.finite s n k) ∧ Fits n k

theorem isRounded_fix (s : Bool) (c : Nat) (e : Int) : IsRounded (fix s c e) := by
  rcases fix_cases s c e with h | ⟨n, k, h, hfits⟩
  · exact .inl h
  · exact .inr ⟨s, n, k, h, hfits⟩

theorem isRounded_addFinite (a : Bool) (c : Nat) (d : Int) (b : Bool) (n : Nat) (e : Int) :
    IsRounded (addFinite a c d b n e) := by
  simp only [addFinite]
  repeat' split
  all_goals exact isRounded_fix _ _ _

theorem isRounded_add (a : Bool) (c : Nat) (d : Int) (b : Bool) (n : Nat) (e : Int) :
    IsRounded (add (.finite a c d) (.finite b n e)) := by
  simp only [add]
  split
  · exact isRounded_fix _ _ _
  · split
    · exact isRounded_fix _ _ _
    · split
      · exact isRounded_fix _ _ _
      · exact isRounded_addFinite _ _ _ _ _ _

/-- The difference of finite numbers overflows, or it is a finite number that fits. -/
theorem isRounded_sub (hx : x.isFinite = true) (hy : y.isFinite = true) :
    IsRounded (x.sub y) := by
  cases x <;> cases hx
  cases y <;> cases hy
  exact isRounded_add _ _ _ _ _ _

/-- A number that fits has an absolute value. -/
theorem Fits.abs_eq (h : Fits c e) (s : Bool) : abs (.finite s c e) = .ok (.finite false c e) :=
  h.fix_eq false

/-! ## Equality -/

def signals : Decimal → Bool
  | nan _ signaling _ => signaling
  | _ => false

/-- A signaling number cannot be compared with a finite one, and every other number can. -/
theorem equal_cases (hx : x.isFinite = true) (d : Decimal) :
    d.signals = true ∧ d.equal x = .error .invalid ∨
      d.signals = false ∧ ∃ b, d.equal x = .ok b := by
  cases x <;> cases hx
  cases d with
  | nan negative signaling payload =>
    cases signaling with
    | true => exact .inl ⟨rfl, rfl⟩
    | false => exact .inr ⟨rfl, _, rfl⟩
  | _ => exact .inr ⟨rfl, _, rfl⟩

/-! ## Literals -/

section Literals

variable {d : Char} {minus whole fraction r : List Char}

/-- No word for a special number begins with a digit. -/
theorem isWord_eq_false (hd : Text.isDigit d = true) {w : String}
    (hw : w.toList.head?.any Text.isDigit = false) : Literal.isWord w (d :: r) = false := by
  rw [Literal.isWord, beq_eq_false_iff_ne]
  intro heq
  rw [← heq, List.map_cons, Text.toLower_of_isDigit hd, List.head?_cons, Option.any_some, hd] at hw
  cases hw

theorem nanLiteral?_eq_none (hd : Text.isDigit d = true) (s : Bool) :
    nanLiteral? s (d :: r) = none := by
  have hlower : d.toLower ≠ 's' := by
    rw [Text.toLower_of_isDigit hd]
    rintro rfl
    exact absurd hd (by decide)
  have hword : Literal.isWord "nan" ((d :: r).take 3) = false := isWord_eq_false hd (by decide)
  simp only [nanLiteral?, if_neg hlower, hword, Bool.false_and, Bool.false_eq_true, if_false]

theorem trim_eq_self {cs : List Char} (h : ∀ c ∈ cs, Text.isBlank c = false) :
    Text.trim cs = cs := by
  have hskip : ∀ ds : List Char, (∀ c ∈ ds, Text.isBlank c = false) →
      ds.dropWhile Text.isBlank = ds := by
    intro ds hds
    cases ds with
    | nil => rfl
    | cons c r => rw [List.dropWhile_cons_of_neg (by simp [hds c List.mem_cons_self])]
  rw [Text.trim, Text.skipBlanks, hskip cs h, Text.trimEnd,
    hskip cs.reverse fun c hc => h c (List.mem_reverse.1 hc), List.reverse_reverse]

theorem cutSign_append (hminus : minus = [] ∨ minus = ['-']) (hd : Text.isDigit d = true) :
    ∃ s, Literal.cutSign (minus ++ d :: r) = (s, d :: r) := by
  rcases hminus with rfl | rfl
  · have hsign : d ≠ '-' ∧ d ≠ '+' := by
      constructor <;>
        · rintro rfl
          exact absurd hd (by decide)
    exact ⟨false, by simp [Literal.cutSign, hsign]⟩
  · exact ⟨true, rfl⟩

theorem parts?_eq_some {s : Bool} {cs : List Char}
    (hcut : Literal.cutSign cs = (s, whole ++ fraction)) (hne : whole ≠ [])
    (hwhole : ∀ c ∈ whole, Text.isDigit c = true)
    (hfraction : fraction = [] ∨ ∃ t, fraction = '.' :: t ∧ ∀ c ∈ t, Text.isDigit c = true) :
    ∃ t, Literal.parts? cs = some ⟨s, whole, t, 0⟩ ∧ t.length ≤ fraction.length := by
  simp only [Literal.parts?, hcut, List.takeWhile_append_of_pos hwhole,
    List.dropWhile_append_of_pos hwhole]
  rcases hfraction with rfl | ⟨t, rfl, ht⟩
  · exact ⟨[], by simp [hne, Literal.exponent?], Nat.le_refl _⟩
  · have hpoint : Text.isDigit '.' = false := by decide
    have htake : t.takeWhile Text.isDigit = t := List.takeWhile_eq_self_iff.2 ht
    have hdrop : t.dropWhile Text.isDigit = [] := List.dropWhile_eq_nil_iff.2 ht
    exact ⟨t, by simp [hpoint, hne, htake, hdrop, Literal.exponent?], by simp⟩

/-- The characters of a literal are neither blanks nor underscores. -/
theorem plain_of_mem_literal (hminus : minus = [] ∨ minus = ['-'])
    (hwhole : ∀ c ∈ whole, Text.isDigit c = true)
    (hfraction : fraction = [] ∨ ∃ t, fraction = '.' :: t ∧ ∀ c ∈ t, Text.isDigit c = true) :
    ∀ c ∈ minus ++ (whole ++ fraction), Text.isBlank c = false ∧ c ≠ '_' := by
  have hdigit : ∀ c, Text.isDigit c = true → Text.isBlank c = false ∧ c ≠ '_' := by
    intro c hc
    refine ⟨Text.not_isBlank_of_isDigit hc, ?_⟩
    rintro rfl
    exact absurd hc (by decide)
  intro c hc
  simp only [List.mem_append] at hc
  rcases hc with hc | hc | hc
  · rcases hminus with rfl | rfl
    · cases hc
    · rw [List.mem_singleton.1 hc]
      decide
  · exact hdigit c (hwhole c hc)
  · rcases hfraction with rfl | ⟨t, rfl, ht⟩
    · cases hc
    · rcases List.mem_cons.1 hc with rfl | hc
      · decide
      · exact hdigit c (ht c hc)

/-- Few enough digits make a number within the limits of literals. -/
theorem within_of_length_le {t : List Char} (hne : whole ≠ [])
    (hlength : (whole ++ t).length ≤ 10 ^ 18) :
    ¬(maxLiteralExponent < adjusted (Text.digitsToNat (whole ++ t)) (-Int.ofNat t.length) ∨
      -Int.ofNat t.length < -maxLiteralExponent - maxLiteralExponent) := by
  have hpos : 0 < (whole ++ t).length :=
    List.length_pos_iff.2 (List.append_ne_nil_of_left_ne_nil hne t)
  have hwidth := (width_le_iff hpos).2 (Text.digitsToNat_lt (whole ++ t))
  have hmax : maxLiteralExponent = 10 ^ 18 - 1 := by decide
  rw [List.length_append] at hwidth hlength
  simp only [adjusted, Int.ofNat_eq_natCast, hmax]
  omega

/-- A sign, digits and a fraction make a finite number, if they are not too many. -/
theorem read?_eq_finite (hminus : minus = [] ∨ minus = ['-']) (hne : whole ≠ [])
    (hwhole : ∀ c ∈ whole, Text.isDigit c = true)
    (hfraction : fraction = [] ∨ ∃ t, fraction = '.' :: t ∧ ∀ c ∈ t, Text.isDigit c = true)
    (hlength : (whole ++ fraction).length ≤ 10 ^ 18) :
    ∃ s c e, read? (minus ++ (whole ++ fraction)) = some (.finite s c e) := by
  have hplain := plain_of_mem_literal hminus hwhole hfraction
  have htrim := trim_eq_self fun c hc => (hplain c hc).1
  have hfilter : (minus ++ (whole ++ fraction)).filter (· ≠ '_') = minus ++ (whole ++ fraction) :=
    List.filter_eq_self.2 fun c hc => by simpa using (hplain c hc).2
  obtain ⟨d, r, hcons⟩ :=
    List.exists_cons_of_ne_nil (List.append_ne_nil_of_left_ne_nil hne fraction)
  have hd : Text.isDigit d = true := by
    obtain ⟨e, t, rfl⟩ := List.exists_cons_of_ne_nil hne
    cases hcons
    exact hwhole _ List.mem_cons_self
  obtain ⟨s, hcut⟩ := cutSign_append (r := r) hminus hd
  have hinf : Literal.isWord "inf" (d :: r) = false := isWord_eq_false hd (by decide)
  have hinfinity : Literal.isWord "infinity" (d :: r) = false := isWord_eq_false hd (by decide)
  rw [← hcons] at hcut hinf hinfinity
  have hnan : nanLiteral? s (whole ++ fraction) = none := hcons ▸ nanLiteral?_eq_none hd s
  obtain ⟨t, hparts, ht⟩ := parts?_eq_some hcut hne hwhole hfraction
  have hwithin : ¬(maxLiteralExponent < adjusted (Text.digitsToNat (whole ++ t))
      (-Int.ofNat t.length) ∨ -Int.ofNat t.length < -maxLiteralExponent - maxLiteralExponent) := by
    rw [List.length_append] at hlength
    exact within_of_length_le hne (by rw [List.length_append]; omega)
  refine ⟨s, Text.digitsToNat (whole ++ t), -Int.ofNat t.length, ?_⟩
  simp only [read?, htrim, hfilter, hcut, hinf, hinfinity, hnan, hparts]
  simp only [Literal.Parts.scale, Literal.Parts.coefficient, Int.zero_sub, if_neg hwithin]
  rfl

end Literals

end Decimal
end Polyglot
