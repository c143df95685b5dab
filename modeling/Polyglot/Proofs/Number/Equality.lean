import Mathlib.Algebra.Order.Field.Power
import Mathlib.Algebra.Order.Field.Rat
import Mathlib.Order.WithBot
import Mathlib.Tactic.Ring
import Polyglot.Proofs.Number.Decimal

/-!
# Equality of decimal numbers

Two decimal numbers are found equal exactly if they stand for the same rational number, or for the
same infinity. Numbers whose first digits have different exponents differ, and of the others the
coefficients are compared at a common exponent.
-/
namespace Polyglot.Decimal

/-- The absolute value that a coefficient and an exponent stand for. -/
def magnitude (coefficient : Nat) (exponent : Int) : ℚ := coefficient * 10 ^ exponent

/-- What a decimal number stands for. A diagnostic number stands for nothing. -/
def value? : Decimal → Option (WithBot (WithTop ℚ))
  | finite s c e => some ((if s then -magnitude c e else magnitude c e : ℚ) : WithTop ℚ)
  | infinity s => some (if s then ⊥ else ⊤)
  | nan .. => none

section Magnitude

variable {c n : Nat} {d e : Int}

@[simp] theorem magnitude_zero (e : Int) : magnitude 0 e = 0 := by
  simp [magnitude]

theorem magnitude_pos (hc : c ≠ 0) (e : Int) : 0 < magnitude c e := by
  have hc : (0 : ℚ) < c := by exact_mod_cast Nat.pos_of_ne_zero hc
  exact mul_pos hc (zpow_pos (by norm_num) e)

/-- The exponent of the first digit gives the magnitude up to a factor of ten. -/
theorem magnitude_bounds (hc : c ≠ 0) (e : Int) :
    (10 : ℚ) ^ adjusted c e ≤ magnitude c e ∧ magnitude c e < 10 ^ (adjusted c e + 1) := by
  obtain ⟨w, hw⟩ : ∃ w, width c = w + 1 :=
    Nat.exists_eq_succ_of_ne_zero (width_pos c).ne'
  have hhigh : c < 10 ^ (w + 1) := (width_le_iff (Nat.succ_pos w)).1 hw.le
  have hlow : 10 ^ w ≤ c := by
    rcases Nat.eq_zero_or_pos w with rfl | hpos
    · exact Nat.pos_of_ne_zero hc
    · exact Nat.not_lt.1 fun h => absurd ((width_le_iff hpos).2 h) (by omega)
  have hadjusted : adjusted c e = w + e := by
    rw [adjusted, hw, Int.ofNat_eq_natCast]
    omega
  have hpow (k : Nat) : (10 : ℚ) ^ (k + e) = (10 ^ k : Nat) * 10 ^ e := by
    rw [zpow_add₀ (by norm_num), zpow_natCast]
    norm_num
  rw [hadjusted, show (w : Int) + e + 1 = ((w + 1 : Nat) : Int) + e by push_cast; ring, hpow, hpow,
    magnitude]
  constructor
  · gcongr
  · gcongr

theorem adjusted_eq_of_magnitude_eq (hc : c ≠ 0) (hn : n ≠ 0)
    (h : magnitude c d = magnitude n e) : adjusted c d = adjusted n e := by
  have hten : (1 : ℚ) < 10 := by norm_num
  obtain ⟨hclow, hchigh⟩ := magnitude_bounds hc d
  obtain ⟨hnlow, hnhigh⟩ := magnitude_bounds hn e
  rw [h] at hclow hchigh
  have hle := (zpow_lt_zpow_iff_right₀ hten).1 (hclow.trans_lt hnhigh)
  have hge := (zpow_lt_zpow_iff_right₀ hten).1 (hnlow.trans_lt hchigh)
  omega

/-- A coefficient at a smaller exponent. -/
theorem magnitude_eq_of_le {low : Int} (h : low ≤ e) :
    magnitude c e = (c * Nat.pow 10 (e - low).toNat : Nat) * 10 ^ low := by
  obtain ⟨k, hk⟩ := Int.eq_ofNat_of_zero_le (Int.sub_nonneg.2 h)
  rw [magnitude, hk, show e = k + low by omega, zpow_add₀ (by norm_num), zpow_natCast]
  simp only [Int.toNat_natCast, Nat.pow_eq]
  push_cast
  ring

theorem magnitude_eq_iff_scaled :
    magnitude c d = magnitude n e ↔
      c * Nat.pow 10 (d - min d e).toNat = n * Nat.pow 10 (e - min d e).toNat := by
  have hpos : (10 : ℚ) ^ min d e ≠ 0 := zpow_ne_zero _ (by norm_num)
  rw [magnitude_eq_of_le (min_le_left d e), magnitude_eq_of_le (min_le_right d e),
    mul_left_inj' hpos, Nat.cast_inj]

end Magnitude

/-! ## Comparison -/

section Comparison

variable {x y : Decimal}

/-- How the absolute values of two numbers other than zero are compared. -/
theorem order_eq_iff {c n : Nat} (hc : c ≠ 0) (hn : n ≠ 0) (d e : Int) :
    (if adjusted c d ≠ adjusted n e then compare (adjusted c d) (adjusted n e)
      else compare (c * Nat.pow 10 (d - min d e).toNat) (n * Nat.pow 10 (e - min d e).toNat)) =
        .eq ↔
      magnitude c d = magnitude n e := by
  by_cases hfirst : adjusted c d = adjusted n e
  · rw [if_neg (not_not.2 hfirst), compare_eq_iff_eq, magnitude_eq_iff_scaled]
  · rw [if_pos hfirst, compare_eq_iff_eq]
    exact iff_of_false hfirst fun h => hfirst (adjusted_eq_of_magnitude_eq hc hn h)

theorem compare?_finite_eq_iff (a b : Bool) (c n : Nat) (d e : Int) :
    compare? (finite a c d) (finite b n e) = some .eq ↔
      (if a then -magnitude c d else magnitude c d) =
        if b then -magnitude n e else magnitude n e := by
  rw [compare?, Option.some.injEq]
  by_cases hc : c = 0
  · subst hc
    by_cases hn : n = 0
    · subst hn
      simp
    · have hpos := magnitude_pos hn e
      rw [if_neg (fun h => hn h.2), if_pos rfl]
      cases b <;> simp [hpos.ne, hpos.ne']
  · have hcpos := magnitude_pos hc d
    rw [if_neg (fun h => hc h.1), if_neg hc]
    by_cases hn : n = 0
    · subst hn
      cases a <;> simp [hcpos.ne']
    · have hnpos := magnitude_pos hn e
      rw [if_neg hn]
      have horder := order_eq_iff hc hn d e
      cases a <;> cases b
      · simpa using horder
      · exact iff_of_false (by simp) ((neg_lt_zero.2 hnpos).trans hcpos).ne'
      · exact iff_of_false (by simp) ((neg_lt_zero.2 hcpos).trans hnpos).ne
      · simpa using horder

/-- Numbers compare as equal exactly if they stand for the same. -/
theorem compare?_eq_iff (x y : Decimal) :
    compare? x y = some .eq ↔ ∃ v, x.value? = some v ∧ y.value? = some v := by
  cases x with
  | nan => simp [compare?, value?]
  | infinity s =>
    cases y with
    | nan => simp [compare?, value?]
    | infinity t => cases s <;> cases t <;> simp [compare?, value?]
    | finite b n e => cases s <;> simp [compare?, value?]
  | finite a c d =>
    cases y with
    | nan => simp [compare?, value?]
    | infinity t => cases t <;> simp [compare?, value?]
    | finite b n e =>
      rw [compare?_finite_eq_iff]
      simp [value?, eq_comm]

/-- A number is equal to those that stand for the same. -/
theorem equal_eq_true {v : WithBot (WithTop ℚ)} (hx : x.value? = some v) (hy : y.value? = some v) :
    x.equal y = .ok true := by
  have hcompare := (compare?_eq_iff x y).2 ⟨v, hx, hy⟩
  cases x with
  | nan => cases hx
  | _ =>
    cases y with
    | nan => cases hy
    | _ => simp [equal, hcompare]

/-- A number differs from those that stand for something else. -/
theorem equal_eq_false {v : WithBot (WithTop ℚ)} (hx : x.value? = some v) (hy : y.value? ≠ some v) :
    y.signals = false ∧ x.equal y = .ok false ∨
      y.signals = true ∧ x.equal y = .error .invalid := by
  have hcompare : compare? x y ≠ some .eq := fun h => by
    obtain ⟨w, hxw, hyw⟩ := (compare?_eq_iff x y).1 h
    exact hy (hyw.trans (hxw.symm.trans hx))
  cases x with
  | nan => cases hx
  | _ =>
    cases y with
    | nan negative signaling payload => cases signaling <;> simp [equal, signals, compare?]
    | _ => exact .inl ⟨rfl, by simp [equal, hcompare]⟩

end Comparison

end Polyglot.Decimal
