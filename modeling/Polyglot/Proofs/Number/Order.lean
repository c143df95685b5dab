import Polyglot.Number.Duration

/-!
# The order of numbers

Numbers that have a place on the line are compared by it, whatever their exponents are, and all
numbers but NaN have a place. A clock that shows a number with a place shows one after any length
of time.
-/
namespace Polyglot

namespace Number

/-! ## Places -/

theorem scale_eq {m d base low : Int} (hlow : low ≤ base) (hbase : base ≤ d) :
    m * Nat.pow 2 (d - low).toNat =
      m * Nat.pow 2 (d - base).toNat * Nat.pow 2 (base - low).toNat := by
  have hsum : (d - low).toNat = (d - base).toNat + (base - low).toNat := by omega
  rw [hsum, Int.mul_assoc]
  congr 1
  exact_mod_cast Nat.pow_add 2 _ _

/-- Two points may be compared at any exponent that is small enough. -/
theorem Place.compare_point {m n d e low : Int} (hd : low ≤ d) (he : low ≤ e) :
    Place.compare (.point m d) (.point n e) =
      Ord.compare (m * Nat.pow 2 (d - low).toNat) (n * Nat.pow 2 (e - low).toNat) := by
  have hbase : low ≤ min d e := by omega
  have hpos : (0 : Int) < Nat.pow 2 (min d e - low).toNat := by
    exact_mod_cast Nat.pow_pos (by decide)
  rw [scale_eq hbase (Int.min_le_left d e), scale_eq hbase (Int.min_le_right d e)]
  simp only [Place.compare]
  generalize m * Nat.pow 2 (d - min d e).toNat = x
  generalize n * Nat.pow 2 (e - min d e).toNat = y
  rcases Int.lt_trichotomy x y with h | h | h
  · rw [Int.compare_eq_lt.2 h, Int.compare_eq_lt.2 (Int.mul_lt_mul_of_pos_right h hpos)]
  · rw [h]
    simp
  · rw [Int.compare_eq_gt.2 h, Int.compare_eq_gt.2 (Int.mul_lt_mul_of_pos_right h hpos)]

theorem Place.compare_swap (p q : Place) : (Place.compare p q).swap = Place.compare q p := by
  cases p with
  | low => cases q <;> rfl
  | high => cases q <;> rfl
  | point m d =>
    cases q with
    | low => rfl
    | high => rfl
    | point n e =>
      rw [compare_point (Int.min_le_left d e) (Int.min_le_right d e),
        compare_point (Int.min_le_right d e) (Int.min_le_left d e)]
      exact Std.OrientedCmp.eq_swap.symm

theorem Place.compare_trans {p q r : Place} (h : Place.compare p q ≠ .gt)
    (h' : Place.compare q r ≠ .gt) : Place.compare p r ≠ .gt := by
  cases p with
  | low => cases r <;> simp [Place.compare]
  | high => cases q <;> cases r <;> simp_all [Place.compare]
  | point m d =>
    cases q with
    | low => exact absurd rfl h
    | high => cases r <;> simp_all [Place.compare]
    | point n e =>
      cases r with
      | low => exact absurd rfl h'
      | high => simp [Place.compare]
      | point k f =>
        -- All three points are compared at the least of their exponents.
        have hd : min d (min e f) ≤ d := by omega
        have he : min d (min e f) ≤ e := by omega
        have hf : min d (min e f) ≤ f := by omega
        rw [compare_point hd he, ne_eq, Int.compare_eq_gt, Int.not_lt] at h
        rw [compare_point he hf, ne_eq, Int.compare_eq_gt, Int.not_lt] at h'
        rw [compare_point hd hf, ne_eq, Int.compare_eq_gt, Int.not_lt]
        exact Int.le_trans h h'

/-! ## Comparisons -/

/-- Whether a number has a place: all have one but NaN. -/
def IsPlaced (a : Number) : Prop := a.place?.isSome = true

theorem le_eq_true_iff {a b : Number} :
    le a b = true ↔
      ∃ p q, a.place? = some p ∧ b.place? = some q ∧ Place.compare p q ≠ .gt := by
  cases hp : a.place? with
  | none => simp [le, compare?, hp]
  | some p =>
    cases hq : b.place? with
    | none => simp [le, compare?, hp, hq]
    | some q => cases h : Place.compare p q <;> simp [le, compare?, hp, hq, h]

theorem le_int_iff {m n : Int} : le (.int m) (.int n) = true ↔ m ≤ n := by
  rw [le_eq_true_iff]
  simp [place?, Place.compare, Int.compare_eq_gt]

theorem IsPlaced.of_le_left {a b : Number} (h : le a b = true) : a.IsPlaced := by
  obtain ⟨p, q, hp, -, -⟩ := le_eq_true_iff.1 h
  rw [IsPlaced, hp]
  rfl

theorem IsPlaced.of_le_right {a b : Number} (h : le a b = true) : b.IsPlaced := by
  obtain ⟨p, q, -, hq, -⟩ := le_eq_true_iff.1 h
  rw [IsPlaced, hq]
  rfl

theorem le_trans {a b c : Number} (h : le a b = true) (h' : le b c = true) : le a c = true := by
  obtain ⟨p, q, hp, hq, hpq⟩ := le_eq_true_iff.1 h
  obtain ⟨q', r, hq', hr, hqr⟩ := le_eq_true_iff.1 h'
  obtain rfl : q = q' := Option.some.inj (hq.symm.trans hq')
  exact le_eq_true_iff.2 ⟨p, r, hp, hr, Place.compare_trans hpq hqr⟩

theorem IsPlaced.le_self {a : Number} (h : a.IsPlaced) : le a a = true := by
  obtain ⟨p, hp⟩ := Option.isSome_iff_exists.1 h
  refine le_eq_true_iff.2 ⟨p, p, hp, hp, ?_⟩
  intro hgt
  have hswap := Place.compare_swap p p
  rw [hgt] at hswap
  cases hswap

/-- Of two numbers that have a place one is at most the other, or the other is less. -/
theorem lt_eq_not_le {a b : Number} (ha : a.IsPlaced) (hb : b.IsPlaced) :
    lt a b = !le b a := by
  obtain ⟨p, hp⟩ := Option.isSome_iff_exists.1 ha
  obtain ⟨q, hq⟩ := Option.isSome_iff_exists.1 hb
  have hswap := Place.compare_swap q p
  cases h : Place.compare q p <;> rw [h] at hswap <;> simp [lt, le, compare?, hp, hq, h, ← hswap]

/-! ## Sums -/

end Number

namespace Binary64

/-- A ratio is rounded to a finite number unless its numerator is huge. -/
theorem ofRatio_cases (negative : Bool) (num den : Nat) :
    (∃ m e, ofRatio negative num den = .finite negative m e) ∨
      ofRatio negative num den = .infinity negative ∧ 1000 < num.log2 := by
  unfold ofRatio
  split
  · exact .inl ⟨_, _, rfl⟩
  · dsimp only
    generalize hguess : max (Int.ofNat num.log2 - Int.ofNat den.log2 - 53) (-1074) = guess
    simp only [Int.ofNat_eq_natCast] at hguess
    split <;> split <;> dsimp only <;> split
    all_goals first
      | exact .inl ⟨_, _, rfl⟩
      | exact .inr ⟨rfl, by omega⟩

theorem isNaN_add {x y : Binary64} (hx : x.isNaN = false)
    (hy : ∃ s m e, y = .finite s m e) : (add x y).isNaN = false := by
  obtain ⟨s, m, e, rfl⟩ := hy
  cases x with
  | nan => cases hx
  | infinity t => rfl
  | finite t n d =>
    simp only [add]
    split
    · rfl
    · rcases ofRatio_cases _ _ _ with ⟨m, e, h⟩ | ⟨h, -⟩ <;> rw [h] <;> rfl

end Binary64

/-- Whether a duration is one that can be had: it is not too long. -/
def Duration.IsProper (d : Duration) : Prop := Duration.check d.micros = .ok d

theorem Duration.IsProper.seconds_eq_finite {d : Duration} (h : d.IsProper) :
    ∃ s m e, d.seconds = .finite s m e := by
  have hdays : ¬ (Int.fdiv d.micros 86400000000 < -999999999 ∨
      999999999 < Int.fdiv d.micros 86400000000) := by
    intro hlong
    rw [IsProper, check, if_pos hlong] at h
    cases h
  have hmicros : d.micros.natAbs < 2 ^ 67 := by
    rw [Int.fdiv_eq_ediv_of_nonneg _ (by decide)] at hdays
    omega
  rcases Binary64.ofRatio_cases (d.micros < 0) d.micros.natAbs 1000000 with
    ⟨m, e, hfinite⟩ | ⟨-, hlog⟩
  · exact ⟨_, m, e, hfinite⟩
  · have hpos : d.micros.natAbs ≠ 0 := by
      intro hzero
      rw [hzero] at hlog
      exact absurd hlog (by decide)
    have hsmall := (Nat.log2_lt hpos).2 hmicros
    omega

namespace Number

theorem isPlaced_float {x : Binary64} : (float x).IsPlaced ↔ x.isNaN = false := by
  cases x <;> simp [IsPlaced, place?, Binary64.isNaN]

theorem isNaN_toBinary64? {a : Number} (ha : a.IsPlaced) {x : Binary64}
    (h : a.toBinary64? = some x) : x.isNaN = false := by
  cases a with
  | int n =>
    rw [toBinary64?, Binary64.ofInt?] at h
    split at h
    · cases h
      rfl
    · cases h
  | float y =>
    cases h
    exact isPlaced_float.1 ha

/-- A time that has a place has one after any length of time. -/
theorem IsPlaced.add_seconds {a b : Number} (ha : a.IsPlaced) {d : Duration} (hd : d.IsProper)
    (h : a.add? (.float d.seconds) = some b) : b.IsPlaced := by
  have hsum : (a.toBinary64?.map fun x => float (Binary64.add x d.seconds)) = some b := by
    rw [← h]
    cases a with
    | int n => cases hn : Binary64.ofInt? n <;> simp [add?, toBinary64?, hn]
    | float x => rfl
  obtain ⟨x, hx, rfl⟩ := Option.map_eq_some_iff.1 hsum
  exact isPlaced_float.2 (Binary64.isNaN_add (isNaN_toBinary64? ha hx) hd.seconds_eq_finite)

end Number
end Polyglot
