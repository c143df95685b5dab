import Polyglot.Proofs.Number.Order

/-!
# The order of binary numbers

Binary numbers are ordered by their places. NaN has none and is not comparable with any number;
all others are, and the order is transitive.
-/
namespace Polyglot

instance : Std.TransCmp Number.Place.compare where
  eq_swap := (Number.Place.compare_swap _ _).symm
  isLE_trans h h' := Ordering.isLE_iff_ne_gt.2
    (Number.Place.compare_trans (Ordering.isLE_iff_ne_gt.1 h) (Ordering.isLE_iff_ne_gt.1 h'))

namespace Binary64

variable {x y z : Binary64} {o o' : Ordering}

theorem signed_shiftLeft (negative : Bool) (m k : Nat) :
    signed negative (m <<< k) = signed negative m * Nat.pow 2 k := by
  rw [Nat.shiftLeft_eq]
  have hmul : Int.ofNat (m * 2 ^ k) = Int.ofNat m * Nat.pow 2 k := by simp
  cases negative with
  | false => exact hmul
  | true => exact (congrArg Neg.neg hmul).trans (Int.neg_mul _ _).symm

theorem compare?_eq_place (x y : Binary64) :
    compare? x y = Number.compare? (.float x) (.float y) := by
  cases x with
  | nan => rfl
  | infinity s =>
    cases y with
    | nan => cases s <;> rfl
    | infinity t => cases s <;> cases t <;> rfl
    | finite t n e => cases s <;> rfl
  | finite s m d =>
    cases y with
    | nan => rfl
    | infinity t => cases t <;> rfl
    | finite t n e =>
      simp only [compare?, signed_shiftLeft]
      rfl

theorem compare?_eq_some_iff :
    compare? x y = some o ↔
      ∃ p q, Number.place? (.float x) = some p ∧ Number.place? (.float y) = some q ∧
        Number.Place.compare p q = o := by
  rw [compare?_eq_place, Number.compare?]
  cases hp : Number.place? (.float x) with
  | none => simp
  | some p =>
    cases hq : Number.place? (.float y) with
    | none => simp
    | some q => simp

/-- Two numbers can be compared unless one of them is NaN. -/
theorem exists_compare? (hx : x.isNaN = false) (hy : y.isNaN = false) :
    ∃ o, compare? x y = some o := by
  obtain ⟨p, hp⟩ := Option.isSome_iff_exists.1 (Number.isPlaced_float.2 hx)
  obtain ⟨q, hq⟩ := Option.isSome_iff_exists.1 (Number.isPlaced_float.2 hy)
  exact ⟨_, compare?_eq_some_iff.2 ⟨p, q, hp, hq, rfl⟩⟩

theorem compare?_swap (h : compare? x y = some o) : compare? y x = some o.swap := by
  obtain ⟨p, q, hp, hq, rfl⟩ := compare?_eq_some_iff.1 h
  exact compare?_eq_some_iff.2 ⟨q, p, hq, hp, Std.OrientedCmp.eq_swap⟩

/-- Numbers that do not rise stay in order, and they are equal only if none of them falls. -/
theorem compare?_trans (h : compare? x y = some o) (h' : compare? y z = some o') (ho : o ≠ .lt)
    (ho' : o' ≠ .lt) : compare? x z = some (o.then o') := by
  obtain ⟨p, q, hp, hq, hpq⟩ := compare?_eq_some_iff.1 h
  obtain ⟨q', r, hq', hr, hqr⟩ := compare?_eq_some_iff.1 h'
  obtain rfl : q = q' := Option.some.inj (hq.symm.trans hq')
  refine compare?_eq_some_iff.2 ⟨p, r, hp, hr, ?_⟩
  cases o with
  | lt => exact absurd rfl ho
  | eq =>
    cases o' with
    | lt => exact absurd rfl ho'
    | eq => exact Std.TransCmp.eq_trans hpq hqr
    | gt => exact Std.TransCmp.gt_of_eq_of_gt hpq hqr
  | gt =>
    cases o' with
    | lt => exact absurd rfl ho'
    | eq => exact Std.TransCmp.gt_of_gt_of_eq hpq hqr
    | gt => exact Std.TransCmp.gt_trans hpq hqr

end Binary64
end Polyglot
