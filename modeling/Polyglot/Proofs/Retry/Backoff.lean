import Mathlib.Algebra.Field.Rat
import Mathlib.Algebra.Order.Ring.Unbundled.Rat
import Mathlib.Tactic.Linarith
import Mathlib.Tactic.NormNum
import Polyglot.Proofs.Retry

/-!
# Capped pauses

How long pauses are meant to be is said in exact arithmetic: the definition by which a policy
computes its pauses in binary numbers computes them there as well. Pauses double up to the longest
one, and the random part adds at most its fraction. That holds up to the attempt 1023. After it the
power of two is no number of the arithmetic, and although the longest pause would be due there is
none.
-/
namespace Polyglot

/-- Exact arithmetic, in which the same whole numbers are too large as for binary numbers. -/
instance PauseArithmetic.exact (K : Type) [Field K] [LinearOrder K] : PauseArithmetic K where
  add a b := a + b
  mul a b := a * b
  less a b := decide (a < b)
  ofNat? n := (Binary64.ofInt? (Int.ofNat n)).map fun _ => (n : K)

namespace Backoff

variable {K : Type} [Field K] [LinearOrder K] {b : Backoff K} {m n : Nat}

/-- The pause that is due after an attempt, before the random part is added. -/
def due (b : Backoff K) (attempt : Nat) : K := min (b.base * 2 ^ attempt) b.longest

/-- Whether no part of the settings is negative. -/
structure IsNonneg (b : Backoff K) : Prop where
  base : 0 ≤ b.base
  longest : 0 ≤ b.longest
  jitter : 0 ≤ b.jitter

/-- Whether there is a pause after an attempt whatever is drawn, and it is the one that is due with
at most the whole random part. -/
def IsCapped (b : Backoff K) (attempt : Nat) : Prop :=
  ∀ draw, 0 ≤ draw → draw < 1 → ∃ pause, b.pause? attempt draw = some pause ∧
    b.due attempt ≤ pause ∧ pause ≤ b.due attempt * (1 + b.jitter)

/-! ## What is computed -/

theorem capped?_eq_due (b : Backoff K) (n : Nat) :
    b.capped? n = if 1023 < n then none else some (b.due n) := by
  have hfactor : (PauseArithmetic.ofNat? (Nat.pow 2 n) : Option K) =
      if 1023 < n then none else some (2 ^ n) := by
    have hcast : ((2 ^ n : Nat) : K) = 2 ^ n := Nat.cast_pow 2 n
    simp only [PauseArithmetic.ofNat?, Nat.pow_eq, Binary64.ofInt?_two_pow, hcast]
    split <;> rfl
  rw [capped?, hfactor]
  split
  · rfl
  · rw [Option.map_some]
    simp only [PauseArithmetic.mul, PauseArithmetic.less, decide_eq_true_eq, due, min_def]
    -- The cap is taken when it is less, the minimum unless it is less.
    by_cases hless : b.longest < b.base * 2 ^ n
    · rw [if_pos hless, if_neg (not_le.2 hless)]
    · rw [if_neg hless, if_pos (not_lt.1 hless)]

theorem pause?_eq_due (b : Backoff K) (n : Nat) (draw : K) :
    b.pause? n draw =
      if 1023 < n then none else some (b.due n + b.due n * b.jitter * draw) := by
  rw [pause?, capped?_eq_due]
  split <;> rfl

/-! ## How long it is -/

theorem due_le_longest (b : Backoff K) (n : Nat) : b.due n ≤ b.longest := min_le_right _ _

variable [IsStrictOrderedRing K]

theorem IsNonneg.due (h : b.IsNonneg) (n : Nat) : 0 ≤ b.due n :=
  le_min (mul_nonneg h.base (pow_nonneg zero_le_two n)) h.longest

theorem IsNonneg.due_mono (h : b.IsNonneg) (hmn : m ≤ n) : b.due m ≤ b.due n := by
  have hpow : (2 : K) ^ m ≤ 2 ^ n := pow_le_pow_right₀ one_le_two hmn
  exact min_le_min_right _ (mul_le_mul_of_nonneg_left hpow h.base)

theorem IsNonneg.isCapped_iff (h : b.IsNonneg) : b.IsCapped n ↔ n ≤ 1023 := by
  constructor
  · intro hcapped
    by_contra hlate
    obtain ⟨pause, hpause, -⟩ := hcapped 0 le_rfl zero_lt_one
    rw [pause?_eq_due, if_pos (not_le.1 hlate)] at hpause
    cases hpause
  · intro hn draw hdraw hone
    refine ⟨b.due n + b.due n * b.jitter * draw, ?_, ?_, ?_⟩
    · rw [pause?_eq_due, if_neg (not_lt.2 hn)]
    · have hrandom : 0 ≤ b.due n * b.jitter * draw :=
        mul_nonneg (mul_nonneg (h.due n) h.jitter) hdraw
      exact le_add_of_nonneg_right hrandom
    · have hrandom : b.due n * b.jitter * draw ≤ b.due n * b.jitter :=
        mul_le_of_le_one_right (mul_nonneg (h.due n) h.jitter) hone.le
      linarith

omit [IsStrictOrderedRing K] in
theorem pause?_of_jitter_eq_zero (h : b.jitter = 0) {draw pause : K}
    (hpause : b.pause? n draw = some pause) : pause = b.due n := by
  rw [pause?_eq_due] at hpause
  split at hpause
  · cases hpause
  · have heq := Option.some.inj hpause
    rw [h, mul_zero, zero_mul, add_zero] at heq
    exact heq.symm

end Backoff

theorem RetryPolicy.exists_pause_iff {p : RetryPolicy} {n : Nat} {draw : Binary64} :
    (∃ pause, p.pause n draw = .ok pause) ↔ n ≤ 1023 ∧ p.jitterFault = none := by
  have hsome : p.backoff.pause? n draw = none ↔ 1023 < n := Backoff.pause?_eq_none_iff
  rw [pause]
  cases hpause : p.backoff.pause? n draw with
  | none => simp [hsome.1 hpause]
  | some d =>
    have hn : n ≤ 1023 := by
      by_contra hlate
      rw [hsome.2 (not_le.1 hlate)] at hpause
      cases hpause
    cases p.jitterFault <;> simp [hn]

namespace Backoff

variable {K : Type} [Field K] [LinearOrder K] [IsStrictOrderedRing K]

/-- Pauses are capped exactly up to the attempt 1023. As long as there are any, those without a
random part never fall and never exceed the longest one. In the binary numbers in which a policy
computes there are pauses after the same attempts. -/
theorem isCapped_iff_le {b : Backoff K} (h : b.IsNonneg) :
    (∀ n, b.IsCapped n ↔ n ≤ 1023) ∧
    (b.jitter = 0 → ∀ m n draw draw' pause pause', m ≤ n → b.pause? m draw = some pause →
      b.pause? n draw' = some pause' → pause ≤ pause' ∧ pause' ≤ b.longest) ∧
    ∀ (p : RetryPolicy) n draw,
      (∃ pause, p.pause n draw = .ok pause) ↔ n ≤ 1023 ∧ p.jitterFault = none := by
  refine ⟨fun n => h.isCapped_iff, ?_, fun p n draw => RetryPolicy.exists_pause_iff⟩
  intro hjitter m n draw draw' pause pause' hmn hpause hpause'
  rw [pause?_of_jitter_eq_zero hjitter hpause, pause?_of_jitter_eq_zero hjitter hpause']
  exact ⟨h.due_mono hmn, b.due_le_longest n⟩

/-- One second, doubled up to ten, with a tenth at random. -/
def usual : Backoff ℚ := ⟨1, 10, 1 / 10⟩

theorem isNonneg_usual : usual.IsNonneg where
  base := zero_le_one
  longest := by norm_num [usual]
  jitter := by norm_num [usual]

theorem isCapped_iff_le_usual :
    usual.IsNonneg ∧ usual.IsCapped 1023 ∧ ∀ n, 1023 < n → ¬usual.IsCapped n := by
  have hcapped := (isCapped_iff_le isNonneg_usual).1
  exact ⟨isNonneg_usual, (hcapped 1023).2 le_rfl, fun n hn => mt (hcapped n).1 (not_le.2 hn)⟩

/-- After the attempt 1024 ten seconds are due, but there is no pause. -/
theorem exists_not_isCapped :
    usual.due 1024 = 10 ∧ usual.pause? 1024 0 = none ∧ ¬usual.IsCapped 1024 ∧
      (RetryPolicy.create (.int 3) ⟨1000000⟩ ⟨10000000⟩).pause 1024 .zero =
        .error pauseOverflow := by
  have hlate : ¬1024 ≤ 1023 := by decide
  have hdue : usual.due 1024 = 10 := by
    have hlonger : (10 : ℚ) ≤ 1 * 2 ^ 1024 :=
      calc (10 : ℚ) ≤ 2 ^ 4 := by norm_num
        _ ≤ 2 ^ 1024 := pow_le_pow_right₀ one_le_two (by decide)
        _ = 1 * 2 ^ 1024 := (one_mul _).symm
    exact min_eq_right hlonger
  refine ⟨hdue, ?_, mt isNonneg_usual.isCapped_iff.1 hlate, ?_⟩
  · rw [pause?_eq_due, if_pos (by decide)]
  · rw [RetryPolicy.pause, pause?_eq_none_iff.2 (by decide)]

end Backoff
end Polyglot
