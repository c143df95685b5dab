import Mathlib.Algebra.Group.Nat.Defs
import Polyglot.Retry

/-!
# How far a policy reaches

The pause after an attempt is a power of two times the base pause. Powers of two are exact numbers
up to the attempt 1023; the next one is too large, so no policy tries again after 1025 attempts,
whatever its limit is. What went on before an operation is given up is the same for all policies.
-/
namespace Polyglot

/-! ## Powers of two -/

theorem divHalfEven_mul_self {d : Nat} (hd : 0 < d) (q : Nat) : divHalfEven (q * d) d = q := by
  have hdiv : q * d / d = q := Nat.mul_div_cancel q hd
  have hmod : q * d % d = 0 := Nat.mul_mod_left q d
  simp only [divHalfEven, hdiv, hmod, Nat.mul_zero, hd, if_true]

namespace Binary64

theorem one_shiftLeft_pos (n : Nat) : 0 < 1 <<< n := by
  rw [Nat.shiftLeft_eq, Nat.one_mul]
  exact Nat.two_pow_pos n

theorem two_pow_shiftLeft {k j : Nat} {e : Int} (h : (k : Int) - e = j) :
    2 ^ k <<< (-e).toNat = 2 ^ j * 1 <<< e.toNat := by
  have hexponents : k + (-e).toNat = j + e.toNat := by omega
  rw [Nat.shiftLeft_eq, Nat.shiftLeft_eq, Nat.one_mul, ← Nat.pow_add, ← Nat.pow_add, hexponents]

/-- A power of two is exact, unless it is too large. -/
theorem ofRatio_two_pow (k : Nat) :
    ofRatio false (2 ^ k) 1 =
      if 1023 < k then .infinity false else .finite false (2 ^ 52) (k - 52) := by
  have hne : 2 ^ k ≠ 0 := Nat.ne_of_gt (Nat.two_pow_pos k)
  have hguess : max (Int.ofNat (2 ^ k).log2 - Int.ofNat (Nat.log2 1) - 53) (-1074) =
      (k : Int) - 53 := by
    have hone : Nat.log2 1 = 0 := by decide
    rw [Nat.log2_two_pow, hone]
    simp only [Int.ofNat_eq_natCast]
    omega
  -- The first guess always has one digit too many.
  have hfloor : (2 ^ k <<< (-((k : Int) - 53)).toNat) / (1 <<< ((k : Int) - 53).toNat) =
      2 ^ 53 := by
    rw [two_pow_shiftLeft (j := 53) (by omega), Nat.mul_div_cancel _ (one_shiftLeft_pos _)]
  have hbig : ¬2 ^ 53 < Nat.pow 2 53 := by decide
  have hnext : (k : Int) - 53 + 1 = k - 52 := by omega
  have hround : divHalfEven (2 ^ k <<< (-((k : Int) - 52)).toNat) (1 <<< ((k : Int) - 52).toNat) =
      2 ^ 52 := by
    rw [two_pow_shiftLeft (j := 52) (by omega), divHalfEven_mul_self (one_shiftLeft_pos _)]
  have hfits : ¬2 ^ 52 = Nat.pow 2 53 := by decide
  have hlarge : (971 : Int) < (k : Int) - 52 ↔ 1023 < k := by omega
  simp only [ofRatio, if_neg hne, hguess, hfloor, if_neg hbig, hnext, hround, if_neg hfits, hlarge]

theorem ofInt?_two_pow (k : Nat) :
    ofInt? (Int.ofNat (2 ^ k)) =
      if 1023 < k then none else some (.finite false (2 ^ 52) (k - 52)) := by
  have hsign : decide (Int.ofNat (2 ^ k) < 0) = false :=
    decide_eq_false (Int.not_lt.2 (Int.natCast_nonneg _))
  have habs : (Int.ofNat (2 ^ k)).natAbs = 2 ^ k := rfl
  rw [ofInt?, hsign, habs, ofRatio_two_pow]
  by_cases hlarge : 1023 < k
  · simp only [if_pos hlarge]
  · simp only [if_neg hlarge]

end Binary64

/-- There is a pause after an attempt if and only if the attempt is not too late. -/
theorem Backoff.pause?_eq_none_iff {b : Backoff Binary64} {attempt : Nat} {draw : Binary64} :
    b.pause? attempt draw = none ↔ 1023 < attempt := by
  have hfactor : (PauseArithmetic.ofNat? (Nat.pow 2 attempt) : Option Binary64) =
      if 1023 < attempt then none else some (.finite false (2 ^ 52) (attempt - 52)) :=
    Binary64.ofInt?_two_pow attempt
  rw [pause?, Option.map_eq_none_iff, capped?, Option.map_eq_none_iff, hfactor]
  by_cases h : 1023 < attempt <;> simp [h]

namespace RetryPolicy

variable {p : RetryPolicy} {n left attempt : Nat} {draw : Binary64} {f : Failure}

/-! ## Pauses -/

/-- Whether a failure is tried again, as far as there are attempts left. -/
def Retries (p : RetryPolicy) (f : Failure) : Prop := f.isOneOf p.retryOn = true

/-- How many attempts a policy makes at most, whatever its limit is. -/
def reach (p : RetryPolicy) : Nat := if p.jitterFault.isSome then 1 else 1025

/-- The failure of the last pause that a policy comes to. -/
def pauseFault (p : RetryPolicy) : Failure := p.jitterFault.getD pauseOverflow

theorem reach_pos (p : RetryPolicy) : 0 < p.reach := by
  unfold reach
  split <;> decide

theorem exists_pause (p : RetryPolicy) (draw : Binary64) (h : attempt + 1 < p.reach) :
    ∃ d, p.pause attempt draw = .ok d := by
  cases hfault : p.jitterFault with
  | some fault => simp [reach, hfault] at h
  | none =>
    have hsoon : ¬1023 < attempt := by
      simp only [reach, hfault] at h
      simp at h
      omega
    cases hpause : p.backoff.pause? attempt draw with
    | none => exact absurd (Backoff.pause?_eq_none_iff.1 hpause) hsoon
    | some d => exact ⟨d, by simp only [pause, hpause, hfault]⟩

theorem pause_eq_error (p : RetryPolicy) (draw : Binary64) (h : attempt + 1 = p.reach) :
    p.pause attempt draw = .error p.pauseFault := by
  cases hfault : p.jitterFault with
  | some fault =>
    have hzero : attempt = 0 := by simpa [reach, hfault] using h
    cases hpause : p.backoff.pause? attempt draw with
    | none => exact absurd (Backoff.pause?_eq_none_iff.1 hpause) (by omega)
    | some d => simp [pause, hpause, hfault, pauseFault]
  | none =>
    have hlate : 1023 < attempt := by
      simp [reach, hfault] at h
      omega
    simp [pause, Backoff.pause?_eq_none_iff.2 hlate, pauseFault, hfault]

/-! ## Giving up -/

/-- How an operation with `n` attempts is given up after some failures, and for which reason. -/
inductive GivesUp (p : RetryPolicy) (n : Nat) : List Failure → String → Prop
  /-- the last failure is not tried again -/
  | refused {before : List Failure} {last : Failure} (retried : ∀ g ∈ before, p.Retries g)
      (early : before.length < min n p.reach) (refused : ¬p.Retries last) :
      GivesUp p n (before ++ [last]) last.reason
  /-- there are no further attempts -/
  | exhausted {before : List Failure} {last : Failure} (retried : ∀ g ∈ before, p.Retries g)
      (retries : p.Retries last) (spent : before.length + 1 = n) (reached : n ≤ p.reach) :
      GivesUp p n (before ++ [last]) last.text
  /-- there are, but there is no pause before the next one -/
  | stuck {failures : List Failure} (retried : ∀ g ∈ failures, p.Retries g)
      (spent : failures.length = p.reach) (beyond : p.reach < n) :
      GivesUp p n failures p.pauseFault.reason

theorem GivesUp.length_le {failures : List Failure} {reason : String}
    (h : p.GivesUp n failures reason) : failures.length ≤ min n p.reach := by
  cases h with
  | refused retried early refused =>
    rw [List.length_append, List.length_singleton]
    omega
  | exhausted retried retries spent reached =>
    rw [List.length_append, List.length_singleton]
    omega
  | stuck retried spent beyond => omega

theorem GivesUp.ne_nil {failures : List Failure} {reason : String}
    (h : p.GivesUp n failures reason) : failures ≠ [] := by
  cases h with
  | refused retried early refused => simp
  | exhausted retried retries spent reached => simp
  | stuck retried spent beyond =>
    rw [← List.length_pos_iff, spent]
    exact p.reach_pos

/-- An operation that always fails in the same way, and not for good, is given up when its attempts
or those that the policy can make are spent. -/
theorem GivesUp.of_forall_eq {failures : List Failure} {reason : String}
    (h : p.GivesUp n failures reason) (hretries : p.Retries f) (hall : ∀ g ∈ failures, g = f) :
    failures.length = min n p.reach ∧
      reason = if n ≤ p.reach then f.text else p.pauseFault.reason := by
  cases h with
  | @refused before last retried early refused =>
    have hlast := hall last (List.mem_append_right _ List.mem_cons_self)
    exact absurd (hlast ▸ hretries) refused
  | @exhausted before last retried retries spent reached =>
    have hlast := hall last (List.mem_append_right _ List.mem_cons_self)
    refine ⟨?_, by rw [if_pos reached, hlast]⟩
    rw [List.length_append, List.length_singleton]
    omega
  | stuck retried spent beyond =>
    refine ⟨by omega, ?_⟩
    rw [if_neg (Nat.not_le.2 beyond)]

theorem reason_exhausted (limit : Value) (f : Failure) :
    (RetryFault.exhausted limit f).failure.reason = f.text := by
  simp [RetryFault.failure, Failure.reason]

theorem decide_of_not_retries (h : ¬p.Retries f) :
    p.decide left attempt draw f = .stop (.passed f) := by
  have hrefused : f.isOneOf p.retryOn = false := by simpa [Retries] using h
  simp [RetryPolicy.decide, hrefused]

theorem decide_zero (h : p.Retries f) :
    p.decide 0 attempt draw f = .stop (.exhausted p.limit f) := by
  have htries : f.isOneOf p.retryOn = true := h
  simp [RetryPolicy.decide, htries]

theorem decide_succ (h : p.Retries f) {pause : Binary64}
    (hpause : p.pause attempt draw = .ok pause) :
    p.decide (left + 1) attempt draw f = .again pause := by
  have htries : f.isOneOf p.retryOn = true := h
  simp [RetryPolicy.decide, htries, hpause]

theorem decide_succ_of_error (h : p.Retries f) {fault : Failure}
    (hpause : p.pause attempt draw = .error fault) :
    p.decide (left + 1) attempt draw f = .stop (.passed fault) := by
  have htries : f.isOneOf p.retryOn = true := h
  simp [RetryPolicy.decide, htries, hpause]

/-- After a further failure there is another attempt, or the operation is given up. -/
theorem decide_cases {before : List Failure} (hbefore : ∀ g ∈ before, p.Retries g)
    (hn : left + before.length + 1 = n) (hreach : before.length < p.reach) (draw : Binary64)
    (f : Failure) :
    (∃ pause, p.decide left before.length draw f = .again pause ∧ p.Retries f ∧ 0 < left ∧
      before.length + 1 < p.reach) ∨
    ∃ fault, p.decide left before.length draw f = .stop fault ∧
      p.GivesUp n (before ++ [f]) fault.failure.reason := by
  by_cases hretries : p.Retries f
  · have hretried : ∀ g ∈ before ++ [f], p.Retries g :=
      List.forall_mem_append.2 ⟨hbefore, List.forall_mem_singleton.2 hretries⟩
    cases left with
    | zero =>
      refine .inr ⟨.exhausted p.limit f, decide_zero hretries, ?_⟩
      rw [reason_exhausted]
      exact .exhausted hbefore hretries (by omega) (by omega)
    | succ left =>
      by_cases hnext : before.length + 1 < p.reach
      · obtain ⟨pause, hpause⟩ := exists_pause p draw hnext
        exact .inl ⟨pause, decide_succ hretries hpause, hretries, Nat.succ_pos left, hnext⟩
      · have hpause := pause_eq_error p draw (show before.length + 1 = p.reach by omega)
        refine .inr ⟨.passed p.pauseFault, decide_succ_of_error hretries hpause, ?_⟩
        refine .stuck hretried ?_ (by omega)
        rw [List.length_append, List.length_singleton]
        omega
  · exact .inr ⟨.passed f, decide_of_not_retries hretries,
      .refused hbefore (by omega) hretries⟩

end RetryPolicy
end Polyglot
