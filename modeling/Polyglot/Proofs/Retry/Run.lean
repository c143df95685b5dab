import Mathlib.Data.List.Forall2
import Polyglot.Proofs.Retry

/-!
# Runs with retries

An operation is called until it succeeds, fails for good or has used up its attempts, always with
the same arguments. After every call but the last there is one pause, and the pauses are those of
the policy for the attempts 0, 1, 2 and so on. The operations here are given by the outcomes of
their calls.
-/
namespace Polyglot.RetryPolicy

variable {σ α β : Type} {p : RetryPolicy}

/-! ## One attempt -/

section Attempt

variable {operation : σ → σ × Except Failure α} {state next : σ} {draws : List Binary64}
  {left attempt : Nat} {f : Failure}

theorem runFrom_of_ok {a : α} (h : operation state = (next, .ok a)) :
    p.runFrom operation left attempt state draws = ⟨next, draws, [], [], .ok a⟩ := by
  cases left <;> simp only [runFrom, h]

theorem runFrom_of_stop {fault : RetryFault} (h : operation state = (next, .error f))
    (hstop : p.decide left attempt (nextDraw draws).1 f = .stop fault) :
    p.runFrom operation left attempt state draws = ⟨next, draws, [], [], .error fault⟩ := by
  cases left <;> simp only [runFrom, h, hstop]

theorem runFrom_of_again {pause : Binary64} (h : operation state = (next, .error f))
    (hagain : p.decide (left + 1) attempt (nextDraw draws).1 f = .again pause) :
    p.runFrom operation (left + 1) attempt state draws =
      let o := p.runFrom operation left (attempt + 1) next (nextDraw draws).2
      { o with
        pauses := pause :: o.pauses
        events := pauseEvent attempt pause f :: o.events } := by
  rw [runFrom]
  simp only [h, hagain]

end Attempt

/-! ## Draws -/

/-- The draws that are left come from the row of all draws, one after the other. -/
theorem nextDraw_drop (draws : List Binary64) (n : Nat) :
    nextDraw (draws.drop n) = (draws.getD n .zero, draws.drop (n + 1)) := by
  rw [← List.drop_drop]
  cases h : draws.drop n with
  | nil => simp [nextDraw, List.getD_eq_getElem?_getD, List.drop_eq_nil_iff.1 h]
  | cons d ds =>
    have hget : draws[n]? = some d := by
      rw [← List.head?_drop, h]
      rfl
    simp [nextDraw, List.getD_eq_getElem?_getD, hget]

/-! ## Whole runs -/

/-- An operation that is given by the outcomes of its calls. It notes the arguments of each. -/
def scripted (outcomes : Nat → Except Failure α) (args : β) (calls : List β) :
    List β × Except Failure α :=
  (calls ++ [args], outcomes calls.length)

theorem scripted_replicate (outcomes : Nat → Except Failure α) (args : β) (k : Nat) :
    scripted outcomes args (List.replicate k args) =
      (List.replicate (k + 1) args, outcomes k) := by
  rw [scripted, List.length_replicate, List.replicate_succ']

/-- Whether all calls before a number failed in a way that is retried. -/
def RetriesBefore (p : RetryPolicy) (outcomes : Nat → Except Failure α) (k : Nat) : Prop :=
  ∀ i < k, ∃ f, outcomes i = .error f ∧ p.Retries f

theorem RetriesBefore.succ {outcomes : Nat → Except Failure α} {k : Nat} {f : Failure}
    (h : p.RetriesBefore outcomes k) (hk : outcomes k = .error f) (hf : p.Retries f) :
    p.RetriesBefore outcomes (k + 1) := by
  intro i hi
  rcases Nat.lt_succ_iff_lt_or_eq.1 hi with hlt | rfl
  · exact h i hlt
  · exact ⟨f, hk, hf⟩

/-- After how many calls an operation with `n` attempts ends, and how. -/
inductive Ends (p : RetryPolicy) (n : Nat) (outcomes : Nat → Except Failure α) :
    Nat → Except RetryFault α → Prop
  /-- the first success -/
  | succeeded {k : Nat} {a : α} (retried : p.RetriesBefore outcomes k) (early : k < n)
      (success : outcomes k = .ok a) : Ends p n outcomes (k + 1) (.ok a)
  /-- the first failure that is not retried -/
  | refused {k : Nat} {f : Failure} (retried : p.RetriesBefore outcomes k) (early : k < n)
      (failure : outcomes k = .error f) (refused : ¬p.Retries f) :
      Ends p n outcomes (k + 1) (.error (.passed f))
  /-- the failure of the last attempt -/
  | exhausted {k : Nat} {f : Failure} (retried : p.RetriesBefore outcomes k) (last : k + 1 = n)
      (failure : outcomes k = .error f) (retries : p.Retries f) :
      Ends p n outcomes (k + 1) (.error (.exhausted p.limit f))

/-- What a run from attempt `m` on yields that ends with call `k`, the calls being counted from
zero. Between two calls there is one pause, with a draw of its own. -/
structure IsRun (p : RetryPolicy) (n : Nat) (outcomes : Nat → Except Failure α) (args : β)
    (draws : List Binary64) (m k : Nat) (o : Outcome (List β) α) : Prop where
  ends : p.Ends n outcomes (k + 1) o.result
  calls : o.state = List.replicate (k + 1) args
  pauses : List.Forall₂ (fun i pause => p.pause i (draws.getD i .zero) = .ok pause)
    (List.range' m (k - m)) o.pauses
  rest : o.draws = draws.drop k

section Run

variable {outcomes : Nat → Except Failure α} (args : β) (draws : List Binary64) {n m k : Nat}

/-- An end without another pause. -/
theorem Ends.isRun {result : Except RetryFault α} (h : p.Ends n outcomes (m + 1) result) :
    p.IsRun n outcomes args draws m m
      ⟨List.replicate (m + 1) args, draws.drop m, [], [], result⟩ where
  ends := h
  calls := rfl
  pauses := by simp
  rest := rfl

theorem IsRun.again {o : Outcome (List β) α} {pause : Binary64} (event : Event)
    (h : p.IsRun n outcomes args draws (m + 1) k o) (hk : m < k)
    (hpause : p.pause m (draws.getD m .zero) = .ok pause) :
    p.IsRun n outcomes args draws m k
      { o with
        pauses := pause :: o.pauses
        events := event :: o.events } where
  ends := h.ends
  calls := h.calls
  pauses := by
    rw [show k - m = k - (m + 1) + 1 by omega, List.range'_succ]
    exact .cons hpause h.pauses
  rest := h.rest

/-- A call that does not fail in a way that is retried is the last one. -/
theorem isRun_of_not_retried (left : Nat) (hbefore : p.RetriesBefore outcomes m) (hm : m < n)
    (hlast : ∀ f, outcomes m = .error f → ¬p.Retries f) :
    p.IsRun n outcomes args draws m m
      (p.runFrom (scripted outcomes args) left m (List.replicate m args) (draws.drop m)) := by
  have hcall := scripted_replicate outcomes args m
  cases houtcome : outcomes m with
  | ok a =>
    rw [houtcome] at hcall
    rw [runFrom_of_ok hcall]
    exact Ends.isRun args draws (.succeeded hbefore hm houtcome)
  | error f =>
    rw [houtcome] at hcall
    rw [runFrom_of_stop hcall (decide_of_not_retries (hlast f houtcome))]
    exact Ends.isRun args draws (.refused hbefore hm houtcome (hlast f houtcome))

theorem exists_isRun_runFrom {left : Nat} (hn : m + left + 1 = n) (hreach : n ≤ p.reach)
    (hbefore : p.RetriesBefore outcomes m) :
    ∃ k, m ≤ k ∧ p.IsRun n outcomes args draws m k
      (p.runFrom (scripted outcomes args) left m (List.replicate m args) (draws.drop m)) := by
  induction left generalizing m with
  | zero =>
    by_cases hretried : ∃ f, outcomes m = .error f ∧ p.Retries f
    · obtain ⟨f, hm, hf⟩ := hretried
      have hcall := scripted_replicate outcomes args m
      rw [hm] at hcall
      rw [runFrom_of_stop hcall (decide_zero hf)]
      exact ⟨m, Nat.le_refl m, Ends.isRun args draws (.exhausted hbefore hn hm hf)⟩
    · exact ⟨m, Nat.le_refl m, isRun_of_not_retried args draws 0 hbefore (by omega)
        fun f hm hf => hretried ⟨f, hm, hf⟩⟩
  | succ left ih =>
    by_cases hretried : ∃ f, outcomes m = .error f ∧ p.Retries f
    · obtain ⟨f, hm, hf⟩ := hretried
      obtain ⟨pause, hpause⟩ := exists_pause p (draws.getD m .zero) (by omega : m + 1 < p.reach)
      obtain ⟨k, hk, hrun⟩ := ih (by omega) (hbefore.succ hm hf)
      have hcall := scripted_replicate outcomes args m
      have hdraw := nextDraw_drop draws m
      have hagain : p.decide (left + 1) m (nextDraw (draws.drop m)).1 f = .again pause := by
        rw [hdraw]
        exact decide_succ hf hpause
      rw [hm] at hcall
      rw [runFrom_of_again hcall hagain, hdraw]
      exact ⟨k, by omega, hrun.again args draws _ hk hpause⟩
    · exact ⟨m, Nat.le_refl m, isRun_of_not_retried args draws (left + 1) hbefore (by omega)
        fun f hm hf => hretried ⟨f, hm, hf⟩⟩

/-- A run of a policy whose attempts can be counted and are all within its reach. -/
theorem exists_isRun_run (hlimit : p.attempts? = some n) (hpos : 0 < n) (hreach : n ≤ p.reach)
    (outcomes : Nat → Except Failure α) :
    ∃ k, p.IsRun n outcomes args draws 0 k (p.run (scripted outcomes args) [] draws) := by
  have hdefect : p.defect? = none := by simp only [defect?, hlimit]
  have hattempts : p.attempts - 1 = n - 1 := by rw [attempts, hlimit, Option.getD_some]
  have hcount : 0 + (n - 1) + 1 = n := by omega
  have hbefore : p.RetriesBefore outcomes 0 := fun i hi => absurd hi (Nat.not_lt_zero i)
  obtain ⟨k, -, hrun⟩ := exists_isRun_runFrom args draws hcount hreach hbefore
  refine ⟨k, ?_⟩
  rw [run, hdefect, hattempts]
  exact hrun

end Run

/-- A run calls its operation with the same arguments up to the first success or the first failure
that is not retried, at most as often as there are attempts. It yields that success or that failure,
or else the failure of the last attempt, with the number of attempts. Between its calls it makes
the pauses of the policy, in order. -/
theorem ends_run_scripted {n : Nat} (hlimit : p.limit = .int n) (hpos : 1 ≤ n) (hle : n ≤ 1024)
    (hjitter : p.jitterFault = none) (outcomes : Nat → Except Failure α) (args : β)
    (draws : List Binary64) :
    let o := p.run (scripted outcomes args) [] draws
    ∃ k, p.Ends n outcomes k o.result ∧
      o.state = List.replicate k args ∧
      List.Forall₂ (fun i pause => p.pause i (draws.getD i .zero) = .ok pause)
        (List.range (k - 1)) o.pauses ∧
      ∀ limit last, o.result = .error (.exhausted limit last) →
        (RetryFault.exhausted limit last).failure.kind = .retryExhausted ∧
        (RetryFault.exhausted limit last).failure.context =
          ([("attempts", .int n)] : Bundle) ∧
        (RetryFault.exhausted limit last).failure.cause = some last.text := by
  intro o
  have hattempts : p.attempts? = some n := by simp only [attempts?, hlimit, Int.toNat_natCast]
  have hreach : n ≤ p.reach := by
    simp only [reach, hjitter]
    exact Nat.le_succ_of_le hle
  obtain ⟨k, hrun⟩ := exists_isRun_run args draws hattempts hpos hreach outcomes
  refine ⟨k + 1, hrun.ends, hrun.calls, ?_, ?_⟩
  · rw [Nat.add_sub_cancel, List.range_eq_range']
    exact hrun.pauses
  · intro limit last hresult
    have hends := hrun.ends
    rw [hresult] at hends
    cases hends
    rw [hlimit]
    exact ⟨rfl, rfl, rfl⟩

/-- Two timeouts are retried; the third failure is of another kind. -/
theorem ends_run_scripted_flaky :
    let p : RetryPolicy :=
      { RetryPolicy.create (.int 5) ⟨1000000⟩ ⟨10000000⟩ with retryOn := [.system] }
    let outcomes (i : Nat) : Except Failure Nat :=
      if i < 2 then .error (.plain .timedOut "slow") else .error (.plain .wrongType "no bundle")
    let o := p.run (scripted outcomes "en") [] [.zero]
    (p.limit = .int 5 ∧ p.jitterFault = none) ∧
    ∃ k, p.Ends 5 outcomes k o.result ∧
      o.state = List.replicate k "en" ∧
      List.Forall₂ (fun i pause => p.pause i ([Binary64.zero].getD i .zero) = .ok pause)
        (List.range (k - 1)) o.pauses ∧
      ∀ limit last, o.result = .error (.exhausted limit last) →
        (RetryFault.exhausted limit last).failure.kind = .retryExhausted ∧
        (RetryFault.exhausted limit last).failure.context =
          ([("attempts", .int 5)] : Bundle) ∧
        (RetryFault.exhausted limit last).failure.cause = some last.text := by
  intro p outcomes o
  exact ⟨⟨rfl, rfl⟩, ends_run_scripted (p := p) (n := 5) rfl (by decide) (by decide) rfl outcomes
    "en" [.zero]⟩

end Polyglot.RetryPolicy
