import Polyglot.Failure.Basic
import Polyglot.Log.Event
import Polyglot.Number.Duration
import Polyglot.Value.Text

/-!
# Retry

An operation that fails is tried again after a pause, up to a number of attempts. The pause
after attempt `n`, counted from zero, is the base pause doubled `n` times, but no longer than
the longest pause; a random part of a fraction of it is added. A failure of a kind that is
not to be retried goes on at once.
-/
namespace Polyglot

/-! ## Pauses -/

/-- The arithmetic in which pauses are computed. A whole number may be too large for it. -/
class PauseArithmetic (α : Type) where
  add : α → α → α
  mul : α → α → α
  less : α → α → Bool
  ofNat? : Nat → Option α

instance : PauseArithmetic Binary64 where
  add := Binary64.add
  mul := Binary64.mul
  less a b := Binary64.compare? a b == some .lt
  ofNat? n := Binary64.ofInt? (Int.ofNat n)

/-- How long pauses are. -/
structure Backoff (α : Type) where
  base : α
  longest : α
  /-- the fraction of a pause of which a random part is added -/
  jitter : α
  deriving DecidableEq, Repr

namespace Backoff

variable {α : Type} [PauseArithmetic α]

/-- The pause after an attempt, before the random part is added. -/
def capped? (b : Backoff α) (attempt : Nat) : Option α :=
  (PauseArithmetic.ofNat? (Nat.pow 2 attempt)).map fun factor =>
    let pause := PauseArithmetic.mul b.base factor
    if PauseArithmetic.less b.longest pause then b.longest else pause

/-- The pause after an attempt, for a draw between zero and one. There is none when the
factor is too large for the arithmetic. -/
def pause? (b : Backoff α) (attempt : Nat) (draw : α) : Option α :=
  (b.capped? attempt).map fun pause =>
    PauseArithmetic.add pause (PauseArithmetic.mul (PauseArithmetic.mul pause b.jitter) draw)

/-- The pauses after some attempts, for as many draws. -/
def pauses? (b : Backoff α) : List (Nat × α) → Option (List α)
  | [] => some []
  | (attempt, draw) :: rest =>
      match b.pause? attempt draw, b.pauses? rest with
      | some pause, some pauses => some (pause :: pauses)
      | _, _ => none

end Backoff

/-! ## Policies -/

/-- When and how often an operation is tried again. -/
structure RetryPolicy where
  /-- how many attempts there are; an operation is not tried at all unless this is whole -/
  limit : Value
  backoff : Backoff Binary64
  /-- why nothing random can be added to a pause, if so -/
  jitterFault : Option Failure
  retryOn : List FailureKind
  deriving Repr

/-- How an operation failed in the end. -/
inductive RetryFault
  /-- a failure that is not retried -/
  | passed (failure : Failure)
  /-- the last of all attempts failed -/
  | exhausted (limit : Value) (last : Failure)
  deriving Repr

namespace RetryFault

def failure : RetryFault → Failure
  | passed f => f
  | exhausted limit f =>
      ⟨.retryExhausted, "Gave up after " ++ limit.display ++ " attempts: " ++ f.text,
        none, [("attempts", limit)], some f.text⟩

end RetryFault

/-- The failure when a pause cannot be computed. -/
def pauseOverflow : Failure := .plain .overflow "int too large to convert to float"

namespace RetryPolicy

/-- The random fraction unless a policy is told otherwise: a tenth. -/
def defaultJitter : Binary64 := .ofRatio false 1 10

def create (limit : Value) (base longest : Duration) : RetryPolicy :=
  ⟨limit, ⟨base.seconds, longest.seconds, defaultJitter⟩, none, [.any]⟩

/-- The policy with another random fraction. A number that is too large for the arithmetic, or a
value that is no number to it, is found out with the first pause. -/
def withJitter (p : RetryPolicy) (jitter : Value) : RetryPolicy :=
  match jitter.number? with
  | none => { p with jitterFault := some (.plain .wrongType "") }
  | some (.float x) => { p with backoff := { p.backoff with jitter := x } }
  | some (.int n) =>
      match Binary64.ofInt? n with
      | none => { p with jitterFault := some pauseOverflow }
      | some x => { p with backoff := { p.backoff with jitter := x } }

/-- How many attempts there are, as far as they can be counted. -/
def attempts? (p : RetryPolicy) : Option Nat :=
  match p.limit with
  | .int n => some n.toNat
  | .bool b => some (if b then 1 else 0)
  | _ => none

/-- How many attempts there are; none where they cannot be counted. -/
def attempts (p : RetryPolicy) : Nat := p.attempts?.getD 0

/-- The failure of every run where the attempts cannot be counted. -/
def defect? (p : RetryPolicy) : Option Failure :=
  match p.attempts? with
  | some _ => none
  | none =>
      some (.plain .wrongType
        ("'" ++ p.limit.kindName ++ "' object cannot be interpreted as an integer"))

/-- The pause after an attempt, for a draw between zero and one. -/
def pause (p : RetryPolicy) (attempt : Nat) (draw : Binary64) : Except Failure Binary64 :=
  match p.backoff.pause? attempt draw with
  | none => .error pauseOverflow
  | some d =>
      match p.jitterFault with
      | some f => .error f
      | none => .ok d

/-- What follows a failed attempt. -/
inductive Decision
  /-- pause, then try again -/
  | again (pause : Binary64)
  | stop (fault : RetryFault)
  deriving Repr

/-- What follows the failure of an attempt when `left` further attempts remain. -/
def decide (p : RetryPolicy) (left attempt : Nat) (draw : Binary64) (f : Failure) : Decision :=
  if !f.isOneOf p.retryOn then .stop (.passed f)
  else
    match left with
    | 0 => .stop (.exhausted p.limit f)
    | _ + 1 =>
        match p.pause attempt draw with
        | .error fault => .stop (.passed fault)
        | .ok d => .again d

/-- What is reported before a pause. -/
def pauseEvent (attempt : Nat) (pause : Binary64) (f : Failure) : Event :=
  .retryScheduled (attempt + 1) (pause.roundTo 3) f.text

/-- What a run with retries yields. -/
structure Outcome (σ α : Type) where
  state : σ
  /-- the random draws that are left -/
  draws : List Binary64
  pauses : List Binary64
  events : List Event
  result : Except RetryFault α

/-- The next random draw and those after it; when they are used up it is zero. -/
def nextDraw : List Binary64 → Binary64 × List Binary64
  | [] => (.zero, [])
  | d :: ds => (d, ds)

/-- Runs an operation on a state from attempt `attempt` on, with `left` further attempts. -/
def runFrom {σ α : Type} (p : RetryPolicy) (operation : σ → σ × Except Failure α)
    (left attempt : Nat) (state : σ) (draws : List Binary64) : Outcome σ α :=
  let (state, result) := operation state
  match result with
  | .ok a => ⟨state, draws, [], [], .ok a⟩
  | .error f =>
      let (draw, rest) := nextDraw draws
      match p.decide left attempt draw f, left with
      | .stop fault, _ => ⟨state, draws, [], [], .error fault⟩
      | .again _, 0 => ⟨state, draws, [], [], .error (.exhausted p.limit f)⟩
      | .again pause, left + 1 =>
          let o := runFrom p operation left (attempt + 1) state rest
          { o with
            pauses := pause :: o.pauses
            events := pauseEvent attempt pause f :: o.events }

/-- Runs an operation on a state until it succeeds, fails for good or has used up its
attempts. -/
def run {σ α : Type} (p : RetryPolicy) (operation : σ → σ × Except Failure α) (state : σ)
    (draws : List Binary64) : Outcome σ α :=
  match p.defect? with
  | some f => ⟨state, draws, [], [], .error (.passed f)⟩
  | none => runFrom p operation (p.attempts - 1) 0 state draws

end RetryPolicy
end Polyglot
