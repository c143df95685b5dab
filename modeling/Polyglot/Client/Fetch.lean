import Polyglot.Bundle.Cache
import Polyglot.Retry
import Polyglot.Source.Basic

/-!
# Fetches

A fetch asks the sources of a client in turn for one bundle, each with its own budget of
attempts, until one of them has it. It goes on by small steps, so that several fetches can take
turns: in a step a fetch either asks its current source once or ends a pause. Every step that
goes on lowers the rank of the fetch, so each fetch ends.
-/
namespace Polyglot

/-! ## Load faults -/

/-- Why a bundle cannot be loaded. -/
structure LoadFault where
  language : Key
  space : Option Key
  /-- what went wrong at each source, in order; empty when there is no source -/
  reports : List String
  deriving DecidableEq, Repr

namespace LoadFault

def text (f : LoadFault) : String :=
  "Failed to load translations for '" ++ (cacheKey f.language f.space).display ++ "': " ++
    if f.reports.isEmpty then "no translation source configured"
    else String.intercalate "; " f.reports

def context (f : LoadFault) : Bundle :=
  let stages : Bundle :=
    if f.reports.isEmpty then [] else [("stages", .list (f.reports.map .text))]
  ("language", f.language.toValue) :: ("namespace", Event.optional f.space) :: stages

def failure (f : LoadFault) : Failure := ⟨.loadFailed, f.text, none, f.context, none⟩

end LoadFault

/-! ## Steps -/

/-- A fetch in progress. -/
structure Fetch where
  language : Key
  space : Option Key
  /-- the sources that are left, the current one first -/
  sources : List Source
  /-- what went wrong at the sources before them -/
  reports : List String
  /-- how many further attempts the current source has -/
  left : Nat
  /-- the number of the attempt, counted from zero -/
  attempt : Nat
  isPausing : Bool
  deriving Repr

/-- A call of a source, with its answer. -/
structure SourceCall where
  source : Source
  answer : Except Failure Loaded

/-- What a step of a fetch leads to. -/
inductive FetchStep
  | goesOn (fetch : Fetch)
  | won (source : Source) (loaded : Loaded)
  | lost (fault : LoadFault)
  deriving Repr

namespace Fetch

/-- A fetch that has not asked any source. -/
def start (p : RetryPolicy) (sources : List Source) (language : Key) (space : Option Key) :
    Fetch :=
  ⟨language, space, sources, [], p.attempts - 1, 0, false⟩

def fault (f : Fetch) : LoadFault := ⟨f.language, f.space, f.reports⟩

def report (s : Source) (reason : String) : String := s.name ++ " source: " ++ reason

def leave (p : RetryPolicy) (f : Fetch) (s : Source) (rest : List Source) (reason : String) :
    FetchStep :=
  let g : Fetch :=
    { f with
      sources := rest
      reports := f.reports ++ [report s reason]
      left := p.attempts - 1
      attempt := 0 }
  if rest.isEmpty then .lost g.fault else .goesOn g

/-- What a step yields. -/
structure Turn (σ : Type) where
  world : σ
  events : List Event
  /-- the call of a source that the step makes, if any -/
  call : Option SourceCall
  step : FetchStep

def giveUp {σ : Type} (p : RetryPolicy) (f : Fetch) (s : Source) (rest : List Source)
    (reason : String) (call : Option SourceCall) (world : σ) : Turn σ :=
  ⟨world, [.bundleSourceFailed s.name f.language f.space reason], call, leave p f s rest reason⟩

/-- A step. A random number is drawn only for a pause; a source is not asked at all where the
attempts cannot be counted. -/
def turn {σ : Type} (outside : Outside σ) (p : RetryPolicy) (f : Fetch) (world : σ) : Turn σ :=
  match f.sources with
  | [] => ⟨world, [], none, .lost f.fault⟩
  | s :: rest =>
      if f.isPausing then ⟨world, [], none, .goesOn { f with isPausing := false }⟩
      else
        match p.defect? with
        | some defect => f.giveUp p s rest defect.reason none world
        | none =>
            let (world, answer) := s.fetch outside f.language f.space world
            let call : SourceCall := ⟨s, answer⟩
            match answer with
            | .ok loaded => ⟨world, [], call, .won s loaded⟩
            | .error failure =>
                let (drawn, draw) := outside.draw world
                match p.decide f.left f.attempt draw failure with
                | .again pause =>
                    ⟨outside.pause drawn pause, [RetryPolicy.pauseEvent f.attempt pause failure],
                      call,
                      .goesOn
                        { f with left := f.left - 1, attempt := f.attempt + 1, isPausing := true }⟩
                | .stop fault => f.giveUp p s rest fault.failure.reason call world

/-! ## Termination -/

/-- How many steps a fetch can still take, at most. -/
def rank (p : RetryPolicy) (f : Fetch) : Nat :=
  f.sources.length * (2 * p.attempts + 1) + 2 * f.left + (if f.isPausing then 1 else 0)

theorem left_pos_of_decide_again {p : RetryPolicy} {left attempt : Nat} {draw pause : Binary64}
    {f : Failure} (h : p.decide left attempt draw f = .again pause) : 0 < left := by
  cases left with
  | zero => simp [RetryPolicy.decide] at h; split at h <;> cases h
  | succ n => omega

theorem rank_leave_lt {p : RetryPolicy} {f g : Fetch} {s : Source} {rest : List Source}
    {reason : String} (hs : f.sources = s :: rest) (hp : f.isPausing = false)
    (h : leave p f s rest reason = .goesOn g) : g.rank p < f.rank p := by
  unfold leave at h
  split at h
  · cases h
  · cases h
    simp only [rank, hs, hp, List.length_cons, Bool.false_eq_true, if_false, Nat.add_mul]
    omega

theorem rank_turn_lt {σ : Type} {outside : Outside σ} {p : RetryPolicy} {f g : Fetch} {world : σ}
    (h : (f.turn outside p world).step = .goesOn g) : g.rank p < f.rank p := by
  unfold turn at h
  split at h
  · cases h
  · rename_i s rest hs
    split at h
    · rename_i hp
      cases h
      simp [rank, hp]
    · rename_i hp
      have hp : f.isPausing = false := by simpa using hp
      split at h
      · exact rank_leave_lt hs hp h
      · simp only at h
        split at h
        · cases h
        · split at h
          · rename_i hd
            have hl := left_pos_of_decide_again hd
            cases h
            simp only [rank, hp, if_true, Bool.false_eq_true, if_false]
            omega
          · exact rank_leave_lt hs hp h

/-! ## Runs -/

/-- What a fetch yields in the end. -/
structure Finished (σ : Type) where
  world : σ
  events : List Event
  /-- the calls of sources, in order -/
  calls : List SourceCall
  result : Except LoadFault (Source × Loaded)

def run {σ : Type} (outside : Outside σ) (p : RetryPolicy) (f : Fetch) (world : σ) : Finished σ :=
  let t := f.turn outside p world
  match h : t.step with
  | .goesOn g =>
      have : g.rank p < f.rank p := rank_turn_lt h
      let o := run outside p g t.world
      { o with events := t.events ++ o.events, calls := t.call.toList ++ o.calls }
  | .won s loaded => ⟨t.world, t.events, t.call.toList, .ok (s, loaded)⟩
  | .lost fault => ⟨t.world, t.events, t.call.toList, .error fault⟩
termination_by f.rank p

end Fetch
end Polyglot
