import Polyglot.Client.Loader

/-!
# Loads side by side, step by step

Callers that ask one loader for bundles, and the tasks that fetch them. A caller asks, joins a task
when its bundle has to be fetched, and goes on when the task has ended; it can be cancelled while
it waits. Everything that happens between two suspensions is one step, and the steps may come in
any order.
-/
namespace Polyglot

/-- A caller of a loader. -/
inductive Caller
  /-- waits for a task that fetches the bundle of a key -/
  | waits (key : Key) (task : Nat)
  | cancelled
  /-- has got its answer, from a task unless it was there at once -/
  | answered (task : Option Nat) (result : Except LoadFault Bundle)

/-- A caller right after it has asked for the bundle of a key. -/
def Caller.ofReply (key : Key) : Reply → Caller
  | .ready b => .answered none (.ok b)
  | .waits task _ => .waits key task

/-- A loader with its callers, and the results of the tasks that have ended. -/
structure Loads (σ : Type) where
  world : σ
  loader : Loader
  callers : List Caller
  finished : List (Nat × Except LoadFault Bundle)

inductive LoadStep (σ : Type)
  /-- a new caller asks for a bundle -/
  | ask (language : Key) (space : Option Key)
  | cancel (caller : Nat)
  /-- a caller whose task has ended goes on -/
  | resume (caller : Nat)
  /-- a task takes a step of its fetch -/
  | turn (task : Nat)
  | clearCache
  /-- the world goes on by itself -/
  | pass (world : σ)

namespace Loads

variable {σ : Type}

/-- A loader without callers and tasks. -/
def create (cache : BundleCache) (languages : List Value) (world : σ) : Loads σ :=
  ⟨world, Loader.create cache languages, [], []⟩

/-- A new caller asks for a bundle. -/
def ask (outside : Outside σ) (supply : Supply) (s : Loads σ) (language : Key)
    (space : Option Key) : Loads σ :=
  let (world, now) := outside.now s.world
  let (l, reply) := s.loader.request supply now language space
  { s with
    world := world
    loader := l
    callers := s.callers ++ [.ofReply (cacheKey language space) reply] }

def cancel (s : Loads σ) (caller : Nat) : Loads σ :=
  match s.callers[caller]? with
  | some (.waits _ _) => { s with callers := s.callers.set caller .cancelled }
  | _ => s

/-- A waiting caller goes on with the result of its task, if it has ended. -/
def resume (s : Loads σ) (caller : Nat) : Loads σ :=
  match s.callers[caller]? with
  | some (.waits _ task) =>
      match Entries.get? s.finished task with
      | some result => { s with callers := s.callers.set caller (.answered (some task) result) }
      | none => s
  | _ => s

/-- An unfinished task takes a step of its fetch. -/
def turnOf (outside : Outside σ) (supply : Supply) (s : Loads σ) (task : Nat) (f : Fetch) :
    Loads σ :=
  let t := f.turn outside supply.retry s.world
  match t.step with
  | .goesOn g =>
      { s with world := t.world, loader := { s.loader with
          tasks := Entries.put s.loader.tasks task g } }
  | .won source loaded =>
      let (world, now) := outside.now t.world
      { s with
        world := world
        loader := (s.loader.settle now task f (.ok (source, loaded))).1
        finished := (task, .ok loaded.bundle) :: s.finished }
  | .lost fault =>
      { s with
        world := t.world
        loader := s.loader.drop task f
        finished := (task, .error fault) :: s.finished }

/-- A task takes a step of its fetch, unless it has ended. -/
def turn (outside : Outside σ) (supply : Supply) (s : Loads σ) (task : Nat) : Loads σ :=
  match s.loader.fetch? task with
  | some f => s.turnOf outside supply task f
  | none => s

def clearCache (s : Loads σ) : Loads σ :=
  { s with loader := { s.loader with cache := s.loader.cache.clear } }

/-- Takes a step. One that names no caller or task to which it applies changes nothing. -/
def act (outside : Outside σ) (supply : Supply) (s : Loads σ) : LoadStep σ → Loads σ
  | .ask language space => s.ask outside supply language space
  | .cancel caller => s.cancel caller
  | .resume caller => s.resume caller
  | .turn task => s.turn outside supply task
  | .clearCache => s.clearCache
  | .pass world => { s with world := world }

/-- Takes steps one after the other. -/
def run (outside : Outside σ) (supply : Supply) (s : Loads σ) (steps : List (LoadStep σ)) :
    Loads σ :=
  steps.foldl (act outside supply) s

end Loads
end Polyglot
