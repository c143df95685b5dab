import Polyglot.Client.Basic

/-!
# Sessions

Calls of one client side by side. A call in progress asks for its bundle, and when that has to be
fetched it waits for the task; other calls may begin and go on in between. A session goes on by
single steps, in any order: what a call does between two bundles is one step, and so is each
step of a fetch.
-/
namespace Polyglot

/-- A call in progress. -/
inductive Waiting
  /-- is about to ask for its bundle -/
  | asks (call : Call)
  /-- waits for a task to end -/
  | joined (call : Call) (task : Nat)

def Waiting.call : Waiting → Call
  | asks call => call
  | joined call _ => call

/-- The calls of a client that are in progress, and what the tasks that ended have yielded. -/
structure Session (σ : Type) where
  world : σ
  client : Client
  calls : List Waiting
  finished : List (Nat × Except LoadFault Bundle)

inductive Session.Step
  /-- a call begins -/
  | switchLanguage (language : String)
  | addSpace (space : Key)
  /-- somebody else asks for a bundle -/
  | load (language : Key) (space : Option Key)
  /-- a call asks for its bundle -/
  | ask (index : Nat)
  /-- an unfinished fetch takes a step -/
  | turn (index : Nat)
  /-- a call whose task has ended goes on -/
  | wake (index : Nat)

namespace Session

variable {σ : Type}

def view (s : Session σ) : View := s.client.view

def withLoader (s : Session σ) (world : σ) (l : Loader) : Session σ :=
  { s with world := world, client := { s.client with loader := l } }

/-- The session in which a call has gone on, next to some other calls. -/
def goesOn (s : Session σ) (others : List Waiting) : Progress → Session σ
  | .waits v _ call =>
      { s with client := { s.client with view := v }, calls := others ++ [.asks call] }
  | .ends v _ _ => { s with client := { s.client with view := v }, calls := others }

def create (c : Client) (world : σ) : Session σ :=
  let s : Session σ := ⟨world, c, [], []⟩
  s.goesOn [] (Call.start c.plan c.supportedLanguages c.view)

def resume (s : Session σ) (index : Nat) (call : Call) (result : Except LoadFault Bundle) :
    Session σ :=
  s.goesOn (s.calls.eraseIdx index)
    (call.resume s.client.plan s.client.supportedLanguages s.view result)

/-- Asks for the bundle of a language and a namespace. -/
def request (outside : Outside σ) (s : Session σ) (language : Key) (space : Option Key) :
    Session σ × Reply :=
  let (world, now) := outside.now s.world
  let (l, reply) := s.client.loader.request s.client.supply now language space
  (s.withLoader world l, reply)

/-- A call asks for its bundle; it goes on at once when the bundle is there. -/
def ask (outside : Outside σ) (s : Session σ) (index : Nat) (call : Call) : Session σ :=
  let wanted := call.wanted s.client.plan
  let (s, reply) := s.request outside wanted.1 wanted.2
  match reply with
  | .ready b => s.resume index call (.ok b)
  | .waits task _ => { s with calls := s.calls.set index (.joined call task) }

/-- A fetch takes a step; when it ends its task does. -/
def turn (outside : Outside σ) (s : Session σ) (index task : Nat) (f : Fetch) : Session σ :=
  let l := s.client.loader
  let t := f.turn outside s.client.supply.retry s.world
  match t.step with
  | .goesOn g => s.withLoader t.world { l with tasks := l.tasks.set index (task, g) }
  | .won source loaded =>
      let (world, now) := outside.now t.world
      { s.withLoader world (l.settle now task f (.ok (source, loaded))).1 with
        finished := (task, .ok loaded.bundle) :: s.finished }
  | .lost fault =>
      { s.withLoader t.world (l.drop task f) with
        finished := (task, .error fault) :: s.finished }

/-- A step of a session. One that names no call or fetch changes nothing. -/
def act (outside : Outside σ) (s : Session σ) : Step → Session σ
  | .switchLanguage language => s.goesOn s.calls (Call.switch s.view language)
  | .addSpace space => s.goesOn s.calls (Call.addSpace s.view space)
  | .load language space => (s.request outside language space).1
  | .ask index =>
      match s.calls[index]? with
      | some (.asks call) => s.ask outside index call
      | _ => s
  | .turn index =>
      match s.client.loader.tasks[index]? with
      | some (task, f) => s.turn outside index task f
      | none => s
  | .wake index =>
      match s.calls[index]? with
      | some (.joined call task) =>
          match Entries.get? s.finished task with
          | some result => s.resume index call result
          | none => s
      | _ => s

def run (outside : Outside σ) (s : Session σ) (steps : List Step) : Session σ :=
  steps.foldl (act outside) s

/-- The call that goes on with a step, and the answer it goes on with. -/
def answered? (outside : Outside σ) (s : Session σ) : Step →
    Option (Call × Except LoadFault Bundle)
  | .ask index =>
      match s.calls[index]? with
      | some (.asks call) =>
          let wanted := call.wanted s.client.plan
          match (s.request outside wanted.1 wanted.2).2 with
          | .ready b => some (call, .ok b)
          | .waits .. => none
      | _ => none
  | .wake index =>
      match s.calls[index]? with
      | some (.joined call task) => (Entries.get? s.finished task).map fun r => (call, r)
      | _ => none
  | _ => none

end Session
end Polyglot
