import Polyglot.Client.Basic

/-!
# Runs

What is done with a client once it has started, one operation after the other. Every operation
may fail; the run goes on with the client as it is then.
-/
namespace Polyglot.Client

/-- An operation on a client that has started. -/
inductive Op
  | switchLanguage (language : String)
  | addSpace (space : Key)
  | load (language : Key) (space : Option Key)
  | translate (space : Option String) (key : String) (values : Bundle)
  | clearCache

variable {σ : Type}

def act (outside : Outside σ) (c : Client) (world : σ) : Op → σ × Client
  | .switchLanguage language =>
      let o := c.switchLanguage outside language world
      (o.world, o.client)
  | .addSpace space =>
      let o := c.addSpace outside space world
      (o.world, o.client)
  | .load language space =>
      let o := c.load outside language space world
      (o.world, o.client)
  | .translate space key values => (world, (c.translate space key values).1)
  | .clearCache => (world, c.clearCache)

def actAll (outside : Outside σ) (c : Client) (world : σ) : List Op → σ × Client
  | [] => (world, c)
  | op :: ops =>
      let o := c.act outside world op
      actAll outside o.2 o.1 ops

/-- What can be done with a client: it may be started at any time, and not only once. -/
inductive Use
  | start
  | op (op : Op)

/-- The world and the client after it was used. -/
def use (outside : Outside σ) (c : Client) (world : σ) : Use → σ × Client
  | .start =>
      let o := c.start outside world
      (o.world, o.client)
  | .op op => c.act outside world op

/-- The world and the client after it was used several times. -/
def useAll (outside : Outside σ) (c : Client) (world : σ) : List Use → σ × Client
  | [] => (world, c)
  | u :: us =>
      let o := c.use outside world u
      useAll outside o.2 o.1 us

/-! ## Loads -/

/-- A load that something waited for, with what it brought. -/
structure LoadRecord where
  language : Key
  space : Option Key
  result : Except LoadFault Bundle

/-- The loads of a call that waits for a bundle, in their order. -/
def loadsOfCall (outside : Outside σ) (c : Client) (call : Call) (world : σ) : List LoadRecord :=
  let wanted := call.wanted c.plan
  let l := c.loader.load outside c.supply wanted.1 wanted.2 world
  let loaded := { c with loader := l.loader }
  let record : LoadRecord := ⟨wanted.1, wanted.2, l.result⟩
  match h : call.resume c.plan loaded.supportedLanguages c.view l.result with
  | .ends .. => [record]
  | .waits view _ next =>
      have : RankLt (next.rank view) (call.rank c.view) := by
        have hb := Call.isBelow_resume c.plan loaded.supportedLanguages c.view call l.result
        rw [h] at hb
        exact hb
      record :: loadsOfCall outside { loaded with view := view } next l.world
termination_by call.rank c.view
decreasing_by exact this

/-- The loads of a call from its beginning to its end. -/
def loadsOfRun (outside : Outside σ) (c : Client) (begun : Progress) (world : σ) :
    List LoadRecord :=
  match begun with
  | .ends .. => []
  | .waits view _ call => loadsOfCall outside { c with view := view } call world

/-! ## Changes -/

/-- A change of what a client shows. -/
inductive Change
  | switchLanguage (language : String)
  | addSpace (space : Key)
  deriving DecidableEq, Repr

def Change.begin (v : View) : Change → Progress
  | switchLanguage language => Call.switch v language
  | addSpace space => Call.addSpace v space

/-- What a change loads before it changes anything. -/
def Change.wanted (v : View) : Change → List (Key × Option Key)
  | switchLanguage language =>
      if v.language = .text language then []
      else (.text language, none) :: v.spaces.map fun space => (.text language, space.space?)
  | addSpace space => [(v.language, space.space?)]

def change (outside : Outside σ) (c : Client) (world : σ) :
    Change → Outcome σ (Except CallFault (Option Bundle))
  | .switchLanguage language => c.switchLanguage outside language world
  | .addSpace space => c.addSpace outside space world

end Polyglot.Client
