import Polyglot.Detection.Strategy
import Polyglot.Log.Event

/-!
# Language detector

Asks strategies in a configured order for the language of the user and takes the first answer
that is supported. A choice is stored by the strategies that are configured for it. A strategy
whose store fails is passed over; any other failure stops the detector.
-/
namespace Polyglot

/-- A language detector: its strategies by name, in the order in which they were added. -/
structure Detector where
  options : DetectionOptions
  context : DetectionContext
  strategies : List (String × Strategy)

namespace Detector

def builtIns : List (String × Strategy) := BuiltIn.all.map fun k => (k.name, .builtIn k)

def create (o : DetectionOptions) (c : DetectionContext) : Detector := ⟨o, c, builtIns⟩

/-- Adds a strategy; it takes the place of one with the same name. -/
def add (d : Detector) (name : String) (s : Strategy) : Detector :=
  { d with strategies := Entries.put d.strategies name s }

def remove (d : Detector) (name : String) : Detector :=
  { d with strategies := Entries.erase d.strategies name }

/-- Whether a failure only means that a store cannot be used. -/
def isStoreFailure (f : Failure) : Bool := f.isOneOf [.system, .infrastructure]

/-- What detection yields. -/
structure Detection where
  /-- the names of the strategies that were asked, in order -/
  asked : List String
  events : List Event
  result : Except Failure Key
  deriving Repr

/-- Asks the strategies of an order. -/
def ask (d : Detector) (supported : List String) (fallback : Key) : List String → Detection
  | [] => ⟨[], [], .ok fallback⟩
  | name :: rest =>
      match Entries.get? d.strategies name with
      | none => ask d supported fallback rest
      | some s =>
          match s.lookup d.options supported d.context with
          | .error f =>
              if isStoreFailure f then
                let o := ask d supported fallback rest
                { o with
                  asked := name :: o.asked
                  events := .detectorLookupFailed name f.text :: o.events }
              else ⟨[name], [], .error f⟩
          | .ok none =>
              let o := ask d supported fallback rest
              { o with asked := name :: o.asked }
          | .ok (some language) =>
              if language ≠ "" ∧ language ∈ supported then
                ⟨[name], [.languageDetected name language], .ok language⟩
              else
                let o := ask d supported fallback rest
                { o with asked := name :: o.asked }

/-- Finds the language of the user: the first answer that is supported, or the fallback. -/
def detect (d : Detector) (supported : List String) (fallback : Key) : Detection :=
  d.ask supported fallback d.options.order

/-- What storing a choice yields. -/
structure Stored where
  detector : Detector
  events : List Event
  result : Except Failure Unit

/-- Has the strategies of some names store a choice, or remove it when there is none. `report`
is the event of a store that fails. -/
def storeAll (d : Detector) (language : Option String) (report : String → String → Event) :
    List String → Stored
  | [] => ⟨d, [], .ok ()⟩
  | name :: rest =>
      match Entries.get? d.strategies name with
      | none => storeAll d language report rest
      | some s =>
          if !s.isPersistent then storeAll d language report rest
          else
            match s.store d.options language d.context with
            | .ok (s, c) =>
                storeAll
                  { d with strategies := Entries.put d.strategies name s, context := c }
                  language report rest
            | .error f =>
                if isStoreFailure f then
                  let o := storeAll d language report rest
                  { o with events := report name f.text :: o.events }
                else ⟨d, [], .error f⟩

/-- Stores a choice, unless the language is excluded or not supported. -/
def remember (d : Detector) (language : String) (supported : List String) : Stored :=
  if language ∈ d.options.excluded ∨ language ∉ supported then ⟨d, [], .ok ()⟩
  else d.storeAll (some language) Event.detectorCacheFailed d.options.stores

def forget (d : Detector) : Stored :=
  d.storeAll none Event.detectorClearFailed d.options.stores

end Detector
end Polyglot
