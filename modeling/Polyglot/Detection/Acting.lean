import Polyglot.Detection.Detector

/-!
# Strategies that act

A custom strategy may do more than answer when it is asked: it may write to the stores, add and
remove strategies, or answer otherwise the next time. Detection goes on with the detector as it is
then; only its options are those from the start. Built-in strategies only read.
-/
namespace Polyglot

/-- What custom strategies do to a detector when they are asked, by their names. -/
abbrev Acts := String → CustomStrategy → Detector → Detector

/-- The detector after a strategy was asked. -/
def Strategy.act (acts : Acts) (name : String) (d : Detector) : Strategy → Detector
  | builtIn _ => d
  | custom t => acts name t d

namespace Detector

/-- What detection yields, and the detector after it. -/
structure Acted extends Detection where
  detector : Detector

/-- Notes that a strategy was asked before. -/
def Acted.behind (r : Acted) (name : String) (events : List Event) : Acted :=
  { r with asked := name :: r.asked, events := events ++ r.events }

/-- Asks the strategies of an order, which may act. -/
def askActing (d : Detector) (acts : Acts) (o : DetectionOptions) (supported : List String)
    (fallback : Key) : List String → Acted
  | [] => ⟨⟨[], [], .ok fallback⟩, d⟩
  | name :: rest =>
      match Entries.get? d.strategies name with
      | none => d.askActing acts o supported fallback rest
      | some s =>
          let e := s.act acts name d
          match s.lookup o supported d.context with
          | .error f =>
              if isStoreFailure f then
                (e.askActing acts o supported fallback rest).behind name
                  [.detectorLookupFailed name f.text]
              else ⟨⟨[name], [], .error f⟩, e⟩
          | .ok none => (e.askActing acts o supported fallback rest).behind name []
          | .ok (some language) =>
              if language ≠ "" ∧ language ∈ supported then
                ⟨⟨[name], [.languageDetected name language], .ok language⟩, e⟩
              else (e.askActing acts o supported fallback rest).behind name []

/-- Finds the language of the user with strategies that may act. -/
def detectActing (d : Detector) (acts : Acts) (supported : List String) (fallback : Key) : Acted :=
  d.askActing acts d.options supported fallback d.options.order

end Detector
end Polyglot
