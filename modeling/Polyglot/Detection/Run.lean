import Polyglot.Detection.Detector

/-!
# Runs of a detector

What is done with a detector, one operation after the other. Every operation may fail; the run goes
on with the detector as it is then. Detection itself changes nothing.
-/
namespace Polyglot.Detector

/-- An operation that may change a detector. -/
inductive Use
  | remember (language : String) (supported : List String)
  | forget
  | add (name : String) (strategy : Strategy)
  | remove (name : String)

/-- The detector after it was used. -/
def use (d : Detector) : Use → Detector
  | .remember language supported => (d.remember language supported).detector
  | .forget => d.forget.detector
  | .add name s => d.add name s
  | .remove name => d.remove name

/-- The detector after it was used several times. -/
def useAll (d : Detector) (uses : List Use) : Detector := uses.foldl use d

end Polyglot.Detector
