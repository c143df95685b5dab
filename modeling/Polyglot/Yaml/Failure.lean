import Polyglot.Failure.Basic
import Polyglot.Text.Quoted
import Polyglot.Yaml.Token

/-!
# Failures of documents

What a fault of a document is apart from being one: a scalar that is written like a number or like a
time, but is none, fails as that number or time does. The other faults are faults of the document
alone.
-/
namespace Polyglot.Yaml

/-- The failure that a fault is apart from being one of the document. -/
def Fault.failure? : Fault → Option Failure
  | value text => some (.plain .badValue text)
  | character => some (.plain .overflow "Python int too large to convert to C int")
  | word text => some (.plain .missingKey (Text.quotedString text))
  | emptyNumber => some (.plain .missingItem "string index out of range")
  | time => some (.plain .missingMember "'NoneType' object has no attribute 'groupdict'")
  | _ => none

end Polyglot.Yaml
