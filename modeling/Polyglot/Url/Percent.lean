import Polyglot.Text.Blank
import Polyglot.Text.Utf8

/-!
# Percent encoding

A byte may be written as a percent sign and two hexadecimal digits. Forms are written with
`&` between their fields, `=` after a name and `+` for a space.
-/
namespace Polyglot.Url

open Text

/-- The number of a hexadecimal digit. -/
def hexValue? (c : Char) : Option Nat :=
  if '0' ≤ c ∧ c ≤ '9' then some (c.toNat - 48)
  else if 'a' ≤ c ∧ c ≤ 'f' then some (c.toNat - 87)
  else if 'A' ≤ c ∧ c ≤ 'F' then some (c.toNat - 55)
  else none

/-- The hexadecimal digit of a number below sixteen, in upper case. -/
def hexDigit (n : Nat) : Char := if n < 10 then Char.ofNat (48 + n) else Char.ofNat (55 + n)

/-- A byte as a percent sign and two digits. -/
def encodeByte (b : Nat) : List Char := ['%', hexDigit (b / 16), hexDigit (b % 16)]

/-- A text in which only the characters that `keep` accepts stand for themselves. -/
def encode (keep : Char → Bool) (cs : List Char) : List Char :=
  cs.flatMap fun c => if keep c then [c] else (utf8Bytes c).flatMap encodeByte

/-- The bytes of an ASCII text with its percent signs read; one that is not followed by two
digits stands for itself. -/
def decodeBytes (cs : List Char) : List Nat :=
  match cs with
  | [] => []
  | '%' :: a :: b :: r =>
      match hexValue? a, hexValue? b with
      | some x, some y => (x * 16 + y) :: decodeBytes r
      | _, _ => '%'.toNat :: decodeBytes (a :: b :: r)
  | c :: r => c.toNat :: decodeBytes r
termination_by cs.length

/-- Reads percent signs. Each run of ASCII characters is read on its own; `run` holds the
current one in reverse. -/
def decodeRuns (run : List Char) : List Char → List Char
  | [] => utf8Decode (decodeBytes run.reverse)
  | c :: r =>
      if c.toNat < 128 then decodeRuns (c :: run) r
      else utf8Decode (decodeBytes run.reverse) ++ c :: decodeRuns [] r

/-- A text with its percent signs read. -/
def decode (cs : List Char) : List Char := decodeRuns [] cs

/-! ## Forms -/

def isFormChar (c : Char) : Bool :=
  c.isAlphanum || c == '-' || c == '.' || c == '_' || c == '~'

/-- A name or value as it is written in a form. -/
def encodeField (s : String) : String :=
  String.ofList ((encode (fun c => isFormChar c || c == ' ') s.toList).map fun c =>
    if c = ' ' then '+' else c)

def encodeForm (fields : List (String × String)) : String :=
  String.intercalate "&" (fields.map fun f => encodeField f.1 ++ "=" ++ encodeField f.2)

/-- A name or value that is written in a form. -/
def decodeField (cs : List Char) : String :=
  String.ofList (decode (cs.map fun c => if c = '+' then ' ' else c))

/-- The fields of a form, without those that have no value. -/
def parseForm (cs : List Char) : List (String × String) :=
  (splitOn '&' cs).filterMap fun field =>
    match cutAt '=' field with
    | (_, none) => none
    | (_, some []) => none
    | (name, some value) => some (decodeField name, decodeField value)

/-- The first value of a field. -/
def formValue? (fields : List (String × String)) (name : String) : Option String :=
  (fields.find? fun f => f.1 = name).map (·.2)

end Polyglot.Url
