import Polyglot.Value.Text

/-!
# JSON writer

Writes values as JSON in ASCII. Items are separated by a comma and a space, keys end with
a colon and a space. A value that JSON does not know is written as its literal form.
-/
namespace Polyglot.Json

open Text

/-- A code unit of sixteen bits as an escape. -/
def unitEscape (n : Nat) : List Char := '\\' :: 'u' :: hexDigits 4 n

def charText (c : Char) : List Char :=
  let n := c.toNat
  if c = '"' then ['\\', '"']
  else if c = '\\' then ['\\', '\\']
  else if c = '\n' then ['\\', 'n']
  else if c = '\r' then ['\\', 'r']
  else if c = '\t' then ['\\', 't']
  else if n = 8 then ['\\', 'b']
  else if n = 12 then ['\\', 'f']
  else if 32 ≤ n ∧ n < 127 then [c]
  else if n < 0x10000 then unitEscape n
  else
    unitEscape (0xD800 + (n - 0x10000) / 0x400) ++ unitEscape (0xDC00 + (n - 0x10000) % 0x400)

def stringText (s : String) : String :=
  "\"" ++ String.ofList (s.toList.flatMap charText) ++ "\""

/-- A floating-point number; infinities and the number that is none have words. -/
def floatText : Binary64 → String
  | .nan => "NaN"
  | .infinity s => if s then "-Infinity" else "Infinity"
  | x => x.text

mutual

def write : Value → String
  | .null => "null"
  | .bool b => if b then "true" else "false"
  | .int n => intString n
  | .float x => floatText x
  | .text s => stringText s
  | .list xs => "[" ++ ", ".intercalate (writeItems xs) ++ "]"
  | .dict es => "\x7b" ++ ", ".intercalate (writeMembers es) ++ "\x7d"
  | .decimal d => stringText (Value.decimal d).literal
  | .date d => stringText d.literal
  | .moment m => stringText m.literal

def writeItems : List Value → List String
  | [] => []
  | v :: r => write v :: writeItems r

def writeMembers : Bundle → List String
  | [] => []
  | (k, v) :: r => (stringText k.display ++ ": " ++ write v) :: writeMembers r

end

end Polyglot.Json
