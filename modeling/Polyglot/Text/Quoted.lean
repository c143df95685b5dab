import Polyglot.Text.Digit
import Polyglot.Text.Printable

/-!
# Quoted texts

The quoted form of a text, as diagnostics show it. The mark is the single quote
unless the text holds a single quote and no double quote. A backslash and the mark
are escaped, line feeds, carriage returns and tabs have short escapes, and any other
character that is not printable is written by its number.
-/
namespace Polyglot.Text

/-- A hexadecimal digit in lower case. -/
def hexChar (d : Nat) : Char :=
  if d % 16 < 10 then Char.ofNat (48 + d % 16) else Char.ofNat (87 + d % 16)

/-- The last `width` hexadecimal digits of `n`, most significant first. -/
def hexDigits : Nat → Nat → List Char
  | 0, _ => []
  | width + 1, n => hexDigits width (n / 16) ++ [hexChar n]

/-- The mark around the quoted form of a text. -/
def quoteMark (cs : List Char) : Char :=
  if cs.contains '\'' && !cs.contains '"' then '"' else '\''

def quoteChar (mark c : Char) : List Char :=
  if c = mark ∨ c = '\\' then ['\\', c]
  else if c = '\n' then ['\\', 'n']
  else if c = '\r' then ['\\', 'r']
  else if c = '\t' then ['\\', 't']
  else if isPrintable c then [c]
  else if c.toNat < 0x100 then '\\' :: 'x' :: hexDigits 2 c.toNat
  else if c.toNat < 0x10000 then '\\' :: 'u' :: hexDigits 4 c.toNat
  else '\\' :: 'U' :: hexDigits 8 c.toNat

def quoted (cs : List Char) : List Char :=
  let mark := quoteMark cs
  mark :: (cs.flatMap (quoteChar mark) ++ [mark])

def quotedString (s : String) : String := String.ofList (quoted s.toList)

end Polyglot.Text
