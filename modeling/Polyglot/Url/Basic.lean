import Polyglot.Text.Case
import Polyglot.Url.Address6
import Polyglot.Url.Percent

/-!
# URLs

Splits a URL into its parts without judging them: a scheme, an authority after two slashes,
a path, a query after the first question mark and a fragment after the first number sign.
Tabs and line ends do not count, and neither do control characters and spaces in front. Only
an authority can make a URL malformed.
-/
namespace Polyglot

/-- The parts of a URL. -/
structure Url where
  scheme : String
  authority : String
  path : String
  query : String
  fragment : String
  deriving DecidableEq, Repr

namespace Url

open Text

/-- The characters of a scheme after its first letter. -/
def isSchemeChar (c : Char) : Bool := c.isAlphanum || c == '+' || c == '-' || c == '.'

def cutScheme (cs : List Char) : List Char × List Char :=
  match cutAt ':' cs with
  | (name, some rest) =>
      if name.head?.any Char.isAlpha && name.all isSchemeChar then (name.map Char.toLower, rest)
      else ([], cs)
  | (_, none) => ([], cs)

def endsAuthority (c : Char) : Bool := c == '/' || c == '?' || c == '#'

def cutAuthority (cs : List Char) : List Char × List Char :=
  match cs with
  | '/' :: '/' :: r =>
      (r.takeWhile fun c => !endsAuthority c, r.dropWhile fun c => !endsAuthority c)
  | cs => ([], cs)

/-- The characters that stand for a delimiter of URLs in another form: their compatibility
decomposition holds a slash, a question mark, a number sign, an at sign or a colon. -/
def disguised : List Nat := [
  0x2047, 0x2048, 0x2049, 0x2100, 0x2101, 0x2105, 0x2106, 0x2A74, 0xFE13, 0xFE16, 0xFE55,
  0xFE56, 0xFE5F, 0xFE6B, 0xFF03, 0xFF0F, 0xFF1A, 0xFF1F, 0xFF20]

/-- What follows the last at sign of an authority. -/
def afterUser (cs : List Char) : List Char := (cs.reverse.takeWhile (· ≠ '@')).reverse

/-- Whether an authority with brackets puts them around its host alone, with at most a port behind
them. Where the brackets belong to the user, the host has to be one that may stand in them. -/
def isBracketedAuthority (cs : List Char) : Bool :=
  let cs := afterUser cs
  match cutAt '[' cs with
  | (front, some rest) =>
      let (name, port) := cutAt ']' rest
      let port := port.getD []
      front.isEmpty && (port.isEmpty || port.head? == some ':') && isBracketed name
  | (_, none) => isBracketed (cutAt ':' cs).1

def isAuthority (cs : List Char) : Bool :=
  (cs.contains '[' == cs.contains ']') &&
    (!cs.contains '[' || isBracketedAuthority cs) &&
    !cs.any fun c => disguised.contains c.toNat

/-- The part before a separator and the part after it. -/
def cutOff (sep : Char) (cs : List Char) : List Char × List Char :=
  let (a, b) := cutAt sep cs
  (a, b.getD [])

def clean (cs : List Char) : List Char :=
  (cs.dropWhile fun c => c.toNat ≤ 32).filter fun c => !(c == '\t' || c == '\r' || c == '\n')

/-- The parts of a URL, unless its authority is malformed. -/
def parse? (s : String) : Option Url :=
  let (scheme, rest) := cutScheme (clean s.toList)
  let (authority, rest) := cutAuthority rest
  let (rest, fragment) := cutOff '#' rest
  let (path, query) := cutOff '?' rest
  if isAuthority authority then
    some ⟨String.ofList scheme, String.ofList authority, String.ofList path,
      String.ofList query, String.ofList fragment⟩
  else none

/-- The host name in lower case, without brackets and port; a zone keeps its case. -/
def host (u : Url) : String :=
  let cs := afterUser u.authority.toList
  let name :=
    match cutAt '[' cs with
    | (_, some r) => (cutAt ']' r).1
    | (_, none) => (cutAt ':' cs).1
  let (name, zone) := cutAt '%' name
  Text.lower (String.ofList name) ++ zone.elim "" fun z => String.ofList ('%' :: z)

end Url
end Polyglot
