import Polyglot.Http.HostName
import Polyglot.Number.Literal
import Polyglot.Text.Quoted
import Polyglot.Url.Basic
import Polyglot.Value.Text

/-!
# Request addresses

The address that a request is sent to: the given URL in a normal form, with the parameters as
its query. The scheme and the host are in lower case, the usual port of the scheme is left out,
single and double points in the path are resolved, and characters that may not stand in a URL
are percent-encoded. A URL without a scheme and a host is only a path.
-/
namespace Polyglot.Http

open Text

/-- Why a URL is no address. -/
inductive AddressFault
  | tooLong
  | unprintable (c : Char) (position : Nat)
  | port (text : String)
  | host4 (text : String)
  | host6 (text : String)
  | hostName (text : String)
  /-- a path alone starts with two slashes -/
  | slashes
  /-- a path alone starts with a colon -/
  | colon
  deriving DecidableEq, Repr

def AddressFault.text : AddressFault → String
  | tooLong => "URL too long"
  | unprintable c n =>
      s!"Invalid non-printable ASCII character in URL, {quotedString (String.singleton c)} at " ++
        s!"position {n}."
  | port t => s!"Invalid port: {quotedString t}"
  | host4 t => s!"Invalid IPv4 address: {quotedString t}"
  | host6 t => s!"Invalid IPv6 address: {quotedString t}"
  | hostName t => s!"Invalid IDNA hostname: {quotedString t}"
  | slashes => "Relative URLs cannot have a path starting with '//'"
  | colon => "Relative URLs cannot have a path starting with ':'"

/-! ## Characters -/

/-- Whether the character is ASCII and neither a space nor a control character. -/
def isVisible (c : Char) : Bool := 32 < c.toNat && c.toNat < 127

def isPathChar (c : Char) : Bool := isVisible c && !"\"#<>?\x60\x7b\x7d".toList.contains c

/-- The characters that stand for themselves before a host. -/
def isUserChar (c : Char) : Bool := isPathChar c && !"/;=@[\\]^|".toList.contains c

def isQueryChar (c : Char) : Bool := isVisible c && !"\"#<>".toList.contains c

def isFragmentChar (c : Char) : Bool := isVisible c && !"\"<>\x60".toList.contains c

/-- The characters that stand for themselves in a host. -/
def isNameChar (c : Char) : Bool :=
  c.isAlphanum || "-._~!$&'()*+,;=\"\x60\x7b\x7d%|\\".toList.contains c

/-! ## Hosts and ports -/

/-- The states to which a character leads from a state of reading four numbers with any character
between two of them: in an even one a number starts, in an odd one it may also end. -/
def afterChar (c : Char) (state : Nat) : List Nat :=
  let next := if c.isDigit then [state + 1 - state % 2] else []
  if state % 2 = 1 ∧ state < 7 then (state + 1) :: next else next

/-- Whether a host is to be an address of 32 bits: four numbers with any character between two of
them. -/
def looksLikeAddress4 (cs : List Char) : Bool :=
  (cs.foldl (fun states c => (states.flatMap (afterChar c)).eraseDups) [0]).contains 7

/-- The form in which a host is sent, without brackets. -/
def sentHost (cs : List Char) : Except AddressFault (List Char) :=
  let s := String.ofList cs
  if looksLikeAddress4 cs then
    if Url.isAddress4 cs then .ok cs else .error (.host4 s)
  else if cs.head? = some '[' ∧ cs.getLast? = some ']' ∧ 2 ≤ cs.length then
    let inner := (cs.drop 1).dropLast
    if inner.head? != some 'v' && Url.isBracketed inner then .ok inner else .error (.host6 s)
  else if cs.all fun c => c.toNat < 128 then .ok (Url.encode isNameChar (cs.map Char.toLower))
  else
    match sentName? (lower s).toList with
    | some name => .ok name
    | none => .error (.hostName s)

def usualPort? (scheme : List Char) : Option Int :=
  match String.ofList scheme with
  | "http" => some 80
  | "https" => some 443
  | "ws" => some 80
  | "wss" => some 443
  | "ftp" => some 21
  | _ => none

/-- The port of a text, unless it is the usual one. -/
def port? (scheme cs : List Char) : Except AddressFault (Option Int) :=
  if cs.isEmpty then .ok none
  else
    match Literal.int cs with
    | .ok n => .ok (if usualPort? scheme = some n then none else some n)
    | .error _ => .error (.port (String.ofList cs))

/-! ## Paths -/

/-- The parts of a path with single and double points resolved; `done` holds the parts so far
in reverse. -/
def resolveParts (done : List (List Char)) : List (List Char) → List (List Char)
  | [] => done.reverse
  | ['.'] :: r => resolveParts done r
  | ['.', '.'] :: r =>
      match done with
      | [] => resolveParts [] r
      | [[]] => resolveParts [[]] r
      | _ :: rest => resolveParts rest r
  | p :: r => resolveParts (p :: done) r

/-- A path with single and double points resolved. -/
def resolvePath (cs : List Char) : List Char :=
  let parts := splitOn '/' cs
  if parts.contains ['.'] || parts.contains ['.', '.'] then
    List.intercalate ['/'] (resolveParts [] parts)
  else cs

/-! ## Addresses -/

/-- An address, its parts in the form in which they are sent. -/
structure Address where
  scheme : List Char
  user : List Char
  host : List Char
  port : Option Int
  path : List Char
  query : Option (List Char)
  fragment : Option (List Char)
  deriving DecidableEq, Repr

namespace Address

/-- The longest URL that is an address. -/
def maxLength : Nat := 65536

/-- Cuts off a scheme as it is written; a colon in front is one of no length. -/
def cutScheme (cs : List Char) : List Char × List Char :=
  match cutAt ':' cs with
  | ([], some rest) => ([], rest)
  | (name, some rest) =>
      if name.head?.any Char.isAlpha && name.all Url.isSchemeChar then (name, rest) else ([], cs)
  | (_, none) => ([], cs)

/-- Cuts an authority into a user, a host and a port. A host in brackets ends with the last
one. -/
def cutAuthority (cs : List Char) : List Char × List Char × List Char :=
  let place := Url.afterUser cs
  let user := (cs.take (cs.length - place.length)).dropLast
  let name :=
    if place.head? = some '[' ∧ ']' ∈ place then
      (place.reverse.dropWhile (· ≠ ']')).reverse
    else place.takeWhile (· ≠ ':')
  let rest := place.drop name.length
  (user, name, if rest.head? = some ':' then rest.drop 1 else rest)

def isAbsolute (a : Address) : Bool := !a.scheme.isEmpty && !a.host.isEmpty

/-- A path alone may not be mistaken for an authority or a scheme. -/
def checkPath (path : List Char) : Except AddressFault Unit :=
  match path with
  | '/' :: '/' :: _ => .error .slashes
  | ':' :: _ => .error .colon
  | _ => .ok ()

def ofUrl (url : String) : Except AddressFault Address := do
  let cs := url.toList
  if maxLength < cs.length then throw .tooLong
  if let some n := cs.findIdx? fun c => c.toNat < 32 || c.toNat == 127 then
    throw (.unprintable (cs.getD n ' ') n)
  let (scheme, rest) := cutScheme cs
  let (authority, rest) := Url.cutAuthority rest
  let (rest, fragment) := cutAt '#' rest
  let (path, query) := cutAt '?' rest
  let (user, name, portText) := cutAuthority authority
  let host ← sentHost name
  let port ← port? scheme portText
  let isPathAlone := scheme.isEmpty && user.isEmpty && host.isEmpty && port.isNone
  if isPathAlone then checkPath path
  return {
    scheme := scheme.map Char.toLower
    user := Url.encode isUserChar user
    host := host
    port := port
    path := Url.encode isPathChar (if isPathAlone then path else resolvePath path)
    query := query.map (Url.encode isQueryChar)
    fragment := fragment.map (Url.encode isFragmentChar) }

/-- What is left of an address that is not absolute: its path and its query. -/
def asPath (a : Address) : Address :=
  ⟨[], [], [], none, '/' :: a.path.dropWhile (· = '/'), a.query, none⟩

/-- The address with another query. A port that is the usual one of the scheme is left out. -/
def withQuery (a : Address) (query : Option (List Char)) : Address :=
  { a with
    port := a.port.filter fun n => usualPort? a.scheme != some n
    query := query }

/-- The host and the port, and the user before them. -/
def authority (a : Address) : List Char :=
  (if a.user.isEmpty then [] else a.user ++ ['@']) ++
    (if ':' ∈ a.host then '[' :: a.host ++ [']'] else a.host) ++
    a.port.elim [] fun n => ':' :: intText n

def text (a : Address) : String :=
  String.ofList <|
    (if a.scheme.isEmpty then [] else a.scheme ++ [':']) ++
    (if a.authority.isEmpty then [] else '/' :: '/' :: a.authority) ++ a.path ++
    a.query.elim [] (fun q => '?' :: q) ++
    a.fragment.elim [] fun f => '#' :: f

end Address

/-! ## Parameters -/

/-- A parameter as a text: a truth value as a word, null as nothing. -/
def parameterText : Value → String
  | .null => ""
  | .bool b => if b then "true" else "false"
  | v => v.display

/-- The texts of a parameter; a list stands for several. -/
def parameterTexts : Value → List String
  | .list vs => vs.map parameterText
  | v => [parameterText v]

/-- Parameters as a query; without parameters there is none. -/
def parameterQuery (params : Bundle) : Option (List Char) :=
  if params.isEmpty then none
  else
    let fields := params.flatMap fun e => (parameterTexts e.2).map fun t => (e.1.display, t)
    some (Url.encodeForm fields).toList

/-- The address for a URL and parameters, which take the place of the query. -/
def address (url : String) (params : Option Bundle) : Except AddressFault Address := do
  let a ← Address.ofUrl url
  let a := if a.isAbsolute then a else a.asPath
  return params.elim a fun ps => a.withQuery (parameterQuery ps)

end Polyglot.Http
