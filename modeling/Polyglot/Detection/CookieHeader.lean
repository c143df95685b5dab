import Polyglot.Value.Basic

/-!
# Cookie headers

Reads the cookies of a request. The header is a row of `name=value` pieces that end at a
space, at a semicolon or at the end. A name that starts with a dollar sign, or one of the
words for attributes, belongs to the cookie before it. A header with a misplaced attribute, a
piece without a value or a name with other characters than those allowed holds no cookies at
all. Reading stops where no piece can be read.
-/
namespace Polyglot.CookieHeader

def isSpace (c : Char) : Bool :=
  c == ' ' || c == '\t' || c == '\n' || c == '\r' || c.toNat == 11 || c.toNat == 12

def skip (cs : List Char) : List Char := cs.dropWhile isSpace

/-- A letter, a digit or an underscore. -/
def isWord (c : Char) : Bool := c.isAlphanum || c == '_'

def isKeyChar (c : Char) : Bool :=
  isWord c || "!#%&'~`><@,:/$*+-.^|)(?\x7d\x7b=".toList.contains c

def isValueChar (c : Char) : Bool := isKeyChar c || c == '[' || c == ']'

/-- The words that name attributes of a cookie. -/
def attributes : List String :=
  ["expires", "path", "comment", "domain", "max-age", "secure", "httponly", "version", "samesite"]

/-- The attributes that need no value. -/
def flags : List String := ["secure", "httponly"]

def isNameChar (c : Char) : Bool := c.isAlphanum || "!#$%&'*+-.^_`|~:".toList.contains c

/-- Whether a text is a name that a cookie may have. -/
def isName (cs : List Char) : Bool := !cs.isEmpty && cs.all isNameChar

/-! ## Pieces -/

/-- The end of a piece: blanks, a semicolon after optional blanks, or the end of the header.
Returns the rest. -/
def ending? (cs : List Char) : Option (List Char) :=
  match skip cs with
  | [] => some []
  | ';' :: r => some r
  | r => if r.length < cs.length then some r else none

/-- Cuts off the rest of a quoted value after its opening quote. -/
def quotedTail : List Char → Option (List Char × List Char)
  | [] => none
  | '"' :: r => some (['"'], r)
  | '\\' :: c :: r =>
      if c = '\n' then none else (quotedTail r).map fun (a, b) => ('\\' :: c :: a, b)
  | c :: r => if c = '\\' then none else (quotedTail r).map fun (a, b) => (c :: a, b)

/-- Cuts off as many characters as given, all of a class. -/
def cutExactly (n : Nat) (ok : Char → Bool) (cs : List Char) : Option (List Char × List Char) :=
  let front := cs.take n
  if front.length = n ∧ front.all ok then some (front, cs.drop n) else none

/-- The end of a date: a blank, eight digits or colons, a blank and `GMT`. -/
def dateEnd? (cs : List Char) : Option (List Char × List Char) := do
  let (a, r) ← cutExactly 1 isSpace cs
  let (b, r) ← cutExactly 8 (fun c => c.isDigit || c == ':') r
  let (c, r) ← cutExactly 1 isSpace r
  match r with
  | 'G' :: 'M' :: 'T' :: r => some (a ++ b ++ c ++ ['G', 'M', 'T'], r)
  | _ => none

/-- A date at the front that ends a piece: a word of three letters, a comma, a blank, nine to
eleven characters of the day, and the time. Returns the date and the rest after the piece. -/
def date? (cs : List Char) : Option (List Char × List Char) := do
  let (word, r) ← cutExactly 3 isWord cs
  match r with
  | ',' :: r =>
      let (space, r) ← cutExactly 1 isSpace r
      let front := word ++ ',' :: space
      [11, 10, 9].firstM fun n => do
        let (day, t) ← cutExactly n (fun c => isWord c || isSpace c || c == '-') r
        let (time, t) ← dateEnd? t
        let rest ← ending? t
        some (front ++ day ++ time, rest)
  | _ => none

/-- The value of a piece, at its front, and the rest after the piece. -/
def value? (cs : List Char) : Option (List Char × List Char) :=
  let quotedValue : Option (List Char × List Char) :=
    match cs with
    | '"' :: r =>
        match quotedTail r with
        | some (v, t) => (ending? t).map fun rest => ('"' :: v, rest)
        | none => none
    | _ => none
  quotedValue <|> date? cs <|>
    (ending? (cs.dropWhile isValueChar)).map fun rest => (cs.takeWhile isValueChar, rest)

/-- What follows the name of a piece: an optional value, and the rest after the piece. -/
def afterKey? (cs : List Char) : Option (Option (List Char) × List Char) :=
  let valued : Option (Option (List Char) × List Char) :=
    match skip cs with
    | '=' :: r =>
        let start := skip r
        match value? start with
        | some (v, rest) => some (some v, rest)
        | none => if start.length < r.length then some (some [], start) else none
    | _ => none
  valued <|> (ending? cs).map fun rest => (none, rest)

/-- The shortest name at the front after which a piece can be read; `key` holds its first
characters in reverse. -/
def pieceFrom? (key : List Char) : List Char → Option (List Char × Option (List Char) × List Char)
  | [] => none
  | c :: r =>
      if isKeyChar c then
        match afterKey? r with
        | some (v, rest) => some ((c :: key).reverse, v, rest)
        | none => pieceFrom? (c :: key) r
      else none

/-- A piece at the front: its name, its value and the rest. -/
def piece? (cs : List Char) : Option (List Char × Option (List Char) × List Char) :=
  pieceFrom? [] (skip cs)

/-- All pieces until one cannot be read. -/
def pieces (fuel : Nat) (cs : List Char) : List (List Char × Option (List Char)) :=
  match fuel, cs with
  | 0, _ => []
  | _, [] => []
  | fuel + 1, cs =>
      match piece? cs with
      | some (key, v, rest) => (key, v) :: pieces fuel rest
      | none => []

/-! ## Values -/

def isOctal (c : Char) : Bool := '0' ≤ c && c ≤ '7'

/-- A quoted value without its escapes. -/
def unescape : List Char → List Char
  | [] => []
  | '\\' :: a :: b :: c :: r =>
      if '0' ≤ a ∧ a ≤ '3' ∧ isOctal b ∧ isOctal c then
        Char.ofNat ((a.toNat - 48) * 64 + (b.toNat - 48) * 8 + (c.toNat - 48)) :: unescape r
      else if a = '\n' then '\\' :: a :: unescape (b :: c :: r)
      else a :: unescape (b :: c :: r)
  | '\\' :: a :: r => if a = '\n' then '\\' :: a :: unescape r else a :: unescape r
  | c :: r => c :: unescape r

/-- The content of a value: what is inside the quotes, if it has quotes. -/
def content (v : List Char) : List Char :=
  match v with
  | '"' :: r =>
      match r.getLast? with
      | some '"' => unescape r.dropLast
      | _ => v
  | _ => v

/-! ## Cookies -/

/-- A piece as it counts. -/
inductive Item
  | cookie (name : String) (value : String)
  | attribute (name : String)
  | ignored
  deriving DecidableEq, Repr

/-- What a piece means, `seen` telling whether a cookie came before; `none` when it makes the
header invalid. -/
def item? (seen : Bool) (key : List Char) (v : Option (List Char)) : Option Item :=
  let word := String.ofList (key.map Char.toLower)
  if key.head? = some '$' then
    some (if seen then .attribute (String.ofList (key.drop 1)) else .ignored)
  else if attributes.contains word then
    if !seen then none
    else if v.isNone && !flags.contains word then none
    else some (.attribute word)
  else v.map fun v => .cookie (String.ofList key) (String.ofList (content v))

/-- What the pieces mean, or `none` when one of them makes the header invalid. -/
def items? (seen : Bool) : List (List Char × Option (List Char)) → Option (List Item)
  | [] => some []
  | (key, v) :: r =>
      match item? seen key v with
      | none => none
      | some i =>
          let isCookie := match i with | .cookie .. => true | _ => false
          (items? (seen || isCookie) r).map (i :: ·)

/-- Stores a cookie, or checks an attribute. -/
def keep? (cookies : List (String × String)) : Item → Option (List (String × String))
  | .cookie name v => if isName name.toList then some (Entries.put cookies name v) else none
  | .attribute name =>
      if attributes.contains (String.ofList (name.toList.map Char.toLower)) then some cookies
      else none
  | .ignored => some cookies

/-- The cookies of a header; of equal names the last value counts. -/
def parse (header : String) : List (String × String) :=
  let cs := header.toList
  match items? false (pieces (cs.length + 1) cs) with
  | none => []
  | some items => (items.foldlM keep? []).getD []

end Polyglot.CookieHeader
