/-!
# Blank characters

White space as the text layer understands it: the separators and control
characters that trim, split and skip operations pass over. The four
information separators U+001C to U+001F count, the zero-width space does not.
All operations work on `List Char`, so that a position is a length.
-/
namespace Polyglot.Text

/-- The characters that count as white space. -/
def isBlank (c : Char) : Bool :=
  let n := c.toNat
  (9 ≤ n && n ≤ 13) || (28 ≤ n && n ≤ 32) || n == 0x85 || n == 0xA0 || n == 0x1680 ||
    (0x2000 ≤ n && n ≤ 0x200A) || n == 0x2028 || n == 0x2029 || n == 0x202F ||
    n == 0x205F || n == 0x3000

def skipBlanks (cs : List Char) : List Char := cs.dropWhile isBlank

def trimEnd (cs : List Char) : List Char := (cs.reverse.dropWhile isBlank).reverse

def trim (cs : List Char) : List Char := trimEnd (skipBlanks cs)

/-- The maximal runs of characters that are not blank, in order. -/
def words (cs : List Char) : List (List Char) :=
  let rec go : List Char → List Char → List (List Char)
    | [], [] => []
    | [], w => [w.reverse]
    | c :: r, w =>
        if isBlank c then
          match w with
          | [] => go r []
          | w => w.reverse :: go r []
        else go r (c :: w)
  go cs []

def isLineEnd (c : Char) : Bool :=
  let n := c.toNat
  (10 ≤ n && n ≤ 13) || (28 ≤ n && n ≤ 30) || n == 0x85 || n == 0x2028 || n == 0x2029

/-- The lines of a text. A carriage return and a line feed after it end one line, and nothing
follows the last end of a line. -/
def lines (cs : List Char) : List (List Char) :=
  let rec go : List Char → List Char → List (List Char)
    | [], [] => []
    | [], line => [line.reverse]
    | '\r' :: '\n' :: r, line => line.reverse :: go r []
    | c :: r, line => if isLineEnd c then line.reverse :: go r [] else go r (c :: line)
  go cs []

/-- A text every line of which ends with a line feed alone. -/
def plainLines : List Char → List Char
  | '\r' :: '\n' :: r => '\n' :: plainLines r
  | '\r' :: r => '\n' :: plainLines r
  | c :: r => c :: plainLines r
  | [] => []

/-- The pieces between the separators: one more piece than separators. -/
def splitOn (sep : Char) : List Char → List (List Char)
  | [] => [[]]
  | c :: r =>
      if c = sep then [] :: splitOn sep r
      else
        match splitOn sep r with
        | [] => [[c]]
        | p :: ps => (c :: p) :: ps

/-- Cuts at the first separator; the second part is `none` when there is no separator. -/
def cutAt (sep : Char) : List Char → List Char × Option (List Char)
  | [] => ([], none)
  | c :: r =>
      if c = sep then ([], some r)
      else let (a, b) := cutAt sep r; (c :: a, b)

/-- Whether `pat` stands somewhere in the text. -/
def contains (pat : List Char) : List Char → Bool
  | [] => pat.isEmpty
  | c :: r => pat.isPrefixOf (c :: r) || contains pat r

theorem splitOn_ne_nil (sep : Char) (cs : List Char) : splitOn sep cs ≠ [] := by
  cases cs with
  | nil => simp [splitOn]
  | cons c r =>
    unfold splitOn
    split
    · exact List.cons_ne_nil _ _
    · split <;> exact List.cons_ne_nil _ _

theorem length_skipBlanks_le (cs : List Char) : (skipBlanks cs).length ≤ cs.length :=
  (List.dropWhile_suffix isBlank).length_le

end Polyglot.Text
