import Polyglot.Number.Literal
import Polyglot.Value.Basic

/-!
# JSON reader

Reads JSON texts into dynamic values. Objects keep the order of their keys, and of equal
keys the last value counts. A number is an integer unless it has a fraction or an
exponent; an integer has at most 4300 digits. The words `NaN`, `Infinity` and `-Infinity` are
accepted as numbers.
-/
namespace Polyglot.Json

/-- Why a text is refused. -/
inductive Fault
  | malformed
  /-- an integer has too many digits -/
  | tooLong (digits : Nat)
  deriving DecidableEq, Repr

/-- The characters that may stand between tokens. -/
def isSpace (c : Char) : Bool := c == ' ' || c == '\t' || c == '\n' || c == '\r'

def skip (cs : List Char) : List Char := cs.dropWhile isSpace

theorem length_skip_le (cs : List Char) : (skip cs).length ≤ cs.length :=
  (List.dropWhile_suffix isSpace).length_le

/-- What is left after something was read. -/
abbrev Rest (cs : List Char) := { r : List Char // r.length < cs.length }

/-- The number a hexadecimal digit stands for. -/
def hexValue? (c : Char) : Option Nat :=
  if '0' ≤ c ∧ c ≤ '9' then some (c.toNat - 48)
  else if 'a' ≤ c ∧ c ≤ 'f' then some (c.toNat - 87)
  else if 'A' ≤ c ∧ c ≤ 'F' then some (c.toNat - 55)
  else none

/-- The number that four hexadecimal digits stand for. -/
def hex4? (a b c d : Char) : Option Nat := do
  some ((((← hexValue? a) * 16 + (← hexValue? b)) * 16 + (← hexValue? c)) * 16 + (← hexValue? d))

def escape? : Char → Option Char
  | '"' => some '"'
  | '\\' => some '\\'
  | '/' => some '/'
  | 'b' => some (Char.ofNat 8)
  | 'f' => some (Char.ofNat 12)
  | 'n' => some '\n'
  | 'r' => some '\r'
  | 't' => some '\t'
  | _ => none

/-- A piece of a string: a character, or a unit of sixteen bits that was written as one. -/
inductive Piece
  | char (c : Char)
  | unit (n : Nat)

/-- Reads the pieces of a string up to its closing quote. -/
def pieces : List Char → Option (List Piece × List Char)
  | [] => none
  | '"' :: r => some ([], r)
  | '\\' :: 'u' :: a :: b :: c :: d :: r =>
      match hex4? a b c d, pieces r with
      | some n, some (ps, rest) => some (.unit n :: ps, rest)
      | _, _ => none
  | '\\' :: c :: r =>
      match escape? c, pieces r with
      | some d, some (ps, rest) => some (.char d :: ps, rest)
      | _, _ => none
  | c :: r =>
      if c.toNat < 32 then none
      else
        match pieces r with
        | some (ps, rest) => some (.char c :: ps, rest)
        | none => none

theorem length_pieces_lt {cs : List Char} {ps : List Piece} {rest : List Char}
    (h : pieces cs = some (ps, rest)) : rest.length < cs.length := by
  fun_induction pieces cs generalizing ps rest with
  | case1 => cases h
  | case2 r => cases h; exact Nat.lt_succ_self _
  | case3 a b c d r n ps' rest' hr _ ih =>
    cases h
    have := ih hr
    simp only [List.length_cons]
    omega
  | case4 => cases h
  | case5 c r _ d ps' rest' hr _ ih =>
    cases h
    have := ih hr
    simp only [List.length_cons]
    omega
  | case6 => cases h
  | case7 => cases h
  | case8 c r _ _ _ _ ps' rest' hr ih =>
    cases h
    have := ih hr
    simp only [List.length_cons]
    omega
  | case9 => cases h

/-- The characters of a string. Two units that follow each other and are a pair of surrogates
are one character. A surrogate without its other half is no character, and the character zero
stands in its place. -/
def joined : List Piece → List Char
  | [] => []
  | .char c :: ps => c :: joined ps
  | .unit hi :: .unit lo :: ps =>
      if 0xD800 ≤ hi ∧ hi < 0xDC00 ∧ 0xDC00 ≤ lo ∧ lo < 0xE000 then
        Char.ofNat (0x10000 + (hi - 0xD800) * 0x400 + (lo - 0xDC00)) :: joined ps
      else Char.ofNat hi :: joined (.unit lo :: ps)
  | .unit n :: ps => Char.ofNat n :: joined ps

/-- Reads the rest of a string after its opening quote. -/
def stringTail (cs : List Char) : Except Fault (List Char × Rest cs) :=
  match h : pieces cs with
  | none => .error .malformed
  | some (ps, rest) => .ok (joined ps, ⟨rest, length_pieces_lt h⟩)

/-- Whether the character is one of `0` to `9`. -/
def isDigit (c : Char) : Bool := '0' ≤ c && c ≤ '9'

/-- The exponent of a number at the front, with its mark, if there is one. -/
def cutExponent (cs : List Char) : List Char × List Char :=
  match cs with
  | e :: r =>
      if e = 'e' ∨ e = 'E' then
        let (sign, t) : List Char × List Char :=
          match r with
          | '+' :: t => (['+'], t)
          | '-' :: t => (['-'], t)
          | t => ([], t)
        let ds := t.takeWhile isDigit
        if ds.isEmpty then ([], cs) else (e :: (sign ++ ds), t.dropWhile isDigit)
      else ([], cs)
  | [] => ([], [])

def integer (isNegative : Bool) (digits : List Char) : Except Fault Value :=
  match Literal.natOfDigits digits with
  | .error _ => .error (.tooLong digits.length)
  | .ok n => .ok (.int (if isNegative then -Int.ofNat n else Int.ofNat n))

/-- Reads a number; the digits of an integer part start with zero only when they are it. -/
def number (cs : List Char) : Except Fault (Value × List Char) :=
  let (minus, r) : List Char × List Char :=
    match cs with
    | '-' :: t => (['-'], t)
    | t => ([], t)
  let (whole, r) : List Char × List Char :=
    match r with
    | '0' :: t => (['0'], t)
    | t => (t.takeWhile isDigit, t.dropWhile isDigit)
  if whole.isEmpty then .error .malformed
  else
    let (fraction, r) : List Char × List Char :=
      match r with
      | '.' :: t =>
          let ds := t.takeWhile isDigit
          if ds.isEmpty then ([], r) else ('.' :: ds, t.dropWhile isDigit)
      | t => ([], t)
    let (exponent, r) := cutExponent r
    if fraction.isEmpty && exponent.isEmpty then
      (integer (!minus.isEmpty) whole).map fun v => (v, r)
    else
      match Literal.parts? (minus ++ whole ++ fraction ++ exponent) with
      | some p => .ok (.float p.toBinary64, r)
      | none => .error .malformed

def keywords : List (String × Value) :=
  [("null", .null), ("true", .bool true), ("false", .bool false), ("NaN", .float .nan),
    ("Infinity", .float (.infinity false)), ("-Infinity", .float (.infinity true))]

/-- Reads a number or a word. -/
def scalar (cs : List Char) : Except Fault (Value × List Char) :=
  match keywords.find? fun k => k.1.toList.isPrefixOf cs with
  | some k => .ok (k.2, cs.drop k.1.length)
  | none => number cs

mutual

/-- Reads a value that starts at the front. -/
def value (cs : List Char) : Except Fault (Value × Rest cs) :=
  match cs with
  | [] => .error .malformed
  | '"' :: r =>
      match stringTail r with
      | .error f => .error f
      | .ok (s, ⟨rest, h⟩) =>
          .ok (.text (String.ofList s), ⟨rest, by simp only [List.length_cons]; omega⟩)
  | '[' :: r =>
      have h0 := length_skip_le r
      match hs : skip r with
      | ']' :: t =>
          .ok (.list [], ⟨t, by rw [hs] at h0; simp only [List.length_cons] at *; omega⟩)
      | t =>
          have ht : t.length ≤ r.length := by rw [← hs]; exact h0
          match items t with
          | .error f => .error f
          | .ok (vs, ⟨rest, h⟩) =>
              .ok (.list vs, ⟨rest, by simp only [List.length_cons]; omega⟩)
  | '\x7b' :: r =>
      have h0 := length_skip_le r
      match hs : skip r with
      | '\x7d' :: t =>
          .ok (.dict [], ⟨t, by rw [hs] at h0; simp only [List.length_cons] at *; omega⟩)
      | t =>
          have ht : t.length ≤ r.length := by rw [← hs]; exact h0
          match members t with
          | .error f => .error f
          | .ok (es, ⟨rest, h⟩) =>
              .ok (.dict (Entries.ofList es), ⟨rest, by simp only [List.length_cons]; omega⟩)
  | c :: r =>
      match scalar (c :: r) with
      | .error f => .error f
      | .ok (v, rest) =>
          if h : rest.length < (c :: r).length then .ok (v, ⟨rest, h⟩) else .error .malformed
termination_by (cs.length, 0)

/-- Reads the items of a list up to its closing bracket. -/
def items (cs : List Char) : Except Fault (List Value × Rest cs) :=
  match value cs with
  | .error f => .error f
  | .ok (v, ⟨r, h⟩) =>
      have h0 := length_skip_le r
      match hs : skip r with
      | ']' :: t => .ok ([v], ⟨t, by rw [hs] at h0; simp only [List.length_cons] at *; omega⟩)
      | ',' :: t =>
          have h1 := length_skip_le t
          have ht : t.length < r.length := by
            rw [hs] at h0; simp only [List.length_cons] at *; omega
          match items (skip t) with
          | .error f => .error f
          | .ok (vs, ⟨rest, h2⟩) => .ok (v :: vs, ⟨rest, by omega⟩)
      | _ => .error .malformed
termination_by (cs.length, 1)

/-- Reads the members of an object up to its closing brace. -/
def members (cs : List Char) : Except Fault (Bundle × Rest cs) :=
  match cs with
  | '"' :: r =>
      match stringTail r with
      | .error f => .error f
      | .ok (k, ⟨r1, k1⟩) =>
          have k2 := length_skip_le r1
          match hs : skip r1 with
          | ':' :: r2 =>
              have k3 := length_skip_le r2
              have k4 : r2.length < r1.length := by
                rw [hs] at k2; simp only [List.length_cons] at *; omega
              have k5 : (skip r2).length < ('"' :: r).length := by
                simp only [List.length_cons]; omega
              match value (skip r2) with
              | .error f => .error f
              | .ok (v, ⟨r3, k6⟩) =>
                  have k7 := length_skip_le r3
                  match ht : skip r3 with
                  | '\x7d' :: r4 =>
                      .ok ([(String.ofList k, v)], ⟨r4, by
                        rw [ht] at k7; simp only [List.length_cons] at *; omega⟩)
                  | ',' :: r4 =>
                      have k8 := length_skip_le r4
                      have k9 : (skip r4).length < ('"' :: r).length := by
                        rw [ht] at k7; simp only [List.length_cons] at *; omega
                      match members (skip r4) with
                      | .error f => .error f
                      | .ok (es, ⟨rest, k10⟩) =>
                          .ok ((String.ofList k, v) :: es, ⟨rest, by omega⟩)
                  | _ => .error .malformed
          | _ => .error .malformed
  | _ => .error .malformed
termination_by (cs.length, 0)

end

/-- Reads a text that is one JSON value. -/
def parse (source : String) : Except Fault Value :=
  match value (skip source.toList) with
  | .ok (v, ⟨r, _⟩) => if (skip r).isEmpty then .ok v else .error .malformed
  | .error f => .error f

/-- Reads a text that is one JSON value and may begin with the mark of its encoding. -/
def parseMarked (source : String) : Except Fault Value :=
  match source.toList with
  | '\ufeff' :: r => parse (String.ofList r)
  | _ => parse source

/-- The value of a text, if it is one. -/
def parse? (source : String) : Option Value := (parse source).toOption

end Polyglot.Json
