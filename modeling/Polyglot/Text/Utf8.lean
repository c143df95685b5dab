/-!
# UTF-8

The bytes of characters and back. Bytes that are no UTF-8 are read as replacement
characters: one for each longest run that could have started a character.
-/
namespace Polyglot.Text

def utf8Bytes (c : Char) : List Nat :=
  let n := c.toNat
  if n < 0x80 then [n]
  else if n < 0x800 then [0xC0 + n / 0x40, 0x80 + n % 0x40]
  else if n < 0x10000 then [0xE0 + n / 0x1000, 0x80 + n / 0x40 % 0x40, 0x80 + n % 0x40]
  else [0xF0 + n / 0x40000, 0x80 + n / 0x1000 % 0x40, 0x80 + n / 0x40 % 0x40, 0x80 + n % 0x40]

/-- The character that stands for malformed bytes. -/
def replacement : Char := Char.ofNat 0xFFFD

/-- For a leading byte: its value, the bounds of the byte after it and how many bytes follow. -/
def lead? (b : Nat) : Option (Nat × Nat × Nat × Nat) :=
  if 0xC2 ≤ b ∧ b ≤ 0xDF then some (b - 0xC0, 0x80, 0xBF, 1)
  else if b = 0xE0 then some (0, 0xA0, 0xBF, 2)
  else if b = 0xED then some (0xD, 0x80, 0x9F, 2)
  else if 0xE1 ≤ b ∧ b ≤ 0xEF then some (b - 0xE0, 0x80, 0xBF, 2)
  else if b = 0xF0 then some (0, 0x90, 0xBF, 3)
  else if b = 0xF4 then some (4, 0x80, 0x8F, 3)
  else if 0xF1 ≤ b ∧ b ≤ 0xF3 then some (b - 0xF0, 0x80, 0xBF, 3)
  else none

/-- Reads bytes. While `left` bytes of a character are missing, `value` is its number so far
and the next byte lies between `low` and `high`. -/
def utf8From (left value low high : Nat) : List Nat → List Char
  | [] => if left = 0 then [] else [replacement]
  | b :: r =>
      match left with
      | 0 =>
          if b < 0x80 then Char.ofNat b :: utf8From 0 0 0 0 r
          else
            match lead? b with
            | some (v, l, h, n) => utf8From n v l h r
            | none => replacement :: utf8From 0 0 0 0 r
      | left + 1 =>
          if low ≤ b ∧ b ≤ high then
            let v := value * 0x40 + (b - 0x80)
            if left = 0 then Char.ofNat v :: utf8From 0 0 0 0 r
            else utf8From left v 0x80 0xBF r
          else if b < 0x80 then replacement :: Char.ofNat b :: utf8From 0 0 0 0 r
          else
            match lead? b with
            | some (v, l, h, n) => replacement :: utf8From n v l h r
            | none => replacement :: replacement :: utf8From 0 0 0 0 r

def utf8Decode (bs : List Nat) : List Char := utf8From 0 0 0 0 bs

end Polyglot.Text
