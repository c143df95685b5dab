import Polyglot.Number.Binary64
import Polyglot.Text.Digit

/-!
# Shortest decimal digits

The fewest decimal digits that read back as a given binary64 number, and among the
candidates of that length the one nearest to the number. The numbers that read back
are those between the midpoints to the two neighbours, the midpoints included when
the mantissa is even.
-/
namespace Polyglot.Binary64

/-- Decimal digits without a point: the value is `digits * 10^exponent`. -/
structure Shortest where
  digits : Nat
  exponent : Int
  deriving DecidableEq, Repr

/-- The power of ten at or below `num / den`, both positive. -/
def magnitude (num den : Nat) : Int :=
  if den ≤ num then Int.ofNat (Text.natDigits (num / den)).length - 1
  else
    let q := (den - 1) / num
    if q = 0 then 0 else -Int.ofNat (Text.natDigits q).length

/-- The interval of values that read back as the number, in units of a quarter of the last
place: the lower and the upper midpoint around `4 * mantissa`. -/
def readBack (mantissa : Nat) (exponent : Int) : Nat × Nat :=
  (if mantissa = Nat.pow 2 52 ∧ -1074 < exponent then 4 * mantissa - 1 else 4 * mantissa - 2,
    4 * mantissa + 2)

/-- The digits of one length, if any of that length read back. -/
def digitsAt (mantissa : Nat) (exponent power : Int) : Option Nat :=
  -- Scale so that the grid `10^power` and the quarters of the last place are both whole.
  let quarter : Int := exponent - 2
  let grid := Nat.pow 10 power.toNat * Nat.pow 2 (-quarter).toNat
  let unit := Nat.pow 10 (-power).toNat * Nat.pow 2 quarter.toNat
  let (low, high) := readBack mantissa exponent
  let value := 4 * mantissa * unit
  let below := value / grid
  let inside (n : Nat) : Bool :=
    if mantissa % 2 = 0 then low * unit ≤ n * grid && n * grid ≤ high * unit
    else low * unit < n * grid && n * grid < high * unit
  let lowGap := value - below * grid
  let highGap := (below + 1) * grid - value
  match inside below, inside (below + 1) with
  | true, true =>
      if lowGap < highGap then some below
      else if highGap < lowGap then some (below + 1)
      else if below % 2 = 0 then some below else some (below + 1)
  | true, false => some below
  | false, true => some (below + 1)
  | false, false => none

/-- The shortest digits of a positive finite number. -/
def shortest (mantissa : Nat) (exponent : Int) : Shortest :=
  let (num, den) := toRatio mantissa exponent
  let top := magnitude num den
  let found := (List.range 17).findSome? fun n =>
    let power := top - Int.ofNat n
    (digitsAt mantissa exponent power).map fun d => (⟨d, power⟩ : Shortest)
  found.getD ⟨num, 0⟩

/-- The digits without the zeros at their end, and the power of ten of the first digit. -/
def Shortest.normal (s : Shortest) : List Char × Int :=
  let ds := Text.natDigits s.digits
  let trimmed := (ds.reverse.dropWhile (· == '0')).reverse
  (if trimmed.isEmpty then ['0'] else trimmed, Int.ofNat ds.length - 1 + s.exponent)

/-- Digits with a point after the first `places` of them. -/
def pointAfter (places : Nat) (ds : List Char) : List Char :=
  ds.take places ++ '.' :: ds.drop places

/-- The text of a number: positional from `0.0001` to below `10^16`, always with a point,
and otherwise with an exponent of at least two digits. -/
def text : Binary64 → String
  | nan => "nan"
  | infinity s => if s then "-inf" else "inf"
  | finite s m e =>
      let sign : List Char := if s then ['-'] else []
      if m = 0 then String.ofList (sign ++ ['0', '.', '0'])
      else
        let (ds, top) := (shortest m e).normal
        let body :=
          if top < -4 ∨ 16 ≤ top then
            let mark := if top < 0 then ['e', '-'] else ['e', '+']
            let head := if ds.length = 1 then ds else pointAfter 1 ds
            head ++ mark ++ Text.padZeros 2 (Text.natDigits top.natAbs)
          else if top < 0 then '0' :: '.' :: (List.replicate (top.natAbs - 1) '0' ++ ds)
          else
            let whole := top.toNat + 1
            if ds.length ≤ whole then
              ds ++ List.replicate (whole - ds.length) '0' ++ ['.', '0']
            else pointAfter whole ds
        String.ofList (sign ++ body)

end Polyglot.Binary64
