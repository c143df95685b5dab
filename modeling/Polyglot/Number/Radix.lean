/-!
# Digits of other bases

Digits of bases up to sixteen, in either letter case, and the numbers that runs of them stand for.
-/
namespace Polyglot.Radix

/-- The value of a digit of a base up to sixteen. -/
def digit? (base : Nat) (c : Char) : Option Nat :=
  let d :=
    if '0' ≤ c ∧ c ≤ '9' then some (c.toNat - 48)
    else if 'a' ≤ c ∧ c ≤ 'f' then some (c.toNat - 87)
    else if 'A' ≤ c ∧ c ≤ 'F' then some (c.toNat - 55)
    else none
  d.filter (· < base)

def isDigit (base : Nat) (c : Char) : Bool := (digit? base c).isSome

/-- The number that a run of digits stands for; other characters count as zero. -/
def toNat (base : Nat) (cs : List Char) : Nat :=
  cs.foldl (fun n c => n * base + (digit? base c).getD 0) 0

end Polyglot.Radix
