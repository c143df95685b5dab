import Polyglot.Number.Decimal

/-!
# Plural rules

Which plural category a number belongs to. A rule is a condition on the operands of the
absolute value: the value itself, its whole part and the number of digits that are written
after the point, so that `1` and `1.0` may belong to different categories. Rules are tried
in the order of their categories' names, and a number that meets none is `other`.
-/
namespace Polyglot

inductive PluralCategory
  | zero
  | one
  | two
  | few
  | many
  | other
  deriving DecidableEq, Repr

/-- The name of a category, as selectors write it. -/
def PluralCategory.name : PluralCategory → String
  | zero => "zero"
  | one => "one"
  | two => "two"
  | few => "few"
  | many => "many"
  | other => "other"

/-- What a relation looks at: the value, its whole part, the number of written digits after
the point, or the exponent of a compact form, which is always zero. -/
inductive PluralOperand
  | value
  | whole
  | places
  | exponent
  deriving DecidableEq, Repr

/-- A relation holds when the operand, reduced by the modulus, is a whole number in one of
the ranges; a negated one holds when it does not. -/
structure PluralRelation where
  operand : PluralOperand
  modulus : Option Nat
  negated : Bool
  ranges : List (Nat × Nat)
  deriving Repr

/-- Alternatives, each of which is a list of relations that hold together. -/
abbrev PluralCondition := List (List PluralRelation)

abbrev PluralRules := List (PluralCategory × PluralCondition)

/-- Why a number has no plural category. -/
inductive PluralFault
  | decimal (fault : DecimalFault)
  | notANumber
  | infinite
  deriving DecidableEq, Repr

/-- The operands of a number. `value` is missing when the number is not whole. -/
structure PluralOperands where
  value : Option Nat
  whole : Nat
  places : Nat
  deriving DecidableEq, Repr

/-- The operands of the absolute value of a number. -/
def PluralOperands.ofDecimal (x : Decimal) : Except PluralFault PluralOperands :=
  match Decimal.abs x with
  | .error e => .error (.decimal e)
  | .ok (.nan ..) => .error .notANumber
  | .ok (.infinity _) => .error .infinite
  | .ok (.finite _ c e) =>
      let whole := Decimal.wholeAbs c e
      .ok ⟨if Decimal.isWhole c e then some whole else none, whole,
        min (Decimal.width c) (-e).toNat⟩

/-- The largest quotient a reduction of the value may have. -/
def maxQuotient : Nat := Nat.pow 10 Decimal.precision

namespace PluralRelation

/-- The operand after its reduction; missing when it is not whole. -/
def reduced (r : PluralRelation) (o : PluralOperands) : Except PluralFault (Option Nat) :=
  match r.operand, r.modulus with
  | .value, none => .ok o.value
  | .value, some m =>
      if maxQuotient ≤ o.whole / m then .error (.decimal .invalid)
      else .ok (o.value.map (· % m))
  | .whole, m => .ok (some (m.elim o.whole (o.whole % ·)))
  | .places, m => .ok (some (m.elim o.places (o.places % ·)))
  | .exponent, _ => .ok (some 0)

def holds (r : PluralRelation) (o : PluralOperands) : Except PluralFault Bool :=
  (r.reduced o).map fun x =>
    let inside := x.elim false fun n => r.ranges.any fun p => p.1 ≤ n && n ≤ p.2
    inside != r.negated

end PluralRelation

/-- Whether all relations hold; the first one that does not ends the test. -/
def allHold (o : PluralOperands) : List PluralRelation → Except PluralFault Bool
  | [] => .ok true
  | r :: rs =>
      match r.holds o with
      | .ok true => allHold o rs
      | x => x

/-- Whether one of the alternatives holds; the first one that does ends the test. -/
def PluralCondition.holds (o : PluralOperands) : PluralCondition → Except PluralFault Bool
  | [] => .ok false
  | a :: as =>
      match allHold o a with
      | .ok false => PluralCondition.holds o as
      | x => x

/-- The first category whose condition holds. -/
def PluralRules.select (o : PluralOperands) : PluralRules → Except PluralFault PluralCategory
  | [] => .ok .other
  | (c, condition) :: rules =>
      match condition.holds o with
      | .error e => .error e
      | .ok true => .ok c
      | .ok false => PluralRules.select o rules

def PluralRules.categoryOf (rules : PluralRules) (x : Decimal) :
    Except PluralFault PluralCategory :=
  match PluralOperands.ofDecimal x with
  | .error e => .error e
  | .ok o => rules.select o

end Polyglot
