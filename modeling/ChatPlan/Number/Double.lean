/-
Double-precision numbers as exact data. A finite double is a sign and a whole number of units of
`2^-1074`, so that every question about its value is a question about natural numbers. Rounding
takes an exact quotient to the nearest double; a tie goes to the even mantissa.
-/
namespace ChatPlan

/-- A finite double: `mantissa · 2^shift` units of `2^-1074`, with its sign (zero has both). -/
structure FiniteDouble where
  negative : Bool
  mantissa : Nat
  shift : Nat
  mantissa_lt : mantissa < Nat.pow 2 53
  normal : shift = 0 ∨ Nat.pow 2 52 ≤ mantissa
  shift_le : shift ≤ 2045
deriving DecidableEq

/-- A double: finite, infinite or not a number. -/
inductive Double where
  | finite (x : FiniteDouble)
  | infinite (negative : Bool)
  | nan
deriving DecidableEq

namespace FiniteDouble

/-- Units of `2^-1074` in the number one. -/
def unit : Nat := Nat.pow 2 1074

/-- The size of the double in units. -/
def units (x : FiniteDouble) : Nat := x.mantissa * Nat.pow 2 x.shift

/-- The value of the double in units. -/
def value (x : FiniteDouble) : Int := if x.negative then -(x.units : Int) else x.units

/-- The two zeros are equal in value. -/
def isZero (x : FiniteDouble) : Bool := x.mantissa == 0

/-- The double zero with the given sign. -/
def zero (negative : Bool) : FiniteDouble :=
  ⟨negative, 0, 0, by decide, .inl rfl, by decide⟩

end FiniteDouble

/-- `n / d` rounded to a whole number; a tie goes to the even one. -/
def roundDiv (n d : Nat) : Nat :=
  let q := n / d
  let r := n % d
  if 2 * r < d then q else if d < 2 * r then q + 1 else if q % 2 == 0 then q else q + 1

namespace Double

/-- The double with these parts, or an infinity where they are beyond the largest finite one. -/
def ofParts (negative : Bool) (mantissa shift : Nat) : Double :=
  if h : mantissa < Nat.pow 2 53 ∧ (shift = 0 ∨ Nat.pow 2 52 ≤ mantissa) ∧
      shift ≤ 2045 then
    .finite ⟨negative, mantissa, shift, h.1, h.2.1, h.2.2⟩
  else .infinite negative

/-- The double nearest to `num / den` units. -/
def ofUnits (negative : Bool) (num den : Nat) : Double :=
  let shift := Nat.log2 (num / den) + 1 - 53
  let m := roundDiv num (den * Nat.pow 2 shift)
  if m < Nat.pow 2 53 then ofParts negative m shift else ofParts negative (Nat.pow 2 52) (shift + 1)

/-- The double nearest to `num / den`. -/
def ofRatio (negative : Bool) (num den : Nat) : Double :=
  ofUnits negative (num * FiniteDouble.unit) den

/-- The double nearest to a whole number. -/
def ofInt (i : Int) : Double := ofRatio (i < 0) i.natAbs 1

/-- A number of units that no finite double reaches. -/
def beyond : Nat := Nat.pow 2 2100

/-- A number by which all doubles but `nan` are ordered; the infinities lie outside all others. -/
def rank : Double → Option Int
  | .finite x => some x.value
  | .infinite negative => some (if negative then -(beyond : Int) else beyond)
  | .nan => none

/-- How two doubles compare; `nan` compares with nothing, and the two zeros are equal. -/
def compare? (a b : Double) : Option Ordering :=
  match a.rank, b.rank with
  | some x, some y => some (compare x y)
  | _, _ => none

/-- Equality of value: false of `nan`, true of the two zeros. -/
def same (a b : Double) : Bool := a.compare? b == some .eq

def lt (a b : Double) : Bool := a.compare? b == some .lt

/-- Not greater; false where `nan` takes part. -/
def le (a b : Double) : Bool := a.lt b || a.same b

/-- The exact difference of two finite doubles, rounded. -/
def sub (a b : FiniteDouble) : Double :=
  let d := a.value - b.value
  ofUnits (d < 0) d.natAbs 1

/-- The exact product of two finite doubles, rounded. -/
def mul (a b : FiniteDouble) : Double :=
  ofUnits (a.negative != b.negative) (a.units * b.units) FiniteDouble.unit

end Double

/-- The whole number nearest to the size of the double; a half goes up. -/
def FiniteDouble.nearestNat (x : FiniteDouble) : Nat := (2 * x.units + unit) / (2 * unit)

/-- The size of the double without what follows the point. -/
def FiniteDouble.floorNat (x : FiniteDouble) : Nat := x.units / unit

/-- A whole number as close to the double as the bound allows. -/
def Double.toNatWithin (f : FiniteDouble → Nat) (bound : Nat) : Double → Nat
  | .finite x => if x.negative then 0 else Nat.min (f x) bound
  | .infinite negative => if negative then 0 else bound
  | .nan => 0

end ChatPlan
