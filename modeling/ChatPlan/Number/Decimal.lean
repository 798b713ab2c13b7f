import ChatPlan.Number.Double

/-
Decimal notation. A decimal is a sign, a whole number and a power of ten. Reading one gives the
nearest double; the digits of a double are the fewest that read back as the same double, and of
those the nearest. Two layouts write them: plain (never an exponent) and JSON (an exponent outside
`1e-5 ≤ |x| < 1e16`, and always a point or an exponent). Where two decimals are equally near, the
plain layout takes the one further from zero and JSON the one with an even last digit.
-/
namespace ChatPlan

/-- `significand · 10^exponent` with a sign. -/
structure Decimal where
  negative : Bool
  significand : Nat
  exponent : Int
deriving DecidableEq, Repr

/-- The decimal digits of a natural number. -/
def digits (n : Nat) : List Char := Nat.toDigits 10 n

/-- The number that a list of decimal digits writes. -/
def ofDigits (ds : List Char) : Nat :=
  ds.foldl (fun n d => 10 * n + (d.toNat - '0'.toNat)) 0

namespace Decimal

/-- The double nearest to the decimal. Beyond `10^310` and below `10^-330` no exact quotient is
needed: the first is infinite and the second is zero. -/
def toDouble (d : Decimal) : Double :=
  if d.significand = 0 then .finite (.zero d.negative)
  else
    let top := (digits d.significand).length + d.exponent
    if 310 < top then .infinite d.negative
    else if top < -330 then .finite (.zero d.negative)
    else if 0 ≤ d.exponent then
      Double.ofRatio d.negative (d.significand * Nat.pow 10 d.exponent.toNat) 1
    else Double.ofRatio d.negative d.significand (Nat.pow 10 (-d.exponent).toNat)

end Decimal

/-- Which of two decimals is taken that are equally near to a double. -/
inductive DecimalTie where
  | toEven
  | awayFromZero
deriving DecidableEq

/-- Of two neighbours that are equally near, the lower one is taken. -/
def DecimalTie.takesLow (low : Nat) : DecimalTie → Bool
  | .toEven => low % 2 == 0
  | .awayFromZero => false

namespace FiniteDouble

/-- The least `k` such that the double is smaller than `10^k`. -/
def decimalOrder (x : FiniteDouble) : Int :=
  if unit ≤ x.units then (digits (x.units / unit)).length
  else 1 - (digits ((unit - 1) / x.units)).length

/-- The whole numbers on both sides of `x / 10^e`, the nearer one first. -/
def neighbours (tie : DecimalTie) (x : FiniteDouble) (e : Int) : List Nat :=
  let num := if 0 ≤ e then x.units else x.units * Nat.pow 10 (-e).toNat
  let den := if 0 ≤ e then unit * Nat.pow 10 e.toNat else unit
  let low := num / den
  let twice := 2 * (num % den)
  if twice < den || (twice == den && tie.takesLow low) then [low, low + 1] else [low + 1, low]

/-- The decimals with at most `n` digits next to the double that read back as it. -/
def readBack (tie : DecimalTie) (x : FiniteDouble) (n : Nat) : Option Decimal :=
  let e := x.decimalOrder - n
  ((x.neighbours tie e).map fun s => Decimal.mk x.negative s e).find? (·.toDouble == .finite x)

/-- The double written out in full, without rounding. -/
def exactDecimal (x : FiniteDouble) : Decimal :=
  ⟨x.negative, x.units * Nat.pow 5 1074, -1074⟩

/-- The fewest digits that read back as the double. -/
def shortest (tie : DecimalTie) (x : FiniteDouble) : Decimal :=
  ((List.range 17).findSome? fun n => x.readBack tie (n + 1)).getD x.exactDecimal

/-- The significant digits of the double and the place of the point: `0.d₁d₂… · 10^place`. -/
def shortestDigits (tie : DecimalTie) (x : FiniteDouble) : List Char × Int :=
  if x.isZero then (['0'], 1)
  else
    let d := x.shortest tie
    let ds := digits d.significand
    ((ds.reverse.dropWhile (· == '0')).reverse, ds.length + d.exponent)

/-- The whole part, and the digits after the point. -/
def positional (ds : List Char) (place : Int) : List Char × List Char :=
  if place ≤ 0 then (['0'], List.replicate (-place).toNat '0' ++ ds)
  else
    let p := place.toNat
    (ds.take p ++ List.replicate (p - ds.length) '0', ds.drop p)

/-- Plain layout: never an exponent, and no point after a whole number. -/
def plain (x : FiniteDouble) : String :=
  let (ds, place) := x.shortestDigits .awayFromZero
  let (whole, rest) := positional ds place
  String.ofList ((if x.negative then ['-'] else []) ++ whole ++
    (if rest.isEmpty then [] else '.' :: rest))

/-- JSON layout: positional for `1e-5 ≤ |x| < 1e16` with at least one digit after the point,
otherwise one digit before the point and a signed exponent. -/
def jsonChars (x : FiniteDouble) : List Char :=
  let (ds, place) := x.shortestDigits .toEven
  (if x.negative then ['-'] else []) ++
  if -5 < place && place ≤ 16 then
    let (whole, rest) := positional ds place
    whole ++ '.' :: (if rest.isEmpty then ['0'] else rest)
  else
    let e := place - 1
    ds.take 1 ++ (if ds.length ≤ 1 then [] else '.' :: ds.drop 1) ++
      ['e', if e < 0 then '-' else '+'] ++ digits e.natAbs

end FiniteDouble

/-- Plain layout of any double. -/
def Double.plain : Double → String
  | .finite x => x.plain
  | .infinite negative => if negative then "-inf" else "inf"
  | .nan => "NaN"

namespace Decimal

/-- Splits a text into its leading decimal digits and the rest. -/
def takeDigits (cs : List Char) : List Char × List Char :=
  (cs.takeWhile Char.isDigit, cs.dropWhile Char.isDigit)

/-- The sign in front of a text, and the text after it. -/
def takeSign : List Char → Bool × List Char
  | '-' :: r => (true, r)
  | '+' :: r => (false, r)
  | cs => (false, cs)

/-- An exponent mark with its digits, at the end of a text; an empty text is exponent zero. -/
def exponentPart : List Char → Option Int
  | [] => some 0
  | c :: r =>
    if c = 'e' || c = 'E' then
      let (negative, ds) := takeSign r
      if ds.isEmpty || !ds.all Char.isDigit then none
      else some (if negative then -(ofDigits ds : Int) else ofDigits ds)
    else none

/-- A decimal as people write it: digits with a point anywhere or nowhere, and an exponent. -/
def parse? (cs : List Char) : Option Decimal :=
  let (negative, cs) := takeSign cs
  let (whole, r) := takeDigits cs
  let (frac, r) := match r with
    | '.' :: r => takeDigits r
    | r => ([], r)
  if whole.isEmpty && frac.isEmpty then none
  else (exponentPart r).map fun e => ⟨negative, ofDigits (whole ++ frac), e - frac.length⟩

end Decimal

/-- Reads a double: a decimal, or `inf`, `infinity` or `nan` in any case with a sign. -/
def Double.parse? (cs : List Char) : Option Double :=
  let (negative, r) := Decimal.takeSign cs
  let word := r.map Char.toLower
  if word = "inf".toList || word = "infinity".toList then some (.infinite negative)
  else if word = "nan".toList then some .nan
  else (Decimal.parse? cs).map Decimal.toDouble

end ChatPlan
