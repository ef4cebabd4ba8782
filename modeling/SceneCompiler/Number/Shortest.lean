/-!
# Shortest decimals

A binary floating point value is written with the fewest decimal digits that still single it out
among the values of its precision. A decimal singles a value out when it lies in the interval of
numbers that round to the value. The interval reaches half way to each neighbour, and its ends
belong to it exactly when the significand is even.

On the grid of decimals with a given number of digits only the two neighbours of the value need
testing: if any point of the grid lies in the interval, one of these two does. All comparisons are
between natural numbers.
-/

namespace SceneCompiler

/-- The finite value `significand · 2 ^ exponent`, together with the distance to the next smaller
value of its precision. -/
structure Dyadic where
  significand : Nat
  exponent : Int
  /-- Whether the next smaller value lies only half as far away as the next larger one. -/
  narrowBelow : Bool

/-- The decimal `digits · 10 ^ exponent`. -/
structure Decimal where
  digits : Nat
  exponent : Int
  deriving DecidableEq, Repr

namespace Dyadic

/-- The magnitude of a finite value from its fields: `bits` without the sign bit, of which the low
`width` are the fraction, for an exponent field that is `bias` above the exponent. -/
def ofFields (width bias bits : Nat) : Dyadic :=
  let fraction := bits % Nat.pow 2 width
  let field := bits / Nat.pow 2 width
  if field = 0 then
    { significand := fraction, exponent := 1 - (bias + width : Nat), narrowBelow := false }
  else
    { significand := Nat.pow 2 width + fraction
      exponent := (field : Int) - (bias + width : Nat)
      narrowBelow := fraction = 0 && 1 < field }

/-- The magnitude of a finite single precision value. -/
def ofFloat32 (x : Float32) : Dyadic := ofFields 23 127 (x.toBits.toNat % Nat.pow 2 31)

/-- The magnitude of a finite double precision value. -/
def ofFloat (x : Float) : Dyadic := ofFields 52 1023 (x.toBits.toNat % Nat.pow 2 63)

/-- Four times the value and the ends of its rounding interval, as the numerators
`(low, value, high)` over one denominator. -/
def quarters (x : Dyadic) : Nat × Nat × Nat × Nat :=
  let scale := Nat.pow 2 x.exponent.toNat
  let low := if x.narrowBelow then 4 * x.significand - 1 else 4 * x.significand - 2
  (low * scale, 4 * x.significand * scale, (4 * x.significand + 2) * scale,
    4 * Nat.pow 2 (-x.exponent).toNat)

/-- Whether `(numerator / denominator)` rounds to the value. -/
def covers (x : Dyadic) (numerator denominator : Nat) : Bool :=
  let (low, _, high, unit) := x.quarters
  let point := numerator * unit
  if x.significand % 2 = 0 then low * denominator ≤ point && point ≤ high * denominator
  else low * denominator < point && point < high * denominator

/-- On the grid of multiples of `10 ^ exponent`, the point that rounds to the value, the nearer one
if both neighbours do, and the upper one of two equally near. -/
def onGrid (x : Dyadic) (exponent : Int) : Option Decimal :=
  let (_, value, _, unit) := x.quarters
  let up := Nat.pow 10 exponent.toNat
  let down := Nat.pow 10 (-exponent).toNat
  let step := up * unit
  let floor := value * down / step
  let rest := value * down % step
  let lower := x.covers (floor * up) down
  let upper := x.covers ((floor + 1) * up) down
  if upper && (!lower || step ≤ 2 * rest) then some { digits := floor + 1, exponent }
  else if lower then some { digits := floor, exponent }
  else none

/-- The least `k` from `start` on with `value < 10 ^ k`, looking at most `fuel` steps ahead. -/
def magnitudeFrom (x : Dyadic) (start : Int) : Nat → Int
  | 0 => start
  | fuel + 1 =>
    let (_, value, _, unit) := x.quarters
    if value * Nat.pow 10 (-start).toNat < unit * Nat.pow 10 start.toNat then start
    else magnitudeFrom x (start + 1) fuel

/-- The `k` with `10 ^ (k - 1) ≤ value < 10 ^ k`, for a value other than zero. The logarithm of two
to the base ten, 0.30103 in five places, gives it up to a few steps. -/
def magnitude (x : Dyadic) : Int :=
  let bits : Int := x.significand.log2 + x.exponent
  x.magnitudeFrom (bits * 30103 / 100000 - 1) 5

/-- The decimal with the fewest digits that rounds to the value; seventeen always suffice. -/
def shortest (x : Dyadic) : Decimal :=
  if x.significand = 0 then { digits := 0, exponent := 0 }
  else
    let top := x.magnitude
    ((List.range' 1 17).findSome? fun count : Nat => x.onGrid (top - (count : Int))).getD
      { digits := x.significand, exponent := 0 }

end Dyadic

namespace Decimal

/-- The decimal without an exponent: an integer without a point, and otherwise with a digit on both
sides of the point. -/
def positional (d : Decimal) : String :=
  let digits := Nat.toDigits 10 d.digits
  if 0 ≤ d.exponent then
    if d.digits = 0 then "0"
    else String.ofList (digits ++ List.replicate d.exponent.toNat '0')
  else
    let places := (-d.exponent).toNat
    let padded := List.replicate (places + 1 - digits.length) '0' ++ digits
    let whole := padded.take (padded.length - places)
    let fraction := padded.drop (padded.length - places)
    let kept := (fraction.reverse.dropWhile (· = '0')).reverse
    if kept.isEmpty then String.ofList whole
    else String.ofList whole ++ "." ++ String.ofList kept

end Decimal

/-- How a format writes the values that are no finite number. -/
structure FloatNotation where
  /-- The text of a value that is no number. -/
  undefined : String
  /-- The text of positive infinity. -/
  infinite : String
  /-- What follows a finite integer. -/
  wholeEnding : String

/-- A value of either precision, taken apart for writing. -/
structure FloatParts where
  negative : Bool
  undefined : Bool
  finite : Bool
  magnitude : Dyadic

def FloatParts.ofFloat32 (x : Float32) : FloatParts where
  negative := Nat.pow 2 31 ≤ x.toBits.toNat
  undefined := x.isNaN
  finite := x.isFinite
  magnitude := .ofFloat32 x

def FloatParts.ofFloat (x : Float) : FloatParts where
  negative := Nat.pow 2 63 ≤ x.toBits.toNat
  undefined := x.isNaN
  finite := x.isFinite
  magnitude := .ofFloat x

/-- The text of a value: a sign if it is negative (zero included), then its shortest decimal
without an exponent. -/
def FloatNotation.render (style : FloatNotation) (x : FloatParts) : String :=
  if x.undefined then style.undefined
  else
    let sign := if x.negative then "-" else ""
    if x.finite then
      let text := x.magnitude.shortest.positional
      sign ++ text ++ (if text.any (· = '.') then "" else style.wholeEnding)
    else sign ++ style.infinite

end SceneCompiler
