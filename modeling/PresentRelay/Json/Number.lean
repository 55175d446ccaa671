/-!
# Numbers as messages show them

A number that is not an integer is shown with the fewest digits that read back:
positionally from `0.00001` up to, and without, `10 ^ 16`, otherwise with an
exponent.  Positional notation always has a fractional part.

A finite binary number stands for every real that rounds to it.  Its decimal
form is the point of the coarsest decimal grid among those reals, and the one
nearest to the number where a grid has two.  All comparisons are made on exact
natural numbers.
-/

set_option autoImplicit false

namespace PresentRelay.Decimal

/-- A positive real `numerator / denominator`. -/
structure Quotient where
  numerator : Nat
  denominator : Nat

/-- A finite magnitude `significand · 2 ^ exponent`. -/
structure Binary where
  significand : Nat
  exponent : Int

/-- A decimal magnitude `digits · 10 ^ exponent`. -/
structure Scaled where
  digits : Nat
  exponent : Int

namespace Binary

def ofBits (bits : UInt64) : Binary :=
  let field := ((bits >>> 52) &&& 0x7FF).toNat
  let fraction := (bits &&& 0xFFFFFFFFFFFFF).toNat
  if field = 0 then ⟨fraction, -1074⟩ else ⟨fraction + 0x10000000000000, (field : Int) - 1075⟩

/-- `count` quarters of the last unit of `value`. -/
def quarters (value : Binary) (count : Nat) : Quotient :=
  if 2 ≤ value.exponent then ⟨count <<< (value.exponent - 2).toNat, 1⟩
  else ⟨count, 1 <<< (2 - value.exponent).toNat⟩

def exact (value : Binary) : Quotient := value.quarters (4 * value.significand)

/-- The upper end of the reals that round to `value`. -/
def upper (value : Binary) : Quotient := value.quarters (4 * value.significand + 2)

/-- The lower end of the reals that round to `value`; it is closer where the
next smaller number has a finer last unit. -/
def lower (value : Binary) : Quotient :=
  let closer := value.significand = 0x10000000000000 && decide (-1074 < value.exponent)
  value.quarters (4 * value.significand - if closer then 1 else 2)

/-- Whether `digits · 10 ^ exponent` rounds to `value`; the two ends do when the
significand is even. -/
def attains (value : Binary) (candidate : Scaled) : Bool :=
  let scaleUp := Nat.pow 10 candidate.exponent.toNat
  let scaleDown := Nat.pow 10 (-candidate.exponent).toNat
  let above (bound : Quotient) :=
    (bound.numerator * scaleDown, candidate.digits * scaleUp * bound.denominator)
  let (low, atLow) := above value.lower
  let (high, atHigh) := above value.upper
  if value.significand % 2 = 0 then low ≤ atLow && atHigh ≤ high
  else low < atLow && atHigh < high

/-- The number of whole decimal places: `10 ^ (places - 1) ≤ value < 10 ^ places`. -/
def places (value : Binary) : Int :=
  let q := value.exact
  if q.denominator ≤ q.numerator then ((Nat.toDigits 10 (q.numerator / q.denominator)).length : Int)
  else
    -- The first power of ten that lifts the value to one or more counts the zeros before it.
    match (List.range 400).find? fun k => q.denominator ≤ q.numerator * Nat.pow 10 (k + 1) with
    | some zeros => -(zeros : Int)
    | none => 0

/-- The two neighbours of `value` on the grid of `count` significant digits. -/
def neighbours (value : Binary) (count : Nat) : Scaled × Scaled :=
  let exponent := value.places - count
  let q := value.exact
  let below :=
    if 0 ≤ exponent then q.numerator / (q.denominator * Nat.pow 10 exponent.toNat)
    else q.numerator * Nat.pow 10 (-exponent).toNat / q.denominator
  (⟨below, exponent⟩, ⟨below + 1, exponent⟩)

/-- Whether the lower neighbour is the nearer one; an exact tie goes to the even digit. -/
def lowerIsNearer (value : Binary) (below : Scaled) : Bool :=
  let q := value.exact
  let up := Nat.pow 10 below.exponent.toNat
  let down := Nat.pow 10 (-below.exponent).toNat
  let twice := 2 * q.numerator * down
  let middle := (2 * below.digits + 1) * up * q.denominator
  if twice = middle then below.digits % 2 = 0 else twice < middle

/-- The point of the grid of `count` digits that rounds to `value`, if there is one. -/
def onGrid (value : Binary) (count : Nat) : Option Scaled :=
  let (below, above) := value.neighbours count
  match value.attains below, value.attains above with
  | true, true => some (if value.lowerIsNearer below then below else above)
  | true, false => some below
  | false, true => some above
  | false, false => none

end Binary

def stripZeros : Nat → Scaled → Scaled
  | 0, value => value
  | fuel + 1, value =>
    if value.digits % 10 = 0 then stripZeros fuel ⟨value.digits / 10, value.exponent + 1⟩ else value

/-- The decimal of fewest digits that rounds to a positive `value`; seventeen always suffice. -/
def shortest (value : Binary) : Scaled :=
  let grids := (List.range 17).map (· + 1)
  stripZeros 20 ((grids.findSome? value.onGrid).getD ⟨0, 0⟩)

end PresentRelay.Decimal

namespace PresentRelay.Json

/-- Which decimal exponents are written positionally. -/
structure RealLayout where
  /-- The least place of the first digit, counted from the unit place as one. -/
  leastPlace : Int
  /-- The greatest place of the first digit. -/
  greatestPlace : Int
  plus : String

/-- Five zeros at most stand before the first digit, and sixteen places before the point. -/
def realLayout : RealLayout := ⟨-4, 16, "+"⟩

def zeros (count : Nat) : String := String.ofList (List.replicate count '0')

def realMagnitude (layout : RealLayout) (value : Decimal.Scaled) : String :=
  let digits := toString value.digits
  let place := (digits.length : Int) + value.exponent
  if layout.leastPlace ≤ place && place ≤ layout.greatestPlace then
    if 0 ≤ value.exponent then digits ++ zeros value.exponent.toNat ++ ".0"
    else if 0 < place then
      let chars := digits.toList
      String.ofList (chars.take place.toNat) ++ "." ++ String.ofList (chars.drop place.toNat)
    else "0." ++ zeros (-place).toNat ++ digits
  else
    let chars := digits.toList
    let fraction := String.ofList (chars.drop 1)
    let power := place - 1
    String.ofList (chars.take 1) ++ (if fraction.isEmpty then "" else "." ++ fraction) ++ "e" ++
      (if 0 ≤ power then layout.plus else "") ++ toString power

def realText (value : Float) : String :=
  let bits := value.toBits
  let sign := if bits >>> 63 = 1 then "-" else ""
  let magnitude := Decimal.Binary.ofBits bits
  if magnitude.significand = 0 then sign ++ "0.0"
  else sign ++ realMagnitude realLayout (Decimal.shortest magnitude)

end PresentRelay.Json
