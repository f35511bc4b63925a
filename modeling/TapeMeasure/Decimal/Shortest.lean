import TapeMeasure.Decimal.Basic
import TapeMeasure.Decimal.Binary

/- The shortest decimal text that reads back as a given binary number: the fewest digits of all
   decimals that round to it, and of those the nearest. Decimals of `k` digits lie on a grid of
   powers of ten, and if one of a grid rounds to the number, so does a neighbour of the number. -/
set_option autoImplicit false

namespace TapeMeasure.Decimal

-- A positive number in units of one power of ten on a grid: `units * 10 ^ power`.
structure GridPoint where
  units : Nat
  power : Int
deriving DecidableEq, Repr

-- The point of the grid of `10 ^ power` that rounds to the number and is nearest to it. All is
-- compared in quarters of the last place of the significand, over a common denominator.
def pointOnGrid (b : Binary) (power : Int) : Option GridPoint :=
  let up := Nat.pow 10 (-power).toNat <<< b.exponent.toNat
  let place := 4 * Nat.pow 10 power.toNat <<< (-b.exponent).toNat
  let value := 4 * b.significand * up
  -- Below a power of two the numbers lie twice as close.
  let gap :=
    if b.significand = Binary.leastFull ∧ Binary.minExponent < b.exponent then up else 2 * up
  let least := value - gap
  let greatest := value + 2 * up
  let roundsBack (units : Nat) : Bool :=
    if b.significand % 2 = 0 then least ≤ units * place && units * place ≤ greatest
    else least < units * place && units * place < greatest
  let below := value / place
  let above := below + 1
  match roundsBack below, roundsBack above with
  | true, true =>
      let down := value - below * place
      let rise := above * place - value
      if down < rise ∨ down = rise ∧ below % 2 = 0 then some ⟨below, power⟩
      else some ⟨above, power⟩
  | true, false => some ⟨below, power⟩
  | false, true => some ⟨above, power⟩
  | false, false => none

def leadingPower (b : Binary) : Int :=
  let whole := (b.significand * Nat.pow 10 400) <<< b.exponent.toNat >>> (-b.exponent).toNat
  (digits whole).length - 401

-- Tries grids of `count` digits and more, of which `tries` are left.
def firstPoint (b : Binary) (count : Nat) : Nat → GridPoint
  | 0 => ⟨b.significand <<< b.exponent.toNat, 0⟩
  | tries + 1 =>
      match pointOnGrid b (leadingPower b - count + 1) with
      | some point => point
      | none => firstPoint b (count + 1) tries

-- Seventeen digits always tell a binary number from its neighbours.
def shortest (b : Binary) : GridPoint := firstPoint b 1 17

-- Powers of ten from -4 to 15 are written out; others are given as an exponent of at least two
-- digits with its sign. A number that is written out always has a digit behind the point.
def layOut (significant : Text) (power : Int) : Text :=
  if power < -4 ∨ 16 ≤ power then
    let mantissa :=
      match significant with
      | first :: second :: rest => first :: '.' :: second :: rest
      | short => short
    let magnitude := digits power.natAbs
    mantissa ++ 'e' :: (if power < 0 then '-' else '+') ::
      (if magnitude.length < 2 then '0' :: magnitude else magnitude)
  else if power < 0 then
    '0' :: '.' :: (List.replicate (-power - 1).toNat '0' ++ significant)
  else
    let count := power.toNat + 1
    let whole := significant.take count ++ List.replicate (count - significant.length) '0'
    let places := significant.drop count
    whole ++ '.' :: (if places = [] then ['0'] else places)

def binaryText (b : Binary) : Text :=
  let point := shortest b
  let all := digits point.units
  let significant := (all.reverse.dropWhile fun c => c == '0').reverse
  layOut significant (point.power + all.length - 1)

def roundedText (negative : Bool) (digits : Nat) (power : Int) : Text :=
  let magnitude :=
    match Binary.ofDecimal digits power with
    | none => "inf".toList
    | some b => if b.significand = 0 then "0.0".toList else binaryText b
  if negative then '-' :: magnitude else magnitude

end TapeMeasure.Decimal
