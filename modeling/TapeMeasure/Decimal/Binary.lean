/- Binary numbers of double precision: a significand of at most 53 digits times a power of two,
   and the one of them that is nearest to a given positive fraction. -/
set_option autoImplicit false

namespace TapeMeasure

structure Binary where
  significand : Nat
  exponent : Int
deriving DecidableEq, Repr

namespace Binary

def minExponent : Int := -1074

def maxExponent : Int := 971

def leastFull : Nat := 1 <<< 52

def scaled (num den : Nat) (exponent : Int) : Nat × Nat :=
  (num <<< (-exponent).toNat, den <<< exponent.toNat)

-- The natural number nearest to a fraction, and the even one of two.
def roundHalfEven (num den : Nat) : Nat :=
  let below := num / den
  let rest := num % den
  if 2 * rest < den then below
  else if den < 2 * rest then below + 1
  else if below % 2 = 0 then below else below + 1

-- The exponent at which a fraction has a significand of 53 digits, or the smallest exponent.
def exponentOf (num den : Nat) : Int :=
  let guess := max ((Nat.log2 num : Int) - Nat.log2 den - 52) minExponent
  let trial := scaled num den guess
  if minExponent < guess ∧ trial.1 < trial.2 <<< 52 then guess - 1 else guess

-- The binary number nearest to a fraction; none if that is too great to be one.
def nearest (num den : Nat) : Option Binary :=
  let exponent := exponentOf num den
  let parts := scaled num den exponent
  let significand := roundHalfEven parts.1 parts.2
  let rounded : Binary :=
    if significand = leastFull <<< 1 then ⟨leastFull, exponent + 1⟩
    else ⟨significand, exponent⟩
  if maxExponent < rounded.exponent then none else some rounded

-- The binary number nearest to `digits * 10 ^ power`. Powers far outside the range of binary
-- numbers are told from the count of digits alone.
def ofDecimal (digits : Nat) (power : Int) : Option Binary :=
  let magnitude := (Nat.toDigits 10 digits).length + power
  if digits = 0 ∨ magnitude < -330 then some ⟨0, minExponent⟩
  else if 310 < magnitude then none
  else nearest (digits * Nat.pow 10 power.toNat) (Nat.pow 10 (-power).toNat)

end Binary

end TapeMeasure
