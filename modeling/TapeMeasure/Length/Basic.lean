/- Lengths in whole inches and sixteenths of an inch. Both numbers are integers without bounds,
   because a length can be made without any check; a normal length is one that a measure can show:
   nothing negative, and fewer than sixteen sixteenths. Feet are not kept but derived. -/
set_option autoImplicit false

namespace TapeMeasure

structure Length where
  wholeInches : Int
  numerator16 : Int
deriving DecidableEq, Repr

namespace Length

inductive Field where
  | wholeInches
  | numerator16
deriving DecidableEq, Repr

def Field.name : Field → String
  | .wholeInches => "whole_inches"
  | .numerator16 => "numerator16"

def Field.key (field : Field) : List Char := field.name.toList

def Normal (length : Length) : Prop :=
  0 ≤ length.wholeInches ∧ 0 ≤ length.numerator16 ∧ length.numerator16 ≤ 15

instance (length : Length) : Decidable length.Normal :=
  inferInstanceAs (Decidable (_ ∧ _ ∧ _))

-- Whole feet and the inches left over, 0 to 11 also below zero.
def splitFeet (wholeInches : Int) : Int × Int := (wholeInches / 12, wholeInches % 12)

def feet (length : Length) : Int := (splitFeet length.wholeInches).1

def inches (length : Length) : Int := (splitFeet length.wholeInches).2

def totalSixteenths (length : Length) : Int := length.wholeInches * 16 + length.numerator16

def carried (wholeInches numerator16 : Int) : Length :=
  ⟨wholeInches + numerator16 / 16, numerator16 % 16⟩

-- The number of sixteenths of an inch in a fraction, rounded down and never above a whole inch.
def quantise (numerator denominator : Nat) : Nat := min (numerator * 16 / denominator) 16

theorem total_carried (wholeInches numerator16 : Int) :
    (carried wholeInches numerator16).totalSixteenths = wholeInches * 16 + numerator16 := by
  simp only [totalSixteenths, carried]
  omega

theorem carried_normal (wholeInches numerator16 : Int) (whole : 0 ≤ wholeInches)
    (sixteenths : 0 ≤ numerator16) : (carried wholeInches numerator16).Normal := by
  simp only [Normal, carried]
  omega

theorem normal_of_total (a b : Length) (first : a.Normal) (second : b.Normal)
    (same : a.totalSixteenths = b.totalSixteenths) : a = b := by
  cases a
  cases b
  simp only [Normal, totalSixteenths, mk.injEq] at *
  omega

end Length

end TapeMeasure
