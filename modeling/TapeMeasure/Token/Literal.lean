import TapeMeasure.Decimal.Basic
import TapeMeasure.Length.Basic

/- Length literals: feet, inches or a fraction of an inch, with each digit group as it was
   written. The reader takes the longest literal in front of a text, so feet are read together
   with the inches behind them whenever there are any. -/
set_option autoImplicit false

namespace TapeMeasure

inductive Separator where
  | optional
  | required
deriving DecidableEq, Repr

structure Fraction where
  numerator : Text
  denominator : Text
deriving DecidableEq, Repr

-- Inches with a mark, alone or with a fraction behind a dash.
inductive InchPart where
  | whole (inches : Text)
  | mixed (inches : Text) (fraction : Fraction)
deriving DecidableEq, Repr

inductive Literal where
  | feetOnly (feet : Text)
  | inchesOnly (part : InchPart)
  | fractionOnly (fraction : Fraction)
  | feetInches (feet gap : Text) (part : InchPart)
deriving DecidableEq, Repr

namespace Separator

def admits : Separator → Text → Bool
  | .optional, _ => true
  | .required, gap => !gap.isEmpty

end Separator

namespace Fraction

-- The text up to the closing mark of inches.
def spelling (fraction : Fraction) : Text :=
  fraction.numerator ++ '/' :: fraction.denominator ++ ['"']

def WellFormed (fraction : Fraction) : Prop :=
  Text.DigitGroup fraction.numerator ∧ Text.DigitGroup fraction.denominator

def read (cs : Text) : Option (Fraction × Text) :=
  match Text.takeDigits cs with
  | some (numerator, '/' :: afterSlash) =>
      match Text.takeDigits afterSlash with
      | some (denominator, '"' :: rest) => some (⟨numerator, denominator⟩, rest)
      | _ => none
  | _ => none

theorem read_append {cs rest : Text} {fraction : Fraction}
    (found : read cs = some (fraction, rest)) : cs = fraction.spelling ++ rest := by
  unfold read at found
  split at found
  · rename_i numerator afterSlash first
    split at found
    · rename_i denominator tail second
      simp only [Option.some.injEq, Prod.mk.injEq] at found
      obtain ⟨rfl, rfl⟩ := found
      simp [spelling, Text.take_digits_append first, Text.take_digits_append second]
    · simp at found
  · simp at found

end Fraction

namespace InchPart

def inches : InchPart → Text
  | .whole inches => inches
  | .mixed inches _ => inches

def fraction? : InchPart → Option Fraction
  | .whole _ => none
  | .mixed _ fraction => some fraction

def spelling : InchPart → Text
  | .whole inches => inches ++ ['"']
  | .mixed inches fraction => inches ++ '-' :: fraction.spelling

def WellFormed (part : InchPart) : Prop :=
  Text.DigitGroup part.inches ∧
    ∀ fraction, part.fraction? = some fraction → fraction.WellFormed

def read (cs : Text) : Option (InchPart × Text) :=
  match Text.takeDigits cs with
  | some (inches, '"' :: rest) => some (.whole inches, rest)
  | some (inches, '-' :: afterDash) =>
      match Fraction.read afterDash with
      | some (fraction, rest) => some (.mixed inches fraction, rest)
      | none => none
  | _ => none

theorem read_append {cs rest : Text} {part : InchPart} (found : read cs = some (part, rest)) :
    cs = part.spelling ++ rest := by
  unfold read at found
  split at found
  · rename_i inches tail taken
    simp only [Option.some.injEq, Prod.mk.injEq] at found
    obtain ⟨rfl, rfl⟩ := found
    simp [spelling, Text.take_digits_append taken]
  · rename_i inches afterDash taken
    split at found
    · rename_i fraction tail read
      simp only [Option.some.injEq, Prod.mk.injEq] at found
      obtain ⟨rfl, rfl⟩ := found
      simp [spelling, Text.take_digits_append taken, Fraction.read_append read]
    · simp at found
  · simp at found

end InchPart

namespace Literal

def feet? : Literal → Option Text
  | .feetOnly feet => some feet
  | .feetInches feet _ _ => some feet
  | _ => none

def inches? : Literal → Option Text
  | .inchesOnly part => some part.inches
  | .feetInches _ _ part => some part.inches
  | _ => none

def fraction? : Literal → Option Fraction
  | .feetOnly _ => none
  | .inchesOnly part => part.fraction?
  | .fractionOnly fraction => some fraction
  | .feetInches _ _ part => part.fraction?

def spelling : Literal → Text
  | .feetOnly feet => feet ++ ['\'']
  | .inchesOnly part => part.spelling
  | .fractionOnly fraction => fraction.spelling
  | .feetInches feet gap part => feet ++ '\'' :: gap ++ part.spelling

def WellFormed (separator : Separator) : Literal → Prop
  | .feetOnly feet => Text.DigitGroup feet
  | .inchesOnly part => part.WellFormed
  | .fractionOnly fraction => fraction.WellFormed
  | .feetInches feet gap part =>
      Text.DigitGroup feet ∧ Text.AllBlank gap ∧ separator.admits gap = true ∧ part.WellFormed

def readInches (separator : Separator) (cs : Text) : Option (Text × InchPart × Text) :=
  let (gap, afterGap) := Text.takeBlanks cs
  if separator.admits gap then
    match InchPart.read afterGap with
    | some (part, rest) => some (gap, part, rest)
    | none => none
  else none

-- The longest literal in front of a text, and the rest of it.
def read (separator : Separator) (cs : Text) : Option (Literal × Text) :=
  match Text.takeDigits cs with
  | some (feet, '\'' :: afterFeet) =>
      match readInches separator afterFeet with
      | some (gap, part, rest) => some (.feetInches feet gap part, rest)
      | none => some (.feetOnly feet, afterFeet)
  | _ =>
      match InchPart.read cs with
      | some (part, rest) => some (.inchesOnly part, rest)
      | none =>
          match Fraction.read cs with
          | some (fraction, rest) => some (.fractionOnly fraction, rest)
          | none => none

def digitGroups (literal : Literal) : List Text :=
  literal.feet?.toList ++ literal.inches?.toList ++
    match literal.fraction? with
    | some fraction => [fraction.numerator, fraction.denominator]
    | none => []

def wholeInches (literal : Literal) : Nat :=
  Decimal.value (literal.feet?.getD []) * 12 + Decimal.value (literal.inches?.getD [])

def sixteenths (literal : Literal) : Nat :=
  match literal.fraction? with
  | some fraction =>
      Length.quantise (Decimal.value fraction.numerator) (Decimal.value fraction.denominator)
  | none => 0

inductive Flaw where
  | tooLong (digits : Nat)
  | zeroDenominator
deriving DecidableEq, Repr

def zeroDenominator (literal : Literal) : Bool :=
  literal.fraction?.any fun fraction => Decimal.value fraction.denominator == 0

-- The length that a literal stands for. The first digit group that is too long to be read comes
-- before a denominator of zero.
def resolve (literal : Literal) : Except Flaw Length :=
  match literal.digitGroups.find? fun group => !decide (Decimal.Readable group) with
  | some group => .error (.tooLong group.length)
  | none =>
      if literal.zeroDenominator then .error .zeroDenominator
      else .ok (Length.carried literal.wholeInches literal.sixteenths)

theorem read_inches_append {separator : Separator} {cs gap rest : Text} {part : InchPart}
    (found : readInches separator cs = some (gap, part, rest)) :
    cs = gap ++ part.spelling ++ rest := by
  simp only [readInches] at found
  split at found
  · split at found
    · rename_i tail read
      simp only [Option.some.injEq, Prod.mk.injEq] at found
      obtain ⟨rfl, rfl, rfl⟩ := found
      rw [List.append_assoc, ← InchPart.read_append read, Text.take_blanks_append]
    · simp at found
  · simp at found

theorem read_append {separator : Separator} {cs rest : Text} {literal : Literal}
    (found : read separator cs = some (literal, rest)) : cs = literal.spelling ++ rest := by
  unfold read at found
  split at found
  · rename_i feet afterFeet taken
    split at found
    · rename_i gap part tail behind
      simp only [Option.some.injEq, Prod.mk.injEq] at found
      obtain ⟨rfl, rfl⟩ := found
      simp [spelling, Text.take_digits_append taken, read_inches_append behind]
    · simp only [Option.some.injEq, Prod.mk.injEq] at found
      obtain ⟨rfl, rfl⟩ := found
      simp [spelling, Text.take_digits_append taken]
  · split at found
    · rename_i part tail read
      simp only [Option.some.injEq, Prod.mk.injEq] at found
      obtain ⟨rfl, rfl⟩ := found
      exact InchPart.read_append read
    · split at found
      · rename_i fraction tail read
        simp only [Option.some.injEq, Prod.mk.injEq] at found
        obtain ⟨rfl, rfl⟩ := found
        exact Fraction.read_append read
      · simp at found

theorem spelling_not_empty (literal : Literal) : literal.spelling ≠ [] := by
  cases literal with
  | feetOnly feet => simp [spelling]
  | inchesOnly part => cases part <;> simp [spelling, InchPart.spelling]
  | fractionOnly fraction => simp [spelling, Fraction.spelling]
  | feetInches feet gap part => simp [spelling]

end Literal

end TapeMeasure
