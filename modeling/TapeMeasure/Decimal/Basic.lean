import TapeMeasure.Text.Ascii

/- Decimal text of whole numbers, with one limit on its length in both directions: a group of
   more than 4300 digits is neither read nor written. -/
set_option autoImplicit false

namespace TapeMeasure.Decimal

def maxDigits : Nat := 4300

-- What is said of a number that breaks the limit; `detail` may tell how long it is.
def limitMessage (detail : String) : String :=
  "Exceeds the limit (" ++ toString maxDigits ++ " digits) for integer string conversion" ++
    detail ++ "; use sys.set_int_max_str_digits() to increase the limit"

def value (digits : Text) : Nat := Nat.ofDigitChars 10 digits 0

def digits (n : Nat) : Text := Nat.toDigits 10 n

def text : Int → Text
  | .ofNat n => digits n
  | .negSucc n => '-' :: digits (n + 1)

-- Zeros in front count as digits of the group.
def Readable (group : Text) : Prop := group.length ≤ maxDigits

instance (group : Text) : Decidable (Readable group) :=
  inferInstanceAs (Decidable (group.length ≤ maxDigits))

-- The sign does not count.
def Writable (n : Int) : Prop := (digits n.natAbs).length ≤ maxDigits

instance (n : Int) : Decidable (Writable n) :=
  inferInstanceAs (Decidable ((digits n.natAbs).length ≤ maxDigits))

def write (n : Int) : Option Text := if Writable n then some (text n) else none

theorem value_digits (n : Nat) : value (digits n) = n := Nat.ofDigitChars_ten_toDigits

theorem length_digits_le {n limit : Nat} (positive : 0 < limit) :
    (digits n).length ≤ limit ↔ n < Nat.pow 10 limit :=
  Nat.length_toDigits_le_iff (by decide) positive

theorem writable_iff (n : Int) : Writable n ↔ n.natAbs < Nat.pow 10 maxDigits :=
  length_digits_le (by decide)

theorem write_eq_some {n : Int} {written : Text} (found : write n = some written) :
    Writable n ∧ written = text n := by
  unfold write at found
  split at found
  · rename_i short
    exact ⟨short, (Option.some.inj found).symm⟩
  · exact absurd found nofun

end TapeMeasure.Decimal
