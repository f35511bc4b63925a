import TapeMeasure.Text.Ascii
import TapeMeasure.Text.Printable

/- The quoted form of a text, as messages show it: on one line, between quote marks, with
   every character that has no visible form written as an escape. -/
set_option autoImplicit false

namespace TapeMeasure.Text

-- A text is put between apostrophes, unless it holds an apostrophe and no double quote.
def quoteMark (cs : Text) : Char :=
  if cs.contains '\'' && !cs.contains '"' then '"' else '\''

-- The digits of `n` in base 16, with zeros in front up to `width` digits.
def hexDigits (width n : Nat) : Text :=
  let digits := Nat.toDigits 16 n
  List.replicate (width - digits.length) '0' ++ digits

-- The escape of a character by its code point, in two, four or eight digits.
def escapeCode (code : Nat) : Text :=
  if code < 0x100 then '\\' :: 'x' :: hexDigits 2 code
  else if code < 0x10000 then '\\' :: 'u' :: hexDigits 4 code
  else '\\' :: 'U' :: hexDigits 8 code

def escape (mark c : Char) : Text :=
  if c = '\\' ∨ c = mark then ['\\', c]
  else if c = '\n' then ['\\', 'n']
  else if c = '\r' then ['\\', 'r']
  else if c = '\t' then ['\\', 't']
  else if isPrintable c then [c]
  else escapeCode c.toNat

def quoted (cs : Text) : Text :=
  quoteMark cs :: cs.flatMap (escape (quoteMark cs)) ++ [quoteMark cs]

def quote (cs : Text) : String := String.ofList (quoted cs)

end TapeMeasure.Text
