import TapeMeasure.Decimal.Shortest
import TapeMeasure.Value.Basic

/- Values from JSON text, read strictly: no comments, no trailing commas, no numbers but those of
   the standard and the words NaN, Infinity and -Infinity. Of several entries with one key the last
   is kept. The digits in front of a point obey the limit on digits, and containers with something
   in them may be nested 200 deep. -/
set_option autoImplicit false

namespace TapeMeasure.Json

def maxDepth : Nat := 200

def isBlank (c : Char) : Bool := c == ' ' || c == '\t' || c == '\n' || c == '\r'

def skipBlanks (cs : Text) : Text := cs.dropWhile isBlank

def behind (word cs : Text) : Option Text :=
  if word.isPrefixOf cs then some (cs.drop word.length) else none

-- The places behind the point, which may be missing with it.
def readPlaces : Text → Option (Text × Text)
  | '.' :: rest => Text.takeDigits rest
  | cs => some ([], cs)

def readPower : Text → Option (Int × Text)
  | '-' :: rest => (Text.takeDigits rest).map fun (digits, rest) => (-Decimal.value digits, rest)
  | '+' :: rest => (Text.takeDigits rest).map fun (digits, rest) => (Decimal.value digits, rest)
  | cs => (Text.takeDigits cs).map fun (digits, rest) => (Decimal.value digits, rest)

def readExponent : Text → Option (Option Int × Text)
  | 'e' :: rest => (readPower rest).map fun (power, rest) => (some power, rest)
  | 'E' :: rest => (readPower rest).map fun (power, rest) => (some power, rest)
  | cs => some (none, cs)

def readUnsigned (negative : Bool) (cs : Text) : Option (Value × Text) := do
  let (whole, afterWhole) ← Text.takeDigits cs
  if whole.head? = some '0' ∧ 1 < whole.length then none
  if Decimal.maxDigits < whole.length then none
  let (places, afterPlaces) ← readPlaces afterWhole
  let (power, rest) ← readExponent afterPlaces
  if places = [] ∧ power = none then
    let magnitude : Int := Decimal.value whole
    return (.int (if negative then -magnitude else magnitude), rest)
  let written := Decimal.roundedText negative (Decimal.value (whole ++ places))
    (power.getD 0 - places.length)
  return (.float written, rest)

-- A number, or one of the three words for floats that are not finite.
def readNumber : Text → Option (Value × Text)
  | 'N' :: rest => (behind "aN".toList rest).map fun rest => (.float "nan".toList, rest)
  | 'I' :: rest => (behind "nfinity".toList rest).map fun rest => (.float "inf".toList, rest)
  | '-' :: 'I' :: rest =>
      (behind "nfinity".toList rest).map fun rest => (.float "-inf".toList, rest)
  | '-' :: rest => readUnsigned true rest
  | cs => readUnsigned false cs

-- The character that a letter behind a backslash stands for.
def escaped : Char → Option Char
  | '"' => some '"'
  | '\\' => some '\\'
  | '/' => some '/'
  | 'b' => some '\x08'
  | 'f' => some '\x0c'
  | 'n' => some '\n'
  | 'r' => some '\r'
  | 't' => some '\t'
  | _ => none

def hexDigit (c : Char) : Option Nat :=
  if c.isDigit then some (c.toNat - '0'.toNat)
  else if 'a' ≤ c ∧ c ≤ 'f' then some (c.toNat - 'a'.toNat + 10)
  else if 'A' ≤ c ∧ c ≤ 'F' then some (c.toNat - 'A'.toNat + 10)
  else none

-- Where a reader stands inside a string.
inductive StringState where
  | plain
  | escape
  | code (left unit : Nat)
deriving DecidableEq, Repr

-- What a complete unit of sixteen bits means behind the first half of a pair, if there is one:
-- a character, or a first half. A half without its other half means nothing.
def joinUnit (high : Option Nat) (unit : Nat) : Option (Char ⊕ Nat) :=
  match high with
  | none =>
      if 0xd800 ≤ unit ∧ unit < 0xdc00 then some (.inr unit)
      else if 0xdc00 ≤ unit ∧ unit < 0xe000 then none
      else some (.inl (Char.ofNat unit))
  | some first =>
      if 0xdc00 ≤ unit ∧ unit < 0xe000 then
        some (.inl (Char.ofNat (0x10000 + (first - 0xd800) * 0x400 + (unit - 0xdc00))))
      else none

-- Puts a character in front of the string that was read behind it.
def prepend (c : Char) (behind : Option (Text × Text)) : Option (Text × Text) :=
  behind.map fun (tail, rest) => (c :: tail, rest)

-- The rest of a string whose opening quote has been read, and the text behind its closing
-- quote. `high` is the first half of a pair that waits for the other half.
def readString (state : StringState) (high : Option Nat) : Text → Option (Text × Text)
  | [] => none
  | c :: rest =>
      match state with
      | .plain =>
          if c = '\\' then readString .escape high rest
          else if high.isSome then none
          else if c = '"' then some ([], rest)
          else if c.toNat < 0x20 then none
          else prepend c (readString .plain none rest)
      | .escape =>
          if c = 'u' then readString (.code 4 0) high rest
          else if high.isSome then none
          else
            match escaped c with
            | some meant => prepend meant (readString .plain none rest)
            | none => none
      | .code left unit =>
          match hexDigit c with
          | none => none
          | some digit =>
              if 1 < left then readString (.code (left - 1) (unit * 16 + digit)) high rest
              else
                match joinUnit high (unit * 16 + digit) with
                | some (.inl meant) => prepend meant (readString .plain none rest)
                | some (.inr first) => readString .plain (some first) rest
                | none => none

def readKey (cs : Text) : Option (Text × Text) := do
  let afterQuote ← behind ['"'] (skipBlanks cs)
  let (key, rest) ← readString .plain none afterQuote
  let afterColon ← behind [':'] (skipBlanks rest)
  return (key, afterColon)

-- An item or entry is read as a value of the same text, or behind its key; all other calls are made
-- on a shorter text. So two steps for every character suffice.
mutual
-- The value in front of a text, with blanks before it, and the rest. `depth` is how many more
-- containers may be opened.
def readValue (steps depth : Nat) (cs : Text) : Option (Value × Text) :=
  match steps with
  | 0 => none
  | steps + 1 =>
      match skipBlanks cs with
      | 'n' :: rest => (behind "ull".toList rest).map fun rest => (.null, rest)
      | 't' :: rest => (behind "rue".toList rest).map fun rest => (.bool true, rest)
      | 'f' :: rest => (behind "alse".toList rest).map fun rest => (.bool false, rest)
      | '"' :: rest => (readString .plain none rest).map fun (s, rest) => (.text s, rest)
      | '[' :: rest =>
          match skipBlanks rest, depth with
          | ']' :: rest, _ => some (.list [], rest)
          | _, 0 => none
          | first, depth + 1 =>
              (readItems steps depth first).map fun (items, rest) => (.list items, rest)
      | '\x7b' :: rest =>
          match skipBlanks rest, depth with
          | '\x7d' :: rest, _ => some (.record [], rest)
          | _, 0 => none
          | first, depth + 1 =>
              (readEntries steps depth [] first).map fun (entries, rest) => (.record entries, rest)
      | front => readNumber front
def readItems (steps depth : Nat) (cs : Text) : Option (List Value × Text) :=
  match steps with
  | 0 => none
  | steps + 1 =>
      match readValue steps depth cs with
      | none => none
      | some (item, rest) =>
          match skipBlanks rest with
          | ',' :: rest =>
              (readItems steps depth rest).map fun (items, rest) => (item :: items, rest)
          | ']' :: rest => some ([item], rest)
          | _ => none
-- The entries of a record from the next one on, put to those before.
def readEntries (steps depth : Nat) (before : List (Text × Value)) (cs : Text) :
    Option (List (Text × Value) × Text) :=
  match steps with
  | 0 => none
  | steps + 1 =>
      match readKey cs with
      | none => none
      | some (key, afterColon) =>
          match readValue steps depth afterColon with
          | none => none
          | some (value, rest) =>
              match skipBlanks rest with
              | ',' :: rest => readEntries steps depth (Value.put key value before) rest
              | '\x7d' :: rest => some (Value.put key value before, rest)
              | _ => none
end

def read (cs : Text) : Option Value :=
  match readValue (2 * cs.length + 2) maxDepth cs with
  | some (value, rest) => if skipBlanks rest = [] then some value else none
  | none => none

end TapeMeasure.Json
