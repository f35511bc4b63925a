import TapeMeasure.Proofs.Decimal.Numeral
import TapeMeasure.Proofs.Token.Reading
import TapeMeasure.Value.Json

/- What the reader of JSON gives back of integers, of keys without escapes and of the entries of a
   record, when they are written without blanks. An integer is read with its sign and in full, as
   long as its digits keep to the limit. -/
set_option autoImplicit false

namespace TapeMeasure.Json

-- A character that cannot belong to a number.
def EndsNumber (c : Char) : Prop :=
  c.isDigit = false ∧ c ≠ '.' ∧ c ≠ 'e' ∧ c ≠ 'E'

instance (c : Char) : Decidable (EndsNumber c) :=
  inferInstanceAs (Decidable (_ ∧ _ ∧ _ ∧ _))

theorem read_places_none {c : Char} (rest : Text) (ends : EndsNumber c) :
    readPlaces (c :: rest) = some ([], c :: rest) := by
  unfold readPlaces
  split
  · rename_i same
    exact absurd (List.cons.inj same).1 ends.2.1
  · rfl

theorem read_exponent_none {c : Char} (rest : Text) (ends : EndsNumber c) :
    readExponent (c :: rest) = some (none, c :: rest) := by
  unfold readExponent
  split
  · rename_i same
    exact absurd (List.cons.inj same).1 ends.2.2.1
  · rename_i same
    exact absurd (List.cons.inj same).1 ends.2.2.2
  · rfl

theorem digits_no_zero_in_front (n : Nat) :
    ¬ ((Decimal.digits n).head? = some '0' ∧ 1 < (Decimal.digits n).length) := by
  intro ⟨zero, long⟩
  by_cases positive : 0 < n
  · exact (Decimal.digits_numeral positive).2 zero
  · obtain rfl := Nat.eq_zero_of_not_pos positive
    exact absurd long (by decide)

theorem read_unsigned_digits (n : Nat) {c : Char} (negative : Bool) (rest : Text)
    (short : (Decimal.digits n).length ≤ Decimal.maxDigits) (ends : EndsNumber c) :
    readUnsigned negative (Decimal.digits n ++ c :: rest) =
      some (.int (if negative then -(n : Int) else n), c :: rest) := by
  have taken : Text.takeDigits (Decimal.digits n ++ c :: rest) =
      some (Decimal.digits n, c :: rest) :=
    Text.take_digits_iff.mpr ⟨rfl, Decimal.digits_group n, ends.1⟩
  simp only [readUnsigned, taken, Option.bind_eq_bind, Option.bind_some,
    if_neg (digits_no_zero_in_front n), if_neg (Nat.not_lt.mpr short), read_places_none rest ends,
    read_exponent_none rest ends, Decimal.value_digits]
  rfl

theorem read_number_digit {d : Char} (rest : Text) (digit : d.isDigit = true) :
    readNumber (d :: rest) = readUnsigned false (d :: rest) := by
  unfold readNumber
  split
  case h_5 => rfl
  all_goals
    rename_i same
    rw [(List.cons.inj same).1] at digit
    exact absurd digit (by decide)

theorem read_number_minus {d : Char} (rest : Text) (digit : d.isDigit = true) :
    readNumber ('-' :: d :: rest) = readUnsigned true (d :: rest) := by
  unfold readNumber
  split
  · rename_i same
    exact absurd (List.cons.inj same).1 (by decide)
  · rename_i same
    exact absurd (List.cons.inj same).1 (by decide)
  · rename_i same
    rw [(List.cons.inj (List.cons.inj same).2).1] at digit
    exact absurd digit (by decide)
  · rename_i same
    rw [(List.cons.inj same).2]
  · rename_i minus
    exact absurd rfl (minus _)

-- What the text of an integer begins with.
def Signed (front : Char) : Prop := front.isDigit = true ∨ front = '-'

instance (front : Char) : Decidable (Signed front) :=
  inferInstanceAs (Decidable (_ ∨ _))

theorem text_signed (n : Int) : ∃ front rest, Decimal.text n = front :: rest ∧ Signed front := by
  cases n with
  | ofNat n =>
      obtain ⟨digit, rest, same, isDigit⟩ := Text.digit_group_front (Decimal.digits_group n)
      exact ⟨digit, rest, same, Or.inl isDigit⟩
  | negSucc n => exact ⟨'-', Decimal.digits (n + 1), rfl, Or.inr rfl⟩

theorem read_number_text {n : Int} {c : Char} (rest : Text) (short : Decimal.Writable n)
    (ends : EndsNumber c) :
    readNumber (Decimal.text n ++ c :: rest) = some (.int n, c :: rest) := by
  cases n with
  | ofNat n =>
      obtain ⟨digit, tail, same, isDigit⟩ := Text.digit_group_front (Decimal.digits_group n)
      have read := read_unsigned_digits n false rest short ends
      rw [same] at read
      rw [Decimal.text, same, List.cons_append, read_number_digit _ isDigit]
      exact read
  | negSucc n =>
      obtain ⟨digit, tail, same, isDigit⟩ := Text.digit_group_front (Decimal.digits_group (n + 1))
      have read := read_unsigned_digits (n + 1) true rest short ends
      rw [same] at read
      rw [Decimal.text, same, List.cons_append, List.cons_append, read_number_minus _ isDigit]
      exact read

theorem signed_not_blank {front : Char} (signed : Signed front) : isBlank front = false := by
  cases blank : isBlank front with
  | false => rfl
  | true =>
      simp only [isBlank, Bool.or_eq_true, beq_iff_eq] at blank
      rcases blank with ((rfl | rfl) | rfl) | rfl <;> exact absurd signed (by decide)

theorem read_value_signed {front : Char} (steps depth : Nat) (rest : Text)
    (signed : Signed front) :
    readValue (steps + 1) depth (front :: rest) = readNumber (front :: rest) := by
  have unblank : skipBlanks (front :: rest) = front :: rest := by
    rw [skipBlanks, List.dropWhile_cons_of_neg (by rw [signed_not_blank signed]; decide)]
  rw [readValue, unblank]
  split
  case h_7 => rfl
  all_goals
    rename_i same
    rw [(List.cons.inj same).1] at signed
    exact absurd signed (by decide)

theorem read_value_text {n : Int} {c : Char} (steps depth : Nat) (rest : Text)
    (short : Decimal.Writable n) (ends : EndsNumber c) :
    readValue (steps + 1) depth (Decimal.text n ++ c :: rest) = some (.int n, c :: rest) := by
  obtain ⟨front, tail, same, signed⟩ := text_signed n
  rw [← read_number_text rest short ends, same]
  exact read_value_signed steps depth (tail ++ c :: rest) signed

-- A character that stands for itself inside a string.
def Plain (c : Char) : Prop := c ≠ '\\' ∧ c ≠ '"' ∧ 0x20 ≤ c.toNat

instance (c : Char) : Decidable (Plain c) :=
  inferInstanceAs (Decidable (_ ∧ _ ∧ _))

theorem read_string_plain {s : Text} (rest : Text) (plain : ∀ c ∈ s, Plain c) :
    readString .plain none (s ++ '"' :: rest) = some (s, rest) := by
  induction s with
  | nil => rfl
  | cons c tail ih =>
      rw [List.forall_mem_cons] at plain
      obtain ⟨⟨notEscape, notQuote, shown⟩, others⟩ := plain
      rw [List.cons_append, readString, if_neg notEscape, if_neg notQuote,
        if_neg (Nat.not_lt.mpr shown), ih others]
      rfl

theorem read_key_plain {key : Text} (rest : Text) (plain : ∀ c ∈ key, Plain c) :
    readKey ('"' :: (key ++ '"' :: ':' :: rest)) = some (key, rest) := by
  change ((readString .plain none (key ++ '"' :: ':' :: rest)).bind fun read =>
    (behind [':'] (skipBlanks read.2)).bind fun afterColon => some (read.1, afterColon)) = _
  rw [read_string_plain (':' :: rest) plain]
  rfl

-- One entry of a record as it is written, with what stands behind it.
def entryText (key : Text) (n : Int) (behind : Text) : Text :=
  '"' :: (key ++ '"' :: ':' :: (Decimal.text n ++ behind))

section Entries

variable {key : Text} {n : Int}

theorem read_entry_on (steps depth : Nat) (before : List (Text × Value)) (rest : Text)
    (plain : ∀ c ∈ key, Plain c) (short : Decimal.Writable n) :
    readEntries (steps + 2) depth before (entryText key n (',' :: rest)) =
      readEntries (steps + 1) depth (Value.put key (.int n) before) rest := by
  rw [readEntries, entryText, read_key_plain _ plain]
  simp only [read_value_text steps depth rest short (c := ',') (by decide)]
  rfl

theorem read_entry_last (steps depth : Nat) (before : List (Text × Value)) (rest : Text)
    (plain : ∀ c ∈ key, Plain c) (short : Decimal.Writable n) :
    readEntries (steps + 2) depth before (entryText key n ('\x7d' :: rest)) =
      some (Value.put key (.int n) before, rest) := by
  rw [readEntries, entryText, read_key_plain _ plain]
  simp only [read_value_text steps depth rest short (c := '\x7d') (by decide)]
  rfl

end Entries

theorem read_value_record (steps depth : Nat) (key : Text) (n : Int) (rest : Text) :
    readValue (steps + 1) (depth + 1) ('\x7b' :: entryText key n rest) =
      (readEntries steps depth [] (entryText key n rest)).map fun (entries, rest) =>
        (.record entries, rest) := by
  rfl

end TapeMeasure.Json
