import TapeMeasure.Proofs.Length.Contract
import TapeMeasure.Proofs.Value.Json

/- Lengths written as records and read back. A record gives back the length that it was made of, in
   memory and as JSON text, if the length is normal. Of any other length both guards refuse the
   record, and they say why, because the numbers of the length can be written. -/
set_option autoImplicit false

namespace TapeMeasure

namespace Length

section Written

variable {length : Length}

theorem entries_only (length : Length) : Contract.OnlyFields length.entries := by
  change ∀ key ∈ [Field.wholeInches.key, Field.numerator16.key], _
  decide

theorem entries_whole (length : Length) :
    length.entries.lookup Field.wholeInches.key = some (.int length.wholeInches) := rfl

theorem entries_sixteenths (length : Length) :
    length.entries.lookup Field.numerator16.key = some (.int length.numerator16) := rfl

theorem same_parts {other : Length} :
    Value.int length.wholeInches = .int other.wholeInches ∧
      Value.int length.numerator16 = .int other.numerator16 ↔ other = length := by
  cases length
  cases other
  simp only [Value.int.injEq, mk.injEq]
  omega

theorem entries_record_of {other : Length} :
    Contract.RecordOf other length.entries ↔ other = length ∧ length.Normal := by
  constructor
  · intro record
    have whole := (entries_whole length).symm.trans record.whole
    have sixteenths := (entries_sixteenths length).symm.trans record.sixteenths
    obtain rfl := same_parts.mp ⟨Option.some.inj whole, Option.some.inj sixteenths⟩
    exact ⟨rfl, record.normal⟩
  · rintro ⟨rfl, normal⟩
    exact ⟨entries_only other, entries_whole other, entries_sixteenths other, normal⟩

theorem check_own_entries :
    Contract.check (.record length.entries) = .ok () ↔ length.Normal := by
  rw [Contract.check_lawful.record_iff]
  simp only [entries_record_of, exists_eq_left]

theorem of_own_record {other : Length} :
    ofRecord length.entries = .ok other ↔ other = length ∧ length.Normal := by
  rw [of_record_iff, entries_record_of]

theorem validated_own_fields (length : Length) :
    validated (.record length.entries) =
      checked (ofNormalParts (.int length.wholeInches) (.int length.numerator16)) := rfl

theorem of_own_normal_parts {other : Length} :
    ofNormalParts (.int length.wholeInches) (.int length.numerator16) = .ok other ↔
      other = length ∧ length.Normal := by
  rw [of_normal_parts_iff, ← and_assoc, same_parts]
  apply and_congr_right
  rintro rfl
  exact Iff.rfl

theorem validated_own_entries {other : Length} :
    validated (.record length.entries) = .ok other ↔ other = length ∧ length.Normal := by
  rw [validated_own_fields, checked, map_error_ok, of_own_normal_parts]

-- Whatever a guard says of such a length can be written.
structure Writable (length : Length) : Prop where
  whole : Decimal.Writable length.wholeInches
  sixteenths : Decimal.Writable length.numerator16

theorem check_own_written (written : length.Writable) :
    Contract.check (.record length.entries) ≠ .error .overlong := by
  apply Contract.check_lawful.explained
  rw [Contract.forall_field]
  constructor
  · exact ⟨_, entries_whole length, written.whole⟩
  · exact ⟨_, entries_sixteenths length, written.sixteenths⟩

theorem violation_of_own (written : length.Writable) (loose : ¬ length.Normal) :
    ∃ violation, Contract.check (.record length.entries) = .error (.error violation) ∧
      ofRecord length.entries = .error (.error (.violation violation)) := by
  obtain ⟨violation, found⟩ := error_of_written
    (fun _ accepted => loose (check_own_entries.mp accepted)) (check_own_written written)
  refine ⟨violation, found, ?_⟩
  rw [Contract.check] at found
  rw [ofRecord, found]
  rfl

theorem refusal_of_own (written : length.Writable) (loose : ¬ length.Normal) :
    ∃ cause, validated (.record length.entries) = .error (.invalid cause) := by
  obtain ⟨cause, found⟩ := error_of_written
    (fun _ made => loose (of_own_normal_parts.mp made).2)
    (of_normal_parts_written written.whole written.sixteenths)
  refine ⟨cause, ?_⟩
  rw [validated_own_fields, found]
  rfl

theorem field_key_plain (field : Field) : ∀ c ∈ field.key, Json.Plain c := by
  have all : (field.key.all fun c => decide (Json.Plain c)) = true := by
    cases field <;> decide +kernel
  intro c member
  exact of_decide_eq_true (List.all_eq_true.mp all c member)

-- The record of a length as compact text: no blanks, and the numbers in full.
def compactText (length : Length) : Text :=
  '\x7b' :: Json.entryText Field.wholeInches.key length.wholeInches
    (',' :: Json.entryText Field.numerator16.key length.numerator16 ['\x7d'])

-- What is taken for granted of lengths as JSON text: they are dumped in compact form, and to read
-- that form gives the record back.
structure Dumped (dump : Length → Text) (read : Text → Option Value) : Prop where
  compact : ∀ length, dump length = length.compactText
  reading : ∀ length : Length, length.Writable →
    read length.compactText = some (.record length.entries)

theorem Dumped.back {dump : Length → Text} {read : Text → Option Value}
    (dumped : Dumped dump read) (written : length.Writable) :
    read (dump length) = some (.record length.entries) := by
  rw [dumped.compact, dumped.reading length written]

theorem to_json_compact (length : Length) : length.toJson = length.compactText := by
  have front : "\x7b\"whole_inches\":".toList =
      '\x7b' :: '"' :: (Field.wholeInches.key ++ ['"', ':']) := by decide +kernel
  have middle : ",\"numerator16\":".toList =
      ',' :: '"' :: (Field.numerator16.key ++ ['"', ':']) := by decide +kernel
  unfold toJson compactText Json.entryText
  simp only [front, middle, List.append_assoc, List.cons_append, List.nil_append]

theorem read_value_compact (written : length.Writable) (steps depth : Nat) :
    Json.readValue (steps + 4) (depth + 1) length.compactText =
      some (.record length.entries, []) := by
  rw [compactText, Json.read_value_record,
    Json.read_entry_on _ _ _ _ (field_key_plain .wholeInches) written.whole,
    Json.read_entry_last _ _ _ _ (field_key_plain .numerator16) written.sixteenths]
  rfl

theorem read_compact (written : length.Writable) :
    Json.read length.compactText = some (.record length.entries) := by
  have filled : 0 < length.compactText.length := Nat.zero_lt_succ _
  obtain ⟨steps, enough⟩ : ∃ steps, 2 * length.compactText.length + 2 = steps + 4 :=
    ⟨2 * length.compactText.length - 2, by omega⟩
  rw [Json.read, enough, Json.maxDepth, read_value_compact written]
  rfl

theorem to_json_dumped : Dumped toJson Json.read where
  compact := to_json_compact
  reading _ written := read_compact written

theorem of_own_json (written : length.Writable) :
    ofJson length.toJson = validated (.record length.entries) := by
  rw [ofJson, to_json_dumped.back written]

end Written

theorem record_round_trip {length : Length} (whole : Decimal.Writable length.wholeInches)
    (sixteenths : Decimal.Writable length.numerator16) :
    if length.Normal then
      Contract.check (.record length.entries) = .ok () ∧
        ofRecord length.entries = .ok length ∧
        validated (.record length.entries) = .ok length ∧
        ofJson length.toJson = .ok length
    else
      (∃ violation, Contract.check (.record length.entries) = .error (.error violation) ∧
        ofRecord length.entries = .error (.error (.violation violation))) ∧
      ∃ cause, validated (.record length.entries) = .error (.invalid cause) ∧
        ofJson length.toJson = .error (.invalid cause) := by
  have written : length.Writable := ⟨whole, sixteenths⟩
  rw [of_own_json written]
  split
  · rename_i normal
    have made := validated_own_entries.mpr ⟨rfl, normal⟩
    exact ⟨check_own_entries.mpr normal, of_own_record.mpr ⟨rfl, normal⟩, made, made⟩
  · rename_i loose
    obtain ⟨cause, refused⟩ := refusal_of_own written loose
    exact ⟨violation_of_own written loose, cause, refused, refused⟩

theorem whole_kept_and_loose_refused :
    (Contract.check (.record (entries ⟨14, 3⟩)) = .ok () ∧
        ofRecord (entries ⟨14, 3⟩) = .ok ⟨14, 3⟩ ∧
        validated (.record (entries ⟨14, 3⟩)) = .ok ⟨14, 3⟩ ∧
        ofJson (toJson ⟨14, 3⟩) = .ok ⟨14, 3⟩) ∧
      (∃ violation, Contract.check (.record (entries ⟨-1, 20⟩)) = .error (.error violation) ∧
        ofRecord (entries ⟨-1, 20⟩) = .error (.error (.violation violation))) ∧
      ∃ cause, validated (.record (entries ⟨-1, 20⟩)) = .error (.invalid cause) ∧
        ofJson (toJson ⟨-1, 20⟩) = .error (.invalid cause) := by
  have kept := @record_round_trip ⟨14, 3⟩ (by decide) (by decide)
  have refused := @record_round_trip ⟨-1, 20⟩ (by decide) (by decide)
  rw [if_pos (by decide)] at kept
  rw [if_neg (by decide)] at refused
  exact ⟨kept, refused⟩

end Length

end TapeMeasure
