import TapeMeasure.Proofs.Length.Made

/- The contract beside the checked ways of making a length. The contract is a schema, and what is
   known of a check against a schema is what its keywords say. From that alone it follows that both
   let the same fields through, so a record that keeps the contract always makes a length. Only the
   contract looks at other entries, and it refuses every record that has any. -/
set_option autoImplicit false

namespace TapeMeasure

namespace Contract

def OnlyFields (entries : List (Text × Value)) : Prop :=
  ∀ key ∈ entries.map Prod.fst,
    key = Length.Field.wholeInches.key ∨ key = Length.Field.numerator16.key

instance (entries : List (Text × Value)) : Decidable (OnlyFields entries) :=
  inferInstanceAs (Decidable (∀ key ∈ entries.map Prod.fst, _ ∨ _))

-- What the contract asks of the value of a field: an integer, and one within bounds.
structure FieldKept (field : Length.Field) (value : Value) : Prop where
  integer : ∃ n, value = .int n
  minimum : ∀ n, value = .int n → 0 ≤ n
  maximum : ∀ n, value = .int n → ∀ limit, maximum? field = some limit → n ≤ limit

-- What the contract asks of a record, keyword by keyword.
structure Keeps (entries : List (Text × Value)) : Prop where
  required : ∀ field : Length.Field, ∃ value, entries.lookup field.key = some value
  additional : OnlyFields entries
  properties : ∀ (field : Length.Field) value, entries.lookup field.key = some value →
    FieldKept field value

-- What is taken for granted of a check against the contract: only objects pass, and of these the
-- ones that keep the keywords. A record whose numbers can be written is refused with a violation.
structure Lawful (check : Value → Except (Fault Violation) Unit) : Prop where
  object : ∀ value, check value = .ok () → ∃ entries, value = .record entries
  keywords : ∀ entries, check (.record entries) = .ok () ↔ Keeps entries
  explained : ∀ entries,
    (∀ field : Length.Field, ∃ n, entries.lookup field.key = some (.int n) ∧ Decimal.Writable n) →
    check (.record entries) ≠ .error .overlong

-- The record has the two numbers of this length and nothing else.
structure RecordOf (length : Length) (entries : List (Text × Value)) : Prop where
  only : OnlyFields entries
  whole : entries.lookup Length.Field.wholeInches.key = some (.int length.wholeInches)
  sixteenths : entries.lookup Length.Field.numerator16.key = some (.int length.numerator16)
  normal : length.Normal

theorem additional_keys_empty {entries : List (Text × Value)} :
    (additionalKeys entries).isEmpty = true ↔ OnlyFields entries := by
  rw [List.isEmpty_iff_length_eq_zero, additionalKeys, List.length_mergeSort,
    List.length_eq_zero_iff, List.filter_eq_nil_iff]
  apply forall₂_congr
  intro key member
  simp [Decidable.or_iff_not_imp_left]

theorem field_kept_int {field : Length.Field} {n : Int} :
    FieldKept field (.int n) ↔ 0 ≤ n ∧ ∀ limit, maximum? field = some limit → n ≤ limit := by
  constructor
  · exact fun kept => ⟨kept.minimum n rfl, kept.maximum n rfl⟩
  · intro ⟨natural, below⟩
    constructor
    case integer => exact ⟨n, rfl⟩
    case minimum =>
      intro m same
      rw [← Value.int.inj same]
      exact natural
    case maximum =>
      intro m same
      rw [← Value.int.inj same]
      exact below

theorem check_field_kept {field : Length.Field} {value : Value} :
    checkField field value = .ok () ↔ FieldKept field value := by
  cases value with
  | int n =>
      rw [field_kept_int]
      simp only [checkField]
      by_cases negative : n < 0
      · rw [if_pos negative]
        constructor
        · exact nofun
        · omega
      · rw [if_neg negative]
        cases maximum? field with
        | none => simpa using negative
        | some limit =>
            by_cases above : (limit : Int) < n
            · simp [above]
            · simp only [if_neg above, Option.some.injEq, forall_eq', true_iff]
              omega
  | _ =>
      constructor
      · intro accepted
        simp [checkField] at accepted
      · intro kept
        exact absurd kept.integer nofun

theorem check_field_written {n : Int} (field : Length.Field) (short : Decimal.Writable n) :
    checkField field (.int n) ≠ .error .overlong := by
  simp only [checkField, showing_short _ short]
  by_cases negative : n < 0
  · simp [negative]
  · cases maximum? field with
    | none => simp [negative]
    | some limit => by_cases above : (limit : Int) < n <;> simp [negative, above]

theorem forall_field {holds : Length.Field → Prop} :
    (∀ field, holds field) ↔ holds .wholeInches ∧ holds .numerator16 := by
  constructor
  · exact fun all => ⟨all .wholeInches, all .numerator16⟩
  · intro ⟨whole, sixteenths⟩ field
    cases field with
    | wholeInches => exact whole
    | numerator16 => exact sixteenths

theorem check_entries_found {entries : List (Text × Value)} {wholeValue sixteenthsValue : Value}
    (first : entries.lookup Length.Field.wholeInches.key = some wholeValue)
    (second : entries.lookup Length.Field.numerator16.key = some sixteenthsValue) :
    checkEntries entries = .ok () ↔
      OnlyFields entries ∧ checkField .wholeInches wholeValue = .ok () ∧
        checkField .numerator16 sixteenthsValue = .ok () := by
  rw [← additional_keys_empty]
  simp only [checkEntries, first, second]
  cases (additionalKeys entries).isEmpty with
  | false => simp [bind, Except.bind, throw, throwThe, MonadExceptOf.throw]
  | true =>
      change (checkField .wholeInches wholeValue >>= fun _ =>
        checkField .numerator16 sixteenthsValue) = .ok () ↔ _
      rw [bind_ok]
      constructor
      · intro ⟨(), whole, sixteenths⟩
        exact ⟨rfl, whole, sixteenths⟩
      · intro ⟨_, whole, sixteenths⟩
        exact ⟨(), whole, sixteenths⟩

theorem check_entries_fields {entries : List (Text × Value)} :
    checkEntries entries = .ok () ↔
      OnlyFields entries ∧ ∀ field : Length.Field, ∃ value,
        entries.lookup field.key = some value ∧ checkField field value = .ok () := by
  rw [forall_field]
  cases first : entries.lookup Length.Field.wholeInches.key with
  | none => simp [checkEntries, first]
  | some whole =>
      cases second : entries.lookup Length.Field.numerator16.key with
      | none => simp [checkEntries, first, second]
      | some sixteenths =>
          simp only [check_entries_found first second, Option.some.injEq, exists_eq_left']

theorem check_entries_keeps {entries : List (Text × Value)} :
    checkEntries entries = .ok () ↔ Keeps entries := by
  rw [check_entries_fields]
  constructor
  · intro ⟨only, fields⟩
    constructor
    case required => exact fun field => (fields field).imp fun value both => both.1
    case additional => exact only
    case properties =>
      intro field value found
      obtain ⟨other, same, accepted⟩ := fields field
      obtain rfl := Option.some.inj (found.symm.trans same)
      exact check_field_kept.mp accepted
  · intro keeps
    refine ⟨keeps.additional, fun field => ?_⟩
    obtain ⟨value, found⟩ := keeps.required field
    exact ⟨value, found, check_field_kept.mpr (keeps.properties field value found)⟩

theorem check_entries_explained {entries : List (Text × Value)}
    (written : ∀ field : Length.Field, ∃ n,
      entries.lookup field.key = some (.int n) ∧ Decimal.Writable n) :
    checkEntries entries ≠ .error .overlong := by
  obtain ⟨⟨whole, first, wholeShort⟩, ⟨sixteenths, second, sixteenthsShort⟩⟩ :=
    forall_field.mp written
  simp only [checkEntries, first, second]
  cases (additionalKeys entries).isEmpty with
  | false => simp [bind, Except.bind, throw, throwThe, MonadExceptOf.throw]
  | true =>
      change (checkField .wholeInches (.int whole) >>= fun _ =>
        checkField .numerator16 (.int sixteenths)) ≠ .error .overlong
      intro failed
      rcases bind_overlong failed with left | ⟨_, -, right⟩
      · exact check_field_written _ wholeShort left
      · exact check_field_written _ sixteenthsShort right

theorem check_lawful : Lawful check where
  object := by
    intro value accepted
    cases value with
    | record entries => exact ⟨entries, rfl⟩
    | _ => simp [check] at accepted
  keywords _ := check_entries_keeps
  explained _ := check_entries_explained

-- The records that keep the contract are those of the normal lengths.
theorem keeps_iff {entries : List (Text × Value)} :
    Keeps entries ↔ ∃ length, RecordOf length entries := by
  constructor
  · intro keeps
    obtain ⟨⟨whole, first⟩, ⟨sixteenths, second⟩⟩ := forall_field.mp keeps.required
    have wholeKept := keeps.properties _ whole first
    have sixteenthsKept := keeps.properties _ sixteenths second
    obtain ⟨w, rfl⟩ := wholeKept.integer
    obtain ⟨n, rfl⟩ := sixteenthsKept.integer
    have natural := (field_kept_int.mp wholeKept).1
    obtain ⟨positive, below⟩ := field_kept_int.mp sixteenthsKept
    exact ⟨⟨w, n⟩, keeps.additional, first, second, natural, positive, below 15 rfl⟩
  · intro ⟨length, record⟩
    obtain ⟨natural, positive, few⟩ := record.normal
    constructor
    case required => exact forall_field.mpr ⟨⟨_, record.whole⟩, _, record.sixteenths⟩
    case additional => exact record.only
    case properties =>
      rw [forall_field]
      constructor
      · intro value found
        obtain rfl := Option.some.inj (found.symm.trans record.whole)
        exact field_kept_int.mpr ⟨natural, nofun⟩
      · intro value found
        obtain rfl := Option.some.inj (found.symm.trans record.sixteenths)
        refine field_kept_int.mpr ⟨positive, fun limit same => ?_⟩
        obtain rfl := Option.some.inj same
        exact few

section Laws

variable {check : Value → Except (Fault Violation) Unit} (lawful : Lawful check)

include lawful

theorem Lawful.record_iff {entries : List (Text × Value)} :
    check (.record entries) = .ok () ↔ ∃ length, RecordOf length entries := by
  rw [lawful.keywords, keeps_iff]

theorem Lawful.accepts_iff {value : Value} :
    check value = .ok () ↔
      ∃ entries, value = .record entries ∧ ∃ length, RecordOf length entries := by
  constructor
  · intro accepted
    obtain ⟨entries, rfl⟩ := lawful.object value accepted
    exact ⟨entries, rfl, lawful.record_iff.mp accepted⟩
  · rintro ⟨entries, rfl, record⟩
    exact lawful.record_iff.mpr record

end Laws

theorem check_entries_iff {entries : List (Text × Value)} :
    checkEntries entries = .ok () ↔ ∃ length, RecordOf length entries := check_lawful.record_iff

end Contract

namespace Length

theorem of_record_iff {entries : List (Text × Value)} {length : Length} :
    ofRecord entries = .ok length ↔ Contract.RecordOf length entries := by
  unfold ofRecord
  cases accepted : Contract.checkEntries entries with
  | error fault =>
      constructor
      · exact nofun
      · intro same
        rw [Contract.check_entries_iff.mpr ⟨length, same⟩] at accepted
        exact absurd accepted nofun
  | ok done =>
      obtain ⟨_, known⟩ := Contract.check_entries_iff.mp accepted
      simp only [map_error_ok, of_iff, Value.entry_int]
      constructor
      · intro ⟨whole, sixteenths, normal⟩
        exact ⟨known.only, whole, sixteenths, normal⟩
      · intro same
        exact ⟨same.whole, same.sixteenths, same.normal⟩

theorem of_record_accepted_iff {entries : List (Text × Value)} :
    (∃ length, ofRecord entries = .ok length) ↔ Contract.checkEntries entries = .ok () := by
  simp only [of_record_iff, Contract.check_entries_iff]

-- Behind the contract nothing is left to refuse.
theorem of_record_not_refused (entries : List (Text × Value)) (cause : Refusal) :
    ofRecord entries ≠ .error (.error (.refused cause)) := by
  intro refused
  cases accepted : Contract.checkEntries entries with
  | error fault =>
      rw [ofRecord, accepted] at refused
      cases fault with
      | error violation => exact absurd refused nofun
      | overlong => exact absurd refused nofun
  | ok done =>
      obtain ⟨length, made⟩ := of_record_accepted_iff.mpr accepted
      rw [made] at refused
      exact absurd refused nofun

theorem validated_of_record {entries : List (Text × Value)} {length : Length}
    (same : Contract.RecordOf length entries) : validated (.record entries) = .ok length :=
  validated_iff.mpr ⟨entries, rfl, same.whole, same.sixteenths, same.normal⟩

end Length

theorem contract_iff_validated :
    (∀ value, Contract.check value = .ok () ↔
      ∃ entries, value = .record entries ∧ Contract.OnlyFields entries ∧
        ∃ length, Length.validated value = .ok length) ∧
    ∀ entries,
      ((∃ length, Length.ofRecord entries = .ok length) ↔
        Contract.check (.record entries) = .ok ()) ∧
      (∀ cause, Length.ofRecord entries ≠ .error (.error (.refused cause))) ∧
      ∀ length, Length.ofRecord entries = .ok length →
        Length.validated (.record entries) = .ok length ∧
        ∃ whole sixteenths,
          entries.lookup Length.Field.wholeInches.key = some whole ∧
          entries.lookup Length.Field.numerator16.key = some sixteenths ∧
          Length.of whole sixteenths = .ok length ∧
          whole = .int length.wholeInches ∧ sixteenths = .int length.numerator16 := by
  refine ⟨?_, ?_⟩
  · intro value
    rw [Contract.check_lawful.accepts_iff]
    constructor
    · intro ⟨entries, record, length, same⟩
      rw [record]
      exact ⟨entries, rfl, same.only, length, Length.validated_of_record same⟩
    · intro ⟨entries, record, only, length, valid⟩
      obtain ⟨others, sameValue, whole, sixteenths, normal⟩ := Length.validated_iff.mp valid
      obtain rfl := Value.record.inj (record.symm.trans sameValue)
      exact ⟨entries, record, length, only, whole, sixteenths, normal⟩
  · intro entries
    refine ⟨Length.of_record_accepted_iff, Length.of_record_not_refused entries, ?_⟩
    intro length made
    have same := Length.of_record_iff.mp made
    have direct : Length.of (.int length.wholeInches) (.int length.numerator16) = .ok length :=
      Length.of_iff.mpr ⟨rfl, rfl, same.normal⟩
    exact ⟨Length.validated_of_record same, _, _, same.whole, same.sixteenths, direct, rfl, rfl⟩

theorem fourteen_and_three_pass_both :
    Length.ofRecord [("numerator16".toList, .int 3), ("whole_inches".toList, .int 14)] =
        .ok ⟨14, 3⟩ ∧
      Contract.check (.record [("numerator16".toList, .int 3), ("whole_inches".toList, .int 14)]) =
        .ok () ∧
      Length.validated (.record [("numerator16".toList, .int 3), ("whole_inches".toList, .int 14)]) =
        .ok ⟨14, 3⟩ := by
  have made : Length.ofRecord [("numerator16".toList, .int 3), ("whole_inches".toList, .int 14)] =
      .ok ⟨14, 3⟩ := by
    rw [Length.of_record_iff]
    exact ⟨by decide, rfl, rfl, by decide⟩
  obtain ⟨accepted, -, same⟩ := contract_iff_validated.2
    [("numerator16".toList, .int 3), ("whole_inches".toList, .int 14)]
  exact ⟨made, accepted.mp ⟨_, made⟩, (same _ made).1⟩

end TapeMeasure
