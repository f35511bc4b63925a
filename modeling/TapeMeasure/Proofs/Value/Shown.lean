import TapeMeasure.Value.Shown

/- What of a value cannot be shown. A value has a shown form unless an integer in it, at any depth,
   has too many digits to be written; the keys of records and all other values can be shown. -/
set_option autoImplicit false

namespace TapeMeasure.Value

mutual
def integers : Value → List Int
  | .int n => [n]
  | .list items => itemIntegers items
  | .record entries => entryIntegers entries
  | .null | .bool _ | .float _ | .text _ => []
def itemIntegers : List Value → List Int
  | [] => []
  | item :: rest => integers item ++ itemIntegers rest
def entryIntegers : List (Text × Value) → List Int
  | [] => []
  | (_, value) :: rest => integers value ++ entryIntegers rest
end

def TooLong (numbers : List Int) : Prop := ∃ n ∈ numbers, ¬ Decimal.Writable n

def Overlong (value : Value) : Prop := TooLong value.integers

theorem too_long_append (front rest : List Int) :
    TooLong (front ++ rest) ↔ TooLong front ∨ TooLong rest := by
  simp only [TooLong, List.mem_append, or_and_right, exists_or]

theorem int_overlong (n : Int) : Overlong (.int n) ↔ ¬ Decimal.Writable n := by
  simp only [Overlong, TooLong, integers, List.mem_singleton, exists_eq_left]

mutual
theorem shown_none (value : Value) : value.shown = none ↔ value.Overlong := by
  cases value with
  | int n =>
      rw [int_overlong, shown, Decimal.write]
      simp
  | list items =>
      rw [shown, Option.map_eq_none_iff, Overlong, integers]
      exact shown_items_none items
  | record entries =>
      rw [shown, Option.map_eq_none_iff, Overlong, integers]
      exact shown_entries_none entries
  | bool b => cases b <;> simp [shown, Overlong, TooLong, integers]
  | _ => simp [shown, Overlong, TooLong, integers]
theorem shown_items_none (items : List Value) :
    shownItems items = none ↔ TooLong (itemIntegers items) := by
  cases items with
  | nil => simp [shownItems, TooLong, itemIntegers]
  | cons item rest =>
      have first : shown item = none ↔ TooLong item.integers := shown_none item
      rw [itemIntegers, too_long_append, ← first, ← shown_items_none rest, shownItems]
      cases shown item <;> cases shownItems rest <;> simp
theorem shown_entries_none (entries : List (Text × Value)) :
    shownEntries entries = none ↔ TooLong (entryIntegers entries) := by
  match entries with
  | [] => simp [shownEntries, TooLong, entryIntegers]
  | (key, value) :: rest =>
      have first : shown value = none ↔ TooLong value.integers := shown_none value
      rw [entryIntegers, too_long_append, ← first, ← shown_entries_none rest, shownEntries]
      cases shown value <;> cases shownEntries rest <;> simp
end

end TapeMeasure.Value
