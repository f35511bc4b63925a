/- Character classes and leading runs. Text is a list of characters, so that a
   position in it counts characters and a cut between two of them is an append.
   Blanks and digits are those of ASCII: any other character is neither. -/
set_option autoImplicit false

namespace TapeMeasure

abbrev Text := List Char

namespace Text

def isBlank (c : Char) : Bool :=
  c == ' ' || c == '\t' || c == '\n' || c == '\r' || c == '\x0b' || c == '\x0c'

def takeBlanks (cs : Text) : Text × Text := (cs.takeWhile isBlank, cs.dropWhile isBlank)

def takeDigits (cs : Text) : Option (Text × Text) :=
  match cs.takeWhile Char.isDigit with
  | [] => none
  | digit :: digits => some (digit :: digits, cs.dropWhile Char.isDigit)

def AllBlank (cs : Text) : Prop := ∀ c ∈ cs, isBlank c = true

def DigitGroup (cs : Text) : Prop := cs ≠ [] ∧ ∀ c ∈ cs, c.isDigit = true

instance (cs : Text) : Decidable (DigitGroup cs) :=
  decidable_of_iff (cs ≠ [] ∧ cs.all Char.isDigit = true)
    (and_congr_right fun _ => List.all_eq_true)

theorem digit_not_blank (c : Char) (digit : c.isDigit = true) : isBlank c = false := by
  rcases h : isBlank c with _ | _
  · rfl
  · simp only [isBlank, Bool.or_eq_true, beq_iff_eq] at h
    rcases h with ((((h | h) | h) | h) | h) | h <;> subst h <;> exact absurd digit (by decide)

theorem all_of_take_while (p : Char → Bool) (cs : Text) :
    ∀ c ∈ cs.takeWhile p, p c = true := by
  induction cs with
  | nil => simp
  | cons c rest ih =>
      by_cases h : p c = true
      · simpa [List.takeWhile_cons, h] using ih
      · simp [h]

theorem take_blanks_append (cs : Text) : (takeBlanks cs).1 ++ (takeBlanks cs).2 = cs :=
  List.takeWhile_append_dropWhile

theorem take_digits_append {cs digits rest : Text} (found : takeDigits cs = some (digits, rest)) :
    cs = digits ++ rest := by
  unfold takeDigits at found
  split at found
  · simp at found
  · rename_i run
    simp only [Option.some.injEq, Prod.mk.injEq] at found
    rw [← found.1, ← found.2, ← run, List.takeWhile_append_dropWhile]

theorem take_digits_group {cs digits rest : Text} (found : takeDigits cs = some (digits, rest)) :
    DigitGroup digits := by
  unfold takeDigits at found
  split at found
  · simp at found
  · rename_i run
    simp only [Option.some.injEq, Prod.mk.injEq] at found
    refine ⟨by simp [← found.1], ?_⟩
    rw [← found.1, ← run]
    exact all_of_take_while Char.isDigit cs

end Text

end TapeMeasure
