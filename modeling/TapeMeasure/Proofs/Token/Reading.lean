import TapeMeasure.Token.Literal

/- What the readers of literals accept, each as one equivalence: the text is a spelling with the
   rest behind it, the spelling is well formed, and the reader could not have gone on. Only feet
   can go on behind their mark, so that is the one place where the rest matters. -/
set_option autoImplicit false

namespace TapeMeasure

namespace Text

-- A run of characters with the property ends in front of this text.
def Stops (p : Char → Bool) : Text → Prop
  | [] => True
  | c :: _ => p c = false

theorem stops_drop_while (p : Char → Bool) (cs : Text) : Stops p (cs.dropWhile p) := by
  induction cs with
  | nil => trivial
  | cons c rest ih =>
      by_cases h : p c = true
      · simpa [h] using ih
      · simp [h, Stops]

theorem run_cut (p : Char → Bool) (run rest : Text) (all : ∀ c ∈ run, p c = true)
    (stop : Stops p rest) :
    (run ++ rest).takeWhile p = run ∧ (run ++ rest).dropWhile p = rest := by
  rw [List.takeWhile_append_of_pos all, List.dropWhile_append_of_pos all]
  cases rest with
  | nil => simp
  | cons c tail =>
      have off : p c = false := stop
      simp [off]

theorem take_digits_iff {cs digits rest : Text} :
    takeDigits cs = some (digits, rest) ↔
      cs = digits ++ rest ∧ DigitGroup digits ∧ Stops Char.isDigit rest := by
  constructor
  · intro found
    refine ⟨take_digits_append found, take_digits_group found, ?_⟩
    unfold takeDigits at found
    split at found
    · simp at found
    · simp only [Option.some.injEq, Prod.mk.injEq] at found
      rw [← found.2]
      exact stops_drop_while Char.isDigit cs
  · rintro ⟨rfl, group, stop⟩
    obtain ⟨taken, left⟩ := run_cut Char.isDigit digits rest group.2 stop
    unfold takeDigits
    rw [taken, left]
    cases digits with
    | nil => exact absurd rfl group.1
    | cons digit tail => rfl

theorem take_digits_none {cs : Text} (stop : Stops Char.isDigit cs) : takeDigits cs = none := by
  cases cs with
  | nil => rfl
  | cons c rest =>
      have off : c.isDigit = false := stop
      simp [takeDigits, off]

theorem take_blanks_iff {cs run rest : Text} :
    takeBlanks cs = (run, rest) ↔ cs = run ++ rest ∧ AllBlank run ∧ Stops isBlank rest := by
  constructor
  · intro taken
    simp only [takeBlanks, Prod.mk.injEq] at taken
    obtain ⟨rfl, rfl⟩ := taken
    exact ⟨List.takeWhile_append_dropWhile.symm, all_of_take_while isBlank cs,
      stops_drop_while isBlank cs⟩
  · rintro ⟨rfl, blank, stop⟩
    obtain ⟨taken, left⟩ := run_cut isBlank run rest blank stop
    simp only [takeBlanks, taken, left]

theorem empty_blank : AllBlank [] := nofun

theorem space_blank : AllBlank [' '] := by
  intro c member
  rw [List.mem_singleton.mp member]
  rfl

-- A digit group is not empty, so what stands behind it is not in front of the text.
theorem digit_group_front {digits : Text} (group : DigitGroup digits) :
    ∃ digit tail, digits = digit :: tail ∧ digit.isDigit = true := by
  cases digits with
  | nil => exact absurd rfl group.1
  | cons digit tail => exact ⟨digit, tail, rfl, group.2 digit (by simp)⟩

end Text

namespace Fraction

theorem read_iff {cs rest : Text} {fraction : Fraction} :
    read cs = some (fraction, rest) ↔ cs = fraction.spelling ++ rest ∧ fraction.WellFormed := by
  constructor
  · intro found
    refine ⟨read_append found, ?_⟩
    unfold read at found
    split at found
    · rename_i numerator afterSlash first
      split at found
      · rename_i denominator tail second
        simp only [Option.some.injEq, Prod.mk.injEq] at found
        obtain ⟨rfl, rfl⟩ := found
        exact ⟨Text.take_digits_group first, Text.take_digits_group second⟩
      · simp at found
    · simp at found
  · rintro ⟨rfl, numerator, denominator⟩
    have first : Text.takeDigits (fraction.spelling ++ rest) =
        some (fraction.numerator, '/' :: (fraction.denominator ++ '"' :: rest)) :=
      Text.take_digits_iff.mpr ⟨by simp [spelling], numerator, rfl⟩
    have second : Text.takeDigits (fraction.denominator ++ '"' :: rest) =
        some (fraction.denominator, '"' :: rest) :=
      Text.take_digits_iff.mpr ⟨rfl, denominator, rfl⟩
    simp only [read, first, second]

end Fraction

namespace InchPart

theorem read_iff {cs rest : Text} {part : InchPart} :
    read cs = some (part, rest) ↔ cs = part.spelling ++ rest ∧ part.WellFormed := by
  constructor
  · intro found
    refine ⟨read_append found, ?_⟩
    unfold read at found
    split at found
    · rename_i inches tail taken
      simp only [Option.some.injEq, Prod.mk.injEq] at found
      obtain ⟨rfl, rfl⟩ := found
      exact ⟨Text.take_digits_group taken, by simp [fraction?]⟩
    · rename_i inches afterDash taken
      split at found
      · rename_i fraction tail behind
        simp only [Option.some.injEq, Prod.mk.injEq] at found
        obtain ⟨rfl, rfl⟩ := found
        refine ⟨Text.take_digits_group taken, ?_⟩
        intro other same
        obtain rfl := Option.some.inj same
        exact (Fraction.read_iff.mp behind).2
      · simp at found
    · simp at found
  · rintro ⟨rfl, group, valid⟩
    cases part with
    | whole inches =>
        have taken : Text.takeDigits ((whole inches).spelling ++ rest) =
            some (inches, '"' :: rest) :=
          Text.take_digits_iff.mpr ⟨by simp [spelling], group, rfl⟩
        simp only [read, taken]
    | mixed inches fraction =>
        have taken : Text.takeDigits ((mixed inches fraction).spelling ++ rest) =
            some (inches, '-' :: (fraction.spelling ++ rest)) :=
          Text.take_digits_iff.mpr ⟨by simp [spelling], group, rfl⟩
        have behind : Fraction.read (fraction.spelling ++ rest) = some (fraction, rest) :=
          Fraction.read_iff.mpr ⟨rfl, valid fraction rfl⟩
        simp only [read, taken, behind]

theorem spelling_front {part : InchPart} (valid : part.WellFormed) :
    ∃ digit tail, part.spelling = digit :: tail ∧ digit.isDigit = true := by
  obtain ⟨digit, tail, same, isDigit⟩ := Text.digit_group_front valid.1
  cases part with
  | whole inches =>
      obtain rfl : inches = digit :: tail := same
      exact ⟨digit, tail ++ ['"'], rfl, isDigit⟩
  | mixed inches fraction =>
      obtain rfl : inches = digit :: tail := same
      exact ⟨digit, tail ++ '-' :: fraction.spelling, rfl, isDigit⟩

theorem spelling_stops {part : InchPart} (valid : part.WellFormed) (rest : Text) :
    Text.Stops Text.isBlank (part.spelling ++ rest) := by
  obtain ⟨digit, tail, same, isDigit⟩ := spelling_front valid
  rw [same]
  exact Text.digit_not_blank digit isDigit

-- The character behind the first digit group tells inches from every other literal.
theorem read_none_of_mark {digits rest : Text} {mark : Char} (group : Text.DigitGroup digits)
    (off : mark.isDigit = false) (notInch : mark ≠ '"') (notDash : mark ≠ '-') :
    read (digits ++ mark :: rest) = none := by
  have taken : Text.takeDigits (digits ++ mark :: rest) = some (digits, mark :: rest) :=
    Text.take_digits_iff.mpr ⟨rfl, group, off⟩
  unfold read
  rw [taken]
  split
  · rename_i same
    simp only [Option.some.injEq, Prod.mk.injEq, List.cons.injEq] at same
    exact absurd same.2.1 notInch
  · rename_i same
    simp only [Option.some.injEq, Prod.mk.injEq, List.cons.injEq] at same
    exact absurd same.2.1 notDash
  · rfl

theorem read_none_of_stops {cs : Text} (stop : Text.Stops Char.isDigit cs) : read cs = none := by
  simp only [read, Text.take_digits_none stop]

end InchPart

namespace Literal

theorem read_inches_iff {separator : Separator} {cs gap rest : Text} {part : InchPart} :
    readInches separator cs = some (gap, part, rest) ↔
      cs = gap ++ (part.spelling ++ rest) ∧ Text.AllBlank gap ∧ separator.admits gap = true ∧
        part.WellFormed := by
  constructor
  · intro found
    unfold readInches at found
    generalize cut : Text.takeBlanks cs = both at found
    obtain ⟨run, afterRun⟩ := both
    obtain ⟨rfl, blank, -⟩ := Text.take_blanks_iff.mp cut
    simp only at found
    split at found
    · rename_i admitted
      split at found
      · rename_i tail read
        simp only [Option.some.injEq, Prod.mk.injEq] at found
        obtain ⟨rfl, rfl, rfl⟩ := found
        obtain ⟨rfl, valid⟩ := InchPart.read_iff.mp read
        exact ⟨rfl, blank, admitted, valid⟩
      · simp at found
    · simp at found
  · rintro ⟨rfl, blank, admitted, valid⟩
    have cut : Text.takeBlanks (gap ++ (part.spelling ++ rest)) = (gap, part.spelling ++ rest) :=
      Text.take_blanks_iff.mpr ⟨rfl, blank, InchPart.spelling_stops valid rest⟩
    have read : InchPart.read (part.spelling ++ rest) = some (part, rest) :=
      InchPart.read_iff.mpr ⟨rfl, valid⟩
    simp only [readInches, cut, admitted, read, if_true]

-- Without inches to read behind the blanks, feet stand alone.
theorem read_inches_none {separator : Separator} {gap rest : Text} (blank : Text.AllBlank gap)
    (stop : Text.Stops Text.isBlank rest) (absent : InchPart.read rest = none) :
    readInches separator (gap ++ rest) = none := by
  have cut : Text.takeBlanks (gap ++ rest) = (gap, rest) :=
    Text.take_blanks_iff.mpr ⟨rfl, blank, stop⟩
  simp [readInches, cut, absent]

-- The literal is all that the reader takes when this text stands behind it.
def EndsBefore (separator : Separator) (rest : Text) : Literal → Prop
  | .feetOnly _ => readInches separator rest = none
  | _ => True

theorem read_none_of_stops {separator : Separator} {cs : Text}
    (stop : Text.Stops Char.isDigit cs) : read separator cs = none := by
  simp only [read, Text.take_digits_none stop, InchPart.read_none_of_stops stop, Fraction.read]

theorem read_iff {separator : Separator} {cs rest : Text} {literal : Literal} :
    read separator cs = some (literal, rest) ↔
      cs = literal.spelling ++ rest ∧ literal.WellFormed separator ∧
        literal.EndsBefore separator rest := by
  constructor
  · intro found
    refine ⟨read_append found, ?_⟩
    unfold read at found
    split at found
    · rename_i feet afterFeet taken
      have group := Text.take_digits_group taken
      split at found
      · rename_i gap part tail behind
        simp only [Option.some.injEq, Prod.mk.injEq] at found
        obtain ⟨rfl, rfl⟩ := found
        obtain ⟨-, valid⟩ := read_inches_iff.mp behind
        exact ⟨⟨group, valid⟩, trivial⟩
      · rename_i alone
        simp only [Option.some.injEq, Prod.mk.injEq] at found
        obtain ⟨rfl, rfl⟩ := found
        exact ⟨group, alone⟩
    · split at found
      · rename_i part tail read
        simp only [Option.some.injEq, Prod.mk.injEq] at found
        obtain ⟨rfl, rfl⟩ := found
        exact ⟨(InchPart.read_iff.mp read).2, trivial⟩
      · split at found
        · rename_i fraction tail read
          simp only [Option.some.injEq, Prod.mk.injEq] at found
          obtain ⟨rfl, rfl⟩ := found
          exact ⟨(Fraction.read_iff.mp read).2, trivial⟩
        · simp at found
  · rintro ⟨rfl, valid, ends⟩
    cases literal with
    | feetOnly feet =>
        have taken : Text.takeDigits ((feetOnly feet).spelling ++ rest) =
            some (feet, '\'' :: rest) :=
          Text.take_digits_iff.mpr ⟨by simp [spelling], valid, rfl⟩
        have alone : readInches separator rest = none := ends
        simp only [read, taken, alone]
    | feetInches feet gap part =>
        obtain ⟨group, blank, admitted, inches⟩ := valid
        have taken : Text.takeDigits ((feetInches feet gap part).spelling ++ rest) =
            some (feet, '\'' :: (gap ++ (part.spelling ++ rest))) :=
          Text.take_digits_iff.mpr ⟨by simp [spelling], group, rfl⟩
        have behind : readInches separator (gap ++ (part.spelling ++ rest)) =
            some (gap, part, rest) :=
          read_inches_iff.mpr ⟨rfl, blank, admitted, inches⟩
        simp only [read, taken, behind]
    | inchesOnly part =>
        have front : InchPart.read (part.spelling ++ rest) = some (part, rest) :=
          InchPart.read_iff.mpr ⟨rfl, valid⟩
        cases part with
        | whole inches =>
            have taken : Text.takeDigits ((InchPart.whole inches).spelling ++ rest) =
                some (inches, '"' :: rest) :=
              Text.take_digits_iff.mpr ⟨by simp [InchPart.spelling], valid.1, rfl⟩
            simp [read, spelling, taken, front]
        | mixed inches fraction =>
            have taken : Text.takeDigits ((InchPart.mixed inches fraction).spelling ++ rest) =
                some (inches, '-' :: (fraction.spelling ++ rest)) :=
              Text.take_digits_iff.mpr ⟨by simp [InchPart.spelling], valid.1, rfl⟩
            simp [read, spelling, taken, front]
    | fractionOnly fraction =>
        have taken : Text.takeDigits (fraction.spelling ++ rest) =
            some (fraction.numerator, '/' :: (fraction.denominator ++ '"' :: rest)) :=
          Text.take_digits_iff.mpr ⟨by simp [Fraction.spelling], valid.1, rfl⟩
        have noInches : InchPart.read (fraction.spelling ++ rest) = none := by
          simp [InchPart.read, taken]
        have front : Fraction.read (fraction.spelling ++ rest) = some (fraction, rest) :=
          Fraction.read_iff.mpr ⟨rfl, valid⟩
        simp [read, spelling, taken, noInches, front]

theorem spelling_front {separator : Separator} {literal : Literal}
    (valid : literal.WellFormed separator) :
    ∃ digit tail, literal.spelling = digit :: tail ∧ digit.isDigit = true := by
  cases literal with
  | feetOnly feet =>
      obtain ⟨digit, tail, rfl, isDigit⟩ := Text.digit_group_front valid
      exact ⟨digit, tail ++ ['\''], rfl, isDigit⟩
  | inchesOnly part => exact InchPart.spelling_front valid
  | fractionOnly fraction =>
      obtain ⟨digit, tail, same, isDigit⟩ := Text.digit_group_front valid.1
      exact ⟨digit, tail ++ '/' :: fraction.denominator ++ ['"'], by
        simp [spelling, Fraction.spelling, same], isDigit⟩
  | feetInches feet gap part =>
      obtain ⟨digit, tail, rfl, isDigit⟩ := Text.digit_group_front valid.1
      exact ⟨digit, tail ++ '\'' :: gap ++ part.spelling, rfl, isDigit⟩

theorem spelling_stops {separator : Separator} {literal : Literal}
    (valid : literal.WellFormed separator) (rest : Text) :
    Text.Stops Text.isBlank (literal.spelling ++ rest) := by
  obtain ⟨digit, tail, same, isDigit⟩ := spelling_front valid
  rw [same]
  exact Text.digit_not_blank digit isDigit

end Literal

end TapeMeasure
