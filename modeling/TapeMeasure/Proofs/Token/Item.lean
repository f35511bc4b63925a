import TapeMeasure.Proofs.Token.Front

/- The texts that can be scanned, without regard to which pieces they are cut into. Between its
   brackets such a text is a row of items, each of them a blank, a sign or a literal that is not
   feet and inches in one, and there is only one way to divide it. -/
set_option autoImplicit false

namespace TapeMeasure

namespace Nesting

def isBracket (c : Char) : Bool := c == '(' || c == ')'

-- What stands between the brackets of a text, in front of the first and behind the last.
def segments (cs : Text) : List Text := cs.splitOnP isBracket

theorem plain_no_bracket {cs : Text} (plain : Plain cs) : ∀ c ∈ cs, isBracket c = false := by
  intro c member
  obtain ⟨opening, closing⟩ := plain c member
  simp [isBracket, opening, closing]

theorem bracket_cases {c : Char} (bracket : isBracket c = true) : c = '(' ∨ c = ')' := by
  simpa [isBracket] using bracket

theorem first_bracket (cs : Text) :
    ∃ front rest, cs = front ++ rest ∧ Plain front ∧
      Text.Stops (fun c => !isBracket c) rest := by
  refine ⟨_, _, (List.takeWhile_append_dropWhile (p := fun c => !isBracket c)).symm, ?_,
    Text.stops_drop_while _ cs⟩
  intro c member
  have off := Text.all_of_take_while _ cs c member
  simpa [isBracket] using off

theorem segments_plain {front : Text} (plain : Plain front) (rest : Text) :
    segments (front ++ rest) = (segments rest).modifyHead (front ++ ·) := by
  rw [segments, segments]
  induction front with
  | nil =>
      rw [List.nil_append]
      cases List.splitOnP isBracket rest <;> rfl
  | cons c tail ih =>
      have off := plain_no_bracket plain c List.mem_cons_self
      have others : Plain tail := fun other member => plain other (List.mem_cons_of_mem c member)
      rw [List.cons_append, List.splitOnP_cons_eq_if_modifyHead, off, ih others]
      cases List.splitOnP isBracket rest <;> rfl

theorem segments_bracket {bracket : Char} (isOne : isBracket bracket = true) (front rest : Text) :
    segments (front ++ bracket :: rest) = segments front ++ segments rest :=
  List.splitOnP_append_cons front rest isOne

theorem segments_group (inner rest : Text) :
    segments ('(' :: (inner ++ ')' :: rest)) = [] :: (segments inner ++ segments rest) := by
  have opened := segments_bracket (show isBracket '(' = true from rfl) [] (inner ++ ')' :: rest)
  rw [segments_bracket (show isBracket ')' = true from rfl) inner rest] at opened
  exact opened

end Nesting

namespace Literal

-- One number and its mark: feet, inches, a fraction, or inches with a fraction.
def Single : Literal → Prop
  | .feetInches _ _ _ => False
  | _ => True

end Literal

-- The digit groups of a literal can be read, and no denominator is zero.
inductive Item : Text → Prop where
  | blank {c : Char} (blank : Text.isBlank c = true) : Item [c]
  | plus : Item ['+']
  | minus : Item ['-']
  | literal {read : Literal} (single : read.Single) (valid : read.WellFormed .optional)
      (valued : read.HasValue) : Item read.spelling

namespace Item

-- The segment is these items, one behind the other.
def Spells (items : List Text) (segment : Text) : Prop :=
  (∀ item ∈ items, Item item) ∧ items.flatten = segment

theorem plain {item : Text} (isItem : Item item) : Nesting.Plain item := by
  cases isItem with
  | @blank c blank =>
      apply Piece.blanks_plain
      intro d member
      rw [List.mem_singleton.mp member]
      exact blank
  | plus => exact Nesting.plain_mark (by decide)
  | minus => exact Nesting.plain_mark (by decide)
  | literal single valid valued => exact Piece.literal_plain valid

section Unique

-- The last character of a literal, which stands nowhere else in it.
def isMark (c : Char) : Bool := c == '\'' || c == '"'

theorem unmarked_digits {digits : Text} (group : Text.DigitGroup digits) :
    ∀ c ∈ digits, isMark c = false := by
  intro c member
  have digit := group.2 c member
  cases marked : isMark c with
  | false => rfl
  | true =>
      simp only [isMark, Bool.or_eq_true, beq_iff_eq] at marked
      cases marked with
      | inl same =>
          rw [same] at digit
          exact absurd digit (by decide)
      | inr same =>
          rw [same] at digit
          exact absurd digit (by decide)

-- The item has one mark, at its end.
def Marked (item : Text) : Prop :=
  ∃ body mark, item = body ++ [mark] ∧ (∀ c ∈ body, isMark c = false) ∧ isMark mark = true

theorem fraction_marked {front : Text} {fraction : Fraction}
    (unmarked : ∀ c ∈ front, isMark c = false) (valid : fraction.WellFormed) :
    Marked (front ++ fraction.spelling) := by
  refine ⟨front ++ (fraction.numerator ++ '/' :: fraction.denominator), '"', ?_, ?_, rfl⟩
  · simp [Fraction.spelling]
  · rw [List.forall_mem_append, List.forall_mem_append, List.forall_mem_cons]
    exact ⟨unmarked, unmarked_digits valid.1, rfl, unmarked_digits valid.2⟩

theorem literal_marked {read : Literal} (single : read.Single)
    (valid : read.WellFormed .optional) : Marked read.spelling := by
  cases read with
  | feetOnly feet => exact ⟨feet, '\'', rfl, unmarked_digits valid, rfl⟩
  | inchesOnly part =>
      cases part with
      | whole inches => exact ⟨inches, '"', rfl, unmarked_digits valid.1, rfl⟩
      | mixed inches fraction =>
          have dashed : ∀ c ∈ inches ++ ['-'], isMark c = false := by
            rw [List.forall_mem_append, List.forall_mem_singleton]
            exact ⟨unmarked_digits valid.1, rfl⟩
          have marked := fraction_marked dashed (valid.2 fraction rfl)
          rw [List.append_assoc] at marked
          exact marked
  | fractionOnly fraction =>
      have nothing : ∀ c ∈ [], isMark c = false := nofun
      exact fraction_marked nothing valid
  | feetInches feet gap part => exact absurd single id

-- Either one character that is no digit, or more than one, from a digit to a mark.
theorem short_or_marked {item : Text} (isItem : Item item) :
    (∃ c, item = [c] ∧ c.isDigit = false) ∨
      Marked item ∧ ∃ digit tail, item = digit :: tail ∧ digit.isDigit = true := by
  cases isItem with
  | @blank c blank => exact Or.inl ⟨c, rfl, Lexeme.blank_not_digit blank⟩
  | plus => exact Or.inl ⟨'+', rfl, rfl⟩
  | minus => exact Or.inl ⟨'-', rfl, rfl⟩
  | literal single valid valued =>
      exact Or.inr ⟨literal_marked single valid, Literal.spelling_front valid⟩

theorem marked_front {first second x y : Text} (one : Marked first) (other : Marked second)
    (same : first ++ x = second ++ y) : first = second ∧ x = y := by
  obtain ⟨body, mark, rfl, unmarked, marked⟩ := one
  obtain ⟨otherBody, otherMark, rfl, otherUnmarked, otherMarked⟩ := other
  simp only [List.append_assoc, List.singleton_append] at same
  have cut := Text.run_cut (fun c => !isMark c) body (mark :: x) (by simpa using unmarked)
    (by simpa [Text.Stops] using marked)
  have otherCut := Text.run_cut (fun c => !isMark c) otherBody (otherMark :: y)
    (by simpa using otherUnmarked) (by simpa [Text.Stops] using otherMarked)
  rw [same] at cut
  have bodies := cut.1.symm.trans otherCut.1
  have ends := cut.2.symm.trans otherCut.2
  obtain ⟨marks, rests⟩ := List.cons.inj ends
  exact ⟨by rw [bodies, marks], rests⟩

-- No item is the beginning of another.
theorem front_unique {first second x y : Text} (one : Item first) (other : Item second)
    (same : first ++ x = second ++ y) : first = second ∧ x = y := by
  rcases short_or_marked one with ⟨c, rfl, notDigit⟩ | ⟨marked, digit, tail, spelled, isDigit⟩
  · rcases short_or_marked other with ⟨d, rfl, -⟩ | ⟨-, digit, tail, rfl, isDigit⟩
    · obtain ⟨rfl, rests⟩ := List.cons.inj same
      exact ⟨rfl, rests⟩
    · obtain ⟨rfl, -⟩ := List.cons.inj same
      rw [notDigit] at isDigit
      exact absurd isDigit nofun
  · rcases short_or_marked other with ⟨d, rfl, notDigit⟩ | ⟨otherMarked, -⟩
    · rw [spelled] at same
      obtain ⟨rfl, -⟩ := List.cons.inj same
      rw [notDigit] at isDigit
      exact absurd isDigit nofun
    · exact marked_front marked otherMarked same

theorem not_empty {item : Text} (isItem : Item item) : item ≠ [] := by
  rintro rfl
  rcases short_or_marked isItem with ⟨c, same, -⟩ | ⟨-, digit, tail, same, -⟩
  · exact absurd same nofun
  · exact absurd same nofun

theorem spells_unique {segment : Text} {first second : List Text} (one : Spells first segment)
    (other : Spells second segment) : first = second := by
  induction first generalizing second segment with
  | nil =>
      cases second with
      | nil => rfl
      | cons item rest =>
          have nothing : item ++ rest.flatten = [] := other.2.trans one.2.symm
          exact absurd (List.append_eq_nil_iff.mp nothing).1
            (not_empty (other.1 item List.mem_cons_self))
  | cons item rest ih =>
      cases second with
      | nil =>
          have nothing : item ++ rest.flatten = [] := one.2.trans other.2.symm
          exact absurd (List.append_eq_nil_iff.mp nothing).1
            (not_empty (one.1 item List.mem_cons_self))
      | cons otherItem others =>
          have same : item ++ rest.flatten = otherItem ++ others.flatten :=
            one.2.trans other.2.symm
          obtain ⟨rfl, behind⟩ := front_unique (one.1 item List.mem_cons_self)
            (other.1 otherItem List.mem_cons_self) same
          have tails := ih ⟨fun x member => one.1 x (List.mem_cons_of_mem _ member), behind⟩
            ⟨fun x member => other.1 x (List.mem_cons_of_mem _ member), rfl⟩
          rw [tails]

end Unique

end Item

-- Items and groups in any order, with the same inside every group.
inductive Scannable : Text → Prop where
  | nil : Scannable []
  | item {item rest : Text} (front : Item item) (behind : Scannable rest) : Scannable (item ++ rest)
  | group {inner rest : Text} (inside : Scannable inner) (behind : Scannable rest) :
      Scannable ('(' :: (inner ++ ')' :: rest))

namespace Scannable

theorem items {items : List Text} {rest : Text} (all : ∀ item ∈ items, Item item)
    (behind : Scannable rest) : Scannable (items.flatten ++ rest) := by
  induction items with
  | nil => exact behind
  | cons item others ih =>
      obtain ⟨first, later⟩ := List.forall_mem_cons.mp all
      rw [List.flatten_cons, List.append_assoc]
      exact .item first (ih later)

theorem blanks {run rest : Text} (blank : Text.AllBlank run) (behind : Scannable rest) :
    Scannable (run ++ rest) := by
  induction run with
  | nil => exact behind
  | cons c tail ih =>
      obtain ⟨first, later⟩ := List.forall_mem_cons.mp blank
      have behindFirst : Scannable ([c] ++ (tail ++ rest)) := .item (.blank first) (ih later)
      exact behindFirst

theorem balanced {text : Text} (scannable : Scannable text) : Nesting.Balanced text := by
  induction scannable with
  | nil => rfl
  | item front behind ih => exact Nesting.balanced_append (Nesting.balanced_plain front.plain) ih
  | @group inner rest inside behind innerBalanced restBalanced =>
      have front := Nesting.balanced_append (Nesting.balanced_group innerBalanced) restBalanced
      rw [List.append_assoc, List.cons_append] at front
      exact front

theorem segments {text : Text} (scannable : Scannable text) :
    ∀ segment ∈ Nesting.segments text, ∃ items, Item.Spells items segment := by
  induction scannable with
  | nil =>
      intro segment member
      rw [List.mem_singleton.mp member]
      exact ⟨[], nofun, rfl⟩
  | @item item rest front behind ih =>
      intro segment member
      rw [Nesting.segments_plain front.plain] at member
      cases parts : Nesting.segments rest with
      | nil => exact absurd parts (List.splitOnP_ne_nil _ _)
      | cons head tail =>
          rw [parts] at ih member
          rw [List.modifyHead_cons] at member
          cases List.mem_cons.mp member with
          | inl same =>
              obtain ⟨items, all, spelled⟩ := ih head List.mem_cons_self
              refine ⟨item :: items, List.forall_mem_cons.mpr ⟨front, all⟩, ?_⟩
              rw [same, List.flatten_cons, spelled]
          | inr later => exact ih segment (List.mem_cons_of_mem _ later)
  | group inside behind innerParts restParts =>
      intro segment member
      rw [Nesting.segments_group] at member
      cases List.mem_cons.mp member with
      | inl same =>
          rw [same]
          exact ⟨[], nofun, rfl⟩
      | inr later =>
          cases List.mem_append.mp later with
          | inl inInner => exact innerParts segment inInner
          | inr inRest => exact restParts segment inRest

-- The first segment is a row of items. A bracket behind it opens a group, whose inside and what
-- follows it are shorter texts.
theorem of_segments (text : Text) (balanced : Nesting.Balanced text)
    (parts : ∀ segment ∈ Nesting.segments text, ∃ items, Item.Spells items segment) :
    Scannable text := by
  induction size : text.length using Nat.strongRecOn generalizing text with
  | ind n ih =>
      obtain ⟨front, rest, rfl, plain, ends⟩ := Nesting.first_bracket text
      cases rest with
      | nil =>
          have alone : Nesting.segments front = [front] :=
            List.splitOnP_eq_singleton (Nesting.plain_no_bracket plain)
          rw [List.append_nil, alone] at parts
          obtain ⟨row, all, rfl⟩ := parts front List.mem_cons_self
          exact items all .nil
      | cons bracket behind =>
          have isOne : Nesting.isBracket bracket = true := by simpa [Text.Stops] using ends
          have first : Nesting.segments (front ++ bracket :: behind) =
              front :: Nesting.segments behind :=
            List.splitOnP_append_cons_of_forall_mem (Nesting.plain_no_bracket plain) bracket isOne
              behind
          rw [first, List.forall_mem_cons] at parts
          obtain ⟨⟨row, all, rfl⟩, others⟩ := parts
          apply items all
          have left := Nesting.balanced_behind (Nesting.balanced_plain plain) balanced
          cases Nesting.bracket_cases isOne with
          | inr closing =>
              rw [closing] at left
              exact absurd left Nesting.balanced_close
          | inl opening =>
              rw [opening] at left ⊢
              obtain ⟨inner, after, rfl, inside, afterwards⟩ := Nesting.balanced_open left
              rw [Nesting.segments_bracket rfl, List.forall_mem_append] at others
              simp only [List.length_append, List.length_cons] at size
              have innerScannable := ih inner.length (by omega) inner inside others.1 rfl
              have afterScannable := ih after.length (by omega) after afterwards others.2 rfl
              exact .group innerScannable afterScannable

end Scannable

end TapeMeasure
