import TapeMeasure.Proofs.Token.Piece

/- Brackets that are still open. The count goes from the left to the right, and a closing bracket
   with nothing open changes nothing. A text nests too deeply if the count goes beyond the limit
   behind any beginning of it, and what is then reported is the bracket that does so first and
   the text from the outermost bracket on that is open there. -/
set_option autoImplicit false

namespace TapeMeasure

namespace Nesting

-- How many brackets are open behind the text, with `depth` open in front of it.
def unclosedFrom (depth : Nat) : Text → Nat
  | [] => depth
  | c :: rest =>
      if c = '(' then unclosedFrom (depth + 1) rest
      else if c = ')' then unclosedFrom (depth - 1) rest
      else unclosedFrom depth rest

def unclosed (cs : Text) : Nat := unclosedFrom 0 cs

theorem unclosed_of_counted {depth behind : Nat} {cs : Text}
    (counted : openAfter depth cs = some behind) : unclosedFrom depth cs = behind := by
  induction cs generalizing depth with
  | nil => exact Option.some.inj counted
  | cons c rest ih =>
      rw [openAfter] at counted
      rw [unclosedFrom]
      by_cases opening : c = '('
      · rw [if_pos opening] at counted ⊢
        exact ih counted
      · rw [if_neg opening] at counted ⊢
        by_cases closing : c = ')'
        · rw [if_pos closing] at counted ⊢
          by_cases ground : depth = 0
          · simp [ground] at counted
          · rw [if_neg ground] at counted
            exact ih counted
        · rw [if_neg closing] at counted ⊢
          exact ih counted

theorem forall_beginning_cons {P : Text → Prop} {c : Char} {rest : Text} :
    (∀ front, front <+: c :: rest → P front) ↔ P [] ∧ ∀ front, front <+: rest → P (c :: front) := by
  simp only [List.prefix_cons_iff]
  constructor
  · intro all
    exact ⟨all [] (Or.inl rfl), fun front begins => all _ (Or.inr ⟨front, rfl, begins⟩)⟩
  · rintro ⟨empty, others⟩ front (rfl | ⟨tail, rfl, begins⟩)
    · exact empty
    · exact others tail begins

theorem peak_le_iff {depth limit : Nat} {cs : Text} :
    peak depth cs ≤ limit ↔ ∀ front, front <+: cs → unclosedFrom depth front ≤ limit := by
  induction cs generalizing depth with
  | nil => simp [peak, unclosedFrom]
  | cons c rest ih =>
      rw [forall_beginning_cons, peak]
      simp only [unclosedFrom]
      by_cases opening : c = '('
      · simp only [if_pos opening]
        rw [ih]
        refine ⟨fun below => ⟨?_, below⟩, fun both => both.2⟩
        have first := below [] List.nil_prefix
        exact Nat.le_of_succ_le first
      · simp only [if_neg opening]
        by_cases closing : c = ')'
        · simp only [if_pos closing]
          rw [Nat.max_le, ih]
        · simp only [if_neg closing]
          rw [ih]
          exact ⟨fun below => ⟨below [] List.nil_prefix, below⟩, fun both => both.2⟩

theorem excess_none_unclosed (cs : Text) :
    excess cs = none ↔ ∀ front, front <+: cs → unclosed front ≤ maxDepth :=
  (excess_none_iff cs).trans peak_le_iff

-- The text from the outermost bracket on that is open behind `before`, which `after` follows with
-- a bracket in front: one that was open already, or one that is opened there and stays open.
inductive Outermost (depth : Nat) (outer before after : Text) : Text → Prop where
  | old (stays : ∀ front, front <+: before → 0 < unclosedFrom depth front) :
      Outermost depth outer before after outer
  | new {outside inside : Text} (cut : before = outside ++ '(' :: inside)
      (nothing : unclosedFrom depth outside = 0)
      (stays : ∀ front, front <+: inside → 0 < unclosedFrom depth (outside ++ '(' :: front)) :
      Outermost depth outer before after ('(' :: (inside ++ '(' :: after))

section Behind

variable {depth next : Nat} {c : Char} {outer earlier before after rest : Text}

-- A bracket that is open on both sides of the character stays the outermost one.
theorem outermost_old (counts : ∀ front, unclosedFrom depth (c :: front) = unclosedFrom next front)
    (opened : 0 < next → 0 < depth)
    (stays : ∀ front, front <+: before → 0 < unclosedFrom next front) :
    Outermost depth outer (c :: before) after outer := by
  apply Outermost.old
  rw [forall_beginning_cons]
  refine ⟨opened (stays [] List.nil_prefix), fun front begins => ?_⟩
  rw [counts]
  exact stays front begins

theorem outermost_opened (stays : ∀ front, front <+: before → 0 < unclosedFrom 1 front) :
    Outermost 0 outer ('(' :: before) after ('(' :: (before ++ '(' :: after)) := by
  have nothing : unclosedFrom 0 [] = 0 := rfl
  exact .new (List.nil_append _).symm nothing stays

theorem outermost_behind
    (counts : ∀ front, unclosedFrom depth (c :: front) = unclosedFrom next front)
    (old : (∀ front, front <+: before → 0 < unclosedFrom next front) →
      Outermost depth outer (c :: before) after earlier)
    (outermost : Outermost next earlier before after rest) :
    Outermost depth outer (c :: before) after rest := by
  cases outermost with
  | old stays => exact old stays
  | @new outside inside cut nothing stays =>
      have longer : c :: before = (c :: outside) ++ '(' :: inside := by rw [cut, List.cons_append]
      apply Outermost.new longer
      · rw [counts]
        exact nothing
      · intro front begins
        rw [List.cons_append, counts]
        exact stays front begins

end Behind

-- The bracket between `before` and `after` is the first that finds too many brackets open.
structure FirstExcess (depth : Nat) (outer before after rest : Text) : Prop where
  full : unclosedFrom depth before = maxDepth
  first : ∀ front, front <+: before → unclosedFrom depth front ≤ maxDepth
  outermost : Outermost depth outer before after rest

theorem first_excess_here (outer after : Text) : FirstExcess maxDepth outer [] after outer := by
  have counted (front : Text) (begins : front <+: []) : unclosedFrom maxDepth front = maxDepth := by
    rw [List.prefix_nil.mp begins]
    rfl
  refine ⟨rfl, fun front begins => Nat.le_of_eq (counted front begins), .old ?_⟩
  intro front begins
  rw [counted front begins]
  decide

theorem first_excess_behind {depth next : Nat} {c : Char} {outer earlier before after rest : Text}
    (counts : ∀ front, unclosedFrom depth (c :: front) = unclosedFrom next front)
    (bounded : depth ≤ maxDepth)
    (old : (∀ front, front <+: before → 0 < unclosedFrom next front) →
      Outermost depth outer (c :: before) after earlier)
    (excess : FirstExcess next earlier before after rest) :
    FirstExcess depth outer (c :: before) after rest := by
  constructor
  case full =>
    rw [counts]
    exact excess.full
  case first =>
    rw [forall_beginning_cons]
    refine ⟨bounded, fun front begins => ?_⟩
    rw [counts]
    exact excess.first front begins
  case outermost => exact outermost_behind counts old excess.outermost

theorem excess_from_some {depth position found : Nat} {outer cs rest : Text}
    (bounded : depth ≤ maxDepth)
    (excess : excessFrom depth position outer cs = some (found, rest)) :
    ∃ before after, cs = before ++ '(' :: after ∧ found = position + before.length ∧
      FirstExcess depth outer before after rest := by
  induction cs generalizing depth position outer with
  | nil => exact absurd excess nofun
  | cons c tail ih =>
      rw [excessFrom] at excess
      by_cases opening : c = '('
      · rw [if_pos opening] at excess
        subst opening
        have counts (front : Text) :
            unclosedFrom depth ('(' :: front) = unclosedFrom (depth + 1) front := rfl
        by_cases full : depth = maxDepth
        · rw [if_pos full] at excess
          obtain ⟨rfl, rfl⟩ := Prod.mk.inj (Option.some.inj excess)
          subst full
          exact ⟨[], tail, rfl, rfl, first_excess_here _ tail⟩
        · rw [if_neg full] at excess
          obtain ⟨before, after, rfl, rfl, first⟩ := ih (by omega) excess
          refine ⟨'(' :: before, after, rfl, by rw [List.length_cons]; omega, ?_⟩
          by_cases ground : depth = 0
          · subst ground
            rw [if_pos rfl] at first
            exact first_excess_behind counts bounded outermost_opened first
          · rw [if_neg ground] at first
            have opened : 0 < depth + 1 → 0 < depth := fun _ => Nat.pos_of_ne_zero ground
            exact first_excess_behind counts bounded (outermost_old counts opened) first
      · rw [if_neg opening] at excess
        by_cases closing : c = ')'
        · rw [if_pos closing] at excess
          subst closing
          have counts (front : Text) :
              unclosedFrom depth (')' :: front) = unclosedFrom (depth - 1) front := rfl
          obtain ⟨before, after, rfl, rfl, first⟩ := ih (by omega) excess
          refine ⟨')' :: before, after, rfl, by rw [List.length_cons]; omega, ?_⟩
          have opened : 0 < depth - 1 → 0 < depth := by omega
          exact first_excess_behind counts bounded (outermost_old counts opened) first
        · rw [if_neg closing] at excess
          have counts (front : Text) :
              unclosedFrom depth (c :: front) = unclosedFrom depth front := by
            rw [unclosedFrom, if_neg opening, if_neg closing]
          obtain ⟨before, after, rfl, rfl, first⟩ := ih bounded excess
          refine ⟨c :: before, after, rfl, by rw [List.length_cons]; omega, ?_⟩
          exact first_excess_behind counts bounded (outermost_old counts id) first

-- At this position stands the first bracket that finds 32 brackets open, and `rest` is the text
-- from the outermost of these on.
def ExceedsAt (text : Text) (position : Nat) (rest : Text) : Prop :=
  ∃ outside inside after,
    text = outside ++ '(' :: (inside ++ '(' :: after) ∧
      position = (outside ++ '(' :: inside).length ∧ rest = '(' :: (inside ++ '(' :: after) ∧
      unclosed (outside ++ '(' :: inside) = 32 ∧
      (∀ front, front <+: outside ++ '(' :: inside → unclosed front ≤ 32) ∧
      unclosed outside = 0 ∧ ∀ front, front <+: inside → 0 < unclosed (outside ++ '(' :: front)

theorem excess_some {text rest : Text} {position : Nat} (found : excess text = some (position, rest)) :
    ExceedsAt text position rest := by
  obtain ⟨before, after, rfl, rfl, first⟩ := excess_from_some (Nat.zero_le maxDepth) found
  obtain ⟨full, bounded, outermost⟩ := first
  cases outermost with
  | old stays => exact absurd (stays [] List.nil_prefix) (Nat.lt_irrefl 0)
  | @new outside inside cut nothing stays =>
      subst cut
      refine ⟨outside, inside, after, ?_, Nat.zero_add _, rfl, full, bounded, nothing, stays⟩
      rw [List.append_assoc, List.cons_append]

end Nesting

theorem Lexeme.spelling_balanced {separator : Separator} {lexeme : Lexeme}
    (valid : lexeme.WellFormed separator) : Nesting.Balanced lexeme.spelling := by
  cases lexeme with
  | literal read => exact Nesting.balanced_plain (Piece.literal_plain valid)
  | blanks run => exact Nesting.balanced_plain (Piece.blanks_plain valid.2)
  | plus => rfl
  | minus => rfl
  | group inner => exact Nesting.balanced_group valid

end TapeMeasure
