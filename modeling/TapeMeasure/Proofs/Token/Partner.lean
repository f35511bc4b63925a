import Mathlib.Order.Bounds.Defs
import TapeMeasure.Token.Pairing
import TapeMeasure.Proofs.Expr.Context

/- Partners by counting. The table of a text pairs an opening bracket with the first place behind it
   up to which as much is closed as opened, and has nothing for a bracket without such a place. So
   it holds what the search for a closing bracket finds, and its pairs stand beside or inside one
   another. -/
set_option autoImplicit false

namespace TapeMeasure.Nesting

-- The text from one position to another has as many opening as closing brackets.
def EvenBetween (text : Text) (opening closing : Nat) : Prop :=
  ((text.drop opening).take (closing + 1 - opening)).count '(' =
    ((text.drop opening).take (closing + 1 - opening)).count ')'

def Partners (text : Text) (opening closing : Nat) : Prop :=
  text[opening]? = some '(' ∧
    IsLeast {other | opening < other ∧ other < text.length ∧ EvenBetween text opening other} closing

-- How far away the bracket stands that closes the outermost of `depth + 1` open ones.
def closeOffset (depth : Nat) (cs : Text) : Option Nat :=
  (splitAtClose depth cs).map fun cut => cut.1.length

-- Up to this place as much is closed as is opened there and was open in front of it, `depth + 1`
-- brackets.
def EvenAt (depth : Nat) (cs : Text) (offset : Nat) : Prop :=
  depth + 1 + (cs.take (offset + 1)).count '(' = (cs.take (offset + 1)).count ')'

def FirstEven (depth : Nat) (cs : Text) (offset : Nat) : Prop :=
  offset < cs.length ∧ EvenAt depth cs offset ∧ ∀ other < offset, ¬ EvenAt depth cs other

section Offset

variable (depth : Nat) (rest : Text)

theorem close_offset_end : closeOffset 0 (')' :: rest) = some 0 := rfl

theorem close_offset_close :
    closeOffset (depth + 1) (')' :: rest) = (closeOffset depth rest).map (· + 1) := by
  rw [closeOffset, split_at_close_close, closeOffset, Option.map_map, Option.map_map]
  rfl

theorem close_offset_open :
    closeOffset depth ('(' :: rest) = (closeOffset (depth + 1) rest).map (· + 1) := by
  rw [closeOffset, split_at_close_open, closeOffset, Option.map_map, Option.map_map]
  rfl

theorem close_offset_other {c : Char} (opening : c ≠ '(') (closing : c ≠ ')') :
    closeOffset depth (c :: rest) = (closeOffset depth rest).map (· + 1) := by
  rw [closeOffset, split_at_close_other depth rest opening closing, closeOffset, Option.map_map,
    Option.map_map]
  rfl

end Offset

theorem first_even_here (rest : Text) (offset : Nat) :
    FirstEven 0 (')' :: rest) offset ↔ 0 = offset := by
  constructor
  · intro ⟨_, _, first⟩
    by_contra behind
    exact first 0 (Nat.pos_of_ne_zero (Ne.symm behind)) rfl
  · rintro rfl
    exact ⟨Nat.zero_lt_succ _, rfl, nofun⟩

theorem first_even_behind {depth next offset : Nat} {c : Char} {rest : Text}
    (here : ¬ EvenAt depth (c :: rest) 0)
    (behind : ∀ other, EvenAt depth (c :: rest) (other + 1) ↔ EvenAt next rest other) :
    FirstEven depth (c :: rest) offset ↔ ∃ tail, FirstEven next rest tail ∧ tail + 1 = offset := by
  cases offset with
  | zero =>
      refine iff_of_false ?_ ?_
      · rintro ⟨-, even, -⟩
        exact here even
      · rintro ⟨tail, -, same⟩
        exact absurd same nofun
  | succ tail =>
      simp only [Nat.add_right_cancel_iff, exists_eq_right]
      unfold FirstEven
      rw [List.length_cons, Nat.add_lt_add_iff_right, behind]
      refine and_congr_right fun _ => and_congr_right fun _ => ?_
      constructor
      · intro first other before
        rw [← behind]
        exact first (other + 1) (Nat.succ_lt_succ before)
      · intro first other before
        cases other with
        | zero => exact here
        | succ other =>
            rw [behind]
            exact first other (Nat.lt_of_succ_lt_succ before)

theorem close_offset_iff {depth offset : Nat} {cs : Text} :
    closeOffset depth cs = some offset ↔ FirstEven depth cs offset := by
  induction cs generalizing depth offset with
  | nil => exact iff_of_false nofun fun first => absurd first.1 (Nat.not_lt_zero _)
  | cons c rest ih =>
      by_cases closing : c = ')'
      · subst closing
        cases depth with
        | zero => rw [close_offset_end, first_even_here, Option.some.injEq]
        | succ outer =>
            rw [close_offset_close, Option.map_eq_some_iff]
            simp only [ih]
            refine (first_even_behind ?_ fun other => ?_).symm
            · simp [EvenAt]
            · simp only [EvenAt, List.take_succ_cons, List.count_cons]
              simp
              omega
      · by_cases opening : c = '('
        · subst opening
          rw [close_offset_open, Option.map_eq_some_iff]
          simp only [ih]
          refine (first_even_behind ?_ fun other => ?_).symm
          · simp [EvenAt]
          · simp only [EvenAt, List.take_succ_cons, List.count_cons]
            simp
            omega
        · rw [close_offset_other depth rest opening closing, Option.map_eq_some_iff]
          simp only [ih]
          refine (first_even_behind ?_ fun other => ?_).symm
          · simp [EvenAt, opening, closing]
          · simp [EvenAt, opening, closing]

theorem close_offset_interior {cs : Text} {offset : Nat} :
    closeOffset 0 cs = some offset ↔
      ∃ inner after, cs = inner ++ ')' :: after ∧ Balanced inner ∧ inner.length = offset := by
  rw [closeOffset, Option.map_eq_some_iff, Prod.exists]
  simp only [← and_assoc, ← interior_iff]
  rfl

-- The bracket that closes the outermost of `depth + 1` open ones, of a text that begins at
-- `position`.
def ClosesAt (depth position : Nat) (cs : Text) (closing : Nat) : Prop :=
  ∃ offset, closeOffset depth cs = some offset ∧ closing = position + offset

-- A bracket in the text, which begins at `position`, and its partner.
def PairWithin (position : Nat) (cs : Text) (opening closing : Nat) : Prop :=
  ∃ front, cs[front]? = some '(' ∧ opening = position + front ∧
    ClosesAt 0 (opening + 1) (cs.drop (front + 1)) closing

-- A bracket that is open in front of the text, and its partner in it. As many brackets are open
-- inside it as stand above it on the stack.
def PairAcross (position : Nat) (stack : List Nat) (cs : Text) (opening closing : Nat) : Prop :=
  ∃ depth, stack[depth]? = some opening ∧ ClosesAt depth position cs closing

section Pairs

variable {position opening closing : Nat} {stack : List Nat} {rest : Text}

theorem closes_at_behind {depth next : Nat} {c : Char}
    (found : closeOffset depth (c :: rest) = (closeOffset next rest).map (· + 1)) :
    ClosesAt depth position (c :: rest) closing ↔ ClosesAt next (position + 1) rest closing := by
  unfold ClosesAt
  rw [found]
  constructor
  · rintro ⟨offset, moved, rfl⟩
    obtain ⟨tail, here, rfl⟩ := Option.map_eq_some_iff.mp moved
    exact ⟨tail, here, by omega⟩
  · rintro ⟨tail, here, rfl⟩
    exact ⟨tail + 1, by rw [here]; rfl, by omega⟩

theorem pair_within_nil : ¬ PairWithin position [] opening closing := by
  rintro ⟨front, bracket, -⟩
  exact absurd bracket nofun

theorem pair_within_cons {c : Char} :
    PairWithin position (c :: rest) opening closing ↔
      (c = '(' ∧ opening = position ∧ ClosesAt 0 (position + 1) rest closing) ∨
        PairWithin (position + 1) rest opening closing := by
  unfold PairWithin
  rw [← Nat.or_exists_add_one]
  apply or_congr
  · simp only [List.getElem?_cons_zero, Option.some.injEq, Nat.add_zero, Nat.zero_add,
      List.drop_succ_cons, List.drop_zero]
    apply and_congr_right
    rintro -
    apply and_congr_right
    rintro rfl
    rfl
  · simp only [List.getElem?_cons_succ, List.drop_succ_cons, Nat.add_assoc, Nat.add_comm 1]

theorem pair_across_nothing {cs : Text} : ¬ PairAcross position [] cs opening closing := by
  rintro ⟨depth, open_, -⟩
  exact absurd open_ nofun

theorem pair_across_end : ¬ PairAcross position stack [] opening closing := by
  rintro ⟨depth, -, offset, found, -⟩
  exact absurd found nofun

theorem pair_across_open :
    PairAcross (position + 1) (position :: stack) rest opening closing ↔
      (opening = position ∧ ClosesAt 0 (position + 1) rest closing) ∨
        PairAcross position stack ('(' :: rest) opening closing := by
  unfold PairAcross
  rw [← Nat.or_exists_add_one]
  simp only [List.getElem?_cons_zero, Option.some.injEq, List.getElem?_cons_succ,
    closes_at_behind (close_offset_open _ rest), eq_comm (a := position)]

theorem pair_across_close {inner : Nat} :
    PairAcross position (inner :: stack) (')' :: rest) opening closing ↔
      (opening = inner ∧ closing = position) ∨
        PairAcross (position + 1) stack rest opening closing := by
  unfold PairAcross
  rw [← Nat.or_exists_add_one]
  simp only [List.getElem?_cons_zero, Option.some.injEq, List.getElem?_cons_succ,
    closes_at_behind (close_offset_close _ rest), eq_comm (a := inner)]
  apply or_congr_left
  apply and_congr_right
  intro same
  simp only [ClosesAt, close_offset_end, Option.some.injEq, exists_eq_left', Nat.add_zero]

theorem pair_across_other {c : Char} (notOpening : c ≠ '(') (notClosing : c ≠ ')') :
    PairAcross position stack (c :: rest) opening closing ↔
      PairAcross (position + 1) stack rest opening closing := by
  unfold PairAcross
  simp only [closes_at_behind (close_offset_other _ rest notOpening notClosing)]

end Pairs

theorem map_ok {ε α β : Type} {f : α → β} {result : Except ε α} {value : β} :
    result.map f = .ok value ↔ ∃ found, result = .ok found ∧ f found = value := by
  cases result with
  | error fault => exact iff_of_false nofun nofun
  | ok found => simp [Except.map]

-- The pass completes the pairs of the brackets on the stack, and those of the rest of the text.
theorem mem_pair_from {text cs : Text} {position : Nat} {stack : List Nat} {table : Pairs}
    (made : pairFrom text position stack cs = .ok table) (opening closing : Nat) :
    (opening, closing) ∈ table ↔
      PairAcross position stack cs opening closing ∨ PairWithin position cs opening closing := by
  induction cs generalizing position stack table with
  | nil =>
      obtain rfl := Except.ok.inj made
      simp only [List.not_mem_nil, pair_across_end, pair_within_nil, or_false]
  | cons c rest ih =>
      by_cases bracket : c = '('
      · subst bracket
        by_cases full : stack.length = maxDepth
        · rw [pair_from_full _ _ _ full] at made
          exact absurd made nofun
        · rw [pair_from_open _ _ _ full] at made
          rw [ih made, pair_across_open, pair_within_cons]
          simp only [true_and, or_assoc, or_left_comm]
      · simp only [pair_within_cons, bracket, false_and, false_or]
        by_cases mark : c = ')'
        · subst mark
          cases stack with
          | nil =>
              rw [pair_from_stray] at made
              rw [ih made]
              simp only [pair_across_nothing, false_or]
          | cons inner outer =>
              rw [pair_from_close] at made
              obtain ⟨others, behind, rfl⟩ := map_ok.mp made
              rw [List.mem_cons, ih behind, pair_across_close, Prod.mk.injEq, or_assoc]
        · rw [pair_from_other _ _ _ bracket mark] at made
          rw [ih made, pair_across_other bracket mark]

theorem even_between_iff {text : Text} {opening offset : Nat}
    (bracket : text[opening]? = some '(') :
    EvenBetween text opening (opening + 1 + offset) ↔
      EvenAt 0 (text.drop (opening + 1)) offset := by
  obtain ⟨inside, same⟩ := List.getElem?_eq_some_iff.mp bracket
  have long : opening + 1 + offset + 1 - opening = offset + 1 + 1 := by omega
  rw [EvenBetween, EvenAt, List.drop_eq_getElem_cons inside, same, long, List.take_succ_cons,
    List.count_cons_self, List.count_cons_of_ne (by decide)]
  omega

-- What the search finds is the first place up to which the brackets are even.
theorem pair_within_iff {text : Text} {opening closing : Nat} :
    PairWithin 0 text opening closing ↔ Partners text opening closing := by
  simp only [PairWithin, Nat.zero_add, ClosesAt, close_offset_iff]
  constructor
  · rintro ⟨front, bracket, rfl, offset, ⟨inside, even, first⟩, rfl⟩
    rw [List.length_drop] at inside
    refine ⟨bracket, ⟨by omega, by omega, (even_between_iff bracket).mpr even⟩, ?_⟩
    rintro other ⟨behind, -, otherEven⟩
    obtain ⟨k, rfl⟩ := Nat.exists_eq_add_of_le behind
    rw [even_between_iff bracket] at otherEven
    have notBefore : ¬ k < offset := fun before => first k before otherEven
    omega
  · rintro ⟨bracket, ⟨behind, inside, even⟩, first⟩
    obtain ⟨offset, rfl⟩ := Nat.exists_eq_add_of_le behind
    refine ⟨opening, bracket, rfl, offset, ⟨?_, (even_between_iff bracket).mp even, ?_⟩, rfl⟩
    · rw [List.length_drop]
      omega
    · intro other before otherEven
      have least := first ⟨by omega, by omega, (even_between_iff bracket).mpr otherEven⟩
      omega

-- Partners stand around a balanced text.
theorem partners_enclose {text : Text} {opening closing : Nat} :
    Partners text opening closing ↔
      ∃ front inner behind, text = enclose front inner behind ∧ Balanced inner ∧
        opening = front.length ∧ closing = opening + 1 + inner.length := by
  rw [← pair_within_iff]
  simp only [PairWithin, Nat.zero_add, ClosesAt, close_offset_interior]
  constructor
  · rintro ⟨front, bracket, rfl, offset, ⟨inner, after, cut, balanced, rfl⟩, rfl⟩
    obtain ⟨inside, same⟩ := List.getElem?_eq_some_iff.mp bracket
    refine ⟨text.take opening, inner, after, ?_, balanced, ?_, rfl⟩
    · rw [enclose, ← cut, ← same, ← List.drop_eq_getElem_cons, List.take_append_drop]
    · rw [List.length_take, Nat.min_eq_left (Nat.le_of_lt inside)]
  · rintro ⟨front, inner, behind, rfl, balanced, rfl, rfl⟩
    refine ⟨front.length, ?_, rfl, inner.length, ⟨inner, behind, ?_, balanced, rfl⟩, rfl⟩
    · simp [enclose]
    · simp [enclose]

theorem partners_functional {text : Text} {opening closing other : Nat}
    (first : Partners text opening closing) (second : Partners text opening other) :
    closing = other :=
  Nat.le_antisymm (first.2.2 second.2.1) (second.2.2 first.2.1)

theorem partners_closing {text : Text} {opening closing : Nat}
    (partners : Partners text opening closing) : text[closing]? = some ')' := by
  obtain ⟨front, inner, behind, rfl, -, rfl, rfl⟩ := partners_enclose.mp partners
  have split : enclose front inner behind = (front ++ '(' :: inner) ++ ')' :: behind := by
    simp [enclose]
  have place : front.length + 1 + inner.length = (front ++ '(' :: inner).length := by
    rw [List.length_append, List.length_cons]
    omega
  rw [split, place, List.getElem?_append_right (Nat.le_refl _), Nat.sub_self]
  rfl

-- Of two pairs the one that begins first ends in front of the other, or behind it.
theorem partners_apart {text : Text} {opening closing inner innerClosing : Nat}
    (first : Partners text opening closing) (second : Partners text inner innerClosing)
    (before : opening < inner) : closing < inner ∨ innerClosing < closing := by
  obtain ⟨front, content, behind, spelled, balanced, rfl, rfl⟩ := partners_enclose.mp first
  obtain ⟨far, sum, later, same, inside, rfl, rfl⟩ := partners_enclose.mp second
  rw [spelled] at same
  rcases List.append_eq_append_iff.mp same with ⟨gap, rfl, rest⟩ | ⟨gap, rfl, -⟩
  · cases gap with
    | nil => simp at before
    | cons c gap =>
        obtain ⟨rfl, cut⟩ := List.cons.inj rest
        rcases group_cut balanced inside cut with ⟨tail, rfl, -⟩ | ⟨tail, rfl, -⟩
        · refine Or.inr ?_
          simp [enclose]
          omega
        · refine Or.inl ?_
          simp
          omega
  · rw [List.length_append] at before
    omega

theorem lookup_iff_mem {table : Pairs} {opening closing : Nat}
    (functional : ∀ first second, (opening, first) ∈ table → (opening, second) ∈ table →
      first = second) :
    table.lookup opening = some closing ↔ (opening, closing) ∈ table := by
  have found_mem {other : Nat} (found : table.lookup opening = some other) :
      (opening, other) ∈ table := by
    obtain ⟨front, behind, rfl, -⟩ := List.lookup_eq_some_iff.mp found
    simp
  refine ⟨found_mem, fun member => ?_⟩
  have present : (table.lookup opening).isSome = true :=
    List.lookup_isSome_iff.mpr ⟨_, member, beq_self_eq_true opening⟩
  obtain ⟨other, found⟩ := Option.isSome_iff_exists.mp present
  rw [found, functional other closing (found_mem found) member]

theorem mem_pairs {text : Text} {table : Pairs} (made : pairs text = .ok table)
    (opening closing : Nat) :
    (opening, closing) ∈ table ↔ Partners text opening closing := by
  rw [mem_pair_from made, ← pair_within_iff]
  exact or_iff_right pair_across_nothing

theorem lookup_pairs {text : Text} {table : Pairs} (made : pairs text = .ok table)
    (opening closing : Nat) :
    table.lookup opening = some closing ↔ Partners text opening closing := by
  rw [← mem_pairs made]
  apply lookup_iff_mem
  intro first second one other
  exact partners_functional ((mem_pairs made _ _).mp one) ((mem_pairs made _ _).mp other)

end TapeMeasure.Nesting
