import TapeMeasure.Token.Nesting

/- Brackets by counting. A text is balanced if no closing bracket in it finds nothing open and
   nothing is open at its end; these are the texts that can stand inside a group. How deep a text
   nests is the largest number of brackets that are open at any place of it. -/
set_option autoImplicit false

namespace TapeMeasure.Nesting

-- How many brackets are open behind the text, unless a closing bracket finds none.
def openAfter (depth : Nat) : Text → Option Nat
  | [] => some depth
  | c :: rest =>
      if c = '(' then openAfter (depth + 1) rest
      else if c = ')' then if depth = 0 then none else openAfter (depth - 1) rest
      else openAfter depth rest

def Balanced (cs : Text) : Prop := openAfter 0 cs = some 0

-- The largest number of open brackets. A closing bracket with nothing open changes nothing.
def peak (depth : Nat) : Text → Nat
  | [] => depth
  | c :: rest =>
      if c = '(' then peak (depth + 1) rest
      else if c = ')' then max depth (peak (depth - 1) rest)
      else peak depth rest

def Plain (cs : Text) : Prop := ∀ c ∈ cs, c ≠ '(' ∧ c ≠ ')'

theorem plain_append {front rest : Text} (left : Plain front) (right : Plain rest) :
    Plain (front ++ rest) := by
  intro c member
  rcases List.mem_append.mp member with inFront | inRest
  · exact left c inFront
  · exact right c inRest

theorem plain_cons {c : Char} {rest : Text} (bare : c ≠ '(' ∧ c ≠ ')') (right : Plain rest) :
    Plain (c :: rest) := by
  intro d member
  cases List.mem_cons.mp member with
  | inl same =>
      rw [same]
      exact bare
  | inr inRest => exact right d inRest

theorem plain_mark {mark : Char} (bare : mark ≠ '(' ∧ mark ≠ ')') : Plain [mark] :=
  plain_cons bare nofun

-- The text is empty, or a bracket is the first character of it.
def AtBracket : Text → Prop
  | [] => True
  | c :: _ => c = '(' ∨ c = ')'

theorem at_bracket_open (rest : Text) : AtBracket ('(' :: rest) := Or.inl rfl

-- A bracket that stands behind a plain text does not belong to it.
theorem plain_cut {front rest before behind : Text} (plain : Plain front)
    (bracket : AtBracket behind) (same : front ++ rest = before ++ behind) :
    ∃ later, before = front ++ later ∧ rest = later ++ behind := by
  rcases List.append_eq_append_iff.mp same with ⟨later, spelled, left⟩ | ⟨inside, spelled, left⟩
  · exact ⟨later, spelled, left⟩
  · cases inside with
    | nil => exact ⟨[], by simpa using spelled.symm, left.symm⟩
    | cons c others =>
        rw [left] at bracket
        have bare := plain c (by simp [spelled])
        exact absurd bracket (not_or.mpr bare)

section Steps

variable (depth : Nat) (rest : Text)

theorem open_after_open : openAfter depth ('(' :: rest) = openAfter (depth + 1) rest := by
  simp [openAfter]

theorem open_after_close : openAfter (depth + 1) (')' :: rest) = openAfter depth rest := by
  simp [openAfter]

theorem split_at_close_end : splitAtClose 0 (')' :: rest) = some ([], rest) := rfl

theorem split_at_close_close :
    splitAtClose (depth + 1) (')' :: rest) =
      (splitAtClose depth rest).map fun cut => (')' :: cut.1, cut.2) := rfl

theorem split_at_close_open :
    splitAtClose depth ('(' :: rest) =
      (splitAtClose (depth + 1) rest).map fun cut => ('(' :: cut.1, cut.2) := by
  cases depth <;> rfl

theorem split_at_close_other {c : Char} (opening : c ≠ '(') (closing : c ≠ ')') :
    splitAtClose depth (c :: rest) =
      (splitAtClose depth rest).map fun cut => (c :: cut.1, cut.2) := by
  cases depth <;> simp [splitAtClose, opening, closing]

theorem peak_open : peak depth ('(' :: rest) = peak (depth + 1) rest := by simp [peak]

theorem peak_close : peak (depth + 1) (')' :: rest) = max (depth + 1) (peak depth rest) := by
  simp [peak]

end Steps

theorem open_after_append (depth : Nat) (front rest : Text) :
    openAfter depth (front ++ rest) = (openAfter depth front).bind fun d => openAfter d rest := by
  induction front generalizing depth with
  | nil => rfl
  | cons c tail ih =>
      simp only [List.cons_append, openAfter, ih]
      repeat' split
      all_goals rfl

theorem open_after_plain (depth : Nat) {cs : Text} (plain : Plain cs) :
    openAfter depth cs = some depth := by
  induction cs with
  | nil => rfl
  | cons c rest ih =>
      have front := plain c (by simp)
      rw [openAfter, if_neg front.1, if_neg front.2]
      exact ih fun other member => plain other (by simp [member])

-- Brackets that are open already stay open.
theorem open_after_raise (extra : Nat) {depth behind : Nat} {cs : Text}
    (counted : openAfter depth cs = some behind) :
    openAfter (depth + extra) cs = some (behind + extra) := by
  induction cs generalizing depth with
  | nil =>
      obtain rfl := Option.some.inj counted
      rfl
  | cons c rest ih =>
      rw [openAfter] at counted ⊢
      by_cases opening : c = '('
      · rw [if_pos opening] at counted ⊢
        rw [Nat.add_right_comm]
        exact ih counted
      · rw [if_neg opening] at counted ⊢
        by_cases closing : c = ')'
        · rw [if_pos closing] at counted ⊢
          by_cases ground : depth = 0
          · simp [ground] at counted
          · rw [if_neg ground] at counted
            rw [if_neg (by omega), show depth + extra - 1 = depth - 1 + extra by omega]
            exact ih counted
        · rw [if_neg closing] at counted ⊢
          exact ih counted

theorem balanced_plain {cs : Text} (plain : Plain cs) : Balanced cs := open_after_plain 0 plain

theorem balanced_append {front rest : Text} (left : Balanced front) (right : Balanced rest) :
    Balanced (front ++ rest) := by
  unfold Balanced at *
  rw [open_after_append, left]
  exact right

theorem balanced_group {inner : Text} (balanced : Balanced inner) :
    Balanced ('(' :: inner ++ [')']) := by
  have raised : openAfter 1 inner = some 1 := by simpa using open_after_raise 1 balanced
  unfold Balanced
  rw [List.cons_append, open_after_open, open_after_append, raised]
  rfl

-- What is open at the front is closed at the first place where as much is closed as was opened.
theorem closes {depth : Nat} {cs : Text} (counted : openAfter (depth + 1) cs = some 0) :
    ∃ inner after, cs = inner ++ ')' :: after ∧ openAfter depth inner = some 0 ∧
      Balanced after := by
  induction cs generalizing depth with
  | nil => exact absurd (Option.some.inj counted) nofun
  | cons c rest ih =>
      by_cases opening : c = '('
      · subst opening
        rw [open_after_open] at counted
        obtain ⟨inner, after, rfl, inside, behind⟩ := ih counted
        refine ⟨'(' :: inner, after, rfl, ?_, behind⟩
        rw [open_after_open]
        exact inside
      · by_cases closing : c = ')'
        · subst closing
          rw [open_after_close] at counted
          cases depth with
          | zero => exact ⟨[], rest, rfl, rfl, counted⟩
          | succ outer =>
              obtain ⟨inner, after, rfl, inside, behind⟩ := ih counted
              refine ⟨')' :: inner, after, rfl, ?_, behind⟩
              rw [open_after_close]
              exact inside
        · rw [openAfter, if_neg opening, if_neg closing] at counted
          obtain ⟨inner, after, rfl, inside, behind⟩ := ih counted
          refine ⟨c :: inner, after, rfl, ?_, behind⟩
          rw [openAfter, if_neg opening, if_neg closing]
          exact inside

theorem balanced_open {rest : Text} (balanced : Balanced ('(' :: rest)) :
    ∃ inner after, rest = inner ++ ')' :: after ∧ Balanced inner ∧ Balanced after := by
  unfold Balanced at balanced
  rw [open_after_open] at balanced
  exact closes balanced

theorem balanced_close {rest : Text} : ¬ Balanced (')' :: rest) := nofun

theorem balanced_behind {front rest : Text} (left : Balanced front)
    (balanced : Balanced (front ++ rest)) : Balanced rest := by
  unfold Balanced at left balanced
  rw [open_after_append, left] at balanced
  exact balanced

theorem depth_le_peak (depth : Nat) (cs : Text) : depth ≤ peak depth cs := by
  induction cs generalizing depth with
  | nil => exact Nat.le_refl depth
  | cons c rest ih =>
      rw [peak]
      by_cases opening : c = '('
      · rw [if_pos opening]
        exact Nat.le_of_succ_le (ih (depth + 1))
      · rw [if_neg opening]
        by_cases closing : c = ')'
        · rw [if_pos closing]
          exact Nat.le_max_left depth _
        · rw [if_neg closing]
          exact ih depth

theorem peak_plain (depth : Nat) {front : Text} (rest : Text) (plain : Plain front) :
    peak depth (front ++ rest) = peak depth rest := by
  induction front with
  | nil => rfl
  | cons c tail ih =>
      have head := plain c (by simp)
      rw [List.cons_append, peak, if_neg head.1, if_neg head.2]
      exact ih fun other member => plain other (by simp [member])

-- A cut behind one more character was a cut before it.
theorem cut_behind {c : Char} {cut : Option (Text × Text)} {inner after : Text}
    (found : cut.map (fun pair => (c :: pair.1, pair.2)) = some (inner, after)) :
    ∃ tail, inner = c :: tail ∧ cut = some (tail, after) := by
  obtain ⟨⟨tail, behind⟩, same, parts⟩ := Option.map_eq_some_iff.mp found
  simp only [Prod.mk.injEq] at parts
  obtain ⟨rfl, rfl⟩ := parts
  exact ⟨tail, rfl, same⟩

theorem split_at_close_counted {depth : Nat} {cs inner after : Text}
    (found : splitAtClose depth cs = some (inner, after)) : openAfter depth inner = some 0 := by
  induction cs generalizing depth inner with
  | nil => simp [splitAtClose] at found
  | cons c rest ih =>
      by_cases closing : c = ')'
      · subst closing
        cases depth with
        | zero =>
            rw [split_at_close_end] at found
            simp only [Option.some.injEq, Prod.mk.injEq] at found
            rw [← found.1]
            rfl
        | succ outer =>
            rw [split_at_close_close] at found
            obtain ⟨tail, rfl, cut⟩ := cut_behind found
            rw [open_after_close]
            exact ih cut
      · by_cases opening : c = '('
        · subst opening
          rw [split_at_close_open] at found
          obtain ⟨tail, rfl, cut⟩ := cut_behind found
          rw [open_after_open]
          exact ih cut
        · rw [split_at_close_other depth rest opening closing] at found
          obtain ⟨tail, rfl, cut⟩ := cut_behind found
          rw [openAfter, if_neg opening, if_neg closing]
          exact ih cut

theorem split_at_close_of_counted {depth : Nat} {inner : Text} (after : Text)
    (counted : openAfter depth inner = some 0) :
    splitAtClose depth (inner ++ ')' :: after) = some (inner, after) := by
  induction inner generalizing depth with
  | nil =>
      obtain rfl := Option.some.inj counted
      rfl
  | cons c tail ih =>
      rw [openAfter] at counted
      rw [List.cons_append]
      by_cases opening : c = '('
      · subst opening
        rw [if_pos rfl] at counted
        rw [split_at_close_open, ih counted]
        rfl
      · rw [if_neg opening] at counted
        by_cases closing : c = ')'
        · subst closing
          rw [if_pos rfl] at counted
          cases depth with
          | zero => simp at counted
          | succ outer =>
              rw [split_at_close_close, ih (by simpa using counted)]
              rfl
        · rw [if_neg closing] at counted
          rw [split_at_close_other depth _ opening closing, ih counted]
          rfl

theorem interior_iff {cs inner after : Text} :
    interior cs = some (inner, after) ↔ cs = inner ++ ')' :: after ∧ Balanced inner := by
  constructor
  · intro found
    exact ⟨interior_append found, split_at_close_counted found⟩
  · rintro ⟨rfl, balanced⟩
    exact split_at_close_of_counted after balanced

theorem excess_from_none {depth position : Nat} {outer cs : Text} (bounded : depth ≤ maxDepth) :
    excessFrom depth position outer cs = none ↔ peak depth cs ≤ maxDepth := by
  induction cs generalizing depth position outer with
  | nil => simpa [excessFrom, peak] using bounded
  | cons c rest ih =>
      rw [excessFrom, peak]
      by_cases opening : c = '('
      · rw [if_pos opening, if_pos opening]
        by_cases full : depth = maxDepth
        · have grown := depth_le_peak (depth + 1) rest
          rw [if_pos full]
          simp only [reduceCtorEq, false_iff]
          omega
        · rw [if_neg full]
          exact ih (by omega)
      · rw [if_neg opening, if_neg opening]
        by_cases closing : c = ')'
        · rw [if_pos closing, if_pos closing, ih (by omega), Nat.max_le]
          exact ⟨fun below => ⟨bounded, below⟩, fun both => both.2⟩
        · rw [if_neg closing, if_neg closing]
          exact ih bounded

theorem excess_none_iff (cs : Text) : excess cs = none ↔ peak 0 cs ≤ maxDepth :=
  excess_from_none (Nat.zero_le maxDepth)

end TapeMeasure.Nesting
