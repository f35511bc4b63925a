import TapeMeasure.Proofs.Token.Language

/- Rows of tokens that could not have been read as fewer. Of a few neighbours a scan always makes
   one token: of two runs of blanks, and of feet and inches with nothing or blanks between them.
   Rows without such neighbours are tidy, and pieces are as long as they can be exactly if their
   row is tidy, so what may stand side by side is settled by the kinds alone. -/
set_option autoImplicit false

namespace TapeMeasure

namespace Kind

-- Inches without feet, alone or with a fraction.
def IsInches (kind : Kind) : Prop := kind = .inches ∨ kind = .inchesFraction

-- These neighbours are read as one token.
inductive Merge (separator : Separator) : List Kind → Prop where
  | blanks : Merge separator [.whitespace, .whitespace]
  | apart {kind : Kind} (inches : kind.IsInches) : Merge separator [.feet, .whitespace, kind]
  | adjacent {kind : Kind} (inches : kind.IsInches) (optional : separator = .optional) :
      Merge separator [.feet, kind]

def Tidy (separator : Separator) (row : List Kind) : Prop :=
  ∀ part, part <:+: row → ¬ Merge separator part

def solid (row : List Kind) : List Kind := row.filter fun kind => kind ≠ .whitespace

-- Blanks end the first row and begin the second.
def BlanksMeet (first second : List Kind) : Prop :=
  first.getLast? = some .whitespace ∧ second.head? = some .whitespace

-- But for blanks, feet end the first row and inches begin the second.
def FeetMeetInches (first second : List Kind) : Prop :=
  (solid first).getLast? = some .feet ∧
    ∃ kind, kind.IsInches ∧ (solid second).head? = some kind

theorem tidy_nil (separator : Separator) : Tidy separator [] := by
  intro part inside merge
  obtain rfl := List.infix_nil.mp inside
  cases merge

theorem tidy_behind {separator : Separator} {kind : Kind} {rest : List Kind}
    (tidy : Tidy separator (kind :: rest)) : Tidy separator rest :=
  fun part inside => tidy part (List.infix_cons inside)

theorem solid_append (front behind : List Kind) :
    solid (front ++ behind) = solid front ++ solid behind := List.filter_append front behind

theorem inches_solid {kind : Kind} (inches : kind.IsInches) : solid [kind] = [kind] := by
  cases inches with
  | inl same =>
      rw [same]
      rfl
  | inr same =>
      rw [same]
      rfl

theorem feet_meet {front behind left right : List Kind} {kind : Kind} (inches : kind.IsInches)
    (feet : solid left = [.feet]) (first : solid right = [kind]) :
    FeetMeetInches (front ++ left) (right ++ behind) := by
  refine ⟨?_, kind, inches, ?_⟩
  · rw [solid_append, feet, List.getLast?_concat]
  · rw [solid_append, first]
    rfl

theorem cut_behind_single {front behind : List Kind} {kind : Kind}
    (single : front ++ behind = [kind]) (some : behind ≠ []) : front = [] ∧ behind = [kind] :=
  (List.append_eq_singleton_iff.mp single).resolve_right fun other => some other.2

-- Neighbours that a seam cuts are two runs of blanks, or feet and inches.
theorem merge_seam {separator : Separator} {front left right behind : List Kind}
    (merge : Merge separator (left ++ right)) (some : left ≠ []) (others : right ≠ []) :
    BlanksMeet (front ++ left) (right ++ behind) ∨
      FeetMeetInches (front ++ left) (right ++ behind) := by
  obtain ⟨kind, tail, rfl⟩ := List.exists_cons_of_ne_nil some
  generalize same : kind :: tail ++ right = part at merge
  cases merge with
  | blanks =>
      obtain ⟨rfl, later⟩ := List.cons.inj same
      obtain ⟨rfl, rfl⟩ := cut_behind_single later others
      exact Or.inl ⟨List.getLast?_concat, rfl⟩
  | adjacent inches optional =>
      obtain ⟨rfl, later⟩ := List.cons.inj same
      obtain ⟨rfl, rfl⟩ := cut_behind_single later others
      exact Or.inr (feet_meet inches rfl (inches_solid inches))
  | apart inches =>
      obtain ⟨rfl, later⟩ := List.cons.inj same
      rcases List.append_eq_cons_iff.mp later with ⟨rfl, rfl⟩ | ⟨more, rfl, last⟩
      · exact Or.inr (feet_meet inches rfl (inches_solid inches))
      · obtain ⟨rfl, rfl⟩ := cut_behind_single last.symm others
        exact Or.inr (feet_meet inches rfl (inches_solid inches))

theorem tidy_append {separator : Separator} {first second : List Kind}
    (left : Tidy separator first) (right : Tidy separator second)
    (blanks : ¬ BlanksMeet first second) (feet : ¬ FeetMeetInches first second) :
    Tidy separator (first ++ second) := by
  intro part inside merge
  rcases List.infix_append_iff.mp inside with inFirst | inSecond | ⟨front, rest, rfl, ends, begins⟩
  · exact left part inFirst merge
  · exact right part inSecond merge
  · by_cases none : front = []
    · rw [none, List.nil_append] at merge
      exact right rest begins.isInfix merge
    · by_cases nothing : rest = []
      · rw [nothing, List.append_nil] at merge
        exact left front ends.isInfix merge
      · obtain ⟨before, rfl⟩ := ends
        obtain ⟨behind, rfl⟩ := begins
        exact (merge_seam merge none nothing).elim blanks feet

end Kind

namespace Piece

def kind : Piece → Kind
  | .literal read => read.kind
  | .blanks _ => .whitespace
  | .plus => .plus
  | .minus => .minus
  | .group _ => .paren

theorem kind_blanks {piece : Piece} (kind : piece.kind = .whitespace) :
    ∃ run, piece = .blanks run := by
  cases piece with
  | blanks run => exact ⟨run, rfl⟩
  | literal read =>
      cases read with
      | inchesOnly part => cases part <;> exact absurd kind nofun
      | feetInches feet gap part => cases part <;> exact absurd kind nofun
      | _ => exact absurd kind nofun
  | _ => exact absurd kind nofun

theorem kind_feet {piece : Piece} (kind : piece.kind = .feet) :
    ∃ feet, piece = .literal (.feetOnly feet) := by
  cases piece with
  | literal read =>
      cases read with
      | feetOnly feet => exact ⟨feet, rfl⟩
      | inchesOnly part => cases part <;> exact absurd kind nofun
      | feetInches feet gap part => cases part <;> exact absurd kind nofun
      | fractionOnly fraction => exact absurd kind nofun
  | _ => exact absurd kind nofun

theorem kind_inches {piece : Piece} (kind : piece.kind.IsInches) :
    ∃ part, piece = .literal (.inchesOnly part) := by
  cases piece with
  | literal read =>
      cases read with
      | inchesOnly part => exact ⟨part, rfl⟩
      | feetOnly feet => exact kind.elim nofun nofun
      | fractionOnly fraction => exact kind.elim nofun nofun
      | feetInches feet gap part => cases part <;> exact kind.elim nofun nofun
  | _ => exact kind.elim nofun nofun

theorem inches_kind (part : InchPart) : (Piece.literal (.inchesOnly part)).kind.IsInches := by
  cases part with
  | whole inches => exact Or.inl rfl
  | mixed inches fraction => exact Or.inr rfl

theorem map_kind_pair {pieces : List Piece} {first second : Kind}
    (same : pieces.map kind = [first, second]) :
    ∃ left right, pieces = [left, right] ∧ left.kind = first ∧ right.kind = second := by
  obtain ⟨left, rest, rfl, leftKind, later⟩ := List.map_eq_cons_iff.mp same
  obtain ⟨right, others, rfl, rightKind, nothing⟩ := List.map_eq_cons_iff.mp later
  obtain rfl := List.map_eq_nil_iff.mp nothing
  exact ⟨left, right, rfl, leftKind, rightKind⟩

theorem inches_read {separator : Separator} {gap rest : Text} {part : InchPart}
    (blank : Text.AllBlank gap) (admitted : separator.admits gap = true)
    (valid : part.WellFormed) :
    Literal.readInches separator (gap ++ (part.spelling ++ rest)) ≠ none := by
  rw [Literal.read_inches_iff.mpr ⟨rfl, blank, admitted, valid⟩]
  exact nofun

theorem greedy_no_merge {separator : Separator} {pieces behind : List Piece}
    (greedy : Greedy separator (pieces ++ behind)) :
    ¬ Kind.Merge separator (pieces.map kind) := by
  intro merge
  generalize same : pieces.map kind = row at merge
  cases merge with
  | blanks =>
      obtain ⟨left, right, rfl, leftKind, rightKind⟩ := map_kind_pair same
      obtain ⟨run, rfl⟩ := kind_blanks leftKind
      obtain ⟨other, rfl⟩ := kind_blanks rightKind
      obtain ⟨-, stops, ⟨some, blank⟩, -⟩ := greedy
      obtain ⟨c, tail, rfl⟩ := List.exists_cons_of_ne_nil some
      have off : Text.isBlank c = false := stops
      rw [blank c List.mem_cons_self] at off
      exact absurd off nofun
  | adjacent inches optional =>
      obtain ⟨left, right, rfl, leftKind, rfl⟩ := map_kind_pair same
      obtain ⟨feet, rfl⟩ := kind_feet leftKind
      obtain ⟨part, rfl⟩ := kind_inches inches
      obtain ⟨-, ends, sound, -⟩ := greedy
      subst optional
      exact inches_read Text.empty_blank rfl sound.1 ends
  | apart inches =>
      obtain ⟨left, rest, rfl, leftKind, later⟩ := List.map_eq_cons_iff.mp same
      obtain ⟨middle, right, rfl, middleKind, rfl⟩ := map_kind_pair later
      obtain ⟨feet, rfl⟩ := kind_feet leftKind
      obtain ⟨run, rfl⟩ := kind_blanks middleKind
      obtain ⟨part, rfl⟩ := kind_inches inches
      obtain ⟨-, ends, ⟨some, blank⟩, -, sound, -⟩ := greedy
      have admitted : separator.admits run = true := by
        obtain ⟨c, tail, rfl⟩ := List.exists_cons_of_ne_nil some
        cases separator <;> rfl
      exact inches_read blank admitted sound.1 ends

-- Only feet and blanks can go on behind themselves. What they would take is the next pieces.
theorem tidy_ends {separator : Separator} {piece : Piece} {rest : List Piece}
    (greedy : Greedy separator rest) (tidy : Kind.Tidy separator ((piece :: rest).map kind)) :
    piece.lexeme.EndsBefore separator (spell rest) := by
  cases piece with
  | literal read =>
      cases read with
      | feetOnly feet =>
          cases found : Literal.readInches separator (spell rest) with
          | none => exact found
          | some cut =>
              obtain ⟨gap, part, behind⟩ := cut
              obtain ⟨spelled, blank, admitted, valid⟩ := Literal.read_inches_iff.mp found
              obtain ⟨others, rfl, -⟩ := front_gap greedy spelled blank valid
              have inches := inches_kind part
              by_cases empty : gap = []
              · rw [ofBlanks, if_pos empty] at tidy
                have optional : separator = .optional := by
                  rw [empty] at admitted
                  cases separator with
                  | optional => rfl
                  | required => exact absurd admitted Bool.false_ne_true
                exact absurd (.adjacent inches optional)
                  (tidy _ (List.infix_append [] _ (others.map kind)))
              · rw [ofBlanks, if_neg empty] at tidy
                exact absurd (.apart inches) (tidy _ (List.infix_append [] _ (others.map kind)))
      | _ => trivial
  | blanks run =>
      cases rest with
      | nil => trivial
      | cons next others =>
          by_cases blanks : ∃ run, next = .blanks run
          · obtain ⟨other, rfl⟩ := blanks
            exact absurd .blanks (tidy _ (List.infix_append [] _ (others.map kind)))
          · exact solid_stops greedy.1 (not_exists.mp blanks) (spell others)
  | _ => trivial

theorem greedy_iff_tidy {separator : Separator} {pieces : List Piece} :
    Greedy separator pieces ↔
      (∀ piece ∈ pieces, piece.Sound separator) ∧ Kind.Tidy separator (pieces.map kind) := by
  constructor
  · intro greedy
    refine ⟨?_, ?_⟩
    · intro piece member
      obtain ⟨front, behind, rfl⟩ := List.append_of_mem member
      exact (greedy_behind greedy).1
    · intro row inside
      obtain ⟨part, ⟨front, behind, rfl⟩, rfl⟩ := List.infix_map_iff.mp inside
      rw [List.append_assoc] at greedy
      exact greedy_no_merge (greedy_behind greedy)
  · intro ⟨sound, tidy⟩
    induction pieces with
    | nil => trivial
    | cons piece rest ih =>
        obtain ⟨first, others⟩ := List.forall_mem_cons.mp sound
        have greedy := ih others (Kind.tidy_behind tidy)
        exact ⟨first, tidy_ends greedy tidy, greedy⟩

end Piece

end TapeMeasure
