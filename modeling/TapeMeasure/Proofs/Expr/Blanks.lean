import TapeMeasure.Proofs.Expr.Outcome
import TapeMeasure.Proofs.Token.Front

/- Blanks where none are required. The pieces of a text without its blanks are those of the text,
   less the blanks between them and within them: no two pieces are joined by it, and none falls
   apart. What is left has the same outcome, so texts that differ only in blanks have it too. -/
set_option autoImplicit false

namespace TapeMeasure

namespace Text

-- The text without its blanks.
def dense (cs : Text) : Text := cs.filter fun c => !isBlank c

theorem dense_append (front rest : Text) : dense (front ++ rest) = dense front ++ dense rest :=
  List.filter_append front rest

theorem dense_blanks {run : Text} (blank : AllBlank run) : dense run = [] := by
  apply List.filter_eq_nil_iff.mpr
  intro c member
  simp [blank c member]

theorem dense_of_solid {cs : Text} (solid : ∀ c ∈ cs, isBlank c = false) : dense cs = cs := by
  apply List.filter_eq_self.mpr
  intro c member
  simp [solid c member]

theorem blank_front_dense {gap rest cs : Text} (blank : AllBlank gap)
    (spelled : dense cs = gap ++ rest) : gap = [] := by
  cases gap with
  | nil => rfl
  | cons c run =>
      have member : c ∈ dense cs := by simp [spelled]
      have solid := (List.mem_filter.mp member).2
      rw [blank c List.mem_cons_self] at solid
      exact absurd solid (by decide)

theorem digits_solid {digits : Text} (group : DigitGroup digits) :
    ∀ c ∈ digits, isBlank c = false :=
  fun c member => digit_not_blank c (group.2 c member)

end Text

namespace Fraction

theorem spelling_solid {fraction : Fraction} (valid : fraction.WellFormed) :
    ∀ c ∈ fraction.spelling, Text.isBlank c = false := by
  rw [spelling, List.append_assoc, List.forall_mem_append, List.cons_append, List.forall_mem_cons,
    List.forall_mem_append, List.forall_mem_singleton]
  exact ⟨Text.digits_solid valid.1, rfl, Text.digits_solid valid.2, rfl⟩

end Fraction

namespace InchPart

theorem spelling_solid {part : InchPart} (valid : part.WellFormed) :
    ∀ c ∈ part.spelling, Text.isBlank c = false := by
  cases part with
  | whole inches =>
      rw [spelling, List.forall_mem_append, List.forall_mem_singleton]
      exact ⟨Text.digits_solid valid.1, rfl⟩
  | mixed inches fraction =>
      rw [spelling, List.forall_mem_append, List.forall_mem_cons]
      exact ⟨Text.digits_solid valid.1, rfl, Fraction.spelling_solid (valid.2 fraction rfl)⟩

end InchPart

namespace Literal

def dense : Literal → Literal
  | .feetInches feet _ part => .feetInches feet [] part
  | read => read

theorem dense_kind (read : Literal) : read.kind = read.dense.kind := by
  cases read with
  | feetInches feet gap part => cases part <;> rfl
  | _ => rfl

theorem dense_worth (read : Literal) : read.worth = read.dense.worth := by
  cases read <;> rfl

theorem dense_has_value {read : Literal} (valued : read.HasValue) : read.dense.HasValue := by
  cases read with
  | feetInches feet gap part => exact ⟨valued.readable, valued.nonzero⟩
  | _ => exact valued

theorem dense_well_formed {read : Literal} (valid : read.WellFormed .optional) :
    read.dense.WellFormed .optional := by
  cases read with
  | feetInches feet gap part => exact ⟨valid.1, nofun, rfl, valid.2.2.2⟩
  | _ => exact valid

theorem dense_spelling {separator : Separator} {read : Literal}
    (valid : read.WellFormed separator) : read.dense.spelling = Text.dense read.spelling := by
  cases read with
  | feetOnly feet =>
      have solid : ∀ c ∈ feet ++ ['\''], Text.isBlank c = false := by
        rw [List.forall_mem_append, List.forall_mem_singleton]
        exact ⟨Text.digits_solid valid, rfl⟩
      exact (Text.dense_of_solid solid).symm
  | inchesOnly part => exact (Text.dense_of_solid (InchPart.spelling_solid valid)).symm
  | fractionOnly fraction => exact (Text.dense_of_solid (Fraction.spelling_solid valid)).symm
  | feetInches feet gap part =>
      obtain ⟨group, blank, -, inches⟩ := valid
      have mark : ∀ c ∈ ['\''], Text.isBlank c = false := List.forall_mem_singleton.mpr rfl
      have spelled : (feetInches feet gap part).spelling =
          feet ++ (['\''] ++ (gap ++ part.spelling)) := by
        simp [spelling]
      rw [spelled, Text.dense_append, Text.dense_append, Text.dense_append,
        Text.dense_of_solid (Text.digits_solid group), Text.dense_of_solid mark,
        Text.dense_blanks blank, Text.dense_of_solid (InchPart.spelling_solid inches)]
      simp [dense, spelling]

end Literal

namespace Piece

mutual
def dense : Piece → List Piece
  | .literal read => [.literal read.dense]
  | .blanks _ => []
  | .plus => [.plus]
  | .minus => [.minus]
  | .group inner => [.group (denseAll inner)]
def denseAll : List Piece → List Piece
  | [] => []
  | piece :: rest => piece.dense ++ denseAll rest
end

mutual
theorem dense_spell {separator : Separator} (piece : Piece) (sound : piece.Sound separator) :
    spell piece.dense = Text.dense piece.spelling := by
  cases piece with
  | literal read =>
      rw [dense, spell, spell, List.append_nil, spelling, spelling, Literal.dense_spelling sound.1]
  | blanks run => exact (Text.dense_blanks sound.2).symm
  | plus => rfl
  | minus => rfl
  | group inner =>
      have inside := dense_all_spell inner sound
      have opening : Text.dense ['('] = ['('] := rfl
      have closing : Text.dense [')'] = [')'] := rfl
      have spelled : (group inner).spelling = ['('] ++ spell inner ++ [')'] := rfl
      rw [spelled, Text.dense_append, Text.dense_append, opening, closing, ← inside]
      simp [dense, spell, spelling]
theorem dense_all_spell {separator : Separator} (pieces : List Piece)
    (greedy : Greedy separator pieces) : spell (denseAll pieces) = Text.dense (spell pieces) := by
  cases pieces with
  | nil => rfl
  | cons piece rest =>
      obtain ⟨sound, -, others⟩ := greedy
      rw [denseAll, spell_append, dense_spell piece sound, dense_all_spell rest others, spell,
        Text.dense_append]
end

mutual
theorem dense_deepest (piece : Piece) : deepest piece.dense = piece.depth := by
  cases piece with
  | group inner =>
      rw [dense, deepest, depth, dense_all_deepest inner, deepest, depth]
      omega
  | _ => rfl
theorem dense_all_deepest (pieces : List Piece) : deepest (denseAll pieces) = deepest pieces := by
  cases pieces with
  | nil => rfl
  | cons piece rest =>
      rw [denseAll, deepest_append, dense_deepest piece, dense_all_deepest rest, deepest]
end

-- Inches in front of the dense pieces had at most blanks in front of them before.
theorem dense_front_inches {pieces others : List Piece} {part : InchPart}
    (greedy : Greedy .optional pieces)
    (front : denseAll pieces = .literal (.inchesOnly part) :: others) :
    ∃ gap behind, Text.AllBlank gap ∧ spell pieces = gap ++ (part.spelling ++ behind) := by
  induction pieces with
  | nil => exact absurd front nofun
  | cons piece rest ih =>
      obtain ⟨sound, -, greedyRest⟩ := greedy
      cases piece with
      | literal read =>
          have same := Piece.literal.inj (List.cons.inj front).1
          cases read with
          | inchesOnly other =>
              obtain rfl := Literal.inchesOnly.inj same
              exact ⟨[], spell rest, nofun, rfl⟩
          | _ => exact absurd same nofun
      | blanks run =>
          obtain ⟨gap, behind, blank, spelled⟩ := ih greedyRest front
          refine ⟨run ++ gap, behind, List.forall_mem_append.mpr ⟨sound.2, blank⟩, ?_⟩
          rw [spell, spelling, spelled, List.append_assoc]
      | plus => exact absurd (List.cons.inj front).1 nofun
      | minus => exact absurd (List.cons.inj front).1 nofun
      | group inner => exact absurd (List.cons.inj front).1 nofun

theorem dense_read_inches {pieces : List Piece} (greedy : Greedy .optional pieces)
    (denseGreedy : Greedy .optional (denseAll pieces))
    (absent : Literal.readInches .optional (spell pieces) = none) :
    Literal.readInches .optional (spell (denseAll pieces)) = none := by
  cases found : Literal.readInches .optional (spell (denseAll pieces)) with
  | none => rfl
  | some cut =>
      obtain ⟨gap, part, rest⟩ := cut
      obtain ⟨spelled, blank, -, valid⟩ := Literal.read_inches_iff.mp found
      have nothing := Text.blank_front_dense blank
        ((dense_all_spell pieces greedy).symm.trans spelled)
      rw [nothing, List.nil_append] at spelled
      obtain ⟨others, front, -⟩ := front_inches denseGreedy spelled valid
      obtain ⟨run, behind, allBlank, same⟩ := dense_front_inches greedy front
      have also : Literal.readInches .optional (spell pieces) = some (run, part, behind) :=
        Literal.read_inches_iff.mpr ⟨same, allBlank, rfl, valid⟩
      rw [absent] at also
      exact absurd also nofun

theorem dense_all_greedy (pieces : List Piece) (greedy : Greedy .optional pieces) :
    Greedy .optional (denseAll pieces) := by
  cases pieces with
  | nil => trivial
  | cons piece rest =>
      obtain ⟨sound, ends, others⟩ := greedy
      have denseRest := dense_all_greedy rest others
      cases piece with
      | literal read =>
          refine ⟨⟨Literal.dense_well_formed sound.1, Literal.dense_has_value sound.2⟩, ?_, denseRest⟩
          cases read with
          | feetOnly feet => exact dense_read_inches others denseRest ends
          | _ => trivial
      | blanks run => exact denseRest
      | plus => exact ⟨trivial, trivial, denseRest⟩
      | minus => exact ⟨trivial, trivial, denseRest⟩
      | group inner => exact ⟨dense_all_greedy inner sound, trivial, denseRest⟩

theorem dense_all_alike (pieces : List Piece) : AlikeLevel pieces (denseAll pieces) := by
  cases pieces with
  | nil => exact fun i j => .nil
  | cons piece rest =>
      have others := dense_all_alike rest
      cases piece with
      | literal read =>
          exact alike_cons id id (alike_literal read.dense_kind read.dense_worth) others
      | blanks run => exact alike_blanks others
      | plus => exact alike_cons id id (alike_self .plus) others
      | minus => exact alike_cons id id (alike_self .minus) others
      | group inner => exact alike_cons id id (alike_group (dense_all_alike inner)) others

end Piece

theorem measure_dense {text : Text} {tokens : List Token}
    (scanned : tokenize .optional text = .ok tokens) :
    (∃ others, tokenize .optional (Text.dense text) = .ok others) ∧
      outcome (measure .optional text) = outcome (measure .optional (Text.dense text)) := by
  obtain ⟨pieces, greedy, shallow, rfl, -⟩ := Piece.tokenize_iff.mp scanned
  have denseGreedy := Piece.dense_all_greedy pieces greedy
  have denseShallow : Piece.deepest (Piece.denseAll pieces) ≤ Nesting.maxDepth := by
    rw [Piece.dense_all_deepest]
    exact shallow
  rw [← Piece.dense_all_spell pieces greedy]
  refine ⟨⟨_, Piece.tokenize_iff.mpr ⟨_, denseGreedy, denseShallow, rfl, rfl⟩⟩, ?_⟩
  exact outcome_pieces greedy shallow denseGreedy denseShallow (Piece.dense_all_alike pieces)

-- Under the other separator a blank between feet and inches does matter.
theorem blanks_do_not_matter :
    (∀ first second firstTokens secondTokens, tokenize .optional first = .ok firstTokens →
      tokenize .optional second = .ok secondTokens → Text.dense first = Text.dense second →
        outcome (measure .optional first) = outcome (measure .optional second)) ∧
      ∀ text tokens, tokenize .optional text = .ok tokens →
        ∃ others, tokenize .optional (Text.dense text) = .ok others := by
  refine ⟨?_, fun text tokens scanned => (measure_dense scanned).1⟩
  intro first second firstTokens secondTokens firstScanned secondScanned same
  rw [(measure_dense firstScanned).2, (measure_dense secondScanned).2, same]

theorem foot_and_two_without_blanks :
    tokenize .optional "1' 2\"".toList =
        .ok [.literal .feetInches 0 "1' 2\"".toList ⟨14, 0⟩] ∧
      tokenize .optional "1'2\" ".toList =
        .ok [.literal .feetInches 0 "1'2\"".toList ⟨14, 0⟩, .bare .whitespace 4 [' ']] ∧
      outcome (measure .optional "1' 2\"".toList) =
        outcome (measure .optional "1'2\" ".toList) ∧
      ∃ others, tokenize .optional "1'2\"".toList = .ok others := by
  have one : Text.DigitGroup ['1'] := by decide
  have two : InchPart.WellFormed (.whole ['2']) := ⟨by decide, nofun⟩
  have sound (gap : Text) (blank : Text.AllBlank gap) :
      (Piece.literal (.feetInches ['1'] gap (.whole ['2']))).Sound .optional :=
    ⟨⟨one, blank, rfl, two⟩, Literal.feet_inches_value.mpr ⟨⟨by decide, nofun⟩, ⟨by decide, nofun⟩⟩⟩
  have spaced : Piece.Greedy .optional [.literal (.feetInches ['1'] [' '] (.whole ['2']))] :=
    ⟨sound [' '] Text.space_blank, trivial, trivial⟩
  have tight : Piece.Greedy .optional
      [.literal (.feetInches ['1'] [] (.whole ['2'])), .blanks [' ']] :=
    ⟨sound [] nofun, trivial, ⟨nofun, Text.space_blank⟩, trivial, trivial⟩
  have first : tokenize .optional "1' 2\"".toList =
      .ok [.literal .feetInches 0 "1' 2\"".toList ⟨14, 0⟩] :=
    Piece.tokenize_iff.mpr ⟨_, spaced, by decide, rfl, rfl⟩
  have second : tokenize .optional "1'2\" ".toList =
      .ok [.literal .feetInches 0 "1'2\"".toList ⟨14, 0⟩, .bare .whitespace 4 [' ']] :=
    Piece.tokenize_iff.mpr ⟨_, tight, by decide, rfl, rfl⟩
  obtain ⟨same, closed⟩ := blanks_do_not_matter
  exact ⟨first, second, same _ _ _ _ first second (by decide), closed _ _ first⟩

end TapeMeasure
