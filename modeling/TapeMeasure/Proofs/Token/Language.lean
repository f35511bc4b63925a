import Mathlib.Logic.ExistsUnique
import TapeMeasure.Proofs.Token.Item

/- What a scan accepts. The pieces of a text are made of its items: a run of blanks of single
   blanks, feet and inches of two literals and the blanks between them. In the other direction the
   items in front of pieces join them, and the pieces are again as long as they can be. -/
set_option autoImplicit false

namespace TapeMeasure

namespace Scannable

theorem literal {separator : Separator} {read : Literal} {rest : Text}
    (valid : read.WellFormed separator) (valued : read.HasValue) (behind : Scannable rest) :
    Scannable (read.spelling ++ rest) := by
  cases read with
  | feetOnly feet => exact .item (.literal trivial valid valued) behind
  | inchesOnly part => exact .item (.literal trivial valid valued) behind
  | fractionOnly fraction => exact .item (.literal trivial valid valued) behind
  | feetInches feet gap part =>
      obtain ⟨group, blank, -, inches⟩ := valid
      obtain ⟨feetValued, inchesValued⟩ := Literal.feet_inches_value.mp valued
      have second : Item (Literal.inchesOnly part).spelling := .literal trivial inches inchesValued
      have first : Item (Literal.feetOnly feet).spelling := .literal trivial group feetValued
      have row := Scannable.item first (blanks blank (.item second behind))
      simpa [Literal.spelling] using row

mutual
theorem of_sound {separator : Separator} (piece : Piece) (sound : piece.Sound separator)
    {rest : Text} (behind : Scannable rest) : Scannable (piece.spelling ++ rest) := by
  cases piece with
  | literal read => exact literal sound.1 sound.2 behind
  | blanks run => exact blanks sound.2 behind
  | plus => exact .item .plus behind
  | minus => exact .item .minus behind
  | group inner =>
      have inside := of_greedy inner sound
      have row := Scannable.group inside behind
      simpa [Piece.spelling] using row
theorem of_greedy {separator : Separator} (pieces : List Piece)
    (greedy : Piece.Greedy separator pieces) : Scannable (Piece.spell pieces) := by
  cases pieces with
  | nil => exact .nil
  | cons piece rest =>
      obtain ⟨sound, -, others⟩ := greedy
      exact of_sound piece sound (of_greedy rest others)
end

end Scannable

namespace Piece

-- Pieces of one level with this text.
def Spelled (separator : Separator) (text : Text) : Prop :=
  ∃ pieces, Greedy separator pieces ∧ spell pieces = text

theorem solid_stops {separator : Separator} {piece : Piece} (sound : piece.Sound separator)
    (solid : ∀ run, piece ≠ .blanks run) (rest : Text) :
    Text.Stops Text.isBlank (piece.spelling ++ rest) := by
  cases piece with
  | literal read => exact Literal.spelling_stops sound.1 rest
  | blanks run => exact absurd rfl (solid run)
  | plus => rfl
  | minus => rfl
  | group inner => rfl

theorem spelled_blank {separator : Separator} {c : Char} {text : Text}
    (blank : Text.isBlank c = true) (behind : Spelled separator text) :
    Spelled separator (c :: text) := by
  obtain ⟨pieces, greedy, rfl⟩ := behind
  have single : Text.AllBlank [c] := List.forall_mem_singleton.mpr blank
  cases pieces with
  | nil => exact ⟨[.blanks [c]], ⟨⟨nofun, single⟩, trivial, trivial⟩, rfl⟩
  | cons piece rest =>
      obtain ⟨sound, ends, others⟩ := greedy
      by_cases run : ∃ run, piece = .blanks run
      · obtain ⟨run, rfl⟩ := run
        have longer : Text.AllBlank (c :: run) := List.forall_mem_cons.mpr ⟨blank, sound.2⟩
        exact ⟨.blanks (c :: run) :: rest, ⟨⟨nofun, longer⟩, ends, others⟩, rfl⟩
      · have stop := solid_stops sound (not_exists.mp run) (spell rest)
        exact ⟨.blanks [c] :: piece :: rest, ⟨⟨nofun, single⟩, stop, sound, ends, others⟩, rfl⟩

-- Feet take the inches behind them, if there are any to take.
theorem spelled_feet {separator : Separator} {feet text : Text}
    (sound : (Piece.literal (.feetOnly feet)).Sound separator)
    (behind : Spelled separator text) :
    Spelled separator ((Literal.feetOnly feet).spelling ++ text) := by
  obtain ⟨pieces, greedy, rfl⟩ := behind
  cases found : Literal.readInches separator (spell pieces) with
  | none => exact ⟨.literal (.feetOnly feet) :: pieces, ⟨sound, found, greedy⟩, rfl⟩
  | some cut =>
      obtain ⟨gap, part, rest⟩ := cut
      obtain ⟨spelled, blank, admitted, valid⟩ := Literal.read_inches_iff.mp found
      obtain ⟨others, rfl, -⟩ := front_gap greedy spelled blank valid
      obtain ⟨inches, -, greedyOthers⟩ := greedy_behind greedy
      have joined : (Piece.literal (.feetInches feet gap part)).Sound separator :=
        ⟨⟨sound.1, blank, admitted, valid⟩, Literal.feet_inches_value.mpr ⟨sound.2, inches.2⟩⟩
      refine ⟨.literal (.feetInches feet gap part) :: others, ⟨joined, trivial, greedyOthers⟩, ?_⟩
      rw [spell_of_blanks]
      simp [spell, spelling, Literal.spelling]

theorem spelled_item {separator : Separator} {item text : Text} (front : Item item)
    (behind : Spelled separator text) : Spelled separator (item ++ text) := by
  cases front with
  | blank blank => exact spelled_blank blank behind
  | plus =>
      obtain ⟨pieces, greedy, rfl⟩ := behind
      exact ⟨.plus :: pieces, ⟨trivial, trivial, greedy⟩, rfl⟩
  | minus =>
      obtain ⟨pieces, greedy, rfl⟩ := behind
      exact ⟨.minus :: pieces, ⟨trivial, trivial, greedy⟩, rfl⟩
  | @literal read single valid valued =>
      cases read with
      | feetOnly feet => exact spelled_feet ⟨valid, valued⟩ behind
      | inchesOnly part =>
          obtain ⟨pieces, greedy, rfl⟩ := behind
          exact ⟨.literal (.inchesOnly part) :: pieces, ⟨⟨valid, valued⟩, trivial, greedy⟩, rfl⟩
      | fractionOnly fraction =>
          obtain ⟨pieces, greedy, rfl⟩ := behind
          exact ⟨.literal (.fractionOnly fraction) :: pieces, ⟨⟨valid, valued⟩, trivial, greedy⟩, rfl⟩
      | feetInches feet gap part => exact absurd single id

theorem spelled_scannable (separator : Separator) {text : Text} (scannable : Scannable text) :
    Spelled separator text := by
  induction scannable with
  | nil => exact ⟨[], trivial, rfl⟩
  | item front behind ih => exact spelled_item front ih
  | group inside behind innerSpelled restSpelled =>
      obtain ⟨inner, greedy, rfl⟩ := innerSpelled
      obtain ⟨rest, greedyRest, rfl⟩ := restSpelled
      exact ⟨.group inner :: rest, ⟨greedy, trivial, greedyRest⟩, by simp [spell, spelling]⟩

end Piece

-- Brackets are balanced and nested at most 32 deep, and everything between them is made of items.
def Acceptable (text : Text) : Prop :=
  Nesting.Balanced text ∧ Nesting.peak 0 text ≤ 32 ∧
    ∀ segment ∈ Nesting.segments text, ∃ items, Item.Spells items segment

theorem scans_iff (separator : Separator) (text : Text) :
    (∃ tokens, tokenize separator text = .ok tokens) ↔ Acceptable text := by
  constructor
  · intro ⟨tokens, scanned⟩
    obtain ⟨pieces, greedy, shallow, rfl, -⟩ := Piece.tokenize_iff.mp scanned
    have bound := (Piece.greedy_excess greedy).mpr shallow
    have scannable := Scannable.of_greedy pieces greedy
    exact ⟨scannable.balanced, (Nesting.excess_none_iff _).mp bound, scannable.segments⟩
  · intro ⟨balanced, bound, parts⟩
    obtain ⟨pieces, greedy, rfl⟩ :=
      Piece.spelled_scannable separator (Scannable.of_segments text balanced parts)
    have shallow := (Piece.greedy_excess greedy).mp ((Nesting.excess_none_iff _).mpr bound)
    exact ⟨_, Piece.tokenize_iff.mpr ⟨pieces, greedy, shallow, rfl, rfl⟩⟩

theorem tokenize_ok_iff_acceptable (separator : Separator) (text : Text) :
    ((∃ tokens, tokenize separator text = .ok tokens) ↔ Acceptable text) ∧
      ((∃ cause : ParseError, tokenize separator text = .error cause) ↔ ¬ Acceptable text) ∧
      ∀ segment, (∃ items, Item.Spells items segment) ↔ ∃! items, Item.Spells items segment := by
  refine ⟨scans_iff separator text, ?_, ?_⟩
  · rw [← scans_iff separator text]
    cases tokenize separator text with
    | error cause => simp
    | ok tokens => simp
  · intro segment
    constructor
    · intro ⟨items, spells⟩
      exact ⟨items, spells, fun others other => Item.spells_unique other spells⟩
    · exact fun unique => unique.exists

end TapeMeasure
