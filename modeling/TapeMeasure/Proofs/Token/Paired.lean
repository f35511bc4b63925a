import TapeMeasure.Proofs.Token.Partner
import TapeMeasure.Proofs.Token.Stop

/- The scan by the table beside the scan that searches. The text inside a pair of brackets is
   balanced, so the partner of a bracket in it stands in it too and is the one that a search finds,
   and no bracket in it is without a partner. Brackets without one are met outside of all groups. -/
set_option autoImplicit false

namespace TapeMeasure

namespace Nesting

-- The pass fails where the search for too deep a nesting stops, and nowhere else.
inductive Agrees : Option (Nat × Text) → Except ParseError Pairs → Prop where
  | deep (place : Nat) (rest : Text) :
      Agrees (some (place, rest)) (.error ⟨.tooDeep, place, rest⟩)
  | made (table : Pairs) : Agrees none (.ok table)

theorem Agrees.map {excess : Option (Nat × Text)} {result : Except ParseError Pairs}
    (agrees : Agrees excess result) (f : Pairs → Pairs) : Agrees excess (result.map f) := by
  cases agrees with
  | deep place rest => exact .deep place rest
  | made table => exact .made (f table)

-- `outer` is the text from the outermost bracket on the stack. While the stack is empty it may be
-- anything, as the bracket that is opened next is the outermost one.
theorem pair_from_agrees {text cs outer : Text} {position : Nat} {stack : List Nat}
    (here : text.drop position = cs)
    (outermost : ∀ opening, stack.getLast? = some opening → text.drop opening = outer) :
    Agrees (excessFrom stack.length position outer cs) (pairFrom text position stack cs) := by
  induction cs generalizing position stack outer with
  | nil => exact .made []
  | cons c rest ih =>
      have behind : text.drop (position + 1) = rest := by
        rw [List.drop_add_one_eq_tail_drop, here, List.tail_cons]
      rw [excessFrom]
      by_cases bracket : c = '('
      · subst bracket
        rw [if_pos rfl]
        by_cases full : stack.length = maxDepth
        · obtain ⟨opening, last⟩ : ∃ opening, stack.getLast? = some opening := by
            cases stack with
            | nil => exact absurd full (by decide)
            | cons inner others => exact ⟨_, List.getLast?_eq_some_getLast (by simp)⟩
          have shown : text.drop (stack.getLastD 0) = outer := by
            rw [List.getLastD_eq_getLast?, last]
            exact outermost opening last
          rw [if_pos full, pair_from_full _ _ _ full, shown]
          exact .deep position outer
        · rw [if_neg full, pair_from_open _ _ _ full]
          refine @ih _ _ (position :: stack) behind fun opening last => ?_
          cases stack with
          | nil =>
              obtain rfl := Option.some.inj last
              exact here
          | cons inner others => exact outermost opening (List.getLast?_cons_cons.symm.trans last)
      · rw [if_neg bracket]
        by_cases mark : c = ')'
        · subst mark
          rw [if_pos rfl]
          cases stack with
          | nil => exact @ih _ _ [] behind fun _ last => absurd last.symm (Option.some_ne_none _)
          | cons inner others =>
              rw [pair_from_close]
              apply Agrees.map
              refine @ih _ _ others behind fun opening last => ?_
              cases others with
              | nil => exact absurd last.symm (Option.some_ne_none _)
              | cons next more => exact outermost opening (List.getLast?_cons_cons.trans last)
        · rw [if_neg mark, pair_from_other _ _ _ bracket mark]
          exact ih behind outermost

theorem pairs_agrees (text : Text) : Agrees (excess text) (pairs text) :=
  @pair_from_agrees text text [] 0 [] rfl fun _ last => absurd last.symm (Option.some_ne_none _)

end Nesting

theorem Lexeme.read_open (separator : Separator) (rest : Text) :
    read separator '(' rest =
      match Nesting.interior rest with
      | some (inner, after) => .ok (.group inner, after)
      | none => .error .unbalanced := by
  have noLiteral : Literal.read separator ('(' :: rest) = none := Literal.read_none_of_stops rfl
  simp only [read, noLiteral]
  rfl

theorem Lexeme.read_open_ok {separator : Separator} {rest after : Text} {lexeme : Lexeme}
    (found : read separator '(' rest = .ok (lexeme, after)) :
    ∃ inner, lexeme = .group inner ∧ Nesting.interior rest = some (inner, after) := by
  rw [read_open] at found
  cases interior : Nesting.interior rest with
  | none =>
      rw [interior] at found
      exact absurd found nofun
  | some cut =>
      rw [interior] at found
      obtain ⟨rfl, rfl⟩ := Prod.mk.inj (Except.ok.inj found)
      exact ⟨cut.1, rfl, rfl⟩

namespace Token

theorem group_inside (position : Nat) (inner after : Text) :
    (inner ++ ')' :: after).take (position + 1 + inner.length - (position + 1)) = inner := by
  rw [Nat.add_sub_cancel_left, List.take_left]

theorem group_behind (position : Nat) (inner after : Text) :
    (inner ++ ')' :: after).drop (position + 1 + inner.length - position) = after := by
  have steps : position + 1 + inner.length - position = (inner ++ [')']).length := by
    rw [List.length_append, List.length_singleton]
    omega
  rw [steps, List.append_cons inner ')' after, List.drop_left]

theorem group_end (position : Nat) (inner : Text) :
    position + ('(' :: inner ++ [')']).length = position + 1 + inner.length + 1 := by
  rw [List.length_append, List.length_cons, List.length_singleton]
  omega

section Steps

variable {separator : Separator} {table : Nesting.Pairs} {position : Nat}

theorem scan_paired_nil : scanPaired separator table position [] = .ok [] := by
  rw [scanPaired]

theorem scan_paired_lone {rest : Text} (alone : table.lookup position = none) :
    scanPaired separator table position ('(' :: rest) =
      .error ⟨.stuck .unbalanced, position, '(' :: rest⟩ := by
  rw [scanPaired, if_pos rfl, alone]

theorem scan_paired_group {inner after : Text}
    (partner : table.lookup position = some (position + 1 + inner.length)) :
    scanPaired separator table position ('(' :: (inner ++ ')' :: after)) = do
      let nodes ← scanPaired separator table (position + 1) inner
      let tokens ← scanPaired separator table (position + 1 + inner.length + 1) after
      return group position ('(' :: inner ++ [')']) nodes :: tokens := by
  have inside : ¬ position + ('(' :: (inner ++ ')' :: after)).length ≤
      position + 1 + inner.length := by
    rw [List.length_cons, List.length_append, List.length_cons]
    omega
  have more : position + 1 + inner.length + 1 - position = (inner ++ [')']).length + 1 := by
    rw [List.length_append, List.length_singleton]
    omega
  have spelled :
      ('(' :: (inner ++ ')' :: after)).take (position + 1 + inner.length + 1 - position) =
        '(' :: inner ++ [')'] := by
    rw [more, List.take_succ_cons, List.append_cons inner ')' after, List.take_left]
    rfl
  rw [scanPaired, if_pos rfl, partner]
  simp only [if_neg inside, group_inside, group_behind, spelled]
  cases scanPaired separator table (position + 1) inner with
  | error cause => rfl
  | ok nodes => cases scanPaired separator table (position + 1 + inner.length + 1) after <;> rfl

theorem scan_paired_stuck {c : Char} {rest : Text} {cause : Lexeme.Stuck} (other : c ≠ '(')
    (found : Lexeme.read separator c rest = .error cause) :
    scanPaired separator table position (c :: rest) =
      .error ⟨.stuck cause, position, c :: rest⟩ := by
  rw [scanPaired, if_neg other]
  split <;> simp_all

theorem scan_paired_lexeme {c : Char} {rest after : Text} {lexeme : Lexeme} (other : c ≠ '(')
    (found : Lexeme.read separator c rest = .ok (lexeme, after)) :
    scanPaired separator table position (c :: rest) = do
      let token ← ofLexeme separator position lexeme
      let tokens ← scanPaired separator table (position + lexeme.spelling.length) after
      return token :: tokens := by
  rw [scanPaired, if_neg other]
  split
  · simp_all
  · rename_i token tail read
    rw [found] at read
    obtain ⟨rfl, rfl⟩ := Prod.mk.inj (Except.ok.inj read)
    cases ofLexeme separator position lexeme with
    | error cause => rfl
    | ok token =>
        cases scanPaired separator table (position + lexeme.spelling.length) after <;> rfl

end Steps

-- The rest of a level where it stands in the text, inside so many groups. The outermost level ends
-- with the text, and what is left of a group is balanced.
structure LevelAt (text : Text) (depth position : Nat) (cs front behind : Text) : Prop where
  spelled : text = front ++ (cs ++ behind)
  place : position = front.length
  outside : depth = 0 → behind = []
  inside : 0 < depth → Nesting.Balanced cs

section LevelAt

variable {text front behind cs spelling after inner : Text} {depth position : Nat}

theorem level_start (text : Text) : LevelAt text 0 0 text [] [] :=
  ⟨(List.append_nil text).symm, rfl, fun _ => rfl, fun inside => absurd inside (Nat.lt_irrefl 0)⟩

theorem level_on (level : LevelAt text depth position (spelling ++ after) front behind)
    (balanced : Nesting.Balanced spelling) :
    LevelAt text depth (position + spelling.length) after (front ++ spelling) behind := by
  constructor
  case spelled => rw [level.spelled, List.append_assoc, List.append_assoc]
  case place => rw [level.place, List.length_append]
  case outside => exact level.outside
  case inside => exact fun inside => Nesting.balanced_behind balanced (level.inside inside)

theorem level_into
    (level : LevelAt text depth position ('(' :: (inner ++ ')' :: after)) front behind)
    (balanced : Nesting.Balanced inner) :
    LevelAt text (depth + 1) (position + 1) inner (front ++ ['(']) (')' :: after ++ behind) := by
  constructor
  case spelled => simp [level.spelled]
  case place => rw [level.place, List.length_append, List.length_singleton]
  case outside => exact fun outside => absurd outside nofun
  case inside => exact fun _ => balanced

theorem level_past
    (level : LevelAt text depth position ('(' :: (inner ++ ')' :: after)) front behind)
    (balanced : Nesting.Balanced inner) :
    LevelAt text depth (position + 1 + inner.length + 1) after
      (front ++ ('(' :: inner ++ [')'])) behind := by
  have spelled : '(' :: (inner ++ ')' :: after) = ('(' :: inner ++ [')']) ++ after := by simp
  rw [spelled] at level
  rw [← group_end]
  exact level_on level (Nesting.balanced_group balanced)

-- The table has for a bracket the one that closes it in the rest of its level.
theorem level_partner {table : Nesting.Pairs} {rest : Text} (made : Nesting.pairs text = .ok table)
    (level : LevelAt text depth position ('(' :: rest) front behind) (close : Nat) :
    table.lookup position = some close ↔
      ∃ inner after, rest = inner ++ ')' :: after ∧ Nesting.Balanced inner ∧
        close = position + 1 + inner.length := by
  rw [Nesting.lookup_pairs made, Nesting.partners_enclose]
  constructor
  · rintro ⟨before, inner, later, spelled, balanced, place, rfl⟩
    rw [level.spelled, Nesting.enclose] at spelled
    obtain ⟨-, rests⟩ := List.append_inj spelled (level.place.symm.trans place)
    have cut : rest ++ behind = inner ++ ')' :: later := (List.cons.inj rests).2
    cases Nat.eq_zero_or_pos depth with
    | inl outside =>
        rw [level.outside outside, List.append_nil] at cut
        exact ⟨inner, later, cut, balanced, rfl⟩
    | inr inside =>
        -- The level ends before the text does, but what is left of it closes the bracket.
        obtain ⟨own, after, rfl, ownBalanced, -⟩ := Nesting.balanced_open (level.inside inside)
        rw [List.append_assoc, List.cons_append] at cut
        obtain ⟨rfl, -⟩ := Nesting.balanced_cut ownBalanced balanced cut
        exact ⟨own, after, rfl, ownBalanced, rfl⟩
  · rintro ⟨inner, after, rfl, balanced, rfl⟩
    refine ⟨front, inner, after ++ behind, ?_, balanced, level.place, rfl⟩
    simp [level.spelled, Nesting.enclose]

end LevelAt

-- By induction on the length of what is left of the level. Only at an opening bracket do the two
-- scans differ, and there the table and the search agree.
theorem scan_paired_scan (separator : Separator) {text : Text} {table : Nesting.Pairs}
    (made : Nesting.pairs text = .ok table) :
    ∀ (depth position : Nat) (cs front behind : Text), LevelAt text depth position cs front behind →
      scanPaired separator table position cs = scan separator position cs
  | depth, position, [], front, behind, level => by rw [scan_paired_nil, scan_nil]
  | depth, position, c :: rest, front, behind, level => by
      by_cases bracket : c = '('
      · subst bracket
        have partner := level_partner made level
        cases interior : Nesting.interior rest with
        | none =>
            have found : Lexeme.read separator '(' rest = .error .unbalanced := by
              rw [Lexeme.read_open, interior]
            have alone : table.lookup position = none := by
              refine Option.eq_none_iff_forall_ne_some.mpr fun close paired => ?_
              obtain ⟨inner, after, cut, balanced, -⟩ := (partner close).mp paired
              exact absurd (interior.symm.trans (Nesting.interior_iff.mpr ⟨cut, balanced⟩)) nofun
            rw [scan_paired_lone alone, scan_stuck position found]
        | some cut =>
            obtain ⟨inner, after⟩ := cut
            have found : Lexeme.read separator '(' rest = .ok (.group inner, after) := by
              rw [Lexeme.read_open, interior]
            obtain ⟨rfl, balanced⟩ := Nesting.interior_iff.mp interior
            have same := (partner _).mpr ⟨inner, after, rfl, balanced, rfl⟩
            have inside := scan_paired_scan separator made _ _ _ _ _ (level_into level balanced)
            have behindIt := scan_paired_scan separator made _ _ _ _ _ (level_past level balanced)
            rw [scan_paired_group same, scan_lexeme position found, ofLexeme, Lexeme.spelling,
              group_end, inside, behindIt]
            cases scan separator (position + 1) inner <;> rfl
      · cases found : Lexeme.read separator c rest with
        | error cause => rw [scan_paired_stuck bracket found, scan_stuck position found]
        | ok cut =>
            obtain ⟨lexeme, after⟩ := cut
            obtain ⟨spelled, valid, -⟩ := Lexeme.read_iff.mp found
            rw [spelled] at level
            have behindIt := scan_paired_scan separator made _ _ _ _ _
              (level_on level (Lexeme.spelling_balanced valid))
            rw [scan_paired_lexeme bracket found, scan_lexeme position found, behindIt]
termination_by _ _ cs => cs.length
decreasing_by
  · subst_vars
    exact Lexeme.read_group_shorter found
  · subst_vars
    exact Lexeme.read_shorter found
  · exact Lexeme.read_shorter found

-- The rests of levels that the scan by the table comes to, each inside so many groups.
inductive Met (separator : Separator) (text : Text) (table : Nesting.Pairs) :
    Nat → Nat → Text → Prop where
  | start : Met separator text table 0 0 text
  | on {depth position : Nat} {c : Char} {rest after : Text} {lexeme : Lexeme} {token : Token}
      (met : Met separator text table depth position (c :: rest)) (other : c ≠ '(')
      (found : Lexeme.read separator c rest = .ok (lexeme, after))
      (made : ofLexeme separator position lexeme = .ok token) :
      Met separator text table depth (position + lexeme.spelling.length) after
  | into {depth position close : Nat} {rest : Text}
      (met : Met separator text table depth position ('(' :: rest))
      (partner : table.lookup position = some close)
      (within : close < position + ('(' :: rest).length) :
      Met separator text table (depth + 1) (position + 1) (rest.take (close - (position + 1)))
  | past {depth position close : Nat} {rest : Text} {nodes : List Token}
      (met : Met separator text table depth position ('(' :: rest))
      (partner : table.lookup position = some close)
      (within : close < position + ('(' :: rest).length)
      (inside : scanPaired separator table (position + 1) (rest.take (close - (position + 1))) =
        .ok nodes) :
      Met separator text table depth (close + 1) (rest.drop (close - position))

theorem met_level {separator : Separator} {text cs : Text} {table : Nesting.Pairs}
    {depth position : Nat} (made : Nesting.pairs text = .ok table)
    (met : Met separator text table depth position cs) :
    ∃ front behind, LevelAt text depth position cs front behind := by
  induction met with
  | start => exact ⟨_, _, level_start text⟩
  | on met other found resolved ih =>
      obtain ⟨front, behind, level⟩ := ih
      obtain ⟨spelled, valid, -⟩ := Lexeme.read_iff.mp found
      rw [spelled] at level
      exact ⟨_, _, level_on level (Lexeme.spelling_balanced valid)⟩
  | into met partner within ih =>
      obtain ⟨front, behind, level⟩ := ih
      obtain ⟨inner, after, rfl, balanced, rfl⟩ := (level_partner made level _).mp partner
      rw [group_inside]
      exact ⟨_, _, level_into level balanced⟩
  | past met partner within inside ih =>
      obtain ⟨front, behind, level⟩ := ih
      obtain ⟨inner, after, rfl, balanced, rfl⟩ := (level_partner made level _).mp partner
      rw [group_behind]
      exact ⟨_, _, level_past level balanced⟩

end Token

theorem tokenize_paired (separator : Separator) (text : Text) :
    tokenizePaired separator text = tokenize separator text := by
  have agrees := Nesting.pairs_agrees text
  rw [tokenize, tokenizePaired]
  cases made : Nesting.pairs text with
  | error cause =>
      rw [made] at agrees
      generalize Nesting.excess text = excess at agrees
      cases agrees with
      | deep place rest => rfl
  | ok table =>
      rw [made] at agrees
      generalize Nesting.excess text = excess at agrees
      cases agrees with
      | made table =>
          exact Token.scan_paired_scan separator made 0 0 text [] [] (Token.level_start text)

namespace Token

variable {separator : Separator} {text : Text} {table : Nesting.Pairs} {depth position : Nat}

-- No partner stands behind the end of the level.
theorem met_within {rest : Text} {close : Nat} (made : Nesting.pairs text = .ok table)
    (met : Met separator text table depth position ('(' :: rest))
    (partner : table.lookup position = some close) : close < position + ('(' :: rest).length := by
  obtain ⟨front, behind, level⟩ := met_level made met
  obtain ⟨inner, after, rfl, -, rfl⟩ := (level_partner made level _).mp partner
  rw [List.length_cons, List.length_append, List.length_cons]
  omega

-- The scan comes to what stands behind each token that it makes.
theorem met_behind {c : Char} {rest after : Text} {lexeme : Lexeme} {token : Token}
    (made : Nesting.pairs text = .ok table)
    (met : Met separator text table depth position (c :: rest))
    (found : Lexeme.read separator c rest = .ok (lexeme, after))
    (resolved : ofLexeme separator position lexeme = .ok token) :
    Met separator text table depth (position + lexeme.spelling.length) after := by
  by_cases bracket : c = '('
  · subst bracket
    obtain ⟨inner, rfl, interior⟩ := Lexeme.read_open_ok found
    obtain ⟨rfl, balanced⟩ := Nesting.interior_iff.mp interior
    obtain ⟨nodes, scanned, -⟩ := Nesting.map_ok.mp resolved
    obtain ⟨front, behind, level⟩ := met_level made met
    have partner := (level_partner made level _).mpr ⟨inner, after, rfl, balanced, rfl⟩
    have inside := scan_paired_scan separator made _ _ _ _ _ (level_into level balanced)
    have past := Met.past met partner (met_within made met partner)
      (by rw [group_inside, inside, scanned])
    rw [group_behind] at past
    rw [Lexeme.spelling, group_end]
    exact past
  · exact .on met bracket found resolved

-- A bracket without a partner is found in the level that the scan is in, not inside of it.
theorem met_stop {cs : Text} {error : ParseError} (made : Nesting.pairs text = .ok table)
    (stops : StopsAt separator position cs error)
    (met : Met separator text table depth position cs) (unpaired : error.cause.Unpaired) :
    Met separator text table depth error.position error.text := by
  induction stops with
  | stuck found => exact met
  | flaw found flawed => exact absurd unpaired (ParseError.Cause.flaw_not_unpaired _)
  | inside found stops ih =>
      exact absurd (Lexeme.read_iff.mp found).2.1 (bracket_unbalanced stops unpaired)
  | behind found resolved stops ih => exact ih (met_behind made met found resolved) unpaired

-- Inside of a group nothing is left without a partner.
theorem met_inside {cs : Text} (made : Nesting.pairs text = .ok table)
    (met : Met separator text table depth position cs) (nested : 0 < depth) :
    (∀ rest, cs ≠ ')' :: rest) ∧
      (∀ rest, cs = '(' :: rest → ∃ close, table.lookup position = some close) ∧
      ∀ error, scanPaired separator table position cs = .error error →
        ¬ error.cause.Unpaired := by
  obtain ⟨front, behind, level⟩ := met_level made met
  have balanced := level.inside nested
  refine ⟨?_, ?_, ?_⟩
  · rintro rest rfl
    exact Nesting.balanced_close balanced
  · rintro rest rfl
    obtain ⟨inner, after, rfl, inside, -⟩ := Nesting.balanced_open balanced
    exact ⟨_, (level_partner made level _).mpr ⟨inner, after, rfl, inside, rfl⟩⟩
  · intro error failed unpaired
    rw [scan_paired_scan separator made depth position cs front behind level] at failed
    exact bracket_unbalanced (scan_stops_at position cs error failed) unpaired balanced

end Token

theorem Nesting.lookup_apart {text : Text} {table : Pairs} (made : pairs text = .ok table)
    {opening closing other otherClosing : Nat} (first : table.lookup opening = some closing)
    (second : table.lookup other = some otherClosing) (different : opening ≠ other) :
    closing < other ∨ otherClosing < opening ∨
      (opening < other ∧ otherClosing < closing) ∨ (other < opening ∧ closing < otherClosing) := by
  rw [lookup_pairs made] at first second
  rcases Nat.lt_or_gt_of_ne different with before | behind
  · rcases partners_apart first second before with apart | inside
    · exact Or.inl apart
    · exact Or.inr (Or.inr (Or.inl ⟨before, inside⟩))
  · rcases partners_apart second first behind with apart | inside
    · exact Or.inr (Or.inl apart)
    · exact Or.inr (Or.inr (Or.inr ⟨behind, inside⟩))

-- What the table is, and what the scan by it comes to. A bracket without a partner is found outside
-- of all groups. The end of a level is never in front of a partner, and inside of a group every
-- bracket that opens has its partner there, none that closes is met, and no error is of a bracket
-- without a partner.
theorem brackets_paired {text : Text} {table : Nesting.Pairs}
    (made : Nesting.pairs text = .ok table) :
    (∀ opening closing, table.lookup opening = some closing ↔
      Nesting.Partners text opening closing) ∧
    (∀ opening closing other otherClosing, table.lookup opening = some closing →
      table.lookup other = some otherClosing → opening ≠ other →
      closing < other ∨ otherClosing < opening ∨
        (opening < other ∧ otherClosing < closing) ∨
        (other < opening ∧ closing < otherClosing)) ∧
    ∀ separator, tokenize separator text = Token.scanPaired separator table 0 text ∧
      (∀ error, tokenize separator text = .error error → error.cause.Unpaired →
        Token.Met separator text table 0 error.position error.text) ∧
      ∀ depth position cs, Token.Met separator text table depth position cs →
        (∀ rest close, cs = '(' :: rest → table.lookup position = some close →
          close < position + cs.length) ∧
        (0 < depth →
          (∀ rest, cs ≠ ')' :: rest) ∧
          (∀ rest, cs = '(' :: rest → ∃ close, table.lookup position = some close ∧
            close < position + cs.length ∧ text[close]? = some ')') ∧
          ∀ error, Token.scanPaired separator table position cs = .error error →
            ¬ error.cause.Unpaired) := by
  refine ⟨Nesting.lookup_pairs made, fun _ _ _ _ => Nesting.lookup_apart made, ?_⟩
  intro separator
  refine ⟨?_, ?_, ?_⟩
  · rw [← tokenize_paired, tokenizePaired, made]
  · intro error failed unpaired
    rw [← tokenize_paired, tokenizePaired, made] at failed
    have same := Token.scan_paired_scan separator made 0 0 text [] [] (Token.level_start text)
    have stops := Token.scan_stops_at 0 text error (same.symm.trans failed)
    exact Token.met_stop made stops .start unpaired
  · intro depth position cs met
    constructor
    · rintro rest close rfl partner
      exact Token.met_within made met partner
    · intro nested
      obtain ⟨noClosing, partnered, paired⟩ := Token.met_inside made met nested
      refine ⟨noClosing, ?_, paired⟩
      rintro rest rfl
      obtain ⟨close, partner⟩ := partnered rest rfl
      have partners := (Nesting.lookup_pairs made position close).mp partner
      exact ⟨close, partner, Token.met_within made met partner, Nesting.partners_closing partners⟩

theorem bracket_left_open_paired :
    Nesting.pairs "(1'+(2\"))(".toList = .ok [(4, 7), (0, 8)] ∧
      Nesting.Partners "(1'+(2\"))(".toList 4 7 ∧
      (∀ closing, ¬ Nesting.Partners "(1'+(2\"))(".toList 9 closing) ∧
      Token.Met .required "(1'+(2\"))(".toList [(4, 7), (0, 8)] 1 4 "(2\")".toList ∧
      ∀ error, Token.scanPaired .required [(4, 7), (0, 8)] 4 "(2\")".toList = .error error →
        ¬ error.cause.Unpaired := by
  have made : Nesting.pairs "(1'+(2\"))(".toList = .ok [(4, 7), (0, 8)] := by decide
  have within : 8 < 0 + "(1'+(2\"))(".toList.length := by decide
  have inside : Token.Met .required "(1'+(2\"))(".toList [(4, 7), (0, 8)] 1 1
      ('1' :: "'+(2\")".toList) := .into .start rfl within
  have plus : Token.Met .required "(1'+(2\"))(".toList [(4, 7), (0, 8)] 1 3
      ('+' :: "(2\")".toList) := .on inside (by decide) rfl rfl
  have met : Token.Met .required "(1'+(2\"))(".toList [(4, 7), (0, 8)] 1 4 "(2\")".toList :=
    .on plus (by decide) rfl rfl
  obtain ⟨partners, -, scans⟩ := brackets_paired made
  obtain ⟨-, -, paired⟩ := ((scans .required).2.2 1 4 _ met).2 (by decide)
  refine ⟨made, (partners 4 7).mp rfl, fun closing lone => ?_, met, paired⟩
  exact absurd ((partners 9 closing).mpr lone) nofun

end TapeMeasure
