import TapeMeasure.Trace
import TapeMeasure.Proofs.Expr.Preorder
import TapeMeasure.Proofs.Length.Made

/- What the logger is told of a calculation. Whatever was done with the logger before, the result is
   the same, and there are records only at a level that shows them. They tell first of the tokens,
   then of each level that is entered, in the order of the text. -/
set_option autoImplicit false

namespace TapeMeasure.Trace

def afterFrom (logger : Logger) (steps : List Step) : Logger :=
  steps.foldl (fun logger step => (perform logger step).1) logger

-- The logger as the steps leave it.
def after (steps : List Step) : Logger := afterFrom Logger.initial steps

theorem run_from_at (logger : Logger) (before behind : List Step) (step : Step) :
    (runFrom logger (before ++ step :: behind))[before.length]? =
      some (perform (afterFrom logger before) step).2 := by
  induction before generalizing logger with
  | nil => rfl
  | cons first others ih => exact ih (perform logger first).1

theorem run_at (before behind : List Step) (step : Step) :
    (run (before ++ step :: behind))[before.length]? = some (perform (after before) step).2 :=
  run_from_at Logger.initial before behind step

theorem shows_trace_iff (logger : Logger) :
    logger.showsTrace = true ↔ logger.level ≠ 0 ∧ logger.level ≤ 10 := by
  rw [Logger.showsTrace, Bool.and_eq_true, bne_iff_ne, decide_eq_true_iff]
  rfl

theorem records_error {separator : Separator} {text : Text} {error : ParseError}
    (failed : tokenize separator text = .error error) : records separator text = [] := by
  rw [records, failed]

theorem tokenized_record_eq (text : Text) (tokens : List Token) :
    tokenizedRecord text tokens =
      ⟨"uscu.engine.tokenizer", "DEBUG",
        "tokenized " ++ Text.quote text ++ " into " ++ toString tokens.length ++
          " top-level tokens"⟩ := by
  have named : packageName ++ ".engine.tokenizer" = "uscu.engine.tokenizer" := by decide
  rw [tokenizedRecord, named]

theorem entered_record_eq (level : Level) :
    enteredRecord level =
      ⟨"uscu.engine.evaluator", "DEBUG",
        "evaluating " ++ toString level.length ++ " nodes: [" ++
          ", ".intercalate (level.map fun label =>
            label.kind.name ++ "(" ++ Text.quote label.text ++ ")@" ++ toString label.position) ++
          "]"⟩ := by
  have named : packageName ++ ".engine.evaluator" = "uscu.engine.evaluator" := by decide
  have begins : " nodes: [" = " nodes: " ++ "[" := by decide
  have described : Label.describeAll level =
      "[" ++ ", ".intercalate (level.map fun label =>
        label.kind.name ++ "(" ++ Text.quote label.text ++ ")@" ++ toString label.position) ++
        "]" := rfl
  rw [enteredRecord, named, described, begins]
  simp only [String.append_assoc]

theorem records_ok {separator : Separator} {text : Text} {tokens : List Token}
    (scanned : tokenize separator text = .ok tokens) :
    records separator text =
      tokenizedRecord text tokens :: (Run.ofTokens tokens).entered.map enteredRecord := by
  rw [records, scanned]

theorem measured_result {separator : Separator} {text : Text} {tokens : List Token}
    {length : Length} (scanned : tokenize separator text = .ok tokens)
    (measured : measure separator text = .ok length) :
    (Run.ofTokens tokens).result = .ok length := by
  rw [measure, scanned] at measured
  exact map_error_ok.mp measured

theorem calculation_trace (before behind : List Step) (separator : Separator) (text : Text) :
    ∃ records,
      (run (before ++ .calculate separator text :: behind))[before.length]? =
        some (.calculated (TapeMeasure.calculate separator text) records) ∧
      (records ≠ [] → (after before).level ≠ 0 ∧ (after before).level ≤ 10) ∧
      ((after before).level ≠ 0 ∧ (after before).level ≤ 10 →
        (∀ error, tokenize separator text = .error error → records = []) ∧
        ∀ tokens, tokenize separator text = .ok tokens →
          records =
            ⟨"uscu.engine.tokenizer", "DEBUG",
                "tokenized " ++ Text.quote text ++ " into " ++ toString tokens.length ++
                  " top-level tokens"⟩ ::
              (Run.ofTokens tokens).entered.map (fun level =>
                ⟨"uscu.engine.evaluator", "DEBUG",
                  "evaluating " ++ toString level.length ++ " nodes: [" ++
                    ", ".intercalate (level.map fun label =>
                      label.kind.name ++ "(" ++ Text.quote label.text ++ ")@" ++
                        toString label.position) ++
                    "]"⟩) ∧
          (∀ level, level ∈ (Run.ofTokens tokens).entered ↔
            ∃ depth nodes, Node.Enters (Node.ofTokens tokens) depth nodes ∧
              level = nodes.map Node.label) ∧
          (Run.ofTokens tokens).entered <+: Token.preorder tokens ∧
          ∀ length, measure separator text = .ok length →
            (Run.ofTokens tokens).entered = Token.preorder tokens) := by
  refine ⟨_, run_at before behind _, ?_, ?_⟩
  · intro told
    by_cases shows : (after before).showsTrace = true
    · exact (shows_trace_iff _).mp shows
    · exact absurd (if_neg shows) told
  · intro level
    rw [if_pos ((shows_trace_iff _).mpr level)]
    refine ⟨fun error failed => records_error failed, ?_⟩
    intro tokens scanned
    have follows := Node.level_follows tokens
    have told := records_ok scanned
    rw [tokenized_record_eq, funext entered_record_eq] at told
    refine ⟨told, fun level => Node.entered_iff, follows.begins, ?_⟩
    intro length measured
    exact follows.whole length (measured_result scanned measured)

-- The left side has no value, so the level inside the right side is not entered.
theorem trace_ends_with_left_side :
    ∃ tokens top left right,
      tokenize .optional "(1\" 2\")+(3\")".toList = .ok tokens ∧
      Token.preorder tokens = [top, left, right] ∧
      (run [.configure 10 true, .calculate .optional "(1\" 2\")+(3\")".toList])[1]? =
        some (.calculated (.error (.error (.eval (.malformed left))))
          [⟨"uscu.engine.tokenizer", "DEBUG",
              "tokenized '(1\" 2\")+(3\")' into 3 top-level tokens"⟩,
            ⟨"uscu.engine.evaluator", "DEBUG",
              "evaluating 3 nodes: [Paren('(1\" 2\")')@0, Operator_Plus('+')@7, Paren('(3\")')@8]"⟩,
            ⟨"uscu.engine.evaluator", "DEBUG",
              "evaluating 2 nodes: [Inches('1\"')@1, Inches('2\"')@4]"⟩]) := by
  have inches (digit : Char) (group : Text.DigitGroup [digit]) :
      Piece.Sound .optional (.literal (.inchesOnly (.whole [digit]))) :=
    ⟨⟨group, nofun⟩, List.forall_mem_singleton.mpr (show 1 ≤ Decimal.maxDigits by decide), nofun⟩
  have greedy : Piece.Greedy .optional
      [.group [.literal (.inchesOnly (.whole ['1'])), .blanks [' '],
          .literal (.inchesOnly (.whole ['2']))],
        .plus, .group [.literal (.inchesOnly (.whole ['3']))]] :=
    ⟨⟨inches '1' (by decide), trivial, ⟨nofun, Text.space_blank⟩, rfl, inches '2' (by decide),
        trivial, trivial⟩,
      trivial, trivial, trivial, ⟨inches '3' (by decide), trivial, trivial⟩, trivial, trivial⟩
  have scanned : tokenize .optional "(1\" 2\")+(3\")".toList = .ok (Piece.tokens 0 _) :=
    Piece.tokenize_iff.mpr ⟨_, greedy, by decide, rfl, rfl⟩
  obtain ⟨records, traced, -, shown⟩ :=
    calculation_trace [.configure 10 true] [] .optional "(1\" 2\")+(3\")".toList
  have told := ((shown (by decide)).2 _ scanned).1
  have failed : TapeMeasure.calculate .optional "(1\" 2\")+(3\")".toList =
      .error (.error (.eval (.malformed
        [⟨.inches, 1, ['1', '"']⟩, ⟨.inches, 4, ['2', '"']⟩]))) := by
    rw [TapeMeasure.calculate, measure, scanned]
    rfl
  refine ⟨_, _, _, _, scanned, rfl, ?_⟩
  rw [failed, told] at traced
  exact traced

end TapeMeasure.Trace
