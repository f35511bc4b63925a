import Mathlib.Data.List.Induction
import TapeMeasure.Proofs.Trace.Records

/- The logger over whole runs. However often it is configured, it keeps the handler that it starts
   with and has one console behind it: that of the last configuration, whose level it has too. What
   is looked up or calculated in between leaves no mark on it. -/
set_option autoImplicit false

namespace TapeMeasure.Trace

-- What a step sets the logger to, if it configures it.
def Step.configuration? : Step → Option (Int × Bool)
  | .configure level stderr => some (level, stderr)
  | .getLogger _ | .calculate _ _ => none

def lastConfiguration? (steps : List Step) : Option (Int × Bool) :=
  (steps.filterMap Step.configuration?).getLast?

-- But for consoles the handlers are those of the beginning.
def Logger.Kept (logger : Logger) : Prop :=
  logger.handlers.filter (fun handler => !handler.isConsole) = [.null]

theorem configure_kept {logger : Logger} (kept : logger.Kept) (level : Int) (stderr : Bool) :
    logger.configure level stderr = ⟨level, [.null, .console stderr]⟩ := by
  rw [Logger.configure, kept]
  rfl

theorem perform_other {step : Step} (other : step.configuration? = none) (logger : Logger) :
    (perform logger step).1 = logger := by
  cases step with
  | configure level stderr => exact absurd other nofun
  | getLogger name => rfl
  | calculate separator text => rfl

theorem perform_configuring {step : Step} {level : Int} {stderr : Bool}
    (configures : step.configuration? = some (level, stderr)) {logger : Logger}
    (kept : logger.Kept) : (perform logger step).1 = ⟨level, [.null, .console stderr]⟩ := by
  cases step with
  | configure newLevel newStderr =>
      obtain ⟨rfl, rfl⟩ := Prod.mk.inj (Option.some.inj configures)
      exact configure_kept kept newLevel newStderr
  | getLogger name => exact absurd configures nofun
  | calculate separator text => exact absurd configures nofun

theorem perform_kept {logger : Logger} (kept : logger.Kept) (step : Step) :
    (perform logger step).1.Kept := by
  cases configures : step.configuration? with
  | none =>
      rw [perform_other configures]
      exact kept
  | some configuration =>
      rw [perform_configuring configures kept]
      rfl

theorem after_append (before behind : List Step) :
    after (before ++ behind) = afterFrom (after before) behind := List.foldl_append

theorem after_kept (steps : List Step) : (after steps).Kept := by
  induction steps using List.reverseRecOn with
  | nil => rfl
  | append_singleton before step ih =>
      rw [after_append]
      exact perform_kept ih step

theorem after_configured (steps : List Step) :
    after steps =
      match lastConfiguration? steps with
      | none => Logger.initial
      | some (level, stderr) => ⟨level, [.null, .console stderr]⟩ := by
  induction steps using List.reverseRecOn with
  | nil => rfl
  | append_singleton before step ih =>
      rw [after_append, lastConfiguration?, List.filterMap_append]
      change (perform (after before) step).1 = _
      cases configures : step.configuration? with
      | none =>
          rw [perform_other configures, List.filterMap_cons_none configures, List.filterMap_nil,
            List.append_nil]
          exact ih
      | some configuration =>
          rw [perform_configuring configures (after_kept before),
            List.filterMap_cons_some configures, List.filterMap_nil, List.getLast?_concat]

theorem logger_after_run (steps : List Step) :
    (after steps =
        match lastConfiguration? steps with
        | none => ⟨0, [.null]⟩
        | some (level, stderr) => ⟨level, [.null, .console stderr]⟩) ∧
      (∀ step, step.configuration? = none →
        (perform (after steps) step).1 = after steps ∧
          ∀ behind, after (steps ++ step :: behind) = after (steps ++ behind)) ∧
      ∀ level stderr behind,
        (run (steps ++ .configure level stderr :: behind))[steps.length]? =
          some (.configured ⟨level, [.null, .console stderr]⟩) := by
  refine ⟨after_configured steps, ?_, ?_⟩
  · intro step other
    refine ⟨perform_other other _, fun behind => ?_⟩
    rw [after_append, after_append]
    change afterFrom (perform (after steps) step).1 behind = _
    rw [perform_other other]
  · intro level stderr behind
    rw [run_at, perform, configure_kept (after_kept steps)]

end TapeMeasure.Trace
