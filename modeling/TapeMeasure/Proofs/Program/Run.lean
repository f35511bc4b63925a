import Mathlib.Data.List.Induction
import TapeMeasure.Program
import TapeMeasure.Proofs.Expr.Grammar
import TapeMeasure.Proofs.Length.Contract

/- What programs leave behind. A length that a checking step has made is normal, and it stays under
   the number of that step wherever it is passed on to; steps that check nothing may leave any two
   numbers. Sums are checked, so two such lengths add up to a normal length or to none. -/
set_option autoImplicit false

namespace TapeMeasure.Program

-- The step looks at what it makes a length of.
def Step.Checked : Step → Prop
  | .of _ _ | .carry _ _ | .record _ | .validate _ | .json _ | .add _ _ | .measure _ _ => True
  | _ => False

-- What the steps of a program have left, each in its place.
def stored (steps : List Step) : Store := (run steps).map left?

theorem left_iff {outcome : Outcome} {object : Object} :
    left? outcome = some object ↔ ∃ answer, outcome = .ok (answer, some object) := by
  cases outcome with
  | error fault => simp [left?]
  | ok given => simp [left?, Prod.ext_iff, eq_comm]

theorem find_iff {store : Store} {a : Nat} {object : Object} :
    find store a = .ok object ↔ store[a]? = some (some object) := by
  unfold find
  split
  · rename_i found same
    rw [same, Except.ok.injEq, Option.some.injEq, Option.some.injEq]
  · rename_i missing
    constructor
    · exact nofun
    · exact fun found => absurd found (missing object)

theorem leave_iff {store : Store} {made : Except (Fault Error) Length} {answer : Answer}
    {left : Option Object} :
    leave store made = .ok (answer, left) ↔
      ∃ length, made = .ok length ∧ answer = .length length ∧
        left = some ⟨length, store.length⟩ := by
  unfold leave
  cases made with
  | error fault => simp [Except.map]
  | ok length => simp [Except.map, eq_comm]

theorem look_leaves {store : Store} {a : Nat} {view : Length → Except (Fault Error) Answer} :
    left? (look store a view) = none := by
  unfold look
  cases find store a with
  | error fault => rfl
  | ok object =>
      cases viewed : view object.length with
      | error fault => simp [bind, Except.bind, viewed, left?]
      | ok answer => simp [bind, Except.bind, viewed, left?, pure, Except.pure]

theorem compare_leaves {store : Store} {a b : Nat} {test : Object → Object → Bool} :
    left? (compare store a b test) = none := by
  unfold compare
  cases find store a with
  | error fault => rfl
  | ok left =>
      cases find store b with
      | error fault => rfl
      | ok right => rfl

theorem perform_checked {store : Store} {step : Step} {answer : Answer} {left : Option Object}
    (checked : step.Checked) (performed : perform store step = .ok (answer, left)) :
    ∃ length : Length, length.Normal ∧ answer = .length length ∧
      left = some ⟨length, store.length⟩ := by
  cases step with
  | of whole sixteenths =>
      obtain ⟨length, made, same⟩ := leave_iff.mp performed
      obtain ⟨-, -, normal⟩ := Length.of_iff.mp (map_error_ok.mp made)
      exact ⟨length, normal, same⟩
  | carry whole sixteenths =>
      obtain ⟨length, made, same⟩ := leave_iff.mp performed
      exact ⟨length, Length.of_parts_normal (map_error_ok.mp made), same⟩
  | record entries =>
      obtain ⟨length, made, same⟩ := leave_iff.mp performed
      exact ⟨length, (Length.of_record_iff.mp (map_error_ok.mp made)).normal, same⟩
  | validate value =>
      obtain ⟨length, made, same⟩ := leave_iff.mp performed
      obtain ⟨-, -, -, -, normal⟩ := Length.validated_iff.mp (map_error_ok.mp made)
      exact ⟨length, normal, same⟩
  | json text =>
      obtain ⟨length, made, same⟩ := leave_iff.mp performed
      exact ⟨length, Length.of_json_normal (map_error_ok.mp made), same⟩
  | add a b =>
      simp only [perform, bind_ok] at performed
      obtain ⟨first, -, second, -, added⟩ := performed
      obtain ⟨length, made, same⟩ := leave_iff.mp added
      exact ⟨length, Length.of_parts_normal (map_error_ok.mp made), same⟩
  | measure separator text =>
      obtain ⟨length, made, same⟩ := leave_iff.mp performed
      exact ⟨length, measure_normal (map_error_ok.mp made), same⟩
  | _ => exact absurd checked id

theorem leave_origin {store : Store} {made : Except (Fault Error) Length} {object : Object}
    (left : left? (leave store made) = some object) : object.origin = store.length := by
  obtain ⟨answer, given⟩ := left_iff.mp left
  obtain ⟨length, -, -, same⟩ := leave_iff.mp given
  rw [Option.some.inj same]

-- A step leaves a length of its own, or one that the store has already.
theorem perform_origin {store : Store} {step : Step} {object : Object}
    (left : left? (perform store step) = some object) :
    object.origin = store.length ∨ some object ∈ store := by
  cases step with
  | of _ _ | carry _ _ | record _ | validate _ | json _ | unchecked _ _ | measure _ _ =>
      exact Or.inl (leave_origin left)
  | share a =>
      obtain ⟨answer, performed⟩ := left_iff.mp left
      simp only [perform, bind_ok] at performed
      obtain ⟨found, here, same⟩ := performed
      obtain rfl := Option.some.inj (Prod.mk.inj (Except.ok.inj same)).2
      exact Or.inr (List.mem_of_getElem? (find_iff.mp here))
  | copy a changes =>
      obtain ⟨answer, performed⟩ := left_iff.mp left
      simp only [perform, bind_ok] at performed
      obtain ⟨found, -, copied⟩ := performed
      exact Or.inl (leave_origin (left_iff.mpr ⟨answer, copied⟩))
  | add a b =>
      obtain ⟨answer, performed⟩ := left_iff.mp left
      simp only [perform, bind_ok] at performed
      obtain ⟨first, -, second, -, added⟩ := performed
      exact Or.inl (leave_origin (left_iff.mpr ⟨answer, added⟩))
  | equal a b | same a b =>
      rw [perform, compare_leaves] at left
      exact absurd left nofun
  | distinct items =>
      obtain ⟨answer, performed⟩ := left_iff.mp left
      simp only [perform, bind_ok] at performed
      obtain ⟨objects, -, same⟩ := performed
      exact absurd (Prod.mk.inj (Except.ok.inj same)).2 nofun
  | _ =>
      rw [perform, look_leaves] at left
      exact absurd left nofun

section Run

variable {steps : List Step} {i : Nat}

theorem run_from_append (store : Store) (before rest : List Step) :
    runFrom store (before ++ rest) =
      runFrom store before ++ runFrom (store ++ (runFrom store before).map left?) rest := by
  induction before generalizing store with
  | nil => simp [runFrom]
  | cons step others ih => simp [runFrom, ih]

theorem run_append (before rest : List Step) :
    run (before ++ rest) = run before ++ runFrom (stored before) rest := by
  rw [run, run_from_append, List.nil_append]
  rfl

theorem stored_append (before rest : List Step) :
    stored (before ++ rest) = stored before ++ (runFrom (stored before) rest).map left? := by
  rw [stored, run_append, List.map_append]
  rfl

theorem run_length (steps : List Step) : (run steps).length = steps.length := by
  have counted (store : Store) : (runFrom store steps).length = steps.length := by
    induction steps generalizing store with
    | nil => rfl
    | cons step others ih => rw [runFrom, List.length_cons, List.length_cons, ih]
  exact counted []

theorem stored_length (steps : List Step) : (stored steps).length = steps.length := by
  rw [stored, List.length_map, run_length]

theorem stored_before (inside : i < steps.length) : (stored (steps.take i)).length = i := by
  rw [stored_length, List.length_take, Nat.min_eq_left (Nat.le_of_lt inside)]

-- Every step is performed on what the steps before it have left.
theorem run_at {step : Step} (here : steps[i]? = some step) :
    (run steps)[i]? = some (perform (stored (steps.take i)) step) := by
  obtain ⟨inside, same⟩ := List.getElem?_eq_some_iff.mp here
  have cut : steps = steps.take i ++ step :: steps.drop (i + 1) := by
    rw [← same, List.getElem_cons_drop, List.take_append_drop]
  have front := stored_before inside
  rw [stored, List.length_map] at front
  have parts := run_append (steps.take i) (step :: steps.drop (i + 1))
  rw [← cut, runFrom] at parts
  rw [parts, List.getElem?_append_right (Nat.le_of_eq front), front, Nat.sub_self]
  rfl

theorem stored_take {a : Nat} (inside : i ≤ steps.length) (before : a < i) :
    (stored (steps.take i))[a]? = (stored steps)[a]? := by
  have parts := stored_append (steps.take i) (steps.drop i)
  rw [List.take_append_drop] at parts
  rw [parts, List.getElem?_append_left]
  rw [stored_length, List.length_take]
  omega

-- Every length of a store can be traced to the step that has made it, and is normal if that step
-- has checked it.
def Traced (steps : List Step) (store : Store) : Prop :=
  ∀ object, some object ∈ store →
    ∃ maker, steps[object.origin]? = some maker ∧ (maker.Checked → object.length.Normal)

theorem perform_traced {before : List Step} (step : Step)
    (traced : Traced before (stored before)) :
    Traced (before ++ [step]) (stored (before ++ [step])) := by
  intro object member
  have earlier (known : some object ∈ stored before) :
      ∃ maker, (before ++ [step])[object.origin]? = some maker ∧
        (maker.Checked → object.length.Normal) := by
    obtain ⟨maker, here, normal⟩ := traced object known
    obtain ⟨inside, -⟩ := List.getElem?_eq_some_iff.mp here
    exact ⟨maker, (List.getElem?_append_left inside).trans here, normal⟩
  rw [stored_append, List.mem_append] at member
  cases member with
  | inl known => exact earlier known
  | inr last =>
      have left := (List.mem_singleton.mp last).symm
      cases perform_origin left with
      | inr known => exact earlier known
      | inl own =>
          refine ⟨step, ?_, ?_⟩
          · rw [own, stored_length, List.getElem?_concat_length]
          · intro checked
            obtain ⟨answer, performed⟩ := left_iff.mp left
            obtain ⟨length, normal, -, same⟩ := perform_checked checked performed
            rw [Option.some.inj same]
            exact normal

theorem stored_traced (steps : List Step) : Traced steps (stored steps) := by
  induction steps using List.reverseRecOn with
  | nil => exact nofun
  | append_singleton before step ih => exact perform_traced step ih

theorem stored_at (steps : List Step) (i : Nat) :
    (stored steps)[i]? = (run steps)[i]?.map left? :=
  List.getElem?_map

theorem add_at {a b : Nat} {left right : Object} (here : steps[i]? = some (.add a b))
    (leftBefore : a < i) (rightBefore : b < i) (first : (stored steps)[a]? = some (some left))
    (second : (stored steps)[b]? = some (some right)) :
    (run steps)[i]? = some (leave (stored (steps.take i))
      ((left.length.add right.length).mapError (Fault.map .length))) := by
  obtain ⟨inside, -⟩ := List.getElem?_eq_some_iff.mp here
  have foundLeft : find (stored (steps.take i)) a = .ok left := by
    rw [find_iff, stored_take (Nat.le_of_lt inside) leftBefore, first]
  have foundRight : find (stored (steps.take i)) b = .ok right := by
    rw [find_iff, stored_take (Nat.le_of_lt inside) rightBefore, second]
  rw [run_at here, perform, foundLeft, foundRight]
  rfl

theorem program_lengths_normal (steps : List Step) :
    (∀ (i : Nat) (step : Step) (answer : Answer) (left : Option Object),
      steps[i]? = some step → step.Checked → (run steps)[i]? = some (.ok (answer, left)) →
        ∃ length : Length, length.Normal ∧ answer = .length length ∧ left = some ⟨length, i⟩) ∧
    Traced steps (stored steps) ∧
    ∀ (i a b : Nat) (left right : Object), steps[i]? = some (.add a b) → a < i → b < i →
      (stored steps)[a]? = some (some left) → (stored steps)[b]? = some (some right) →
      if 0 ≤ left.length.wholeInches + right.length.wholeInches ∧
          0 ≤ left.length.numerator16 + right.length.numerator16 then
        ∃ sum : Length, (run steps)[i]? = some (.ok (.length sum, some ⟨sum, i⟩)) ∧
          sum.totalSixteenths = left.length.totalSixteenths + right.length.totalSixteenths
      else
        ∃ fault, (run steps)[i]? = some (.error fault) ∧ (stored steps)[i]? = some none := by
  refine ⟨?_, stored_traced steps, ?_⟩
  · intro i step answer left here checked performed
    rw [run_at here] at performed
    obtain ⟨inside, -⟩ := List.getElem?_eq_some_iff.mp here
    have made := perform_checked checked (Option.some.inj performed)
    rw [stored_before inside] at made
    exact made
  · intro i a b left right here leftBefore rightBefore first second
    have outcome := add_at here leftBefore rightBefore first second
    obtain ⟨inside, -⟩ := List.getElem?_eq_some_iff.mp here
    split
    · rename_i natural
      rw [Length.add_iff.mpr ⟨natural, rfl⟩] at outcome
      refine ⟨_, ?_, Length.total_added _ _⟩
      rw [outcome, leave, stored_before inside]
      rfl
    · rename_i negative
      cases added : left.length.add right.length with
      | ok sum => exact absurd (Length.add_iff.mp added).1 negative
      | error fault =>
          rw [added] at outcome
          refine ⟨_, outcome, ?_⟩
          rw [stored_at, outcome]
          rfl

theorem unchecked_summands_make_normal :
    ∃ sum : Length,
      (run [.unchecked (-5) 40, .unchecked 6 (-30), .add 0 1])[2]? =
        some (.ok (.length sum, some ⟨sum, 2⟩)) ∧
      sum.Normal ∧ sum.totalSixteenths = 26 := by
  obtain ⟨checked, -, added⟩ :=
    program_lengths_normal [.unchecked (-5) 40, .unchecked 6 (-30), .add 0 1]
  have outcome := added 2 0 1 ⟨⟨-5, 40⟩, 0⟩ ⟨⟨6, -30⟩, 1⟩ rfl (by decide) (by decide) rfl rfl
  rw [if_pos (by decide)] at outcome
  obtain ⟨sum, given, total⟩ := outcome
  obtain ⟨length, normal, same, -⟩ := checked 2 _ _ _ rfl trivial given
  obtain rfl := Answer.length.inj same
  exact ⟨sum, given, normal, total⟩

end Run

end TapeMeasure.Program
