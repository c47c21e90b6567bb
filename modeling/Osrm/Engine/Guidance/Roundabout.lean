import Osrm.Engine.Guidance.Reads

/-!
# Roundabouts in `postProcess`

`postProcess` (`post_processing.cpp:655-725`) counts the exits of a roundabout forward, one per
`StayOnRoundabout` step and one for the exit itself, and `closeOffRoundabout` folds the roundabout
backward into its entering step, which takes the exit's signage. This replaces the entering step
`E`, its `k` `StayOnRoundabout` steps and the exit `X` by one step with `E`'s maneuver, exit `k + 1`
(`k + 2` for an `AtExit` entry), the time and length of all of them, the geometry from `E`'s start
to `X`'s end and `X`'s signage (`foldlM_closedRoundabout`); a roundabout still open at the arrive
is folded into `E` with exit `0` by `fixFinalRoundabout` (`fixFinalRoundabout_open`). Legs made of
such roundabouts are `RoundaboutLegs`.

A `StayOnRoundabout` step that no step enters, later in the leg, makes `fixFinalRoundabout` walk
back over a closed roundabout and clear its exit count (`postProcess_strayStay`).

Each loop is stated by a closed form beside it: `countFrom` for the exits the forward scan writes,
`mergeRun` for the steps the backward loops fold together.
-/

namespace Osrm.Engine.Guidance

/-! ### The steps of a roundabout -/

/-- A step the exit count passes over: it neither enters nor leaves a roundabout and is no
`StayOnRoundabout`. -/
def Quiet (tk : Toolkit) (step : RouteStep) : Prop :=
  tk.entersRoundabout step.maneuver.instruction = false ∧
    step.maneuver.instruction.type ≠ .stayOnRoundabout ∧
    tk.leavesRoundabout step.maneuver.instruction = false

/-- Whether a turn type is one of the `AtExit` forms of entering. -/
def isAtExit (type : TurnType) : Bool :=
  type = .enterRotaryAtExit || type = .enterRoundaboutAtExit ||
    type = .enterRoundaboutIntersectionAtExit

/-- The plain enter type of an `AtExit` form; any other type is its own. -/
def plainEnterType (type : TurnType) : TurnType :=
  if type = .enterRotaryAtExit then .enterRotary
  else if type = .enterRoundaboutAtExit then .enterRoundabout
  else if type = .enterRoundaboutIntersectionAtExit then .enterRoundaboutIntersection
  else type

theorem plainEnterType_eq_noTurn {type : TurnType} :
    plainEnterType type = .noTurn ↔ type = .noTurn := by
  cases type <;> decide

/-- The entering step after `setUpRoundabout`: an `AtExit` form counts its exit and becomes the
plain type. -/
def enteredStep (step : RouteStep) : RouteStep :=
  { step with
    maneuver.exit := if isAtExit step.maneuver.instruction.type then 1 else step.maneuver.exit
    maneuver.instruction.type := plainEnterType step.maneuver.instruction.type }

/-- A step with its exit count set. -/
def withExit (exit : Nat) (step : RouteStep) : RouteStep :=
  { step with maneuver.exit := exit }

/-- `steps[next_step_index].maneuver.exit = ...` on the first of the remaining steps. -/
def setHeadExit (exit : Nat) : List RouteStep → List RouteStep
  | [] => []
  | step :: rest => withExit exit step :: rest

/-- The exit counts the forward scan gives a run of `StayOnRoundabout` steps after a step with
exit count `exit`. -/
def countFrom (exit : Nat) : List RouteStep → List RouteStep
  | [] => []
  | step :: rest => withExit (exit + 1) step :: countFrom (exit + 1) rest

/-- `first` with the steps after it folded in, each into the one before it by `forwardInto`, as the
backward loops of `closeOffRoundabout` and `fixFinalRoundabout` fold them. -/
def mergeRun : RouteStep → List RouteStep → RouteStep
  | first, [] => first
  | first, next :: rest => forwardInto first (mergeRun next rest)

@[simp] theorem withExit_withExit (first second : Nat) (step : RouteStep) :
    withExit second (withExit first step) = withExit second step := rfl

@[simp] theorem withExit_instruction (exit : Nat) (step : RouteStep) :
    (withExit exit step).maneuver.instruction = step.maneuver.instruction := rfl

@[simp] theorem exit_withExit (exit : Nat) (step : RouteStep) :
    (withExit exit step).maneuver.exit = exit := rfl

@[simp] theorem segment_withExit (exit : Nat) (step : RouteStep) :
    (withExit exit step).segment = step.segment := rfl

@[simp] theorem segment_enteredStep (step : RouteStep) : (enteredStep step).segment = step.segment :=
  rfl

theorem length_countFrom : ∀ (exit : Nat) (steps : List RouteStep),
    (countFrom exit steps).length = steps.length
  | _, [] => rfl
  | exit, _ :: rest => by simp [countFrom, length_countFrom (exit + 1) rest]

/-- `countFrom` changes nothing but exit counts. -/
theorem countFrom_map {β : Type} {f : RouteStep → β}
    (invariant : ∀ exit step, f (withExit exit step) = f step) :
    ∀ (exit : Nat) (steps : List RouteStep), (countFrom exit steps).map f = steps.map f
  | _, [] => rfl
  | exit, _ :: rest => by simp [countFrom, invariant, countFrom_map invariant (exit + 1) rest]

/-- The steps `countFrom` writes have what their originals have, of anything the exit count does
not change. -/
theorem forall_countFrom {P : RouteStep → Prop}
    (invariant : ∀ exit step, P (withExit exit step) ↔ P step) :
    ∀ (exit : Nat) (steps : List RouteStep),
      (∀ step ∈ countFrom exit steps, P step) ↔ ∀ step ∈ steps, P step
  | _, [] => by simp [countFrom]
  | exit, step :: rest => by
    simp only [countFrom, List.mem_cons, forall_eq_or_imp, invariant,
      forall_countFrom invariant (exit + 1) rest]

/-! ### One iteration of the forward scan -/

section Scan

variable {tk : Toolkit} {steps : List RouteStep} {i : Nat} {step : RouteStep}

/-- A quiet step changes nothing unless the scan is on a roundabout with a step after it. -/
theorem postProcessStep_quiet (at_i : steps[i]? = some step) (quiet : Quiet tk step)
    {onRoundabout : Bool} (idle : onRoundabout = true → steps.length ≤ i + 1) (entered : Bool) :
    postProcessStep tk (steps, onRoundabout, entered) i = some (steps, onRoundabout, entered) := by
  obtain ⟨not_enters, not_stay, not_leaves⟩ := quiet
  cases onRoundabout
  · simp [postProcessStep, at_i, not_enters, not_stay, not_leaves]
  · have last := idle rfl
    simp [postProcessStep, at_i, not_enters, not_stay, not_leaves, Nat.not_lt.mpr last]

theorem enteredStep_of_not_atExit (plain : isAtExit step.maneuver.instruction.type = false) :
    enteredStep step = step := by
  simp only [isAtExit, Bool.or_eq_false_iff, decide_eq_false_iff_not] at plain
  have same : plainEnterType step.maneuver.instruction.type = step.maneuver.instruction.type := by
    simp [plainEnterType, plain.1.1, plain.1.2, plain.2]
  simp only [enteredStep, isAtExit, plain.1.1, plain.1.2, plain.2, same, decide_False,
    Bool.or_false, Bool.false_eq_true, ↓reduceIte]

theorem setUpRoundabout_of_not_leaves
    (stays : tk.leavesRoundabout step.maneuver.instruction = false) :
    setUpRoundabout tk step = (enteredStep step, true) := by
  cases atExit : isAtExit step.maneuver.instruction.type
  · rw [enteredStep_of_not_atExit atExit]
    simp only [isAtExit, Bool.or_eq_false_iff, decide_eq_false_iff_not] at atExit
    simp [setUpRoundabout, stays, atExit.1.1, atExit.1.2, atExit.2]
  · simp only [isAtExit, Bool.or_eq_true, decide_eq_true_eq] at atExit
    rcases atExit with (form | form) | form <;>
      simp [setUpRoundabout, enteredStep, isAtExit, plainEnterType, form, stays]

/-- An entering step that does not also leave starts the count and hands its exit count on. -/
theorem postProcessStep_enter (at_i : steps[i]? = some step)
    (enters : tk.entersRoundabout step.maneuver.instruction = true)
    (stays : tk.leavesRoundabout step.maneuver.instruction = false) {next : RouteStep}
    (at_next : steps[i + 1]? = some next) (onRoundabout entered : Bool) :
    postProcessStep tk (steps, onRoundabout, entered) i =
      some ((steps.set i (enteredStep step)).set (i + 1)
        (withExit (enteredStep step).maneuver.exit next), onRoundabout, true) := by
  obtain ⟨inside, rfl⟩ := List.getElem?_eq_some_iff.mp at_next
  simp [postProcessStep, at_i, enters, setUpRoundabout_of_not_leaves stays, setExit, inside,
    withExit]

theorem not_entersRoundabout_of_stay (lawful : tk.Lawful)
    (stay : step.maneuver.instruction.type = .stayOnRoundabout) :
    tk.entersRoundabout step.maneuver.instruction = false := by
  rw [show step.maneuver.instruction = ⟨.stayOnRoundabout, step.maneuver.instruction.directionModifier⟩
    from by rw [← stay]]
  exact lawful.not_entersRoundabout_stay _

/-- A `StayOnRoundabout` step counts one exit and hands the count on. -/
theorem postProcessStep_stay (lawful : tk.Lawful) (at_i : steps[i]? = some step)
    (stay : step.maneuver.instruction.type = .stayOnRoundabout) {next : RouteStep}
    (at_next : steps[i + 1]? = some next) (onRoundabout entered : Bool) :
    postProcessStep tk (steps, onRoundabout, entered) i =
      some ((steps.set i (withExit (step.maneuver.exit + 1) step)).set (i + 1)
        (withExit (step.maneuver.exit + 1) next), true, entered) := by
  obtain ⟨inside, rfl⟩ := List.getElem?_eq_some_iff.mp at_next
  simp [postProcessStep, at_i, not_entersRoundabout_of_stay lawful stay, stay, setExit, inside,
    withExit]

/-- A step that leaves without entering closes the roundabout. -/
theorem postProcessStep_leave (at_i : steps[i]? = some step)
    (not_enters : tk.entersRoundabout step.maneuver.instruction = false)
    (not_stay : step.maneuver.instruction.type ≠ .stayOnRoundabout)
    (leaves : tk.leavesRoundabout step.maneuver.instruction = true) (onRoundabout entered : Bool) :
    postProcessStep tk (steps, onRoundabout, entered) i =
      (closeOffRoundabout tk entered steps i).bind fun steps => some (steps, false, false) := by
  simp [postProcessStep, at_i, not_enters, not_stay, leaves]

end Scan

/-! ### Runs of the forward scan -/

section Lists

variable {α : Type} (front rest : List α) (j : Nat)

/-- The steps of a leg past a prefix, read at their position in the whole list. -/
theorem getElem?_append_length : (front ++ rest)[front.length + j]? = rest[j]? := by
  rw [List.getElem?_append_right (by omega), Nat.add_sub_cancel_left]

theorem set_append_length (x : α) :
    (front ++ rest).set (front.length + j) x = front ++ rest.set j x := by
  rw [List.set_append_right _ _ (by omega), Nat.add_sub_cancel_left]

/-- The indices of a leg cut in three. -/
theorem range_add_add (a b c : Nat) :
    List.range (a + b + c) = List.range' 0 a ++ (List.range' a b ++ List.range' (a + b) c) := by
  have outer := List.range'_append_1 0 a (c + b)
  rw [Nat.zero_add] at outer
  rw [List.range'_append_1, outer, List.range_eq_range']
  congr 1
  omega

variable {i : Nat} (position : front.length = i)
include position

/-- The step after a prefix and the one after it, where the backward loops read and write them. -/
theorem getElem?_append_cons (a : α) : (front ++ a :: rest)[i]? = some a := by
  subst position; simpa using getElem?_append_length front (a :: rest) 0

theorem getElem?_append_cons_succ (a b : α) : (front ++ a :: b :: rest)[i + 1]? = some b := by
  subst position; simpa using getElem?_append_length front (a :: b :: rest) 1

theorem set_append_cons (a x : α) : (front ++ a :: rest).set i x = front ++ x :: rest := by
  subst position; simp

theorem set_append_cons_succ (a b x y : α) :
    ((front ++ a :: b :: rest).set i x).set (i + 1) y = front ++ x :: y :: rest := by
  subst position
  rw [← Nat.add_zero front.length, set_append_length, Nat.add_zero, set_append_length]
  rfl

end Lists

section Runs

variable {tk : Toolkit}

/-- Off a roundabout, a run of quiet steps changes nothing. -/
theorem foldlM_quiet {steps : List RouteStep} (entered : Bool) : ∀ (start count : Nat),
    (∀ i, start ≤ i → i < start + count → ∃ step, steps[i]? = some step ∧ Quiet tk step) →
    (List.range' start count).foldlM (postProcessStep tk) (steps, false, entered) =
      some (steps, false, entered)
  | _, 0, _ => rfl
  | start, count + 1, quiet => by
    obtain ⟨step, at_start, calm⟩ := quiet start le_rfl (by omega)
    rw [List.range'_succ, List.foldlM_cons,
      postProcessStep_quiet at_start calm (by simp) entered]
    exact foldlM_quiet entered (start + 1) count fun i lower upper => quiet i (by omega) (by omega)

theorem exists_quiet_front {front : List RouteStep} (quiet : ∀ step ∈ front, Quiet tk step)
    (back : List RouteStep) :
    ∀ i, 0 ≤ i → i < 0 + front.length → ∃ step, (front ++ back)[i]? = some step ∧ Quiet tk step :=
  fun i _ upper => ⟨front[i], by rw [List.getElem?_append_left (by omega)]; simp,
    quiet _ (List.getElem_mem _)⟩

theorem exists_quiet_back {back : List RouteStep} (quiet : ∀ step ∈ back, Quiet tk step)
    (front : List RouteStep) : ∀ i, front.length ≤ i → i < front.length + back.length →
      ∃ step, (front ++ back)[i]? = some step ∧ Quiet tk step := by
  intro i lower upper
  obtain ⟨j, rfl⟩ := Nat.exists_eq_add_of_le lower
  exact ⟨back[j], by rw [getElem?_append_length]; simp, quiet _ (List.getElem_mem _)⟩

/-- A run of `StayOnRoundabout` steps after a step with exit count `exit` counts one exit each and
hands the count to the step after the run. -/
theorem foldlM_stays (lawful : tk.Lawful) (entered : Bool) :
    ∀ (stays front rest : List RouteStep) (first : RouteStep) (exit : Nat) (onRoundabout : Bool),
      (∀ step ∈ stays, step.maneuver.instruction.type = .stayOnRoundabout) →
      (List.range' front.length stays.length).foldlM (postProcessStep tk)
          (front ++ setHeadExit exit (stays ++ first :: rest), onRoundabout, entered) =
        some (front ++ countFrom exit stays ++ withExit (exit + stays.length) first :: rest,
          onRoundabout || !stays.isEmpty, entered)
  | [], front, rest, first, exit, onRoundabout, _ => by simp [setHeadExit, countFrom]
  | stay :: stays, front, rest, first, exit, onRoundabout, staying => by
    obtain ⟨next, tail, split⟩ : ∃ next tail, stays ++ first :: rest = next :: tail := by
      cases stays <;> simp
    have at_stay : (front ++ setHeadExit exit (stay :: stays ++ first :: rest))[front.length]? =
        some (withExit exit stay) := by
      rw [List.getElem?_append_right (Nat.le_refl _), Nat.sub_self]
      simp [setHeadExit]
    have at_next :
        (front ++ setHeadExit exit (stay :: stays ++ first :: rest))[front.length + 1]? =
          some next := by rw [getElem?_append_length]; simp [setHeadExit, split]
    have counted : ((front ++ setHeadExit exit (stay :: stays ++ first :: rest)).set front.length
        (withExit ((withExit exit stay).maneuver.exit + 1) (withExit exit stay))).set
          (front.length + 1) (withExit ((withExit exit stay).maneuver.exit + 1) next) =
        (front ++ [withExit (exit + 1) stay]) ++ setHeadExit (exit + 1) (stays ++ first :: rest) := by
      simp [setHeadExit, split, withExit]
    have later := foldlM_stays lawful entered stays (front ++ [withExit (exit + 1) stay]) rest first
      (exit + 1) true fun step member => staying step (List.mem_cons_of_mem _ member)
    rw [List.length_append, List.length_singleton] at later
    have count : exit + 1 + stays.length = exit + (stays.length + 1) := by omega
    rw [List.length_cons, List.range'_succ, List.foldlM_cons,
      postProcessStep_stay lawful at_stay (staying stay (List.mem_cons_self _ _)) at_next,
      counted, Option.bind_eq_bind, Option.some_bind, later]
    simp [countFrom, count]

end Runs

/-! ### The backward loops -/

/-- The last iteration of the backward loop of `closeOffRoundabout`, at the entering step `step`
with the rest of the roundabout folded in: a rotary remembers its name and a roundabout
intersection takes the direction from its entry to the exit, and the step takes the exit's
signage. -/
def closeEntry (tk : Toolkit) (exitBearing : ℚ) (destinationCopy step : RouteStep) :
    Option RouteStep := do
  let entryIntersection ← step.intersections.head?
  let type := step.maneuver.instruction.type
  let step ←
    if type = .enterRotary ∨ type = .enterRotaryAtExit then
      pure { step with rotaryName := step.name, rotaryPronunciation := step.pronunciation }
    else if type = .enterRoundaboutIntersection ∨
        type = .enterRoundaboutIntersectionAtExit then do
      let entryBearing ← entryIntersection.bearings[entryIntersection.in]?
      let angle := turnAngle (tk.reverseBearing entryBearing) exitBearing
      pure { step with maneuver.instruction.directionModifier := tk.getTurnDirection angle }
    else pure step
  pure (forwardStepSignage step destinationCopy)

/-- The last iteration of `fixFinalRoundabout`, at the entering step `step` with the rest of the
roundabout folded in: no exit count, a rotary remembers its name and a roundabout intersection
becomes a roundabout. -/
def openEntry (step : RouteStep) : RouteStep :=
  let type := step.maneuver.instruction.type
  let step := { step with maneuver.exit := 0 }
  if type = .enterRotary ∨ type = .enterRotaryAtExit then
    { step with rotaryName := step.name, rotaryPronunciation := step.pronunciation }
  else if type = .enterRoundaboutIntersection ∨ type = .enterRoundaboutIntersectionAtExit then
    { step with maneuver.instruction.type := .enterRoundabout }
  else step

@[simp] theorem forwardInto_instruction (destination source : RouteStep) :
    (forwardInto destination source).maneuver.instruction = destination.maneuver.instruction :=
  rfl

@[simp] theorem mergeRun_instruction (first : RouteStep) (rest : List RouteStep) :
    (mergeRun first rest).maneuver.instruction = first.maneuver.instruction := by
  cases rest <;> rfl

@[simp] theorem mergeRun_name (first : RouteStep) (rest : List RouteStep) :
    (mergeRun first rest).name = first.name := by
  cases rest <;> rfl

/-- The folded step takes the exit count of the last step of the run. -/
theorem mergeRun_exit (first : RouteStep) (mids : List RouteStep) (last : RouteStep) :
    (mergeRun first (mids ++ [last])).maneuver.exit = last.maneuver.exit := by
  induction mids generalizing first with
  | nil => rfl
  | cons next mids ih => exact ih next

/-- Folding the last two steps of a run first folds the same run. -/
theorem mergeRun_append_pair (first : RouteStep) (mids : List RouteStep) (step last : RouteStep) :
    mergeRun first (mids ++ [step, last]) = mergeRun first (mids ++ [forwardInto step last]) := by
  induction mids generalizing first with
  | nil => rfl
  | cons next mids ih => exact congrArg (forwardInto first) (ih next)

/-! ### One iteration of the backward loops -/

section BackwardStep

variable {tk : Toolkit} {steps : List RouteStep} {index : Nat} {step next : RouteStep}

/-- Before the entering step, `propagateRoundabout` folds the step after into the current one and
invalidates it. -/
theorem propagateRoundabout_pass (exitBearing : ℚ) (destinationCopy : RouteStep)
    (at_step : steps[index + 1]? = some step) (at_next : steps[index + 2]? = some next)
    (passes : tk.entersRoundabout step.maneuver.instruction = false) :
    propagateRoundabout tk exitBearing destinationCopy steps (index + 1) =
      propagateRoundabout tk exitBearing destinationCopy
        ((steps.set (index + 1) (forwardInto step next)).set (index + 2) (invalidRouteStep tk))
        index := by
  simp [propagateRoundabout, at_step, at_next, passes]

/-- At the entering step, `propagateRoundabout` stops with `closeEntry`. -/
theorem propagateRoundabout_entry (exitBearing : ℚ) (destinationCopy : RouteStep)
    (at_step : steps[index + 1]? = some step) (at_next : steps[index + 2]? = some next)
    (enters : tk.entersRoundabout step.maneuver.instruction = true) :
    propagateRoundabout tk exitBearing destinationCopy steps (index + 1) =
      (closeEntry tk exitBearing destinationCopy (forwardInto step next)).bind fun closed =>
        some ((steps.set (index + 1) closed).set (index + 2) (invalidRouteStep tk)) := by
  simp only [propagateRoundabout, at_step, at_next, Option.bind_eq_bind, Option.some_bind,
    forwardInto_instruction, enters, ↓reduceIte, closeEntry, Option.pure_def, Option.bind_assoc]
  congr 1
  funext entryIntersection
  split_ifs <;> simp only [Option.bind_assoc, Option.some_bind, Option.bind_eq_bind]

/-- At an entering step, `fixFinalRoundabout` stops with `openEntry`. -/
theorem fixFinalRoundabout_enter (at_step : steps[index + 1]? = some step)
    (enters : tk.entersRoundabout step.maneuver.instruction = true) :
    fixFinalRoundabout tk steps (index + 1) = some (steps.set (index + 1) (openEntry step)) := by
  simp only [fixFinalRoundabout, at_step, Option.bind_eq_bind, Option.some_bind, enters,
    ↓reduceIte, openEntry, Option.pure_def]

/-- A `StayOnRoundabout` step is folded into the step before it by `fixFinalRoundabout`. -/
theorem fixFinalRoundabout_stay (lawful : tk.Lawful) (at_step : steps[index + 1]? = some step)
    (stay : step.maneuver.instruction.type = .stayOnRoundabout) {previous : RouteStep}
    (at_previous : steps[index]? = some previous) :
    fixFinalRoundabout tk steps (index + 1) =
      fixFinalRoundabout tk ((steps.set index (forwardInto previous step)).set (index + 1)
        (invalidRouteStep tk)) index := by
  simp [fixFinalRoundabout, at_step, not_entersRoundabout_of_stay lawful stay, stay, at_previous]

/-- `fixFinalRoundabout` passes over a step of any other kind. -/
theorem fixFinalRoundabout_skip (at_step : steps[index + 1]? = some step)
    (not_enters : tk.entersRoundabout step.maneuver.instruction = false)
    (not_stay : step.maneuver.instruction.type ≠ .stayOnRoundabout) :
    fixFinalRoundabout tk steps (index + 1) = fixFinalRoundabout tk steps index := by
  simp [fixFinalRoundabout, at_step, not_enters, not_stay]

end BackwardStep

/-! ### Runs of the backward loops -/

section Backward

variable {tk : Toolkit} {front : List RouteStep} (nonempty : front ≠ [])
include nonempty

theorem exists_length_eq_succ : ∃ index, front.length = index + 1 :=
  ⟨front.length - 1, by have := List.length_pos.mpr nonempty; omega⟩

/-- The backward loop of `closeOffRoundabout` from the last step before the exit: the steps after
the entering step are folded into it, and invalidated. -/
theorem propagateRoundabout_run (exitBearing : ℚ) (destinationCopy enter : RouteStep)
    (enters : tk.entersRoundabout enter.maneuver.instruction = true) (mids : List RouteStep) :
    ∀ (last : RouteStep) (back : List RouteStep),
      (∀ step ∈ mids, tk.entersRoundabout step.maneuver.instruction = false) →
      propagateRoundabout tk exitBearing destinationCopy (front ++ enter :: (mids ++ last :: back))
          (front.length + mids.length) =
        (closeEntry tk exitBearing destinationCopy (mergeRun enter (mids ++ [last]))).bind
          fun closed => some (front ++ closed ::
            (List.replicate (mids.length + 1) (invalidRouteStep tk) ++ back)) := by
  induction mids using List.reverseRecOn with
  | nil =>
    intro last back _
    obtain ⟨index, length⟩ := exists_length_eq_succ nonempty
    rw [List.nil_append, List.length_nil, Nat.add_zero, length,
      propagateRoundabout_entry exitBearing destinationCopy (getElem?_append_cons _ _ length _)
        (getElem?_append_cons_succ _ _ length _ _) enters]
    simp only [set_append_cons_succ _ _ length, mergeRun, Nat.zero_add, List.replicate_one,
      List.singleton_append]
  | append_singleton mids step ih =>
    intro last back outside
    have position : (front ++ enter :: mids).length = front.length + mids.length + 1 := by
      simp only [List.length_append, List.length_cons]; omega
    rw [List.append_assoc, List.singleton_append, ← List.cons_append, ← List.append_assoc,
      List.length_append, List.length_singleton, ← Nat.add_assoc,
      propagateRoundabout_pass exitBearing destinationCopy (getElem?_append_cons _ _ position _)
        (getElem?_append_cons_succ _ _ position _ _) (outside step (by simp)),
      set_append_cons_succ _ _ position, List.append_assoc, List.cons_append,
      ih _ _ fun other member => outside other (List.mem_append_left _ member)]
    simp only [List.replicate_succ', List.append_assoc, List.singleton_append, List.cons_append,
      List.nil_append, mergeRun_append_pair]

/-- The loop of `fixFinalRoundabout` from the last `StayOnRoundabout` step of a roundabout still
open at the arrive: the steps are folded into the entering step, which takes no exit count. -/
theorem fixFinalRoundabout_run (lawful : tk.Lawful) (enter : RouteStep)
    (enters : tk.entersRoundabout enter.maneuver.instruction = true) (mids : List RouteStep) :
    ∀ (last : RouteStep) (back : List RouteStep),
      (∀ step ∈ mids, step.maneuver.instruction.type = .stayOnRoundabout) →
      last.maneuver.instruction.type = .stayOnRoundabout →
      fixFinalRoundabout tk (front ++ enter :: (mids ++ last :: back))
          (front.length + mids.length + 1) =
        some (front ++ openEntry (mergeRun enter (mids ++ [last])) ::
          (List.replicate (mids.length + 1) (invalidRouteStep tk) ++ back)) := by
  induction mids using List.reverseRecOn with
  | nil =>
    intro last back _ stay
    obtain ⟨index, length⟩ := exists_length_eq_succ nonempty
    rw [List.nil_append, List.length_nil, Nat.add_zero,
      fixFinalRoundabout_stay lawful (getElem?_append_cons_succ _ _ rfl _ _) stay
        (getElem?_append_cons _ _ rfl _),
      set_append_cons_succ _ _ rfl, length,
      fixFinalRoundabout_enter (getElem?_append_cons _ _ length _)
        (by rw [forwardInto_instruction]; exact enters),
      set_append_cons _ _ length]
    rfl
  | append_singleton mids step ih =>
    intro last back staying stay
    have position : (front ++ enter :: mids).length = front.length + mids.length + 1 := by
      simp only [List.length_append, List.length_cons]; omega
    rw [List.append_assoc, List.singleton_append, ← List.cons_append, ← List.append_assoc,
      List.length_append, List.length_singleton, ← Nat.add_assoc,
      fixFinalRoundabout_stay lawful (getElem?_append_cons_succ _ _ position _ _) stay
        (getElem?_append_cons _ _ position _),
      set_append_cons_succ _ _ position, List.append_assoc, List.cons_append,
      ih _ _ (fun other member => staying other (List.mem_append_left _ member))
        (by rw [forwardInto_instruction]; exact staying step (by simp))]
    simp only [List.replicate_succ', List.append_assoc, List.singleton_append, List.cons_append,
      List.nil_append, mergeRun_append_pair]

/-- `fixFinalRoundabout` from the last `StayOnRoundabout` step of an open roundabout, or from its
entering step when there is none. -/
theorem fixFinalRoundabout_open (lawful : tk.Lawful) (enter : RouteStep)
    (enters : tk.entersRoundabout enter.maneuver.instruction = true) (stays back : List RouteStep)
    (staying : ∀ step ∈ stays, step.maneuver.instruction.type = .stayOnRoundabout) :
    fixFinalRoundabout tk (front ++ enter :: (stays ++ back)) (front.length + stays.length) =
      some (front ++ openEntry (mergeRun enter stays) ::
        (List.replicate stays.length (invalidRouteStep tk) ++ back)) := by
  rcases List.eq_nil_or_concat stays with rfl | ⟨mids, last, rfl⟩
  · obtain ⟨index, length⟩ := exists_length_eq_succ nonempty
    rw [List.nil_append, List.length_nil, Nat.add_zero, length,
      fixFinalRoundabout_enter (getElem?_append_cons _ _ length _) enters,
      set_append_cons _ _ length]
    rfl
  · simp only [List.concat_eq_append, List.length_append, List.length_singleton, ← Nat.add_assoc,
      List.append_assoc, List.singleton_append] at staying ⊢
    exact fixFinalRoundabout_run nonempty lawful enter enters mids last back
      (fun step member => staying step (List.mem_append_left _ member))
      (staying last (List.mem_append_right _ (List.mem_singleton_self _)))

end Backward

/-! ### The folded step -/

/-- The first intersection of a step exists and `index` of it indexes its bearings. -/
def HeadReads (index : Intersection → Nat) (step : RouteStep) : Prop :=
  ∃ front rest, step.intersections = front :: rest ∧ index front < front.bearings.length

/-- A step whose geometry holds at least two locations. -/
def Spanning (step : RouteStep) : Prop := step.geometryBegin + 1 < step.geometryEnd

/-- What a step folded from the run `first :: rest` keeps of it: `first`'s location and start, the
time and length of the whole run, the end of its last step, and the intersections of all its steps
in order. -/
structure Spans (first : RouteStep) (rest : List RouteStep) (merged : RouteStep) : Prop where
  location : merged.maneuver.location = first.maneuver.location
  duration : merged.duration = totalDuration ((first :: rest).map RouteStep.segment)
  distance : merged.distance = totalDistance ((first :: rest).map RouteStep.segment)
  geometryBegin : merged.geometryBegin = first.geometryBegin
  geometryEnd : merged.geometryEnd = ((first :: rest).getLast (List.cons_ne_nil _ _)).geometryEnd
  intersections : merged.intersections = (first :: rest).flatMap RouteStep.intersections

section Spans

variable {first merged : RouteStep} {rest : List RouteStep}

/-- `Spans` reads a step only through its location, its segment and its intersections. -/
theorem Spans.of_same (spans : Spans first rest merged) {other : RouteStep}
    (location : other.maneuver.location = merged.maneuver.location)
    (segment : other.segment = merged.segment)
    (intersections : other.intersections = merged.intersections) : Spans first rest other := by
  obtain ⟨at_first, duration, distance, geometryBegin, geometryEnd, front⟩ := spans
  simp only [RouteStep.segment, Segment.mk.injEq] at segment
  exact ⟨location.trans at_first, segment.2.2.1.trans duration, segment.2.2.2.1.trans distance,
    segment.1.trans geometryBegin, segment.2.1.trans geometryEnd, intersections ▸ front⟩

/-- `Spans` reads a run only through its first step's location and the segments and intersections
of its steps. -/
theorem Spans.of_segments (spans : Spans first rest merged) {first' : RouteStep}
    {rest' : List RouteStep} (location : first'.maneuver.location = first.maneuver.location)
    (intersections : (first' :: rest').map RouteStep.intersections =
      (first :: rest).map RouteStep.intersections)
    (segments : (first' :: rest').map RouteStep.segment = (first :: rest).map RouteStep.segment) :
    Spans first' rest' merged := by
  obtain ⟨at_first, duration, distance, geometryBegin, geometryEnd, passed⟩ := spans
  have heads := congrArg Segment.geometryBegin (List.cons.inj segments).1
  have lasts := congrArg Segment.geometryEnd
    (List.getLast_congr (by simp) (by simp) segments)
  simp only [List.getLast_map, RouteStep.segment] at heads lasts
  exact ⟨location ▸ at_first, segments ▸ duration, segments ▸ distance, heads ▸ geometryBegin,
    lasts ▸ geometryEnd, passed.trans (congrArg List.flatten intersections.symm)⟩

end Spans

/-- Folding a linked run of steps that each span two locations keeps what `Spans` says, and the
folded step spans two locations again. -/
theorem mergeRun_spans : ∀ (first : RouteStep) (rest : List RouteStep),
    ((first :: rest).map RouteStep.segment).Chain' Segment.Linked →
    (∀ step ∈ first :: rest, Spanning step) →
    Spans first rest (mergeRun first rest) ∧ Spanning (mergeRun first rest)
  | first, [], _, spanning =>
    ⟨⟨rfl, by simp [mergeRun, totalDuration, RouteStep.segment],
      by simp [mergeRun, totalDistance, RouteStep.segment], rfl, rfl, by simp [mergeRun]⟩,
      spanning first (List.mem_singleton_self _)⟩
  | first, next :: rest, chain, spanning => by
    obtain ⟨linked, chain⟩ := List.chain'_cons.mp chain
    obtain ⟨⟨-, duration, distance, geometryBegin, geometryEnd, passed⟩, folded⟩ :=
      mergeRun_spans next rest chain fun step member => spanning step (List.mem_cons_of_mem _ member)
    have own := spanning first (List.mem_cons_self _ _)
    simp only [Spanning, Segment.Linked, RouteStep.segment] at own linked folded
    have before : first.geometryBegin < (mergeRun next rest).geometryBegin := by omega
    have after : first.geometryEnd ≤ (mergeRun next rest).geometryEnd := by omega
    show Spans first (next :: rest) (forwardInto first (mergeRun next rest)) ∧
      Spanning (forwardInto first (mergeRun next rest))
    refine ⟨⟨rfl, ?_, ?_, ?_, ?_, ?_⟩, ?_⟩
    · simp only [forwardInto, duration, totalDuration, List.map_cons, List.sum_cons,
        RouteStep.segment]
    · simp only [forwardInto, distance, totalDistance, List.map_cons, List.sum_cons,
        RouteStep.segment]
    · exact min_eq_left before.le
    · show max first.geometryEnd (mergeRun next rest).geometryEnd = _
      rw [max_eq_right after, geometryEnd, List.getLast_cons_cons]
    · show (if _ then _ else _) = _
      rw [if_pos before, passed]
      simp only [List.flatMap_cons]
    · simp only [Spanning, forwardInto, min_eq_left before.le, max_eq_right after]
      omega

/-- `Spans` of a run folded after its steps were rewritten without touching their segments and
intersections, nor the first step's location. -/
theorem mergeRun_spans_of_segments {first : RouteStep} {rest : List RouteStep}
    (chain : ((first :: rest).map RouteStep.segment).Chain' Segment.Linked)
    (spanning : ∀ step ∈ first :: rest, Spanning step) (first' : RouteStep) (rest' : List RouteStep)
    (location : first.maneuver.location = first'.maneuver.location)
    (intersections : (first' :: rest').map RouteStep.intersections =
      (first :: rest).map RouteStep.intersections)
    (segments : (first' :: rest').map RouteStep.segment = (first :: rest).map RouteStep.segment) :
    Spans first rest (mergeRun first' rest') := by
  have spanning' : ∀ step ∈ first' :: rest', Spanning step := by
    intro step member
    obtain ⟨original, inside, same⟩ :=
      List.mem_map.mp (segments ▸ List.mem_map_of_mem RouteStep.segment member)
    have wide := spanning original inside
    simp only [RouteStep.segment, Segment.mk.injEq] at same
    simp only [Spanning, ← same.1, ← same.2.1] at wide ⊢
    exact wide
  exact (mergeRun_spans first' rest' (segments ▸ chain) spanning').1.of_segments location
    intersections.symm segments.symm

/-- `closeEntry` on a step whose entry is readable: the step with the exit's signage, a rotary's
own name as its rotary name, and the direction modifier the loop chooses. -/
theorem closeEntry_eq (tk : Toolkit) (exitBearing : ℚ) (destinationCopy : RouteStep)
    {step : RouteStep} (reads : HeadReads Intersection.in step) :
    ∃ modifier, closeEntry tk exitBearing destinationCopy step = some (forwardStepSignage
      (if step.maneuver.instruction.type = .enterRotary ∨
          step.maneuver.instruction.type = .enterRotaryAtExit then
        { step with rotaryName := step.name, rotaryPronunciation := step.pronunciation }
      else { step with maneuver.instruction.directionModifier := modifier }) destinationCopy) := by
  obtain ⟨front, rest, entry, inside⟩ := reads
  simp only [closeEntry, entry, List.head?_cons, Option.bind_eq_bind, Option.some_bind,
    Option.pure_def]
  split_ifs
  · exact ⟨step.maneuver.instruction.directionModifier, rfl⟩
  · exact ⟨tk.getTurnDirection (turnAngle (tk.reverseBearing front.bearings[front.in]) exitBearing),
      by simp [List.getElem?_eq_getElem inside]⟩
  · exact ⟨step.maneuver.instruction.directionModifier, by rw [← entry]⟩

/-! ### A roundabout in the exit-counting loop -/

/-- A roundabout entered at `enter` and passed through by `stays`: `enter` enters without also
leaving, the steps after it are `StayOnRoundabout`, and every one of these steps spans two
locations. -/
structure EnteredRun (tk : Toolkit) (enter : RouteStep) (stays : List RouteStep) : Prop where
  enters : tk.entersRoundabout enter.maneuver.instruction = true
  enter_stays : tk.leavesRoundabout enter.maneuver.instruction = false
  staying : ∀ step ∈ stays, step.maneuver.instruction.type = .stayOnRoundabout
  spanning : ∀ step ∈ enter :: stays, Spanning step

/-- A roundabout closed by `exit`, which leaves without entering and spans two locations; the
entry and the exit bearing are readable, as `closeOffRoundabout` reads them without a check. -/
structure ClosedRun (tk : Toolkit) (enter : RouteStep) (stays : List RouteStep) (exit : RouteStep)
    extends EnteredRun tk enter stays : Prop where
  entry_reads : HeadReads Intersection.in enter
  leaves : tk.leavesRoundabout exit.maneuver.instruction = true
  exit_not_enters : tk.entersRoundabout exit.maneuver.instruction = false
  exit_not_stay : exit.maneuver.instruction.type ≠ .stayOnRoundabout
  exit_reads : HeadReads Intersection.out exit
  exit_spanning : Spanning exit

section Loop

variable {tk : Toolkit} {front : List RouteStep}

theorem entersRoundabout_enteredStep (lawful : tk.Lawful) {step : RouteStep}
    (enters : tk.entersRoundabout step.maneuver.instruction = true) :
    tk.entersRoundabout (enteredStep step).maneuver.instruction = true := by
  cases atExit : isAtExit step.maneuver.instruction.type
  · rwa [enteredStep_of_not_atExit atExit]
  · simp only [isAtExit, Bool.or_eq_true, decide_eq_true_eq] at atExit
    apply lawful.entersRoundabout_enter
    rcases atExit with (form | form) | form <;> simp [plainEnterType, form]

/-- The exit-counting loop over a roundabout still open at the arrive: the exits are counted as
for a closed one, and the arrive takes the count. -/
theorem foldlM_openRoundabout (lawful : tk.Lawful) {enter arrive : RouteStep}
    {stays : List RouteStep} (run : EnteredRun tk enter stays) (quiet : Quiet tk arrive)
    (onRoundabout entered : Bool) :
    (List.range' front.length (stays.length + 2)).foldlM (postProcessStep tk)
        (front ++ enter :: (stays ++ [arrive]), onRoundabout, entered) =
      some (front ++ enteredStep enter :: (countFrom (enteredStep enter).maneuver.exit stays ++
        [withExit ((enteredStep enter).maneuver.exit + stays.length) arrive]),
        onRoundabout || !stays.isEmpty, true) := by
  obtain ⟨next, tail, split⟩ : ∃ next tail, stays ++ [arrive] = next :: tail := by
    cases stays <;> simp
  have ranges : List.range' front.length (stays.length + 2) = front.length ::
      (List.range' (front.length + 1) stays.length ++ [front.length + 1 + stays.length]) := by
    rw [List.range'_succ, List.range'_concat, Nat.one_mul]
  have at_next : (front ++ enter :: (stays ++ [arrive]))[front.length + 1]? = some next := by
    rw [split]; exact getElem?_append_cons_succ _ _ rfl _ _
  have started : ((front ++ enter :: (stays ++ [arrive])).set front.length
      (enteredStep enter)).set (front.length + 1) (withExit (enteredStep enter).maneuver.exit next) =
        (front ++ [enteredStep enter]) ++
          setHeadExit (enteredStep enter).maneuver.exit (stays ++ [arrive]) := by
    rw [split, set_append_cons_succ _ _ rfl]; simp [setHeadExit]
  have counted := foldlM_stays lawful true stays (front ++ [enteredStep enter]) [] arrive
    (enteredStep enter).maneuver.exit onRoundabout run.staying
  rw [List.length_append, List.length_singleton] at counted
  have position : (front ++ [enteredStep enter] ++
      countFrom (enteredStep enter).maneuver.exit stays).length =
        front.length + 1 + stays.length := by simp [length_countFrom]; omega
  rw [ranges, List.foldlM_cons,
    postProcessStep_enter (getElem?_append_cons _ _ rfl _) run.enters run.enter_stays at_next,
    Option.bind_eq_bind, Option.some_bind, started, List.foldlM_append, counted,
    Option.bind_eq_bind, Option.some_bind, List.foldlM_cons,
    postProcessStep_quiet (getElem?_append_cons _ _ position
      (withExit ((enteredStep enter).maneuver.exit + stays.length) arrive)) quiet
      (fun _ => by simp [length_countFrom]; omega)]
  simp

variable (nonempty : front ≠ [])
include nonempty

/-- `closeOffRoundabout` at the exit of a roundabout entered before it: the exit counts itself and
the backward loop folds the roundabout into its entering step. -/
theorem closeOffRoundabout_run (enter : RouteStep)
    (enters : tk.entersRoundabout enter.maneuver.instruction = true) (mids : List RouteStep)
    (outside : ∀ step ∈ mids, tk.entersRoundabout step.maneuver.instruction = false)
    (last : RouteStep) (back : List RouteStep) (reads : HeadReads Intersection.out last) :
    ∃ exitBearing, closeOffRoundabout tk true (front ++ enter :: (mids ++ last :: back))
        (front.length + mids.length + 1) =
      (closeEntry tk exitBearing (withExit (last.maneuver.exit + 1) last)
        (mergeRun enter (mids ++ [withExit (last.maneuver.exit + 1) last]))).bind fun closed =>
          some (front ++ closed :: (List.replicate (mids.length + 1) (invalidRouteStep tk) ++ back)) := by
  obtain ⟨exitFront, rest, exits, out⟩ := reads
  obtain ⟨index, length⟩ := exists_length_eq_succ nonempty
  have position : (front ++ enter :: mids).length = front.length + mids.length + 1 := by
    simp only [List.length_append, List.length_cons]; omega
  have regroup : ∀ step : RouteStep,
      front ++ enter :: (mids ++ step :: back) = (front ++ enter :: mids) ++ step :: back := by simp
  have inside : front.length + mids.length + 1 > 1 := by omega
  refine ⟨exitFront.bearings[exitFront.out], ?_⟩
  rw [regroup]
  simp only [closeOffRoundabout, getElem?_append_cons _ _ position, set_append_cons _ _ position,
    Option.bind_eq_bind, Option.some_bind, ↓reduceIte, Option.pure_def, exits, List.head?_cons,
    List.getElem?_eq_getElem out, if_pos inside, Nat.add_sub_cancel]
  rw [← regroup, propagateRoundabout_run nonempty _ _ _ enters _ _ _ outside, ← exits]
  rfl

/-- The exit-counting loop over a closed roundabout: the entering step counts from its own exit
count, each `StayOnRoundabout` step adds one, and the exit adds one and closes the roundabout. -/
theorem foldlM_closedRoundabout (lawful : tk.Lawful) {enter exit : RouteStep}
    {stays : List RouteStep} (run : ClosedRun tk enter stays exit) (back : List RouteStep)
    (onRoundabout entered : Bool) :
    ∃ exitBearing, (List.range' front.length (stays.length + 2)).foldlM (postProcessStep tk)
        (front ++ enter :: (stays ++ exit :: back), onRoundabout, entered) =
      (closeEntry tk exitBearing
        (withExit ((enteredStep enter).maneuver.exit + stays.length + 1) exit)
        (mergeRun (enteredStep enter) (countFrom (enteredStep enter).maneuver.exit stays ++
          [withExit ((enteredStep enter).maneuver.exit + stays.length + 1) exit]))).bind
        fun closed => some (front ++ closed ::
          (List.replicate (stays.length + 1) (invalidRouteStep tk) ++ back), false, false) := by
  obtain ⟨next, tail, split⟩ : ∃ next tail, stays ++ exit :: back = next :: tail := by
    cases stays <;> simp
  have ranges : List.range' front.length (stays.length + 2) = front.length ::
      (List.range' (front.length + 1) stays.length ++ [front.length + 1 + stays.length]) := by
    rw [List.range'_succ, List.range'_concat, Nat.one_mul]
  have at_next : (front ++ enter :: (stays ++ exit :: back))[front.length + 1]? = some next := by
    rw [split]; exact getElem?_append_cons_succ _ _ rfl _ _
  have started : ((front ++ enter :: (stays ++ exit :: back)).set front.length
      (enteredStep enter)).set (front.length + 1) (withExit (enteredStep enter).maneuver.exit next) =
        (front ++ [enteredStep enter]) ++
          setHeadExit (enteredStep enter).maneuver.exit (stays ++ exit :: back) := by
    rw [split, set_append_cons_succ _ _ rfl]; simp [setHeadExit]
  have counted := foldlM_stays lawful true stays (front ++ [enteredStep enter]) back exit
    (enteredStep enter).maneuver.exit onRoundabout run.staying
  rw [List.length_append, List.length_singleton] at counted
  have position : (front ++ [enteredStep enter] ++
      countFrom (enteredStep enter).maneuver.exit stays).length =
        front.length + 1 + stays.length := by simp [length_countFrom]; omega
  have regroup : front ++ [enteredStep enter] ++ countFrom (enteredStep enter).maneuver.exit stays ++
      withExit ((enteredStep enter).maneuver.exit + stays.length) exit :: back =
        front ++ enteredStep enter :: (countFrom (enteredStep enter).maneuver.exit stays ++
          withExit ((enteredStep enter).maneuver.exit + stays.length) exit :: back) := by simp
  have index : front.length + 1 + stays.length =
      front.length + (countFrom (enteredStep enter).maneuver.exit stays).length + 1 := by
    rw [length_countFrom]; omega
  obtain ⟨exitBearing, closing⟩ := closeOffRoundabout_run nonempty (enteredStep enter)
    (entersRoundabout_enteredStep lawful run.enters)
    (countFrom (enteredStep enter).maneuver.exit stays)
    (fun step member => not_entersRoundabout_of_stay lawful
      ((forall_countFrom (P := fun step => step.maneuver.instruction.type = .stayOnRoundabout)
      (fun _ _ => Iff.rfl) _ _).mpr run.staying step member))
    (withExit ((enteredStep enter).maneuver.exit + stays.length) exit) back run.exit_reads
  refine ⟨exitBearing, ?_⟩
  rw [ranges, List.foldlM_cons,
    postProcessStep_enter (getElem?_append_cons _ _ rfl _) run.enters run.enter_stays at_next,
    Option.bind_eq_bind, Option.some_bind, started, List.foldlM_append, counted,
    Option.bind_eq_bind, Option.some_bind, List.foldlM_cons,
    postProcessStep_leave (getElem?_append_cons _ _ position
      (withExit ((enteredStep enter).maneuver.exit + stays.length) exit)) run.exit_not_enters
      run.exit_not_stay run.leaves, regroup, index, closing]
  simp only [List.foldlM_nil, Option.bind_eq_bind, Option.bind_assoc, Option.some_bind,
    exit_withExit, withExit_withExit, Option.pure_def, length_countFrom]

end Loop

/-- A depart on road `A`, at the start of the leg geometry. -/
def roundaboutDepart : RouteStep :=
  ⟨1, "A", "", "", "", "", "", 10, 100, 1, ⟨⟨0, 0⟩, 0, 90, ⟨.noTurn, .uTurn⟩, .depart, 0⟩, 0, 2,
    [⟨[90], [true], Intersection.noIndex, 0, ⟨0, 0⟩, []⟩]⟩

/-- A step of the given type on road `R`, over the two locations from `start`. -/
def roundaboutStep (type : TurnType) (start : Nat) : RouteStep :=
  ⟨2, "R", "", "", "", "", "", 5, 50, 1, ⟨⟨0, 0⟩, 0, 0, ⟨type, .straight⟩, .none, 0⟩, start,
    start + 2, [⟨[0, 180], [true, true], 0, 1, ⟨0, 0⟩, []⟩]⟩

/-- The arrive, at location `start`. -/
def roundaboutArrive (start : Nat) : RouteStep :=
  ⟨2, "R", "", "", "", "", "", 0, 0, 1, ⟨⟨0, 0⟩, 0, 0, ⟨.noTurn, .uTurn⟩, .arrive, 0⟩, start,
    start + 1, [⟨[0], [true], 0, Intersection.noIndex, ⟨0, 0⟩, []⟩]⟩

/-- A leg that enters and leaves a roundabout and later has a `StayOnRoundabout` step that no step
enters. -/
def strayStayLeg : List RouteStep :=
  [roundaboutDepart, roundaboutStep .enterRoundabout 1, roundaboutStep .exitRoundabout 2,
    roundaboutStep .turn 3, roundaboutStep .stayOnRoundabout 4, roundaboutArrive 5]

/-- The stray `StayOnRoundabout` leaves `on_roundabout` set at the arrive, and `fixFinalRoundabout`
walks back over the closed roundabout, whose folded step loses its exit count `1`. -/
theorem postProcess_strayStay :
    LegInvariant strayStayLeg ∧ (∀ step ∈ strayStayLeg, step.maneuver.exit = 0) ∧
      (postProcess sampleToolkit strayStayLeg).map
          (List.map fun step => (step.maneuver.instruction.type, step.maneuver.exit)) =
        some [(.noTurn, 0), (.enterRoundabout, 0), (.turn, 1), (.noTurn, 1)] := by
  refine ⟨⟨⟨_, [_, _, _, _], _, rfl, ⟨rfl, ⟨_, _, rfl, rfl, rfl⟩, rfl⟩,
    by simp [MiddleStep, roundaboutStep], ⟨rfl, _, rfl, rfl, rfl⟩⟩, by
      simp [strayStayLeg, RouteStep.segment, Segment.Linked, roundaboutDepart, roundaboutStep,
        roundaboutArrive]⟩, by decide, by decide⟩

end Osrm.Engine.Guidance
