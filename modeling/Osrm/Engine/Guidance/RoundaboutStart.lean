import Osrm.Engine.Guidance.Roundabout

/-!
# Legs that start on a roundabout

A leg whose first roundabout instructions after the depart are `StayOnRoundabout` steps and an
exit, with no step entering before them, starts on the roundabout. The exit-counting loop then
meets the exit with `has_entered_roundabout` down, and `closeOffRoundabout`
(`post_processing.cpp:248-345`) first moves the depart's time and length into the step after it,
which starts at the depart's location and becomes the entering step (`startOnRoundabout`, whose
result is `startedStep`), and then folds the rest of the roundabout into that step as for an
entered one. The depart keeps only its first location: on segments this is the drain of
`Segment.drainDepart` and `Segment.drainInto`. `foldlM_startRoundabout` states the whole run and
`FoldedStart` what it leaves.

A leg that starts on a roundabout and never leaves it is folded into its depart by
`fixFinalRoundabout` (`fixFinalRoundabout_depart`).
-/

namespace Osrm.Engine.Guidance

/-! ### `startOnRoundabout` -/

/-- The step `startOnRoundabout` makes of the step after a depart that carries one intersection:
it starts at the depart's location, takes the depart's time, length and exit count (the count `1`
if it leaves the roundabout itself), keeps its own intersections, and enters the roundabout with
the type the exit maps to, a rotary taking the depart's name. -/
def startedStep (tk : Toolkit) (exitType : TurnType) (depart first : RouteStep) : RouteStep :=
  let step := { forwardInto { first with geometryBegin := 0 } { depart with geometryEnd := 1 } with
    intersections := first.intersections }
  let step :=
    if tk.leavesRoundabout step.maneuver.instruction then { step with maneuver.exit := 1 } else step
  let step := { step with maneuver.instruction.type := exitToEnter exitType }
  if step.maneuver.instruction.type = .enterRotary then
    { step with rotaryName := depart.name, rotaryPronunciation := depart.pronunciation }
  else step

/-- A step with its exit count written in place is `withExit`. -/
theorem update_exit_eq_withExit (step : RouteStep) (exit : Nat) :
    { step with maneuver.exit := exit } = withExit exit step := rfl

@[simp] theorem intersections_withExit (exit : Nat) (step : RouteStep) :
    (withExit exit step).intersections = step.intersections := rfl

@[simp] theorem mergeRun_waypointType (first : RouteStep) (rest : List RouteStep) :
    (mergeRun first rest).maneuver.waypointType = first.maneuver.waypointType := by
  cases rest <;> rfl

@[simp] theorem notIsValid_mergeRun (tk : Toolkit) (first : RouteStep) (rest : List RouteStep) :
    notIsValid tk (mergeRun first rest) = notIsValid tk first := by
  simp [notIsValid]

@[simp] theorem notIsValid_withExit (tk : Toolkit) (exit : Nat) (step : RouteStep) :
    notIsValid tk (withExit exit step) = notIsValid tk step := rfl

section Started

variable {tk : Toolkit} {exitType : TurnType} {depart first : RouteStep}

theorem exitToEnter_cases (type : TurnType) :
    exitToEnter type = .enterRotary ∨ exitToEnter type = .enterRoundabout := by
  unfold exitToEnter
  split_ifs <;> simp

@[simp] theorem startedStep_type :
    (startedStep tk exitType depart first).maneuver.instruction.type = exitToEnter exitType := by
  simp only [startedStep]
  split_ifs <;> rfl

@[simp] theorem startedStep_waypointType :
    (startedStep tk exitType depart first).maneuver.waypointType = first.maneuver.waypointType := by
  simp only [startedStep]
  split_ifs <;> rfl

@[simp] theorem startedStep_intersections :
    (startedStep tk exitType depart first).intersections = first.intersections := by
  simp only [startedStep]
  split_ifs <;> rfl

@[simp] theorem startedStep_location :
    (startedStep tk exitType depart first).maneuver.location = first.maneuver.location := by
  simp only [startedStep]
  split_ifs <;> rfl

/-- The started step is the step after the depart with the depart drained into it. -/
theorem startedStep_segment (reaches : 1 ≤ first.geometryEnd) :
    (startedStep tk exitType depart first).segment = first.segment.drainInto depart.segment := by
  simp only [startedStep]
  split_ifs <;> simp [RouteStep.segment, forwardInto, Segment.drainInto, add_comm,
    max_eq_left reaches]

theorem entersRoundabout_startedStep (lawful : tk.Lawful) :
    tk.entersRoundabout (startedStep tk exitType depart first).maneuver.instruction = true := by
  apply lawful.entersRoundabout_enter
  rw [startedStep_type]
  rcases exitToEnter_cases exitType with form | form <;> simp [form]

/-- `startOnRoundabout` on a depart that carries one intersection and starts the leg geometry. -/
theorem startOnRoundabout_eq (rest : List RouteStep) (single : depart.intersections.length = 1)
    (departBegin : depart.geometryBegin = 0) :
    startOnRoundabout tk exitType (depart :: first :: rest) =
      some ({ depart with geometryEnd := 1, duration := 0, distance := 0 } ::
        startedStep tk exitType depart first :: rest) := by
  obtain ⟨entry, only⟩ := List.length_eq_one.mp single
  simp only [startOnRoundabout, forwardInto, only, departBegin, List.getElem?_cons_zero,
    List.getElem?_cons_succ, Option.bind_eq_bind, Option.some_bind, lt_self_iff_false,
    ↓reduceIte, List.singleton_append, Option.pure_def]
  simp only [startedStep]
  simp only [forwardInto, departBegin, lt_self_iff_false, ↓reduceIte]
  split_ifs <;> rfl

@[simp] theorem startedStep_withExit (exit : Nat) :
    startedStep tk exitType depart (withExit exit first) = startedStep tk exitType depart first :=
  rfl

/-- The started step keeps the signage of the step it is made of. -/
theorem forwardStepSignage_startedStep :
    forwardStepSignage (startedStep tk exitType depart first) first =
      startedStep tk exitType depart first := by
  simp only [startedStep]
  split_ifs <;> rfl

/-- The started step spans two locations when the step it is made of does. -/
theorem spanning_startedStep (spanning : Spanning first) :
    Spanning (startedStep tk exitType depart first) := by
  unfold Spanning at spanning ⊢
  have segment : (startedStep tk exitType depart first).segment =
      first.segment.drainInto depart.segment := startedStep_segment (by omega)
  simp only [RouteStep.segment, Segment.drainInto, Segment.mk.injEq] at segment
  omega

end Started

/-- `closeEntry` on a step that enters a rotary or a roundabout reads no bearing of its entry. -/
theorem closeEntry_of_plain (tk : Toolkit) (exitBearing : ℚ) (destinationCopy : RouteStep)
    {step : RouteStep} (nonempty : step.intersections ≠ [])
    (plain : step.maneuver.instruction.type = .enterRotary ∨
      step.maneuver.instruction.type = .enterRoundabout) :
    closeEntry tk exitBearing destinationCopy step = some (forwardStepSignage
      (if step.maneuver.instruction.type = .enterRotary then
        { step with rotaryName := step.name, rotaryPronunciation := step.pronunciation }
      else step) destinationCopy) := by
  obtain ⟨front, rest, split⟩ := List.exists_cons_of_ne_nil nonempty
  rcases plain with form | form <;> simp [closeEntry, split, form]

/-! ### A roundabout the leg starts on -/

/-- A roundabout the leg starts on: a quiet depart that carries one intersection, then
`StayOnRoundabout` steps and an exit that leaves without entering, each of them spanning two
locations, with a readable exit bearing. -/
structure StartRun (tk : Toolkit) (depart : RouteStep) (stays : List RouteStep) (exit : RouteStep) :
    Prop where
  quiet : Quiet tk depart
  single : depart.intersections.length = 1
  staying : ∀ step ∈ stays, step.maneuver.instruction.type = .stayOnRoundabout
  leaves : tk.leavesRoundabout exit.maneuver.instruction = true
  exit_not_enters : tk.entersRoundabout exit.maneuver.instruction = false
  exit_not_stay : exit.maneuver.instruction.type ≠ .stayOnRoundabout
  exit_reads : HeadReads Intersection.out exit
  spanning : ∀ step ∈ stays ++ [exit], Spanning step

/-- What a roundabout the leg starts on is folded into: the depart keeps its first location and
drops its time and length, and the step after it, started on the depart (`startedStep`), takes in
the rest of the roundabout as `Spans` says, with its own waypoint, the type the exit maps to and
the exit's signage. -/
structure FoldedStart (tk : Toolkit) (depart : RouteStep) (stays : List RouteStep)
    (exit drained merged : RouteStep) : Prop where
  drained_eq : drained = { depart with geometryEnd := 1, duration := 0, distance := 0 }
  spans : Spans (startedStep tk exit.maneuver.instruction.type depart (stays.headD exit))
    (stays ++ [exit]).tail merged
  waypointType : merged.maneuver.waypointType = (stays.headD exit).maneuver.waypointType
  type : merged.maneuver.instruction.type = exitToEnter exit.maneuver.instruction.type
  signage : forwardStepSignage merged exit = merged

/-- Writing its own exit count into the first step of a run changes nothing. -/
theorem setHeadExit_headD (stays : List RouteStep) (exit : RouteStep) (back : List RouteStep) :
    setHeadExit (stays.headD exit).maneuver.exit (stays ++ exit :: back) =
      stays ++ exit :: back := by
  cases stays <;> rfl

/-- A run of one step spans itself. -/
theorem Spans.single (step : RouteStep) : Spans step [] step :=
  ⟨rfl, by simp [totalDuration, RouteStep.segment], by simp [totalDistance, RouteStep.segment], rfl,
    rfl, by simp⟩

/-- Draining the depart into the first step of a linked run keeps the run linked. -/
theorem chain_drainInto {first : RouteStep} {rest : List RouteStep} (depart : Segment)
    (chain : ((first :: rest).map RouteStep.segment).Chain' Segment.Linked) :
    (first.segment.drainInto depart :: rest.map RouteStep.segment).Chain' Segment.Linked := by
  cases rest with
  | nil => exact List.chain'_singleton _
  | cons next rest =>
    obtain ⟨linked, tail⟩ := List.chain'_cons.mp chain
    exact List.chain'_cons.mpr ⟨linked, tail⟩

/-- After `startOnRoundabout`, the started step and the rest of the roundabout up to the exit, with
their exits counted, fold into a step that spans the roundabout from the step after the depart. -/
theorem Spans.startedRun {tk : Toolkit} {exitType : TurnType} {depart first exit : RouteStep}
    {more : List RouteStep} (spanning : ∀ step ∈ first :: (more ++ [exit]), Spanning step)
    (chain : ((first :: (more ++ [exit])).map RouteStep.segment).Chain' Segment.Linked)
    (count : Nat) :
    Spans (startedStep tk exitType depart first) (more ++ [exit])
      (mergeRun (startedStep tk exitType depart first)
        (countFrom (count + 1) more ++ [withExit (count + (more.length + 1) + 1) exit])) := by
  have firstSpanning := spanning first (List.mem_cons_self _ _)
  have started_segment : (startedStep tk exitType depart first).segment =
      first.segment.drainInto depart.segment :=
    startedStep_segment (by unfold Spanning at firstSpanning; omega)
  refine mergeRun_spans_of_segments ?_ ?_ _ _ rfl ?_ ?_
  · rw [List.map_cons, started_segment]
    exact chain_drainInto _ chain
  · simp only [List.forall_mem_cons]
    exact ⟨spanning_startedStep firstSpanning,
      fun step member => spanning step (List.mem_cons_of_mem _ member)⟩
  · simp [countFrom_map]
  · simp [countFrom_map]

section StartLoop

variable {tk : Toolkit} (lawful : tk.Lawful) {depart exit : RouteStep} {stays : List RouteStep}
  (run : StartRun tk depart stays exit) (departBegin : depart.geometryBegin = 0)
  (chain : ((stays ++ [exit]).map RouteStep.segment).Chain' Segment.Linked)
include lawful run departBegin chain

/-- `closeOffRoundabout` at the exit of a roundabout the leg starts on: `startOnRoundabout` starts
the step after the depart, and the backward loop folds the rest of the roundabout into it. -/
theorem closeOffRoundabout_start (count : Nat) (back : List RouteStep) :
    ∃ drained merged, closeOffRoundabout tk false
        (depart :: (countFrom count stays ++ withExit (count + stays.length) exit :: back))
        (stays.length + 1) =
      some (drained :: merged :: (List.replicate stays.length (invalidRouteStep tk) ++ back)) ∧
      FoldedStart tk depart stays exit drained merged := by
  obtain ⟨exitFront, exitRest, exits, out⟩ := run.exit_reads
  cases stays with
  | nil =>
    refine ⟨_, startedStep tk exit.maneuver.instruction.type depart exit, ?_,
      ⟨rfl, ?_, by simp, by simp, forwardStepSignage_startedStep⟩⟩
    · simp [closeOffRoundabout, countFrom, update_exit_eq_withExit,
        startOnRoundabout_eq _ run.single departBegin, exits, List.getElem?_eq_getElem out]
    · exact Spans.single _
  | cons first more =>
    have spans := @Spans.startedRun tk exit.maneuver.instruction.type depart first exit more
      run.spanning chain count
    have position : ∀ head second : RouteStep,
        (head :: second :: countFrom (count + 1) more).length = (first :: more).length + 1 := by
      simp [length_countFrom]
    have at_exit : ∀ (head second step : RouteStep) (rest : List RouteStep),
        (head :: second :: (countFrom (count + 1) more ++ step :: rest))[
          (first :: more).length + 1]? = some step := fun head second step rest => by
      simpa using getElem?_append_cons _ rest (position head second) step
    have set_exit : ∀ (head second step other : RouteStep) (rest : List RouteStep),
        (head :: second :: (countFrom (count + 1) more ++ step :: rest)).set
          ((first :: more).length + 1) other =
        head :: second :: (countFrom (count + 1) more ++ other :: rest) :=
      fun head second step other rest => by
      simpa using set_append_cons _ rest (position head second) step other
    simp only [countFrom, List.cons_append]
    simp only [closeOffRoundabout, at_exit, set_exit, Option.bind_eq_bind, Option.some_bind,
      Bool.false_eq_true, ↓reduceIte, exit_withExit, update_exit_eq_withExit, withExit_withExit,
      startOnRoundabout_eq _ run.single departBegin, startedStep_withExit]
    have propagated := propagateRoundabout_run
      (List.cons_ne_nil { depart with geometryEnd := 1, duration := 0, distance := 0 } [])
      (exitFront.bearings[exitFront.out] : ℚ)
      (withExit (count + (first :: more).length + 1) exit)
      (startedStep tk exit.maneuver.instruction.type depart first)
      (entersRoundabout_startedStep lawful)
      (countFrom (count + 1) more) (withExit (count + (first :: more).length + 1) exit) back
      fun step member => not_entersRoundabout_of_stay lawful
        ((forall_countFrom (P := fun step => step.maneuver.instruction.type = .stayOnRoundabout)
          (fun _ _ => Iff.rfl) _ _).mpr
            (fun step member => run.staying step (List.mem_cons_of_mem _ member)) step member)
    simp only [List.length_singleton, length_countFrom, List.singleton_append] at propagated
    simp only [intersections_withExit, exits, List.head?_cons, Option.some_bind,
      List.getElem?_eq_getElem out, withExit_instruction, List.length_cons,
      show more.length + 1 + 1 > 1 by omega, ↓reduceIte, Nat.add_sub_cancel,
      Nat.add_comm 1 more.length] at propagated ⊢
    rw [propagated, closeEntry_of_plain tk _ _ (by rw [spans.intersections]; simp [exits])
      (by rw [mergeRun_instruction, startedStep_type]; exact exitToEnter_cases _)]
    refine ⟨_, _, rfl, rfl, spans.of_same (by split_ifs <;> rfl) (by split_ifs <;> rfl)
      (by split_ifs <;> rfl), by split_ifs <;> simp [forwardStepSignage],
      by split_ifs <;> simp [forwardStepSignage], by split_ifs <;> rfl⟩

/-- The exit-counting loop over a roundabout the leg starts on: the depart passes, the
`StayOnRoundabout` steps count their exits from the first one's own count, and the exit closes
the roundabout from the depart. -/
theorem foldlM_startRoundabout (back : List RouteStep) :
    ∃ drained merged, (List.range' 0 (stays.length + 2)).foldlM (postProcessStep tk)
        (depart :: (stays ++ exit :: back), false, false) =
      some (drained :: merged :: (List.replicate stays.length (invalidRouteStep tk) ++ back),
        false, false) ∧ FoldedStart tk depart stays exit drained merged := by
  have counted := foldlM_stays lawful false stays [depart] back exit
    (stays.headD exit).maneuver.exit false run.staying
  rw [setHeadExit_headD] at counted
  simp only [List.length_singleton, List.singleton_append, List.cons_append, List.nil_append,
    List.append_assoc] at counted
  obtain ⟨drained, merged, closed, folded⟩ :=
    closeOffRoundabout_start lawful run departBegin chain (stays.headD exit).maneuver.exit back
  refine ⟨drained, merged, ?_, folded⟩
  have ranges : List.range' 0 (stays.length + 2) =
      0 :: (List.range' 1 stays.length ++ [1 + stays.length]) := by
    rw [List.range'_succ, List.range'_concat, Nat.one_mul]
  have at_exit : (depart :: (countFrom (stays.headD exit).maneuver.exit stays ++
      withExit ((stays.headD exit).maneuver.exit + stays.length) exit :: back))[1 + stays.length]? =
        some (withExit ((stays.headD exit).maneuver.exit + stays.length) exit) :=
    getElem?_append_cons (depart :: countFrom _ stays) back (by simp [length_countFrom]; omega) _
  rw [ranges, List.foldlM_cons, postProcessStep_quiet List.getElem?_cons_zero run.quiet
      (fun idle => absurd idle Bool.false_ne_true) false, Option.bind_eq_bind, Option.some_bind,
    List.foldlM_append, counted, Option.bind_eq_bind, Option.some_bind, List.foldlM_cons,
    postProcessStep_leave at_exit run.exit_not_enters run.exit_not_stay run.leaves,
    Nat.add_comm 1, closed]
  rfl

end StartLoop

/-! ### A leg on one roundabout from its depart to its arrive -/

section OnRoundabout

variable {tk : Toolkit} (lawful : tk.Lawful) (depart : RouteStep)
include lawful

/-- `fixFinalRoundabout` from the last `StayOnRoundabout` step of a leg that is on the roundabout
from its depart: no step enters it, so every step is folded into the one before it down to the
depart. -/
theorem fixFinalRoundabout_depart (mids : List RouteStep) :
    ∀ (last : RouteStep) (back : List RouteStep),
      (∀ step ∈ mids, step.maneuver.instruction.type = .stayOnRoundabout) →
      last.maneuver.instruction.type = .stayOnRoundabout →
      fixFinalRoundabout tk (depart :: (mids ++ last :: back)) (mids.length + 1) =
        some (mergeRun depart (mids ++ [last]) ::
          (List.replicate (mids.length + 1) (invalidRouteStep tk) ++ back)) := by
  induction mids using List.reverseRecOn with
  | nil =>
    intro last back _ stay
    have at_last : (depart :: last :: back)[0 + 1]? = some last := by simp
    rw [List.nil_append, List.length_nil,
      fixFinalRoundabout_stay lawful at_last stay List.getElem?_cons_zero]
    rfl
  | append_singleton mids step ih =>
    intro last back staying stay
    have position : (depart :: mids).length = mids.length + 1 := rfl
    rw [List.append_assoc, List.singleton_append, ← List.cons_append, List.length_append,
      List.length_singleton,
      fixFinalRoundabout_stay lawful (getElem?_append_cons_succ _ _ position _ _) stay
        (getElem?_append_cons _ _ position _),
      set_append_cons_succ _ _ position, List.cons_append,
      ih _ _ (fun other member => staying other (List.mem_append_left _ member))
        (by rw [forwardInto_instruction]; exact staying step (by simp))]
    simp only [List.replicate_succ', List.append_assoc, List.singleton_append, List.cons_append,
      List.nil_append, mergeRun_append_pair]

/-- `postProcess` on a leg that is on one roundabout from its depart to its arrive: the
`StayOnRoundabout` steps count their exits from the first one's own count, the arrive takes the
count after them, and `fixFinalRoundabout` folds them all into the depart. -/
theorem postProcess_onRoundabout {stays : List RouteStep} {arrive : RouteStep}
    (departQuiet : Quiet tk depart) (nonempty : stays ≠ [])
    (staying : ∀ step ∈ stays, step.maneuver.instruction.type = .stayOnRoundabout)
    (arriveQuiet : Quiet tk arrive) (departValid : notIsValid tk depart = false)
    (arriveValid : notIsValid tk arrive = false) :
    postProcess tk (depart :: (stays ++ [arrive])) =
      some [mergeRun depart (countFrom (stays.headD arrive).maneuver.exit stays),
        withExit ((stays.headD arrive).maneuver.exit + stays.length) arrive] := by
  have counted := foldlM_stays lawful false stays [depart] [] arrive
    (stays.headD arrive).maneuver.exit false staying
  rw [setHeadExit_headD] at counted
  simp only [List.length_singleton, List.singleton_append, List.cons_append, List.nil_append,
    List.append_assoc] at counted
  have moved : stays.isEmpty = false := by
    cases stays
    exacts [absurd rfl nonempty, rfl]
  have ranges : List.range (depart :: (stays ++ [arrive])).length =
      0 :: (List.range' 1 stays.length ++ [stays.length + 1]) := by
    rw [List.range_eq_range',
      show (depart :: (stays ++ [arrive])).length = stays.length + 2 by simp, List.range'_succ, List.range'_concat, Nat.one_mul, Nat.add_comm 1]
  have at_arrive : (depart :: (countFrom (stays.headD arrive).maneuver.exit stays ++
      [withExit ((stays.headD arrive).maneuver.exit + stays.length) arrive]))[stays.length + 1]? =
        some (withExit ((stays.headD arrive).maneuver.exit + stays.length) arrive) :=
    getElem?_append_cons (depart :: countFrom _ stays) [] (by simp [length_countFrom]) _
  rw [postProcess, if_neg (by simpa using nonempty), ranges, List.foldlM_cons,
    postProcessStep_quiet List.getElem?_cons_zero departQuiet
      (fun idle => absurd idle Bool.false_ne_true) false]
  simp only [Option.bind_eq_bind, Option.some_bind]
  rw [List.foldlM_append, counted]
  simp only [Option.bind_eq_bind, Option.some_bind, List.foldlM_cons, moved, Bool.not_false,
    Bool.false_or]
  have last_index : (depart :: (countFrom (stays.headD arrive).maneuver.exit stays ++
      [withExit ((stays.headD arrive).maneuver.exit + stays.length) arrive])).length - 1 =
        stays.length + 1 := by simp [length_countFrom]
  rw [postProcessStep_quiet at_arrive arriveQuiet (fun _ => by simp [length_countFrom]) _]
  simp only [List.foldlM_nil, Option.pure_def, Option.some_bind, Bool.false_or, ↓reduceIte,
    last_index, fixFinalRoundabout_skip at_arrive arriveQuiet.1 arriveQuiet.2.1]
  -- the run of counted steps ends in a last one, from which `fixFinalRoundabout` starts
  have counting := (forall_countFrom (P := fun step => step.maneuver.instruction.type =
    .stayOnRoundabout) (fun _ _ => Iff.rfl) (stays.headD arrive).maneuver.exit stays).mpr staying
  obtain ⟨mids, last, split⟩ := (List.eq_nil_or_concat
    (countFrom (stays.headD arrive).maneuver.exit stays)).resolve_left
      (by simpa [← List.length_eq_zero, length_countFrom] using nonempty)
  rw [List.concat_eq_append] at split
  have index : stays.length = mids.length + 1 := by
    rw [← length_countFrom (stays.headD arrive).maneuver.exit stays, split, List.length_append,
      List.length_singleton]
  rw [split] at counting ⊢
  rw [List.append_assoc, List.singleton_append, index,
    fixFinalRoundabout_depart lawful depart mids last _
      (fun step member => counting step (List.mem_append_left _ member))
      (counting last (List.mem_append_right _ (List.mem_singleton_self _)))]
  simp [removeNoTurnInstructions, departValid, arriveValid, notIsValid_invalidRouteStep lawful]

end OnRoundabout

end Osrm.Engine.Guidance
