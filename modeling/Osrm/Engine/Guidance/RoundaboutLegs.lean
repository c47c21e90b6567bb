import Osrm.Engine.Guidance.RoundaboutStart

/-!
# `postProcess` on legs with several roundabouts

A leg whose roundabouts are well formed is a start, a list of blocks and an end. The start is the
depart, or the depart on a roundabout that the leg leaves after some `StayOnRoundabout` steps
(`StartRun`). A block (`LegBlock`) is a step with no roundabout instruction, a roundabout that is
entered, passed by `StayOnRoundabout` steps and left (`ClosedRun`), or a step that enters and
leaves a roundabout at once. The end is the arrive, or a roundabout still open at the arrive
(`EnteredRun`). A leg may also be on one roundabout from its depart to its arrive. These are the
legs of `RoundaboutLeg`.

The exit-counting loop of `postProcess` (`post_processing.cpp:655-725`) folds the start
(`foldlM_start`) and then meets the blocks one after the other with both flags down
(`foldlM_blocks`). It leaves a quiet step alone, normalises an enter-and-exit step
(`setUpRoundabout`), and folds a closed roundabout into its entering step (`FoldedRoundabout`):
the exit count `k + 1` on top of the entry's own (`k + 2` for an `AtExit` entry), the time,
length, geometry and intersections of the whole roundabout, and the exit's signage.
`fixFinalRoundabout` then folds a roundabout still open at the arrive, with no exit count, and
walks back no further than its entering step (`FoldedOpenRoundabout`). The whole leg is
`postProcess_blocks`; a leg on one roundabout is folded into its depart
(`postProcess_onRoundabout`).

Every fold joins linked steps (`Spans.segment`) or drains the depart into the step after it, so on
such a leg `postProcess` is a coarsening (`postProcess_roundaboutLeg`): its result satisfies the
leg invariant, keeps the time, length and passed intersections, and has no `StayOnRoundabout`
step.
-/

namespace Osrm.Engine.Guidance

/-! ### Folded roundabouts -/

@[simp] theorem intersections_enteredStep (step : RouteStep) :
    (enteredStep step).intersections = step.intersections := rfl

theorem enteredStep_exit (step : RouteStep) : (enteredStep step).maneuver.exit =
    if isAtExit step.maneuver.instruction.type then 1 else step.maneuver.exit := rfl

theorem plainEnterType_eq_stay {type : TurnType} :
    plainEnterType type = .stayOnRoundabout ↔ type = .stayOnRoundabout := by
  cases type <;> decide

/-- The segment of a run's folded step is the run's segments joined. -/
theorem Spans.segment {first merged : RouteStep} {rest : List RouteStep}
    (spans : Spans first rest merged) :
    merged.segment = first.segment.joinRun (rest.map RouteStep.segment) := by
  obtain ⟨-, duration, distance, geometryBegin, geometryEnd, passed⟩ := spans
  have last : (first.segment :: rest.map RouteStep.segment).getLast (List.cons_ne_nil _ _) =
      ((first :: rest).getLast (List.cons_ne_nil _ _)).segment :=
    List.getLast_map RouteStep.segment (first :: rest) _
  rw [Segment.joinRun_eq, last]
  simp [RouteStep.segment, geometryBegin, geometryEnd, duration, distance, passed,
    passedIntersections, List.map_flatMap, List.flatMap_map]

section Folded

variable {tk : Toolkit}

/-- The step a closed roundabout is folded into: what `Spans` says of the whole roundabout, the
entering step's plain enter type and waypoint, its exit count raised by one per
`StayOnRoundabout` step and one for the exit, the exit's signage, and for a rotary its own name. -/
structure FoldedRoundabout (enter : RouteStep) (stays : List RouteStep) (exit merged : RouteStep) :
    Prop where
  spans : Spans enter (stays ++ [exit]) merged
  type : merged.maneuver.instruction.type = plainEnterType enter.maneuver.instruction.type
  waypointType : merged.maneuver.waypointType = enter.maneuver.waypointType
  exit_count : merged.maneuver.exit = (enteredStep enter).maneuver.exit + stays.length + 1
  signage : forwardStepSignage merged exit = merged
  rotary : enter.maneuver.instruction.type = .enterRotary ∨
    enter.maneuver.instruction.type = .enterRotaryAtExit → merged.rotaryName = enter.name

/-- The step a roundabout still open at the arrive is folded into: what `Spans` says, no exit count,
the entering step's waypoint, and its plain enter type, a roundabout intersection becoming a
roundabout. -/
structure FoldedOpenRoundabout (enter : RouteStep) (stays : List RouteStep) (merged : RouteStep) :
    Prop where
  spans : Spans enter stays merged
  no_exit : merged.maneuver.exit = 0
  waypointType : merged.maneuver.waypointType = enter.maneuver.waypointType
  type : merged.maneuver.instruction.type = plainEnterType enter.maneuver.instruction.type ∨
    merged.maneuver.instruction.type = .enterRoundabout

theorem ClosedRun.spanning_all {enter exit : RouteStep} {stays : List RouteStep}
    (run : ClosedRun tk enter stays exit) : ∀ step ∈ enter :: (stays ++ [exit]), Spanning step := by
  simp only [List.forall_mem_cons, List.forall_mem_append]
  exact ⟨run.spanning enter (List.mem_cons_self _ _),
    fun step member => run.spanning step (List.mem_cons_of_mem _ member), run.exit_spanning,
    fun _ member => nomatch member⟩

/-- `closeEntry` makes of the folded run of a linked closed roundabout the step `FoldedRoundabout`
describes, whatever the exit bearing. -/
theorem closeEntry_folded {enter exit : RouteStep} {stays : List RouteStep}
    (run : ClosedRun tk enter stays exit)
    (chain : ((enter :: (stays ++ [exit])).map RouteStep.segment).Chain' Segment.Linked)
    (exitBearing : ℚ) :
    ∃ merged, closeEntry tk exitBearing
        (withExit ((enteredStep enter).maneuver.exit + stays.length + 1) exit)
        (mergeRun (enteredStep enter) (countFrom (enteredStep enter).maneuver.exit stays ++
          [withExit ((enteredStep enter).maneuver.exit + stays.length + 1) exit])) = some merged ∧
      FoldedRoundabout enter stays exit merged := by
  set folded := countFrom (enteredStep enter).maneuver.exit stays ++
    [withExit ((enteredStep enter).maneuver.exit + stays.length + 1) exit] with folded_eq
  have spans := mergeRun_spans_of_segments chain run.spanning_all (enteredStep enter) folded rfl
    (by simp [folded, countFrom_map]) (by simp [folded, countFrom_map])
  obtain ⟨entryFront, entryRest, entry, inside⟩ := run.entry_reads
  obtain ⟨modifier, closed⟩ := closeEntry_eq tk exitBearing
    (withExit ((enteredStep enter).maneuver.exit + stays.length + 1) exit)
    (show HeadReads Intersection.in (mergeRun (enteredStep enter) folded) from
      ⟨entryFront, entryRest ++ (stays ++ [exit]).flatMap RouteStep.intersections,
        by rw [spans.intersections, List.flatMap_cons, entry]; rfl, inside⟩)
  have exits : (mergeRun (enteredStep enter) folded).maneuver.exit =
      (enteredStep enter).maneuver.exit + stays.length + 1 := by
    rw [folded_eq, mergeRun_exit, exit_withExit]
  refine ⟨_, closed, spans.of_same (by split_ifs <;> rfl) (by split_ifs <;> rfl)
    (by split_ifs <;> rfl), by split_ifs <;> simp [forwardStepSignage, enteredStep],
    by split_ifs <;> simp [forwardStepSignage, enteredStep], by rw [← exits]; split_ifs <;> rfl,
    by split_ifs <;> rfl, fun rotary => ?_⟩
  have named : (mergeRun (enteredStep enter) folded).maneuver.instruction.type = .enterRotary ∨
      (mergeRun (enteredStep enter) folded).maneuver.instruction.type = .enterRotaryAtExit := by
    rw [mergeRun_instruction]
    rcases rotary with form | form <;> simp [enteredStep, plainEnterType, form]
  rw [if_pos named]
  simp [forwardStepSignage, enteredStep]

/-- `openEntry` makes of the folded run of a linked roundabout still open at the arrive the step
`FoldedOpenRoundabout` describes. -/
theorem openEntry_folded {enter : RouteStep} {stays : List RouteStep}
    (run : EnteredRun tk enter stays)
    (chain : ((enter :: stays).map RouteStep.segment).Chain' Segment.Linked) :
    FoldedOpenRoundabout enter stays (openEntry
      (mergeRun (enteredStep enter) (countFrom (enteredStep enter).maneuver.exit stays))) := by
  have spans := mergeRun_spans_of_segments chain run.spanning (enteredStep enter)
    (countFrom (enteredStep enter).maneuver.exit stays) rfl (by simp [countFrom_map])
    (by simp [countFrom_map])
  refine ⟨spans.of_same (by dsimp only [openEntry]; split_ifs <;> rfl)
      (by dsimp only [openEntry]; split_ifs <;> rfl) (by dsimp only [openEntry]; split_ifs <;> rfl),
    by dsimp only [openEntry]; split_ifs <;> rfl,
    by dsimp only [openEntry]; split_ifs <;> simp [enteredStep], ?_⟩
  dsimp only [openEntry]
  split_ifs <;> simp [enteredStep]

/-- `setUpRoundabout` on a step that enters and leaves at once: exit `1`, the plain enter type of
its kind of roundabout, and no roundabout left to count. -/
theorem setUpRoundabout_of_leaves {step : RouteStep}
    (leaves : tk.leavesRoundabout step.maneuver.instruction = true) :
    setUpRoundabout tk step = ({ step with
      maneuver.exit := 1
      maneuver.instruction.type :=
        if step.maneuver.instruction.type = .enterAndExitRotary then .enterRotary
        else if step.maneuver.instruction.type = .enterAndExitRoundabout then .enterRoundabout
        else .enterRoundaboutIntersection }, false) := by
  simp only [setUpRoundabout, leaves, ↓reduceIte]
  split_ifs <;> rfl

theorem segment_setUpRoundabout (step : RouteStep) :
    (setUpRoundabout tk step).1.segment = step.segment := by
  simp only [setUpRoundabout]
  split_ifs <;> rfl

end Folded

/-! ### Blocks of a leg -/

/-- A stretch of a leg between its depart and its end, as the exit-counting loop meets it: a step
with no roundabout instruction, a roundabout entered, passed and left, or a step that enters and
leaves a roundabout at once. -/
inductive LegBlock
  | quiet (step : RouteStep)
  | closed (enter : RouteStep) (stays : List RouteStep) (exit : RouteStep)
  | enterExit (step : RouteStep)

/-- How a leg of blocks begins: at its depart, or on a roundabout that the leg leaves after the
depart and some `StayOnRoundabout` steps. -/
inductive LegStart
  | plain (depart : RouteStep)
  | onRoundabout (depart : RouteStep) (stays : List RouteStep) (exit : RouteStep)

/-- How a leg of blocks ends: at its arrive, or on a roundabout entered and passed but not left
before the arrive. -/
inductive LegEnd
  | arrive (arrive : RouteStep)
  | openRoundabout (enter : RouteStep) (stays : List RouteStep) (arrive : RouteStep)

namespace LegBlock

variable (tk : Toolkit)

/-- The steps of a block, in order. -/
def steps : LegBlock → List RouteStep
  | quiet step => [step]
  | closed enter stays exit => enter :: (stays ++ [exit])
  | enterExit step => [step]

/-- A block as the loop takes it. -/
def Lawful : LegBlock → Prop
  | quiet step => Quiet tk step
  | closed enter stays exit => ClosedRun tk enter stays exit
  | enterExit step => tk.entersRoundabout step.maneuver.instruction = true ∧
      tk.leavesRoundabout step.maneuver.instruction = true

/-- The step a block is folded into. -/
def Folded : LegBlock → RouteStep → Prop
  | quiet step, result => result = step
  | closed enter stays exit, result => FoldedRoundabout enter stays exit result
  | enterExit step, result => result = (setUpRoundabout tk step).1

/-- What the loop leaves of a block: the step it is folded into, then its other steps
invalidated. -/
def Scanned (block : LegBlock) (out : List RouteStep) : Prop :=
  ∃ result, block.Folded tk result ∧
    out = result :: List.replicate (block.steps.length - 1) (invalidRouteStep tk)

theorem length_steps_pos : ∀ block : LegBlock, 0 < block.steps.length
  | quiet _ | closed _ _ _ | enterExit _ => by simp [steps]

variable {tk}

theorem Scanned.length {block : LegBlock} {out : List RouteStep} (scanned : block.Scanned tk out) :
    out.length = block.steps.length := by
  obtain ⟨result, -, rfl⟩ := scanned
  have := block.length_steps_pos
  simp only [List.length_cons, List.length_replicate]
  omega

end LegBlock

namespace LegStart

variable (tk : Toolkit)

/-- The depart of a leg's start. -/
def depart : LegStart → RouteStep
  | plain step | onRoundabout step _ _ => step

/-- The steps of a leg's start, in order. -/
def steps : LegStart → List RouteStep
  | plain step => [step]
  | onRoundabout step stays exit => step :: (stays ++ [exit])

/-- A start as the loop takes it. -/
def Lawful : LegStart → Prop
  | plain step => Quiet tk step
  | onRoundabout step stays exit => StartRun tk step stays exit

/-- What `postProcess` makes of a leg's start: the depart itself, or the depart drained and the
roundabout folded into the step after it. -/
def Folded : LegStart → List RouteStep → Prop
  | plain step, out => out = [step]
  | onRoundabout step stays exit, out => ∃ drained merged,
      FoldedStart tk step stays exit drained merged ∧ out = [drained, merged]

/-- What the loop leaves of a leg's start: what it is folded into, then its other steps
invalidated. -/
def Scanned (start : LegStart) (scanned : List RouteStep) : Prop :=
  ∃ out, start.Folded tk out ∧
    scanned = out ++ List.replicate (start.steps.length - out.length) (invalidRouteStep tk)

theorem steps_eq : ∀ start : LegStart, start.steps = start.depart :: start.steps.tail
  | plain _ | onRoundabout _ _ _ => rfl

theorem steps_ne_nil (start : LegStart) : start.steps ≠ [] := by
  rw [steps_eq]
  exact List.cons_ne_nil _ _

variable {tk}

theorem Scanned.length {start : LegStart} {scanned : List RouteStep}
    (scanned_ok : start.Scanned tk scanned) : scanned.length = start.steps.length := by
  obtain ⟨out, folded, rfl⟩ := scanned_ok
  cases start with
  | plain step =>
    obtain rfl := folded
    rfl
  | onRoundabout step stays exit =>
    obtain ⟨drained, merged, -, rfl⟩ := folded
    simp [steps]

end LegStart

namespace LegEnd

variable (tk : Toolkit)

/-- The steps of a leg's end, in order. -/
def steps : LegEnd → List RouteStep
  | arrive last => [last]
  | openRoundabout enter stays last => enter :: (stays ++ [last])

/-- An end as `postProcess` takes it. -/
def Lawful : LegEnd → Prop
  | arrive last => Quiet tk last
  | openRoundabout enter stays last => EnteredRun tk enter stays ∧ Quiet tk last

/-- What `postProcess` makes of a leg's end: the arrive itself, or the open roundabout folded into
its entering step and the arrive with the exits counted up to it. -/
def Folded : LegEnd → List RouteStep → Prop
  | arrive last, out => out = [last]
  | openRoundabout enter stays last, out => ∃ merged, FoldedOpenRoundabout enter stays merged ∧
      out = [merged, withExit ((enteredStep enter).maneuver.exit + stays.length) last]

end LegEnd

/-- The blocks of a leg are linked runs of its middle steps. -/
theorem Leg.blocks {departOk middleOk arriveOk : RouteStep → Prop} {front : List RouteStep}
    {blocks : List LegBlock} {back : List RouteStep}
    (leg : Leg departOk middleOk arriveOk (front ++ (blocks.flatMap LegBlock.steps ++ back)))
    (started : front ≠ []) (nonempty : back ≠ []) : ∀ block ∈ blocks,
      (block.steps.map RouteStep.segment).Chain' Segment.Linked ∧
        ∀ step ∈ block.steps, middleOk step := by
  intro block member
  obtain ⟨before, after, rfl⟩ := List.append_of_mem member
  refine ⟨leg.chain_of_split (show _ = (front ++ before.flatMap LegBlock.steps) ++ block.steps ++
    (after.flatMap LegBlock.steps ++ back) by simp), fun step inside => ?_⟩
  obtain ⟨first, rest, split⟩ := List.append_of_mem inside
  exact leg.middle (show _ = (front ++ (before.flatMap LegBlock.steps ++ first)) ++ step ::
    (rest ++ (after.flatMap LegBlock.steps ++ back)) by simp [split]) (by simp [started])
    (by simp [nonempty])

/-- The steps after the first of a leg's front are middle steps when the leg goes on after it. -/
theorem Leg.tail_middle {departOk middleOk arriveOk : RouteStep → Prop}
    {front back : List RouteStep} (leg : Leg departOk middleOk arriveOk (front ++ back))
    (nonempty : back ≠ []) :
    ∀ step ∈ front.tail, middleOk step := by
  intro step member
  obtain ⟨first, front, rfl⟩ := List.exists_cons_of_ne_nil (List.ne_nil_of_mem
    (List.mem_of_mem_tail member))
  obtain ⟨before, after, split⟩ := List.append_of_mem (List.tail_cons ▸ member)
  exact leg.middle (show _ = (first :: before) ++ step :: (after ++ back) by simp [split])
    (List.cons_ne_nil _ _) (by simp [nonempty])

theorem Leg.depart_ok {departOk middleOk arriveOk : RouteStep → Prop} {depart : RouteStep}
    {rest : List RouteStep} (leg : Leg departOk middleOk arriveOk (depart :: rest)) :
    departOk depart := by
  obtain ⟨_, _, _, split, ok, -, -⟩ := leg.shape
  rw [List.cons_append, List.cons.injEq] at split
  exact split.1 ▸ ok

theorem Leg.arrive_ok {departOk middleOk arriveOk : RouteStep → Prop} {front : List RouteStep}
    {arrive : RouteStep} (leg : Leg departOk middleOk arriveOk (front ++ [arrive])) :
    arriveOk arrive := by
  obtain ⟨_, _, _, split, -, -, ok⟩ := leg.shape
  obtain ⟨-, last⟩ := List.append_inj' split rfl
  exact (List.singleton_inj.mp last) ▸ ok

/-! ### The exit-counting loop over the blocks -/

section Scan

variable {tk : Toolkit} (lawful : tk.Lawful)

/-- A step that enters and leaves a roundabout at once is set up and starts no count. -/
theorem postProcessStep_enterExit {steps : List RouteStep} {i : Nat} {step : RouteStep}
    (at_i : steps[i]? = some step) (enters : tk.entersRoundabout step.maneuver.instruction = true)
    (leaves : tk.leavesRoundabout step.maneuver.instruction = true) (onRoundabout entered : Bool) :
    postProcessStep tk (steps, onRoundabout, entered) i =
      some (steps.set i (setUpRoundabout tk step).1, onRoundabout, false) := by
  simp [postProcessStep, at_i, enters, setUpRoundabout_of_leaves leaves]

include lawful

/-- A roundabout folded into its entering step, with the entering step's waypoint and its plain
enter type (or `EnterRoundabout`), is a middle step and no `StayOnRoundabout`. -/
theorem Spans.middleStep {enter merged : RouteStep} {rest : List RouteStep}
    (spans : Spans enter rest merged) (enterMiddle : MiddleStep enter)
    (enters : tk.entersRoundabout enter.maneuver.instruction = true)
    (waypointType : merged.maneuver.waypointType = enter.maneuver.waypointType)
    (type : merged.maneuver.instruction.type = plainEnterType enter.maneuver.instruction.type ∨
      merged.maneuver.instruction.type = .enterRoundabout) :
    MiddleStep merged ∧ merged.maneuver.instruction.type ≠ .stayOnRoundabout := by
  obtain ⟨waypoint, notNoTurn, nonempty⟩ := enterMiddle
  have entering : enter.maneuver.instruction.type ≠ .stayOnRoundabout := fun stay => by
    rw [not_entersRoundabout_of_stay lawful stay] at enters
    cases enters
  refine ⟨⟨waypointType.trans waypoint, ?_, by simp [spans.intersections, nonempty]⟩, ?_⟩ <;>
    rcases type with type | type <;> rw [type]
  · exact fun noTurn => notNoTurn (plainEnterType_eq_noTurn.mp noTurn)
  · decide
  · exact fun stay => entering (plainEnterType_eq_stay.mp stay)
  · decide

/-- The step a block is folded into is a middle step, and no `StayOnRoundabout`. -/
theorem LegBlock.Folded.middleStep {block : LegBlock} {result : RouteStep}
    (folded : block.Folded tk result) (lawfulBlock : block.Lawful tk)
    (middle : ∀ step ∈ block.steps, MiddleStep step) :
    MiddleStep result ∧ result.maneuver.instruction.type ≠ .stayOnRoundabout := by
  cases block with
  | quiet step =>
    obtain rfl : result = step := folded
    exact ⟨middle _ (List.mem_singleton_self _), lawfulBlock.2.1⟩
  | closed enter stays exit =>
    exact folded.spans.middleStep lawful (middle enter (List.mem_cons_self _ _)) lawfulBlock.enters
      folded.waypointType (.inl folded.type)
  | enterExit step =>
    obtain rfl : result = (setUpRoundabout tk step).1 := folded
    obtain ⟨waypoint, -, nonempty⟩ := middle step (List.mem_singleton_self _)
    rw [setUpRoundabout_of_leaves lawfulBlock.2]
    refine ⟨⟨waypoint, ?_, nonempty⟩, ?_⟩ <;> dsimp only <;> split_ifs <;> decide

/-- The loop over one block, with both flags down before and after it. -/
theorem foldlM_block {block : LegBlock} (lawfulBlock : block.Lawful tk)
    (chain : (block.steps.map RouteStep.segment).Chain' Segment.Linked) {front : List RouteStep}
    (nonempty : front ≠ []) (back : List RouteStep) :
    ∃ out, block.Scanned tk out ∧
      (List.range' front.length block.steps.length).foldlM (postProcessStep tk)
          (front ++ (block.steps ++ back), false, false) =
        some (front ++ (out ++ back), false, false) := by
  cases block with
  | quiet step =>
    refine ⟨[step], ⟨step, rfl, rfl⟩, ?_⟩
    simp only [LegBlock.steps, List.length_singleton, List.range'_one, List.foldlM_cons,
      List.singleton_append]
    rw [postProcessStep_quiet (getElem?_append_cons _ _ rfl _) lawfulBlock
      (fun idle => absurd idle Bool.false_ne_true) false]
    rfl
  | closed enter stays exit =>
    obtain ⟨exitBearing, scan⟩ :=
      foldlM_closedRoundabout nonempty lawful lawfulBlock back false false
    obtain ⟨merged, closed, folded⟩ := closeEntry_folded lawfulBlock chain exitBearing
    refine ⟨merged :: List.replicate (stays.length + 1) (invalidRouteStep tk),
      ⟨merged, folded, by simp [LegBlock.steps]⟩, ?_⟩
    have length : (LegBlock.closed enter stays exit).steps.length = stays.length + 2 := by
      simp [LegBlock.steps]
    rw [length]
    simp only [LegBlock.steps, List.cons_append, List.append_assoc, List.singleton_append,
      List.nil_append]
    rw [scan, closed]
    rfl
  | enterExit step =>
    refine ⟨[(setUpRoundabout tk step).1], ⟨_, rfl, rfl⟩, ?_⟩
    simp only [LegBlock.steps, List.length_singleton, List.range'_one, List.foldlM_cons,
      List.singleton_append, postProcessStep_enterExit (getElem?_append_cons _ _ rfl _)
        lawfulBlock.1 lawfulBlock.2, set_append_cons _ _ rfl]
    rfl

/-- The loop over a run of blocks after a non-empty front, with both flags down. -/
theorem foldlM_blocks (back : List RouteStep) : ∀ {blocks : List LegBlock},
    (∀ block ∈ blocks,
      block.Lawful tk ∧ (block.steps.map RouteStep.segment).Chain' Segment.Linked) →
    ∀ (front : List RouteStep), front ≠ [] →
      ∃ outs, List.Forall₂ (LegBlock.Scanned tk) blocks outs ∧
        (List.range' front.length (blocks.flatMap LegBlock.steps).length).foldlM
            (postProcessStep tk) (front ++ (blocks.flatMap LegBlock.steps ++ back), false, false) =
          some (front ++ (outs.flatten ++ back), false, false)
  | [], _, _, _ => ⟨[], .nil, rfl⟩
  | block :: blocks, ok, front, nonempty => by
    obtain ⟨out, scanned, first⟩ := foldlM_block lawful (ok block (List.mem_cons_self _ _)).1
      (ok block (List.mem_cons_self _ _)).2 nonempty (blocks.flatMap LegBlock.steps ++ back)
    obtain ⟨outs, rest_scanned, rest⟩ := foldlM_blocks back
      (fun other member => ok other (List.mem_cons_of_mem _ member)) (front ++ out)
      (by simp [nonempty])
    refine ⟨out :: outs, .cons scanned rest_scanned, ?_⟩
    rw [List.length_append, scanned.length] at rest
    simp only [List.append_assoc] at rest
    have ranges : List.range' front.length (block.steps ++ blocks.flatMap LegBlock.steps).length =
        List.range' front.length block.steps.length ++ List.range'
          (front.length + block.steps.length) (blocks.flatMap LegBlock.steps).length := by
      rw [List.range'_append_1, List.length_append, Nat.add_comm]
    rw [List.flatMap_cons, ranges, List.foldlM_append,
      List.append_assoc, first, Option.bind_eq_bind, Option.some_bind, rest, List.flatten_cons,
      List.append_assoc]

omit lawful in
theorem length_flatten_scanned : ∀ {blocks : List LegBlock} {outs : List (List RouteStep)},
    List.Forall₂ (LegBlock.Scanned tk) blocks outs →
      outs.flatten.length = (blocks.flatMap LegBlock.steps).length
  | _, _, .nil => rfl
  | _, _, .cons scanned rest => by
    simp [scanned.length, length_flatten_scanned rest]

/-- The final sweep keeps of each scanned block the step it is folded into. -/
theorem removeNoTurnInstructions_scanned :
    ∀ {blocks : List LegBlock} {outs : List (List RouteStep)},
    List.Forall₂ (LegBlock.Scanned tk) blocks outs →
    (∀ block ∈ blocks, block.Lawful tk ∧ ∀ step ∈ block.steps, MiddleStep step) →
    ∃ folded, removeNoTurnInstructions tk outs.flatten = folded ∧
      List.Forall₂ (LegBlock.Folded tk) blocks folded
  | _, _, .nil, _ => ⟨[], rfl, .nil⟩
  | block :: _, _ :: _, .cons scanned rest, ok => by
    obtain ⟨result, folded, rfl⟩ := scanned
    obtain ⟨tail, tail_eq, tail_folded⟩ := removeNoTurnInstructions_scanned rest
      fun other member => ok other (List.mem_cons_of_mem _ member)
    have valid : notIsValid tk result = false := notIsValid_of_type
      (folded.middleStep lawful (ok block (List.mem_cons_self _ _)).1
        (ok block (List.mem_cons_self _ _)).2).1.2.1
    refine ⟨result :: tail, ?_, .cons folded tail_folded⟩
    rw [← tail_eq]
    simp [removeNoTurnInstructions, valid, notIsValid_invalidRouteStep lawful]

end Scan

/-! ### `postProcess` on a leg of blocks -/

section PostProcess

variable {tk : Toolkit} (lawful : tk.Lawful)
include lawful

/-- The loop over a leg's start, with both flags down after it. -/
theorem foldlM_start {start : LegStart} (lawfulStart : start.Lawful tk)
    (departBegin : start.depart.geometryBegin = 0)
    (chain : (start.steps.tail.map RouteStep.segment).Chain' Segment.Linked)
    (back : List RouteStep) :
    ∃ scanned, start.Scanned tk scanned ∧
      (List.range' 0 start.steps.length).foldlM (postProcessStep tk)
          (start.steps ++ back, false, false) = some (scanned ++ back, false, false) := by
  cases start with
  | plain depart =>
    refine ⟨[depart], ⟨[depart], rfl, rfl⟩, ?_⟩
    simp only [LegStart.steps, List.length_singleton, List.range'_one, List.foldlM_cons,
      List.singleton_append]
    rw [postProcessStep_quiet List.getElem?_cons_zero lawfulStart
      (fun idle => absurd idle Bool.false_ne_true) false]
    rfl
  | onRoundabout depart stays exit =>
    obtain ⟨drained, merged, scan, folded⟩ :=
      foldlM_startRoundabout lawful lawfulStart departBegin chain back
    refine ⟨drained :: merged :: List.replicate stays.length (invalidRouteStep tk),
      ⟨[drained, merged], ⟨drained, merged, folded, rfl⟩, by simp [LegStart.steps]⟩, ?_⟩
    simpa [LegStart.steps] using scan

/-- The loop over a leg's start and the blocks after it. -/
theorem foldlM_startBlocks {start : LegStart} (lawfulStart : start.Lawful tk)
    (departBegin : start.depart.geometryBegin = 0)
    (chain : (start.steps.tail.map RouteStep.segment).Chain' Segment.Linked)
    {blocks : List LegBlock} (ok : ∀ block ∈ blocks,
      block.Lawful tk ∧ (block.steps.map RouteStep.segment).Chain' Segment.Linked)
    (back : List RouteStep) :
    ∃ scanned outs, start.Scanned tk scanned ∧ List.Forall₂ (LegBlock.Scanned tk) blocks outs ∧
      (List.range' 0 (start.steps.length + (blocks.flatMap LegBlock.steps).length)).foldlM
          (postProcessStep tk)
          (start.steps ++ (blocks.flatMap LegBlock.steps ++ back), false, false) =
        some (scanned ++ (outs.flatten ++ back), false, false) := by
  obtain ⟨scanned, scanned_ok, scan⟩ :=
    foldlM_start lawful lawfulStart departBegin chain (blocks.flatMap LegBlock.steps ++ back)
  have length := scanned_ok.length
  obtain ⟨outs, outs_ok, rest⟩ := foldlM_blocks lawful back ok scanned
    (List.ne_nil_of_length_pos (by rw [length, LegStart.steps_eq]; simp))
  refine ⟨scanned, outs, scanned_ok, outs_ok, ?_⟩
  have ranges := List.range'_append_1 0 start.steps.length (blocks.flatMap LegBlock.steps).length
  rw [Nat.zero_add, Nat.add_comm (blocks.flatMap LegBlock.steps).length] at ranges
  rw [length] at rest
  rw [← ranges, List.foldlM_append, scan, Option.bind_eq_bind, Option.some_bind, rest]

/-- The final sweep keeps of a scanned start what it is folded into. -/
theorem removeNoTurnInstructions_start {start : LegStart} {scanned : List RouteStep}
    (scanned_ok : start.Scanned tk scanned) (departStep : DepartStep start.depart) :
    ∃ opening, removeNoTurnInstructions tk scanned = opening ∧ start.Folded tk opening := by
  obtain ⟨out, folded, rfl⟩ := scanned_ok
  have departValid : notIsValid tk start.depart = false :=
    notIsValid_of_waypointType (by rw [departStep.1]; decide)
  refine ⟨out, ?_, folded⟩
  cases start with
  | plain depart =>
    obtain rfl : out = [depart] := folded
    simpa [removeNoTurnInstructions, LegStart.steps] using departValid
  | onRoundabout depart stays exit =>
    obtain ⟨drained, merged, folds, rfl⟩ := folded
    have drainedValid : notIsValid tk drained = false := by
      rw [folds.drained_eq]
      exact departValid
    have mergedValid : notIsValid tk merged = false := notIsValid_of_type (by
      rw [folds.type]
      rcases exitToEnter_cases exit.maneuver.instruction.type with form | form <;> simp [form])
    simp [removeNoTurnInstructions, drainedValid, mergedValid, notIsValid_invalidRouteStep lawful]

omit lawful in
/-- `postProcess` on a leg whose loop leaves `front` before a quiet arrive, with both flags down:
the arrive passes and nothing is left for `fixFinalRoundabout`. -/
theorem postProcess_of_arrive {input front : List RouteStep} {last : RouteStep}
    (quiet : Quiet tk last) (long : input.length ≠ 2) (length_eq : input.length = front.length + 1)
    (scan : (List.range' 0 front.length).foldlM (postProcessStep tk) (input, false, false) =
      some (front ++ [last], false, false)) :
    postProcess tk input = some (removeNoTurnInstructions tk (front ++ [last])) := by
  rw [postProcess, if_neg long, length_eq, List.range_succ, List.range_eq_range',
    List.foldlM_append, scan]
  simp only [Option.bind_eq_bind, Option.some_bind, List.foldlM_cons, List.foldlM_nil]
  rw [postProcessStep_quiet (getElem?_append_cons _ [] rfl last) quiet
    (fun idle => absurd idle Bool.false_ne_true) false]
  rfl

/-- `postProcess` on a leg whose loop leaves `front` before a roundabout still open at the arrive,
with both flags down: the loop counts the exits up to the arrive, and `fixFinalRoundabout` passes
the arrive and folds the roundabout into its entering step. -/
theorem postProcess_of_openRoundabout {input front : List RouteStep} (nonempty : front ≠ [])
    {enter last : RouteStep} {stays : List RouteStep} (run : EnteredRun tk enter stays)
    (quiet : Quiet tk last) (length_eq : input.length = front.length + (stays.length + 2))
    (scan : (List.range' 0 front.length).foldlM (postProcessStep tk) (input, false, false) =
      some (front ++ enter :: (stays ++ [last]), false, false)) :
    postProcess tk input = some (removeNoTurnInstructions tk (front ++ openEntry
      (mergeRun (enteredStep enter) (countFrom (enteredStep enter).maneuver.exit stays)) ::
        (List.replicate stays.length (invalidRouteStep tk) ++
          [withExit ((enteredStep enter).maneuver.exit + stays.length) last]))) := by
  have ranges : List.range input.length =
      List.range' 0 front.length ++ List.range' front.length (stays.length + 2) := by
    rw [length_eq, List.range_eq_range', Nat.add_comm front.length, ← List.range'_append_1,
      Nat.zero_add]
  have staying : ∀ step ∈ countFrom (enteredStep enter).maneuver.exit stays,
      step.maneuver.instruction.type = .stayOnRoundabout :=
    (forall_countFrom (P := fun step => step.maneuver.instruction.type = .stayOnRoundabout)
      (fun _ _ => Iff.rfl) _ _).mpr run.staying
  have at_last : (front ++ enteredStep enter ::
      (countFrom (enteredStep enter).maneuver.exit stays ++
        [withExit ((enteredStep enter).maneuver.exit + stays.length) last]))[front.length +
          (countFrom (enteredStep enter).maneuver.exit stays).length + 1]? =
      some (withExit ((enteredStep enter).maneuver.exit + stays.length) last) := by
    rw [← List.cons_append, ← List.append_assoc]
    exact getElem?_append_cons _ [] (by simp [Nat.add_assoc]) _
  have positive := List.length_pos.mpr nonempty
  rw [postProcess, if_neg (by omega), ranges, List.foldlM_append, scan]
  simp only [Option.bind_eq_bind, Option.some_bind]
  rw [foldlM_openRoundabout lawful run quiet false false]
  simp only [Option.some_bind, Bool.true_or, ↓reduceIte]
  rw [show (front ++ enteredStep enter :: (countFrom (enteredStep enter).maneuver.exit stays ++
      [withExit ((enteredStep enter).maneuver.exit + stays.length) last])).length - 1 =
        front.length + (countFrom (enteredStep enter).maneuver.exit stays).length + 1 by
      simp; omega,
    fixFinalRoundabout_skip at_last quiet.1 quiet.2.1,
    fixFinalRoundabout_open nonempty lawful _ (entersRoundabout_enteredStep lawful run.enters) _ _
      staying, length_countFrom]
  rfl

/-- The loop and the final sweep over a leg's start and blocks: the loop leaves `front` with both
flags down, and the sweep keeps of it what the start and each block are folded into. -/
theorem foldlM_front {start : LegStart} {blocks : List LegBlock} {back : List RouteStep}
    (leg : LegInvariant (start.steps ++ (blocks.flatMap LegBlock.steps ++ back)))
    (nonempty : back ≠ []) (lawfulStart : start.Lawful tk)
    (lawfulBlocks : ∀ block ∈ blocks, block.Lawful tk) :
    ∃ front opening folded,
      (List.range' 0 front.length).foldlM (postProcessStep tk)
          (start.steps ++ (blocks.flatMap LegBlock.steps ++ back), false, false) =
        some (front ++ back, false, false) ∧
      front.length = start.steps.length + (blocks.flatMap LegBlock.steps).length ∧
      (∀ rest, removeNoTurnInstructions tk (front ++ rest) =
        opening ++ (folded ++ removeNoTurnInstructions tk rest)) ∧
      start.Folded tk opening ∧ List.Forall₂ (LegBlock.Folded tk) blocks folded := by
  have departStep : DepartStep start.depart := by
    have whole := leg
    rw [LegStart.steps_eq, List.cons_append] at whole
    exact whole.depart_ok
  have startChain := leg.chain_of_split (show _ = [start.depart] ++ start.steps.tail ++
    (blocks.flatMap LegBlock.steps ++ back) by rw [List.singleton_append, ← LegStart.steps_eq])
  have ok := leg.blocks start.steps_ne_nil nonempty
  obtain ⟨scanned, outs, scanned_ok, outs_ok, scan⟩ := foldlM_startBlocks lawful lawfulStart
    departStep.2.2 startChain (fun block member => ⟨lawfulBlocks block member, (ok block member).1⟩)
    back
  obtain ⟨opening, opening_eq, opening_ok⟩ := removeNoTurnInstructions_start lawful scanned_ok
    departStep
  obtain ⟨folded, folded_eq, folded_ok⟩ := removeNoTurnInstructions_scanned lawful outs_ok
    fun block member => ⟨lawfulBlocks block member, (ok block member).2⟩
  have length_front : (scanned ++ outs.flatten).length =
      start.steps.length + (blocks.flatMap LegBlock.steps).length := by
    rw [List.length_append, scanned_ok.length, length_flatten_scanned outs_ok]
  refine ⟨scanned ++ outs.flatten, opening, folded, ?_, length_front, fun rest => ?_, opening_ok,
    folded_ok⟩
  · rw [length_front, List.append_assoc]
    exact scan
  · simp only [removeNoTurnInstructions, List.filter_append] at opening_eq folded_eq ⊢
    rw [opening_eq, folded_eq, List.append_assoc]

/-- `postProcess` on a leg of a start, blocks and an end folds the start as `LegStart.Folded` says,
each block into one step as `LegBlock.Folded` says, and the end as `LegEnd.Folded` says. -/
theorem postProcess_blocks {start : LegStart} {blocks : List LegBlock} {last : LegEnd}
    (leg : LegInvariant (start.steps ++ (blocks.flatMap LegBlock.steps ++ last.steps)))
    (lawfulStart : start.Lawful tk) (lawfulBlocks : ∀ block ∈ blocks, block.Lawful tk)
    (lawfulEnd : last.Lawful tk) :
    ∃ opening folded ending,
      postProcess tk (start.steps ++ (blocks.flatMap LegBlock.steps ++ last.steps)) =
        some (opening ++ (folded ++ ending)) ∧ start.Folded tk opening ∧
      List.Forall₂ (LegBlock.Folded tk) blocks folded ∧ last.Folded ending := by
  have ends : last.steps ≠ [] := by cases last <;> simp [LegEnd.steps]
  obtain ⟨front, opening, folded, scan, length_front, sweep, opening_ok, folded_ok⟩ :=
    foldlM_front lawful leg ends lawfulStart lawfulBlocks
  have lastValid : ∀ step ∈ last.steps, notIsValid tk step = false := fun step member =>
    leg.valid step (List.mem_append_right _ (List.mem_append_right _ member))
  have total : (start.steps ++ (blocks.flatMap LegBlock.steps ++ last.steps)).length =
      front.length + last.steps.length := by
    rw [length_front]
    simp only [List.length_append, Nat.add_assoc]
  cases last with
  | arrive last =>
    refine ⟨opening, folded, [last], ?_, opening_ok, folded_ok, rfl⟩
    by_cases short : front.length = 1
    · -- a plain depart and no block: `postProcess` returns the leg as it is
      rw [postProcess, if_pos (by rw [total, short]; rfl)]
      cases start with
      | onRoundabout depart stays exit =>
        simp only [length_front, LegStart.steps, List.length_cons, List.length_append] at short
        omega
      | plain depart =>
        obtain rfl : opening = [depart] := opening_ok
        rcases blocks with _ | ⟨block, blocks⟩
        · cases folded_ok
          rfl
        · have := LegBlock.length_steps_pos block
          simp only [length_front, LegStart.steps, List.length_singleton, List.flatMap_cons,
            List.length_append] at short
          omega
    have long : (start.steps ++ (blocks.flatMap LegBlock.steps ++
        (LegEnd.arrive last).steps)).length ≠ 2 := by
      rw [total]
      simpa [LegEnd.steps] using short
    rw [postProcess_of_arrive lawfulEnd long total scan, sweep]
    simp [removeNoTurnInstructions, lastValid last (List.mem_singleton_self _)]
  | openRoundabout enter stays last =>
    obtain ⟨run, lastQuiet⟩ := lawfulEnd
    have enterMiddle : MiddleStep enter := leg.middle (show _ = (start.steps ++
      blocks.flatMap LegBlock.steps) ++ enter :: (stays ++ [last]) by simp [LegEnd.steps])
      (by simp [start.steps_ne_nil]) (by simp)
    have folds := openEntry_folded run (leg.chain_of_split (show _ = (start.steps ++
      blocks.flatMap LegBlock.steps) ++ enter :: stays ++ [last] by simp [LegEnd.steps]))
    refine ⟨opening, folded, _, ?_, opening_ok, folded_ok, ⟨_, folds, rfl⟩⟩
    have mergedValid : notIsValid tk (openEntry (mergeRun (enteredStep enter)
        (countFrom (enteredStep enter).maneuver.exit stays))) = false := by
      refine notIsValid_of_type ?_
      rcases folds.type with type | type <;> rw [type]
      · exact fun noTurn => enterMiddle.2.1 (plainEnterType_eq_noTurn.mp noTurn)
      · decide
    have length_eq : (start.steps ++ (blocks.flatMap LegBlock.steps ++
        (LegEnd.openRoundabout enter stays last).steps)).length =
          front.length + (stays.length + 2) := by
      rw [total]
      simp [LegEnd.steps]
    rw [postProcess_of_openRoundabout lawful (List.ne_nil_of_length_pos (by
        rw [length_front, LegStart.steps_eq]; simp)) run lastQuiet length_eq scan, sweep]
    simp [removeNoTurnInstructions, mergedValid, notIsValid_invalidRouteStep lawful,
      lastValid last (by simp [LegEnd.steps])]

end PostProcess

/-! ### `postProcess` coarsens a leg of blocks -/

section Coarsening

variable {tk : Toolkit}

/-- A block folded into one step coarsens the leg around it. -/
theorem LegBlock.Folded.coarsens {block : LegBlock} {result : RouteStep}
    (folded : block.Folded tk result)
    (chain : (block.steps.map RouteStep.segment).Chain' Segment.Linked)
    (front back : List Segment) :
    Coarsens (front ++ (block.steps.map RouteStep.segment ++ back))
      (front ++ (result.segment :: back)) := by
  cases block with
  | quiet step =>
    obtain rfl : result = step := folded
    exact .refl
  | closed enter stays exit =>
    simpa [LegBlock.steps, folded.spans.segment] using
      Coarsens.joinRun back ((stays ++ [exit]).map RouteStep.segment) front enter.segment chain
  | enterExit step =>
    obtain rfl : result = (setUpRoundabout tk step).1 := folded
    rw [segment_setUpRoundabout]
    exact .refl

/-- Blocks folded each into one step coarsen the leg around them. -/
theorem coarsens_blocks : ∀ {blocks : List LegBlock} {folded : List RouteStep},
    List.Forall₂ (LegBlock.Folded tk) blocks folded →
    (∀ block ∈ blocks, (block.steps.map RouteStep.segment).Chain' Segment.Linked) →
    ∀ (front back : List Segment),
      Coarsens (front ++ ((blocks.flatMap LegBlock.steps).map RouteStep.segment ++ back))
        (front ++ (folded.map RouteStep.segment ++ back))
  | _, _, .nil, _, _, _ => .refl
  | block :: blocks, result :: folded, .cons first rest, chains, front, back => by
    have head := first.coarsens (chains block (List.mem_cons_self _ _)) front
      ((blocks.flatMap LegBlock.steps).map RouteStep.segment ++ back)
    have tail := coarsens_blocks rest
      (fun other member => chains other (List.mem_cons_of_mem _ member)) (front ++ [result.segment])
      back
    simp only [List.flatMap_cons, List.map_append, List.map_cons, List.append_assoc,
      List.singleton_append, List.cons_append] at head tail ⊢
    exact head.trans tail

section FoldedStart

variable {depart exit drained merged : RouteStep} {stays : List RouteStep}
  (folds : FoldedStart tk depart stays exit drained merged)
include folds

/-- A roundabout the leg starts on is folded into a depart and a middle step, neither of them
`StayOnRoundabout`. -/
theorem FoldedStart.steps (departStep : DepartStep depart) (quiet : Quiet tk depart)
    (firstMiddle : MiddleStep (stays.headD exit)) :
    DepartStep drained ∧ MiddleStep merged ∧
      drained.maneuver.instruction.type ≠ .stayOnRoundabout ∧
      merged.maneuver.instruction.type ≠ .stayOnRoundabout := by
  have mergedType : merged.maneuver.instruction.type ≠ .stayOnRoundabout ∧
      merged.maneuver.instruction.type ≠ .noTurn := by
    rw [folds.type]
    rcases exitToEnter_cases exit.maneuver.instruction.type with form | form <;> simp [form]
  refine ⟨folds.drained_eq ▸ departStep, ⟨folds.waypointType ▸ firstMiddle.1, mergedType.2, ?_⟩,
    folds.drained_eq ▸ quiet.2.1, mergedType.1⟩
  rw [folds.spans.intersections, List.flatMap_cons, startedStep_intersections]
  exact List.append_ne_nil_of_left_ne_nil firstMiddle.2.2 _

/-- The segments of a roundabout the leg starts on coarsen to its folded steps': the depart is
drained into the step after it, and the rest of the roundabout is joined into that step. -/
theorem FoldedStart.coarsens (reaches : 1 ≤ (stays.headD exit).geometryEnd)
    (chain : ((stays ++ [exit]).map RouteStep.segment).Chain' Segment.Linked)
    (back : List Segment) :
    Coarsens ((depart :: (stays ++ [exit])).map RouteStep.segment ++ back)
      ([drained, merged].map RouteStep.segment ++ back) := by
  have split : stays ++ [exit] = stays.headD exit :: (stays ++ [exit]).tail := by
    cases stays <;> rfl
  rw [split] at chain ⊢
  have drains := Coarsening.drain depart.segment (stays.headD exit).segment
    (((stays ++ [exit]).tail.map RouteStep.segment) ++ back)
  have joins := Coarsens.joinRun back ((stays ++ [exit]).tail.map RouteStep.segment)
    [depart.segment.drainDepart] _ (chain_drainInto depart.segment chain)
  have drainedSegment : drained.segment = depart.segment.drainDepart := by
    rw [folds.drained_eq]; rfl
  have mergedSegment : merged.segment = ((stays.headD exit).segment.drainInto
      depart.segment).joinRun ((stays ++ [exit]).tail.map RouteStep.segment) := by
    rw [folds.spans.segment, startedStep_segment reaches]
  simpa [drainedSegment, mergedSegment] using Relation.ReflTransGen.head drains joins

end FoldedStart

/-- What `postProcess` makes of a leg's start is a depart and middle steps, none of them
`StayOnRoundabout`, whose segments coarsen the start's. -/
theorem LegStart.Folded.coarsens {start : LegStart} {opening : List RouteStep}
    (folded : start.Folded tk opening) (lawfulStart : start.Lawful tk) {after : List RouteStep}
    (leg : LegInvariant (start.steps ++ after)) (nonempty : after ≠ []) (back : List Segment) :
    ∃ depart middle, opening = depart :: middle ∧ DepartStep depart ∧
      (∀ step ∈ middle, MiddleStep step) ∧
      (∀ step ∈ opening, step.maneuver.instruction.type ≠ .stayOnRoundabout) ∧
      Coarsens (start.steps.map RouteStep.segment ++ back)
        (opening.map RouteStep.segment ++ back) := by
  cases start with
  | plain step =>
    obtain rfl : opening = [step] := folded
    exact ⟨step, [], rfl, leg.depart_ok, by simp, by simpa using lawfulStart.2.1, .refl⟩
  | onRoundabout depart stays exit =>
    obtain ⟨drained, merged, folds, rfl⟩ := folded
    have first_mem : stays.headD exit ∈ stays ++ [exit] := by cases stays <;> simp
    have reaches : 1 ≤ (stays.headD exit).geometryEnd := by
      have := lawfulStart.spanning _ first_mem
      unfold Spanning at this
      omega
    obtain ⟨drainedStep, mergedMiddle, drainedType, mergedType⟩ := folds.steps leg.depart_ok
      lawfulStart.quiet (leg.tail_middle nonempty _ first_mem)
    exact ⟨drained, [merged], rfl, drainedStep, by simpa using mergedMiddle,
      by simpa using ⟨drainedType, mergedType⟩, folds.coarsens reaches
        (leg.chain_of_split (show _ = [depart] ++ (stays ++ [exit]) ++ after from rfl)) back⟩

variable (lawful : tk.Lawful)
include lawful

theorem forall_folded_middleStep : ∀ {blocks : List LegBlock} {folded : List RouteStep},
    List.Forall₂ (LegBlock.Folded tk) blocks folded →
    (∀ block ∈ blocks, block.Lawful tk ∧ ∀ step ∈ block.steps, MiddleStep step) →
    ∀ result ∈ folded, MiddleStep result ∧ result.maneuver.instruction.type ≠ .stayOnRoundabout
  | _, _, .nil, _ => by simp
  | block :: _, _ :: _, .cons first rest, ok => by
    simp only [List.mem_cons, forall_eq_or_imp]
    exact ⟨first.middleStep lawful (ok block (List.mem_cons_self _ _)).1
        (ok block (List.mem_cons_self _ _)).2,
      forall_folded_middleStep rest fun other member => ok other (List.mem_cons_of_mem _ member)⟩

/-- What `postProcess` makes of a leg's end is middle steps and an arrive, none of them
`StayOnRoundabout`, whose segments coarsen the end's. -/
theorem LegEnd.Folded.coarsens {last : LegEnd} {ending : List RouteStep}
    (folded : last.Folded ending) (lawfulEnd : last.Lawful tk) {before : List RouteStep}
    (leg : LegInvariant (before ++ last.steps)) (nonempty : before ≠ []) (front : List Segment) :
    ∃ middle arrive, ending = middle ++ [arrive] ∧ (∀ step ∈ middle, MiddleStep step) ∧
      ArriveStep arrive ∧ (∀ step ∈ ending, step.maneuver.instruction.type ≠ .stayOnRoundabout) ∧
      Coarsens (front ++ last.steps.map RouteStep.segment)
        (front ++ ending.map RouteStep.segment) := by
  cases last with
  | arrive last =>
    obtain rfl : ending = [last] := folded
    exact ⟨[], last, rfl, by simp, leg.arrive_ok, by simpa using lawfulEnd.2.1, .refl⟩
  | openRoundabout enter stays last =>
    obtain ⟨merged, folds, rfl⟩ := folded
    obtain ⟨run, lastQuiet⟩ := lawfulEnd
    have split : before ++ (LegEnd.openRoundabout enter stays last).steps =
        before ++ enter :: stays ++ [last] := by simp [LegEnd.steps]
    have enterMiddle : MiddleStep enter := leg.middle
      (show _ = before ++ enter :: (stays ++ [last]) by simp [LegEnd.steps]) nonempty (by simp)
    have chain := leg.chain_of_split split
    obtain ⟨mergedMiddle, mergedType⟩ :=
      folds.spans.middleStep lawful enterMiddle run.enters folds.waypointType folds.type
    refine ⟨[merged], _, rfl, by simpa using mergedMiddle, (split ▸ leg).arrive_ok,
      by simpa using ⟨mergedType, lastQuiet.2.1⟩, ?_⟩
    simpa [LegEnd.steps, folds.spans.segment] using
      Coarsens.joinRun [last.segment] (stays.map RouteStep.segment) front enter.segment chain

/-- On a leg of a start, blocks and an end, `postProcess` returns a leg that satisfies the leg
invariant, has no `StayOnRoundabout` step and coarsens the input. -/
theorem postProcess_coarsens {start : LegStart} {blocks : List LegBlock} {last : LegEnd}
    (leg : LegInvariant (start.steps ++ (blocks.flatMap LegBlock.steps ++ last.steps)))
    (lawfulStart : start.Lawful tk) (lawfulBlocks : ∀ block ∈ blocks, block.Lawful tk)
    (lawfulEnd : last.Lawful tk) :
    ∃ result, postProcess tk (start.steps ++ (blocks.flatMap LegBlock.steps ++ last.steps)) =
        some result ∧ LegInvariant result ∧
      (∀ step ∈ result, step.maneuver.instruction.type ≠ .stayOnRoundabout) ∧
      Coarsens ((start.steps ++ (blocks.flatMap LegBlock.steps ++ last.steps)).map
        RouteStep.segment) (result.map RouteStep.segment) := by
  obtain ⟨opening, folded, ending, processed, opening_ok, folded_ok, ending_ok⟩ :=
    postProcess_blocks lawful leg lawfulStart lawfulBlocks lawfulEnd
  have ends : last.steps ≠ [] := by cases last <;> simp [LegEnd.steps]
  have ok := leg.blocks start.steps_ne_nil ends
  have middles := forall_folded_middleStep lawful folded_ok
    fun block member => ⟨lawfulBlocks block member, (ok block member).2⟩
  obtain ⟨depart, startMiddle, rfl, departStep, startMiddles, startTypes, startCoarsens⟩ :=
    opening_ok.coarsens lawfulStart leg (by simp [ends])
      ((blocks.flatMap LegBlock.steps ++ last.steps).map RouteStep.segment)
  have blocksCoarsen := coarsens_blocks folded_ok (fun block member => (ok block member).1)
    ((depart :: startMiddle).map RouteStep.segment) (last.steps.map RouteStep.segment)
  obtain ⟨middle, arrive, rfl, endMiddles, arriveStep, endTypes, endCoarsens⟩ :=
    ending_ok.coarsens lawful lawfulEnd
      (show LegInvariant ((start.steps ++ blocks.flatMap LegBlock.steps) ++ last.steps) by
        simpa using leg)
      (List.append_ne_nil_of_left_ne_nil start.steps_ne_nil _)
      ((depart :: startMiddle).map RouteStep.segment ++ folded.map RouteStep.segment)
  have coarsens : Coarsens ((start.steps ++ (blocks.flatMap LegBlock.steps ++ last.steps)).map
      RouteStep.segment)
      ((depart :: startMiddle ++ (folded ++ (middle ++ [arrive]))).map RouteStep.segment) := by
    simp only [List.map_append, List.append_assoc] at startCoarsens blocksCoarsen endCoarsens ⊢
    exact (startCoarsens.trans blocksCoarsen).trans endCoarsens
  refine ⟨_, processed, ⟨⟨depart, startMiddle ++ (folded ++ middle), arrive, by simp, departStep,
    ?_, arriveStep⟩, coarsens.chain leg.chain⟩, ?_, coarsens⟩
  · intro step member
    simp only [List.mem_append] at member
    rcases member with member | member | member
    exacts [startMiddles step member, (middles step member).1, endMiddles step member]
  · intro step member
    rcases List.mem_append.mp member with member | member
    · exact startTypes step member
    rcases List.mem_append.mp member with member | member
    exacts [(middles step member).2, endTypes step member]

/-- On a leg that is on one roundabout from its depart to its arrive, `postProcess` returns a leg
that satisfies the leg invariant, has no `StayOnRoundabout` step and coarsens the input: the
roundabout is joined into the depart. -/
theorem postProcess_onRoundabout_coarsens {depart arrive : RouteStep} {stays : List RouteStep}
    (leg : LegInvariant (depart :: (stays ++ [arrive]))) (departQuiet : Quiet tk depart)
    (nonempty : stays ≠ [])
    (staying : ∀ step ∈ stays, step.maneuver.instruction.type = .stayOnRoundabout)
    (arriveQuiet : Quiet tk arrive) (spanning : ∀ step ∈ depart :: stays, Spanning step) :
    ∃ result, postProcess tk (depart :: (stays ++ [arrive])) = some result ∧ LegInvariant result ∧
      (∀ step ∈ result, step.maneuver.instruction.type ≠ .stayOnRoundabout) ∧
      Coarsens ((depart :: (stays ++ [arrive])).map RouteStep.segment)
        (result.map RouteStep.segment) := by
  have processed := postProcess_onRoundabout lawful depart departQuiet nonempty staying arriveQuiet
    (leg.valid depart (List.mem_cons_self _ _)) (leg.valid arrive (by simp))
  have chain := leg.chain_of_split (show _ = [] ++ (depart :: stays) ++ [arrive] by simp)
  have same : ∀ {β : Type} (f : RouteStep → β), (∀ exit step, f (withExit exit step) = f step) →
      (depart :: countFrom (stays.headD arrive).maneuver.exit stays).map f =
        (depart :: stays).map f := fun f invariant => by
    rw [List.map_cons, List.map_cons, countFrom_map invariant]
  have spans := mergeRun_spans_of_segments chain spanning depart _ rfl
    (same _ fun _ _ => rfl) (same _ fun _ _ => rfl)
  have departStep : DepartStep depart := leg.depart_ok
  have coarsens : Coarsens ((depart :: (stays ++ [arrive])).map RouteStep.segment)
      ([mergeRun depart (countFrom (stays.headD arrive).maneuver.exit stays),
        withExit ((stays.headD arrive).maneuver.exit + stays.length) arrive].map
          RouteStep.segment) := by
    have merged : (mergeRun depart (countFrom (stays.headD arrive).maneuver.exit stays)).segment =
        depart.segment.joinRun (stays.map RouteStep.segment) := spans.segment
    simp only [List.map_cons, List.map_append, List.map_nil, merged]
    simpa using Coarsens.joinRun [arrive.segment] (stays.map RouteStep.segment) [] depart.segment
      chain
  obtain ⟨front, rest, intersections, bearings, entry⟩ := departStep.2.1
  refine ⟨_, processed, ⟨⟨_, [], _, rfl, ⟨by simpa using departStep.1,
    ⟨front, rest ++ stays.flatMap RouteStep.intersections, ?_, bearings, entry⟩,
    spans.geometryBegin.trans departStep.2.2⟩, by simp,
      (show LegInvariant ((depart :: stays) ++ [arrive]) by simpa using leg).arrive_ok⟩,
    coarsens.chain leg.chain⟩,
    by simpa using ⟨departQuiet.2.1, arriveQuiet.2.1⟩, coarsens⟩
  rw [spans.intersections, List.flatMap_cons, intersections, List.cons_append]

end Coarsening

/-! ### The legs `postProcess` folds -/

/-- A leg as `postProcess` folds it: a start, blocks and an end as the exit-counting loop takes
them, or a leg that is on one roundabout from its depart to its arrive, whose depart and
`StayOnRoundabout` steps each span two locations. -/
inductive RoundaboutLeg (tk : Toolkit) : List RouteStep → Prop
  | blocks {start : LegStart} {blocks : List LegBlock} {last : LegEnd} :
      start.Lawful tk → (∀ block ∈ blocks, block.Lawful tk) → last.Lawful tk →
      RoundaboutLeg tk (start.steps ++ (blocks.flatMap LegBlock.steps ++ last.steps))
  | onRoundabout {depart arrive : RouteStep} {stays : List RouteStep} :
      Quiet tk depart → stays ≠ [] →
      (∀ step ∈ stays, step.maneuver.instruction.type = .stayOnRoundabout) → Quiet tk arrive →
      (∀ step ∈ depart :: stays, Spanning step) →
      RoundaboutLeg tk (depart :: (stays ++ [arrive]))

/-- On every leg that satisfies the leg invariant and whose roundabouts are as `RoundaboutLeg`
says, `postProcess` returns a leg that satisfies the leg invariant, has no `StayOnRoundabout`
step and coarsens the input. -/
theorem postProcess_roundaboutLeg {tk : Toolkit} (lawful : tk.Lawful) {steps : List RouteStep}
    (leg : LegInvariant steps) (shape : RoundaboutLeg tk steps) :
    ∃ result, postProcess tk steps = some result ∧ LegInvariant result ∧
      (∀ step ∈ result, step.maneuver.instruction.type ≠ .stayOnRoundabout) ∧
      Coarsens (steps.map RouteStep.segment) (result.map RouteStep.segment) := by
  cases shape with
  | blocks lawfulStart lawfulBlocks lawfulEnd =>
    exact postProcess_coarsens lawful leg lawfulStart lawfulBlocks lawfulEnd
  | onRoundabout departQuiet nonempty staying arriveQuiet spanning =>
    exact postProcess_onRoundabout_coarsens lawful leg departQuiet nonempty staying arriveQuiet
      spanning

/-- A leg that starts on a roundabout, passes a step and a rotary, and arrives on a roundabout. -/
def roundaboutsLeg : List RouteStep :=
  [roundaboutDepart, roundaboutStep .stayOnRoundabout 1, roundaboutStep .exitRoundabout 2,
    roundaboutStep .turn 3, roundaboutStep .enterRotary 4, roundaboutStep .stayOnRoundabout 5,
    roundaboutStep .exitRotary 6, roundaboutStep .enterRoundabout 7,
    roundaboutStep .stayOnRoundabout 8, roundaboutArrive 9]

theorem roundaboutsLeg_invariant : LegInvariant roundaboutsLeg :=
  ⟨⟨_, [_, _, _, _, _, _, _, _], _, rfl, ⟨rfl, ⟨_, _, rfl, rfl, rfl⟩, rfl⟩,
    by simp [MiddleStep, roundaboutStep], ⟨rfl, _, rfl, rfl, rfl⟩⟩,
    by simp [roundaboutsLeg, RouteStep.segment, Segment.Linked, roundaboutDepart, roundaboutStep,
      roundaboutArrive]⟩

/-- `roundaboutsLeg` is a start on a roundabout, a quiet step, a closed rotary and an open
roundabout. -/
theorem roundaboutsLeg_roundaboutLeg : RoundaboutLeg sampleToolkit roundaboutsLeg := by
  have spanning : ∀ start type, Spanning (roundaboutStep type start) := fun start _ => by
    simp [Spanning, roundaboutStep]
  have reads : ∀ start type, HeadReads Intersection.in (roundaboutStep type start) ∧
      HeadReads Intersection.out (roundaboutStep type start) :=
    fun _ _ => ⟨⟨_, _, rfl, by decide⟩, ⟨_, _, rfl, by decide⟩⟩
  have entered : ∀ start type, sampleToolkit.entersRoundabout ⟨type, .straight⟩ = true →
      sampleToolkit.leavesRoundabout ⟨type, .straight⟩ = false →
      EnteredRun sampleToolkit (roundaboutStep type start)
        [roundaboutStep .stayOnRoundabout (start + 1)] :=
    fun start _ enters stays => ⟨enters, stays, by simp [roundaboutStep],
      by simp [spanning start, spanning (start + 1)]⟩
  exact @RoundaboutLeg.blocks sampleToolkit
    (.onRoundabout roundaboutDepart [roundaboutStep .stayOnRoundabout 1]
      (roundaboutStep .exitRoundabout 2))
    [.quiet (roundaboutStep .turn 3), .closed (roundaboutStep .enterRotary 4)
      [roundaboutStep .stayOnRoundabout 5] (roundaboutStep .exitRotary 6)]
    (.openRoundabout (roundaboutStep .enterRoundabout 7) [roundaboutStep .stayOnRoundabout 8]
      (roundaboutArrive 9))
    ⟨by simp [Quiet, sampleToolkit, roundaboutDepart], rfl, by simp [roundaboutStep], rfl, rfl,
      by decide, (reads 2 _).2, by simp [spanning]⟩
    (by simp only [List.mem_cons, List.mem_singleton, List.not_mem_nil, or_false, forall_eq_or_imp,
      forall_eq]
        exact ⟨by simp [LegBlock.Lawful, Quiet, sampleToolkit, roundaboutStep], entered 4 _ rfl rfl,
          (reads 4 _).1, rfl, rfl, by decide, (reads 6 _).2, spanning 6 _⟩)
    ⟨entered 7 _ rfl rfl, by simp [Quiet, sampleToolkit, roundaboutArrive]⟩

end Osrm.Engine.Guidance
