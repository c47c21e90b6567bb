import Osrm.Engine.Guidance.RouteStep
import Osrm.Engine.Guidance.Leg
import Mathlib.Tactic.NormNum

/-!
# Guidance post-processing passes

`post_processing.cpp` rewrites the steps of one leg in place and then sweeps out the invalidated
ones: `postProcess` (lines 655-725) counts roundabout exits and folds each roundabout into its
entering step, `collapseTurns` (lines 727-964) folds short and redundant turns, `buildIntersections`
(lines 1246-1285) absorbs suppressed turns into the previous announced step, and `collapseUseLane`
(lines 1287-1338) folds uninformative lane changes.

The vector of steps is a list; `steps[i]` is `steps[i]?`, and a read the code makes without a
bounds check (`steps[i]`, `front()`, `bearings[in]`, a lane mask through `rbegin()`, `erase` of the
first element) returns `none` when it would leave its vector, where the code's behaviour is
undefined. Each pass therefore returns an `Option`. The `for` loops over indices are folds over
the index ranges (the vector's size does not change inside a pass), and the backward loops and the
`while` loops are structural recursions on the index they count down or on the remaining count.
Reads through a reference after a write to the same element read the written value, as in the
code.
-/

namespace Osrm.Engine.Guidance

/-- `MAX_COLLAPSE_DISTANCE`. -/
def maxCollapseDistance : ℚ := 30

/-- `MIN_END_OF_ROAD_INTERSECTIONS`. -/
def minEndOfRoadIntersections : Nat := 2

/-- `hasManeuver(first, second)`: one of the two turns is not suppressed. -/
def hasManeuver (first second : RouteStep) : Bool :=
  first.maneuver.instruction.type != .suppressed || second.maneuver.instruction.type != .suppressed

/-- `forwardStepSignage(destination, origin)`. -/
def forwardStepSignage (destination origin : RouteStep) : RouteStep :=
  { destination with
    nameId := origin.nameId
    name := origin.name
    pronunciation := origin.pronunciation
    destinations := origin.destinations
    ref := origin.ref }

/-- `choiceless(step, previous)`; the entry flags of `step`'s first intersection are read only when
the previous step is shorter than `4 * MAX_COLLAPSE_DISTANCE`. -/
def choiceless (step previous : RouteStep) : Option Bool :=
  if previous.distance < 4 * maxCollapseDistance then do
    let front ← step.intersections.head?
    pure (decide (front.entry.count true ≤ 1))
  else pure false

/-- `isCollapsableInstruction(instruction)`. -/
def isCollapsableInstruction (instruction : TurnInstruction) : Bool :=
  instruction.type = .newName ||
    (instruction.type = .suppressed && instruction.directionModifier = .straight) ||
    (instruction.type = .turn && instruction.directionModifier = .straight) ||
    (instruction.type = .«continue» && instruction.directionModifier = .straight) ||
    instruction.type = .merge

/-- `compatible(lhs, rhs)`: the two steps have the same travel mode. -/
def compatible (lhs rhs : RouteStep) : Bool := lhs.mode = rhs.mode

/-- `turn_angle(entry_bearing, exit_bearing)`. -/
def turnAngle (entryBearing exitBearing : ℚ) : ℚ :=
  let offset := 360 - entryBearing
  let bearing := exitBearing + offset
  let rotatedExit := if bearing > 360 then bearing - 360 else bearing
  let angle := 540 - rotatedExit
  if angle > 360 then angle - 360 else angle

section Passes

variable (tk : Toolkit)

/-- `isNoticeableNameChange(lhs, rhs)`. -/
def isNoticeableNameChange (lhs rhs : RouteStep) : Bool :=
  tk.requiresNameAnnounced lhs.name lhs.ref rhs.name rhs.ref

/-- The `while` loop of `nameSegmentLength`: the distances of the steps after `previous` up to the
first noticeable name change. -/
def nameSegmentRest : RouteStep → List RouteStep → ℚ
  | _, [] => 0
  | previous, next :: rest =>
    if isNoticeableNameChange tk previous next then 0
    else next.distance + nameSegmentRest next rest

/-- `nameSegmentLength(at, steps)`. -/
def nameSegmentLength («at» : Nat) (steps : List RouteStep) : Option ℚ := do
  let first ← steps[«at»]?
  pure (first.distance + nameSegmentRest tk first (steps.drop («at» + 1)))

/-- The loop of `fixFinalRoundabout` at `propagation_index = index + 1`, counting down to `1`. -/
def fixFinalRoundabout (steps : List RouteStep) : Nat → Option (List RouteStep)
  | 0 => some steps
  | index + 1 => do
    let step ← steps[index + 1]?
    let type := step.maneuver.instruction.type
    if tk.entersRoundabout step.maneuver.instruction then
      let step := { step with maneuver.exit := 0 }
      let step :=
        if type = .enterRotary ∨ type = .enterRotaryAtExit then
          { step with rotaryName := step.name, rotaryPronunciation := step.pronunciation }
        else if type = .enterRoundaboutIntersection ∨ type = .enterRoundaboutIntersectionAtExit then
          { step with maneuver.instruction.type := .enterRoundabout }
        else step
      pure (steps.set (index + 1) step)
    else if type = .stayOnRoundabout then do
      let previous ← steps[index]?
      fixFinalRoundabout ((steps.set index (forwardInto previous step)).set (index + 1)
        (invalidRouteStep tk)) index
    else fixFinalRoundabout steps index

/-- `setUpRoundabout(step)`: the step with its exit count and enter type normalised, and whether
the roundabout is still to be left. -/
def setUpRoundabout (step : RouteStep) : RouteStep × Bool :=
  let instruction := step.maneuver.instruction
  let step :=
    if instruction.type = .enterRotaryAtExit ∨ instruction.type = .enterRoundaboutAtExit ∨
        instruction.type = .enterRoundaboutIntersectionAtExit then
      { step with
        maneuver.exit := 1
        maneuver.instruction.type :=
          if instruction.type = .enterRotaryAtExit then .enterRotary
          else if instruction.type = .enterRoundaboutAtExit then .enterRoundabout
          else .enterRoundaboutIntersection }
    else step
  if tk.leavesRoundabout instruction then
    ({ step with
      maneuver.exit := 1
      maneuver.instruction.type :=
        if instruction.type = .enterAndExitRotary then .enterRotary
        else if instruction.type = .enterAndExitRoundabout then .enterRoundabout
        else .enterRoundaboutIntersection }, false)
  else (step, true)

/-- The `exitToEnter` lambda of `closeOffRoundabout`. -/
def exitToEnter (type : TurnType) : TurnType :=
  if type = .exitRotary then .enterRotary
  else if type = .exitRoundaboutIntersection then .enterRoundabout
  else .enterRoundabout

/-- The special case of `closeOffRoundabout` for a leg that starts on the roundabout: the depart's
time and length move into `steps[1]`, which becomes the entering step. `exitType` is the type of
`steps[step_index]`, which none of these writes changes. -/
def startOnRoundabout (exitType : TurnType) (steps : List RouteStep) :
    Option (List RouteStep) := do
  let depart ← steps[0]?
  let first ← steps[1]?
  let depart := { depart with geometryEnd := 1 }
  let first := forwardInto { first with geometryBegin := 0 } depart
  let first ← match first.intersections with
    | [] => none
    | _ :: rest => some { first with intersections := rest }
  let first :=
    if tk.leavesRoundabout first.maneuver.instruction then { first with maneuver.exit := 1 }
    else first
  let depart := { depart with duration := 0, distance := 0 }
  let first := { first with maneuver.instruction.type := exitToEnter exitType }
  let first :=
    if first.maneuver.instruction.type = .enterRotary then
      { first with rotaryName := depart.name, rotaryPronunciation := depart.pronunciation }
    else first
  pure ((steps.set 0 depart).set 1 first)

/-- The backward loop of `closeOffRoundabout` at `propagation_index = index + 1`: each step takes
over the one after it, which is invalidated, until a step that enters the roundabout, which also
takes the exit's signage. -/
def propagateRoundabout (exitBearing : ℚ) (destinationCopy : RouteStep)
    (steps : List RouteStep) : Nat → Option (List RouteStep)
  | 0 => some steps
  | index + 1 => do
    let step ← steps[index + 1]?
    let next ← steps[index + 2]?
    let step := forwardInto step next
    if tk.entersRoundabout step.maneuver.instruction then
      let entryIntersection ← step.intersections.head?
      let type := step.maneuver.instruction.type
      let step ←
        if type = .enterRotary ∨ type = .enterRotaryAtExit then
          pure { step with rotaryName := step.name, rotaryPronunciation := step.pronunciation }
        else if type = .enterRoundaboutIntersection ∨
            type = .enterRoundaboutIntersectionAtExit then do
          let entryBearing ← entryIntersection.bearings[entryIntersection.in]?
          let angle := turnAngle (tk.reverseBearing entryBearing) exitBearing
          pure { step with maneuver.instruction.directionModifier := tk.getTurnDirection angle }
        else pure step
      pure ((steps.set (index + 1) (forwardStepSignage step destinationCopy)).set (index + 2)
        (invalidRouteStep tk))
    else
      propagateRoundabout exitBearing destinationCopy
        ((steps.set (index + 1) step).set (index + 2) (invalidRouteStep tk)) index

/-- `closeOffRoundabout(on_roundabout, steps, step_index)`. -/
def closeOffRoundabout (onRoundabout : Bool) (steps : List RouteStep) (stepIndex : Nat) :
    Option (List RouteStep) := do
  let step ← steps[stepIndex]?
  let steps := steps.set stepIndex { step with maneuver.exit := step.maneuver.exit + 1 }
  let steps ←
    if onRoundabout then pure steps
    else startOnRoundabout tk step.maneuver.instruction.type steps
  let step ← steps[stepIndex]?
  let exitIntersection ← step.intersections.head?
  let exitBearing ← exitIntersection.bearings[exitIntersection.out]?
  if stepIndex > 1 then propagateRoundabout tk exitBearing step steps (stepIndex - 1)
  else pure steps

/-- `steps[index].maneuver.exit = exit`. -/
def setExit (steps : List RouteStep) (index exit : Nat) : Option (List RouteStep) := do
  let step ← steps[index]?
  pure (steps.set index { step with maneuver.exit := exit })

/-- One iteration of the exit-counting loop of `postProcess`, over the steps and the flags
`on_roundabout` and `has_entered_roundabout`. -/
def postProcessStep (state : List RouteStep × Bool × Bool) (stepIndex : Nat) :
    Option (List RouteStep × Bool × Bool) := do
  let (steps, onRoundabout, hasEnteredRoundabout) := state
  let step ← steps[stepIndex]?
  let instruction := step.maneuver.instruction
  if tk.entersRoundabout instruction then
    let (step, entered) := setUpRoundabout tk step
    let steps := steps.set stepIndex step
    let steps ←
      if entered ∧ stepIndex + 1 < steps.length then setExit steps (stepIndex + 1) step.maneuver.exit
      else pure steps
    pure (steps, onRoundabout, entered)
  else if instruction.type = .stayOnRoundabout then
    let step := { step with maneuver.exit := step.maneuver.exit + 1 }
    let steps := steps.set stepIndex step
    let steps ←
      if stepIndex + 1 < steps.length then setExit steps (stepIndex + 1) step.maneuver.exit
      else pure steps
    pure (steps, true, hasEnteredRoundabout)
  else if tk.leavesRoundabout instruction then do
    let steps ← closeOffRoundabout tk hasEnteredRoundabout steps stepIndex
    pure (steps, false, false)
  else if onRoundabout ∧ stepIndex + 1 < steps.length then do
    let steps ← setExit steps (stepIndex + 1) step.maneuver.exit
    pure (steps, onRoundabout, hasEnteredRoundabout)
  else pure state

/-- `postProcess(steps)`. -/
def postProcess (steps : List RouteStep) : Option (List RouteStep) :=
  if steps.length = 2 then some steps
  else do
    let (steps, onRoundabout, hasEnteredRoundabout) ←
      (List.range steps.length).foldlM (postProcessStep tk) (steps, false, false)
    let steps ←
      if hasEnteredRoundabout || onRoundabout then fixFinalRoundabout tk steps (steps.length - 1)
      else pure steps
    pure (removeNoTurnInstructions tk steps)

/-- The `while` loop of the `getPreviousIndex` lambdas, from `index` down, skipping `NoTurn`
steps and stopping at `0`. -/
def skipNoTurn (steps : List RouteStep) : Nat → Option Nat
  | 0 => some 0
  | index + 1 => do
    let step ← steps[index + 1]?
    if step.maneuver.instruction.type = .noTurn then skipNoTurn steps index else pure (index + 1)

/-- The `getPreviousIndex` lambda of `collapseTurns` and `collapseUseLane`: the closest step before
`index` that is not `NoTurn`, or `0`. At `index = 0` the decrement wraps and the loop reads
`steps[SIZE_MAX]`. -/
def getPreviousIndex (steps : List RouteStep) (index : Nat) : Option Nat :=
  if index = 0 then none else skipNoTurn steps (index - 1)

/-- The `while` loop of `getPreviousNameIndex`, skipping steps with the empty name id. -/
def skipEmptyName (steps : List RouteStep) : Nat → Option Nat
  | 0 => some 0
  | index + 1 => do
    let step ← steps[index + 1]?
    if step.nameId = tk.emptyNameId then skipEmptyName steps index else pure (index + 1)

/-- The `getPreviousNameIndex` lambda of `collapseTurns`. -/
def getPreviousNameIndex (steps : List RouteStep) (index : Nat) : Option Nat :=
  if index = 0 then none else skipEmptyName tk steps (index - 1)

/-- The loop of the `canCollapseAll` lambda over `count` indices from `index` to `end_index`. -/
def canCollapseAllFrom (steps : List RouteStep) (endIndex : Nat) : Nat → Nat → Option Bool
  | _, 0 => some true
  | index, count + 1 => do
    let step ← steps[index]?
    if step.maneuver.instruction.type ≠ .suppressed ∧ step.maneuver.instruction.type ≠ .newName then
      pure false
    else if index + 1 < endIndex then do
      let next ← steps[index + 1]?
      if !compatible step next then pure false
      else canCollapseAllFrom steps endIndex (index + 1) count
    else canCollapseAllFrom steps endIndex (index + 1) count

/-- The `canCollapseAll` lambda: only suppressed turns and name changes, in one travel mode. -/
def canCollapseAll (steps : List RouteStep) (index endIndex : Nat) : Option Bool :=
  canCollapseAllFrom steps endIndex index (endIndex - index)

/-- The `bearingsAreReversed` lambda of `collapseTurnAt`. -/
def bearingsAreReversed (bearingIn bearingOut : ℚ) : Bool :=
  let leftTurnAngle :=
    if 0 ≤ bearingOut ∧ bearingOut ≤ bearingIn then bearingIn - bearingOut
    else bearingIn + 360 - bearingOut
  decide (tk.angularDeviation leftTurnAngle 180 ≤ 35)

/-- `collapsable(step, next)`; both first intersections are read before the tests. -/
def collapsable (step next : RouteStep) : Option Bool := do
  let isShortStep := decide (step.distance < maxCollapseDistance)
  let instructionCanBeCollapsed := isCollapsableInstruction step.maneuver.instruction
  let isUseLane := step.maneuver.instruction.type = .useLane
  let stepFront ← step.intersections.head?
  let nextFront ← next.intersections.head?
  let lanesDontChange := stepFront.lanes = nextFront.lanes
  pure ((isShortStep && instructionCanBeCollapsed) || (isShortStep && isUseLane && lanesDontChange))

/-- The bearing into (`true`) or out of (`false`) the first intersection of a step: the
`getBearing` lambda of `collapseTurnAt`. -/
def frontBearing (entering : Bool) (step : RouteStep) : Option ℚ := do
  let front ← step.intersections.head?
  let bearing ← front.bearings[if entering then front.in else front.out]?
  pure (bearing : ℚ)

/-- The number of bearings at the first intersection of a step. -/
def frontBearingCount (step : RouteStep) : Option Nat := do
  let front ← step.intersections.head?
  pure front.bearings.length

/-- The turn types of `collapseTurnAt`'s first rule: the current step becomes a turn after its
short predecessor is folded away. -/
def retypeAfterNewName (currentStep oneBackStep : RouteStep) : Option RouteStep := do
  let instruction := currentStep.maneuver.instruction
  if instruction.type = .«continue» ∨
      (instruction.type = .suppressed ∧ instruction.directionModifier ≠ .straight) then
    pure { currentStep with maneuver.instruction.type := .turn }
  else if instruction.type = .merge then
    pure { currentStep with
      maneuver.instruction.directionModifier :=
        tk.mirrorDirectionModifier instruction.directionModifier
      maneuver.instruction.type := .turn }
  else if instruction.type = .newName ∧ instruction.directionModifier ≠ .straight then do
    let count ← frontBearingCount oneBackStep
    pure (if count > 2 then { currentStep with maneuver.instruction.type := .turn } else currentStep)
  else if instruction.type = .useLane ∧ instruction.directionModifier ≠ .straight then do
    let count ← frontBearingCount oneBackStep
    pure (if count > 2 then { currentStep with maneuver.instruction.type := .turn } else currentStep)
  else pure currentStep

/-- The "Very Short New Name" rule of `collapseTurnAt`: the step before is folded into the one two
back, and the current step's type is adjusted. -/
def collapseShortNewName (steps : List RouteStep) (twoBackIndex oneBackIndex stepIndex : Nat)
    (currentStep oneBackStep : RouteStep) : Option (List RouteStep) := do
  let twoBackStep ← steps[twoBackIndex]?
  if compatible oneBackStep twoBackStep then do
    let currentStep ← retypeAfterNewName tk currentStep oneBackStep
    let steps := steps.set stepIndex currentStep
    let twoBackStep ← steps[twoBackIndex]?
    let oneBackStep ← steps[oneBackIndex]?
    let steps := steps.set twoBackIndex (elongate twoBackStep oneBackStep)
    pure (steps.set oneBackIndex (invalidRouteStep tk))
  else pure steps

/-- The turn types of the "very short segment after turn" rule for the step before, once the
current step is folded into it; `renamed` reads whether the name changes from two back to the
current step, and is only run when the type asks for it. -/
def retypeShortSegment (oneBack currentStep : RouteStep) (renamed : Option Bool) :
    Option RouteStep := do
  let type := oneBack.maneuver.instruction.type
  let toTurn ← if type = .«continue» ∨ type = .suppressed then renamed else pure false
  let toContinue ← if type = .turn then (!·) <$> renamed else pure false
  if toTurn then
    pure { oneBack with maneuver.instruction.type := .turn }
  else if toContinue then do
    let oneBack := { oneBack with maneuver.instruction.type := .«continue» }
    let bearingIn ← frontBearing true oneBack
    let bearingOut ← frontBearing false currentStep
    if bearingsAreReversed tk (tk.reverseBearing bearingIn) bearingOut then
      pure { oneBack with
        maneuver.instruction.type := .«continue»
        maneuver.instruction.directionModifier := .uTurn }
    else pure oneBack
  else if type = .merge ∧ currentStep.maneuver.instruction.type ≠ .suppressed then
    pure { oneBack with
      maneuver.instruction.directionModifier :=
        tk.mirrorDirectionModifier oneBack.maneuver.instruction.directionModifier }
  else pure oneBack

/-- The "very short segment after turn" rule of `collapseTurnAt`: the current step is folded into
the step before, which takes its signage. -/
def collapseShortSegment (steps : List RouteStep) (twoBackIndex oneBackIndex stepIndex : Nat)
    (currentStep oneBackStep : RouteStep) : Option (List RouteStep) :=
  if compatible oneBackStep currentStep then do
    let steps := steps.set oneBackIndex (elongate oneBackStep currentStep)
    let oneBack ← steps[oneBackIndex]?
    let renamed : Option Bool := do
      let twoBackStep ← steps[twoBackIndex]?
      pure (isNoticeableNameChange tk twoBackStep currentStep)
    let oneBack ← retypeShortSegment tk oneBack currentStep renamed
    let steps := steps.set oneBackIndex (forwardStepSignage oneBack currentStep)
    pure (steps.set stepIndex (invalidRouteStep tk))
  else pure steps

/-- The "Potential U-Turn" rule of `collapseTurnAt`, once the bearings are reversed and the modes
compatible: the current step, and the next one when it only changes the name back, are folded into
the step before, which becomes a u-turn. -/
def collapseUTurn (steps : List RouteStep) (twoBackIndex oneBackIndex stepIndex : Nat)
    (currentStep oneBackStep : RouteStep) : Option (List RouteStep) := do
  let twoBackStep ← steps[twoBackIndex]?
  let directUTurn := !isNoticeableNameChange tk twoBackStep currentStep
  let nextStepIndex := stepIndex + 1
  let uTurnWithNameChange ←
    if nextStepIndex < steps.length then do
      let nextStep ← steps[nextStepIndex]?
      pure ((nextStep.maneuver.instruction.type = .useLane ||
          isCollapsableInstruction nextStep.maneuver.instruction) &&
        !isNoticeableNameChange tk twoBackStep nextStep)
    else pure false
  if directUTurn ∨ uTurnWithNameChange then do
    let steps := steps.set oneBackIndex (elongate oneBackStep currentStep)
    let steps := steps.set stepIndex (invalidRouteStep tk)
    let steps ←
      if uTurnWithNameChange then do
        let oneBack ← steps[oneBackIndex]?
        let nextStep ← steps[nextStepIndex]?
        if compatible oneBack nextStep then do
          let steps := steps.set oneBackIndex (elongate oneBack nextStep)
          let steps := steps.set nextStepIndex (invalidRouteStep tk)
          let oneBack ← steps[oneBackIndex]?
          let twoBack ← steps[twoBackIndex]?
          pure (steps.set oneBackIndex (forwardStepSignage oneBack twoBack))
        else pure steps
      else pure steps
    let steps ←
      if directUTurn then do
        let oneBack ← steps[oneBackIndex]?
        let twoBack ← steps[twoBackIndex]?
        pure (steps.set oneBackIndex (forwardStepSignage oneBack twoBack))
      else pure steps
    let oneBack ← steps[oneBackIndex]?
    pure (steps.set oneBackIndex { oneBack with
      maneuver.instruction.type := .«continue»
      maneuver.instruction.directionModifier := .uTurn })
  else pure steps

/-- `collapseTurnAt(steps, two_back_index, one_back_index, step_index)`: its three rules, tried in
order. -/
def collapseTurnAt (steps : List RouteStep) (twoBackIndex oneBackIndex stepIndex : Nat) :
    Option (List RouteStep) := do
  let currentStep ← steps[stepIndex]?
  let oneBackStep ← steps[oneBackIndex]?
  if !hasManeuver oneBackStep currentStep then return steps
  let collapse ← collapsable oneBackStep currentStep
  let shortNewName ←
    if collapse then pure true
    else if isCollapsableInstruction oneBackStep.maneuver.instruction then
      choiceless currentStep oneBackStep
    else pure false
  if shortNewName ∧ oneBackStep.maneuver.instruction.type ≠ .merge then
    collapseShortNewName tk steps twoBackIndex oneBackIndex stepIndex currentStep oneBackStep
  else if oneBackStep.distance ≤ maxCollapseDistance ∧
      isCollapsableInstruction currentStep.maneuver.instruction then
    collapseShortSegment tk steps twoBackIndex oneBackIndex stepIndex currentStep oneBackStep
  else do
    let nearby ←
      if oneBackStep.distance ≤ maxCollapseDistance then pure true
      else choiceless currentStep oneBackStep
    let reversed ←
      if nearby then do
        let bearingIn ← frontBearing true oneBackStep
        let bearingOut ← frontBearing false currentStep
        pure (bearingsAreReversed tk (tk.reverseBearing bearingIn) bearingOut)
      else pure false
    if reversed ∧ compatible oneBackStep currentStep then
      collapseUTurn tk steps twoBackIndex oneBackIndex stepIndex currentStep oneBackStep
    else pure steps

/-- The turn angle at the first intersection of a step: the `angle` lambda of
`isStaggeredIntersection`. -/
def frontTurnAngle (step : RouteStep) : Option ℚ := do
  let entryBearing ← frontBearing true step
  let exitBearing ← frontBearing false step
  pure (turnAngle entryBearing exitBearing)

/-- `isStaggeredIntersection(previous, current)`: a left-right or right-left zig-zag of less than
three metres. -/
def isStaggeredIntersection (previous current : RouteStep) : Option Bool := do
  let isRight := fun angle : ℚ => decide (45 < angle ∧ angle < 135)
  let isLeft := fun angle : ℚ => decide (225 < angle ∧ angle < 315)
  let previousAngle ← frontTurnAngle previous
  let leftRight ←
    if isLeft previousAngle then isRight <$> frontTurnAngle current else pure false
  let rightLeft ←
    if isRight previousAngle then isLeft <$> frontTurnAngle current else pure false
  pure (decide (previous.distance < 3) && (leftRight || rightLeft))

/-- The `isBasicNameChange` lambda of `collapseTurns`. -/
def isBasicNameChange (step : RouteStep) : Bool :=
  match step.intersections with
  | [front] => front.bearings.length = 2 && step.maneuver.instruction.directionModifier = .straight
  | _ => false

/-- The loop of `collapseTurns`' name-change rule over `count` indices from `index`: each step is
folded into `steps[target]` and invalidated. -/
def elongateRun (target : Nat) (steps : List RouteStep) : Nat → Nat → Option (List RouteStep)
  | _, 0 => some steps
  | index, count + 1 => do
    let targetStep ← steps[target]?
    let step ← steps[index]?
    elongateRun target ((steps.set target (elongate targetStep step)).set index
      (invalidRouteStep tk)) (index + 1) count

/-- `collapseTurns`' rules for a current step whose previous step is a sliproad. -/
def collapseSliproad (steps : List RouteStep) (oneBackIndex stepIndex : Nat) :
    Option (List RouteStep) := do
  let currentStep ← steps[stepIndex]?
  let oneBackStep ← steps[oneBackIndex]?
  if currentStep.maneuver.instruction.type = .suppressed ∧ compatible oneBackStep currentStep then
    pure ((steps.set oneBackIndex (elongate oneBackStep currentStep)).set stepIndex
      (invalidRouteStep tk))
  else if compatible oneBackStep currentStep then do
    let previousIndex ← getPreviousIndex steps oneBackIndex
    let previousStep ← steps[previousIndex]?
    let oneBack := { oneBackStep with
      maneuver.instruction.type :=
        if !isNoticeableNameChange tk previousStep currentStep then .«continue» else .turn }
    let oneBack := forwardStepSignage (elongate oneBack currentStep) currentStep
    let currentFront ← currentStep.intersections.head?
    let oneBack ← match oneBack.intersections with
      | [] => none
      | front :: rest => some { oneBack with
          intersections :=
            { front with
              lanes := currentFront.lanes
              laneDescription := currentFront.laneDescription } :: rest }
    let exitBearing ← frontBearing false currentStep
    let entryBearing ← frontBearing true oneBack
    let angle := turnAngle (tk.reverseBearing entryBearing) exitBearing
    let oneBack := { oneBack with
      maneuver.instruction.directionModifier := tk.getTurnDirection angle }
    pure ((steps.set oneBackIndex oneBack).set stepIndex (invalidRouteStep tk))
  else
    pure (steps.set oneBackIndex { oneBackStep with maneuver.instruction.type := .turn })

/-- `collapseTurns`' name-oscillation, name-segment, bridge and fallback rules, once the current
step and the one before are compatible and collapsable or a staggered intersection. -/
def collapseOscillation (steps : List RouteStep) (oneBackIndex stepIndex : Nat) :
    Option (List RouteStep) := do
  let currentStep ← steps[stepIndex]?
  let oneBackStep ← steps[oneBackIndex]?
  let nextStepIndex := stepIndex + 1
  let twoBackIndex ← getPreviousIndex steps oneBackIndex
  let twoBackStep ← steps[twoBackIndex]?
  if !isNoticeableNameChange tk twoBackStep currentStep then
    if compatible oneBackStep twoBackStep then
      let merged := elongate (elongate twoBackStep oneBackStep) currentStep
      pure (((steps.set twoBackIndex merged).set oneBackIndex (invalidRouteStep tk)).set stepIndex
        (invalidRouteStep tk))
    else pure steps
  else do
    let segment ← nameSegmentLength tk oneBackIndex steps
    if segment < 100 ∧ isBasicNameChange oneBackStep ∧ isBasicNameChange currentStep then
      if compatible twoBackStep oneBackStep then do
        let steps := (steps.set twoBackIndex (elongate twoBackStep oneBackStep)).set oneBackIndex
          (invalidRouteStep tk)
        let segment ← nameSegmentLength tk stepIndex steps
        if segment < 100 then do
          let twoBack ← steps[twoBackIndex]?
          let current ← steps[stepIndex]?
          pure ((steps.set twoBackIndex (elongate twoBack current)).set stepIndex
            (invalidRouteStep tk))
        else pure steps
      else pure steps
    else do
      let bridge ←
        if stepIndex + 2 < steps.length ∧ currentStep.maneuver.instruction.type = .newName then do
          let nextStep ← steps[nextStepIndex]?
          pure (nextStep.maneuver.instruction.type = .newName &&
            !isNoticeableNameChange tk oneBackStep nextStep)
        else pure false
      if bridge then do
        let nextStep ← steps[nextStepIndex]?
        if compatible currentStep nextStep then
          let merged := elongate oneBackStep (elongate currentStep nextStep)
          pure (((steps.set oneBackIndex merged).set stepIndex (invalidRouteStep tk)).set
            nextStepIndex (invalidRouteStep tk))
        else pure steps
      else do
        let nearby ←
          if (← choiceless currentStep oneBackStep) then pure true
          else pure (decide (oneBackStep.distance ≤ maxCollapseDistance))
        if nearby then do
          let twoBackIndex ← getPreviousIndex steps oneBackIndex
          collapseTurnAt tk steps twoBackIndex oneBackIndex stepIndex
        else pure steps

/-- One iteration of the loop of `collapseTurns` at `step_index`. -/
def collapseTurnsStep (steps : List RouteStep) (stepIndex : Nat) : Option (List RouteStep) := do
  let currentStep ← steps[stepIndex]?
  if currentStep.maneuver.instruction.type = .noTurn then return steps
  let oneBackIndex ← getPreviousIndex steps stepIndex
  let oneBackStep ← steps[oneBackIndex]?
  if !hasManeuver oneBackStep currentStep then return steps
  if oneBackStep.maneuver.instruction.type = .sliproad then
    collapseSliproad tk steps oneBackIndex stepIndex
  else
    -- Due to empty segments, we can get name-changes from A->A
    let nameChange ←
      if isCollapsableInstruction currentStep.maneuver.instruction ∧
          currentStep.maneuver.instruction.type ≠ .suppressed then do
        let nameIndex ← getPreviousNameIndex tk steps stepIndex
        let nameStep ← steps[nameIndex]?
        if !isNoticeableNameChange tk nameStep currentStep then do
          let nameIndex ← getPreviousNameIndex tk steps stepIndex
          canCollapseAll steps (nameIndex + 1) (stepIndex + 1)
        else pure false
      else pure false
    if nameChange then do
      let lastAvailableNameIndex ← getPreviousNameIndex tk steps stepIndex
      elongateRun tk lastAvailableNameIndex steps (lastAvailableNameIndex + 1)
        (stepIndex - lastAvailableNameIndex)
    else do
      let oscillation ←
        if oneBackIndex > 0 ∧ compatible currentStep oneBackStep then
          if isCollapsableInstruction currentStep.maneuver.instruction ∧
              isCollapsableInstruction oneBackStep.maneuver.instruction then pure true
          else isStaggeredIntersection oneBackStep currentStep
        else pure false
      if oscillation then collapseOscillation tk steps oneBackIndex stepIndex
      else if oneBackIndex > 0 then do
        let nearby ←
          if oneBackStep.distance ≤ maxCollapseDistance then pure true
          else choiceless currentStep oneBackStep
        if nearby then do
          let twoBackIndex ← getPreviousIndex steps oneBackIndex
          collapseTurnAt tk steps twoBackIndex oneBackIndex stepIndex
        else pure steps
      else pure steps

/-- `collapseTurns(steps)`. -/
def collapseTurns (steps : List RouteStep) : Option (List RouteStep) :=
  if steps.length ≤ 2 then some steps
  else do
    let steps ← (List.range' 1 (steps.length - 2)).foldlM (collapseTurnsStep tk) steps
    -- handle final sliproad
    let lastIndex ← getPreviousIndex steps (steps.length - 1)
    let lastStep ← steps[lastIndex]?
    let steps :=
      if lastStep.maneuver.instruction.type = .sliproad then
        steps.set lastIndex { lastStep with maneuver.instruction.type := .turn }
      else steps
    pure (removeNoTurnInstructions tk steps)

/-! ### A leg that a second `collapseTurns` folds further -/

/-- The depart of `sliproadLeg`, on road `A`. -/
def sliproadDepart : RouteStep :=
  ⟨1, "A", "", "", "", "", "", 10, 100, 1, ⟨⟨0, 0⟩, 0, 90, ⟨.noTurn, .uTurn⟩, .depart, 0⟩, 0, 3,
    [⟨[90], [true], Intersection.noIndex, 0, ⟨0, 0⟩, []⟩]⟩

/-- A right turn onto road `B`, 20 m long. -/
def shortTurn : RouteStep :=
  ⟨2, "B", "", "", "", "", "", 2, 20, 1, ⟨⟨100, 0⟩, 90, 180, ⟨.turn, .right⟩, .none, 0⟩, 2, 4,
    [⟨[270, 180], [false, true], 0, 1, ⟨0, 0⟩, []⟩]⟩

/-- A straight step of road `B` of the given type, the last before the arrive. -/
def finalSliproad (type : TurnType) : RouteStep :=
  ⟨2, "B", "", "", "", "", "", 5, 50, 1, ⟨⟨100, -20⟩, 180, 180, ⟨type, .straight⟩, .none, 0⟩, 3, 6,
    [⟨[0, 180], [false, true], 0, 1, ⟨0, 0⟩, []⟩]⟩

/-- The arrive of `sliproadLeg`. -/
def sliproadArrive : RouteStep :=
  ⟨2, "B", "", "", "", "", "", 0, 0, 1, ⟨⟨100, -70⟩, 180, 0, ⟨.noTurn, .uTurn⟩, .arrive, 0⟩, 5, 6,
    [⟨[0], [true], 0, Intersection.noIndex, ⟨0, 0⟩, []⟩]⟩

/-- A leg whose last step before the arrive is a sliproad, 20 m after a right turn onto its road. -/
def sliproadLeg : List RouteStep :=
  [sliproadDepart, shortTurn, finalSliproad .sliproad, sliproadArrive]

/-- `shortTurn` with the step after it folded in. -/
def foldedTurn : RouteStep :=
  ⟨2, "B", "", "", "", "", "", 7, 70, 1, ⟨⟨100, 0⟩, 90, 180, ⟨.turn, .right⟩, .none, 0⟩, 2, 6,
    [⟨[270, 180], [false, true], 0, 1, ⟨0, 0⟩, []⟩, ⟨[0, 180], [false, true], 0, 1, ⟨0, 0⟩, []⟩]⟩

theorem sliproadLeg_invariant : LegInvariant sliproadLeg :=
  ⟨⟨_, [_, _], _, rfl, ⟨rfl, ⟨_, _, rfl, rfl, rfl⟩, rfl⟩,
      by simp [MiddleStep, shortTurn, finalSliproad], ⟨rfl, _, rfl, rfl, rfl⟩⟩,
    by simp [sliproadLeg, RouteStep.segment, Segment.Linked, sliproadDepart, shortTurn,
      finalSliproad, sliproadArrive]⟩

/-- What the rules read of the short turn, whose bearings are not reversed against the next step. -/
theorem shortTurn_reads :
    shortTurn.maneuver.instruction = ⟨.turn, .right⟩ ∧ shortTurn.distance = 20 ∧
      shortTurn.mode = 1 ∧ shortTurn.intersections.head?.isSome ∧
      frontBearing true shortTurn = some 270 ∧
      bearingsAreReversed sampleToolkit (sampleToolkit.reverseBearing 270) 180 = false := by
  norm_num [frontBearing, bearingsAreReversed, sampleToolkit, shortTurn]

theorem finalSliproad_reads (type : TurnType) :
    (finalSliproad type).maneuver.instruction = ⟨type, .straight⟩ ∧
      (finalSliproad type).mode = 1 ∧ (finalSliproad type).intersections.head?.isSome ∧
      frontBearing false (finalSliproad type) = some 180 := by
  norm_num [frontBearing, finalSliproad]

theorem isStaggeredIntersection_shortTurn (type : TurnType) :
    isStaggeredIntersection shortTurn (finalSliproad type) = some false := by
  have turning : frontTurnAngle shortTurn = some 270 := by
    norm_num [frontTurnAngle, frontBearing, turnAngle, shortTurn]
  have straight : frontTurnAngle (finalSliproad type) = some 360 := by
    norm_num [frontTurnAngle, frontBearing, turnAngle, finalSliproad]
  simp only [isStaggeredIntersection, turning, straight]
  norm_num [shortTurn]

/-- One pass keeps every step: the sliproad is only retyped to a turn after the loop. -/
theorem collapseTurns_sliproadLeg : collapseTurns sampleToolkit sliproadLeg =
    some [sliproadDepart, shortTurn, finalSliproad .turn, sliproadArrive] := by
  have first : collapseTurnsStep sampleToolkit sliproadLeg 1 = some sliproadLeg := by decide
  have second : collapseTurnsStep sampleToolkit sliproadLeg 2 = some sliproadLeg := by
    simp +decide [sliproadLeg, collapseTurnsStep, getPreviousIndex, skipNoTurn, hasManeuver,
      isCollapsableInstruction, compatible, isStaggeredIntersection_shortTurn, collapseTurnAt,
      collapsable, choiceless, maxCollapseDistance, shortTurn_reads, finalSliproad_reads]
  rw [collapseTurns, if_neg (by decide)]
  simp only [show sliproadLeg.length - 2 = 2 from rfl, List.range', List.foldlM_cons,
    List.foldlM_nil, first, second, Option.bind_eq_bind, Option.some_bind]
  decide

/-- A second pass folds the retyped turn into the short turn by the short segment rule. -/
theorem collapseTurns_retyped : collapseTurns sampleToolkit
    [sliproadDepart, shortTurn, finalSliproad .turn, sliproadArrive] =
      some [sliproadDepart, foldedTurn, sliproadArrive] := by
  have folded : elongate shortTurn (finalSliproad .turn) = foldedTurn := by
    norm_num [elongate, shortTurn, finalSliproad, foldedTurn]
  have first : collapseTurnsStep sampleToolkit
      [sliproadDepart, shortTurn, finalSliproad .turn, sliproadArrive] 1 =
        some [sliproadDepart, shortTurn, finalSliproad .turn, sliproadArrive] := by decide
  have second : collapseTurnsStep sampleToolkit
      [sliproadDepart, shortTurn, finalSliproad .turn, sliproadArrive] 2 =
        some [sliproadDepart, foldedTurn, invalidRouteStep sampleToolkit, sliproadArrive] := by
    simp +decide [collapseTurnsStep, getPreviousIndex, skipNoTurn, hasManeuver,
      isCollapsableInstruction, compatible, isStaggeredIntersection_shortTurn, collapseTurnAt,
      collapsable, choiceless, maxCollapseDistance, shortTurn_reads, finalSliproad_reads,
      getPreviousNameIndex,
      skipEmptyName, isNoticeableNameChange, sampleToolkit, canCollapseAll, canCollapseAllFrom,
      collapseShortSegment, folded, retypeShortSegment, forwardStepSignage]
  rw [collapseTurns, if_neg (by decide)]
  simp only [show [sliproadDepart, shortTurn, finalSliproad .turn, sliproadArrive].length - 2 = 2
    from rfl, List.range', List.foldlM_cons, List.foldlM_nil, first, second, Option.bind_eq_bind,
    Option.some_bind]
  decide

theorem collapseTurns_sliproadLeg_twice :
    sampleToolkit.Lawful ∧ LegInvariant sliproadLeg ∧
      (∀ step ∈ sliproadLeg, step.maneuver.instruction.type ≠ .stayOnRoundabout) ∧
      collapseTurns sampleToolkit sliproadLeg =
        some [sliproadDepart, shortTurn, finalSliproad .turn, sliproadArrive] ∧
      (collapseTurns sampleToolkit sliproadLeg).bind (collapseTurns sampleToolkit) =
        some [sliproadDepart, foldedTurn, sliproadArrive] := by
  refine ⟨sampleToolkit_lawful, sliproadLeg_invariant, by decide, collapseTurns_sliproadLeg, ?_⟩
  rw [collapseTurns_sliproadLeg, Option.some_bind, collapseTurns_retyped]

/-- One iteration of the loop of `buildIntersections`, over the steps and
`last_valid_instruction`. At `step_index = 0` a suppressed step is elongated by itself through a
moved-from reference, whose contents are unspecified; the model has no result there. -/
def buildIntersectionsStep (state : List RouteStep × Nat) (stepIndex : Nat) :
    Option (List RouteStep × Nat) := do
  let (steps, lastValidInstruction) := state
  let step ← steps[stepIndex]?
  let instruction := step.maneuver.instruction
  if instruction.type = .suppressed then
    if lastValidInstruction = stepIndex then none
    let lastValid ← steps[lastValidInstruction]?
    let steps := steps.set lastValidInstruction (elongate lastValid step)
    pure (steps.set stepIndex { step with maneuver.instruction := tk.noTurn }, lastValidInstruction)
  else if !tk.isSilent instruction then do
    let steps ←
      if instruction.type = .endOfRoad then do
        let previousStep ← steps[lastValidInstruction]?
        if previousStep.intersections.length < minEndOfRoadIntersections then
          pure (steps.set stepIndex { step with maneuver.instruction.type := .turn })
        else pure steps
      else pure steps
    pure (steps, stepIndex)
  else pure state

/-- `buildIntersections(steps)`. -/
def buildIntersections (steps : List RouteStep) : Option (List RouteStep) := do
  let (steps, _) ← (List.range steps.length).foldlM (buildIntersectionsStep tk) (steps, 0)
  pure (removeNoTurnInstructions tk steps)

/-- The `containsTag` lambda of `collapseUseLane`. -/
def containsTag (mask tag : Nat) : Bool := mask &&& tag ≠ tk.emptyLane

/-- The `canCollapeUseLane` lambda: the lanes of the turn have no straight or unmarked lane on
either side. Lanes are counted from the right and the description is read through `rbegin()`. -/
def canCollapeUseLane (lanes : LaneTupel) (laneDescription : List Nat) : Option Bool := do
  let tag := tk.straightLane ||| tk.noneLane
  let blockedRight ←
    if lanes.firstLaneFromTheRight > 0 then do
      let mask ← laneDescription.reverse[lanes.firstLaneFromTheRight - 1]?
      pure (containsTag tk mask tag)
    else pure false
  if blockedRight then return false
  let laneToTheRight := lanes.firstLaneFromTheRight + lanes.lanesInTurn
  let blockedLeft ←
    if laneToTheRight < laneDescription.length then do
      let mask ← laneDescription.reverse[laneToTheRight]?
      pure (containsTag tk mask tag)
    else pure false
  pure !blockedLeft

/-- One iteration of the loop of `collapseUseLane` at `step_index`. -/
def collapseUseLaneStep (steps : List RouteStep) (stepIndex : Nat) : Option (List RouteStep) := do
  let step ← steps[stepIndex]?
  let collapse ←
    if step.maneuver.instruction.type = .useLane then do
      let front ← step.intersections.head?
      canCollapeUseLane tk front.lanes front.laneDescription
    else pure false
  if collapse then do
    let previous ← getPreviousIndex steps stepIndex
    let previousStep ← steps[previous]?
    pure ((steps.set previous (elongate previousStep step)).set stepIndex (invalidRouteStep tk))
  else pure steps

/-- `collapseUseLane(steps)`. -/
def collapseUseLane (steps : List RouteStep) : Option (List RouteStep) := do
  let steps ← (List.range' 1 (steps.length - 1)).foldlM (collapseUseLaneStep tk) steps
  pure (removeNoTurnInstructions tk steps)

end Passes

end Osrm.Engine.Guidance
