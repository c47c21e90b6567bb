import Osrm.Engine.Guidance.TrimShortSegments

/-!
# `assignRelativeLocations`

`assignRelativeLocations` (`post_processing.cpp:1177-1219`) reports where the input coordinates of
the source and the target lie relative to the road. The depart's direction modifier becomes the
direction of the angle from the source's input location over the first location of the leg to the
second, when the source lies between `MINIMAL_RELATIVE_DISTANCE` and `MAXIMAL_RELATIVE_DISTANCE`
of the road, and a u-turn otherwise; the arrive's the same at the other end of the leg.

`haversineDistance`, `computeAngle` and `angleToDirectionModifier` come from headers that are not
in this tree, and are parameters. Of the two phantom nodes the function reads only their input
locations. A read outside a vector gives `none`, and a location is read only where the source
reads it: the second location only when the source lies within range.

`assignRelativeLocations_consistent`: on steps and a geometry in the relation `G`, the function
keeps `G` and every segment, changes no step between the depart and the arrive, and leaves what
`resyncGeometry` makes of the steps as it was.
-/

namespace Osrm.Engine.Guidance

/-- The geometry functions `assignRelativeLocations` calls. -/
structure RelativeLocationCalculation where
  haversineDistance : Coordinate → Coordinate → ℚ
  computeAngle : Coordinate → Coordinate → Coordinate → ℚ
  angleToDirectionModifier : ℚ → DirectionModifier

/-- `MINIMAL_RELATIVE_DISTANCE`, in metres. -/
def minimalRelativeDistance : ℚ := 5

/-- `MAXIMAL_RELATIVE_DISTANCE`, in metres. -/
def maximalRelativeDistance : ℚ := 300

/-- `initial_modifier` and `final_modifier`: the direction of `angle` for a waypoint within range
of the road, a u-turn otherwise. -/
def relativeModifier (calculation : RelativeLocationCalculation) (distance : ℚ)
    (angle : Option ℚ) : Option DirectionModifier :=
  if minimalRelativeDistance ≤ distance ∧ distance ≤ maximalRelativeDistance then
    angle.map calculation.angleToDirectionModifier
  else some .uTurn

/-- A step whose maneuver carries `modifier` as its direction modifier. -/
def RouteStep.withModifier (step : RouteStep) (modifier : DirectionModifier) : RouteStep :=
  { step with maneuver := { step.maneuver with
      instruction := { step.maneuver.instruction with directionModifier := modifier } } }

/-- `assignRelativeLocations(steps, leg_geometry, source_node, target_node)`, over the leg
geometry's locations and the phantom nodes' input locations. -/
def assignRelativeLocations (calculation : RelativeLocationCalculation) (steps : List RouteStep)
    (locations : List Coordinate) (sourceInputLocation targetInputLocation : Coordinate) :
    Option (List RouteStep) := do
  let start ← locations[0]?
  let initialModifier ← relativeModifier calculation
    (calculation.haversineDistance sourceInputLocation start)
    (locations[1]?.map (calculation.computeAngle sourceInputLocation start))
  let front ← steps.head?
  let steps := steps.set 0 (front.withModifier initialModifier)
  let finish ← locations.getLast?
  let finalModifier ← relativeModifier calculation
    (calculation.haversineDistance targetInputLocation finish)
    ((if 2 ≤ locations.length then locations[locations.length - 2]? else none).map
      fun beforeLast => calculation.computeAngle beforeLast finish targetInputLocation)
  let back ← steps.getLast?
  pure (steps.set (steps.length - 1) (back.withModifier finalModifier))

/-! ## What a new modifier keeps -/

section Modifier

variable {step : RouteStep} (modifier : DirectionModifier)

@[simp] theorem segment_withModifier : (step.withModifier modifier).segment = step.segment := rfl

theorem DepartStep.withModifier (depart : DepartStep step) :
    DepartStep (step.withModifier modifier) := depart

theorem ArriveStep.withModifier (arrive : ArriveStep step) :
    ArriveStep (step.withModifier modifier) := arrive

end Modifier

theorem relativeModifier_some (calculation : RelativeLocationCalculation) (distance angle : ℚ) :
    ∃ modifier, relativeModifier calculation distance (some angle) = some modifier := by
  unfold relativeModifier
  split
  · exact ⟨_, rfl⟩
  · exact ⟨_, rfl⟩

/-- On a leg of at least two locations, only the depart and the arrive get a new modifier. -/
theorem assignRelativeLocations_eq (calculation : RelativeLocationCalculation)
    (depart : RouteStep) (middle : List RouteStep) (arrive : RouteStep) {locations : List Coordinate}
    (twoLocations : 2 ≤ locations.length) (source target : Coordinate) :
    ∃ initial final, assignRelativeLocations calculation (depart :: middle ++ [arrive]) locations
        source target =
      some (depart.withModifier initial :: middle ++ [arrive.withModifier final]) := by
  have nonempty : locations ≠ [] := List.ne_nil_of_length_pos (by omega)
  obtain ⟨initial, initialIs⟩ := relativeModifier_some calculation
    (calculation.haversineDistance source locations[0])
    (calculation.computeAngle source locations[0] locations[1])
  obtain ⟨final, finalIs⟩ := relativeModifier_some calculation
    (calculation.haversineDistance target (locations.getLast nonempty))
    (calculation.computeAngle locations[locations.length - 2] (locations.getLast nonempty) target)
  refine ⟨initial, final, ?_⟩
  simp only [assignRelativeLocations, List.getElem?_eq_getElem (by omega : 0 < locations.length),
    List.getElem?_eq_getElem (by omega : 1 < locations.length),
    List.getElem?_eq_getElem (by omega : locations.length - 2 < locations.length),
    List.getLast?_eq_getLast _ nonempty, if_pos twoLocations, Option.map_some', initialIs, finalIs,
    Option.bind_eq_bind, Option.some_bind]
  simp only [List.cons_append, List.head?_cons, Option.some_bind, List.set_cons_zero]
  rw [← List.cons_append, List.getLast?_concat]
  simp

/-! ## The relation `G` survives -/

section Segments

variable {AnnotationData : Type} {steps located : List RouteStep}

/-- `resyncGeometry` reads only the segments of the steps. -/
theorem resyncGeometry_of_segments (same : located.map RouteStep.segment = steps.map RouteStep.segment)
    (legGeometry : LegGeometry AnnotationData) :
    resyncGeometry legGeometry located = resyncGeometry legGeometry steps := by
  have ends : located.map (fun step => sizeSub step.geometryEnd 1) =
      steps.map fun step => sizeSub step.geometryEnd 1 := by
    simpa only [List.map_map, Function.comp_def, RouteStep.segment] using
      congrArg (List.map fun segment => sizeSub segment.geometryEnd 1) same
  have distances : located.map RouteStep.distance = steps.map RouteStep.distance := by
    simpa only [List.map_map, Function.comp_def, RouteStep.segment] using
      congrArg (List.map Segment.distance) same
  simp only [resyncGeometry, ends, distances]

/-- A leg with the segments of steps in the relation `G` with a geometry is in `G` with it too. -/
theorem GeometryConsistent.of_segments {geometry : LegGeometry AnnotationData}
    (consistent : GeometryConsistent steps geometry) (leg : LegInvariant located)
    (same : located.map RouteStep.segment = steps.map RouteStep.segment) :
    GeometryConsistent located geometry := by
  have sameLength : located.length = steps.length := by simpa using congrArg List.length same
  have segmentAt : ∀ i : Nat, located[i]?.map RouteStep.segment = steps[i]?.map RouteStep.segment :=
    fun i => by
      simpa only [List.getElem?_map] using congrArg (fun segments : List Segment => segments[i]?) same
  obtain ⟨last, isLast, lastEnd⟩ := consistent.last_end
  have lastSegment : located.getLast?.map RouteStep.segment = some last.segment := by
    simpa only [List.getLast?_map, isLast, Option.map_some'] using congrArg List.getLast? same
  obtain ⟨locatedLast, isLocatedLast, sameSegment⟩ := Option.map_eq_some'.mp lastSegment
  refine ⟨leg, ⟨locatedLast, isLocatedLast, ?_⟩, sameLength ▸ consistent.offsets_length,
    fun i step at_i => ?_, sameLength ▸ consistent.distances_length⟩
  · rw [← lastEnd]
    exact congrArg Segment.geometryEnd sameSegment
  · have atSteps := segmentAt i
    rw [at_i, Option.map_some'] at atSteps
    obtain ⟨original, isOriginal, sameOriginal⟩ := Option.map_eq_some'.mp atSteps.symm
    rw [consistent.offsets i original isOriginal]
    exact congrArg (some ∘ Segment.geometryBegin) sameOriginal

end Segments

/-- On steps and a geometry in the relation `G`, with at least two locations,
`assignRelativeLocations` succeeds, keeps `G`, the segments and every step between the depart and
the arrive, and so what `resyncGeometry` makes of the steps. -/
theorem assignRelativeLocations_consistent (calculation : RelativeLocationCalculation)
    {AnnotationData : Type} {steps : List RouteStep} {geometry : LegGeometry AnnotationData}
    (consistent : GeometryConsistent steps geometry)
    (twoLocations : 2 ≤ geometry.locations.length) (source target : Coordinate) :
    ∃ located, assignRelativeLocations calculation steps geometry.locations source target =
        some located ∧
      GeometryConsistent located geometry ∧
      located.map RouteStep.segment = steps.map RouteStep.segment ∧
      (∀ i, 0 < i → i + 1 < steps.length → located[i]? = steps[i]?) ∧
      resyncGeometry geometry located = resyncGeometry geometry steps := by
  obtain ⟨depart, middle, arrive, shape, departOk, middleOk, arriveOk⟩ := consistent.leg.shape
  obtain ⟨initial, final, assigned⟩ :=
    assignRelativeLocations_eq calculation depart middle arrive twoLocations source target
  subst shape
  have same : (depart.withModifier initial :: middle ++ [arrive.withModifier final]).map
      RouteStep.segment = (depart :: middle ++ [arrive]).map RouteStep.segment := by
    simp
  have leg : LegInvariant (depart.withModifier initial :: middle ++ [arrive.withModifier final]) :=
    ⟨⟨_, middle, _, rfl, departOk.withModifier initial, middleOk, arriveOk.withModifier final⟩,
      by rw [same]; exact consistent.leg.chain⟩
  refine ⟨_, assigned, consistent.of_segments leg same, same, fun i positive inside => ?_,
    resyncGeometry_of_segments same geometry⟩
  obtain ⟨j, rfl⟩ := Nat.exists_eq_succ_of_ne_zero (Nat.pos_iff_ne_zero.mp positive)
  have below : j < middle.length := by simp at inside; omega
  simp only [List.cons_append, List.getElem?_cons_succ, List.getElem?_append_left below]

/-- Every waypoint `100` m from the road, and every angle a right turn. -/
def nearRightCalculation : RelativeLocationCalculation :=
  ⟨fun _ _ => 100, fun _ _ _ => 90, fun _ => .right⟩

example : (assignRelativeLocations nearRightCalculation threePointLeg
      [⟨0, 0⟩, ⟨100, 0⟩, ⟨300, 0⟩] ⟨0, 100⟩ ⟨300, 100⟩).map
      (List.map fun step => step.maneuver.instruction.directionModifier) = some [.right, .right] ∧
    (assignRelativeLocations ⟨fun _ _ => 1, fun _ _ _ => 90, fun _ => .right⟩ threePointLeg
      [⟨0, 0⟩, ⟨100, 0⟩, ⟨300, 0⟩] ⟨0, 0⟩ ⟨300, 0⟩).map
      (List.map fun step => step.maneuver.instruction.directionModifier) = some [.uTurn, .uTurn] :=
  ⟨rfl, rfl⟩

end Osrm.Engine.Guidance
