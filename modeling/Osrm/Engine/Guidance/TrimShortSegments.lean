import Osrm.Engine.Guidance.LegGeometry
import Osrm.Engine.Guidance.PostProcessing
import Mathlib.Data.Rat.Floor

/-!
# `trimShortSegments`

`trimShortSegments` (`post_processing.cpp:972-1174`) drops a zero-length step or a duplicated
coordinate at either end of a leg, editing the steps and the geometry in place. Its first part
handles the front: a first step of at most one metre is removed and the second step promoted to
depart (`zero_length_step`), and otherwise a duplicated first coordinate is cut. Its second part
handles the back the same way. The two parts are `trimFront` and `trimBack`.

The haversine distance and the bearing of `util::coordinate_calculation`, whose sources are not in
the repository, are parameters, as are the value-initialised elements `resize` appends. A read
outside a vector (`operator[]`, `front()` of an empty vector, `erase` past the end, `pop_back` of
an empty vector) gives `none`. `std::round` rounds halves away from zero, and a `double` stored in
a `short` is truncated toward zero.

`GeometryConsistent` is the relation `G` between the steps and the geometry. The branch that cuts a
duplicated first coordinate breaks it: it erases the first segment distance while every step is
kept, and it decrements every offset, the first one, `0`, included, so that it wraps to
`2^64 - 1` (`trimShortSegments_wraps_first_offset`). The branch that cuts a duplicated last
coordinate pops the last location and annotation but not the last OSM node id
(`trimShortSegments_keeps_last_osmNodeId`).
-/

namespace Osrm.Engine.Guidance

/-- The coordinate calculations `trimShortSegments` makes, and the elements `resize` appends. -/
structure CoordinateCalculation (AnnotationData : Type) where
  haversineDistance : Coordinate → Coordinate → ℚ
  bearing : Coordinate → Coordinate → ℚ
  defaultCoordinate : Coordinate
  defaultAnnotation : AnnotationData
  defaultOsmNodeId : Nat

/-- `std::round`: halves are rounded away from zero. -/
def roundHalfAway (value : ℚ) : Int :=
  if 0 ≤ value then Int.floor (value + 1 / 2) else Int.ceil (value - 1 / 2)

/-- A `double` stored in a `short` (within its range): truncated toward zero. -/
def truncateToShort (value : ℚ) : Int :=
  if 0 ≤ value then Int.floor value else Int.ceil value

/-- `erase(begin(), begin() + count)`. -/
def eraseFront {α : Type} (values : List α) (count : Nat) : Option (List α) :=
  if count ≤ values.length then some (values.drop count) else none

/-- `resize(size)`, which appends value-initialised elements. -/
def resize {α : Type} (values : List α) (size : Nat) (default : α) : List α :=
  values.take size ++ List.replicate (size - values.length) default

/-- Writes `front()` of a vector. -/
def updateFront {α : Type} (update : α → Option α) : List α → Option (List α)
  | [] => none
  | value :: rest => do
    let value ← update value
    pure (value :: rest)

/-- Writes `back()` of a vector. -/
def updateBack {α : Type} (update : α → Option α) (values : List α) : Option (List α) := do
  let last ← values.getLast?
  let last ← update last
  pure (values.dropLast ++ [last])

section Trim

variable {AnnotationData : Type} (tk : Toolkit) (coordinates : CoordinateCalculation AnnotationData)

/-- The first intersection of the step promoted to depart, in the form of a depart's. -/
def departIntersection (intersection : Intersection) : Option Intersection := do
  let bearing ← intersection.bearings[intersection.out]?
  pure { intersection with
    lanes := tk.emptyLaneTupel
    laneDescription := []
    bearings := [bearing]
    entry := [true]
    «in» := Intersection.noIndex
    out := 0 }

/-- The last intersection of the step promoted to arrive, in the form of an arrive's. -/
def arriveIntersection (intersection : Intersection) : Option Intersection := do
  let bearing ← intersection.bearings[intersection.in]?
  pure { intersection with
    bearings := [bearing]
    entry := [true]
    out := Intersection.noIndex
    «in» := 0 }

/-- The first part of `trimShortSegments`, lines 996-1064: the front of the leg. -/
def trimFront (steps : List RouteStep) (geometry : LegGeometry AnnotationData) :
    Option (List RouteStep × LegGeometry AnnotationData) := do
  let first ← steps.head?
  let zeroLengthStep := decide (first.distance ≤ 1) && decide (steps.length > 2)
  let location ← geometry.locations[0]?
  let nextLocation ← geometry.locations[1]?
  let duplicatedCoordinate := decide (coordinates.haversineDistance location nextLocation ≤ 1)
  if !(zeroLengthStep || duplicatedCoordinate) then return (steps, geometry)
  let segmentDistances ← eraseFront geometry.segmentDistances 1
  let offset ← if zeroLengthStep then geometry.segmentOffsets[1]? else pure 1
  let geometry := { geometry with segmentDistances }
  let geometry ←
    if offset > 0 then do
      let locations ← eraseFront geometry.locations offset
      let annotations ← eraseFront geometry.annotations offset
      let osmNodeIds ← eraseFront geometry.osmNodeIds offset
      pure { geometry with locations, annotations, osmNodeIds }
    else pure geometry
  let (steps, geometry) ←
    if zeroLengthStep then do
      -- the in-place shift of the offsets by one followed by `pop_back`
      let geometry := { geometry with
        segmentOffsets := (geometry.segmentOffsets.drop 1).map fun value => sizeSub value offset }
      let currentDepart ← steps[0]?
      let designatedDepart ← steps[1]?
      let intersections ← updateFront (departIntersection tk) designatedDepart.intersections
      let designatedDepart := { designatedDepart with
        duration := designatedDepart.duration + currentDepart.duration
        maneuver.waypointType := .depart
        maneuver.bearingBefore := 0
        maneuver.instruction := tk.noTurn
        intersections }
      pure ((steps.set 1 designatedDepart).drop 1, geometry)
    else
      pure (steps.set 0 { first with geometryBegin := 1 }, { geometry with
        segmentOffsets := geometry.segmentOffsets.map fun value => sizeSub value 1 })
  let steps := steps.map fun step => { step with
    geometryBegin := sizeSub step.geometryBegin offset
    geometryEnd := sizeSub step.geometryEnd offset }
  let firstStep ← steps.head?
  let origin ← geometry.locations[firstStep.geometryBegin]?
  let target ← geometry.locations[firstStep.geometryBegin + 1]?
  let bearing := roundHalfAway (coordinates.bearing origin target)
  let intersections ← updateFront (fun intersection => do
      let bearings ← updateFront (fun _ => some bearing) intersection.bearings
      pure { intersection with bearings }) firstStep.intersections
  pure (steps.set 0 { firstStep with maneuver.bearingAfter := bearing, intersections }, geometry)

/-- The second part of `trimShortSegments`, lines 1079-1161: the back of the leg. -/
def trimBack (steps : List RouteStep) (geometry : LegGeometry AnnotationData) :
    Option (List RouteStep × LegGeometry AnnotationData) := do
  if steps.length < 2 ∨ geometry.locations.length = 2 then return (steps, geometry)
  let nextToLast ← steps[steps.length - 2]?
  if nextToLast.distance ≤ 1 ∧ steps.length > 2 then do
    let segmentOffsets ← popBack geometry.segmentOffsets
    let back ← segmentOffsets.getLast?
    let segmentDistances ← popBack geometry.segmentDistances
    let geometry := { geometry with
      segmentOffsets
      locations := resize geometry.locations (back + 1) coordinates.defaultCoordinate
      annotations := resize geometry.annotations (back + 1) coordinates.defaultAnnotation
      osmNodeIds := resize geometry.osmNodeIds (back + 1) coordinates.defaultOsmNodeId
      segmentDistances }
    let intersections ← updateFront (fun intersection => some { intersection with
      lanes := tk.emptyLaneTupel
      laneDescription := [] }) nextToLast.intersections
    let intersections ← updateBack (arriveIntersection) intersections
    let nextToLast := { nextToLast with
      maneuver.waypointType := .arrive
      maneuver.instruction := tk.noTurn
      maneuver.bearingAfter := 0
      geometryEnd := nextToLast.geometryBegin + 1
      intersections }
    let steps := (steps.set (steps.length - 2) nextToLast).dropLast
    let newNextToLast ← steps[steps.length - 2]?
    let nextToLast := { forwardStepSignage nextToLast newNextToLast with mode := newNextToLast.mode }
    pure (steps.set (steps.length - 1) nextToLast, geometry)
  else do
    let beforeLast ← geometry.locations[geometry.locations.length - 2]?
    let last ← geometry.locations[geometry.locations.length - 1]?
    if coordinates.haversineDistance beforeLast last ≤ 1 then do
      let locations ← popBack geometry.locations
      let annotations ← popBack geometry.annotations
      let segmentOffsets ← updateBack (fun offset => some (sizeSub offset 1)) geometry.segmentOffsets
      let geometry := { geometry with locations, annotations, segmentOffsets }
      let nextToLast := { nextToLast with geometryEnd := sizeSub nextToLast.geometryEnd 1 }
      let steps := steps.set (steps.length - 2) nextToLast
      let lastStep ← steps.getLast?
      let lastStep := { lastStep with
        geometryBegin := sizeSub lastStep.geometryBegin 1
        geometryEnd := sizeSub lastStep.geometryEnd 1 }
      let origin ← geometry.locations[sizeSub nextToLast.geometryEnd 2]?
      let target ← geometry.locations[lastStep.geometryBegin]?
      let bearing := coordinates.bearing origin target
      let rounded := roundHalfAway bearing
      let intersections ← updateFront (fun intersection => do
          let bearings ← updateFront
            (fun _ => some (truncateToShort (tk.reverseBearing rounded))) intersection.bearings
          pure { intersection with bearings }) lastStep.intersections
      pure (steps.set (steps.length - 1) { lastStep with
        maneuver.bearingBefore := rounded
        intersections }, geometry)
    else pure (steps, geometry)

/-- `trimShortSegments(steps, geometry)`. -/
def trimShortSegments (steps : List RouteStep) (geometry : LegGeometry AnnotationData) :
    Option (List RouteStep × LegGeometry AnnotationData) := do
  if steps.length < 2 ∨ geometry.locations.length ≤ 2 then return (steps, geometry)
  let (steps, geometry) ← trimFront tk coordinates steps geometry
  trimBack tk coordinates steps geometry

/-- `G(steps, geometry)`: the steps form a leg whose last step ends at the last coordinate, and the
geometry has one offset per step, the step's first coordinate, and one distance per step but the
last. -/
structure GeometryConsistent {AnnotationData : Type} (steps : List RouteStep)
    (geometry : LegGeometry AnnotationData) : Prop where
  leg : LegInvariant steps
  last_end : ∃ last, steps.getLast? = some last ∧ last.geometryEnd = geometry.locations.length
  offsets_length : geometry.segmentOffsets.length = steps.length
  offsets : ∀ (i : Nat) (step : RouteStep), steps[i]? = some step →
    geometry.segmentOffsets[i]? = some step.geometryBegin
  distances_length : geometry.segmentDistances.length = steps.length - 1

/-- A depart and an arrive on three coordinates: the depart covers all three, the arrive the last. -/
def threePointLeg : List RouteStep :=
  [⟨1, "A", "", "", "", "", "", 4, 30, 0, ⟨⟨0, 0⟩, 0, 90, ⟨.noTurn, .straight⟩, .depart, 0⟩, 0, 3,
      [⟨[90], [true], Intersection.noIndex, 0, ⟨0, 0⟩, []⟩]⟩,
    ⟨1, "A", "", "", "", "", "", 0, 0, 0, ⟨⟨300, 0⟩, 90, 0, ⟨.noTurn, .straight⟩, .arrive, 0⟩, 2, 3,
      [⟨[270], [true], 0, Intersection.noIndex, ⟨0, 0⟩, []⟩]⟩]

theorem threePointLeg_invariant : LegInvariant threePointLeg :=
  ⟨⟨_, [], _, rfl, ⟨rfl, ⟨_, _, rfl, rfl, rfl⟩, rfl⟩, by simp, ⟨rfl, _, rfl, rfl, rfl⟩⟩,
    List.chain'_pair.mpr rfl⟩

/-- The geometry of `threePointLeg` on the given three coordinates. -/
def threePointGeometry (locations : List Coordinate) : LegGeometry Unit :=
  ⟨locations, [0, 2], [30], [(), (), ()], [7, 8, 9]⟩

theorem threePointGeometry_consistent {locations : List Coordinate} (three : locations.length = 3) :
    GeometryConsistent threePointLeg (threePointGeometry locations) where
  leg := threePointLeg_invariant
  last_end := ⟨_, rfl, three.symm⟩
  offsets_length := rfl
  offsets i step at_i := by
    match i with
    | 0 => simp [threePointLeg] at at_i; simp [threePointGeometry, ← at_i]
    | 1 => simp [threePointLeg] at at_i; simp [threePointGeometry, ← at_i]
    | _ + 2 => simp [threePointLeg] at at_i
  distances_length := rfl

/-- Coordinates are a metre apart exactly when they differ; every bearing is `90`. -/
def separatedCoordinates : CoordinateCalculation Unit :=
  ⟨fun origin target => if origin = target then 0 else 100, fun _ _ => 90, ⟨0, 0⟩, (), 0⟩

/-- A duplicated first coordinate under a first step longer than a metre: the first offset wraps
and the first distance is erased, so the result is not consistent. -/
theorem trimShortSegments_wraps_first_offset (tk : Toolkit) :
    GeometryConsistent threePointLeg (threePointGeometry [⟨0, 0⟩, ⟨0, 0⟩, ⟨300, 0⟩]) ∧
    ∃ steps geometry, trimShortSegments tk separatedCoordinates threePointLeg
        (threePointGeometry [⟨0, 0⟩, ⟨0, 0⟩, ⟨300, 0⟩]) = some (steps, geometry) ∧
      geometry.segmentOffsets = [2 ^ 64 - 1, 1] ∧ geometry.segmentDistances = [] ∧
      steps.map (fun step => (step.geometryBegin, step.geometryEnd)) = [(0, 2), (1, 2)] ∧
      ¬ GeometryConsistent steps geometry := by
  refine ⟨threePointGeometry_consistent rfl, _, _, rfl, rfl, rfl, rfl, fun consistent => ?_⟩
  exact absurd (consistent.offsets 0 _ rfl) (by decide)

/-- A duplicated last coordinate: the last location and annotation are popped, the last OSM node
id is not. -/
theorem trimShortSegments_keeps_last_osmNodeId (tk : Toolkit) :
    GeometryConsistent threePointLeg (threePointGeometry [⟨0, 0⟩, ⟨300, 0⟩, ⟨300, 0⟩]) ∧
    ∃ steps geometry, trimShortSegments tk separatedCoordinates threePointLeg
        (threePointGeometry [⟨0, 0⟩, ⟨300, 0⟩, ⟨300, 0⟩]) = some (steps, geometry) ∧
      geometry.locations.length = 2 ∧ geometry.annotations.length = 2 ∧
      geometry.osmNodeIds.length = 3 := by
  refine ⟨threePointGeometry_consistent rfl, _, _, rfl, rfl, rfl, rfl⟩

end Trim

end Osrm.Engine.Guidance
