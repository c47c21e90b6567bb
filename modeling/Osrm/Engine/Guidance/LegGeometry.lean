import Osrm.Engine.Guidance.Leg

/-!
# Leg geometry and `resyncGeometry`

A `LegGeometry` (spec §4.6) holds the coordinates of a leg, one annotation and one OSM node id per
coordinate, one offset per step and one distance per segment between consecutive steps.
`resyncGeometry` (`post_processing.cpp:1223-1244`) rebuilds the offsets and the distances from the
final steps: it pushes `0`, then `geometry_end - 1` and the distance of every step, and pops the
last of each. On a leg, the offset of every step is its `geometry_begin`
(`resyncGeometry_of_leg`): that is the chain convention, each step starting on the last coordinate
of the one before.

`std::size_t` subtraction wraps at `0`; `sizeSub` is that subtraction on values below `2^64`.
`pop_back` of an empty vector is undefined and gives `none`.
-/

namespace Osrm.Engine.Guidance

/-- `value - amount` in `std::size_t`, for `value` and `amount` below `2^64`. -/
def sizeSub (value amount : Nat) : Nat :=
  if amount ≤ value then value - amount else 2 ^ 64 + value - amount

theorem sizeSub_of_le {value amount : Nat} (le : amount ≤ value) :
    sizeSub value amount = value - amount := if_pos le

/-- `pop_back()`. -/
def popBack {α : Type} (values : List α) : Option (List α) :=
  if values.isEmpty then none else some values.dropLast

/-- Modelled from the spec: `LegGeometry`. The annotation type is a parameter: no modelled
function looks inside an annotation. -/
structure LegGeometry (AnnotationData : Type) where
  locations : List Coordinate
  segmentOffsets : List Nat
  segmentDistances : List ℚ
  annotations : List AnnotationData
  osmNodeIds : List Nat
  deriving DecidableEq, Repr

variable {AnnotationData : Type}

/-- `resyncGeometry(leg_geometry, steps)`. -/
def resyncGeometry (legGeometry : LegGeometry AnnotationData) (steps : List RouteStep) :
    Option (LegGeometry AnnotationData) := do
  let segmentOffsets ← popBack (0 :: steps.map fun step => sizeSub step.geometryEnd 1)
  let segmentDistances ← popBack (steps.map RouteStep.distance)
  pure { legGeometry with segmentOffsets, segmentDistances }

/-- On a leg, `resyncGeometry` keeps the coordinates, annotations and OSM node ids, gives every
step the offset `geometry_begin`, so that consecutive offsets differ by
`geometry_end - geometry_begin - 1`, and gives every step but the arrive its distance. -/
theorem resyncGeometry_of_leg {steps : List RouteStep} (leg : LegInvariant steps)
    (legGeometry : LegGeometry AnnotationData) :
    ∃ synced, resyncGeometry legGeometry steps = some synced ∧
      synced.locations = legGeometry.locations ∧ synced.annotations = legGeometry.annotations ∧
      synced.osmNodeIds = legGeometry.osmNodeIds ∧
      synced.segmentOffsets.length = steps.length ∧
      (∀ (i : Nat) (step : RouteStep), steps[i]? = some step →
        synced.segmentOffsets[i]? = some step.geometryBegin) ∧
      (∀ (i first second : Nat), synced.segmentOffsets[i]? = some first →
        synced.segmentOffsets[i + 1]? = some second → ∃ step, steps[i]? = some step ∧
          (second : Int) - first = step.geometryEnd - step.geometryBegin - 1) ∧
      synced.segmentDistances.length = steps.length - 1 ∧
      ∀ (i : Nat) (step : RouteStep), i + 1 < steps.length → steps[i]? = some step →
        synced.segmentDistances[i]? = some step.distance := by
  obtain ⟨depart, middle, arrive, shape, ⟨-, -, start⟩, -, -⟩ := leg.shape
  have nonempty : steps ≠ [] := by simp [shape]
  have offsets : ∀ (i : Nat) (step : RouteStep), steps[i]? = some step →
      (0 :: steps.map fun step => sizeSub step.geometryEnd 1).dropLast[i]? =
        some step.geometryBegin := by
    intro i step at_i
    have inside := (List.getElem?_eq_some_iff.mp at_i).1
    rw [List.getElem?_dropLast, if_pos (by simpa using inside)]
    cases i with
    | zero =>
      rw [shape, List.cons_append, List.getElem?_cons_zero, Option.some.injEq] at at_i
      simp [← at_i, start]
    | succ i =>
      obtain ⟨previous, at_previous⟩ : ∃ previous, steps[i]? = some previous :=
        ⟨_, List.getElem?_eq_getElem (by omega)⟩
      have linked := leg.linked at_previous at_i
      simp only [Segment.Linked, RouteStep.segment] at linked
      simp only [List.getElem?_cons_succ, List.getElem?_map, at_previous, Option.map_some',
        Option.some.injEq]
      rw [sizeSub_of_le (by omega)]
      omega
  refine ⟨{ legGeometry with
      segmentOffsets := (0 :: steps.map fun step => sizeSub step.geometryEnd 1).dropLast
      segmentDistances := (steps.map RouteStep.distance).dropLast },
    by simp [resyncGeometry, popBack, nonempty], rfl, rfl, rfl, by simp,
    offsets, fun i first second at_first at_second => ?_, by simp, fun i step inside at_i => ?_⟩
  · obtain ⟨step, at_i⟩ : ∃ step, steps[i]? = some step :=
      ⟨_, List.getElem?_eq_getElem (by
        have := (List.getElem?_eq_some_iff.mp at_second).1
        simp at this
        omega)⟩
    obtain ⟨next, at_next⟩ : ∃ next, steps[i + 1]? = some next :=
      ⟨_, List.getElem?_eq_getElem (by
        have := (List.getElem?_eq_some_iff.mp at_second).1
        simp at this
        omega)⟩
    have linked : next.geometryBegin + 1 = step.geometryEnd := leg.linked at_i at_next
    rw [offsets i step at_i, Option.some.injEq] at at_first
    rw [offsets (i + 1) next at_next, Option.some.injEq] at at_second
    exact ⟨step, at_i, by omega⟩
  · rw [List.getElem?_dropLast, if_pos (by simp; omega),
      List.getElem?_map, at_i]
    rfl

/-- A leg from a depart to an arrive on the two coordinates of one road, the first step covering
both of them. -/
def twoStepLeg : List RouteStep :=
  [⟨1, "A", "", "", "", "", "", 4, 30, 0, ⟨⟨0, 0⟩, 0, 90, ⟨.noTurn, .straight⟩, .depart, 0⟩, 0, 2,
      [⟨[90], [true], Intersection.noIndex, 0, ⟨0, 0⟩, []⟩]⟩,
    ⟨1, "A", "", "", "", "", "", 0, 0, 0, ⟨⟨300, 0⟩, 90, 0, ⟨.noTurn, .straight⟩, .arrive, 0⟩, 1, 2,
      [⟨[270], [true], 0, Intersection.noIndex, ⟨0, 0⟩, []⟩]⟩]

theorem twoStepLeg_invariant : LegInvariant twoStepLeg :=
  ⟨⟨_, [], _, rfl, ⟨rfl, ⟨_, _, rfl, rfl, rfl⟩, rfl⟩, by simp, ⟨rfl, _, rfl, rfl, rfl⟩⟩,
    List.chain'_pair.mpr rfl⟩

theorem resyncGeometry_twoStepLeg : LegInvariant twoStepLeg ∧
    ∃ synced, resyncGeometry (⟨[⟨0, 0⟩, ⟨300, 0⟩], [0, 1], [30], [(), ()], [7, 8]⟩ :
        LegGeometry Unit) twoStepLeg = some synced ∧
      synced.locations = [⟨0, 0⟩, ⟨300, 0⟩] ∧ synced.annotations = [(), ()] ∧
      synced.osmNodeIds = [7, 8] ∧ synced.segmentOffsets.length = twoStepLeg.length ∧
      (∀ (i : Nat) (step : RouteStep), twoStepLeg[i]? = some step →
        synced.segmentOffsets[i]? = some step.geometryBegin) ∧
      (∀ (i first second : Nat), synced.segmentOffsets[i]? = some first →
        synced.segmentOffsets[i + 1]? = some second → ∃ step, twoStepLeg[i]? = some step ∧
          (second : Int) - first = step.geometryEnd - step.geometryBegin - 1) ∧
      synced.segmentDistances.length = twoStepLeg.length - 1 ∧
      ∀ (i : Nat) (step : RouteStep), i + 1 < twoStepLeg.length → twoStepLeg[i]? = some step →
        synced.segmentDistances[i]? = some step.distance :=
  ⟨twoStepLeg_invariant, resyncGeometry_of_leg twoStepLeg_invariant _⟩

end Osrm.Engine.Guidance
