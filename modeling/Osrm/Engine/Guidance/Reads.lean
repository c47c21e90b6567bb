import Osrm.Engine.Guidance.PostProcessing
import Osrm.Engine.Guidance.Leg

/-!
# What the passes read, and the kinds of steps they keep

The spec lemmas of the small functions the passes share: `elongate` and `forwardInto` on linked
steps, which steps the final sweep removes, and `getPreviousIndex` on a working list, which finds
the previous surviving step with only invalidated steps between. `GuidanceLeg` is the leg that
`collapseTurns`, `buildIntersections` and `collapseUseLane` take: `L`, with `NO_TURN` on the depart
and the arrive (the spec: "`NO_TURN` is emitted on the depart/arrive sentinels"), no
`StayOnRoundabout` step, and first intersections whose `in`, `out` and lanes lie inside what they
index, since the passes read them without a check.
-/

namespace Osrm.Engine.Guidance

section Kinds

variable (tk : Toolkit)

/-- The first intersection of a step exists, its `in` and `out` index its bearings, and its lanes
lie inside its lane description. -/
def FrontReadable (step : RouteStep) : Prop :=
  ∃ front rest, step.intersections = front :: rest ∧ front.in < front.bearings.length ∧
    front.out < front.bearings.length ∧
    front.lanes.firstLaneFromTheRight ≤ front.laneDescription.length

/-- A depart that carries `NO_TURN`. -/
def DepartSentinel (step : RouteStep) : Prop :=
  DepartStep step ∧ step.maneuver.instruction = tk.noTurn

/-- An arrive that carries `NO_TURN`. -/
def ArriveSentinel (step : RouteStep) : Prop :=
  ArriveStep step ∧ step.maneuver.instruction = tk.noTurn

/-- A step between depart and arrive as the three collapsing passes take it. -/
def GuidedStep (step : RouteStep) : Prop :=
  MiddleStep step ∧ FrontReadable step ∧ step.maneuver.instruction.type ≠ .stayOnRoundabout

/-- The legs `collapseTurns`, `buildIntersections` and `collapseUseLane` take and return. -/
def GuidanceLeg (steps : List RouteStep) : Prop :=
  Leg (DepartSentinel tk) GuidedStep (ArriveSentinel tk) steps

end Kinds

section Sweep

variable {tk : Toolkit}

theorem type_of_notIsValid {step : RouteStep} (invalid : notIsValid tk step = true) :
    step.maneuver.instruction.type = .noTurn := by
  simp only [notIsValid, Bool.and_eq_true, decide_eq_true_eq] at invalid
  rw [invalid.1]
  rfl

theorem notIsValid_of_type {step : RouteStep} (type : step.maneuver.instruction.type ≠ .noTurn) :
    notIsValid tk step = false := by
  cases invalid : notIsValid tk step
  · rfl
  · exact absurd (type_of_notIsValid invalid) type

theorem notIsValid_of_waypointType {step : RouteStep}
    (waypoint : step.maneuver.waypointType ≠ .none) : notIsValid tk step = false := by
  simp [notIsValid, waypoint]

theorem notIsValid_invalidRouteStep (lawful : tk.Lawful) : notIsValid tk (invalidRouteStep tk) = true := by
  simp [notIsValid, invalidRouteStep, lawful.invalid_instruction, lawful.invalid_waypointType]

theorem DepartSentinel.valid {step : RouteStep} (depart : DepartSentinel tk step) :
    notIsValid tk step = false :=
  notIsValid_of_waypointType (by rw [depart.1.1]; decide)

theorem ArriveSentinel.valid {step : RouteStep} (arrive : ArriveSentinel tk step) :
    notIsValid tk step = false :=
  notIsValid_of_waypointType (by rw [arrive.1.1]; decide)

theorem GuidedStep.valid {step : RouteStep} (guided : GuidedStep step) :
    notIsValid tk step = false :=
  notIsValid_of_type guided.1.2.1

/-- The final sweep removes no step of a leg. -/
theorem LegInvariant.valid {steps : List RouteStep} (leg : LegInvariant steps) :
    ∀ step ∈ steps, notIsValid tk step = false := by
  have kept : removeNoTurnInstructions tk steps = steps := leg.removeNoTurnInstructions_eq
    (fun _ depart => notIsValid_of_waypointType (by rw [depart.1]; decide))
    (fun _ middle => notIsValid_of_type middle.2.1)
    (fun _ arrive => notIsValid_of_waypointType (by rw [arrive.1]; decide))
  intro step member
  simpa using List.filter_eq_self.mp kept step member

end Sweep

/-! ## Elongation of linked steps -/

section Elongate

variable {first second : RouteStep}

theorem elongate_of_linked (linked : first.segment.Linked second.segment) :
    elongate first second = { first with
      duration := first.duration + second.duration
      distance := first.distance + second.distance
      geometryEnd := second.geometryEnd
      intersections := first.intersections ++ second.intersections } := by
  simp only [elongate]
  rw [if_pos (show first.geometryEnd = second.geometryBegin + 1 from linked.symm)]

theorem segment_elongate (linked : first.segment.Linked second.segment) :
    (elongate first second).segment = first.segment.join second.segment := by
  rw [elongate_of_linked linked]
  simp [RouteStep.segment, Segment.join]

theorem linked_elongate {third : RouteStep} (linked : first.segment.Linked second.segment)
    (next : second.segment.Linked third.segment) :
    (elongate first second).segment.Linked third.segment := by
  rw [segment_elongate linked]
  exact next

/-- The maneuver of a step elongated at its end; the hypothesis is `Segment.Linked` spelled on the
steps' fields, which is the form `simp` can discharge. -/
theorem maneuver_elongate (ends : first.geometryEnd = second.geometryBegin + 1) :
    (elongate first second).maneuver = first.maneuver := by
  simp [elongate, ends]

theorem intersections_elongate (ends : first.geometryEnd = second.geometryBegin + 1) :
    (elongate first second).intersections = first.intersections ++ second.intersections := by
  simp [elongate, ends]

theorem notIsValid_elongate {tk : Toolkit} (linked : first.segment.Linked second.segment) :
    notIsValid tk (elongate first second) = notIsValid tk first := by
  rw [elongate_of_linked linked]
  rfl

/-- `GuidedStep` only looks at a step's waypoint, turn type and intersections. -/
theorem guidedStep_congr {step other : RouteStep}
    (waypoint : other.maneuver.waypointType = step.maneuver.waypointType)
    (type : other.maneuver.instruction.type = step.maneuver.instruction.type)
    (intersections : other.intersections = step.intersections) :
    GuidedStep other ↔ GuidedStep step := by
  simp only [GuidedStep, MiddleStep, FrontReadable, waypoint, type, intersections]

theorem GuidedStep.elongate (guided : GuidedStep first)
    (linked : first.segment.Linked second.segment) : GuidedStep (elongate first second) := by
  obtain ⟨⟨waypoint, type, nonempty⟩, ⟨front, rest, front_eq, readable⟩, stay⟩ := guided
  rw [elongate_of_linked linked]
  exact ⟨⟨waypoint, type, by simp [front_eq]⟩, ⟨front, rest ++ second.intersections,
    by simp [front_eq], readable⟩, stay⟩

/-- A guided step rewritten with the same waypoint and intersections and a turn type that is
neither `NoTurn` nor `StayOnRoundabout`. -/
theorem GuidedStep.reshape {step other : RouteStep} (guided : GuidedStep step)
    (waypoint : other.maneuver.waypointType = step.maneuver.waypointType)
    (intersections : other.intersections = step.intersections)
    (not_noTurn : other.maneuver.instruction.type ≠ .noTurn)
    (not_stay : other.maneuver.instruction.type ≠ .stayOnRoundabout) : GuidedStep other := by
  obtain ⟨⟨step_waypoint, -, nonempty⟩, readable, -⟩ := guided
  refine ⟨⟨waypoint.trans step_waypoint, not_noTurn, intersections ▸ nonempty⟩, ?_, not_stay⟩
  simpa only [FrontReadable, intersections] using readable

theorem GuidedStep.retype {step : RouteStep} (guided : GuidedStep step) {type : TurnType}
    (not_noTurn : type ≠ .noTurn) (not_stay : type ≠ .stayOnRoundabout) :
    GuidedStep { step with maneuver.instruction.type := type } :=
  ⟨⟨guided.1.1, not_noTurn, guided.1.2.2⟩, guided.2.1, not_stay⟩

@[simp] theorem segment_forwardStepSignage (destination origin : RouteStep) :
    (forwardStepSignage destination origin).segment = destination.segment := rfl

@[simp] theorem maneuver_forwardStepSignage (destination origin : RouteStep) :
    (forwardStepSignage destination origin).maneuver = destination.maneuver := rfl

@[simp] theorem intersections_forwardStepSignage (destination origin : RouteStep) :
    (forwardStepSignage destination origin).intersections = destination.intersections := rfl

theorem GuidedStep.forwardStepSignage {step : RouteStep} (guided : GuidedStep step)
    (origin : RouteStep) : GuidedStep (forwardStepSignage step origin) :=
  (guidedStep_congr rfl rfl rfl).mpr guided

theorem DepartSentinel.elongate {tk : Toolkit} (depart : DepartSentinel tk first)
    (linked : first.segment.Linked second.segment) :
    DepartSentinel tk (elongate first second) := by
  obtain ⟨⟨waypoint, ⟨front, rest, front_eq, single⟩, start⟩, sentinel⟩ := depart
  rw [elongate_of_linked linked]
  exact ⟨⟨waypoint, ⟨front, rest ++ second.intersections, by simp [front_eq], single⟩, start⟩,
    sentinel⟩

end Elongate

/-! ## The previous surviving step -/

theorem skipNoTurn_spec (steps : List RouteStep) : ∀ index, index < steps.length →
    ∃ previous, skipNoTurn steps index = some previous ∧ previous ≤ index ∧
      (0 < previous → ∃ step, steps[previous]? = some step ∧
        step.maneuver.instruction.type ≠ .noTurn) ∧
      ∀ m step, previous < m → m ≤ index → steps[m]? = some step →
        step.maneuver.instruction.type = .noTurn
  | 0, _ => ⟨0, rfl, le_refl _, by omega, by omega⟩
  | index + 1, inside => by
    obtain ⟨step, at_step⟩ : ∃ step, steps[index + 1]? = some step :=
      ⟨_, List.getElem?_eq_getElem inside⟩
    by_cases no_turn : step.maneuver.instruction.type = .noTurn
    · obtain ⟨previous, skip, below, found, skipped⟩ := skipNoTurn_spec steps index (by omega)
      refine ⟨previous, by simp [skipNoTurn, at_step, no_turn, skip], by omega, found,
        fun m other lower upper at_m => ?_⟩
      rcases Nat.lt_or_eq_of_le upper with upper | rfl
      · exact skipped m other lower (by omega) at_m
      · rw [at_step] at at_m
        cases at_m
        exact no_turn
    · exact ⟨index + 1, by simp [skipNoTurn, at_step, no_turn], le_refl _,
        fun _ => ⟨step, at_step, no_turn⟩, fun _ _ lower upper => by omega⟩

section Previous

variable {tk : Toolkit} {departOk middleOk arriveOk : RouteStep → Prop} {steps : List RouteStep}

/-- In a working list whose middle steps are not `NoTurn`, `getPreviousIndex` finds the previous
surviving step, with only invalidated steps between. -/
theorem Working.previous (working : Working tk departOk middleOk arriveOk steps)
    (middle_type : ∀ step, middleOk step → step.maneuver.instruction.type ≠ .noTurn)
    {index : Nat} (positive : 0 < index) (inside : index < steps.length) :
    ∃ previous step, getPreviousIndex steps index = some previous ∧ previous < index ∧
      steps[previous]? = some step ∧ notIsValid tk step = false ∧
      (previous = 0 → departOk step) ∧ (0 < previous → middleOk step) ∧
      ∀ m other, previous < m → m < index → steps[m]? = some other →
        notIsValid tk other = true := by
  obtain ⟨previous, skip, below, found, skipped⟩ := skipNoTurn_spec steps (index - 1) (by omega)
  have invalid_between : ∀ m other, previous < m → m < index → steps[m]? = some other →
      notIsValid tk other = true := fun m other lower upper at_m => by
    rcases working.middle m other (by omega) (by omega) at_m with invalid | ok
    · exact invalid
    · exact absurd (skipped m other lower (by omega) at_m) (middle_type other ok)
  rcases Nat.eq_zero_or_pos previous with zero | positive_previous
  · subst zero
    obtain ⟨depart, at_zero, depart_ok, depart_valid⟩ := working.depart
    exact ⟨0, depart, by simp [getPreviousIndex, Nat.pos_iff_ne_zero.mp positive, skip],
      positive, at_zero, depart_valid, fun _ => depart_ok, by omega, invalid_between⟩
  · obtain ⟨step, at_previous, type⟩ := found positive_previous
    have ok : middleOk step := by
      rcases working.middle previous step positive_previous (by omega) at_previous with
        invalid | ok
      · exact absurd (type_of_notIsValid invalid) type
      · exact ok
    exact ⟨previous, step, by simp [getPreviousIndex, Nat.pos_iff_ne_zero.mp positive, skip],
      by omega, at_previous, notIsValid_of_type type, by omega, fun _ => ok, invalid_between⟩

end Previous

end Osrm.Engine.Guidance
