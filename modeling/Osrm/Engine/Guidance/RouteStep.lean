import Mathlib.Algebra.Order.Ring.Rat

/-!
# Route steps, elongation and the final sweep

`route_step.hpp` declares `Intersection`, `RouteStep`, `getInvalidIntersection` and
`getInvalidRouteStep`; `post_processing.cpp:142-166` merges one step into another with
`forwardInto`, lines 561-592 with `elongate`, and lines 610-637 remove the invalidated steps with
`removeNoTurnInstructions`.

Durations, distances and bearings are `double` in the code and exact rationals here. The headers
the file includes for the turn types, the step maneuver, the lane tuple, the lane masks, the travel
modes, the name ids and the guidance predicates are not in the repository's sources: the turn
types follow the spec's closed set, and every constant or function of those headers that the
passes use is a field of `Toolkit`, so that each theorem holds for any values of them that satisfy
what it states. The intersection's location, which no modelled function reads, is left out.
-/

namespace Osrm.Engine.Guidance

/-- Modelled from the spec: the closed set of `TurnType`s (§ Variant instructions), with the
`EnterAndExit` forms that `post_processing.cpp` names. -/
inductive TurnType
  | invalid | newName | «continue» | turn | merge | onRamp | offRamp | fork | endOfRoad
  | notification | enterRoundabout | enterAndExitRoundabout | enterRotary | enterAndExitRotary
  | enterRoundaboutIntersection | enterAndExitRoundaboutIntersection | enterRoundaboutAtExit
  | exitRoundabout | enterRotaryAtExit | exitRotary | enterRoundaboutIntersectionAtExit
  | exitRoundaboutIntersection | stayOnRoundabout | sliproad | suppressed | noTurn | useLane
  deriving DecidableEq, Repr

/-- Modelled from the spec: the direction modifiers (§ Variant instructions). -/
inductive DirectionModifier
  | uTurn | sharpRight | right | slightRight | straight | slightLeft | left | sharpLeft
  deriving DecidableEq, Repr

/-- Modelled from the spec: a turn instruction is a turn type and a direction modifier. -/
structure TurnInstruction where
  type : TurnType
  directionModifier : DirectionModifier
  deriving DecidableEq, Repr

/-- Modelled from the spec: the waypoint type of a maneuver. -/
inductive WaypointType
  | none | depart | arrive
  deriving DecidableEq, Repr

/-- Modelled from the spec: `util::Coordinate`, a fixed-point longitude and latitude. -/
structure Coordinate where
  lon : Int
  lat : Int
  deriving DecidableEq, Repr

/-- Modelled from the spec: a `StepManeuver` is its location, the bearings before and after it
(`short`), its turn instruction, its waypoint type and its exit count (`unsigned`). -/
structure StepManeuver where
  location : Coordinate
  bearingBefore : Int
  bearingAfter : Int
  instruction : TurnInstruction
  waypointType : WaypointType
  exit : Nat
  deriving DecidableEq, Repr

/-- Modelled from the spec: `util::guidance::LaneTupel`, the lanes a turn uses. -/
structure LaneTupel where
  lanesInTurn : Nat
  firstLaneFromTheRight : Nat
  deriving DecidableEq, Repr

/-- `Intersection` of `route_step.hpp`: the bearings (`short`) and entry flags of the roads at an
intersection, the indices of the road taken in and out, and its turn lanes. -/
structure Intersection where
  bearings : List Int
  entry : List Bool
  «in» : Nat
  out : Nat
  lanes : LaneTupel
  laneDescription : List Nat
  deriving DecidableEq, Repr

/-- `Intersection::NO_INDEX`, the maximum of `std::size_t`. -/
def Intersection.noIndex : Nat := 2 ^ 64 - 1

/-- `RouteStep` of `route_step.hpp`. -/
structure RouteStep where
  nameId : Nat
  name : String
  ref : String
  pronunciation : String
  destinations : String
  rotaryName : String
  rotaryPronunciation : String
  duration : ℚ
  distance : ℚ
  mode : Nat
  maneuver : StepManeuver
  geometryBegin : Nat
  geometryEnd : Nat
  intersections : List Intersection
  deriving DecidableEq, Repr

/-- The constants and functions post-processing takes from headers outside the repository's
sources: `TurnInstruction::NO_TURN()` (its direction modifier), `getInvalidStepManeuver()`,
`LaneTupel()`, `TRAVEL_MODE_INACCESSIBLE`, `EMPTY_NAMEID`, the lane masks
`TurnLaneType::straight`, `none` and `empty`, and the functions `entersRoundabout`,
`leavesRoundabout`, `isSilent`, `requiresNameAnnounced`, `getTurnDirection`,
`mirrorDirectionModifier`, `angularDeviation` and `bearing::reverseBearing`. -/
structure Toolkit where
  noTurnModifier : DirectionModifier
  invalidStepManeuver : StepManeuver
  emptyLaneTupel : LaneTupel
  inaccessibleMode : Nat
  emptyNameId : Nat
  straightLane : Nat
  noneLane : Nat
  emptyLane : Nat
  entersRoundabout : TurnInstruction → Bool
  leavesRoundabout : TurnInstruction → Bool
  isSilent : TurnInstruction → Bool
  requiresNameAnnounced : String → String → String → String → Bool
  getTurnDirection : ℚ → DirectionModifier
  mirrorDirectionModifier : DirectionModifier → DirectionModifier
  angularDeviation : ℚ → ℚ → ℚ
  reverseBearing : ℚ → ℚ

/-- `TurnInstruction::NO_TURN()`. -/
def Toolkit.noTurn (tk : Toolkit) : TurnInstruction := ⟨.noTurn, tk.noTurnModifier⟩

/-- What the theorems about the passes assume of the toolkit. The invalid maneuver carries
`NO_TURN` and waypoint `None` (the spec: invalidated steps are what the final sweep removes); the
empty name id is `0`, the name id of an invalid step; silent instructions are among `NoTurn`,
`Suppressed` and `StayOnRoundabout`; `NO_TURN` neither enters nor leaves a roundabout, a
`StayOnRoundabout` does not enter one, and the three plain enter types do. -/
structure Toolkit.Lawful (tk : Toolkit) : Prop where
  invalid_instruction : tk.invalidStepManeuver.instruction = tk.noTurn
  invalid_waypointType : tk.invalidStepManeuver.waypointType = .none
  emptyNameId_eq : tk.emptyNameId = 0
  isSilent_type : ∀ instruction, tk.isSilent instruction = true →
    instruction.type = .noTurn ∨ instruction.type = .suppressed ∨
      instruction.type = .stayOnRoundabout
  not_entersRoundabout_noTurn : tk.entersRoundabout tk.noTurn = false
  not_leavesRoundabout_noTurn : tk.leavesRoundabout tk.noTurn = false
  not_entersRoundabout_stay : ∀ modifier,
    tk.entersRoundabout ⟨.stayOnRoundabout, modifier⟩ = false
  entersRoundabout_enter : ∀ modifier type, type = .enterRoundabout ∨ type = .enterRotary ∨
    type = .enterRoundaboutIntersection → tk.entersRoundabout ⟨type, modifier⟩ = true

/-- A lawful toolkit: `NO_TURN` carries a u-turn, the roundabout predicates hold of the enter, exit
and combined types, names are announced when the name or the ref changes, the angular deviation
is the smaller of the two arcs between two bearings, and every turn reads as straight. -/
def sampleToolkit : Toolkit where
  noTurnModifier := .uTurn
  invalidStepManeuver := ⟨⟨0, 0⟩, 0, 0, ⟨.noTurn, .uTurn⟩, .none, 0⟩
  emptyLaneTupel := ⟨0, 0⟩
  inaccessibleMode := 0
  emptyNameId := 0
  straightLane := 4
  noneLane := 1
  emptyLane := 0
  entersRoundabout := fun instruction => instruction.type ∈
    [.enterRoundabout, .enterRotary, .enterRoundaboutIntersection, .enterRoundaboutAtExit,
      .enterRotaryAtExit, .enterRoundaboutIntersectionAtExit, .enterAndExitRoundabout,
      .enterAndExitRotary, .enterAndExitRoundaboutIntersection]
  leavesRoundabout := fun instruction => instruction.type ∈
    [.exitRoundabout, .exitRotary, .exitRoundaboutIntersection, .enterAndExitRoundabout,
      .enterAndExitRotary, .enterAndExitRoundaboutIntersection]
  isSilent := fun instruction => instruction.type ∈ [.noTurn, .suppressed, .stayOnRoundabout]
  requiresNameAnnounced := fun name ref name' ref' => name ≠ name' ∨ ref ≠ ref'
  getTurnDirection := fun _ => .straight
  mirrorDirectionModifier := id
  angularDeviation := fun a b => min |a - b| (360 - |a - b|)
  reverseBearing := fun bearing => if 180 ≤ bearing then bearing - 180 else bearing + 180

theorem sampleToolkit_lawful : sampleToolkit.Lawful where
  invalid_instruction := rfl
  invalid_waypointType := rfl
  emptyNameId_eq := rfl
  isSilent_type := fun instruction silent => by simpa [sampleToolkit] using silent
  not_entersRoundabout_noTurn := rfl
  not_leavesRoundabout_noTurn := rfl
  not_entersRoundabout_stay := fun _ => rfl
  entersRoundabout_enter := fun _ _ enter => by rcases enter with rfl | rfl | rfl <;> rfl

section Steps

variable (tk : Toolkit)

/-- `getInvalidIntersection()`. -/
def invalidIntersection : Intersection :=
  ⟨[], [], Intersection.noIndex, Intersection.noIndex, tk.emptyLaneTupel, []⟩

/-- `getInvalidRouteStep()`, which `invalidateStep` writes over a step. -/
def invalidRouteStep : RouteStep :=
  ⟨0, "", "", "", "", "", "", 0, 0, tk.inaccessibleMode, tk.invalidStepManeuver, 0, 0,
    [invalidIntersection tk]⟩

/-- `elongate(step, by_step)`: adds the time and length of `by_step`, and its intersections at the
end when it follows `step` (`step.geometry_end == by_step.geometry_begin + 1`), else at the front,
where it also takes over `by_step`'s maneuver and start. -/
def elongate (step byStep : RouteStep) : RouteStep :=
  let step := { step with
    duration := step.duration + byStep.duration
    distance := step.distance + byStep.distance }
  if step.geometryEnd = byStep.geometryBegin + 1 then
    { step with
      geometryEnd := byStep.geometryEnd
      intersections := step.intersections ++ byStep.intersections }
  else
    { step with
      geometryBegin := byStep.geometryBegin
      maneuver := byStep.maneuver
      intersections := byStep.intersections ++ step.intersections }

/-- `forwardInto(destination, source)`: adds the time and length of `source`, takes its exit
number, puts its intersections after or before the destination's by comparing the two
`geometry_begin`s, and spans both geometries. -/
def forwardInto (destination source : RouteStep) : RouteStep :=
  { destination with
    duration := destination.duration + source.duration
    distance := destination.distance + source.distance
    maneuver := { destination.maneuver with exit := source.maneuver.exit }
    intersections :=
      if destination.geometryBegin < source.geometryBegin then
        destination.intersections ++ source.intersections
      else source.intersections ++ destination.intersections
    geometryBegin := min destination.geometryBegin source.geometryBegin
    geometryEnd := max destination.geometryEnd source.geometryEnd }

/-- The predicate `not_is_valid` of `removeNoTurnInstructions`: a `NO_TURN` step with waypoint
`None`, which is what invalidated steps are. -/
def notIsValid (step : RouteStep) : Bool :=
  step.maneuver.instruction = tk.noTurn && step.maneuver.waypointType = .none

/-- `removeNoTurnInstructions(steps)` (`boost::remove_erase_if`); its `BOOST_ASSERT`s are compiled
out of release builds and are not modelled. -/
def removeNoTurnInstructions (steps : List RouteStep) : List RouteStep :=
  steps.filter fun step => !notIsValid tk step

end Steps

end Osrm.Engine.Guidance
