import Osrm.Engine.Guidance.RouteStep
import Mathlib.Algebra.BigOperators.Group.List
import Mathlib.Logic.Relation

/-!
# Legs, their segments, and coarsening

What the guidance passes are for, stated without their rules: a leg is a list of segments (the
span of leg geometry a step covers, its time and length, and the intersections it passes), and a
pass only ever coarsens it, by joining a step with the linked step after it or by draining the
depart into the first step (a leg that starts on a roundabout). `Coarsens` is the closure of those
moves; it keeps the total duration and distance and the sequence of passed intersections, and it
keeps consecutive segments linked.

`LegInvariant` is the invariant `L` of a step list. `Working` is what holds in the middle of a
pass, where invalidated steps are still in place: `Working.merge`, `Working.relabel` and
`Working.drain` are the three things a pass does to it, each a coarsening of its surviving steps.
-/

namespace Osrm.Engine.Guidance

/-- An intersection without its lane data, which the sliproad rule of `collapseTurns` overwrites
when it folds a sliproad. -/
def Intersection.withoutLanes (intersection : Intersection) : Intersection :=
  { intersection with lanes := ⟨0, 0⟩, laneDescription := [] }

/-- What post-processing must conserve of a step. -/
structure Segment where
  geometryBegin : Nat
  geometryEnd : Nat
  duration : ℚ
  distance : ℚ
  intersections : List Intersection
  deriving DecidableEq, Repr

/-- The segment of a step, with its intersections' lane data left out. -/
def RouteStep.segment (step : RouteStep) : Segment :=
  ⟨step.geometryBegin, step.geometryEnd, step.duration, step.distance,
    step.intersections.map Intersection.withoutLanes⟩

/-- `second` starts at the last location of `first`. -/
def Segment.Linked (first second : Segment) : Prop :=
  second.geometryBegin + 1 = first.geometryEnd

/-- Two linked segments as one. -/
def Segment.join (first second : Segment) : Segment :=
  ⟨first.geometryBegin, second.geometryEnd, first.duration + second.duration,
    first.distance + second.distance, first.intersections ++ second.intersections⟩

/-- The depart after its time and length moved into the first step, which now starts at the
depart's location. -/
def Segment.drainDepart (depart : Segment) : Segment :=
  ⟨depart.geometryBegin, 1, 0, 0, depart.intersections⟩

/-- The first step after the depart drained into it. -/
def Segment.drainInto (first depart : Segment) : Segment :=
  ⟨0, first.geometryEnd, depart.duration + first.duration, depart.distance + first.distance,
    first.intersections⟩

/-- One coarsening of a leg. -/
inductive Coarsening : List Segment → List Segment → Prop
  | join (front : List Segment) (first second : Segment) (back : List Segment) :
      first.Linked second →
      Coarsening (front ++ first :: second :: back) (front ++ first.join second :: back)
  | drain (depart first : Segment) (back : List Segment) :
      Coarsening (depart :: first :: back) (depart.drainDepart :: first.drainInto depart :: back)

/-- Any number of coarsenings. -/
def Coarsens : List Segment → List Segment → Prop := Relation.ReflTransGen Coarsening

/-- The time of a leg. -/
def totalDuration (segments : List Segment) : ℚ := (segments.map Segment.duration).sum

/-- The length of a leg. -/
def totalDistance (segments : List Segment) : ℚ := (segments.map Segment.distance).sum

/-- The intersections a leg passes, in order. -/
def passedIntersections (segments : List Segment) : List Intersection :=
  segments.flatMap Segment.intersections

/-- What a coarsening conserves. -/
def Conserved (before after : List Segment) : Prop :=
  totalDuration before = totalDuration after ∧ totalDistance before = totalDistance after ∧
    passedIntersections before = passedIntersections after

theorem Coarsening.conserved {before after : List Segment} (step : Coarsening before after) :
    Conserved before after := by
  cases step with
  | join front first second back =>
    refine ⟨?_, ?_, ?_⟩ <;>
      simp [totalDuration, totalDistance, passedIntersections, Segment.join, add_assoc]
  | drain depart first back =>
    refine ⟨?_, ?_, ?_⟩ <;>
      simp [totalDuration, totalDistance, passedIntersections, Segment.drainDepart,
        Segment.drainInto, add_assoc]

theorem Coarsens.conserved {before after : List Segment} (steps : Coarsens before after) :
    Conserved before after := by
  induction steps with
  | refl => exact ⟨rfl, rfl, rfl⟩
  | tail _ step ih =>
    obtain ⟨duration, distance, intersections⟩ := step.conserved
    exact ⟨ih.1.trans duration, ih.2.1.trans distance, ih.2.2.trans intersections⟩

/-- A coarsening keeps consecutive segments linked. -/
theorem Coarsening.chain {before after : List Segment} (step : Coarsening before after)
    (chain : before.Chain' Segment.Linked) : after.Chain' Segment.Linked := by
  cases step with
  | join front first second back linked =>
    rw [List.chain'_append] at chain ⊢
    obtain ⟨front_chain, rest_chain, across⟩ := chain
    have back_chain := (List.chain'_cons'.mp rest_chain).2
    refine ⟨front_chain, List.chain'_cons'.mpr ⟨?_, (List.chain'_cons'.mp back_chain).2⟩, ?_⟩
    · intro third third_head
      exact (List.chain'_cons'.mp back_chain).1 third third_head
    · intro last last_mem joined joined_head
      cases joined_head
      exact across last last_mem first rfl
  | drain depart first back =>
    refine List.chain'_cons'.mpr ⟨fun _ first_head => ?_, List.chain'_cons'.mpr ⟨?_, ?_⟩⟩
    · cases first_head
      rfl
    · intro next next_head
      exact (List.chain'_cons'.mp (List.chain'_cons'.mp chain).2).1 next next_head
    · exact (List.chain'_cons'.mp (List.chain'_cons'.mp chain).2).2

theorem Coarsens.chain {before after : List Segment} (steps : Coarsens before after)
    (chain : before.Chain' Segment.Linked) : after.Chain' Segment.Linked := by
  induction steps with
  | refl => exact chain
  | tail _ step ih => exact step.chain ih

/-- A run of segments joined into one, each into the one before it, as a roundabout is folded into
its entering step. -/
def Segment.joinRun : Segment → List Segment → Segment
  | first, [] => first
  | first, next :: rest => first.join (joinRun next rest)

@[simp] theorem Segment.joinRun_geometryBegin :
    ∀ (first : Segment) (rest : List Segment), (first.joinRun rest).geometryBegin = first.geometryBegin
  | _, [] => rfl
  | _, _ :: _ => rfl

/-- A joined run starts where its first segment starts and ends where its last one ends, and
carries the time, length and intersections of all of them. -/
theorem Segment.joinRun_eq : ∀ (first : Segment) (rest : List Segment),
    first.joinRun rest = ⟨first.geometryBegin,
      ((first :: rest).getLast (List.cons_ne_nil _ _)).geometryEnd, totalDuration (first :: rest),
      totalDistance (first :: rest), passedIntersections (first :: rest)⟩
  | first, [] => by simp [joinRun, totalDuration, totalDistance, passedIntersections]
  | first, next :: rest => by
    rw [joinRun, joinRun_eq next rest]
    simp [join, totalDuration, totalDistance, passedIntersections]

/-- Joining a linked run of segments coarsens the leg around it. -/
theorem Coarsens.joinRun (back : List Segment) (rest : List Segment) :
    ∀ (front : List Segment) (first : Segment), (first :: rest).Chain' Segment.Linked →
      Coarsens (front ++ first :: rest ++ back) (front ++ first.joinRun rest :: back) := by
  induction rest with
  | nil =>
    intro front first _
    simpa [Segment.joinRun] using Relation.ReflTransGen.refl
  | cons next rest ih =>
    intro front first chain
    obtain ⟨linked, chain⟩ := List.chain'_cons.mp chain
    have inner := ih (front ++ [first]) next chain
    simp only [List.append_assoc, List.singleton_append, List.cons_append] at inner ⊢
    exact inner.tail (.join front first _ back (by simpa [Segment.Linked] using linked))

/-! ## The leg invariant -/

/-- The depart of a leg: waypoint `Depart`, a first intersection with one bearing and one entry,
and the start of the leg geometry. -/
def DepartStep (step : RouteStep) : Prop :=
  step.maneuver.waypointType = .depart ∧
    (∃ front rest, step.intersections = front :: rest ∧ front.bearings.length = 1 ∧
      front.entry.length = 1) ∧
    step.geometryBegin = 0

/-- The arrive of a leg: waypoint `Arrive` and one intersection, with one bearing and one entry. -/
def ArriveStep (step : RouteStep) : Prop :=
  step.maneuver.waypointType = .arrive ∧
    ∃ front, step.intersections = [front] ∧ front.bearings.length = 1 ∧ front.entry.length = 1

/-- Every other step of a leg: waypoint `None`, a turn type other than `NoTurn`, and at least one
intersection. -/
def MiddleStep (step : RouteStep) : Prop :=
  step.maneuver.waypointType = .none ∧ step.maneuver.instruction.type ≠ .noTurn ∧
    step.intersections ≠ []

/-- A leg whose depart, other steps and arrive are of the given kinds, and in which each step
starts at the last location of the one before: `steps[i+1].geometry_begin =
steps[i].geometry_end - 1`, written with an addition so that nothing truncates. -/
structure Leg (departOk middleOk arriveOk : RouteStep → Prop) (steps : List RouteStep) :
    Prop where
  shape : ∃ depart middle arrive, steps = depart :: middle ++ [arrive] ∧ departOk depart ∧
    (∀ step ∈ middle, middleOk step) ∧ arriveOk arrive
  chain : (steps.map RouteStep.segment).Chain' Segment.Linked

/-- The leg invariant `L`. -/
def LegInvariant (steps : List RouteStep) : Prop := Leg DepartStep MiddleStep ArriveStep steps

theorem chain'_getElem? {α : Type} {R : α → α → Prop} :
    ∀ {l : List α}, l.Chain' R → ∀ {i : Nat} {a b : α}, l[i]? = some a → l[i + 1]? = some b → R a b
  | [], _, _, _, _, at_i, _ => by simp at at_i
  | [_], _, i, _, _, _, at_next => by simp at at_next
  | first :: second :: rest, chain, 0, _, _, at_i, at_next => by
    simp only [List.getElem?_cons_zero, List.getElem?_cons_succ, Option.some.injEq] at at_i at_next
    exact at_i ▸ at_next ▸ (List.chain'_cons.mp chain).1
  | _ :: second :: rest, chain, i + 1, _, _, at_i, at_next =>
    chain'_getElem? (l := second :: rest) chain.tail (i := i) (by simpa using at_i)
      (by simpa using at_next)

/-- Consecutive steps of a leg are linked. -/
theorem Leg.linked {departOk middleOk arriveOk : RouteStep → Prop} {steps : List RouteStep}
    (leg : Leg departOk middleOk arriveOk steps) {i : Nat} {step next : RouteStep}
    (at_i : steps[i]? = some step) (at_next : steps[i + 1]? = some next) :
    step.segment.Linked next.segment :=
  chain'_getElem? leg.chain (i := i) (by simp [at_i]) (by simp [at_next])

/-- The steps of any stretch of a leg are linked. -/
theorem Leg.chain_of_split {departOk middleOk arriveOk : RouteStep → Prop} {steps : List RouteStep}
    (leg : Leg departOk middleOk arriveOk steps) {front run back : List RouteStep}
    (split : steps = front ++ run ++ back) : (run.map RouteStep.segment).Chain' Segment.Linked := by
  have whole := leg.chain
  rw [split, List.map_append, List.map_append] at whole
  exact whole.left_of_append.right_of_append

/-- A step of a leg with steps before and after it is one of the middle steps. -/
theorem Leg.middle {departOk middleOk arriveOk : RouteStep → Prop} {steps : List RouteStep}
    (leg : Leg departOk middleOk arriveOk steps) {front back : List RouteStep} {step : RouteStep}
    (split : steps = front ++ step :: back) (after : front ≠ []) (before : back ≠ []) :
    middleOk step := by
  obtain ⟨depart, middle, arrive, rfl, -, middle_ok, -⟩ := leg.shape
  obtain ⟨first, front, rfl⟩ := List.exists_cons_of_ne_nil after
  obtain ⟨back, last, rfl⟩ := (List.eq_nil_or_concat back).resolve_left before
  simp only [List.cons_append, List.cons.injEq, List.concat_eq_append] at split
  have inner : middle ++ [arrive] = (front ++ step :: back) ++ [last] := by simpa using split.2
  exact middle_ok step ((List.append_inj' inner rfl).1 ▸ by simp)

/-! ## Steps in the middle of a pass -/

section Survivors

variable {α : Type} (keep : α → Bool)

theorem filter_set (steps : List α) {i : Nat} (hi : i < steps.length) (step : α) :
    (steps.set i step).filter keep =
      (steps.take i).filter keep ++ [step].filter keep ++ (steps.drop (i + 1)).filter keep := by
  rw [List.set_eq_take_append_cons_drop, if_pos hi]
  by_cases kept : keep step <;> simp [List.filter_cons, kept]

theorem set_of_getElem? {steps : List α} {i : Nat} {step : α} (at_i : steps[i]? = some step) :
    steps.set i step = steps := by
  refine List.ext_getElem? fun m => ?_
  rw [List.getElem?_set]
  split
  · subst_vars
    simp [at_i, (List.getElem?_eq_some_iff.mp at_i).1]
  · rfl

/-- Setting two positions, with nothing kept strictly between them. -/
theorem filter_set_set (steps : List α) {i j : Nat} (hij : i < j) (hj : j < steps.length)
    (between : ∀ m step, i < m → m < j → steps[m]? = some step → keep step = false)
    (first second : α) :
    ((steps.set i first).set j second).filter keep =
      (steps.take i).filter keep ++ [first].filter keep ++ [second].filter keep ++
        (steps.drop (j + 1)).filter keep := by
  have dropped : ((steps.take j).drop (i + 1)).filter keep = [] := by
    refine List.filter_eq_nil_iff.mpr fun step member => ?_
    obtain ⟨n, at_n⟩ := List.mem_iff_getElem?.mp member
    rw [List.getElem?_drop] at at_n
    have inside : i + 1 + n < j := by
      by_contra outside
      rw [List.getElem?_eq_none (by simp; omega)] at at_n
      cases at_n
    rw [List.getElem?_take_of_lt inside] at at_n
    simp [between (i + 1 + n) step (by omega) inside at_n]
  rw [filter_set keep _ (by simpa using hj), List.set_take, List.drop_set_of_lt _ _ (by omega),
    filter_set keep _ (by simp; omega), List.take_take, Nat.min_eq_left (by omega), dropped,
    List.append_nil]

end Survivors

section Working

variable (tk : Toolkit) (departOk middleOk arriveOk : RouteStep → Prop)

/-- The segments of the steps that survive the final sweep. -/
def survivingSegments (steps : List RouteStep) : List Segment :=
  (removeNoTurnInstructions tk steps).map RouteStep.segment

/-- A step list in the middle of a pass: the depart and the arrive, and between them steps that
are invalidated or of the kind `middleOk`; the steps that survive the final sweep follow each
other. -/
structure Working (steps : List RouteStep) : Prop where
  two_le_length : 2 ≤ steps.length
  depart : ∃ depart, steps[0]? = some depart ∧ departOk depart ∧ notIsValid tk depart = false
  arrive : ∃ arrive, steps[steps.length - 1]? = some arrive ∧ arriveOk arrive ∧
    notIsValid tk arrive = false
  middle : ∀ m step, 0 < m → m + 1 < steps.length → steps[m]? = some step →
    notIsValid tk step = true ∨ middleOk step
  chain : (survivingSegments tk steps).Chain' Segment.Linked

variable {tk departOk middleOk arriveOk}

@[simp] theorem survivingSegments_nil : survivingSegments tk [] = [] := rfl

@[simp] theorem survivingSegments_valid {step : RouteStep} (valid : notIsValid tk step = false) :
    survivingSegments tk [step] = [step.segment] := by
  simp [survivingSegments, removeNoTurnInstructions, valid]

@[simp] theorem survivingSegments_invalid {step : RouteStep}
    (invalid : notIsValid tk step = true) : survivingSegments tk [step] = [] := by
  simp [survivingSegments, removeNoTurnInstructions, invalid]

theorem survivingSegments_set {steps : List RouteStep} {i : Nat} (hi : i < steps.length)
    (step : RouteStep) :
    survivingSegments tk (steps.set i step) =
      survivingSegments tk (steps.take i) ++ survivingSegments tk [step] ++
        survivingSegments tk (steps.drop (i + 1)) := by
  simp only [survivingSegments, removeNoTurnInstructions]
  rw [filter_set _ steps hi]
  simp

theorem survivingSegments_set_set {steps : List RouteStep} {i j : Nat} (hij : i < j)
    (hj : j < steps.length)
    (between : ∀ m step, i < m → m < j → steps[m]? = some step → notIsValid tk step = true)
    (first second : RouteStep) :
    survivingSegments tk ((steps.set i first).set j second) =
      survivingSegments tk (steps.take i) ++ survivingSegments tk [first] ++
        survivingSegments tk [second] ++ survivingSegments tk (steps.drop (j + 1)) := by
  simp only [survivingSegments, removeNoTurnInstructions]
  rw [filter_set_set _ steps hij hj (fun m step lower upper at_m => by
    simp [between m step lower upper at_m])]
  simp

/-- The surviving segments of a list in which two positions hold `first` and `second`, with only
invalidated steps between them. -/
theorem survivingSegments_split {steps : List RouteStep} {i j : Nat} (hij : i < j)
    (hj : j < steps.length) {first second : RouteStep} (first_at : steps[i]? = some first)
    (second_at : steps[j]? = some second)
    (between : ∀ m step, i < m → m < j → steps[m]? = some step → notIsValid tk step = true) :
    survivingSegments tk steps =
      survivingSegments tk (steps.take i) ++ survivingSegments tk [first] ++
        survivingSegments tk [second] ++ survivingSegments tk (steps.drop (j + 1)) := by
  have unchanged : (steps.set i first).set j second = steps := by
    rw [set_of_getElem? first_at, set_of_getElem? second_at]
  rw [← survivingSegments_set_set hij hj between, unchanged]

theorem linked_of_chain {front back : List Segment} {first second : Segment}
    (chain : (front ++ first :: second :: back).Chain' Segment.Linked) : first.Linked second :=
  (List.chain'_cons'.mp (List.chain'_append.mp chain).2.1).1 second rfl

variable {steps : List RouteStep}

/-- A valid step before the arrive is the depart or of the middle kind. -/
theorem Working.ok_of_valid (working : Working tk departOk middleOk arriveOk steps) {i : Nat}
    (hi : i + 1 < steps.length) {step : RouteStep} (at_i : steps[i]? = some step)
    (valid : notIsValid tk step = false) : (i = 0 → departOk step) ∧ (0 < i → middleOk step) := by
  refine ⟨fun zero => ?_, fun positive => ?_⟩
  · obtain ⟨depart, at_zero, depart_ok, -⟩ := working.depart
    rw [← zero, at_i, Option.some.injEq] at at_zero
    exact at_zero ▸ depart_ok
  · rcases working.middle i step positive hi at_i with invalid | ok
    · exact absurd invalid (by simp [valid])
    · exact ok

theorem Working.depart_set (working : Working tk departOk middleOk arriveOk steps) {i : Nat}
    {step : RouteStep} (ok : i = 0 → departOk step ∧ notIsValid tk step = false) :
    ∃ depart, (steps.set i step)[0]? = some depart ∧ departOk depart ∧
      notIsValid tk depart = false := by
  rcases Nat.eq_zero_or_pos i with rfl | positive
  · exact ⟨step, List.getElem?_set_self (by have := working.two_le_length; omega), ok rfl⟩
  · obtain ⟨depart, at_zero, depart_ok⟩ := working.depart
    exact ⟨depart, by rw [List.getElem?_set_ne (by omega)]; exact at_zero, depart_ok⟩

/-- Writing `step` at a position other than the ends, where it is invalidated or of the middle
kind, keeps the shape of a working list. -/
theorem Working.set_middle (working : Working tk departOk middleOk arriveOk steps) {i : Nat}
    (positive : 0 < i) (hi : i + 1 < steps.length) {step : RouteStep}
    (ok : notIsValid tk step = true ∨ middleOk step) :
    ∀ m step', 0 < m → m + 1 < (steps.set i step).length → (steps.set i step)[m]? = some step' →
      notIsValid tk step' = true ∨ middleOk step' := by
  intro m step' lower upper at_m
  rw [List.length_set] at upper
  by_cases mi : m = i
  · subst mi
    rw [List.getElem?_set_self (by omega)] at at_m
    cases at_m
    exact ok
  · rw [List.getElem?_set_ne (Ne.symm mi)] at at_m
    exact working.middle m step' lower upper at_m

/-- Two survivors with only invalidated steps between them are linked. -/
theorem Working.linked (working : Working tk departOk middleOk arriveOk steps) {i j : Nat}
    (hij : i < j) (hj : j < steps.length) {first second : RouteStep}
    (first_at : steps[i]? = some first) (second_at : steps[j]? = some second)
    (first_valid : notIsValid tk first = false) (second_valid : notIsValid tk second = false)
    (between : ∀ m step, i < m → m < j → steps[m]? = some step → notIsValid tk step = true) :
    first.segment.Linked second.segment := by
  have chain := working.chain
  rw [survivingSegments_split hij hj first_at second_at between] at chain
  simp only [survivingSegments_valid first_valid, survivingSegments_valid second_valid,
    List.append_assoc, List.singleton_append] at chain
  exact linked_of_chain chain

/-- A survivor takes over the next survivor, which is invalidated: one join of the surviving
segments. -/
theorem Working.merge (working : Working tk departOk middleOk arriveOk steps) {i j : Nat}
    (hij : i < j) (hj : j + 1 < steps.length) {first second merged removed : RouteStep}
    (first_at : steps[i]? = some first) (second_at : steps[j]? = some second)
    (first_valid : notIsValid tk first = false) (second_valid : notIsValid tk second = false)
    (between : ∀ m step, i < m → m < j → steps[m]? = some step → notIsValid tk step = true)
    (joined : merged.segment = first.segment.join second.segment)
    (merged_valid : notIsValid tk merged = false)
    (merged_ok : (i = 0 → departOk merged) ∧ (0 < i → middleOk merged))
    (removed_invalid : notIsValid tk removed = true) :
    Working tk departOk middleOk arriveOk ((steps.set i merged).set j removed) ∧
      Coarsening (survivingSegments tk steps)
        (survivingSegments tk ((steps.set i merged).set j removed)) := by
  have coarsening : Coarsening (survivingSegments tk steps)
      (survivingSegments tk ((steps.set i merged).set j removed)) := by
    rw [survivingSegments_split hij (by omega) first_at second_at between,
      survivingSegments_set_set hij (by omega) between]
    simp only [survivingSegments_valid first_valid, survivingSegments_valid second_valid,
      survivingSegments_valid merged_valid, survivingSegments_invalid removed_invalid,
      List.append_nil, List.append_assoc, List.singleton_append, List.cons_append, joined]
    exact .join _ _ _ _ (working.linked hij (by omega) first_at second_at first_valid second_valid
      between)
  refine ⟨⟨by simpa using working.two_le_length, ?_, ?_, ?_, coarsening.chain working.chain⟩,
    coarsening⟩
  · rw [List.getElem?_set_ne (by omega)]
    exact working.depart_set fun zero => ⟨merged_ok.1 zero, merged_valid⟩
  · obtain ⟨arrive, at_last, arrive_ok⟩ := working.arrive
    refine ⟨arrive, ?_, arrive_ok⟩
    rw [List.length_set, List.length_set, List.getElem?_set_ne (by omega),
      List.getElem?_set_ne (by omega)]
    exact at_last
  · intro m step lower upper at_m
    simp only [List.length_set] at upper
    by_cases mj : m = j
    · subst mj
      rw [List.getElem?_set_self (by simp; omega)] at at_m
      cases at_m
      exact .inl removed_invalid
    · rw [List.getElem?_set_ne (Ne.symm mj)] at at_m
      rcases Nat.eq_zero_or_pos i with zero | positive
      · subst zero
        rw [List.getElem?_set_ne (show 0 ≠ m by omega)] at at_m
        exact working.middle m step lower upper at_m
      · exact working.set_middle positive (by omega) (.inr (merged_ok.2 positive)) m step lower
          (by simpa using upper) at_m

/-- A surviving step in the middle rewritten without changing its segment. -/
theorem Working.relabel (working : Working tk departOk middleOk arriveOk steps) {i : Nat}
    (positive : 0 < i) (hi : i + 1 < steps.length) {step relabelled : RouteStep}
    (at_i : steps[i]? = some step) (valid : notIsValid tk step = false)
    (same : relabelled.segment = step.segment) (relabelled_valid : notIsValid tk relabelled = false)
    (ok : middleOk relabelled) :
    Working tk departOk middleOk arriveOk (steps.set i relabelled) ∧
      survivingSegments tk (steps.set i relabelled) = survivingSegments tk steps := by
  have unchanged : survivingSegments tk (steps.set i relabelled) = survivingSegments tk steps := by
    conv_rhs => rw [← set_of_getElem? at_i]
    rw [survivingSegments_set (by omega), survivingSegments_set (by omega),
      survivingSegments_valid valid, survivingSegments_valid relabelled_valid, same]
  refine ⟨⟨by simpa using working.two_le_length, ?_, ?_,
    working.set_middle positive hi (.inr ok), unchanged ▸ working.chain⟩, unchanged⟩
  · exact working.depart_set fun zero => absurd zero (by omega)
  · obtain ⟨arrive, at_last, arrive_ok⟩ := working.arrive
    exact ⟨arrive, by rw [List.length_set, List.getElem?_set_ne (by omega)]; exact at_last,
      arrive_ok⟩

/-- The depart drained into the first step after it. -/
theorem Working.drain (working : Working tk departOk middleOk arriveOk steps)
    (three : 3 ≤ steps.length) {depart first drained filled : RouteStep}
    (depart_at : steps[0]? = some depart) (first_at : steps[1]? = some first)
    (depart_valid : notIsValid tk depart = false) (first_valid : notIsValid tk first = false)
    (drained_segment : drained.segment = depart.segment.drainDepart)
    (filled_segment : filled.segment = first.segment.drainInto depart.segment)
    (drained_ok : departOk drained) (drained_valid : notIsValid tk drained = false)
    (filled_ok : middleOk filled) (filled_valid : notIsValid tk filled = false) :
    Working tk departOk middleOk arriveOk ((steps.set 0 drained).set 1 filled) ∧
      Coarsening (survivingSegments tk steps)
        (survivingSegments tk ((steps.set 0 drained).set 1 filled)) := by
  have none_between : ∀ m step, 0 < m → m < 1 → steps[m]? = some step →
      notIsValid tk step = true := fun _ _ _ _ => by omega
  have coarsening : Coarsening (survivingSegments tk steps)
      (survivingSegments tk ((steps.set 0 drained).set 1 filled)) := by
    rw [survivingSegments_split (by omega) (by omega) depart_at first_at none_between,
      survivingSegments_set_set (by omega) (by omega) none_between]
    simp only [survivingSegments_valid depart_valid, survivingSegments_valid first_valid,
      survivingSegments_valid drained_valid, survivingSegments_valid filled_valid,
      drained_segment, filled_segment, List.take_zero, survivingSegments_nil, List.nil_append,
      List.singleton_append, List.cons_append]
    exact .drain _ _ _
  refine ⟨⟨by simpa using working.two_le_length, ?_, ?_, ?_, coarsening.chain working.chain⟩,
    coarsening⟩
  · rw [List.getElem?_set_ne (by omega)]
    exact working.depart_set fun _ => ⟨drained_ok, drained_valid⟩
  · obtain ⟨arrive, at_last, arrive_ok⟩ := working.arrive
    refine ⟨arrive, ?_, arrive_ok⟩
    rw [List.length_set, List.length_set, List.getElem?_set_ne (by omega),
      List.getElem?_set_ne (by omega)]
    exact at_last
  · intro m step lower upper at_m
    rw [List.length_set, List.length_set] at upper
    by_cases one : m = 1
    · subst one
      rw [List.getElem?_set_self (by simp; omega)] at at_m
      cases at_m
      exact .inr filled_ok
    · rw [List.getElem?_set_ne (Ne.symm one), List.getElem?_set_ne (by omega)] at at_m
      exact working.middle m step lower upper at_m

/-- The loop rule of a pass over `List.range' start count`: an invariant indexed by the next
position, which every iteration carries from `k` to `k + 1`, holds at the end. -/
theorem foldlM_range'_of_step {σ : Type} {invariant : Nat → σ → Prop}
    {pass : σ → Nat → Option σ} {start count : Nat}
    (step : ∀ k state, start ≤ k → k < start + count → invariant k state →
      ∃ next, pass state k = some next ∧ invariant (k + 1) next)
    (state : σ) (initial : invariant start state) :
    ∃ final, (List.range' start count).foldlM pass state = some final ∧
      invariant (start + count) final := by
  induction count generalizing start state with
  | zero => exact ⟨state, rfl, initial⟩
  | succ count ih =>
    obtain ⟨next, next_eq, next_holds⟩ := step start state le_rfl (by omega) initial
    obtain ⟨final, final_eq, final_holds⟩ :=
      ih (fun k state lower upper => step k state (by omega) (by omega)) next next_holds
    refine ⟨final, by simp [List.range'_succ, List.foldlM_cons, next_eq, final_eq], ?_⟩
    rwa [Nat.add_right_comm, Nat.add_assoc] at final_holds

/-- At the end of a pass, the steps that survive the final sweep form a leg. -/
theorem Working.leg (working : Working tk departOk middleOk arriveOk steps) :
    Leg departOk middleOk arriveOk (removeNoTurnInstructions tk steps) := by
  obtain ⟨depart, depart_at, depart_ok, depart_valid⟩ := working.depart
  obtain ⟨arrive, arrive_at, arrive_ok, arrive_valid⟩ := working.arrive
  have two := working.two_le_length
  cases steps with
  | nil => simp at two
  | cons first rest =>
    simp only [List.getElem?_cons_zero, Option.some.injEq] at depart_at
    subst depart_at
    have nonempty : rest ≠ [] := List.ne_nil_of_length_pos (by simp at two; omega)
    have last_at : rest[rest.length - 1]? = some arrive := by
      have succ : rest.length = rest.length - 1 + 1 := by
        have := List.length_pos.mpr nonempty
        omega
      rw [← List.getElem?_cons_succ (a := first), ← succ]
      simpa using arrive_at
    have last : rest.getLast nonempty = arrive := by
      rw [List.getLast_eq_getElem]
      exact (List.getElem?_eq_some_iff.mp last_at).2
    have shape : first :: rest = first :: rest.dropLast ++ [arrive] := by
      rw [List.cons_append, ← last, List.dropLast_concat_getLast]
    refine ⟨⟨first, rest.dropLast.filter (fun step => !notIsValid tk step), arrive, ?_,
      depart_ok, ?_, arrive_ok⟩, working.chain⟩
    · rw [shape]
      simp [removeNoTurnInstructions, depart_valid, arrive_valid]
    · intro step member
      rw [List.mem_filter] at member
      obtain ⟨k, at_k⟩ := List.mem_iff_getElem?.mp member.1
      have inside := (List.getElem?_eq_some_iff.mp at_k).1
      rw [List.getElem?_dropLast, if_pos (by simpa using inside)] at at_k
      simp only [List.length_dropLast] at inside
      rcases working.middle (k + 1) step (by omega) (by simp; omega) (by simpa using at_k) with
        removed | ok
      · simp [removed] at member
      · exact ok

section Valid

variable (depart_valid : ∀ step, departOk step → notIsValid tk step = false)
  (middle_valid : ∀ step, middleOk step → notIsValid tk step = false)
  (arrive_valid : ∀ step, arriveOk step → notIsValid tk step = false)
include depart_valid middle_valid arrive_valid

/-- The final sweep keeps every step of a leg whose kinds of steps are all valid. -/
theorem Leg.removeNoTurnInstructions_eq (leg : Leg departOk middleOk arriveOk steps) :
    removeNoTurnInstructions tk steps = steps := by
  obtain ⟨depart, middle, arrive, rfl, depart_ok, middle_ok, arrive_ok⟩ := leg.shape
  refine List.filter_eq_self.mpr fun step member => ?_
  simp only [List.cons_append, List.mem_cons, List.mem_append, List.not_mem_nil,
    or_false] at member
  rcases member with rfl | member | rfl
  · simp [depart_valid _ depart_ok]
  · simp [middle_valid _ (middle_ok _ member)]
  · simp [arrive_valid _ arrive_ok]

/-- A leg whose kinds of steps are all valid is a working list. -/
theorem Working.of_leg (leg : Leg departOk middleOk arriveOk steps) :
    Working tk departOk middleOk arriveOk steps := by
  have kept := leg.removeNoTurnInstructions_eq depart_valid middle_valid arrive_valid
  obtain ⟨depart, middle, arrive, rfl, depart_ok, middle_ok, arrive_ok⟩ := leg.shape
  refine ⟨by simp, ⟨depart, by simp, depart_ok, depart_valid _ depart_ok⟩,
    ⟨arrive, by simp, arrive_ok, arrive_valid _ arrive_ok⟩, ?_, ?_⟩
  · intro m step lower upper at_m
    obtain ⟨k, rfl⟩ : ∃ k, m = k + 1 := ⟨m - 1, by omega⟩
    simp only [List.cons_append, List.getElem?_cons_succ] at at_m
    simp only [List.cons_append, List.length_cons, List.length_append, List.length_singleton,
      List.length_nil] at upper
    rw [List.getElem?_append_left (by omega)] at at_m
    exact .inr (middle_ok _ (List.getElem?_mem at_m))
  · show ((removeNoTurnInstructions tk _).map RouteStep.segment).Chain' _
    rw [kept]
    exact leg.chain

/-- A pass that starts from a leg and ends on a working list whose surviving segments coarsen the
leg's returns, after the final sweep, a leg whose segments coarsen the input's. -/
theorem Leg.sweep (leg : Leg departOk middleOk arriveOk steps) {final : List RouteStep}
    (working : Working tk departOk middleOk arriveOk final)
    (coarsens : Coarsens (survivingSegments tk steps) (survivingSegments tk final)) :
    Leg departOk middleOk arriveOk (removeNoTurnInstructions tk final) ∧
      Coarsens (steps.map RouteStep.segment)
        ((removeNoTurnInstructions tk final).map RouteStep.segment) := by
  refine ⟨working.leg, ?_⟩
  rw [← leg.removeNoTurnInstructions_eq depart_valid middle_valid arrive_valid]
  exact coarsens

end Valid

end Working

end Osrm.Engine.Guidance
