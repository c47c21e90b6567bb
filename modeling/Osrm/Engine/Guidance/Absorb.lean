import Osrm.Engine.Guidance.Reads

/-!
# The passes that absorb a step into the one before it

`collapseUseLane` folds a `UseLane` step whose lanes have no straight or unmarked neighbour into
the previous surviving step, and `buildIntersections` folds every `Suppressed` step into the last
announced one. On a `GuidanceLeg` each of them does only that: every iteration is one
`Working.merge` of two neighbouring survivors or nothing, so the result is again a `GuidanceLeg`
whose segments coarsen the input's.
-/

namespace Osrm.Engine.Guidance

variable {tk : Toolkit}

/-- The working lists of the collapsing passes. -/
abbrev GuidanceWorking (tk : Toolkit) : List RouteStep → Prop :=
  Working tk (DepartSentinel tk) GuidedStep (ArriveSentinel tk)

theorem GuidanceLeg.working {steps : List RouteStep} (leg : GuidanceLeg tk steps) :
    GuidanceWorking tk steps :=
  Working.of_leg (fun _ depart => depart.valid) (fun _ guided => guided.valid)
    (fun _ arrive => arrive.valid) leg

/-- Every step of a guidance leg survives the final sweep. -/
theorem GuidanceLeg.valid {steps : List RouteStep} (leg : GuidanceLeg tk steps) {m : Nat}
    {step : RouteStep} (at_m : steps[m]? = some step) : notIsValid tk step = false := by
  have kept := List.filter_eq_self.mp <| leg.removeNoTurnInstructions_eq
    (fun _ depart => depart.valid) (fun _ guided => guided.valid) (fun _ arrive => arrive.valid)
  simpa using kept step (List.getElem?_mem at_m)

theorem GuidanceLeg.sweep {steps final : List RouteStep} (leg : GuidanceLeg tk steps)
    (working : GuidanceWorking tk final)
    (coarsens : Coarsens (survivingSegments tk steps) (survivingSegments tk final)) :
    GuidanceLeg tk (removeNoTurnInstructions tk final) ∧
      Coarsens (steps.map RouteStep.segment)
        ((removeNoTurnInstructions tk final).map RouteStep.segment) :=
  Leg.sweep (fun _ depart => depart.valid) (fun _ guided => guided.valid)
    (fun _ arrive => arrive.valid) leg working coarsens

/-- A step of a working list that is not `NoTurn` lies strictly inside it and is guided. -/
theorem GuidanceWorking.guided {steps : List RouteStep} (working : GuidanceWorking tk steps)
    {index : Nat} {step : RouteStep} (positive : 0 < index) (inside : index < steps.length)
    (at_index : steps[index]? = some step) (type : step.maneuver.instruction.type ≠ .noTurn) :
    index + 1 < steps.length ∧ GuidedStep step := by
  have middle : index + 1 < steps.length := by
    by_contra last
    obtain ⟨arrive, at_last, arrive_ok, -⟩ := working.arrive
    rw [show steps.length - 1 = index by omega, at_index] at at_last
    cases at_last
    exact type (by rw [arrive_ok.2]; rfl)
  refine ⟨middle, (working.middle index step positive middle at_index).resolve_left ?_⟩
  intro invalid
  exact type (type_of_notIsValid invalid)

/-- Folding the next survivor into a survivor, as the collapsing passes do with `elongate`. -/
theorem GuidanceWorking.absorb {steps : List RouteStep}
    (working : GuidanceWorking tk steps) {i j : Nat} (hij : i < j) (hj : j + 1 < steps.length)
    {first second : RouteStep} (first_at : steps[i]? = some first)
    (second_at : steps[j]? = some second) (first_valid : notIsValid tk first = false)
    (first_ok : (i = 0 → DepartSentinel tk first) ∧ (0 < i → GuidedStep first))
    (second_ok : GuidedStep second)
    (between : ∀ m step, i < m → m < j → steps[m]? = some step → notIsValid tk step = true)
    {removed : RouteStep} (removed_invalid : notIsValid tk removed = true) :
    GuidanceWorking tk ((steps.set i (elongate first second)).set j removed) ∧
      Coarsening (survivingSegments tk steps)
        (survivingSegments tk ((steps.set i (elongate first second)).set j removed)) := by
  have linked := working.linked hij (by omega) first_at second_at first_valid second_ok.valid
    between
  have merged_ok : (i = 0 → DepartSentinel tk (elongate first second)) ∧
      (0 < i → GuidedStep (elongate first second)) :=
    ⟨fun zero => (first_ok.1 zero).elongate linked, fun positive =>
      (first_ok.2 positive).elongate linked⟩
  have merged_valid : notIsValid tk (elongate first second) = false := by
    rcases Nat.eq_zero_or_pos i with zero | positive
    · exact (merged_ok.1 zero).valid
    · exact (merged_ok.2 positive).valid
  exact working.merge hij hj first_at second_at first_valid second_ok.valid between
    (segment_elongate linked) merged_valid merged_ok removed_invalid

/-! ## `collapseUseLane` -/

theorem canCollapeUseLane_some (tk : Toolkit) {lanes : LaneTupel} {laneDescription : List Nat}
    (inside : lanes.firstLaneFromTheRight ≤ laneDescription.length) :
    ∃ collapse, canCollapeUseLane tk lanes laneDescription = some collapse := by
  have read : ∀ k, k < laneDescription.length → ∃ mask, laneDescription.reverse[k]? = some mask :=
    fun k below => ⟨_, List.getElem?_eq_getElem (by simpa using below)⟩
  have left : ∃ collapse, (if lanes.firstLaneFromTheRight + lanes.lanesInTurn <
      laneDescription.length then
        (laneDescription.reverse[lanes.firstLaneFromTheRight + lanes.lanesInTurn]?).bind
          fun mask => some !containsTag tk mask (tk.straightLane ||| tk.noneLane)
      else some !false) = some collapse := by
    split
    · obtain ⟨mask, at_mask⟩ := read _ (by assumption)
      exact ⟨_, by rw [at_mask]; rfl⟩
    · exact ⟨_, rfl⟩
  unfold canCollapeUseLane
  simp only [Option.pure_def, Option.bind_eq_bind, Option.some_bind]
  split
  · obtain ⟨mask, at_mask⟩ := read (lanes.firstLaneFromTheRight - 1) (by omega)
    simp only [at_mask, Option.some_bind]
    split
    · exact ⟨_, rfl⟩
    · exact left
  · split
    · exact ⟨_, rfl⟩
    · exact left

theorem collapseUseLaneStep_working (lawful : tk.Lawful) {steps : List RouteStep}
    (working : GuidanceWorking tk steps) {index : Nat} (positive : 0 < index)
    (inside : index < steps.length) :
    ∃ next, collapseUseLaneStep tk steps index = some next ∧ GuidanceWorking tk next ∧
      next.length = steps.length ∧
      Coarsens (survivingSegments tk steps) (survivingSegments tk next) := by
  obtain ⟨step, at_step⟩ : ∃ step, steps[index]? = some step :=
    ⟨_, List.getElem?_eq_getElem inside⟩
  by_cases use_lane : step.maneuver.instruction.type = .useLane
  · obtain ⟨middle, guided⟩ :=
      working.guided positive inside at_step (by rw [use_lane]; decide)
    obtain ⟨front, rest, front_eq, -, -, lanes_inside⟩ := guided.2.1
    obtain ⟨collapse, collapse_eq⟩ := canCollapeUseLane_some tk lanes_inside
    cases collapse
    · exact ⟨steps, by simp [collapseUseLaneStep, at_step, use_lane, front_eq, collapse_eq],
        working, rfl, .refl⟩
    · obtain ⟨previous, previous_step, previous_eq, below, at_previous, previous_valid,
        depart_ok, middle_ok, between⟩ := working.previous (fun _ guided => guided.1.2.1)
          positive inside
      obtain ⟨merged, coarsening⟩ := working.absorb below middle at_previous at_step
        previous_valid ⟨depart_ok, middle_ok⟩ guided between (notIsValid_invalidRouteStep lawful)
      exact ⟨_, by simp [collapseUseLaneStep, at_step, use_lane, front_eq, collapse_eq,
        previous_eq, at_previous], merged, by simp, .single coarsening⟩
  · exact ⟨steps, by simp [collapseUseLaneStep, at_step, use_lane], working, rfl, .refl⟩

/-- The run of `collapseUseLane` on a guidance leg: every iteration keeps the working list and
coarsens its surviving segments. -/
theorem collapseUseLane_guidanceLeg (lawful : tk.Lawful) {steps : List RouteStep}
    (leg : GuidanceLeg tk steps) :
    ∃ result, collapseUseLane tk steps = some result ∧ GuidanceLeg tk result ∧
      Coarsens (steps.map RouteStep.segment) (result.map RouteStep.segment) := by
  obtain ⟨final, final_eq, final_working, -, coarsens⟩ :=
    @foldlM_range'_of_step _ (fun _ next => GuidanceWorking tk next ∧
        next.length = steps.length ∧
        Coarsens (survivingSegments tk steps) (survivingSegments tk next))
      (collapseUseLaneStep tk) 1 (steps.length - 1)
      (fun index next lower upper ⟨working, length, coarsens⟩ => by
        obtain ⟨after, after_eq, after_working, after_length, step⟩ :=
          collapseUseLaneStep_working lawful working (by omega : 0 < index) (by omega)
        exact ⟨after, after_eq, after_working, after_length.trans length, coarsens.trans step⟩)
      steps ⟨leg.working, rfl, .refl⟩
  exact ⟨_, by simp [collapseUseLane, final_eq], leg.sweep final_working coarsens⟩

/-- `collapseUseLane` maps a guidance leg to a guidance leg whose segments coarsen the input's. -/
theorem collapseUseLane_coarsens (lawful : tk.Lawful) {steps : List RouteStep}
    (leg : GuidanceLeg tk steps) :
    ∃ result, collapseUseLane tk steps = some result ∧ GuidanceLeg tk result ∧
      Coarsens (steps.map RouteStep.segment) (result.map RouteStep.segment) :=
  collapseUseLane_guidanceLeg lawful leg

/-- The leg of the sliproad example of `PostProcessing` is a guidance leg. -/
theorem sliproadLeg_guidanceLeg : GuidanceLeg sampleToolkit sliproadLeg := by
  refine ⟨⟨sliproadDepart, [shortTurn, finalSliproad .sliproad], sliproadArrive, rfl,
    ⟨⟨rfl, ⟨_, _, rfl, rfl, rfl⟩, rfl⟩, rfl⟩, ?_, ⟨⟨rfl, _, rfl, rfl, rfl⟩, rfl⟩⟩,
    sliproadLeg_invariant.chain⟩
  simp only [List.mem_cons, List.mem_singleton, List.not_mem_nil, or_false, forall_eq_or_imp,
    forall_eq]
  exact ⟨⟨⟨rfl, by decide, by simp [shortTurn]⟩, ⟨_, _, rfl, by decide, by decide, by decide⟩,
      by decide⟩,
    ⟨⟨rfl, by decide, by simp [finalSliproad]⟩, ⟨_, _, rfl, by decide, by decide, by decide⟩,
      by decide⟩⟩

theorem collapseUseLane_coarsens_sliproadLeg :
    ∃ result, collapseUseLane sampleToolkit sliproadLeg = some result ∧
      GuidanceLeg sampleToolkit result ∧
      Coarsens (sliproadLeg.map RouteStep.segment) (result.map RouteStep.segment) :=
  collapseUseLane_coarsens sampleToolkit_lawful sliproadLeg_guidanceLeg

/-! ## `buildIntersections` -/

/-- The state of `buildIntersections` before `step_index = index`: a working list whose surviving
segments coarsen the input's, `last_valid_instruction` at a surviving step before `index` (at the
depart while `index = 0`) with only invalidated steps after it, and the steps from `index` on still
valid. The invalidated steps after it are only needed while a step is left to visit: a silent
arrive does not move `last_valid_instruction`. -/
structure BuildScan (tk : Toolkit) (input : List RouteStep) (index : Nat)
    (state : List RouteStep × Nat) : Prop where
  working : GuidanceWorking tk state.1
  length_eq : state.1.length = input.length
  coarsens : Coarsens (survivingSegments tk input) (survivingSegments tk state.1)
  last_lt : state.2 < index ∨ state.2 = 0 ∧ index = 0
  last_valid : ∃ step, state.1[state.2]? = some step ∧ notIsValid tk step = false
  removed : index < input.length → ∀ m step, state.2 < m → m < index → state.1[m]? = some step →
    notIsValid tk step = true
  ahead : ∀ m step, index ≤ m → state.1[m]? = some step → notIsValid tk step = false

theorem BuildScan.start {steps : List RouteStep} (leg : GuidanceLeg tk steps) :
    BuildScan tk steps 0 (steps, 0) := by
  obtain ⟨depart, at_zero, -, depart_valid⟩ := leg.working.depart
  exact ⟨leg.working, rfl, .refl, .inr ⟨rfl, rfl⟩, ⟨depart, at_zero, depart_valid⟩,
    fun _ _ _ _ upper => absurd upper (Nat.not_lt_zero _), fun _ _ _ at_m => leg.valid at_m⟩

/-- The state after visiting `index`, from what the visit changed: nothing after `index`. -/
theorem BuildScan.next {input steps next : List RouteStep} {index last : Nat}
    (ahead : ∀ m step, index ≤ m → steps[m]? = some step → notIsValid tk step = false)
    (agree : ∀ m, index < m → next[m]? = steps[m]?) (working : GuidanceWorking tk next)
    (length_eq : next.length = input.length)
    (coarsens : Coarsens (survivingSegments tk input) (survivingSegments tk next))
    (last_le : last ≤ index) (last_valid : ∃ step, next[last]? = some step ∧ notIsValid tk step = false)
    (removed : index + 1 < input.length → ∀ m step, last < m → m ≤ index → next[m]? = some step →
      notIsValid tk step = true) :
    BuildScan tk input (index + 1) (next, last) :=
  ⟨working, length_eq, coarsens, .inl (by omega), last_valid,
    fun inside m step lower upper => removed inside m step lower (by omega),
    fun m step lower at_m => ahead m step (by omega) (by rwa [← agree m (by omega)])⟩

theorem buildIntersectionsStep_scan (lawful : tk.Lawful) {input : List RouteStep} {index : Nat}
    {state : List RouteStep × Nat} (scan : BuildScan tk input index state)
    (inside : index < input.length) :
    ∃ next, buildIntersectionsStep tk state index = some next ∧
      BuildScan tk input (index + 1) next := by
  obtain ⟨steps, last⟩ := state
  obtain ⟨working, length_eq, coarsens, last_lt, ⟨lastStep, at_last, last_valid⟩, removed,
    ahead⟩ := scan
  dsimp only at *
  obtain ⟨step, at_step⟩ : ∃ step, steps[index]? = some step :=
    ⟨_, List.getElem?_eq_getElem (by omega)⟩
  have valid := ahead index step le_rfl at_step
  have depart_type : index = 0 → step.maneuver.instruction.type = .noTurn := by
    rintro rfl
    obtain ⟨depart, at_zero, depart_ok, -⟩ := working.depart
    rw [at_step, Option.some.injEq] at at_zero
    rw [at_zero, depart_ok.2]
    rfl
  by_cases suppressed : step.maneuver.instruction.type = .suppressed
  · have positive : 0 < index := Nat.pos_of_ne_zero fun zero => by
      rw [depart_type zero] at suppressed
      cases suppressed
    have before : last < index := by omega
    obtain ⟨middle, guided⟩ :=
      working.guided positive (by omega) at_step (by rw [suppressed]; decide)
    have between := removed inside
    have linked := working.linked before (by omega) at_last at_step last_valid guided.valid between
    have removed_invalid : notIsValid tk { step with maneuver.instruction := tk.noTurn } = true := by
      simp [notIsValid, guided.1.1]
    obtain ⟨merged, coarsening⟩ := working.absorb before middle at_last at_step last_valid
      (working.ok_of_valid (by omega) at_last last_valid) guided between removed_invalid
    refine ⟨_, by simp [buildIntersectionsStep, at_step, suppressed, before.ne, at_last],
      BuildScan.next ahead (fun m upper => ?_) merged (by simpa using length_eq)
        (coarsens.tail coarsening) before.le ⟨elongate lastStep step, ?_,
          (notIsValid_elongate linked).trans last_valid⟩ ?_⟩
    · rw [List.getElem?_set_ne (by omega), List.getElem?_set_ne (by omega)]
    · rw [List.getElem?_set_ne (by omega), List.getElem?_set_self (by omega)]
    · intro _ m other lower upper at_m
      rcases Nat.lt_or_eq_of_le upper with upper | rfl
      · rw [List.getElem?_set_ne (by omega), List.getElem?_set_ne (by omega)] at at_m
        exact between m other lower upper at_m
      · rw [List.getElem?_set_self (by simp; omega), Option.some.injEq] at at_m
        exact at_m ▸ removed_invalid
  · by_cases silent : tk.isSilent step.maneuver.instruction = true
    · refine ⟨_, by simp [buildIntersectionsStep, at_step, suppressed, silent],
        BuildScan.next ahead (fun _ _ => rfl) working length_eq coarsens (by omega)
          ⟨lastStep, at_last, last_valid⟩ fun outside m other lower upper at_m => ?_⟩
      rcases Nat.lt_or_eq_of_le upper with upper | rfl
      · exact removed inside m other lower upper at_m
      · rw [at_step, Option.some.injEq] at at_m
        subst at_m
        rcases working.middle m step (by omega) (by omega) at_step with invalid | guided
        · exact absurd invalid (by simp [valid])
        · rcases lawful.isSilent_type _ silent with type | type | type
          · exact absurd type guided.1.2.1
          · exact absurd type suppressed
          · exact absurd type guided.2.2
    · have announce : ∀ next, (∀ m, index < m → next[m]? = steps[m]?) →
          GuidanceWorking tk next → next.length = steps.length →
          Coarsens (survivingSegments tk input) (survivingSegments tk next) →
          (∃ announced, next[index]? = some announced ∧ notIsValid tk announced = false) →
          BuildScan tk input (index + 1) (next, index) :=
        fun next agree working length coarsens announced => BuildScan.next ahead agree working
          (length.trans length_eq) coarsens le_rfl announced fun _ m _ lower upper => by omega
      by_cases end_of_road : step.maneuver.instruction.type = .endOfRoad
      · have positive : 0 < index := Nat.pos_of_ne_zero fun zero => by
          rw [depart_type zero] at end_of_road
          cases end_of_road
        obtain ⟨middle, guided⟩ :=
          working.guided positive (by omega) at_step (by rw [end_of_road]; decide)
        by_cases few : lastStep.intersections.length < minEndOfRoadIntersections
        · have turn_valid : notIsValid tk { step with maneuver.instruction.type := .turn } =
              false := notIsValid_of_type (by simp)
          obtain ⟨relabelled, unchanged⟩ := working.relabel positive middle at_step valid (by rfl)
            turn_valid (guided.retype (by decide) (by decide))
          refine ⟨_, by simp [buildIntersectionsStep, at_step, suppressed, silent, end_of_road,
            at_last, few], announce _ (fun m upper => List.getElem?_set_ne (by omega)) relabelled
            (by simp) (by rw [unchanged]; exact coarsens)
            ⟨_, List.getElem?_set_self (by omega), turn_valid⟩⟩
        · exact ⟨_, by simp [buildIntersectionsStep, at_step, suppressed, silent, end_of_road,
            at_last, few], announce steps (fun _ _ => rfl) working rfl coarsens
            ⟨step, at_step, valid⟩⟩
      · exact ⟨_, by simp [buildIntersectionsStep, at_step, suppressed, silent, end_of_road],
          announce steps (fun _ _ => rfl) working rfl coarsens ⟨step, at_step, valid⟩⟩

/-- The run of `buildIntersections` on a guidance leg: `BuildScan` holds from every index to the
next. -/
theorem buildIntersections_guidanceLeg (lawful : tk.Lawful) {steps : List RouteStep}
    (leg : GuidanceLeg tk steps) :
    ∃ result, buildIntersections tk steps = some result ∧ GuidanceLeg tk result ∧
      Coarsens (steps.map RouteStep.segment) (result.map RouteStep.segment) := by
  obtain ⟨⟨final, last⟩, final_eq, scan⟩ := @foldlM_range'_of_step _ (BuildScan tk steps)
    (buildIntersectionsStep tk) 0 steps.length
    (fun _ _ _ upper scan => buildIntersectionsStep_scan lawful scan (by omega)) (steps, 0)
    (BuildScan.start leg)
  rw [← List.range_eq_range'] at final_eq
  exact ⟨_, by simp [buildIntersections, final_eq], leg.sweep scan.working scan.coarsens⟩

/-- `buildIntersections` maps a guidance leg to a guidance leg whose segments coarsen the
input's. -/
theorem buildIntersections_coarsens (lawful : tk.Lawful) {steps : List RouteStep}
    (leg : GuidanceLeg tk steps) :
    ∃ result, buildIntersections tk steps = some result ∧ GuidanceLeg tk result ∧
      Coarsens (steps.map RouteStep.segment) (result.map RouteStep.segment) :=
  buildIntersections_guidanceLeg lawful leg

theorem buildIntersections_coarsens_sliproadLeg :
    ∃ result, buildIntersections sampleToolkit sliproadLeg = some result ∧
      GuidanceLeg sampleToolkit result ∧
      Coarsens (sliproadLeg.map RouteStep.segment) (result.map RouteStep.segment) :=
  buildIntersections_coarsens sampleToolkit_lawful sliproadLeg_guidanceLeg

end Osrm.Engine.Guidance
