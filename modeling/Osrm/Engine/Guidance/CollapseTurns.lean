import Osrm.Engine.Guidance.Absorb

/-!
# `collapseTurns` on a guidance leg

Every rule of `collapseTurns` (`post_processing.cpp:727-964`) is a sequence of two moves on the
working list: `TurnsWorking.merge` folds a survivor into the survivor before it and invalidates it,
and `TurnsWorking.relabel` rewrites a survivor in the middle without changing its segment (its
type, direction modifier, signage or lanes). `TurnsMoves` is what any such sequence keeps: a
working list of the same length whose surviving segments coarsen those it started from. One lemma
per rule shows that the rule is such a sequence, `collapseTurnsStep_moves` dispatches on the rules,
and `collapseTurns_coarsens` runs the loop and the final sweep.

The name-change rule folds every step after `getPreviousNameIndex` into the step there, which is
the previous survivor only because every step the pass has invalidated is `getInvalidRouteStep()`,
whose name id is the empty one: `TurnsWorking` adds that to `GuidanceWorking`.
-/

namespace Osrm.Engine.Guidance

variable {tk : Toolkit}

/-- A working list of `collapseTurns`: every invalid step in it is `getInvalidRouteStep()`. -/
structure TurnsWorking (tk : Toolkit) (steps : List RouteStep) : Prop where
  working : GuidanceWorking tk steps
  invalidated : ∀ (m : Nat) (step : RouteStep), steps[m]? = some step →
    notIsValid tk step = true →
    step = invalidRouteStep tk

/-- `next` is `steps` after moves of `collapseTurns`: a working list of the same length whose
surviving segments coarsen those of `steps`. -/
structure TurnsMoves (tk : Toolkit) (steps next : List RouteStep) : Prop where
  working : TurnsWorking tk next
  length_eq : next.length = steps.length
  coarsens : Coarsens (survivingSegments tk steps) (survivingSegments tk next)

section Moves

variable {steps middle next : List RouteStep}

theorem TurnsMoves.refl (working : TurnsWorking tk steps) : TurnsMoves tk steps steps :=
  ⟨working, rfl, .refl⟩

theorem TurnsMoves.trans (first : TurnsMoves tk steps middle) (second : TurnsMoves tk middle next) :
    TurnsMoves tk steps next :=
  ⟨second.working, second.length_eq.trans first.length_eq, first.coarsens.trans second.coarsens⟩

theorem GuidanceLeg.turnsWorking (leg : GuidanceLeg tk steps) : TurnsWorking tk steps :=
  ⟨leg.working, fun _ _ at_m invalid => by simp [leg.valid at_m] at invalid⟩

/-- The kind of a survivor at position `i`: the depart at `0`, a guided step after it. -/
def SurvivorOk (tk : Toolkit) (i : Nat) (step : RouteStep) : Prop :=
  (i = 0 → DepartSentinel tk step) ∧ (0 < i → GuidedStep step)

theorem SurvivorOk.valid {i : Nat} {step : RouteStep} (ok : SurvivorOk tk i step) :
    notIsValid tk step = false := by
  rcases Nat.eq_zero_or_pos i with zero | positive
  · exact (ok.1 zero).valid
  · exact (ok.2 positive).valid

theorem SurvivorOk.elongate {i : Nat} {first second : RouteStep} (ok : SurvivorOk tk i first)
    (linked : first.segment.Linked second.segment) : SurvivorOk tk i (elongate first second) :=
  ⟨fun zero => (ok.1 zero).elongate linked, fun positive => (ok.2 positive).elongate linked⟩

theorem GuidedStep.survivorOk {i : Nat} {step : RouteStep} (guided : GuidedStep step)
    (positive : 0 < i) : SurvivorOk tk i step :=
  ⟨fun zero => absurd zero (by omega), fun _ => guided⟩

/-- A survivor takes over the next survivor, which becomes `getInvalidRouteStep()`. -/
theorem TurnsWorking.merge (lawful : tk.Lawful) (working : TurnsWorking tk steps) {i j : Nat}
    (hij : i < j) (hj : j + 1 < steps.length) {first second merged : RouteStep}
    (first_at : steps[i]? = some first) (second_at : steps[j]? = some second)
    (first_ok : SurvivorOk tk i first) (second_ok : GuidedStep second)
    (between : ∀ m step, i < m → m < j → steps[m]? = some step → notIsValid tk step = true)
    (joined : merged.segment = first.segment.join second.segment)
    (merged_ok : SurvivorOk tk i merged) :
    TurnsMoves tk steps ((steps.set i merged).set j (invalidRouteStep tk)) := by
  obtain ⟨moved, coarsening⟩ := working.working.merge hij hj first_at second_at first_ok.valid
    second_ok.valid between joined merged_ok.valid merged_ok (notIsValid_invalidRouteStep lawful)
  refine ⟨⟨moved, fun m step at_m invalid => ?_⟩, by simp, .single coarsening⟩
  rw [List.getElem?_set] at at_m
  split_ifs at at_m with mj
  · exact (Option.some.inj at_m).symm
  · rw [List.getElem?_set] at at_m
    split_ifs at at_m with mi
    · cases at_m
      simp [merged_ok.valid] at invalid
    · exact working.invalidated m step at_m invalid

/-- A survivor in the middle rewritten without changing its segment. -/
theorem TurnsWorking.relabel (working : TurnsWorking tk steps) {i : Nat} (positive : 0 < i)
    (hi : i + 1 < steps.length) {step relabelled : RouteStep} (at_i : steps[i]? = some step)
    (valid : notIsValid tk step = false) (same : relabelled.segment = step.segment)
    (ok : GuidedStep relabelled) : TurnsMoves tk steps (steps.set i relabelled) := by
  obtain ⟨moved, unchanged⟩ := working.working.relabel positive hi at_i valid same ok.valid ok
  refine ⟨⟨moved, fun m other at_m invalid => ?_⟩, by simp, unchanged ▸ .refl⟩
  rw [List.getElem?_set] at at_m
  split_ifs at at_m with mi
  · cases at_m
    simp [ok.valid] at invalid
  · exact working.invalidated m other at_m invalid

/-- A step of a working list that is not `NoTurn` and not the depart is a guided middle step. -/
theorem TurnsWorking.guided (working : TurnsWorking tk steps) {index : Nat} {step : RouteStep}
    (positive : 0 < index) (inside : index < steps.length) (at_index : steps[index]? = some step)
    (type : step.maneuver.instruction.type ≠ .noTurn) :
    index + 1 < steps.length ∧ GuidedStep step :=
  working.working.guided positive inside at_index type

/-- `step` stands at `previous`, the survivor before `index`: only invalidated steps lie between. -/
structure PreviousAt (tk : Toolkit) (steps : List RouteStep) (previous index : Nat) (step : RouteStep) :
    Prop where
  below : previous < index
  at_previous : steps[previous]? = some step
  ok : SurvivorOk tk previous step
  between : ∀ m other, previous < m → m < index → steps[m]? = some other →
    notIsValid tk other = true

/-- `getPreviousIndex` on a working list of `collapseTurns`. -/
theorem TurnsWorking.previous (working : TurnsWorking tk steps) {index : Nat} (positive : 0 < index)
    (inside : index < steps.length) :
    ∃ previous step, getPreviousIndex steps index = some previous ∧
      PreviousAt tk steps previous index step := by
  obtain ⟨previous, step, found, below, at_previous, -, depart_ok, middle_ok, between⟩ :=
    working.working.previous (fun _ guided => guided.1.2.1) positive inside
  exact ⟨previous, step, found, below, at_previous, ⟨depart_ok, middle_ok⟩, between⟩

/-- The survivor before `index` folded into the one before it by `elongate`. -/
theorem TurnsWorking.elongate (lawful : tk.Lawful) (working : TurnsWorking tk steps) {i j : Nat}
    {first second : RouteStep} (previous : PreviousAt tk steps i j first) (hj : j + 1 < steps.length)
    (second_at : steps[j]? = some second) (second_ok : GuidedStep second) :
    TurnsMoves tk steps ((steps.set i (elongate first second)).set j (invalidRouteStep tk)) := by
  have linked := working.working.linked previous.below (by omega) previous.at_previous second_at
    previous.ok.valid second_ok.valid previous.between
  exact working.merge lawful previous.below hj previous.at_previous second_at previous.ok second_ok
    previous.between (segment_elongate linked) (previous.ok.elongate linked)

/-- A survivor in the middle of the result of some moves, rewritten without changing its
segment. -/
theorem TurnsMoves.relabel (moves : TurnsMoves tk steps next) {i : Nat} (positive : 0 < i)
    (hi : i + 1 < steps.length) {step relabelled : RouteStep} (at_i : next[i]? = some step)
    (guided : GuidedStep step) (same : relabelled.segment = step.segment)
    (ok : GuidedStep relabelled) : TurnsMoves tk steps (next.set i relabelled) :=
  moves.trans (moves.working.relabel positive (moves.length_eq ▸ hi) at_i guided.valid same ok)

theorem PreviousAt.set_of_le {i j k : Nat} {step : RouteStep} (previous : PreviousAt tk steps i j step)
    (above : j ≤ k) (value : RouteStep) : PreviousAt tk (steps.set k value) i j step where
  below := previous.below
  at_previous := by
    rw [List.getElem?_set_ne (by have := previous.below; omega)]
    exact previous.at_previous
  ok := previous.ok
  between m other lower upper at_m :=
    previous.between m other lower upper (by rwa [List.getElem?_set_ne (by omega)] at at_m)

/-- After a merge of `j` into `i`, nothing survives between `i` and any later `k` with nothing
surviving between `j` and `k`. -/
theorem between_merge (lawful : tk.Lawful) {i j k : Nat}
    (first : ∀ m step, i < m → m < j → steps[m]? = some step → notIsValid tk step = true)
    (second : ∀ m step, j < m → m < k → steps[m]? = some step → notIsValid tk step = true)
    (merged : RouteStep) :
    ∀ m step, i < m → m < k → ((steps.set i merged).set j (invalidRouteStep tk))[m]? = some step →
      notIsValid tk step = true := by
  intro m step lower upper at_m
  rw [List.getElem?_set] at at_m
  split_ifs at at_m with mj
  · cases at_m
    exact notIsValid_invalidRouteStep lawful
  · rw [List.getElem?_set_ne (by omega)] at at_m
    rcases Nat.lt_or_gt_of_ne (Ne.symm mj) with below | above
    · exact first m step lower below at_m
    · exact second m step above upper at_m

/-- After the survivor at `j` is folded into the one at `i`, the merged step stands before every
later `k` with nothing surviving between `j` and `k`. -/
theorem PreviousAt.elongated (lawful : tk.Lawful) (working : TurnsWorking tk steps) {i j k : Nat}
    {first second : RouteStep} (previous : PreviousAt tk steps i j first) (hj : j < steps.length)
    (second_at : steps[j]? = some second) (second_ok : GuidedStep second) (above : j < k)
    (second_between : ∀ m step, j < m → m < k → steps[m]? = some step →
      notIsValid tk step = true) :
    PreviousAt tk ((steps.set i (elongate first second)).set j (invalidRouteStep tk)) i k
      (elongate first second) where
  below := previous.below.trans above
  at_previous := by
    rw [List.getElem?_set_ne previous.below.ne', List.getElem?_set_self (previous.below.trans hj)]
  ok := previous.ok.elongate (working.working.linked previous.below hj previous.at_previous
    second_at previous.ok.valid second_ok.valid previous.between)
  between := between_merge lawful previous.between second_between _

end Moves

/-! ## The reads of the rules -/

section Reads

variable {step previous : RouteStep}

/-- A read that succeeds, followed by a step that succeeds for every value read. -/
theorem exists_bind_of_some {α β : Type} {x : Option α} {f : α → Option β} {p : β → Prop}
    (read : ∃ a, x = some a) (rest : ∀ a, ∃ b, f a = some b ∧ p b) :
    ∃ b, x.bind f = some b ∧ p b := by
  obtain ⟨a, rfl⟩ := read
  exact rest a

/-- Both branches of a test succeed, each under its outcome. -/
theorem exists_ite_of_cases {α : Type} {P : Prop} [Decidable P] {x y : Option α} {p : α → Prop}
    (pos : P → ∃ a, x = some a ∧ p a) (neg : ¬P → ∃ a, y = some a ∧ p a) :
    ∃ a, (if P then x else y) = some a ∧ p a := by
  split
  exacts [pos ‹_›, neg ‹_›]

/-- Both branches of a test succeed. The rules are dispatched with this lemma, `exists_ite_of_cases`
and `exists_bind_of_some` along their `if` trees: `split` on the unfolded rules, whose `do` blocks
copy every continuation into each branch, is slow. -/
theorem exists_ite_of_some {α : Type} {P : Prop} [Decidable P] {x y : Option α} {p : α → Prop}
    (pos : ∃ a, x = some a ∧ p a) (neg : ∃ a, y = some a ∧ p a) :
    ∃ a, (if P then x else y) = some a ∧ p a :=
  exists_ite_of_cases (fun _ => pos) (fun _ => neg)

theorem FrontReadable.frontBearing_some (readable : FrontReadable step) (entering : Bool) :
    ∃ bearing, frontBearing entering step = some bearing := by
  obtain ⟨front, rest, front_eq, inside_in, inside_out, -⟩ := readable
  refine Option.isSome_iff_exists.mp ?_
  cases entering <;> simp [frontBearing, front_eq, inside_in, inside_out]

theorem GuidedStep.choiceless_some (guided : GuidedStep step) (previous : RouteStep) :
    ∃ without, choiceless step previous = some without := by
  obtain ⟨front, rest, front_eq, -⟩ := guided.2.1
  refine Option.isSome_iff_exists.mp ?_
  unfold choiceless
  split <;> simp [front_eq]

theorem GuidedStep.collapsable_some (guided : GuidedStep step) (next_guided : GuidedStep previous) :
    ∃ collapse, collapsable step previous = some collapse := by
  obtain ⟨front, rest, front_eq, -⟩ := guided.2.1
  obtain ⟨next, rest', next_eq, -⟩ := next_guided.2.1
  exact Option.isSome_iff_exists.mp (by simp [collapsable, front_eq, next_eq])

theorem GuidedStep.frontBearingCount_some (guided : GuidedStep step) :
    ∃ count, frontBearingCount step = some count := by
  obtain ⟨front, rest, front_eq, -⟩ := guided.2.1
  exact Option.isSome_iff_exists.mp (by simp [frontBearingCount, front_eq])

theorem GuidedStep.frontTurnAngle_some (guided : GuidedStep step) :
    ∃ angle, frontTurnAngle step = some angle := by
  obtain ⟨entry, entry_eq⟩ := guided.2.1.frontBearing_some true
  obtain ⟨exit, exit_eq⟩ := guided.2.1.frontBearing_some false
  exact Option.isSome_iff_exists.mp (by simp [frontTurnAngle, entry_eq, exit_eq])

theorem GuidedStep.isStaggeredIntersection_some (guided : GuidedStep previous)
    (current : GuidedStep step) :
    ∃ staggered, isStaggeredIntersection previous step = some staggered := by
  obtain ⟨angle, angle_eq⟩ := guided.frontTurnAngle_some
  obtain ⟨angle', angle_eq'⟩ := current.frontTurnAngle_some
  refine Option.isSome_iff_exists.mp ?_
  simp only [isStaggeredIntersection, angle_eq, angle_eq', Option.pure_def, Option.bind_eq_bind,
    Option.some_bind, Option.map_eq_map, Option.map_some']
  split <;> split <;> simp

theorem nameSegmentLength_some (tk : Toolkit) {steps : List RouteStep} {index : Nat}
    (inside : index < steps.length) : ∃ length, nameSegmentLength tk index steps = some length :=
  Option.isSome_iff_exists.mp (by simp [nameSegmentLength, inside])

theorem skipEmptyName_spec (tk : Toolkit) (steps : List RouteStep) : ∀ index, index < steps.length →
    ∃ previous, skipEmptyName tk steps index = some previous ∧ previous ≤ index ∧
      (0 < previous → ∃ step, steps[previous]? = some step ∧ step.nameId ≠ tk.emptyNameId)
  | 0, _ => ⟨0, rfl, le_refl _, by omega⟩
  | index + 1, inside => by
    obtain ⟨step, at_step⟩ : ∃ step, steps[index + 1]? = some step :=
      ⟨_, List.getElem?_eq_getElem inside⟩
    by_cases empty : step.nameId = tk.emptyNameId
    · obtain ⟨previous, skip, below, found⟩ := skipEmptyName_spec tk steps index (by omega)
      exact ⟨previous, by simp [skipEmptyName, at_step, empty, skip], by omega, found⟩
    · exact ⟨index + 1, by simp [skipEmptyName, at_step, empty], le_refl _,
        fun _ => ⟨step, at_step, empty⟩⟩

theorem canCollapseAllFrom_spec (steps : List RouteStep) (endIndex : Nat)
    (inside : endIndex ≤ steps.length) : ∀ count index, index + count = endIndex →
    ∃ all, canCollapseAllFrom steps endIndex index count = some all ∧
      (all = true → ∀ k step, index ≤ k → k < endIndex → steps[k]? = some step →
        step.maneuver.instruction.type = .suppressed ∨ step.maneuver.instruction.type = .newName)
  | 0, index, reach => ⟨true, rfl, fun _ k _ lower upper => absurd upper (by omega)⟩
  | count + 1, index, reach => by
    obtain ⟨step, at_step⟩ : ∃ step, steps[index]? = some step :=
      ⟨_, List.getElem?_eq_getElem (by omega)⟩
    by_cases kind : step.maneuver.instruction.type ≠ .suppressed ∧
      step.maneuver.instruction.type ≠ .newName
    · exact ⟨false, by simp only [canCollapseAllFrom, at_step, Option.some_bind, Option.bind_eq_bind, if_pos kind, Option.pure_def], by simp⟩
    obtain ⟨all, all_eq, all_ok⟩ := canCollapseAllFrom_spec steps endIndex inside count (index + 1)
      (by omega)
    have covers : all = true → ∀ k other, index ≤ k → k < endIndex → steps[k]? = some other →
        other.maneuver.instruction.type = .suppressed ∨
          other.maneuver.instruction.type = .newName := by
      intro all_true k other lower upper at_k
      rcases Nat.lt_or_eq_of_le lower with lower | rfl
      · exact all_ok all_true k other lower upper at_k
      · rw [at_step] at at_k
        cases at_k
        tauto
    by_cases more : index + 1 < endIndex
    · obtain ⟨next, at_next⟩ : ∃ next, steps[index + 1]? = some next :=
        ⟨_, List.getElem?_eq_getElem (by omega)⟩
      cases compat : compatible step next
      · exact ⟨false, by simp only [canCollapseAllFrom, at_step, Option.some_bind, Option.bind_eq_bind, if_neg kind, if_pos more, at_next, compat, Option.pure_def]; rfl, by simp⟩
      · exact ⟨all, by simp only [canCollapseAllFrom, at_step, Option.some_bind, Option.bind_eq_bind, if_neg kind, if_pos more, at_next, compat, all_eq]; rfl, covers⟩
    · exact ⟨all, by simp only [canCollapseAllFrom, at_step, Option.some_bind, Option.bind_eq_bind, if_neg kind, if_neg more, all_eq], covers⟩

/-- `getPreviousNameIndex` on a working list finds a survivor: the depart, or a step with a name,
which no invalidated step has. -/
theorem TurnsWorking.previousName (lawful : tk.Lawful) (working : TurnsWorking tk steps)
    {index : Nat} (positive : 0 < index) (inside : index + 1 < steps.length) :
    ∃ nameIndex nameStep, getPreviousNameIndex tk steps index = some nameIndex ∧
      nameIndex < index ∧ steps[nameIndex]? = some nameStep ∧ SurvivorOk tk nameIndex nameStep := by
  obtain ⟨previous, skip, below, found⟩ := skipEmptyName_spec tk steps (index - 1) (by omega)
  have previous_inside : previous + 1 < steps.length := by omega
  have previous_below : previous < index := by omega
  have found_eq : getPreviousNameIndex tk steps index = some previous := by
    simp [getPreviousNameIndex, Nat.pos_iff_ne_zero.mp positive, skip]
  rcases Nat.eq_zero_or_pos previous with zero | named
  · subst zero
    obtain ⟨depart, at_zero, depart_ok, -⟩ := working.working.depart
    exact ⟨0, depart, found_eq, positive, at_zero, fun _ => depart_ok, fun zero => absurd zero (lt_irrefl 0)⟩
  · obtain ⟨step, at_previous, name⟩ := found named
    have valid : notIsValid tk step = false := by
      cases invalid : notIsValid tk step
      · rfl
      · rw [working.invalidated previous step at_previous invalid] at name
        exact absurd lawful.emptyNameId_eq.symm name
    have guided := (working.working.middle previous step named previous_inside at_previous).resolve_left
      (by simp [valid])
    exact ⟨previous, step, found_eq, previous_below, at_previous, guided.survivorOk named⟩

end Reads

/-! ## One iteration's steps -/

/-- What one iteration of `collapseTurns` looks at: a guided step at `stepIndex` before the arrive
and the previous survivor at `oneBackIndex`. -/
structure TurnAt (tk : Toolkit) (steps : List RouteStep) (oneBackIndex stepIndex : Nat)
    (oneBack current : RouteStep) extends PreviousAt tk steps oneBackIndex stepIndex oneBack :
    Prop where
  inside : stepIndex + 1 < steps.length
  current_at : steps[stepIndex]? = some current
  current_ok : GuidedStep current

section TurnAt

variable {steps : List RouteStep} {oneBackIndex stepIndex : Nat} {oneBack current : RouteStep}

theorem TurnAt.linked (working : TurnsWorking tk steps)
    (turn : TurnAt tk steps oneBackIndex stepIndex oneBack current) :
    oneBack.segment.Linked current.segment :=
  working.working.linked turn.below (by have := turn.inside; omega) turn.at_previous turn.current_at
    turn.ok.valid turn.current_ok.valid turn.between

theorem TurnAt.ends (working : TurnsWorking tk steps)
    (turn : TurnAt tk steps oneBackIndex stepIndex oneBack current) :
    oneBack.geometryEnd = current.geometryBegin + 1 :=
  (turn.linked working).symm

/-- The current step folded into the previous survivor. -/
theorem TurnAt.merge (lawful : tk.Lawful) (working : TurnsWorking tk steps)
    (turn : TurnAt tk steps oneBackIndex stepIndex oneBack current) {merged : RouteStep}
    (joined : merged.segment = oneBack.segment.join current.segment)
    (merged_ok : SurvivorOk tk oneBackIndex merged) :
    TurnsMoves tk steps ((steps.set oneBackIndex merged).set stepIndex (invalidRouteStep tk)) :=
  working.merge lawful turn.below turn.inside turn.at_previous turn.current_at turn.ok
    turn.current_ok turn.between joined merged_ok

/-- A previous survivor that is not `NoTurn` is not the depart. -/
theorem TurnAt.oneBack_positive (turn : TurnAt tk steps oneBackIndex stepIndex oneBack current)
    (type : oneBack.maneuver.instruction.type ≠ .noTurn) : 0 < oneBackIndex :=
  Nat.pos_of_ne_zero fun zero => type (by rw [(turn.ok.1 zero).2]; rfl)

end TurnAt

/-! ## The rules -/

section Rules

variable {steps : List RouteStep} {oneBackIndex stepIndex : Nat} {oneBack current : RouteStep}

/-- The sliproad rules: a suppressed step is folded into the sliproad before it; a compatible step
is folded into it, which becomes a turn or a continue with that step's signage and lanes; an
incompatible one makes it a turn. -/
theorem collapseSliproad_moves (lawful : tk.Lawful) (working : TurnsWorking tk steps)
    (turn : TurnAt tk steps oneBackIndex stepIndex oneBack current)
    (sliproad : oneBack.maneuver.instruction.type = .sliproad) :
    ∃ next, collapseSliproad tk steps oneBackIndex stepIndex = some next ∧
      TurnsMoves tk steps next := by
  have positive := turn.oneBack_positive (by rw [sliproad]; decide)
  have guided := turn.ok.2 positive
  have below := turn.below
  have inside := turn.inside
  simp only [collapseSliproad, turn.current_at, turn.at_previous, Option.some_bind,
    Option.bind_eq_bind, Option.pure_def]
  by_cases suppressed : current.maneuver.instruction.type = .suppressed ∧
    compatible oneBack current = true
  · rw [if_pos suppressed]
    exact ⟨_, rfl, working.elongate lawful turn.toPreviousAt inside turn.current_at turn.current_ok⟩
  rw [if_neg suppressed]
  by_cases compatible : compatible oneBack current = true
  · rw [if_pos compatible]
    obtain ⟨previous, previousStep, previous_eq, ⟨-, previous_at, -⟩⟩ :=
      working.previous positive (by omega)
    obtain ⟨front, rest, front_eq, front_in, front_out, -⟩ := guided.2.1
    obtain ⟨currentFront, currentRest, current_eq, -, -, current_lanes⟩ := turn.current_ok.2.1
    obtain ⟨exitBearing, exit_eq⟩ := turn.current_ok.2.1.frontBearing_some false
    have ends := turn.ends working
    simp only [previous_eq, previous_at, Option.some_bind, current_eq, List.head?_cons]
    generalize retyped : (if (!isNoticeableNameChange tk previousStep current) = true then
      TurnType.continue else TurnType.turn) = type
    have type_ok : type ≠ .noTurn ∧ type ≠ .stayOnRoundabout := by
      rw [← retyped]
      split <;> decide
    simp (disch := exact ends) only [intersections_forwardStepSignage, intersections_elongate,
      front_eq, List.cons_append, exit_eq, Option.some_bind]
    simp only [frontBearing, List.head?_cons, Option.bind_eq_bind, Option.some_bind,
      List.getElem?_eq_getElem front_in, Option.pure_def, if_true]
    refine ⟨_, rfl, turn.merge lawful working ?_ (GuidedStep.survivorOk ?_ positive)⟩
    · simp [RouteStep.segment, Segment.join, forwardStepSignage, elongate, ends, front_eq,
        Intersection.withoutLanes]
    · refine ⟨⟨?_, ?_, by simp⟩, ⟨_, _, rfl, front_in, front_out, current_lanes⟩, ?_⟩ <;>
        simp (disch := exact ends) [maneuver_elongate, guided.1.1, type_ok]
  · rw [if_neg compatible]
    exact ⟨_, rfl, working.relabel positive (by omega) turn.at_previous turn.ok.valid rfl
      (guided.retype (by decide) (by decide))⟩

theorem retypeAfterNewName_some (tk : Toolkit) (guided : GuidedStep current) (oneBack_guided : GuidedStep oneBack) :
    ∃ retyped, retypeAfterNewName tk current oneBack = some retyped ∧
      retyped.segment = current.segment ∧ GuidedStep retyped := by
  obtain ⟨count, count_eq⟩ := oneBack_guided.frontBearingCount_some
  have turned : GuidedStep { current with maneuver.instruction.type := .turn } :=
    guided.retype (by decide) (by decide)
  simp only [retypeAfterNewName, count_eq, Option.pure_def, Option.bind_eq_bind, Option.some_bind]
  repeat' split
  all_goals first
    | exact ⟨_, rfl, rfl, turned⟩
    | exact ⟨_, rfl, rfl, guided⟩

/-- The "Very Short New Name" rule: the current step is retyped, and the step before it is
folded into the survivor two back. -/
theorem collapseShortNewName_moves (lawful : tk.Lawful) (working : TurnsWorking tk steps)
    (turn : TurnAt tk steps oneBackIndex stepIndex oneBack current) (positive : 0 < oneBackIndex)
    {twoBackIndex : Nat} {twoBack : RouteStep}
    (two : PreviousAt tk steps twoBackIndex oneBackIndex twoBack) :
    ∃ next, collapseShortNewName tk steps twoBackIndex oneBackIndex stepIndex current oneBack =
      some next ∧ TurnsMoves tk steps next := by
  have guided := turn.ok.2 positive
  have below := turn.below
  have inside := turn.inside
  simp only [collapseShortNewName, two.at_previous, Option.some_bind, Option.bind_eq_bind]
  split_ifs
  · obtain ⟨retyped, retyped_eq, same, retyped_ok⟩ := retypeAfterNewName_some tk turn.current_ok guided
    have relabelled := working.relabel (by omega) inside turn.current_at turn.current_ok.valid same
      retyped_ok
    simp only [retyped_eq, Option.some_bind, List.getElem?_set_ne (show stepIndex ≠ twoBackIndex by
      have := two.below; omega), List.getElem?_set_ne (show stepIndex ≠ oneBackIndex by omega),
      two.at_previous, turn.at_previous, Option.pure_def]
    exact ⟨_, rfl, relabelled.trans (relabelled.working.elongate lawful
      (two.set_of_le below.le retyped) (by simp; omega)
      (by rw [List.getElem?_set_ne (by omega)]; exact turn.at_previous) guided)⟩
  · exact ⟨_, rfl, .refl working⟩

theorem retypeShortSegment_some (tk : Toolkit) (guided : GuidedStep oneBack)
    (current_ok : GuidedStep current) (renamed : Bool) :
    ∃ retyped, retypeShortSegment tk oneBack current (some renamed) = some retyped ∧
      retyped.segment = oneBack.segment ∧ GuidedStep retyped := by
  obtain ⟨bearingIn, in_eq⟩ := guided.2.1.frontBearing_some true
  obtain ⟨bearingOut, out_eq⟩ := current_ok.2.1.frontBearing_some false
  have continued : frontBearing true { oneBack with maneuver.instruction.type := .continue } =
    some bearingIn := in_eq
  have retyped : ∀ instruction : TurnInstruction,
      instruction.type = oneBack.maneuver.instruction.type ∨ instruction.type = .turn ∨
        instruction.type = .continue →
      ∃ retyped, some { oneBack with maneuver.instruction := instruction } = some retyped ∧
        retyped.segment = oneBack.segment ∧ GuidedStep retyped := by
    rintro instruction (same | same | same) <;> exact ⟨_, rfl, rfl,
      guided.reshape rfl rfl (by simp [same, guided.1.2.1]) (by simp [same, guided.2.2])⟩
  dsimp only [retypeShortSegment]
  by_cases toTurn : oneBack.maneuver.instruction.type = .continue ∨
    oneBack.maneuver.instruction.type = .suppressed
  · have not_turn : oneBack.maneuver.instruction.type ≠ .turn := by
      rcases toTurn with same | same <;> simp [same]
    simp only [if_pos toTurn, if_neg not_turn]
    cases renamed <;> simp only [Option.bind_eq_bind, Option.some_bind, Option.pure_def,
      Bool.false_eq_true, if_false, if_true]
    · split
      · exact retyped _ (.inl rfl)
      · exact ⟨_, rfl, rfl, guided⟩
    · exact retyped _ (.inr (.inl rfl))
  · simp only [if_neg toTurn]
    by_cases toContinue : oneBack.maneuver.instruction.type = .turn
    · simp only [if_pos toContinue]
      cases renamed <;> simp only [Option.bind_eq_bind, Option.some_bind, Option.pure_def,
        Functor.map, Option.map_some', Bool.not_false, Bool.not_true, Bool.false_eq_true, if_false,
        if_true, continued, out_eq]
      · split
        · exact retyped _ (.inr (.inr rfl))
        · exact retyped _ (.inr (.inr rfl))
      · split
        · exact retyped _ (.inl rfl)
        · exact ⟨_, rfl, rfl, guided⟩
    · simp only [if_neg toContinue]
      simp only [Option.bind_eq_bind, Option.some_bind, Option.pure_def, Bool.false_eq_true, if_false]
      split
      · exact retyped _ (.inl rfl)
      · exact ⟨_, rfl, rfl, guided⟩

/-- The "very short segment after turn" rule: the current step is folded into the step before,
which is retyped and takes its signage. -/
theorem collapseShortSegment_moves (lawful : tk.Lawful) (working : TurnsWorking tk steps)
    (turn : TurnAt tk steps oneBackIndex stepIndex oneBack current) (positive : 0 < oneBackIndex)
    {twoBackIndex : Nat} {twoBack : RouteStep} (two_at : steps[twoBackIndex]? = some twoBack)
    (two_below : twoBackIndex < oneBackIndex) :
    ∃ next, collapseShortSegment tk steps twoBackIndex oneBackIndex stepIndex current oneBack =
      some next ∧ TurnsMoves tk steps next := by
  have linked := turn.linked working
  have below := turn.below
  have inside := turn.inside
  obtain ⟨retyped, retyped_eq, same, retyped_ok⟩ := retypeShortSegment_some tk
    ((turn.ok.2 positive).elongate linked) turn.current_ok (isNoticeableNameChange tk twoBack current)
  unfold collapseShortSegment
  split_ifs
  · simp only [List.getElem?_set_self (show oneBackIndex < steps.length by omega),
      List.getElem?_set_ne (show oneBackIndex ≠ twoBackIndex by omega), two_at, Option.some_bind,
      Option.bind_eq_bind, Option.pure_def, retyped_eq, List.set_set]
    exact ⟨_, rfl, turn.merge lawful working (same.trans (segment_elongate linked))
      ((retyped_ok.forwardStepSignage current).survivorOk positive)⟩
  · exact ⟨_, rfl, .refl working⟩

/-- The "Potential U-Turn" rule: the current step, and the next one when it only changes the name
back, are folded into the step before, which becomes a u-turn with the signage of the survivor two
back. -/
theorem collapseUTurn_moves (lawful : tk.Lawful) (working : TurnsWorking tk steps)
    (turn : TurnAt tk steps oneBackIndex stepIndex oneBack current) (positive : 0 < oneBackIndex)
    {twoBackIndex : Nat} {twoBack : RouteStep} (two_at : steps[twoBackIndex]? = some twoBack)
    (two_below : twoBackIndex < oneBackIndex) :
    ∃ next, collapseUTurn tk steps twoBackIndex oneBackIndex stepIndex current oneBack = some next ∧
      TurnsMoves tk steps next := by
  have guided := turn.ok.2 positive
  have below := turn.below
  have inside := turn.inside
  have linked := turn.linked working
  have elongated := guided.elongate linked
  have folded := working.elongate lawful turn.toPreviousAt inside turn.current_at turn.current_ok
  have folded_at : ((steps.set oneBackIndex (elongate oneBack current)).set stepIndex
      (invalidRouteStep tk))[oneBackIndex]? = some (elongate oneBack current) := by
    rw [List.getElem?_set_ne (by omega), List.getElem?_set_self (by omega)]
  obtain ⟨nextStep, next_at⟩ : ∃ nextStep, steps[stepIndex + 1]? = some nextStep :=
    ⟨_, List.getElem?_eq_getElem (by omega)⟩
  simp only [collapseUTurn, two_at, Option.some_bind, Option.bind_eq_bind, Option.pure_def,
    if_pos (show stepIndex + 1 < steps.length by omega), next_at]
  generalize (!isNoticeableNameChange tk twoBack current) = direct
  generalize named_eq : ((decide (nextStep.maneuver.instruction.type = TurnType.useLane) ||
    isCollapsableInstruction nextStep.maneuver.instruction) &&
      !isNoticeableNameChange tk twoBack nextStep) = named
  have relabel_folded : ∀ relabelled : RouteStep,
      relabelled.segment = (elongate oneBack current).segment → GuidedStep relabelled →
      TurnsMoves tk steps (((steps.set oneBackIndex (elongate oneBack current)).set stepIndex
        (invalidRouteStep tk)).set oneBackIndex relabelled) :=
    fun _ same ok => folded.relabel positive (by omega) folded_at elongated same ok
  have named_type : named = true → nextStep.maneuver.instruction.type ≠ .noTurn := by
    rintro rfl noTurn
    simp [noTurn, isCollapsableInstruction] at named_eq
  have relabel_twice : named = true → ∀ relabelled : RouteStep,
      relabelled.segment = (elongate (elongate oneBack current) nextStep).segment →
      relabelled.maneuver.waypointType =
        (elongate (elongate oneBack current) nextStep).maneuver.waypointType →
      relabelled.intersections = (elongate (elongate oneBack current) nextStep).intersections →
      relabelled.maneuver.instruction.type = .continue →
      TurnsMoves tk steps (((((steps.set oneBackIndex (elongate oneBack current)).set stepIndex
        (invalidRouteStep tk)).set oneBackIndex (elongate (elongate oneBack current) nextStep)).set
          (stepIndex + 1) (invalidRouteStep tk)).set oneBackIndex relabelled) := by
    intro named_true relabelled same waypoint intersections continued
    obtain ⟨next_inside, next_guided⟩ :=
      working.guided (by omega) (by omega) next_at (named_type named_true)
    have twice := folded.trans (folded.working.elongate (j := stepIndex + 1) lawful
      ⟨by omega, folded_at, turn.ok.elongate linked, between_merge lawful turn.between
        (fun _ _ lower upper => absurd upper (by omega)) _⟩ (by simpa using next_inside)
      (by rw [List.getElem?_set_ne (by omega), List.getElem?_set_ne (by omega)]; exact next_at)
      next_guided)
    have next_linked := working.working.linked (Nat.lt_succ_self stepIndex) (by omega)
      turn.current_at next_at turn.current_ok.valid next_guided.valid
      (fun _ _ lower upper => absurd upper (by omega))
    have twice_guided := elongated.elongate (linked_elongate linked next_linked)
    refine twice.relabel positive (by omega) ?_ twice_guided same
      (twice_guided.reshape waypoint intersections (by simp [continued]) (by simp [continued]))
    rw [List.getElem?_set_ne (by omega), List.getElem?_set_self (by simp; omega)]
  cases direct <;> cases named <;> simp only [Bool.false_eq_true, or_self, or_false, false_or,
    true_or, or_true, if_true, if_false]
  · exact ⟨_, rfl, .refl working⟩
  all_goals simp (disch := first | omega | (simp only [List.length_set]; omega)) only
    [List.getElem?_set_ne, List.getElem?_set_self, List.length_set, next_at, two_at,
      turn.at_previous, Option.some_bind, List.set_set]
  · split_ifs
    · exact ⟨_, rfl, relabel_twice rfl _ rfl rfl rfl rfl⟩
    · exact ⟨_, rfl, relabel_folded _ rfl (elongated.reshape rfl rfl (by simp) (by simp))⟩
  · exact ⟨_, rfl, relabel_folded _ rfl (elongated.reshape rfl rfl (by simp) (by simp))⟩
  · split_ifs
    · exact ⟨_, rfl, relabel_twice rfl _ rfl rfl rfl rfl⟩
    · exact ⟨_, rfl, relabel_folded _ rfl (elongated.reshape rfl rfl (by simp) (by simp))⟩

/-- `collapseTurnAt`: its three rules, each a sequence of moves, or no change. -/
theorem collapseTurnAt_moves (lawful : tk.Lawful) (working : TurnsWorking tk steps)
    (turn : TurnAt tk steps oneBackIndex stepIndex oneBack current) (positive : 0 < oneBackIndex)
    {twoBackIndex : Nat} {twoBack : RouteStep}
    (two : PreviousAt tk steps twoBackIndex oneBackIndex twoBack) :
    ∃ next, collapseTurnAt tk steps twoBackIndex oneBackIndex stepIndex = some next ∧
      TurnsMoves tk steps next := by
  have guided := turn.ok.2 positive
  obtain ⟨collapse, collapse_eq⟩ := guided.collapsable_some turn.current_ok
  obtain ⟨without, without_eq⟩ := turn.current_ok.choiceless_some oneBack
  obtain ⟨bearingIn, in_eq⟩ := guided.2.1.frontBearing_some true
  obtain ⟨bearingOut, out_eq⟩ := turn.current_ok.2.1.frontBearing_some false
  dsimp only [collapseTurnAt]
  simp only [Option.bind_eq_bind]
  simp only [turn.current_at, turn.at_previous, Option.some_bind]
  simp only [Option.pure_def]
  simp only [collapse_eq, Option.some_bind]
  simp only [without_eq, Option.some_bind]
  simp only [in_eq, Option.some_bind]
  have uTurn : ∀ reversed : Bool, ∃ next, (if reversed = true ∧ compatible oneBack current = true then
      collapseUTurn tk steps twoBackIndex oneBackIndex stepIndex current oneBack else some steps) =
      some next ∧ TurnsMoves tk steps next := fun _ => exists_ite_of_some
    (collapseUTurn_moves lawful working turn positive two.at_previous two.below) ⟨_, rfl, .refl working⟩
  have shortNewName := collapseShortNewName_moves lawful working turn positive two
  refine exists_ite_of_some ⟨_, rfl, .refl working⟩ (exists_ite_of_some
    (exists_ite_of_some shortNewName ?rest) (exists_ite_of_some
      (exists_ite_of_some shortNewName ?rest) (exists_ite_of_some shortNewName ?rest)))
  refine exists_ite_of_some (collapseShortSegment_moves lawful working turn positive two.at_previous
    two.below) (exists_ite_of_some (exists_ite_of_some ?bearings (uTurn false))
      (exists_ite_of_some ?bearings (uTurn false)))
  exact exists_bind_of_some ⟨_, out_eq⟩ fun _ => uTurn _

/-- The name-oscillation, name-segment and bridge rules fold two or three survivors into one, and
the fallback is `collapseTurnAt` at the survivor two back. -/
theorem collapseOscillation_moves (lawful : tk.Lawful) (working : TurnsWorking tk steps)
    (turn : TurnAt tk steps oneBackIndex stepIndex oneBack current) (positive : 0 < oneBackIndex) :
    ∃ next, collapseOscillation tk steps oneBackIndex stepIndex = some next ∧
      TurnsMoves tk steps next := by
  have guided := turn.ok.2 positive
  have below := turn.below
  have inside := turn.inside
  obtain ⟨twoBackIndex, twoBack, two_eq, two⟩ := working.previous positive (by omega)
  have two_below := two.below
  obtain ⟨segment, segment_eq⟩ := nameSegmentLength_some tk
    (show oneBackIndex < steps.length by omega)
  obtain ⟨without, without_eq⟩ := turn.current_ok.choiceless_some oneBack
  obtain ⟨nextStep, next_at⟩ : ∃ nextStep, steps[stepIndex + 1]? = some nextStep :=
    ⟨_, List.getElem?_eq_getElem inside⟩
  -- the survivor before the previous one takes it over, then the current step
  have folded := working.elongate lawful two (by omega) turn.at_previous guided
  have folded_at : ((steps.set twoBackIndex (elongate twoBack oneBack)).set oneBackIndex
      (invalidRouteStep tk))[twoBackIndex]? = some (elongate twoBack oneBack) := by
    rw [List.getElem?_set_ne (by omega), List.getElem?_set_self (by omega)]
  have current_at : ((steps.set twoBackIndex (elongate twoBack oneBack)).set oneBackIndex
      (invalidRouteStep tk))[stepIndex]? = some current := by
    rw [List.getElem?_set_ne (by omega), List.getElem?_set_ne (by omega)]
    exact turn.current_at
  have linked := working.working.linked two_below (by omega) two.at_previous turn.at_previous
    two.ok.valid guided.valid two.between
  have twice := folded.trans (folded.working.elongate lawful
    ⟨by omega, folded_at, two.ok.elongate linked, between_merge lawful two.between turn.between _⟩
    (by simpa using inside) current_at turn.current_ok)
  obtain ⟨segment', segment'_eq⟩ := nameSegmentLength_some tk
    (show stepIndex < ((steps.set twoBackIndex (elongate twoBack oneBack)).set oneBackIndex
      (invalidRouteStep tk)).length by simp; omega)
  have turnAt := collapseTurnAt_moves lawful working turn positive two
  have fallback : ∃ next, (if without = true then
      collapseTurnAt tk steps twoBackIndex oneBackIndex stepIndex
    else if decide (oneBack.distance ≤ maxCollapseDistance) = true then
      collapseTurnAt tk steps twoBackIndex oneBackIndex stepIndex
    else some steps) = some next ∧ TurnsMoves tk steps next :=
    exists_ite_of_some turnAt (exists_ite_of_some turnAt ⟨_, rfl, .refl working⟩)
  dsimp only [collapseOscillation]
  simp only [Option.bind_eq_bind]
  simp only [turn.current_at, turn.at_previous, Option.some_bind]
  simp only [two_eq, two.at_previous, Option.some_bind]
  simp only [Option.pure_def]
  simp only [segment_eq, without_eq, next_at, Option.some_bind]
  simp only [segment'_eq, folded_at, current_at, Option.some_bind, Bool.false_eq_true, if_false,
    if_true]
  refine exists_ite_of_some (exists_ite_of_some ⟨_, rfl, ?_⟩ ⟨_, rfl, .refl working⟩)
    (exists_ite_of_some (exists_ite_of_some (exists_ite_of_some ⟨_, rfl, twice⟩ ⟨_, rfl, folded⟩)
      ⟨_, rfl, .refl working⟩) (exists_ite_of_some
        (exists_ite_of_cases (fun bridge => ?_) fun _ => fallback) fallback))
  · rwa [List.set_comm _ _ _ (show oneBackIndex ≠ twoBackIndex by omega), List.set_set] at twice
  · -- the current step takes over the next one, and the previous survivor takes over both
    have next_type : nextStep.maneuver.instruction.type ≠ .noTurn := by
      intro noTurn
      simp [noTurn] at bridge
    obtain ⟨next_inside, next_guided⟩ := working.guided (by omega) inside next_at next_type
    have next_linked := working.working.linked (Nat.lt_succ_self stepIndex) inside
      turn.current_at next_at turn.current_ok.valid next_guided.valid
      (fun _ _ lower upper => absurd upper (by omega))
    have absorbed := working.elongate (j := stepIndex + 1) lawful
      ⟨Nat.lt_succ_self _, turn.current_at, turn.current_ok.survivorOk (by omega),
        fun _ _ lower upper => absurd upper (by omega)⟩ next_inside next_at next_guided
    have bridged := absorbed.trans (absorbed.working.elongate lawful
      ((turn.toPreviousAt.set_of_le le_rfl _).set_of_le (Nat.le_succ _) _) (by simpa using inside)
      (by rw [List.getElem?_set_ne (by omega), List.getElem?_set_self (by omega)])
      (turn.current_ok.elongate next_linked))
    have reordered : ((((steps.set stepIndex (elongate current nextStep)).set (stepIndex + 1)
        (invalidRouteStep tk)).set oneBackIndex (elongate oneBack (elongate current nextStep))).set
          stepIndex (invalidRouteStep tk)) = ((steps.set oneBackIndex
            (elongate oneBack (elongate current nextStep))).set stepIndex (invalidRouteStep tk)).set
              (stepIndex + 1) (invalidRouteStep tk) := by
      apply List.ext_getElem?
      intro m
      simp only [List.getElem?_set, List.length_set]
      split_ifs <;> first | rfl | omega
    exact exists_ite_of_some ⟨_, rfl, reordered ▸ bridged⟩ ⟨_, rfl, .refl working⟩

/-- The name-change rule's run: every step from `index` on is folded into the survivor at
`target`. -/
theorem elongateRun_moves (lawful : tk.Lawful) {target : Nat} :
    ∀ (count index : Nat) (current : List RouteStep) (merged : RouteStep),
      TurnsMoves tk steps current → PreviousAt tk current target index merged →
      index + count < current.length →
      (∀ k step, index ≤ k → k < index + count → current[k]? = some step → GuidedStep step) →
      ∃ next, elongateRun tk target current index count = some next ∧ TurnsMoves tk steps next
  | 0, _, current, _, moves, _, _, _ => ⟨current, rfl, moves⟩
  | count + 1, index, current, merged, moves, previous, inside, guided => by
    obtain ⟨step, at_index⟩ : ∃ step, current[index]? = some step :=
      ⟨_, List.getElem?_eq_getElem (by omega)⟩
    have step_guided := guided index step le_rfl (by omega) at_index
    obtain ⟨next, next_eq, next_moves⟩ := elongateRun_moves lawful count (index + 1) _ _
      (moves.trans (moves.working.elongate lawful previous (by omega) at_index step_guided))
      (previous.elongated lawful moves.working (by omega) at_index step_guided (Nat.lt_succ_self _)
        fun _ _ lower upper => absurd upper (by omega))
      (by simp; omega)
      (fun k other lower upper at_k => guided k other (by omega) (by omega) (by
        rwa [List.getElem?_set_ne (by omega), List.getElem?_set_ne (by have := previous.below; omega)] at at_k))
    exact ⟨next, by simp [elongateRun, previous.at_previous, at_index, next_eq], next_moves⟩

end Rules

/-! ## The pass -/

section Pass

variable {steps : List RouteStep} {stepIndex : Nat}

/-- One iteration of `collapseTurns` at a step strictly inside the leg is a sequence of moves. -/
theorem collapseTurnsStep_moves (lawful : tk.Lawful) (working : TurnsWorking tk steps)
    (positive : 0 < stepIndex) (inside : stepIndex + 1 < steps.length) :
    ∃ next, collapseTurnsStep tk steps stepIndex = some next ∧ TurnsMoves tk steps next := by
  obtain ⟨current, current_at⟩ : ∃ current, steps[stepIndex]? = some current :=
    ⟨_, List.getElem?_eq_getElem (by omega)⟩
  by_cases noTurn : current.maneuver.instruction.type = .noTurn
  · exact ⟨steps, by simp [collapseTurnsStep, current_at, noTurn], .refl working⟩
  have current_ok := (working.guided positive (by omega) current_at noTurn).2
  obtain ⟨oneBackIndex, oneBack, one_eq, previous⟩ := working.previous positive (by omega)
  have turn : TurnAt tk steps oneBackIndex stepIndex oneBack current :=
    ⟨previous, inside, current_at, current_ok⟩
  obtain ⟨nameIndex, nameStep, name_eq, name_below, name_at, name_ok⟩ :=
    working.previousName lawful positive inside
  obtain ⟨all, all_eq, all_ok⟩ := canCollapseAllFrom_spec steps (stepIndex + 1) (by omega)
    (stepIndex - nameIndex) (nameIndex + 1) (by omega)
  have nameRule : ∀ rest : Option (List RouteStep),
      (∃ next, rest = some next ∧ TurnsMoves tk steps next) →
      ∃ next, (if all = true then
        elongateRun tk nameIndex steps (nameIndex + 1) (stepIndex - nameIndex) else rest) =
        some next ∧ TurnsMoves tk steps next := by
    refine fun _ rest => exists_ite_of_cases (fun all_true => ?_) fun _ => rest
    refine elongateRun_moves lawful _ _ _ _ (.refl working)
      ⟨Nat.lt_succ_self _, name_at, name_ok, fun _ _ lower upper => absurd upper (by omega)⟩
      (by omega) fun k step lower upper at_k => ?_
    have kind := all_ok all_true k step lower (by omega) at_k
    refine (working.guided (by omega) (by omega) at_k ?_).2
    rcases kind with kind | kind <;> simp [kind]
  have sliproadRule : ∀ rest : Option (List RouteStep),
      (∃ next, rest = some next ∧ TurnsMoves tk steps next) →
      ∃ next, (if oneBack.maneuver.instruction.type = .sliproad then
        collapseSliproad tk steps oneBackIndex stepIndex else rest) =
        some next ∧ TurnsMoves tk steps next := fun _ rest => exists_ite_of_cases
    (fun sliproad => collapseSliproad_moves lawful working turn sliproad) fun _ => rest
  dsimp only [collapseTurnsStep]
  simp only [Option.bind_eq_bind]
  simp only [current_at, Option.some_bind]
  simp only [if_neg noTurn, one_eq, previous.at_previous, Option.pure_def, Option.some_bind]
  simp only [name_eq, name_at, Option.some_bind]
  simp only [canCollapseAll, Nat.add_sub_add_right, all_eq, Option.some_bind, Bool.false_eq_true,
    if_false, if_true]
  rcases Nat.eq_zero_or_pos oneBackIndex with zero | one_positive
  · -- the previous survivor is the depart: only the name-change rule can apply
    subst zero
    have depart := (turn.ok.1 rfl).2
    simp only [gt_iff_lt, lt_self_iff_false, false_and, if_false]
    refine exists_ite_of_some ⟨_, rfl, .refl working⟩ (sliproadRule _ (exists_ite_of_some
      (exists_ite_of_some (nameRule _ ⟨_, rfl, .refl working⟩) ⟨_, rfl, .refl working⟩)
        ⟨_, rfl, .refl working⟩))
  have guided := turn.ok.2 one_positive
  obtain ⟨staggered, staggered_eq⟩ := guided.isStaggeredIntersection_some current_ok
  obtain ⟨without, without_eq⟩ := current_ok.choiceless_some oneBack
  obtain ⟨twoBackIndex, twoBack, two_eq, two⟩ :=
    working.previous one_positive (previous.below.trans (by omega))
  have oscillation := collapseOscillation_moves lawful working turn one_positive
  have turnAt := collapseTurnAt_moves lawful working turn one_positive two
  simp only [gt_iff_lt, one_positive, true_and, if_true, staggered_eq, without_eq, two_eq,
    Option.some_bind]
  refine exists_ite_of_some ⟨_, rfl, .refl working⟩ (sliproadRule _ (exists_ite_of_some
    (exists_ite_of_some (nameRule _ ?tail) ?tail) ?tail))
  refine exists_ite_of_some (exists_ite_of_some oscillation (exists_ite_of_some oscillation ?nearby))
    ?nearby
  exact exists_ite_of_some turnAt (exists_ite_of_some turnAt ⟨_, rfl, .refl working⟩)

/-- The run of `collapseTurns` on a guidance leg: the loop keeps `TurnsMoves` from every index to the
next, and the final-sliproad fix relabels one surviving guided step. -/
theorem collapseTurns_guidanceLeg (lawful : tk.Lawful) {steps : List RouteStep}
    (leg : GuidanceLeg tk steps) :
    ∃ result, collapseTurns tk steps = some result ∧ GuidanceLeg tk result ∧
      Coarsens (steps.map RouteStep.segment) (result.map RouteStep.segment) := by
  by_cases short : steps.length ≤ 2
  · exact ⟨steps, by simp [collapseTurns, short], leg, .refl⟩
  obtain ⟨final, final_eq, moves⟩ := @foldlM_range'_of_step _ (fun _ next => TurnsMoves tk steps next)
    (collapseTurnsStep tk) 1 (steps.length - 2)
    (fun k next lower upper moves => by
      obtain ⟨after, after_eq, step⟩ := collapseTurnsStep_moves lawful moves.working
        (show 0 < k by omega) (by rw [moves.length_eq]; omega)
      exact ⟨after, after_eq, moves.trans step⟩)
    steps (.refl leg.turnsWorking)
  have length_eq := moves.length_eq
  obtain ⟨lastIndex, last, last_eq, lastAt⟩ :=
    moves.working.previous (show 0 < final.length - 1 by omega) (by omega)
  -- the final-sliproad fix relabels the last survivor before the arrive
  obtain ⟨result, result_eq, result_moves⟩ : ∃ result,
      (if last.maneuver.instruction.type = .sliproad then
        final.set lastIndex { last with maneuver.instruction.type := .turn } else final) = result ∧
      TurnsMoves tk steps result := by
    split
    · rename_i sliproad
      have positive : 0 < lastIndex := Nat.pos_of_ne_zero fun zero => by
        have := (lastAt.ok.1 zero).2
        simp_all [Toolkit.noTurn]
      have guided := lastAt.ok.2 positive
      exact ⟨_, rfl, moves.trans (moves.working.relabel positive (by have := lastAt.below; omega)
        lastAt.at_previous guided.valid rfl (guided.retype (by decide) (by decide)))⟩
    · exact ⟨_, rfl, moves⟩
  refine ⟨_, ?_, leg.sweep result_moves.working.working result_moves.coarsens⟩
  simp only [collapseTurns, if_neg short, final_eq, last_eq, lastAt.at_previous, result_eq,
    Option.bind_eq_bind, Option.some_bind, Option.pure_def]

/-- `collapseTurns` maps a guidance leg to a guidance leg whose segments coarsen the input's. -/
theorem collapseTurns_coarsens (lawful : tk.Lawful) {steps : List RouteStep}
    (leg : GuidanceLeg tk steps) :
    ∃ result, collapseTurns tk steps = some result ∧ GuidanceLeg tk result ∧
      Coarsens (steps.map RouteStep.segment) (result.map RouteStep.segment) :=
  collapseTurns_guidanceLeg lawful leg

theorem collapseTurns_coarsens_sliproadLeg :
    ∃ result, collapseTurns sampleToolkit sliproadLeg = some result ∧
      GuidanceLeg sampleToolkit result ∧
      Coarsens (sliproadLeg.map RouteStep.segment) (result.map RouteStep.segment) :=
  collapseTurns_coarsens sampleToolkit_lawful sliproadLeg_guidanceLeg

end Pass

end Osrm.Engine.Guidance
