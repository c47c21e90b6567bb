import Mathlib.Data.List.Basic
import Mathlib.Algebra.Group.Nat.Basic

/-!
# Renumbering turn restrictions in `PrepareRestrictions`

`PrepareRestrictions` (`extraction_containers.cpp:644-838`) walks the restrictions, sorted by their
from-way, beside the ways, sorted by id, and replaces the from-way of each restriction by the
internal id of the via node's neighbour on that way. It then sorts the restrictions by their
to-way, walks them again, renumbers the via node and replaces the to-way the same way.
`WriteRestrictions` (`extraction_containers.cpp:617-642`) writes the restrictions whose three
ids are not `SPECIAL_NODEID`.

The `from`, `via` and `to` fields are `WayOrNode` unions: one value, read as a way id before the
passes and as a node id after them, so a field the passes never overwrite still holds the way id.
`external_to_internal_node_id_map.find` is the parameter `nodeIdMap`. The three comparators of
`stxxl::sort` are not among the sources; the sorts are the parameters `sortWays`, `sortByFrom`
and `sortByTo`. Dereferencing `find`'s `end()` is undefined and returns `viaNotFound`.

`fixRestrictionStarts_split` shows that the first pass checks a prefix of the restrictions and
leaves the rest as they were, and `prepareRestrictions_viaNotFound` that the second pass
dereferences `end()` only for a via node of that untouched rest.
-/

namespace Osrm.Extractor

/-- A `TurnRestriction` as the passes see it: the three `WayOrNode` unions. Its flags are not
read by the passes and are left out. -/
structure TurnRestriction where
  «from» : Nat
  via : Nat
  «to» : Nat
  deriving DecidableEq, Repr

/-- `FirstAndLastSegmentOfWay`: a way's OSM id and the OSM node ids of its first and last
segment. -/
structure FirstAndLastSegmentOfWay where
  wayId : Nat
  firstSegmentSourceId : Nat
  firstSegmentTargetId : Nat
  lastSegmentSourceId : Nat
  lastSegmentTargetId : Nat
  deriving DecidableEq, Repr

/-- `OSMWayID{static_cast<std::uint32_t>(way)}`. -/
def osmWayId (way : Nat) : Nat := way % 2 ^ 32

/-- `via_id_iter->second` with `via_id_iter == external_to_internal_node_id_map.end()`. -/
inductive RestrictionError
  | viaNotFound (via : Nat)
  deriving DecidableEq, Repr

/-- The loop "Fixing restriction starts". -/
def fixRestrictionStarts (specialNodeId : Nat) (nodeIdMap : Nat → Option Nat) :
    List FirstAndLastSegmentOfWay → List TurnRestriction → List TurnRestriction
  | [], restrictions => restrictions
  | _ :: _, [] => []
  | way :: ways, restriction :: restrictions =>
    if way.wayId < osmWayId restriction.«from» then
      fixRestrictionStarts specialNodeId nodeIdMap ways (restriction :: restrictions)
    else if way.wayId > osmWayId restriction.«from» then
      { restriction with «from» := specialNodeId } ::
        fixRestrictionStarts specialNodeId nodeIdMap (way :: ways) restrictions
    else
      match nodeIdMap restriction.via with
      | none => { restriction with via := specialNodeId } ::
          fixRestrictionStarts specialNodeId nodeIdMap (way :: ways) restrictions
      | some _ =>
        if way.firstSegmentSourceId = restriction.via then
          match nodeIdMap way.firstSegmentTargetId with
          | none => { restriction with «from» := specialNodeId } ::
              fixRestrictionStarts specialNodeId nodeIdMap ways restrictions
          | some node => { restriction with «from» := node } ::
              fixRestrictionStarts specialNodeId nodeIdMap (way :: ways) restrictions
        else if way.lastSegmentTargetId = restriction.via then
          match nodeIdMap way.lastSegmentSourceId with
          | none => { restriction with «from» := specialNodeId } ::
              fixRestrictionStarts specialNodeId nodeIdMap ways restrictions
          | some node => { restriction with «from» := node } ::
              fixRestrictionStarts specialNodeId nodeIdMap (way :: ways) restrictions
        else restriction :: fixRestrictionStarts specialNodeId nodeIdMap (way :: ways) restrictions
termination_by ways restrictions => ways.length + restrictions.length

/-- The loop "Fixing restriction ends". -/
def fixRestrictionEnds (specialNodeId : Nat) (nodeIdMap : Nat → Option Nat) :
    List FirstAndLastSegmentOfWay → List TurnRestriction →
      Except RestrictionError (List TurnRestriction)
  | [], restrictions => .ok restrictions
  | _ :: _, [] => .ok []
  | way :: ways, restriction :: restrictions =>
    if way.wayId < osmWayId restriction.«to» then
      fixRestrictionEnds specialNodeId nodeIdMap ways (restriction :: restrictions)
    else if restriction.«from» = specialNodeId ∨ restriction.via = specialNodeId then
      (restriction :: ·) <$> fixRestrictionEnds specialNodeId nodeIdMap (way :: ways) restrictions
    else if way.wayId > osmWayId restriction.«to» then
      ({ restriction with «to» := specialNodeId } :: ·) <$>
        fixRestrictionEnds specialNodeId nodeIdMap (way :: ways) restrictions
    else
      match nodeIdMap restriction.via with
      | none => .error (.viaNotFound restriction.via)
      | some viaNode =>
        let remapped := { restriction with via := viaNode }
        if way.firstSegmentSourceId = restriction.via then
          match nodeIdMap way.firstSegmentTargetId with
          | none => ({ remapped with «to» := specialNodeId } :: ·) <$>
              fixRestrictionEnds specialNodeId nodeIdMap ways restrictions
          | some node => ({ remapped with «to» := node } :: ·) <$>
              fixRestrictionEnds specialNodeId nodeIdMap (way :: ways) restrictions
        else if way.lastSegmentTargetId = restriction.via then
          match nodeIdMap way.lastSegmentSourceId with
          | none => ({ remapped with «to» := specialNodeId } :: ·) <$>
              fixRestrictionEnds specialNodeId nodeIdMap ways restrictions
          | some node => ({ remapped with «to» := node } :: ·) <$>
              fixRestrictionEnds specialNodeId nodeIdMap (way :: ways) restrictions
        else (remapped :: ·) <$> fixRestrictionEnds specialNodeId nodeIdMap (way :: ways) restrictions
termination_by ways restrictions => ways.length + restrictions.length

/-- `PrepareRestrictions`: both passes with the sorts before them. -/
def prepareRestrictions (specialNodeId : Nat) (nodeIdMap : Nat → Option Nat)
    (sortWays : List FirstAndLastSegmentOfWay → List FirstAndLastSegmentOfWay)
    (sortByFrom sortByTo : List TurnRestriction → List TurnRestriction)
    (ways : List FirstAndLastSegmentOfWay) (restrictions : List TurnRestriction) :
    Except RestrictionError (List TurnRestriction) :=
  fixRestrictionEnds specialNodeId nodeIdMap (sortWays ways)
    (sortByTo (fixRestrictionStarts specialNodeId nodeIdMap (sortWays ways)
      (sortByFrom restrictions)))

/-- The restrictions `WriteRestrictions` writes. -/
def writeRestrictions (specialNodeId : Nat) (restrictions : List TurnRestriction) :
    List TurnRestriction :=
  restrictions.filter fun restriction =>
    specialNodeId ≠ restriction.«from» ∧ specialNodeId ≠ restriction.via ∧
      specialNodeId ≠ restriction.«to»

section Passes

variable (specialNodeId : Nat) (nodeIdMap : Nat → Option Nat)

/-- A restriction the first pass has decided: its from-way or via node is invalidated, or its via
node is in the map. -/
def Checked (restriction : TurnRestriction) : Prop :=
  restriction.«from» = specialNodeId ∨ restriction.via = specialNodeId ∨
    (nodeIdMap restriction.via).isSome

/-- The shape of the first pass's result: a decided prefix, then the input's own suffix. -/
def SplitsAt (restrictions output : List TurnRestriction) : Prop :=
  ∃ checked, output = checked ++ restrictions.drop checked.length ∧
    ∀ restriction ∈ checked, Checked specialNodeId nodeIdMap restriction

/-- A restriction of `restrictions` with via node `via` that reaches the second pass undecided. -/
def UncheckedVia (restrictions : List TurnRestriction) (via : Nat) : Prop :=
  ∃ restriction ∈ restrictions, restriction.via = via ∧
    restriction.«from» ≠ specialNodeId ∧ restriction.via ≠ specialNodeId ∧ nodeIdMap via = none

variable {specialNodeId nodeIdMap}

theorem splitsAt_cons {restriction decided : TurnRestriction}
    {restrictions output : List TurnRestriction}
    (checkedHead : Checked specialNodeId nodeIdMap decided)
    (rest : SplitsAt specialNodeId nodeIdMap restrictions output) :
    SplitsAt specialNodeId nodeIdMap (restriction :: restrictions) (decided :: output) := by
  obtain ⟨checked, split, all⟩ := rest
  refine ⟨decided :: checked, by rw [split]; rfl, fun other member => ?_⟩
  rcases List.mem_cons.mp member with rfl | member
  exacts [checkedHead, all other member]

/-- The first pass decides a prefix of the restrictions and leaves the others as they were: the
ones after the way list ran out. -/
theorem fixRestrictionStarts_split (ways : List FirstAndLastSegmentOfWay)
    (restrictions : List TurnRestriction) :
    SplitsAt specialNodeId nodeIdMap restrictions
      (fixRestrictionStarts specialNodeId nodeIdMap ways restrictions) := by
  induction ways, restrictions using fixRestrictionStarts.induct specialNodeId nodeIdMap with
  | case1 restrictions => exact ⟨[], by rw [fixRestrictionStarts]; rfl, by simp⟩
  | case2 => exact ⟨[], by rw [fixRestrictionStarts]; rfl, by simp⟩
  | case3 way ways restriction restrictions below ih =>
    rwa [fixRestrictionStarts, if_pos below]
  | case4 way ways restriction restrictions notBelow above ih =>
    rw [fixRestrictionStarts, if_neg notBelow, if_pos above]
    exact splitsAt_cons (.inl rfl) ih
  | case5 way ways restriction restrictions notBelow notAbove unmapped ih =>
    rw [fixRestrictionStarts, if_neg notBelow, if_neg notAbove]
    simp only [unmapped]
    exact splitsAt_cons (.inr (.inl rfl)) ih
  | case6 way ways restriction restrictions notBelow notAbove via mapped first unmapped ih =>
    rw [fixRestrictionStarts, if_neg notBelow, if_neg notAbove]
    simp only [mapped, first, if_true, unmapped]
    exact splitsAt_cons (.inl rfl) ih
  | case7 way ways restriction restrictions notBelow notAbove via mapped first node found ih =>
    rw [fixRestrictionStarts, if_neg notBelow, if_neg notAbove]
    simp only [mapped, first, if_true, found]
    exact splitsAt_cons (.inr (.inr (by simp [mapped]))) ih
  | case8 way ways restriction restrictions notBelow notAbove via mapped notFirst last unmapped
      ih =>
    rw [fixRestrictionStarts, if_neg notBelow, if_neg notAbove]
    simp only [mapped, notFirst, if_false, last, if_true, unmapped]
    exact splitsAt_cons (.inl rfl) ih
  | case9 way ways restriction restrictions notBelow notAbove via mapped notFirst last node found
      ih =>
    rw [fixRestrictionStarts, if_neg notBelow, if_neg notAbove]
    simp only [mapped, notFirst, if_false, last, if_true, found]
    exact splitsAt_cons (.inr (.inr (by simp [mapped]))) ih
  | case10 way ways restriction restrictions notBelow notAbove via mapped notFirst notLast ih =>
    rw [fixRestrictionStarts, if_neg notBelow, if_neg notAbove]
    simp only [mapped, notFirst, notLast, if_false]
    exact splitsAt_cons (.inr (.inr (by simp [mapped]))) ih

theorem error_of_map {α β : Type} {update : α → β} {result : Except RestrictionError α}
    {error : RestrictionError} (fails : update <$> result = .error error) :
    result = .error error := by
  cases result with
  | error other => simpa [Functor.map, Except.map] using fails
  | ok value => simp [Functor.map, Except.map] at fails

theorem uncheckedVia_cons {restriction : TurnRestriction} {restrictions : List TurnRestriction}
    {via : Nat} (rest : UncheckedVia specialNodeId nodeIdMap restrictions via) :
    UncheckedVia specialNodeId nodeIdMap (restriction :: restrictions) via :=
  let ⟨other, member, found⟩ := rest
  ⟨other, List.mem_cons_of_mem _ member, found⟩

/-- The second pass dereferences `end()` only for a restriction whose from-way and via node are
both valid and whose via node is not in the map. -/
theorem fixRestrictionEnds_viaNotFound (ways : List FirstAndLastSegmentOfWay)
    (restrictions : List TurnRestriction) (via : Nat)
    (fails : fixRestrictionEnds specialNodeId nodeIdMap ways restrictions =
      .error (.viaNotFound via)) :
    UncheckedVia specialNodeId nodeIdMap restrictions via := by
  induction ways, restrictions using fixRestrictionEnds.induct specialNodeId nodeIdMap with
  | case1 restrictions =>
    rw [fixRestrictionEnds] at fails
    cases fails
  | case2 =>
    rw [fixRestrictionEnds] at fails
    cases fails
  | case3 way ways restriction restrictions below ih =>
    rw [fixRestrictionEnds, if_pos below] at fails
    exact ih fails
  | case4 way ways restriction restrictions notBelow special ih =>
    rw [fixRestrictionEnds, if_neg notBelow, if_pos special] at fails
    exact uncheckedVia_cons (ih (error_of_map fails))
  | case5 way ways restriction restrictions notBelow valid above ih =>
    rw [fixRestrictionEnds, if_neg notBelow, if_neg valid, if_pos above] at fails
    exact uncheckedVia_cons (ih (error_of_map fails))
  | case6 way ways restriction restrictions notBelow valid notAbove unmapped =>
    rw [fixRestrictionEnds, if_neg notBelow, if_neg valid, if_neg notAbove] at fails
    simp only [unmapped, Except.error.injEq, RestrictionError.viaNotFound.injEq] at fails
    obtain ⟨notFrom, notVia⟩ := not_or.mp valid
    exact ⟨restriction, List.mem_cons_self _ _, fails, notFrom, notVia, fails ▸ unmapped⟩
  | case7 way ways restriction restrictions notBelow valid notAbove node mapped first unmapped
      ih =>
    rw [fixRestrictionEnds, if_neg notBelow, if_neg valid, if_neg notAbove] at fails
    simp only [mapped, first, if_true, unmapped] at fails
    exact uncheckedVia_cons (ih (error_of_map fails))
  | case8 way ways restriction restrictions notBelow valid notAbove node mapped first target
      found ih =>
    rw [fixRestrictionEnds, if_neg notBelow, if_neg valid, if_neg notAbove] at fails
    simp only [mapped, first, if_true, found] at fails
    exact uncheckedVia_cons (ih (error_of_map fails))
  | case9 way ways restriction restrictions notBelow valid notAbove node mapped notFirst last
      unmapped ih =>
    rw [fixRestrictionEnds, if_neg notBelow, if_neg valid, if_neg notAbove] at fails
    simp only [mapped, notFirst, if_false, last, if_true, unmapped] at fails
    exact uncheckedVia_cons (ih (error_of_map fails))
  | case10 way ways restriction restrictions notBelow valid notAbove node mapped notFirst last
      target found ih =>
    rw [fixRestrictionEnds, if_neg notBelow, if_neg valid, if_neg notAbove] at fails
    simp only [mapped, notFirst, if_false, last, if_true, found] at fails
    exact uncheckedVia_cons (ih (error_of_map fails))
  | case11 way ways restriction restrictions notBelow valid notAbove node mapped notFirst notLast
      ih =>
    rw [fixRestrictionEnds, if_neg notBelow, if_neg valid, if_neg notAbove] at fails
    simp only [mapped, notFirst, notLast, if_false] at fails
    exact uncheckedVia_cons (ih (error_of_map fails))

end Passes

/-- Whatever the sorts, as long as the one before the second pass permutes its input,
`PrepareRestrictions` dereferences `end()` only for the via node of a restriction that the first
pass never reached: one of the suffix it leaves as it was after the way list ran out. -/
theorem prepareRestrictions_viaNotFound (specialNodeId : Nat) (nodeIdMap : Nat → Option Nat)
    (sortWays : List FirstAndLastSegmentOfWay → List FirstAndLastSegmentOfWay)
    (sortByFrom sortByTo : List TurnRestriction → List TurnRestriction)
    (permutes : ∀ restrictions, (sortByTo restrictions).Perm restrictions)
    (ways : List FirstAndLastSegmentOfWay) (restrictions : List TurnRestriction) (via : Nat)
    (fails : prepareRestrictions specialNodeId nodeIdMap sortWays sortByFrom sortByTo ways
      restrictions = .error (.viaNotFound via)) :
    ∃ checked, fixRestrictionStarts specialNodeId nodeIdMap (sortWays ways)
        (sortByFrom restrictions) = checked ++ (sortByFrom restrictions).drop checked.length ∧
      (∀ restriction ∈ checked, Checked specialNodeId nodeIdMap restriction) ∧
      UncheckedVia specialNodeId nodeIdMap ((sortByFrom restrictions).drop checked.length) via := by
  obtain ⟨checked, split, decided⟩ :=
    @fixRestrictionStarts_split specialNodeId nodeIdMap (sortWays ways) (sortByFrom restrictions)
  refine ⟨checked, split, decided, ?_⟩
  obtain ⟨restriction, member, same, notFrom, notVia, unmapped⟩ :=
    fixRestrictionEnds_viaNotFound _ _ via fails
  rw [(permutes _).mem_iff, split] at member
  rcases List.mem_append.mp member with member | member
  · rcases decided restriction member with special | special | mapped
    · exact absurd special notFrom
    · exact absurd special notVia
    · rw [same, unmapped] at mapped
      cases mapped
  · exact ⟨restriction, member, same, notFrom, notVia, unmapped⟩

/-- A restriction whose from-way `2` lies beyond the only way, `1`, is never reached by the first
pass, so its via node `50` is never looked up there; the second pass matches its to-way `1` and
dereferences `end()` for `50`. -/
theorem prepareRestrictions_unreached_via :
    prepareRestrictions 4294967295
        (fun node => if 10 ≤ node ∧ node ≤ 13 then some (node + 90) else none) id id id
        [⟨1, 10, 11, 12, 13⟩] [⟨2, 50, 1⟩] =
      .error (.viaNotFound 50) := by
  simp [prepareRestrictions, fixRestrictionStarts, fixRestrictionEnds, osmWayId]

/-- A restriction whose via node `20` ends neither the first nor the last segment of its from-way
and to-way is passed over by both passes: `WriteRestrictions` writes it with the way id `1` as its
from and to node, an id the node map never returns. -/
theorem writeRestrictions_way_ids :
    (writeRestrictions 4294967295 <$> prepareRestrictions 4294967295
        (fun node => if 10 ≤ node ∧ node ≤ 13 then some (node + 90)
          else if node = 20 then some 104 else none) id id id
        [⟨1, 10, 11, 12, 13⟩] [⟨1, 20, 1⟩]) = .ok [⟨1, 104, 1⟩] ∧
      ∀ node, (if 10 ≤ node ∧ node ≤ 13 then some (node + 90)
        else if node = 20 then some 104 else none) ≠ some 1 := by
  refine ⟨by simp [prepareRestrictions, fixRestrictionStarts, fixRestrictionEnds, osmWayId,
    writeRestrictions], fun node => ?_⟩
  split_ifs with inside
  · simp only [ne_eq, Option.some.injEq]
    omega
  · simp
  · simp

end Osrm.Extractor
