import Osrm.Extractor.PrepareEdges
import Mathlib.Data.List.Lex
import Mathlib.Data.List.Sort
import Mathlib.Data.Prod.Lex
import Mathlib.Order.WithBot

/-!
# The order `PrepareEdges` sorts by

`CmpEdgeByInternalSourceTargetAndName` (`extraction_containers.cpp:62-98`) compares two names with
`std::lexicographical_compare` over `name_data[name_offsets[id], name_offsets[id + 1])`. Those are
ranges of `name_data` only when the offsets do not decrease: `name_offsets.back() ==
name_data.size()`, which the code asserts, is not enough, and a name whose first offset lies past
its last one makes the comparison read outside its range (`compareNames_undefined`). With
non-decreasing offsets every name is a range, and the comparator is the strict order of the key
(source, target, name), where `EMPTY_NAMEID` sorts after every name and an edge from
`SPECIAL_NODEID` has no name: a strict weak order, as `stxxl::sort` requires
(`cmpEdgeByInternalSourceTargetAndName_strictWeakOrder`).

Characters of `name_data` are `unsigned char`s, naturals here.
-/

namespace Osrm.Extractor

/-- The name of `name_id`: `name_data[name_offsets[name_id], name_offsets[name_id + 1])`, `none`
where that is not a range of `name_data`. -/
def nameOf (nameData nameOffsets : List Nat) (nameId : Nat) : Option (List Nat) := do
  let first ← nameOffsets[nameId]?
  let last ← nameOffsets[nameId + 1]?
  if first ≤ last ∧ last ≤ nameData.length then some ((nameData.drop first).take (last - first))
  else none

/-- `std::lexicographical_compare`. -/
def lexicographicalCompare : List Nat → List Nat → Bool
  | _, [] => false
  | [], _ :: _ => true
  | first :: rest, other :: others =>
    if first < other then true
    else if other < first then false
    else lexicographicalCompare rest others

/-- The name comparison of `CmpEdgeByInternalSourceTargetAndName`. -/
def compareNames (nameData nameOffsets : List Nat) (lhs rhs : Nat) : Option Bool := do
  let lhsName ← nameOf nameData nameOffsets lhs
  let rhsName ← nameOf nameData nameOffsets rhs
  pure (lexicographicalCompare lhsName rhsName)

/-- The name comparison the sort passes to `cmpEdgeByInternalSourceTargetAndName`; where it is
undefined (`none`) it reads as `false`. -/
def namesLess (nameData nameOffsets : List Nat) (lhs rhs : Nat) : Bool :=
  (compareNames nameData nameOffsets lhs rhs).getD false

theorem lexicographicalCompare_iff : ∀ lhs rhs : List Nat,
    lexicographicalCompare lhs rhs = true ↔ lhs < rhs
  | _, [] => by simp [lexicographicalCompare, List.Lex.not_nil_right (· < ·) _]
  | [], _ :: _ => by simpa [lexicographicalCompare] using List.Lex.nil
  | first :: rest, other :: others => by
    show _ ↔ List.Lex (· < ·) _ _
    rcases lt_trichotomy first other with less | rfl | greater
    · simp [lexicographicalCompare, less, List.Lex.rel less]
    · rw [List.Lex.cons_iff]
      simpa [lexicographicalCompare] using lexicographicalCompare_iff rest others
    · simp only [lexicographicalCompare, if_neg (Nat.lt_asymm greater), if_pos greater,
        Bool.false_eq_true, false_iff]
      intro lex
      cases lex with
      | cons _ => exact Nat.lt_irrefl _ greater
      | rel less => exact Nat.lt_asymm greater less

/-- With non-decreasing offsets ending at `|name_data|`, every name id below
`|name_offsets| - 1` names a range of `name_data`. -/
theorem nameOf_some {nameData nameOffsets : List Nat} (monotone : nameOffsets.Sorted (· ≤ ·))
    (ends : nameOffsets.getLast? = some nameData.length) {nameId : Nat}
    (inside : nameId + 1 < nameOffsets.length) :
    ∃ name, nameOf nameData nameOffsets nameId = some name := by
  have below : ∀ i (hi : i < nameOffsets.length), nameOffsets[i] ≤ nameData.length := by
    intro i hi
    rw [List.getLast?_eq_getElem?, List.getElem?_eq_getElem (by omega), Option.some.injEq] at ends
    rcases Nat.lt_or_eq_of_le (show i ≤ nameOffsets.length - 1 by omega) with before | rfl
    · exact ends ▸ List.pairwise_iff_getElem.mp monotone _ _ hi (by omega) before
    · exact ends.le
  have ordered := List.pairwise_iff_getElem.mp monotone nameId (nameId + 1) (by omega) inside
    (Nat.lt_succ_self _)
  simp only [nameOf, List.getElem?_eq_getElem (show nameId < nameOffsets.length by omega),
    List.getElem?_eq_getElem inside, Option.bind_eq_bind, Option.some_bind]
  rw [if_pos ⟨ordered, below _ inside⟩]
  exact ⟨_, rfl⟩

/-- The edges the sort meets: their name id is `EMPTY_NAMEID` or below `|name_offsets| - 1`. -/
def NamedEdge (emptyNameId : Nat) (nameOffsets : List Nat) (edge : NodeBasedEdge) : Prop :=
  edge.nameId = emptyNameId ∨ edge.nameId + 1 < nameOffsets.length

/-- Offsets `[0, 1, 0, 1]` ending at `|name_data| = 1` that decrease once, with `SPECIAL_NODEID`
the largest `unsigned` and `EMPTY_NAMEID = 0`: the comparator reaches the names `1` and `2` of two
edges the sort meets, and name `1`, `[1, 0)`, is not a range of `name_data`. -/
theorem compareNames_undefined :
    [0, 1, 0, 1].getLast? = some [7].length ∧
      NamedEdge 0 [0, 1, 0, 1] ⟨0, 0, 1, 1, true, false, false⟩ ∧
      NamedEdge 0 [0, 1, 0, 1] ⟨0, 0, 2, 1, true, false, false⟩ ∧
      (∀ nameLess, cmpEdgeByInternalSourceTargetAndName unsignedMax 0 nameLess
        ⟨0, 0, 1, 1, true, false, false⟩ ⟨0, 0, 2, 1, true, false, false⟩ = nameLess 1 2) ∧
      compareNames [7] [0, 1, 0, 1] 1 2 = none :=
  ⟨rfl, .inr (by decide), .inr (by decide),
    fun nameLess => by simp [cmpEdgeByInternalSourceTargetAndName, unsignedMax], rfl⟩

section Key

variable (specialNodeId emptyNameId : Nat) (nameData nameOffsets : List Nat)

/-- What an edge is sorted by after its source and target: its name, after which comes
`EMPTY_NAMEID`; an edge from `SPECIAL_NODEID` has no name. -/
def nameKey (edge : NodeBasedEdge) : WithTop (List Nat) :=
  if edge.source = specialNodeId ∨ edge.nameId = emptyNameId then ⊤
  else ((nameOf nameData nameOffsets edge.nameId).getD [] : List Nat)

/-- The key of an edge in the order the sort is meant to produce: source, then target, then
name. -/
def edgeKey (edge : NodeBasedEdge) : Lex (Nat × Lex (Nat × WithTop (List Nat))) :=
  toLex (edge.source, toLex (edge.target, nameKey specialNodeId emptyNameId nameData nameOffsets edge))

end Key

/-- A relation that compares keys of a linear order is a strict weak order. -/
theorem isStrictWeakOrder_of_key {α β : Type} [LinearOrder β] {r : α → α → Prop} (key : α → β)
    (compares : ∀ a b, r a b ↔ key a < key b) : IsStrictWeakOrder α r where
  irrefl a := by simp [compares]
  trans a b c := by
    simp only [compares]
    exact lt_trans
  incomp_trans a b c := by
    simp only [compares, not_lt]
    intro ⟨ab, ba⟩ ⟨bc, cb⟩
    exact ⟨le_trans bc ab, le_trans ba cb⟩

section Order

variable {specialNodeId emptyNameId : Nat} {nameData nameOffsets : List Nat}
  (monotone : nameOffsets.Sorted (· ≤ ·)) (ends : nameOffsets.getLast? = some nameData.length)
include monotone ends

theorem namesLess_iff {lhs rhs : Nat} (lhsInside : lhs + 1 < nameOffsets.length)
    (rhsInside : rhs + 1 < nameOffsets.length) :
    namesLess nameData nameOffsets lhs rhs = true ↔
      (nameOf nameData nameOffsets lhs).getD [] < (nameOf nameData nameOffsets rhs).getD [] := by
  obtain ⟨lhsName, lhsEq⟩ := nameOf_some monotone ends lhsInside
  obtain ⟨rhsName, rhsEq⟩ := nameOf_some monotone ends rhsInside
  simp only [namesLess, compareNames, lhsEq, rhsEq, Option.bind_eq_bind, Option.some_bind,
    Option.getD_some]
  exact lexicographicalCompare_iff lhsName rhsName

/-- On edges the sort meets, the comparator is the strict order of their keys. -/
theorem cmp_iff_edgeKey {lhs rhs : NodeBasedEdge} (lhsNamed : NamedEdge emptyNameId nameOffsets lhs)
    (rhsNamed : NamedEdge emptyNameId nameOffsets rhs) :
    cmpEdgeByInternalSourceTargetAndName specialNodeId emptyNameId
        (namesLess nameData nameOffsets) lhs rhs = true ↔
      edgeKey specialNodeId emptyNameId nameData nameOffsets lhs <
        edgeKey specialNodeId emptyNameId nameData nameOffsets rhs := by
  simp only [edgeKey, Prod.Lex.lt_iff, cmpEdgeByInternalSourceTargetAndName]
  by_cases source : lhs.source = rhs.source
  · by_cases target : lhs.target = rhs.target
    · simp only [source, target, ne_eq, not_true_eq_false, if_false, lt_self_iff_false,
        true_and, false_or]
      by_cases special : rhs.source = specialNodeId
      · simp [nameKey, source, special]
      by_cases same : lhs.nameId = rhs.nameId
      · simp [nameKey, source, same]
      by_cases lhsEmpty : lhs.nameId = emptyNameId
      · simp [nameKey, source, lhsEmpty]
      by_cases rhsEmpty : rhs.nameId = emptyNameId
      · simp [nameKey, source, special, lhsEmpty, rhsEmpty, WithTop.coe_lt_top]
      have lhsInside := lhsNamed.resolve_left lhsEmpty
      have rhsInside := rhsNamed.resolve_left rhsEmpty
      simp only [nameKey, source, special, lhsEmpty, rhsEmpty, same, or_self, if_false,
        WithTop.coe_lt_coe]
      exact namesLess_iff monotone ends lhsInside rhsInside
    · simp [source, target]
  · simp [source]

/-- `CmpEdgeByInternalSourceTargetAndName` is a strict weak order on the edges the sort meets
when the name offsets do not decrease: every name it compares is a range of `name_data`, it is the
strict order of the key (source, target, name with `EMPTY_NAMEID` last), and it leaves every two
edges from `SPECIAL_NODEID` to one target unordered. -/
theorem cmpEdgeByInternalSourceTargetAndName_strictWeakOrder :
    (∀ nameId, nameId + 1 < nameOffsets.length →
      ∃ name, nameOf nameData nameOffsets nameId = some name) ∧
    IsStrictWeakOrder {edge // NamedEdge emptyNameId nameOffsets edge} (fun lhs rhs =>
      cmpEdgeByInternalSourceTargetAndName specialNodeId emptyNameId
        (namesLess nameData nameOffsets) lhs.1 rhs.1 = true) ∧
    (∀ lhs rhs : {edge // NamedEdge emptyNameId nameOffsets edge},
      cmpEdgeByInternalSourceTargetAndName specialNodeId emptyNameId
          (namesLess nameData nameOffsets) lhs.1 rhs.1 = true ↔
        edgeKey specialNodeId emptyNameId nameData nameOffsets lhs.1 <
          edgeKey specialNodeId emptyNameId nameData nameOffsets rhs.1) ∧
    ∀ lhs rhs : NodeBasedEdge, lhs.source = specialNodeId → rhs.source = specialNodeId →
      lhs.target = rhs.target → cmpEdgeByInternalSourceTargetAndName specialNodeId emptyNameId
        (namesLess nameData nameOffsets) lhs rhs = false :=
  ⟨fun _ inside => nameOf_some monotone ends inside,
    isStrictWeakOrder_of_key (fun edge => edgeKey specialNodeId emptyNameId nameData nameOffsets
      edge.1) fun lhs rhs => cmp_iff_edgeKey monotone ends lhs.2 rhs.2,
    fun lhs rhs => cmp_iff_edgeKey monotone ends lhs.2 rhs.2,
    fun lhs rhs lhsSpecial rhsSpecial target => by
      simp [cmpEdgeByInternalSourceTargetAndName, lhsSpecial, rhsSpecial, target]⟩

end Order

theorem cmpEdgeByInternalSourceTargetAndName_strictWeakOrder_names :
    List.Sorted (· ≤ ·) [0, 2, 3] ∧ [0, 2, 3].getLast? = some [1, 2, 3].length ∧
    ((∀ nameId, nameId + 1 < [0, 2, 3].length →
      ∃ name, nameOf [1, 2, 3] [0, 2, 3] nameId = some name) ∧
    IsStrictWeakOrder {edge // NamedEdge 0 [0, 2, 3] edge} (fun lhs rhs =>
      cmpEdgeByInternalSourceTargetAndName 9 0 (namesLess [1, 2, 3] [0, 2, 3]) lhs.1 rhs.1 = true) ∧
    (∀ lhs rhs : {edge // NamedEdge 0 [0, 2, 3] edge},
      cmpEdgeByInternalSourceTargetAndName 9 0 (namesLess [1, 2, 3] [0, 2, 3]) lhs.1 rhs.1 = true ↔
        edgeKey 9 0 [1, 2, 3] [0, 2, 3] lhs.1 < edgeKey 9 0 [1, 2, 3] [0, 2, 3] rhs.1) ∧
    ∀ lhs rhs : NodeBasedEdge, lhs.source = 9 → rhs.source = 9 → lhs.target = rhs.target →
      cmpEdgeByInternalSourceTargetAndName 9 0 (namesLess [1, 2, 3] [0, 2, 3]) lhs rhs = false) :=
  ⟨by decide, rfl, cmpEdgeByInternalSourceTargetAndName_strictWeakOrder (by decide) rfl⟩

end Osrm.Extractor
