import Mathlib.Tactic.Tauto

/-!
# Reloading the shared-memory facade

`SharedDataFacade` (`shared_datafacade.hpp:371-465`) caches the layout region, the data region and
the timestamp that `osrm-datastore` publishes in `CURRENT_REGIONS`. The constructor starts the
cache at `(LAYOUT_NONE, DATA_NONE, 0)` and calls `CheckAndReloadFacade`, which `RunQuery`
(`engine.cpp:36-64`) calls again before every request. A call that sees the published triple
differ from its cache releases both cached regions when the layout or the data changed, and then
reloads the blocks when the timestamp differs, after resetting it to `0` on a region change.

The model keeps what the reload decision reads and writes: the cache, the triple the blocks were
last loaded from, the regions `m_layout_memory` and `m_large_memory` map, the regions a call passes
to `SharedMemory::Remove`, and the exception it throws when the leaf index file named in the data
region is missing. A reload resets both pointers before it looks for that file, and the reset
releases the mappings the blocks were read from; `blocksMapped` records whether the blocks still
lie in the held mappings. Region names are any type with equality; the constructor's `LAYOUT_NONE`
and `DATA_NONE` are parameters.

`checkAndReloadFacade_observed` says what one call does from any state, and
`checkAndReloadFacade_skips_forced_reload` what it does on new regions published at timestamp `0`:
the reset of `CURRENT_TIMESTAMP` to `0` that the comment at `shared_datafacade.hpp:408` calls a
forced reload makes the timestamps agree, and no reload happens. `runFacade_loaded` lifts the first
to every run of publications and requests: when no request throws, each request that sees a
nonzero published timestamp leaves the blocks loaded from the published triple.
-/

namespace Osrm.Engine.Datafacade

/-- `storage::SharedDataTimestamp`: the regions and the timestamp published in `CURRENT_REGIONS`. -/
structure SharedDataTimestamp (Region : Type) where
  layout : Region
  data : Region
  timestamp : Nat
  deriving DecidableEq, Repr

/-- The reload state of a `SharedDataFacade`: `CURRENT_LAYOUT`, `CURRENT_DATA`,
`CURRENT_TIMESTAMP`, the triple its blocks were last loaded from (`none` before the first load),
the layout and data regions that `m_layout_memory` and `m_large_memory` map (`none` before the
first reload), and whether the blocks lie in those mappings. -/
structure SharedDataFacade (Region : Type) where
  currentLayout : Region
  currentData : Region
  currentTimestamp : Nat
  loaded : Option (SharedDataTimestamp Region)
  mapped : Option (Region × Region)
  blocksMapped : Bool
  deriving DecidableEq, Repr

/-- What a call of `CheckAndReloadFacade` leaves: the facade, the regions it passed to
`SharedMemory::Remove` in order, and the message of the exception it threw. -/
structure Reload (Region : Type) where
  facade : SharedDataFacade Region
  removed : List Region
  error : Option String
  deriving DecidableEq, Repr

variable {Region : Type}

/-- The cached triple. -/
def SharedDataFacade.cached (facade : SharedDataFacade Region) : SharedDataTimestamp Region :=
  ⟨facade.currentLayout, facade.currentData, facade.currentTimestamp⟩

/-- The state the constructor sets before its first `CheckAndReloadFacade`. -/
def initialFacade (layoutNone dataNone : Region) : SharedDataFacade Region :=
  ⟨layoutNone, dataNone, 0, none, none, false⟩

def leafIndexError : String :=
  "Could not load leaf index file. Is any data loaded into shared memory?"

/-- The first branch under the exclusive lock: on a new layout or data region, remove both cached
regions, adopt the published ones and force a reload by resetting the timestamp. -/
def releaseRegions [DecidableEq Region] (published : SharedDataTimestamp Region)
    (facade : SharedDataFacade Region) : Reload Region :=
  if facade.currentLayout ≠ published.layout ∨ facade.currentData ≠ published.data then
    let adopted :=
      { facade with currentLayout := published.layout, currentData := published.data
                    currentTimestamp := 0 }
    ⟨adopted, [facade.currentLayout, facade.currentData], none⟩
  else ⟨facade, [], none⟩

/-- The second branch: on a new timestamp, adopt it, reset `m_layout_memory` and `m_large_memory`
to mappings of the cached regions, which releases the mappings the blocks were read from, and load
the blocks from them, unless the leaf index file that the data region names does not exist: the
exception comes after the reset. -/
def reloadBlocks (leafIndexExists : Region → Bool) (published : SharedDataTimestamp Region)
    (step : Reload Region) : Reload Region :=
  if step.facade.currentTimestamp ≠ published.timestamp then
    let facade := { step.facade with
      currentTimestamp := published.timestamp
      mapped := some (step.facade.currentLayout, step.facade.currentData)
      blocksMapped := false }
    if leafIndexExists facade.currentData then
      { step with facade := { facade with loaded := some facade.cached, blocksMapped := true } }
    else { step with facade := facade, error := some leafIndexError }
  else step

def checkAndReloadFacade [DecidableEq Region] (leafIndexExists : Region → Bool)
    (published : SharedDataTimestamp Region) (facade : SharedDataFacade Region) : Reload Region :=
  if facade.currentLayout ≠ published.layout ∨ facade.currentData ≠ published.data ∨
      facade.currentTimestamp ≠ published.timestamp then
    reloadBlocks leafIndexExists published (releaseRegions published facade)
  else ⟨facade, [], none⟩

@[simp] theorem cached_eq_iff {facade : SharedDataFacade Region}
    {published : SharedDataTimestamp Region} :
    facade.cached = published ↔ facade.currentLayout = published.layout ∧
      facade.currentData = published.data ∧ facade.currentTimestamp = published.timestamp := by
  cases published
  simp [SharedDataFacade.cached]

section Release

variable [DecidableEq Region] (published : SharedDataTimestamp Region)
  (facade : SharedDataFacade Region)

@[simp] theorem releaseRegions_layout :
    (releaseRegions published facade).facade.currentLayout = published.layout := by
  unfold releaseRegions
  split
  · rfl
  · next same => exact (not_or.mp same).1 |> not_not.mp

@[simp] theorem releaseRegions_data :
    (releaseRegions published facade).facade.currentData = published.data := by
  unfold releaseRegions
  split
  · rfl
  · next same => exact (not_or.mp same).2 |> not_not.mp

theorem releaseRegions_timestamp :
    (releaseRegions published facade).facade.currentTimestamp =
      if facade.currentLayout = published.layout ∧ facade.currentData = published.data then
        facade.currentTimestamp else 0 := by
  unfold releaseRegions
  by_cases same : facade.currentLayout = published.layout ∧ facade.currentData = published.data
  · simp [same]
  · simp only [same, if_false, ite_eq_left_iff]
    rw [if_pos (by tauto)]

theorem releaseRegions_removed :
    (releaseRegions published facade).removed =
      if facade.currentLayout = published.layout ∧ facade.currentData = published.data then []
      else [facade.currentLayout, facade.currentData] := by
  unfold releaseRegions
  by_cases same : facade.currentLayout = published.layout ∧ facade.currentData = published.data
  · simp [same]
  · rw [if_pos (by tauto), if_neg same]

@[simp] theorem releaseRegions_loaded :
    (releaseRegions published facade).facade.loaded = facade.loaded := by
  unfold releaseRegions
  split <;> rfl

@[simp] theorem releaseRegions_error : (releaseRegions published facade).error = none := by
  unfold releaseRegions
  split <;> rfl

@[simp] theorem releaseRegions_mapped :
    (releaseRegions published facade).facade.mapped = facade.mapped := by
  unfold releaseRegions
  split <;> rfl

@[simp] theorem releaseRegions_blocksMapped :
    (releaseRegions published facade).facade.blocksMapped = facade.blocksMapped := by
  unfold releaseRegions
  split <;> rfl

end Release

section Reload

variable (leafIndexExists : Region → Bool) (published : SharedDataTimestamp Region)
  (step : Reload Region)

@[simp] theorem reloadBlocks_layout :
    (reloadBlocks leafIndexExists published step).facade.currentLayout =
      step.facade.currentLayout := by
  unfold reloadBlocks
  dsimp only
  split
  · split <;> rfl
  · rfl

@[simp] theorem reloadBlocks_data :
    (reloadBlocks leafIndexExists published step).facade.currentData =
      step.facade.currentData := by
  unfold reloadBlocks
  dsimp only
  split
  · split <;> rfl
  · rfl

@[simp] theorem reloadBlocks_timestamp :
    (reloadBlocks leafIndexExists published step).facade.currentTimestamp =
      published.timestamp := by
  unfold reloadBlocks
  dsimp only
  split
  · split <;> rfl
  · next same => exact not_not.mp same

@[simp] theorem reloadBlocks_removed :
    (reloadBlocks leafIndexExists published step).removed = step.removed := by
  unfold reloadBlocks
  dsimp only
  split
  · split <;> rfl
  · rfl

/-- A reload that happens maps the cached regions afresh and loads the blocks from them at the
published timestamp, or throws when the leaf index file is missing and leaves the blocks as they
were, outside the new mappings. -/
theorem reloadBlocks_of_ne (stale : step.facade.currentTimestamp ≠ published.timestamp) :
    (reloadBlocks leafIndexExists published step).facade.mapped =
        some (step.facade.currentLayout, step.facade.currentData) ∧
      if leafIndexExists step.facade.currentData then
        (reloadBlocks leafIndexExists published step).error = step.error ∧
          (reloadBlocks leafIndexExists published step).facade.loaded =
            some ⟨step.facade.currentLayout, step.facade.currentData, published.timestamp⟩ ∧
          (reloadBlocks leafIndexExists published step).facade.blocksMapped = true
      else (reloadBlocks leafIndexExists published step).error = some leafIndexError ∧
        (reloadBlocks leafIndexExists published step).facade.loaded = step.facade.loaded ∧
        (reloadBlocks leafIndexExists published step).facade.blocksMapped = false := by
  unfold reloadBlocks
  by_cases present : leafIndexExists step.facade.currentData <;>
    simp [stale, present, SharedDataFacade.cached]

theorem reloadBlocks_of_eq (current : step.facade.currentTimestamp = published.timestamp) :
    reloadBlocks leafIndexExists published step = step := by
  simp [reloadBlocks, current]

end Reload

/-- Blocks loaded from the cache whenever the cached timestamp is nonzero. -/
def Consistent (facade : SharedDataFacade Region) : Prop :=
  facade.currentTimestamp ≠ 0 → facade.loaded = some facade.cached

theorem consistent_initialFacade (layoutNone dataNone : Region) :
    Consistent (initialFacade layoutNone dataNone) :=
  fun nonzero => absurd rfl nonzero

variable [DecidableEq Region]

theorem checkAndReloadFacade_of_cached {leafIndexExists : Region → Bool}
    {published : SharedDataTimestamp Region} {facade : SharedDataFacade Region}
    (same : facade.cached = published) :
    checkAndReloadFacade leafIndexExists published facade = ⟨facade, [], none⟩ := by
  have := cached_eq_iff.mp same
  simp [checkAndReloadFacade, this]

/-- One call of `CheckAndReloadFacade` from any state that sees a published triple other than its
cache. It ends with the cache equal to the published triple. It removes regions only when the
layout or the data changed, and then exactly the two cached regions, even when one of them is
still published. It loads the blocks from the published triple, or throws when the leaf index
file is missing, except when the regions changed and the published timestamp is `0`: the forced
reset to `0` then makes the timestamps agree, and no reload happens. -/
theorem checkAndReloadFacade_observed (leafIndexExists : Region → Bool)
    (published : SharedDataTimestamp Region) (facade : SharedDataFacade Region)
    (observed : facade.cached ≠ published) :
    (checkAndReloadFacade leafIndexExists published facade).facade.cached = published ∧
      (checkAndReloadFacade leafIndexExists published facade).removed =
        (if facade.currentLayout = published.layout ∧ facade.currentData = published.data then []
          else [facade.currentLayout, facade.currentData]) ∧
      (published.timestamp ≠ 0 ∨
          facade.currentLayout = published.layout ∧ facade.currentData = published.data →
        if leafIndexExists published.data then
          (checkAndReloadFacade leafIndexExists published facade).error = none ∧
            (checkAndReloadFacade leafIndexExists published facade).facade.loaded = some published
        else (checkAndReloadFacade leafIndexExists published facade).error =
          some leafIndexError) := by
  have differs : facade.currentLayout ≠ published.layout ∨ facade.currentData ≠ published.data ∨
      facade.currentTimestamp ≠ published.timestamp := by
    simp only [ne_eq, cached_eq_iff] at observed
    tauto
  simp only [checkAndReloadFacade, if_pos differs]
  refine ⟨by simp, by rw [reloadBlocks_removed, releaseRegions_removed], fun reloads => ?_⟩
  have stale : (releaseRegions published facade).facade.currentTimestamp ≠ published.timestamp := by
    rw [releaseRegions_timestamp]
    split
    · next same => simpa [same.1, same.2] using differs
    · next changed => exact fun zero => reloads.elim (· zero.symm) changed
  have reload := (reloadBlocks_of_ne leafIndexExists published _ stale).2
  rw [releaseRegions_data, releaseRegions_layout, releaseRegions_error] at reload
  by_cases present : leafIndexExists published.data
  · rw [if_pos present] at reload ⊢
    exact ⟨reload.1, reload.2.1⟩
  · rw [if_neg present] at reload ⊢
    exact reload.1

/-- A call that sees a change runs both branches under the lock. -/
theorem checkAndReloadFacade_of_ne {leafIndexExists : Region → Bool}
    {published : SharedDataTimestamp Region} {facade : SharedDataFacade Region}
    (observed : facade.cached ≠ published) :
    checkAndReloadFacade leafIndexExists published facade =
      reloadBlocks leafIndexExists published (releaseRegions published facade) := by
  have differs : facade.currentLayout ≠ published.layout ∨ facade.currentData ≠ published.data ∨
      facade.currentTimestamp ≠ published.timestamp := by
    simp only [ne_eq, cached_eq_iff] at observed
    tauto
  rw [checkAndReloadFacade, if_pos differs]

/-- A call that sees new regions published at timestamp `0` removes both cached regions, adopts
the published ones and resets `CURRENT_TIMESTAMP` to `0` to force a reload; the reset makes the
timestamps agree, so it returns without mapping the new regions or loading any block. -/
theorem checkAndReloadFacade_skips_forced_reload (leafIndexExists : Region → Bool)
    (published : SharedDataTimestamp Region) (facade : SharedDataFacade Region)
    (changed : facade.currentLayout ≠ published.layout ∨ facade.currentData ≠ published.data)
    (unstamped : published.timestamp = 0) :
    checkAndReloadFacade leafIndexExists published facade =
      ⟨{ facade with currentLayout := published.layout, currentData := published.data
                     currentTimestamp := 0 },
        [facade.currentLayout, facade.currentData], none⟩ := by
  have observed : facade.cached ≠ published := fun same =>
    changed.elim (· (cached_eq_iff.mp same).1) (· (cached_eq_iff.mp same).2.1)
  rw [checkAndReloadFacade_of_ne observed, releaseRegions, if_pos changed]
  exact reloadBlocks_of_eq _ _ _ unstamped.symm

theorem checkAndReloadFacade_skips_forced_reload_constructor :
    ((initialFacade 0 1).currentLayout ≠ 2 ∨ (initialFacade 0 1).currentData ≠ 3) ∧
      (⟨2, 3, 0⟩ : SharedDataTimestamp Nat).timestamp = 0 ∧
      checkAndReloadFacade (fun _ => true) ⟨2, 3, 0⟩ (initialFacade 0 1) =
        ⟨{ initialFacade 0 1 with currentLayout := 2, currentData := 3, currentTimestamp := 0 },
          [0, 1], none⟩ :=
  ⟨by decide, rfl, checkAndReloadFacade_skips_forced_reload _ _ _ (by decide) rfl⟩

/-- Every call ends with the published triple cached, whether it saw a change or not. -/
theorem checkAndReloadFacade_cached (leafIndexExists : Region → Bool)
    (published : SharedDataTimestamp Region) (facade : SharedDataFacade Region) :
    (checkAndReloadFacade leafIndexExists published facade).facade.cached = published := by
  by_cases same : facade.cached = published
  · rw [checkAndReloadFacade_of_cached same]
    exact same
  · simp [checkAndReloadFacade_of_ne same]

/-- A call that does not throw keeps the blocks consistent with the cache: a reload that happens
loads them from the cache, and one that is skipped after a region change leaves the timestamp
`0`. -/
theorem consistent_checkAndReloadFacade {leafIndexExists : Region → Bool}
    {published : SharedDataTimestamp Region} {facade : SharedDataFacade Region}
    (consistent : Consistent facade)
    (succeeded : (checkAndReloadFacade leafIndexExists published facade).error = none) :
    Consistent (checkAndReloadFacade leafIndexExists published facade).facade := by
  by_cases same : facade.cached = published
  · rw [checkAndReloadFacade_of_cached same]
    exact consistent
  rw [checkAndReloadFacade_of_ne same] at succeeded ⊢
  intro nonzero
  by_cases stale : (releaseRegions published facade).facade.currentTimestamp ≠ published.timestamp
  · have reload := (reloadBlocks_of_ne leafIndexExists published _ stale).2
    split at reload
    · simpa [SharedDataFacade.cached] using reload.2.1
    · rw [reload.1] at succeeded
      cases succeeded
  · rw [reloadBlocks_of_eq _ _ _ (not_not.mp stale)] at nonzero ⊢
    rw [releaseRegions_timestamp] at stale nonzero
    split at nonzero
    · next kept => exact absurd (cached_eq_iff.mpr ⟨kept.1, kept.2, by simpa [kept] using stale⟩) same
    · exact absurd rfl nonzero

/-- A request between publications: `RunQuery` calls `CheckAndReloadFacade` before every query. -/
inductive Event (Region : Type)
  | publish (published : SharedDataTimestamp Region)
  | request

/-- The calls of a run: each request with the triple it saw published and what its call left. -/
def runFacade (leafIndexExists : Region → Bool) :
    SharedDataTimestamp Region → SharedDataFacade Region → List (Event Region) →
      List (SharedDataTimestamp Region × Reload Region)
  | _, _, [] => []
  | _, facade, .publish published :: events => runFacade leafIndexExists published facade events
  | published, facade, .request :: events =>
    let reload := checkAndReloadFacade leafIndexExists published facade
    (published, reload) :: runFacade leafIndexExists published reload.facade events

/-- From a consistent state, when no call of the run throws, each call that saw a nonzero
published timestamp leaves the blocks loaded from the triple it saw. -/
theorem runFacade_consistent (leafIndexExists : Region → Bool) (events : List (Event Region)) :
    ∀ (published : SharedDataTimestamp Region) (facade : SharedDataFacade Region),
      Consistent facade →
      (∀ call ∈ runFacade leafIndexExists published facade events, call.2.error = none) →
      ∀ call ∈ runFacade leafIndexExists published facade events,
        call.1.timestamp ≠ 0 → call.2.facade.loaded = some call.1 := by
  induction events with
  | nil => intro _ _ _ _ _ member; cases member
  | cons event events ih =>
    intro published facade consistent succeeded
    cases event with
    | publish next => exact ih next facade consistent succeeded
    | request =>
      simp only [runFacade, List.mem_cons, forall_eq_or_imp] at succeeded ⊢
      have after := consistent_checkAndReloadFacade consistent succeeded.1
      have cached := checkAndReloadFacade_cached leafIndexExists published facade
      refine ⟨fun nonzero => ?_, ih _ _ after succeeded.2⟩
      rw [after (by rw [← cached] at nonzero; exact nonzero), cached]

/-- Over every run from the constructor's state in which no call throws, each request that saw a
nonzero published timestamp leaves the blocks loaded from the published layout and data regions
at that timestamp. -/
theorem runFacade_loaded (layoutNone dataNone : Region) (leafIndexExists : Region → Bool)
    (published : SharedDataTimestamp Region) (events : List (Event Region))
    (succeeded : ∀ call ∈ runFacade leafIndexExists published
      (initialFacade layoutNone dataNone) events, call.2.error = none) :
    ∀ call ∈ runFacade leafIndexExists published (initialFacade layoutNone dataNone) events,
      call.1.timestamp ≠ 0 → call.2.facade.loaded = some call.1 :=
  runFacade_consistent leafIndexExists events published _
    (consistent_initialFacade layoutNone dataNone) succeeded

/-- Publishing a new data region under the same layout region makes the next request remove the
layout region `2` that is still published. -/
example :
    runFacade (fun _ => true) ⟨2, 3, 1⟩ (initialFacade 0 1)
        [.request, .publish ⟨2, 4, 2⟩, .request] =
      [(⟨2, 3, 1⟩, ⟨⟨2, 3, 1, some ⟨2, 3, 1⟩, some (2, 3), true⟩, [0, 1], none⟩),
        (⟨2, 4, 2⟩, ⟨⟨2, 4, 2, some ⟨2, 4, 2⟩, some (2, 4), true⟩, [2, 3], none⟩)] :=
  rfl

end Osrm.Engine.Datafacade
