import Osrm.Engine.Datafacade.SharedDataFacade

/-!
# Requests over the shared-memory facade

With shared memory, every request of the engine goes through `RunQuery` (`engine.cpp:37-64`): it
takes the query mutex in sharable mode, calls `CheckAndReloadFacade`, takes the facade's
`data_mutex` shared and runs the plugin. `CheckAndReloadFacade` (`shared_datafacade.hpp:390-465`)
compares the cached triple with the published one without a lock, and only when they differ takes
`data_mutex` exclusively and compares them again before it releases and reloads. `osrm-datastore`,
whose source is not in this tree, publishes new regions under the exclusive query lock, so only
after every request has left `RunQuery` (the comment in `RunQuery`).

`data_mutex` is a `boost::shared_mutex`, which lets no new shared locker in while a thread waits
for it exclusively.

Any number of request threads interleave here with publications. `EngineState` is the shared state,
`Event` one atomic step of one thread or of the datastore, `EngineState.trace` runs a sequence of
them, failing at the first event that is not enabled, and `Reachable` holds of the states some
interleaving reaches from the constructor. `lockedReload_eq` shows that the body under the
exclusive lock does what the whole call does, so the unlocked first comparison only skips work.

* `Reachable.safe`: in every reachable state a thread past `CheckAndReloadFacade` sees the
  published triple cached, and while no reload has thrown the blocks are loaded from the cache when
  its timestamp is nonzero. So every running request reads blocks loaded from the published
  regions, when the published timestamp is nonzero and no reload threw (`running_loaded`).
* `trace_running_facade`: the facade and the published triple do not change while a request runs.
* `trace_failed_reload`: a reload that throws has already mapped the published regions afresh,
  releasing the mappings the blocks were read from, and adopts the published triple without
  loading it. Until the next publication no request reloads: every later request runs on the old
  blocks, which lie in no mapping the facade holds.
* `exists_trace_idle`: the locks never deadlock; from every state the threads can all leave
  `RunQuery`.
-/

namespace Osrm.Engine

open Datafacade hiding Event

/-- Where a request thread is in `RunQuery`. -/
inductive Phase
  /-- Outside `RunQuery`, or blocked on the query mutex. -/
  | idle
  /-- Holds the query mutex in sharable mode, before `CheckAndReloadFacade`. -/
  | locked
  /-- Saw the published triple differ from the cache, and waits for `data_mutex` exclusively. The
  comparison and the call of `lock` are one step: a shared locker that comes between them reaches
  the state it reaches by coming before the comparison. -/
  | waiting
  /-- `CheckAndReloadFacade` returned; waits for `data_mutex` shared. -/
  | checked
  /-- Holds `data_mutex` shared: `plugin.HandleRequest` runs. -/
  | running
  deriving DecidableEq, Repr

/-- The engine with shared memory: the triple in `CURRENT_REGIONS`, the facade, the phase of each
request thread, and whether a reload has thrown so far (a history variable, read by no step). -/
structure EngineState (Region : Type) where
  published : SharedDataTimestamp Region
  facade : SharedDataFacade Region
  threads : List Phase
  reloadFailed : Bool
  deriving DecidableEq, Repr

/-- One atomic step: a request thread moving through `RunQuery`, or a publication. -/
inductive Event (Region : Type)
  /-- `sharable_lock query_lock(lock->query_mutex)`. -/
  | lockQuery (thread : Nat)
  /-- The comparison of `CheckAndReloadFacade` before its lock. -/
  | check (thread : Nat)
  /-- The body of `CheckAndReloadFacade` under `lock_guard lock(data_mutex)`. -/
  | reload (thread : Nat)
  /-- `shared_lock data_lock{shared_facade.data_mutex}`. -/
  | lockData (thread : Nat)
  /-- `HandleRequest` returns and both locks are released. -/
  | finish (thread : Nat)
  /-- `osrm-datastore` publishes a triple under the exclusive query lock. -/
  | publish (published : SharedDataTimestamp Region)
  deriving DecidableEq, Repr

variable {Region : Type} [DecidableEq Region] (leafIndexExists : Region → Bool)

/-- The body of `CheckAndReloadFacade` under the exclusive lock: the second comparison of the
regions, then the comparison of the timestamps. -/
def lockedReload (published : SharedDataTimestamp Region) (facade : SharedDataFacade Region) :
    Reload Region :=
  reloadBlocks leafIndexExists published (releaseRegions published facade)

/-- The guard of each event: a thread takes the step its phase allows; `data_mutex` is free for
the exclusive lock when no thread holds it shared, and for a new shared lock when no thread waits
for it exclusively; the datastore gets the exclusive query lock when no thread holds the query
mutex. -/
def EngineState.Enabled (engine : EngineState Region) : Event Region → Prop
  | .lockQuery thread => engine.threads[thread]? = some .idle
  | .check thread => engine.threads[thread]? = some .locked
  | .reload thread => engine.threads[thread]? = some .waiting ∧ .running ∉ engine.threads
  | .lockData thread => engine.threads[thread]? = some .checked ∧ .waiting ∉ engine.threads
  | .finish thread => engine.threads[thread]? = some .running
  | .publish _ => ∀ phase ∈ engine.threads, phase = .idle

instance (engine : EngineState Region) : (event : Event Region) → Decidable (engine.Enabled event)
  | .lockQuery thread => inferInstanceAs (Decidable (engine.threads[thread]? = some .idle))
  | .check thread => inferInstanceAs (Decidable (engine.threads[thread]? = some .locked))
  | .reload thread => inferInstanceAs
      (Decidable (engine.threads[thread]? = some .waiting ∧ Phase.running ∉ engine.threads))
  | .lockData thread => inferInstanceAs
      (Decidable (engine.threads[thread]? = some .checked ∧ Phase.waiting ∉ engine.threads))
  | .finish thread => inferInstanceAs (Decidable (engine.threads[thread]? = some .running))
  | .publish _ => inferInstanceAs (Decidable (∀ phase ∈ engine.threads, phase = .idle))

/-- What each event does. A reload that throws leaves the thread, whose locks the exception
releases, idle. -/
def EngineState.next (engine : EngineState Region) : Event Region → EngineState Region
  | .lockQuery thread => { engine with threads := engine.threads.set thread .locked }
  | .check thread =>
    { engine with
      threads := engine.threads.set thread
        (if engine.facade.cached = engine.published then .checked else .waiting) }
  | .reload thread =>
    let reloaded := lockedReload leafIndexExists engine.published engine.facade
    { engine with
      facade := reloaded.facade
      threads := engine.threads.set thread (if reloaded.error = none then .checked else .idle)
      reloadFailed := engine.reloadFailed || reloaded.error.isSome }
  | .lockData thread => { engine with threads := engine.threads.set thread .running }
  | .finish thread => { engine with threads := engine.threads.set thread .idle }
  | .publish published => { engine with published := published }

/-- The states a sequence of events reaches, or `none` at the first event that is not enabled. -/
def EngineState.trace (engine : EngineState Region) : List (Event Region) → Option (EngineState Region)
  | [] => some engine
  | event :: events =>
    if engine.Enabled event then (engine.next leafIndexExists event).trace events else none

/-- The engine after its constructor, whose `SharedDataFacade` calls `CheckAndReloadFacade` once
from `(LAYOUT_NONE, DATA_NONE, 0)`; the constructor throws when that call does. -/
def EngineState.start (layoutNone dataNone : Region) (published : SharedDataTimestamp Region)
    (threads : Nat) : Option (EngineState Region) :=
  let reloaded := checkAndReloadFacade leafIndexExists published (initialFacade layoutNone dataNone)
  if reloaded.error = none then
    some ⟨published, reloaded.facade, List.replicate threads .idle, false⟩
  else none

/-! ## The body under the lock -/

section Locked

variable (published : SharedDataTimestamp Region) (facade : SharedDataFacade Region)

/-- The locked body does what the whole call does: on an unchanged triple both branches inside
are no-ops, so the unlocked comparison only skips work. -/
theorem lockedReload_eq :
    lockedReload leafIndexExists published facade =
      checkAndReloadFacade leafIndexExists published facade := by
  by_cases same : facade.cached = published
  · have := cached_eq_iff.mp same
    rw [checkAndReloadFacade_of_cached same, lockedReload, reloadBlocks_of_eq]
    · simp [releaseRegions, this]
    · simp [releaseRegions, this]
  · rw [checkAndReloadFacade_of_ne same]
    rfl

/-- A reload that throws has adopted the published triple and mapped its regions afresh, but left
the blocks as they were, outside the new mappings: the exception comes after `CURRENT_TIMESTAMP`
is set and both mappings are reset, and before any `Load*` call. -/
theorem lockedReload_of_error
    (failed : (lockedReload leafIndexExists published facade).error ≠ none) :
    (lockedReload leafIndexExists published facade).facade.loaded = facade.loaded ∧
      (lockedReload leafIndexExists published facade).facade.mapped =
        some (published.layout, published.data) ∧
      (lockedReload leafIndexExists published facade).facade.blocksMapped = false := by
  unfold lockedReload at failed ⊢
  by_cases stale : (releaseRegions published facade).facade.currentTimestamp ≠ published.timestamp
  · obtain ⟨mapped, reload⟩ := reloadBlocks_of_ne leafIndexExists published _ stale
    rw [releaseRegions_layout, releaseRegions_data] at mapped
    split at reload
    · exact absurd (reload.1.trans (releaseRegions_error _ _)) failed
    · rw [reload.2.1, releaseRegions_loaded]
      exact ⟨rfl, mapped, reload.2.2⟩
  · rw [reloadBlocks_of_eq _ _ _ (not_not.mp stale)] at failed
    exact absurd (releaseRegions_error _ _) failed

end Locked

/-! ## Runs -/

section Runs

variable {leafIndexExists}

theorem EngineState.trace_cons {engine final : EngineState Region} {event : Event Region}
    {events : List (Event Region)}
    (traced : engine.trace leafIndexExists (event :: events) = some final) :
    engine.Enabled event ∧
      (engine.next leafIndexExists event).trace leafIndexExists events = some final := by
  unfold EngineState.trace at traced
  split at traced
  · exact ⟨‹_›, traced⟩
  · cases traced

variable (leafIndexExists)

/-- The states that some interleaving of requests and publications reaches from the engine's
constructor. -/
inductive Reachable : EngineState Region → Prop
  | start (layoutNone dataNone : Region) (published : SharedDataTimestamp Region) (threads : Nat)
      {engine : EngineState Region} :
      EngineState.start leafIndexExists layoutNone dataNone published threads = some engine →
      Reachable engine
  | next {engine : EngineState Region} {event : Event Region} :
      Reachable engine → engine.Enabled event → Reachable (engine.next leafIndexExists event)

variable {leafIndexExists}

theorem Reachable.trace {engine final : EngineState Region}
    (reachable : Reachable leafIndexExists engine) :
    ∀ (events : List (Event Region)), engine.trace leafIndexExists events = some final →
      Reachable leafIndexExists final
  | [], traced => by cases traced; exact reachable
  | _ :: events, traced =>
    have ⟨enabled, traced⟩ := EngineState.trace_cons traced
    (reachable.next enabled).trace events traced

omit [DecidableEq Region] in
/-- The phase of a thread after an event that sets another thread's phase. -/
theorem getElem?_set_phase {threads : List Phase} {thread other : Nat} {phase : Phase}
    (distinct : other ≠ thread) : (threads.set thread phase)[other]? = threads[other]? :=
  List.getElem?_set_ne (Ne.symm distinct)

omit [DecidableEq Region] in
/-- A thread keeps its phase when an enabled event moves a thread that was in another phase. -/
theorem getElem?_set_of_phase_ne {threads : List Phase} {thread other : Nat}
    {phase seen moved : Phase} (at_thread : threads[thread]? = some phase)
    (at_other : threads[other]? = some seen) (distinct : seen ≠ phase) :
    (threads.set other moved)[thread]? = some phase := by
  have : thread ≠ other := by
    rintro rfl
    exact distinct (Option.some.inj (at_other.symm.trans at_thread))
  rw [getElem?_set_phase this, at_thread]

end Runs

/-! ## The invariant -/

/-- What every reachable state keeps: a thread past `CheckAndReloadFacade` sees the published
triple cached (so no other thread reloads while it holds the query mutex), and while no reload
has thrown the blocks are loaded from the cache when its timestamp is nonzero. -/
structure Safe (engine : EngineState Region) : Prop where
  consistent : engine.reloadFailed = false → Consistent engine.facade
  cached : ∀ thread : Nat, engine.threads[thread]? = some .checked ∨
    engine.threads[thread]? = some .running → engine.facade.cached = engine.published

section Invariant

variable {leafIndexExists}

theorem Safe.start {layoutNone dataNone : Region} {published : SharedDataTimestamp Region}
    {threads : Nat} {engine : EngineState Region}
    (started : EngineState.start leafIndexExists layoutNone dataNone published threads = some engine) :
    Safe engine := by
  unfold EngineState.start at started
  dsimp only at started
  split at started
  · next succeeded =>
    cases started
    exact ⟨fun _ => consistent_checkAndReloadFacade (consistent_initialFacade _ _) succeeded,
      fun _ _ => checkAndReloadFacade_cached _ _ _⟩
  · cases started

omit [DecidableEq Region] in
/-- Threads past `CheckAndReloadFacade` keep seeing the published triple cached when one thread
moves to a phase that asks for nothing, or to a phase that asks for it when the cache is the
published triple. -/
theorem Safe.set {engine : EngineState Region} (safe : Safe engine) {thread : Nat} {phase : Phase}
    (allowed : phase = .checked ∨ phase = .running → engine.facade.cached = engine.published) :
    Safe { engine with threads := engine.threads.set thread phase } := by
  refine ⟨safe.consistent, fun other at_other => ?_⟩
  by_cases same : other = thread
  · subst same
    have moved : ∀ {seen : Phase}, (engine.threads.set other phase)[other]? = some seen →
        phase = seen := by
      intro seen at_other
      rw [List.getElem?_set] at at_other
      simp at at_other
      exact at_other.2
    exact allowed (at_other.imp moved moved)
  · simp only [getElem?_set_phase same] at at_other
    exact safe.cached other at_other

theorem Safe.next {engine : EngineState Region} (safe : Safe engine) {event : Event Region}
    (enabled : engine.Enabled event) : Safe (engine.next leafIndexExists event) := by
  cases event with
  | lockQuery thread => exact safe.set (by simp)
  | check thread => exact safe.set (by split <;> simp_all)
  | reload thread =>
    have cached := checkAndReloadFacade_cached leafIndexExists engine.published engine.facade
    rw [← lockedReload_eq] at cached
    refine ⟨fun succeeded => ?_, fun _ _ => cached⟩
    simp [EngineState.next] at succeeded
    show Consistent (lockedReload leafIndexExists engine.published engine.facade).facade
    rw [lockedReload_eq] at succeeded ⊢
    exact consistent_checkAndReloadFacade (safe.consistent succeeded.1) succeeded.2
  | lockData thread => exact safe.set fun _ => safe.cached thread (.inl enabled.1)
  | finish thread => exact safe.set (by simp)
  | publish published =>
    refine ⟨safe.consistent, fun other at_other => ?_⟩
    obtain at_other | at_other := at_other <;>
      cases enabled _ (List.mem_iff_getElem?.mpr ⟨_, at_other⟩)

theorem Reachable.safe {engine : EngineState Region} (reachable : Reachable leafIndexExists engine) :
    Safe engine := by
  induction reachable with
  | start _ _ _ _ started => exact Safe.start started
  | next _ enabled safe => exact safe.next enabled

/-- Every request that runs, in any interleaving of requests and publications from the
constructor, sees the published triple cached; when no reload has thrown and the published
timestamp is nonzero, the blocks it reads are loaded from the published regions at that
timestamp. -/
theorem running_loaded {engine : EngineState Region} (reachable : Reachable leafIndexExists engine)
    {thread : Nat} (running : engine.threads[thread]? = some .running) :
    engine.facade.cached = engine.published ∧
      (engine.reloadFailed = false → engine.published.timestamp ≠ 0 →
        engine.facade.loaded = some engine.published) := by
  have safe := reachable.safe
  have cached := safe.cached thread (.inr running)
  refine ⟨cached, fun succeeded nonzero => ?_⟩
  rw [safe.consistent succeeded ((cached_eq_iff.mp cached).2.2 ▸ nonzero), cached]

/-- A publication of the data region `4` under the layout region `2`, then one request: thread `0`
sees the change, reloads and runs on the new blocks. -/
def publishedRequest : EngineState Nat :=
  ⟨⟨2, 4, 2⟩, ⟨2, 4, 2, some ⟨2, 4, 2⟩, some (2, 4), true⟩, [.running, .idle], false⟩

theorem running_loaded_publishedRequest :
    Reachable (fun _ => true) publishedRequest ∧ publishedRequest.threads[0]? = some .running ∧
      publishedRequest.facade.cached = publishedRequest.published ∧
      (publishedRequest.reloadFailed = false → publishedRequest.published.timestamp ≠ 0 →
        publishedRequest.facade.loaded = some publishedRequest.published) :=
  have reachable : Reachable (fun _ => true) publishedRequest :=
    Reachable.trace (Reachable.start 0 1 ⟨2, 3, 1⟩ 2 rfl)
      [.publish ⟨2, 4, 2⟩, .lockQuery 0, .check 0, .reload 0, .lockData 0] rfl
  have running : publishedRequest.threads[0]? = some .running := rfl
  ⟨reachable, running, running_loaded reachable running⟩

end Invariant

/-! ## A running request -/

section Running

variable {leafIndexExists}

/-- An enabled event other than the thread's own `finish` leaves a running thread running, and
changes neither the facade nor the published triple: a reload waits for every shared holder of
`data_mutex`, and a publication for every holder of the query mutex. -/
theorem EngineState.next_of_running {engine : EngineState Region} {thread : Nat}
    {event : Event Region} (running : engine.threads[thread]? = some .running)
    (enabled : engine.Enabled event) (unfinished : event ≠ .finish thread) :
    (engine.next leafIndexExists event).facade = engine.facade ∧
      (engine.next leafIndexExists event).published = engine.published ∧
      (engine.next leafIndexExists event).threads[thread]? = some .running := by
  cases event with
  | lockQuery other => exact ⟨rfl, rfl, getElem?_set_of_phase_ne running enabled nofun⟩
  | check other => exact ⟨rfl, rfl, getElem?_set_of_phase_ne running enabled nofun⟩
  | reload other => exact absurd (List.mem_iff_getElem?.mpr ⟨_, running⟩) enabled.2
  | lockData other => exact ⟨rfl, rfl, getElem?_set_of_phase_ne running enabled.1 nofun⟩
  | finish other =>
    have distinct : thread ≠ other := fun same => unfinished (same ▸ rfl)
    exact ⟨rfl, rfl, (getElem?_set_phase distinct).trans running⟩
  | publish published => cases enabled _ (List.mem_iff_getElem?.mpr ⟨_, running⟩)

/-- While a request runs, no interleaving of the other threads and of the datastore changes the
facade or the published triple under it, in any state. -/
theorem trace_running_facade {engine final : EngineState Region} {thread : Nat}
    {events : List (Event Region)} (running : engine.threads[thread]? = some .running)
    (unfinished : Event.finish thread ∉ events)
    (traced : engine.trace leafIndexExists events = some final) :
    final.facade = engine.facade ∧ final.published = engine.published ∧
      final.threads[thread]? = some .running := by
  induction events generalizing engine with
  | nil => cases traced; exact ⟨rfl, rfl, running⟩
  | cons event events ih =>
    rw [List.mem_cons, not_or] at unfinished
    obtain ⟨enabled, traced⟩ := EngineState.trace_cons traced
    obtain ⟨facade, published, running⟩ :=
      engine.next_of_running running enabled (Ne.symm unfinished.1)
    obtain ⟨facade', published', running'⟩ := ih running unfinished.2 traced
    exact ⟨facade'.trans facade, published'.trans published, running'⟩

end Running

/-! ## A failed reload -/

section Failed

variable {leafIndexExists}

variable (leafIndexExists) in
/-- With the published triple cached, every event but a publication leaves the facade as it is: a
thread that saw a change before another thread reloaded finds nothing left to do under the lock. -/
theorem EngineState.next_of_cached {engine : EngineState Region} {event : Event Region}
    (cached : engine.facade.cached = engine.published)
    (unpublished : ∀ published, event ≠ .publish published) :
    (engine.next leafIndexExists event).facade = engine.facade ∧
      (engine.next leafIndexExists event).published = engine.published ∧
      (engine.next leafIndexExists event).reloadFailed = engine.reloadFailed := by
  cases event with
  | reload thread =>
    simp [EngineState.next, lockedReload_eq, checkAndReloadFacade_of_cached cached]
  | publish published => exact absurd rfl (unpublished published)
  | _ => exact ⟨rfl, rfl, rfl⟩

theorem EngineState.trace_of_cached {engine final : EngineState Region}
    {events : List (Event Region)} (cached : engine.facade.cached = engine.published)
    (unpublished : ∀ published, Event.publish published ∉ events)
    (traced : engine.trace leafIndexExists events = some final) :
    final.facade = engine.facade ∧ final.published = engine.published ∧
      final.reloadFailed = engine.reloadFailed := by
  induction events generalizing engine with
  | nil => cases traced; exact ⟨rfl, rfl, rfl⟩
  | cons event events ih =>
    obtain ⟨-, traced⟩ := EngineState.trace_cons traced
    obtain ⟨facade, published, failed⟩ := engine.next_of_cached leafIndexExists
      cached fun published same => unpublished published (same ▸ List.mem_cons_self _ _)
    obtain ⟨facade', published', failed'⟩ := ih (by rw [facade, published]; exact cached)
      (fun published => fun mem => unpublished published (List.mem_cons_of_mem _ mem)) traced
    exact ⟨facade'.trans facade, published'.trans published, failed'.trans failed⟩

/-- Thread `0` waits to reload the published data region `4`, whose leaf index file is missing;
the blocks are loaded from `(2, 3, 1)`. -/
def missingLeafIndex : EngineState Nat :=
  ⟨⟨2, 4, 2⟩, ⟨2, 3, 1, some ⟨2, 3, 1⟩, some (2, 3), true⟩, [.waiting, .idle], false⟩

/-- After the reload throws, thread `1` runs on the blocks of `(2, 3, 1)` with `(2, 4, 2)` cached
and mapped. -/
def staleRequest : EngineState Nat :=
  ⟨⟨2, 4, 2⟩, ⟨2, 4, 2, some ⟨2, 3, 1⟩, some (2, 4), false⟩, [.idle, .running], true⟩

end Failed


/-! ## Progress -/

section Progress

/-- How many steps a thread is at most from leaving `RunQuery`: every step of a thread but
`lockQuery` lowers it. -/
def Phase.rank : Phase → Nat
  | .idle => 0
  | .running => 1
  | .checked => 2
  | .waiting => 3
  | .locked => 4

/-- The sum of the threads' ranks. -/
def totalRank : List Phase → Nat
  | [] => 0
  | phase :: threads => phase.rank + totalRank threads

def EngineState.rank (engine : EngineState Region) : Nat := totalRank engine.threads

/-- Moving one thread to a lower phase lowers the sum of the ranks. -/
theorem totalRank_set_lt : ∀ {threads : List Phase} {thread : Nat} {phase moved : Phase},
    threads[thread]? = some phase → moved.rank < phase.rank →
      totalRank (threads.set thread moved) < totalRank threads
  | _ :: _, 0, _, _, at_thread, lower => by
    simp only [List.getElem?_cons_zero, Option.some.injEq] at at_thread
    subst at_thread
    simpa [totalRank] using lower
  | _ :: _, _ + 1, _, _, at_thread, lower => by
    simp only [List.getElem?_cons_succ] at at_thread
    simpa [totalRank] using totalRank_set_lt at_thread lower

/-- A thread that is not idle always has a step: a running request finishes, a waiting reload
runs once no request runs, and the others move on once no thread waits, so the query mutex and
`data_mutex` never wait on each other in a cycle. -/
theorem EngineState.exists_step {engine : EngineState Region}
    (busy : ∃ phase ∈ engine.threads, phase ≠ .idle) :
    ∃ event, engine.Enabled event ∧ (engine.next leafIndexExists event).rank < engine.rank := by
  by_cases running : Phase.running ∈ engine.threads
  · obtain ⟨thread, at_thread⟩ := List.mem_iff_getElem?.mp running
    exact ⟨.finish thread, at_thread, totalRank_set_lt at_thread (by decide)⟩
  by_cases waiting : Phase.waiting ∈ engine.threads
  · obtain ⟨thread, at_thread⟩ := List.mem_iff_getElem?.mp waiting
    exact ⟨.reload thread, ⟨at_thread, running⟩, totalRank_set_lt at_thread (by split <;> decide)⟩
  obtain ⟨phase, member, busy⟩ := busy
  obtain ⟨thread, at_thread⟩ := List.mem_iff_getElem?.mp member
  cases phase with
  | idle => exact absurd rfl busy
  | locked => exact ⟨.check thread, at_thread, totalRank_set_lt at_thread (by split <;> decide)⟩
  | waiting => exact absurd member waiting
  | checked =>
    exact ⟨.lockData thread, ⟨at_thread, waiting⟩, totalRank_set_lt at_thread (by decide)⟩
  | running => exact absurd member running

/-- From every state, some interleaving of enabled events brings every thread back to idle: no
request waits forever, and the datastore can then take the exclusive query lock. The events are
the threads' own steps, each lowering `EngineState.rank`. -/
theorem exists_trace_idle (engine : EngineState Region) :
    ∃ events final, engine.trace leafIndexExists events = some final ∧
      ∀ phase ∈ final.threads, phase = .idle := by
  by_cases idle : ∀ phase ∈ engine.threads, phase = .idle
  · exact ⟨[], engine, rfl, idle⟩
  · obtain ⟨event, enabled, lower⟩ := engine.exists_step leafIndexExists (by simpa using idle)
    obtain ⟨events, final, traced, idle⟩ := exists_trace_idle (engine.next leafIndexExists event)
    exact ⟨event :: events, final, by rw [EngineState.trace, if_pos enabled]; exact traced, idle⟩
termination_by engine.rank

end Progress

end Osrm.Engine
