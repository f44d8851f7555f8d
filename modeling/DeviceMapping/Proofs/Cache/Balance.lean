/-
**The counters of the cache balance.**

What the cache counts is compared with a `Tally` kept beside the run: the misses that found no load,
the loads whose failure was counted, those whose answer was stored, and the entries that went in
each of three ways the cache does not count.

* `entryCount_insert_add`, `entryCount_purgeExpired_add`, `MakesRoomBy.entryCount_add`: how many
  entries the operations add and take away.
* `entries_turn`: what an event stores comes, and what it evicts and tallies goes; so what was
  stored is what is left and what went (`Balanced.entries`).
* `countsOn_turn`: an event counts the call and the load that it begins.
* `failuresFit_turn`, `answersFit_turn`: no failure is counted twice and no answer is stored twice.
* `counters_balance`: all of this for every run.
-/

import DeviceMapping.Proofs.Cache.Barrier
import DeviceMapping.Proofs.Cache.Crowding
import DeviceMapping.Proofs.Cache.Ledger

namespace DeviceMapping

variable {α : Type}

namespace Phase

/-- The load has ended without a value, and this has come to light. -/
def Failed : Phase α → Prop
  | answered (.error _) | crashed true => True
  | queued | running | answered (.ok _) | crashed false => False

/-- The load has ended with a value. -/
def Succeeded : Phase α → Prop
  | answered (.ok _) => True
  | queued | running | answered (.error _) | crashed _ => False

end Phase

namespace Cache

/-! ### Tallies -/

/-- The event begins a call. -/
def Event.isGet : Event α → Bool
  | .get _ => true
  | _ => false

/-- A load holds the slot of the device. -/
def isHeld (cache : Cache α) (device : String) : Bool :=
  (cache.slots.get? device).any fun slot => slot.content?.isNone

/-- The event is a call that counted as a miss and found no load that holds the slot. -/
def isUnserved (before : Cache α) (event : Event α) (after : Cache α) : Bool :=
  match event with
  | .get device =>
    decide (before.counters.misses < after.counters.misses) && !before.isHeld device
  | _ => false

/-- The load whose failure the event counted: it ended, or a call took its result. -/
def failedBy (before : Cache α) (event : Event α) (after : Cache α) : List Nat :=
  if before.counters.failures < after.counters.failures then
    match event with
    | .finish load _ => [load]
    | .take call => (before.calls[call]?).toList.map Call.load
    | _ => []
  else []

/-- The load whose answer the event stored. -/
def storedBy (before : Cache α) (event : Event α) : List Nat :=
  match event, before.filled? event with
  | .finish load _, some _ => [load]
  | _, _ => []

/-- The number of expired entries that the event removed, as a purge or as it was short of room. -/
def purgedBy (before : Cache α) (event : Event α) : Nat :=
  match event, before.filled? event with
  | .purge, _ => before.staleCount
  | .finish _ _, some filled =>
    if filled.slots.size ≤ filled.settings.maxCapacity.toNat then 0 else filled.staleCount
  | _, _ => 0

/-- The number of entries in whose place the event put a load, as they had expired. -/
def replacedBy (before : Cache α) : Event α → Nat
  | .get device => ((before.slots.get? device).any before.isStale).toNat
  | _ => 0

/-- The number of entries that the event dropped with everything. -/
def clearedBy (before : Cache α) : Event α → Nat
  | .invalidateAll => before.entryCount
  | _ => 0

/-- What the cache does not count: the misses that found no load, the loads whose failure was
counted and those whose answer was stored, and the entries that were purged, replaced after they had
expired and dropped with everything. -/
structure Tally where
  unserved : Nat
  failed : List Nat
  stored : List Nat
  purged : Nat
  replaced : Nat
  cleared : Nat

namespace Tally

def blank : Tally := ⟨0, [], [], 0, 0, 0⟩

/-- The tally after an event. -/
def enter (before : Cache α) (event : Event α) (after : Cache α) (tally : Tally) : Tally where
  unserved := tally.unserved + (isUnserved before event after).toNat
  failed := failedBy before event after ++ tally.failed
  stored := storedBy before event ++ tally.stored
  purged := tally.purged + purgedBy before event
  replaced := tally.replaced + replacedBy before event
  cleared := tally.cleared + clearedBy before event

end Tally

/-! ### How many entries the operations add and take away -/

section Entries

variable {cache after : Cache α} {event : Event α} {victims : List String} {device : String}
  {load : Nat}

/-- What is put into a slot counts in place of what was there. -/
theorem entryCount_insert_add (cache after : Cache α) {slot : Slot α}
    (slots : after.slots = cache.slots.insert device slot) :
    after.entryCount + ((cache.slots.get? device).any fun old => old.content?.isSome).toNat =
      cache.entryCount + slot.content?.isSome.toNat := by
  rw [entryCount, filled, slots]
  exact cache.slots.size_filter_insert_add (fun _ old => old.content?.isSome) device slot

theorem entryCount_touch {entry : Entry α}
    (ready : cache.slots.get? device = some (.ready entry)) :
    (cache.touch device entry).entryCount = cache.entryCount := by
  have count := entryCount_insert_add cache (cache.touch device entry) rfl
  rw [ready] at count
  exact Nat.succ.inj count

/-- Purges take the expired entries away. -/
theorem entryCount_purgeExpired_add (cache : Cache α) :
    cache.purgeExpired.entryCount + cache.staleCount = cache.entryCount := by
  have slots := size_purgeExpired_add cache
  rw [size_eq cache, size_eq cache.purgeExpired, heldCount_purgeExpired] at slots
  omega

/-- A load that fails takes no entry away. -/
theorem entryCount_fail (cache : Cache α) (device : String) (load : Nat) :
    (cache.fail device load).entryCount = cache.entryCount := by
  by_cases held : cache.slots.get? device = some (.loading load)
  · have count := cache.slots.size_filter_erase_add (fun _ old => old.content?.isSome) device
    rw [held] at count
    rw [entryCount, filled, slots_fail_of_held held]
    exact count
  · rw [entryCount, filled, slots_fail_of_not_held held]
    rfl

/-- Making room takes what it evicts away and, if there is too little, the expired entries. -/
theorem MakesRoomBy.entryCount_add (room : MakesRoomBy cache victims after) :
    after.entryCount + victims.length +
        (if cache.slots.size ≤ cache.settings.maxCapacity.toNat then 0 else cache.staleCount) =
      cache.entryCount := by
  cases room with
  | enough fits =>
    rw [if_pos fits]
    rfl
  | evicted tooMany evictions settled =>
    rw [if_neg (Nat.not_le.mpr tooMany), evictions.entryCount_add]
    exact entryCount_purgeExpired_add cache

/-- The entries that an event removes without counting them. -/
def removedBy (before : Cache α) (event : Event α) : Nat :=
  purgedBy before event + replacedBy before event + clearedBy before event

theorem removedBy_finish {result : Except MappingError α}
    (stores : cache.filled? (.finish load result) = none) :
    removedBy cache (.finish load result) = 0 := by
  simp [removedBy, purgedBy, replacedBy, clearedBy, stores]

theorem removedBy_get (cache : Cache α) (device : String) :
    removedBy cache (.get device) = ((cache.slots.get? device).any cache.isStale).toNat := by
  simp [removedBy, purgedBy, replacedBy, clearedBy]

/-- An answer that is not stored changes nothing but its load. -/
theorem store_of_filled?_none {value : α} (stores : cache.filled? (.finish load (.ok value)) = none)
    (running : cache.loads[load]? = some ⟨device, .running⟩) :
    (cache.withAnswer load (.ok value)).store device load value =
      cache.withAnswer load (.ok value) := by
  refine store_of_not_held fun held => ?_
  rw [filled?_of_held value running held] at stores
  cases stores

/-- An event that stores nothing takes away the entries that it tallies and evicts none. -/
theorem entries_change (change : Change cache event after) (stores : cache.filled? event = none) :
    after.entryCount + removedBy cache event = cache.entryCount ∧
      after.counters.evictions = cache.counters.evictions := by
  cases change with
  | joined device load held =>
    rw [removedBy_get, held]
    exact ⟨rfl, rfl⟩
  | hit device entry ready fresh =>
    have lives : ((some (.ready entry) : Option (Slot α)).any cache.isStale) = false := fresh
    rw [removedBy_get, ready, lives]
    exact ⟨entryCount_touch ready, rfl⟩
  | began device free expired =>
    have count := entryCount_insert_add cache
      ((cache.startLoad device).join cache.loads.length) rfl
    have same : ((cache.slots.get? device).any fun old => old.content?.isSome) =
        (cache.slots.get? device).any cache.isStale := by
      cases found : cache.slots.get? device with
      | none => rfl
      | some slot =>
        cases slot with
        | loading load => exact absurd found (free load)
        | ready entry => exact (expired entry found).symm
    rw [removedBy_get, ← same]
    exact ⟨count, rfl⟩
  | found device entry ready fresh => exact ⟨entryCount_touch ready, rfl⟩
  | dropped =>
    have empty : cache.invalidateAll.entryCount = 0 := rfl
    exact ⟨by simp [empty, removedBy, purgedBy, replacedBy, clearedBy], rfl⟩
  | purged => exact ⟨entryCount_purgeExpired_add cache, rfl⟩
  | stored load device value running =>
    rw [store_of_filled?_none stores running, removedBy_finish stores]
    exact ⟨rfl, rfl⟩
  | failed => exact ⟨entryCount_fail _ _ _, rfl⟩
  | noticed => exact ⟨entryCount_fail _ _ _, rfl⟩
  | unfinished => exact ⟨by rw [removedBy_finish stores, Nat.add_zero], rfl⟩
  | advanced | granted | crashed | taken | abandoned => exact ⟨rfl, rfl⟩
  | missed | refused | uncrashed | untaken | unabandoned => exact ⟨rfl, rfl⟩

theorem storedBy_of_none (stores : cache.filled? event = none) : storedBy cache event = [] := by
  unfold storedBy
  rw [stores]
  cases event <;> rfl

/-- What is stored comes, and what is evicted and removed goes. -/
theorem entries_turn (turn : TurnBy cache event victims after) :
    after.entryCount + after.counters.evictions + removedBy cache event =
      cache.entryCount + cache.counters.evictions + (storedBy cache event).length := by
  cases turn with
  | step stores =>
    obtain ⟨count, evictions⟩ := entries_change (change_step cache event) stores
    rw [storedBy_of_none stores, List.length_nil, evictions]
    omega
  | stored stores room =>
    have fills := stores
    obtain ⟨load, device, value, rfl, running, held, rfl⟩ := filled?_eq_some stores
    have evictions : after.counters.evictions = cache.counters.evictions + victims.length := by
      rw [room.eq]
      rfl
    have left := room.entryCount_add
    have came := entryCount_insert_add cache (cache.withEntry load device value) rfl
    rw [held] at came
    simp [removedBy, purgedBy, replacedBy, clearedBy, storedBy, fills, Slot.content?] at came ⊢
    omega

end Entries

/-! ### Calls, loads and failures -/

section Counts

variable {cache after : Cache α} {event : Event α} {victims : List String}

/-- The counts of calls and loads go up by one for a call and for a load that begins. -/
structure CountsOn (cache : Cache α) (event : Event α) (after : Cache α) : Prop where
  asked : after.counters.hits + after.counters.misses =
    cache.counters.hits + cache.counters.misses + event.isGet.toNat
  calls : after.calls.length = cache.calls.length + event.isGet.toNat
  started : after.counters.loads = cache.counters.loads + (isUnserved cache event after).toNat
  loads : after.loads.length = cache.loads.length + (isUnserved cache event after).toNat

theorem countsOn_change (change : Change cache event after) (stores : cache.filled? event = none) :
    CountsOn cache event after := by
  cases change with
  | joined device load held =>
    have served : isUnserved cache (.get device) (cache.join load) = false := by
      simp [isUnserved, isHeld, held, Slot.content?]
    exact ⟨rfl, List.length_append, by rw [served]; rfl, by rw [served]; rfl⟩
  | hit device entry ready fresh =>
    have served : isUnserved cache (.get device) (cache.hit device entry) = false := by
      simp [isUnserved, Cache.hit, touch]
    exact ⟨Nat.add_right_comm _ _ _, List.length_append, by rw [served]; rfl, by rw [served]; rfl⟩
  | began device free expired =>
    have unheld : cache.isHeld device = false := by
      unfold isHeld
      cases found : cache.slots.get? device with
      | none => rfl
      | some slot =>
        cases slot with
        | loading load => exact absurd found (free load)
        | ready entry => rfl
    have unserved : isUnserved cache (.get device)
        ((cache.startLoad device).join cache.loads.length) = true := by
      simp [isUnserved, unheld, join, startLoad]
    refine ⟨rfl, List.length_append, ?_, ?_⟩
    · rw [unserved]
      rfl
    · rw [unserved]
      exact List.length_append
  | stored load device value running =>
    rw [store_of_filled?_none stores running]
    exact ⟨rfl, rfl, rfl, length_loads_setPhase _ _ _⟩
  | granted | failed | crashed => exact ⟨rfl, rfl, rfl, length_loads_setPhase _ _ _⟩
  | taken | abandoned => exact ⟨rfl, List.length_set, rfl, rfl⟩
  | noticed => exact ⟨rfl, List.length_set, rfl, length_loads_setPhase _ _ _⟩
  | found | missed | dropped | purged | advanced => exact ⟨rfl, rfl, rfl, rfl⟩
  | refused | unfinished | uncrashed | untaken | unabandoned => exact ⟨rfl, rfl, rfl, rfl⟩

theorem countsOn_turn (turn : TurnBy cache event victims after) : CountsOn cache event after := by
  cases turn with
  | step stores => exact countsOn_change (change_step cache event) stores
  | stored stores room =>
    obtain ⟨load, device, value, rfl, running, held, rfl⟩ := filled?_eq_some stores
    rw [room.eq]
    exact ⟨rfl, rfl, rfl, length_loads_setPhase _ _ _⟩

end Counts

section Failures

variable {cache after : Cache α} {event : Event α} {victims : List String} {failed : List Nat}
  {load : Nat} {device : String} {phase next : Phase α}

/-- The failures that were counted are those of the loads that failed, each once. -/
structure FailuresFit (failed : List Nat) (cache : Cache α) : Prop where
  counted : cache.counters.failures = failed.length
  nodup : failed.Nodup
  mem_iff : ∀ load, load ∈ failed ↔ cache.InPhase Phase.Failed load

namespace FailuresFit

theorem frame (fit : FailuresFit failed cache)
    (same : ∀ load, after.InPhase Phase.Failed load ↔ cache.InPhase Phase.Failed load)
    (counters : after.counters.failures = cache.counters.failures) :
    FailuresFit (failedBy cache event after ++ failed) after := by
  have nothing : failedBy cache event after = [] := if_neg (by rw [counters]; exact Nat.lt_irrefl _)
  rw [nothing]
  exact ⟨counters.trans fit.counted, fit.nodup,
    fun load => (fit.mem_iff load).trans (same load).symm⟩

/-- A failure is counted when the load first counts as failed. -/
theorem counts (fit : FailuresFit failed cache)
    (found : cache.loads[load]? = some ⟨device, phase⟩) (notBefore : ¬ phase.Failed)
    (loads : after.loads = (cache.setPhase load next).loads) (fails : next.Failed)
    (counters : after.counters.failures = cache.counters.failures + 1) :
    FailuresFit (load :: failed) after where
  counted := by rw [counters, fit.counted, List.length_cons]
  nodup := List.nodup_cons.mpr
    ⟨fun member => notBefore ((inPhase_iff found).mp ((fit.mem_iff load).mp member)), fit.nodup⟩
  mem_iff := fun other => by
    rw [inPhase_of_setPhase found loads, List.mem_cons, fit.mem_iff]
    by_cases same : other = load
    · simp [same, fails]
    · simp [same]

end FailuresFit

theorem failuresFit_change (fit : FailuresFit failed cache) (change : Change cache event after)
    (stores : cache.filled? event = none) :
    FailuresFit (failedBy cache event after ++ failed) after := by
  cases change with
  | began => exact fit.frame (fun _ => inPhase_of_begun rfl id) rfl
  | granted load device queued =>
    exact fit.frame (fun _ => inPhase_of_indifferent queued rfl .rfl) rfl
  | stored load device value running =>
    rw [store_of_filled?_none stores running]
    exact fit.frame (fun _ => inPhase_of_indifferent running rfl .rfl) rfl
  | failed load device fault running =>
    have named : failedBy cache (.finish load (.error fault))
        ((cache.withAnswer load (.error fault)).fail device load) = [load] :=
      if_pos (Nat.lt_succ_self _)
    rw [named]
    exact fit.counts running id rfl trivial rfl
  | crashed load device running =>
    exact fit.frame (fun _ => inPhase_of_indifferent running rfl .rfl) rfl
  | noticed call load device waiting unknown =>
    have named : failedBy cache (.take call)
        { (cache.setPhase load (.crashed true)).fail device load with
          calls := cache.calls.set call (.answered load (.error .loadCrashed)) } = [load] := by
      refine (if_pos (Nat.lt_succ_self _)).trans ?_
      show (cache.calls[call]?).toList.map Call.load = [load]
      rw [waiting]
      rfl
    rw [named]
    exact fit.counts unknown id rfl trivial rfl
  | joined | hit | found | dropped | purged | advanced | taken | abandoned =>
    exact fit.frame (fun _ => .rfl) rfl
  | missed | refused | unfinished | uncrashed | untaken | unabandoned =>
    exact fit.frame (fun _ => .rfl) rfl

theorem failuresFit_turn (fit : FailuresFit failed cache)
    (turn : TurnBy cache event victims after) :
    FailuresFit (failedBy cache event after ++ failed) after := by
  cases turn with
  | step stores => exact failuresFit_change fit (change_step cache event) stores
  | stored stores room =>
    obtain ⟨load, device, value, rfl, running, held, rfl⟩ := filled?_eq_some stores
    rw [room.eq]
    exact fit.frame (fun _ => inPhase_of_indifferent running rfl .rfl) rfl

end Failures

section Answers

variable {cache after : Cache α} {event : Event α} {victims : List String} {stored : List Nat}

/-- The loads whose answers were stored have ended with a value, and no answer was stored twice. -/
structure AnswersFit (stored : List Nat) (cache : Cache α) : Prop where
  nodup : stored.Nodup
  succeeded : ∀ load ∈ stored, cache.InPhase Phase.Succeeded load

/-- A load that has ended with a value stays so. -/
theorem Grows.succeeded (grows : Grows cache after) {load : Nat}
    (before : cache.InPhase Phase.Succeeded load) : after.InPhase Phase.Succeeded load := by
  obtain ⟨device, phase, found, succeeded⟩ := before
  obtain ⟨next, found', keeps⟩ := grows.loads load device phase found
  rcases phase with _ | _ | (_ | value) | _ <;> try cases succeeded
  cases eq_answered_of_result? (keeps _ rfl)
  exact ⟨device, _, found', trivial⟩

theorem answersFit_turn (fit : AnswersFit stored cache) (turn : TurnBy cache event victims after) :
    AnswersFit (storedBy cache event ++ stored) after := by
  cases turn with
  | step stores =>
    rw [storedBy_of_none stores]
    have grows := grows_change (change_step cache event)
    exact ⟨fit.nodup, fun load member => grows.succeeded (fit.succeeded load member)⟩
  | stored stores room =>
    have fills := stores
    obtain ⟨load, device, value, rfl, running, held, rfl⟩ := filled?_eq_some stores
    have named : storedBy cache (.finish load (.ok value)) = [load] := by
      unfold storedBy
      rw [fills]
    have succeeded : ∀ other, after.InPhase Phase.Succeeded other ↔
        if other = load then Phase.Succeeded (.answered (.ok value))
        else cache.InPhase Phase.Succeeded other := fun other => by
      rw [room.eq]
      exact inPhase_of_setPhase running rfl
    rw [named]
    refine ⟨List.nodup_cons.mpr ⟨fun member => ?_, fit.nodup⟩, fun other member => ?_⟩
    · exact (inPhase_iff running).mp (fit.succeeded load member)
    · rw [succeeded]
      split
      · trivial
      · rename_i different
        exact fit.succeeded other ((List.mem_cons.mp member).resolve_left different)

end Answers

/-! ### Runs -/

/-- The counters agree with the events of the run, with its loads and with the tally beside it. -/
structure Balanced (events : List (Event α)) (tally : Tally) (cache : Cache α) : Prop where
  asked : cache.counters.hits + cache.counters.misses = events.countP Event.isGet
  calls : cache.calls.length = events.countP Event.isGet
  started : cache.counters.loads = cache.loads.length
  unserved : cache.counters.loads = tally.unserved
  failures : FailuresFit tally.failed cache
  answers : AnswersFit tally.stored cache
  entries : tally.stored.length = cache.entryCount + cache.counters.evictions +
    (tally.purged + tally.replaced + tally.cleared)

theorem balanced_new (settings : CacheSettings) :
    Balanced [] .blank (Cache.new settings : Cache α) where
  asked := rfl
  calls := rfl
  started := rfl
  unserved := rfl
  failures := ⟨rfl, .nil, fun load => iff_of_false nofun fun ⟨_, _, found, _⟩ => by cases found⟩
  answers := ⟨.nil, nofun⟩
  entries := rfl

section Balanced

variable {events : List (Event α)} {tally : Tally} {cache after : Cache α} {event : Event α}

theorem balanced_turn (balanced : Balanced events tally cache) (turn : Turn cache event after) :
    Balanced (events ++ [event]) (tally.enter cache event after) after := by
  obtain ⟨victims, turn⟩ := turn_iff.mp turn
  have counts := countsOn_turn turn
  have gets : (events ++ [event]).countP Event.isGet =
      events.countP Event.isGet + event.isGet.toNat := by
    rw [List.countP_append, List.countP_singleton]
    cases event.isGet <;> rfl
  refine ⟨?_, ?_, ?_, ?_, failuresFit_turn balanced.failures turn,
    answersFit_turn balanced.answers turn, ?_⟩
  · rw [gets, counts.asked, balanced.asked]
  · rw [gets, counts.calls, balanced.calls]
  · rw [counts.started, counts.loads, balanced.started]
  · rw [counts.started, balanced.unserved]
    rfl
  · have entries := entries_turn turn
    have before := balanced.entries
    simp only [Tally.enter, List.length_append, removedBy] at entries ⊢
    omega

theorem balanced_kept {settings : CacheSettings}
    (kept : Kept Tally.enter (Cache.new settings) .blank events tally cache) :
    Balanced events tally cache := by
  induction kept with
  | stays => exact balanced_new settings
  | turns _ turn ih => exact balanced_turn ih turn

/-- A call that finds no load starts the next one. -/
theorem held_of_unserved {device : String}
    (unserved : isUnserved cache (.get device) after = true)
    (change : Change cache (.get device) after) :
    after.slots.get? device = some (.loading cache.loads.length) := by
  cases change with
  | joined _ load held => simp [isUnserved, isHeld, held, Slot.content?] at unserved
  | hit => simp [isUnserved, hit, touch] at unserved
  | began => exact (Table.get?_insert _ _ _ _).trans (if_pos rfl)

end Balanced

/-- **The counters balance.** Every run has a tally. In every state of every run, whichever of
several entries read at the same moment are evicted, the hits and misses are together the calls that
were begun. The loads counted are those there have been, as many as the misses that found no load
holding the slot, and their number is that of the next load. The failures counted are those of the
loads that have failed, each counted once, however many calls take its result. The loads whose
answers were stored, each once, are as many as there are entries now, evictions, and entries that
were purged, replaced after they had expired, and dropped with everything. -/
theorem counters_balance (settings : CacheSettings) :
    (∀ (events : List (Event α)) (cache : Cache α),
      Reaches (Cache.new settings) events cache ↔
        ∃ tally, Kept Tally.enter (Cache.new settings) .blank events tally cache) ∧
    ∀ (events : List (Event α)) (tally : Tally) (cache : Cache α),
      Kept Tally.enter (Cache.new settings) .blank events tally cache →
        (cache.counters.hits + cache.counters.misses = events.countP Event.isGet ∧
          cache.calls.length = events.countP Event.isGet) ∧
        (cache.counters.loads = cache.loads.length ∧ cache.counters.loads = tally.unserved ∧
          ∀ device, isUnserved cache (.get device) (cache.get device) = true →
            (cache.get device).slots.get? device = some (.loading cache.counters.loads)) ∧
        (cache.counters.failures = tally.failed.length ∧ tally.failed.Nodup ∧
          ∀ load, load ∈ tally.failed ↔ cache.InPhase Phase.Failed load) ∧
        (tally.stored.Nodup ∧ ∀ load ∈ tally.stored, cache.InPhase Phase.Succeeded load) ∧
        tally.stored.length = cache.entryCount + cache.counters.evictions +
          (tally.purged + tally.replaced + tally.cleared) := by
  refine ⟨fun events cache => kept_iff Tally.enter .blank, fun events tally cache kept => ?_⟩
  have balanced := balanced_kept kept
  obtain ⟨counted, nodup, mem_iff⟩ := balanced.failures
  refine ⟨⟨balanced.asked, balanced.calls⟩,
    ⟨balanced.started, balanced.unserved, fun device next => ?_⟩, ⟨counted, nodup, mem_iff⟩,
    ⟨balanced.answers.nodup, balanced.answers.succeeded⟩, balanced.entries⟩
  rw [balanced.started]
  exact held_of_unserved next (change_get cache device)

/-- One device is asked for until its entry has expired and the next load has crashed beside two
calls; the entry of another one is purged, and that of a third dropped. -/
def turnover : List (Event Nat) :=
  [.get "lamp", .grant 0, .finish 0 (.ok 1), .get "lamp", .advance 1000, .get "lamp", .get "lamp",
    .grant 1, .crash 1, .take 2, .take 3, .get "plug", .grant 2, .finish 2 (.ok 2), .advance 1000,
    .purge, .get "spot", .grant 3, .finish 3 (.ok 3), .invalidateAll]

/-- Of four loads one has failed, and the values of the other three are gone, each in its way. -/
theorem counters_balance_turnover :
    let cache := (Cache.new brief).run turnover
    cache.counters = ⟨1, 5, 4, 1, 1, 0⟩ ∧
      ∃ tally, Kept Tally.enter (Cache.new brief) .blank turnover tally cache ∧
        tally.unserved = 4 ∧ tally.failed = [1] ∧
        tally.stored.length = tally.purged + tally.replaced + tally.cleared := by
  intro cache
  obtain ⟨tallies, balances⟩ := @counters_balance Nat brief
  obtain ⟨tally, kept⟩ := (tallies turnover cache).mp (reaches_run _ _)
  obtain ⟨-, ⟨-, unserved, -⟩, ⟨counted, -, mem_iff⟩, -, entries⟩ := balances _ _ _ kept
  refine ⟨rfl, tally, kept, unserved.symm, ?_, entries.trans (Nat.zero_add _)⟩
  obtain ⟨only, named⟩ := List.length_eq_one_iff.mp counted.symm
  have failed : 1 ∈ tally.failed := (mem_iff 1).mpr ⟨"lamp", _, rfl, trivial⟩
  rw [named, List.mem_singleton] at failed
  rw [named, failed]

end Cache

end DeviceMapping
