/-
**When values expire.**

`Chronicle history cache` ties the entries of a cache to its history: an entry carries the times at
which the history says its value was stored and last used, and a value that is kept is an entry
unless it has outlived a limit. One lemma for each way the slots and the history change
(`Chronicle.fewer`, `Chronicle.returned`, `Chronicle.stored`, `Chronicle.evicted`), and from these
the step and the run (`chronicle_turn`, `chronicle_recorded`).

* `fresh?_iff`: a fresh entry is the value of a load of the device that is kept and in time.
* `expired_turn`, `expired_recorded`: a value that is not in time any more is never returned or
  stored again, so it stays so.
* `expiry_exact`: what calls find, in every state of every run.
-/

import DeviceMapping.Proofs.Cache.Barrier
import DeviceMapping.Proofs.Cache.Crowding
import DeviceMapping.Proofs.Cache.History

namespace DeviceMapping.Cache

variable {α : Type}

/-- By its history the value of a load is within the limits: less than the one has passed since it
was stored and, if there is another one, less than that since it was last stored or returned. -/
def InTime (settings : CacheSettings) (history : History) (now load : Nat) : Prop :=
  ∃ written used, history.storedAt? load = some written ∧ history.usedAt? load = some used ∧
    written ≤ used ∧ used ≤ now ∧ now - written < settings.writeExpiry ∧
      ∀ idle, settings.accessExpiry = some idle → now - used < idle

theorem isExpired_eq_false_iff {cache : Cache α} {entry : Entry α} :
    cache.isExpired entry = false ↔ cache.now - entry.writtenAt < cache.settings.writeExpiry ∧
      ∀ idle, cache.settings.accessExpiry = some idle → cache.now - entry.accessedAt < idle := by
  unfold isExpired
  cases cache.settings.accessExpiry with
  | none => simp
  | some idle => simp

/-! ### Loads, devices and entries -/

section Loads

variable {mark : Nat} {cache after : Cache α} {device : String} {load : Nat} {value : α}

/-- The values of two devices are of different loads. -/
theorem Tidy.device_eq (tidy : Tidy mark cache) {other : String} {entry kept : Entry α}
    (ready : cache.slots.get? device = some (.ready entry))
    (ready' : cache.slots.get? other = some (.ready kept)) (same : kept.load = entry.load) :
    other = device := by
  have first := ((tidy.fits device).stored entry ready).2
  have second := ((tidy.fits other).stored kept ready').2
  rw [same, first] at second
  exact (congrArg Load.device (Option.some.inj second)).symm

/-- The answer of a load that holds its slot fills it. -/
theorem tidy_withEntry (tidy : Tidy mark cache)
    (running : cache.loads[load]? = some ⟨device, .running⟩)
    (held : cache.slots.get? device = some (.loading load)) :
    Tidy mark (cache.withEntry load device value) := by
  refine tidy.changed running rfl (fun other different => ?_) ?_
  · show (cache.slots.insert device _).get? other = _
    rw [Table.get?_insert, if_neg different]
  · show SlotFits mark _ device ((cache.slots.insert device _).get? device)
    rw [Table.get?_insert, if_pos rfl]
    exact (held ▸ tidy.fits device).filled running value cache.now cache.now

/-- Making room changes nothing but the slots and what is counted. -/
theorem MakesRoomBy.same {victims : List String} (room : MakesRoomBy cache victims after) :
    after.settings = cache.settings ∧ after.now = cache.now ∧ after.loads = cache.loads ∧
      after.calls = cache.calls := by
  rw [room.eq]
  exact ⟨rfl, rfl, rfl, rfl⟩

/-- What is left was not evicted. -/
theorem MakesRoomBy.not_mem_of_left {victims : List String} (room : MakesRoomBy cache victims after)
    {entry : Entry α} (left : after.slots.get? device = some (.ready entry)) :
    device ∉ victims := by
  intro evicted
  cases room with
  | enough => cases evicted
  | evicted tooMany evictions settled =>
    rw [evictions.get?_slots, if_pos evicted] at left
    cases left

/-- What is not left was evicted or had expired. -/
theorem MakesRoomBy.left_or_gone {victims : List String} (room : MakesRoomBy cache victims after)
    {entry : Entry α} (ready : cache.slots.get? device = some (.ready entry)) :
    after.slots.get? device = some (.ready entry) ∨ device ∈ victims ∨
      cache.isExpired entry = true := by
  cases room with
  | enough => exact .inl ready
  | evicted tooMany evictions settled =>
    by_cases evicted : device ∈ victims
    · exact .inr (.inl evicted)
    · rw [evictions.get?_slots, if_neg evicted]
      rcases thinned_purgeExpired cache device with same | ⟨gone, -⟩
      · exact .inl (same.trans ready)
      · refine .inr (.inr ?_)
        by_contra fresh
        have left : cache.live? device = some (.ready entry) :=
          live?_eq_ready_iff.mpr ⟨ready, Bool.eq_false_iff.mpr fresh⟩
        rw [← get?_purgeExpired, gone] at left
        cases left

/-- The load of an entry is among those of some devices exactly if its device is among them. -/
theorem mem_loads_iff (tidy : Tidy mark cache) {devices : List String} {entry : Entry α}
    (ready : cache.slots.get? device = some (.ready entry)) :
    entry.load ∈ devices.filterMap cache.loadOf? ↔ device ∈ devices := by
  have of : ∀ other load, cache.loadOf? other = some load ↔
      ∃ kept, cache.slots.get? other = some (.ready kept) ∧ kept.load = load := by
    intro other load
    rw [loadOf?]
    cases cache.slots.get? other with
    | none => simp
    | some slot => cases slot <;> simp [Slot.content?]
  rw [List.mem_filterMap]
  constructor
  · rintro ⟨other, member, load⟩
    obtain ⟨kept, ready', same⟩ := (of other _).mp load
    exact tidy.device_eq ready ready' same ▸ member
  · intro member
    exact ⟨device, member, (of device _).mpr ⟨entry, ready, rfl⟩⟩

/-- The answer of a load stays its answer. -/
theorem Grows.answered (grows : Grows cache after)
    (found : cache.loads[load]? = some ⟨device, .answered (.ok value)⟩) :
    after.loads[load]? = some ⟨device, .answered (.ok value)⟩ := by
  obtain ⟨next, found', keeps⟩ := grows.loads load device _ found
  rwa [eq_answered_of_result? (keeps _ rfl)] at found'

end Loads

/-! ### The entries and the history -/

/-- The entries of a cache are what its history says. -/
structure Chronicle (history : History) (cache : Cache α) : Prop where
  tidy : ∃ mark, Tidy mark cache
  ready : ∀ device entry, cache.slots.get? device = some (.ready entry) →
    history.storedAt? entry.load = some entry.writtenAt ∧
      history.usedAt? entry.load = some entry.accessedAt ∧ history.isKept entry.load = true
  kept : ∀ load, history.isKept load = true → InTime cache.settings history cache.now load →
    ∃ device entry, cache.slots.get? device = some (.ready entry) ∧ entry.load = load
  answered : ∀ load time, history.storedAt? load = some time →
    ∃ device value, cache.loads[load]? = some ⟨device, .answered (.ok value)⟩
  times : ∀ load written used, history.storedAt? load = some written →
    history.usedAt? load = some used → written ≤ used ∧ used ≤ cache.now

theorem chronicle_new (settings : CacheSettings) :
    Chronicle [] (Cache.new settings : Cache α) :=
  ⟨⟨0, tidy_new settings⟩, nofun, nofun, nofun, nofun⟩

/-- As time passes a value does not come back into its limits. -/
theorem InTime.of_later {settings : CacheSettings} {history : History} {now later load : Nat}
    (inTime : InTime settings history later load) (passes : now ≤ later)
    (times : ∀ used, history.usedAt? load = some used → used ≤ now) :
    InTime settings history now load := by
  obtain ⟨written, used, stored, last, order, -, write, access⟩ := inTime
  refine ⟨written, used, stored, last, order, times used last, by omega, fun idle limit => ?_⟩
  have := access idle limit
  omega

namespace Chronicle

variable {history : History} {cache after : Cache α} {device : String} {load : Nat}
  {entry : Entry α}

theorem inTime_iff (chronicle : Chronicle history cache)
    (ready : cache.slots.get? device = some (.ready entry)) :
    InTime cache.settings history cache.now entry.load ↔ cache.isExpired entry = false := by
  obtain ⟨stored, used, -⟩ := chronicle.ready device entry ready
  obtain ⟨order, past⟩ := chronicle.times _ _ _ stored used
  rw [isExpired_eq_false_iff]
  constructor
  · rintro ⟨written, last, stored', used', -, -, limits⟩
    rw [stored] at stored'
    rw [used] at used'
    cases stored'
    cases used'
    exact limits
  · intro limits
    exact ⟨_, _, stored, used, order, past, limits⟩

/-- Entries may go once they have expired, and time may pass. -/
theorem fewer (chronicle : Chronicle history cache) (settings : after.settings = cache.settings)
    (passes : cache.now ≤ after.now) (tidy : ∃ mark, Tidy mark after) (grows : Grows cache after)
    (old : ∀ device entry, after.slots.get? device = some (.ready entry) →
      cache.slots.get? device = some (.ready entry))
    (gone : ∀ device entry, cache.slots.get? device = some (.ready entry) →
      after.slots.get? device = some (.ready entry) ∨ cache.isExpired entry = true) :
    Chronicle history after := by
  refine ⟨tidy, fun device entry ready => chronicle.ready device entry (old device entry ready),
    fun load kept inTime => ?_, fun load time stored => ?_,
    fun load written used stored last => ?_⟩
  · have before : InTime cache.settings history cache.now load := by
      rw [settings] at inTime
      have ⟨written, _, stored, _⟩ := inTime
      exact inTime.of_later passes fun used last =>
        (chronicle.times load written used stored last).2
    obtain ⟨device, entry, ready, rfl⟩ := chronicle.kept load kept before
    rcases gone device entry ready with left | expired
    · exact ⟨device, entry, left, rfl⟩
    · rw [(chronicle.inTime_iff ready).mp before] at expired
      cases expired
  · obtain ⟨device, value, found⟩ := chronicle.answered load time stored
    exact ⟨device, value, grows.answered found⟩
  · obtain ⟨order, past⟩ := chronicle.times load written used stored last
    exact ⟨order, Nat.le_trans past passes⟩

/-- Nothing becomes of the entries where none comes and none goes. -/
theorem still (chronicle : Chronicle history cache) (settings : after.settings = cache.settings)
    (now : after.now = cache.now) (tidy : ∃ mark, Tidy mark after) (grows : Grows cache after)
    (same : ∀ device entry, after.slots.get? device = some (.ready entry) ↔
      cache.slots.get? device = some (.ready entry)) : Chronicle history after :=
  chronicle.fewer settings (Nat.le_of_eq now.symm) tidy grows
    (fun device entry => (same device entry).mp)
    fun device entry ready => .inl ((same device entry).mpr ready)

/-- A load begins where there is no entry, or one that has expired. -/
theorem begun (chronicle : Chronicle history cache)
    (expired : ∀ entry, cache.slots.get? device = some (.ready entry) →
      cache.isExpired entry = true)
    (tidy : ∃ mark, Tidy mark ((cache.startLoad device).join cache.loads.length))
    (grows : Grows cache ((cache.startLoad device).join cache.loads.length)) :
    Chronicle history ((cache.startLoad device).join cache.loads.length) := by
  have slots : ∀ other, ((cache.startLoad device).join cache.loads.length).slots.get? other =
      if other = device then some (.loading cache.loads.length)
      else cache.slots.get? other := fun other => Table.get?_insert _ _ _ _
  refine chronicle.fewer rfl (Nat.le_refl _) tidy grows (fun other entry ready => ?_)
    fun other entry ready => ?_
  · rw [slots] at ready
    split at ready
    · cases ready
    · exact ready
  · rw [slots]
    by_cases here : other = device
    · exact .inr (expired entry (here ▸ ready))
    · exact .inl ((if_neg here).trans ready)

/-- Expired entries may be removed. -/
theorem purged (chronicle : Chronicle history cache) (tidy : ∃ mark, Tidy mark cache.purgeExpired)
    (grows : Grows cache cache.purgeExpired) : Chronicle history cache.purgeExpired := by
  refine chronicle.fewer rfl (Nat.le_refl _) tidy grows
    (fun device entry => (thinned_purgeExpired cache).get?_of_some) fun device entry ready => ?_
  by_cases expired : cache.isExpired entry = true
  · exact .inr expired
  · rw [get?_purgeExpired, live?_eq_ready_iff]
    exact .inl ⟨ready, Bool.eq_false_iff.mpr expired⟩

/-- Once everything is dropped no value is kept. -/
theorem dropped (chronicle : Chronicle history cache) :
    Chronicle ((cache.now, .dropped) :: history) cache.invalidateAll := by
  refine ⟨⟨_, tidy_invalidateAll cache⟩, nofun, fun load kept => ?_, fun load time stored => ?_,
    fun load written used stored last => ?_⟩
  · simp [History.isKept_cons] at kept
  · exact chronicle.answered load time (by simpa [History.storedAt?_cons] using stored)
  · exact chronicle.times load written used (by simpa [History.storedAt?_cons] using stored)
      (by simpa [History.usedAt?_cons] using last)

/-- An entry that is written or read now takes its place; no other load is concerned. -/
theorem refilled (chronicle : Chronicle history cache) (entry : Entry α) {happening : Happening}
    (about : happening = .stored entry.load ∨ happening = .returned entry.load)
    (slots : after.slots = cache.slots.insert device (.ready entry))
    (same : after.settings = cache.settings ∧ after.now = cache.now)
    (tidy : ∃ mark, Tidy mark after) (grows : Grows cache after)
    (here : ∀ old, cache.slots.get? device = some (.ready old) → old.load = entry.load)
    (stored : History.storedAt? ((cache.now, happening) :: history) entry.load =
      some entry.writtenAt)
    (isKept : History.isKept ((cache.now, happening) :: history) entry.load = true)
    (order : entry.writtenAt ≤ cache.now) (read : entry.accessedAt = cache.now) :
    Chronicle ((cache.now, happening) :: history) after := by
  have used : History.usedAt? ((cache.now, happening) :: history) entry.load =
      some entry.accessedAt := by
    rw [History.usedAt?_cons, if_pos about, read]
  have others := fun load (different : entry.load ≠ load) =>
    history.cons_of_other cache.now about different
  have ready : after.slots.get? device = some (.ready entry) := by
    rw [slots, Table.get?_insert, if_pos rfl]
  have elsewhere : ∀ other, other ≠ device →
      after.slots.get? other = cache.slots.get? other := fun other different => by
    rw [slots, Table.get?_insert, if_neg different]
  obtain ⟨mark, tidy⟩ := tidy
  refine ⟨⟨mark, tidy⟩, fun other old found => ?_, fun load kept inTime => ?_,
    fun load time answer => ?_, fun load written last first latest => ?_⟩
  · by_cases placed : other = device
    · rw [placed, ready] at found
      cases found
      exact ⟨stored, used, isKept⟩
    · obtain ⟨sameStored, sameUsed, sameKept⟩ :=
        others old.load fun load => placed (tidy.device_eq ready found load.symm)
      rw [sameStored, sameUsed, sameKept]
      exact chronicle.ready other old (elsewhere other placed ▸ found)
  · by_cases this : entry.load = load
    · exact ⟨device, entry, ready, this⟩
    · obtain ⟨sameStored, sameUsed, sameKept⟩ := others load this
      rw [InTime, same.1, same.2, sameStored, sameUsed] at inTime
      obtain ⟨other, old, found, is⟩ := chronicle.kept load (sameKept ▸ kept) inTime
      refine ⟨other, old, ?_, is⟩
      rw [elsewhere other fun placed => this (is ▸ (here old (placed ▸ found)).symm)]
      exact found
  · by_cases this : entry.load = load
    · exact ⟨device, entry.value, this ▸ ((tidy.fits device).stored entry ready).2⟩
    · rw [(others load this).1] at answer
      obtain ⟨other, value, found⟩ := chronicle.answered load time answer
      exact ⟨other, value, grows.answered found⟩
  · rw [same.2]
    by_cases this : entry.load = load
    · subst this
      cases stored.symm.trans first
      cases used.symm.trans latest
      omega
    · obtain ⟨sameStored, sameUsed, -⟩ := others load this
      rw [sameStored] at first
      rw [sameUsed] at latest
      exact chronicle.times load written last first latest

/-- Reading an entry notes the time. -/
theorem returned (chronicle : Chronicle history cache)
    (ready : cache.slots.get? device = some (.ready entry))
    (slots : after.slots =
      cache.slots.insert device (.ready { entry with accessedAt := cache.now }))
    (same : after.settings = cache.settings ∧ after.now = cache.now)
    (tidy : ∃ mark, Tidy mark after) (grows : Grows cache after) :
    Chronicle ((cache.now, .returned entry.load) :: history) after := by
  obtain ⟨stored, used, isKept⟩ := chronicle.ready device entry ready
  obtain ⟨order, past⟩ := chronicle.times _ _ _ stored used
  refine chronicle.refilled { entry with accessedAt := cache.now } (.inr rfl) slots same
    tidy grows (fun old found => ?_) ?_ ?_ (Nat.le_trans order past) rfl
  · rw [ready] at found
    cases found
    rfl
  · simpa [History.storedAt?_cons] using stored
  · simpa [History.isKept_cons] using isKept

/-- An answer that is stored is written and read at the same time. -/
theorem stored (chronicle : Chronicle history cache)
    (running : cache.loads[load]? = some ⟨device, .running⟩)
    (held : cache.slots.get? device = some (.loading load)) (value : α) :
    Chronicle ((cache.now, .stored load) :: history) (cache.withEntry load device value) := by
  obtain ⟨mark, tidy⟩ := chronicle.tidy
  have grows : Grows cache (cache.withEntry load device value) := .changed running nofun rfl rfl
  refine chronicle.refilled ⟨value, load, cache.now, cache.now⟩ (.inl rfl) rfl
    ⟨rfl, rfl⟩ ⟨mark, tidy_withEntry tidy running held⟩ grows (fun old found => ?_) ?_ ?_
    (Nat.le_refl _) rfl
  · rw [held] at found
    cases found
  · simp [History.storedAt?_cons]
  · simp [History.isKept_cons]

/-- The entries that are evicted are kept no more, and the expired ones may go as well. -/
theorem evicted (chronicle : Chronicle history cache) {victims : List String}
    (room : MakesRoomBy cache victims after) :
    Chronicle ((((victims.filterMap cache.loadOf?).map Happening.evicted).map
      fun other => (cache.now, other)) ++ history) after := by
  obtain ⟨settings, now, loads, calls⟩ := room.same
  obtain ⟨mark, tidy⟩ := chronicle.tidy
  have old := (makesRoom_iff.mpr ⟨victims, room⟩).thinned
  have apart : ∀ load, ∀ other ∈ (victims.filterMap cache.loadOf?).map Happening.evicted,
      other ≠ .stored load ∧ other ≠ .returned load := fun load other member => by
    obtain ⟨victim, -, rfl⟩ := List.mem_map.mp member
    exact ⟨nofun, nofun⟩
  have times := fun load => history.times_of_others cache.now load (apart load)
  refine ⟨⟨mark, tidy.thinned old loads⟩, fun device entry left => ?_, fun load kept inTime => ?_,
    fun load time stored => ?_, fun load written used stored last => ?_⟩
  · have ready := old.get?_of_some left
    obtain ⟨stored, used, kept⟩ := chronicle.ready device entry ready
    rw [(times entry.load).1, (times entry.load).2, History.isKept_of_evicted]
    refine ⟨stored, used, fun evicted => ?_, kept⟩
    exact room.not_mem_of_left left ((mem_loads_iff tidy ready).mp evicted)
  · obtain ⟨notEvicted, kept⟩ := (history.isKept_of_evicted cache.now load _).mp kept
    rw [InTime, settings, now, (times load).1, (times load).2] at inTime
    obtain ⟨device, entry, ready, rfl⟩ := chronicle.kept load kept inTime
    rcases room.left_or_gone ready with left | evicted | expired
    · exact ⟨device, entry, left, rfl⟩
    · exact absurd ((mem_loads_iff tidy ready).mpr evicted) notEvicted
    · rw [(chronicle.inTime_iff ready).mp inTime] at expired
      cases expired
  · rw [(times load).1] at stored
    obtain ⟨device, value, found⟩ := chronicle.answered load time stored
    exact ⟨device, value, loads ▸ found⟩
  · rw [(times load).1] at stored
    rw [(times load).2] at last
    rw [now]
    exact chronicle.times load written used stored last

end Chronicle

/-! ### A step and a run -/

theorem ready_fail_iff {cache : Cache α} {device other : String} {load : Nat} {entry : Entry α} :
    (cache.fail device load).slots.get? other = some (.ready entry) ↔
      cache.slots.get? other = some (.ready entry) := by
  by_cases held : cache.slots.get? device = some (.loading load)
  · rw [slots_fail_of_held held, Table.get?_erase]
    by_cases here : other = device
    · simp [here, held]
    · simp [here]
  · rw [slots_fail_of_not_held held]

section Steps

variable {settings : CacheSettings} {history : History} {cache after : Cache α} {event : Event α}

/-- The limits stay and time passes. -/
theorem onward_turn {victims : List String} (turn : TurnBy cache event victims after) :
    after.settings = cache.settings ∧ cache.now ≤ after.now := by
  cases turn with
  | step stores =>
    have change := change_step cache event
    generalize (cache.step event).1 = after at change
    cases change with
    | stored load device value running =>
      unfold store
      split
      · obtain ⟨victims, room⟩ := makesRoom_iff.mp (makesRoom_enforceCapacity _)
        exact ⟨room.same.1, Nat.le_of_eq room.same.2.1.symm⟩
      · exact ⟨rfl, Nat.le_refl _⟩
    | advanced milliseconds => exact ⟨rfl, Nat.le_add_right _ _⟩
    | _ => exact ⟨rfl, Nat.le_refl _⟩
  | stored stores room =>
    obtain ⟨load, device, value, rfl, -, -, rfl⟩ := filled?_eq_some stores
    exact ⟨room.same.1, Nat.le_of_eq room.same.2.1.symm⟩

/-- An event that stores nothing. -/
theorem chronicle_change (chronicle : Chronicle history cache) (change : Change cache event after)
    (stores : cache.filled? event = none) :
    Chronicle (record history cache event [] after) after := by
  have grows := grows_change change
  have tidy : ∃ mark, Tidy mark after := by
    obtain ⟨mark, tidy⟩ := chronicle.tidy
    exact ⟨_, tidy_change tidy change⟩
  cases change with
  | joined device load held =>
    have nothing : record history cache (.get device) [] (cache.join load) = history := by
      simp [record, happenings, join]
    rw [nothing]
    exact chronicle.still rfl rfl tidy grows fun _ _ => .rfl
  | hit device entry ready fresh =>
    have read : record history cache (.get device) [] (cache.hit device entry) =
        (cache.now, .returned entry.load) :: history := by
      simp [record, happenings, hit]
    rw [read]
    exact chronicle.returned ready rfl ⟨rfl, rfl⟩ tidy grows
  | began device free expired =>
    have nothing : record history cache (.get device) []
        ((cache.startLoad device).join cache.loads.length) = history := by
      simp [record, happenings, join, startLoad]
    rw [nothing]
    exact chronicle.begun expired tidy grows
  | found device entry ready fresh =>
    have read : record history cache (.peek device) [] (cache.touch device entry) =
        (cache.now, .returned entry.load) :: history := by
      simp [record, happenings, peek, fresh?_eq_some_iff.mpr ⟨ready, fresh⟩]
    rw [read]
    exact chronicle.returned ready rfl ⟨rfl, rfl⟩ tidy grows
  | missed device absent =>
    have nothing : record history cache (.peek device) [] cache = history := by
      simp [record, happenings, peek, absent]
    rw [nothing]
    exact chronicle
  | dropped => exact chronicle.dropped
  | purged => exact chronicle.purged tidy grows
  | advanced milliseconds =>
    exact chronicle.fewer rfl (Nat.le_add_right _ _) tidy grows (fun _ _ => id) fun _ _ => .inl
  | stored load device value running =>
    have nothing : record history cache (.finish load (.ok value)) []
        ((cache.withAnswer load (.ok value)).store device load value) = history := by
      simp [record, happenings, stores]
    have unheld : (cache.withAnswer load (.ok value)).slots.get? device ≠
        some (.loading load) := fun held => by
      rw [filled?_of_held value running held] at stores
      cases stores
    rw [nothing, store_of_not_held unheld]
    rw [store_of_not_held unheld] at tidy grows
    exact chronicle.still rfl rfl tidy grows fun _ _ => .rfl
  | failed load device fault running =>
    have nothing : record history cache (.finish load (.error fault)) []
        ((cache.withAnswer load (.error fault)).fail device load) = history := by
      simp [record, happenings, stores]
    rw [nothing]
    exact chronicle.still rfl rfl tidy grows fun _ _ => ready_fail_iff
  | unfinished load result notRunning =>
    have nothing : record history cache (.finish load result) [] cache = history := by
      simp [record, happenings, stores]
    rw [nothing]
    exact chronicle
  | granted | crashed | taken | abandoned =>
    exact chronicle.still rfl rfl tidy grows fun _ _ => .rfl
  | noticed => exact chronicle.still rfl rfl tidy grows fun _ _ => ready_fail_iff
  | refused | uncrashed | untaken | unabandoned => exact chronicle

theorem chronicle_turn {victims : List String} (chronicle : Chronicle history cache)
    (turn : TurnBy cache event victims after) :
    Chronicle (record history cache event victims after) after := by
  cases turn with
  | step stores => exact chronicle_change chronicle (change_step cache event) stores
  | stored stores room =>
    have fills := stores
    obtain ⟨load, device, value, rfl, running, held, rfl⟩ := filled?_eq_some stores
    have written : record history cache (.finish load (.ok value)) victims after =
        ((victims.filterMap (cache.withEntry load device value).loadOf?).map .evicted).map
          (fun other => (cache.now, other)) ++ (cache.now, .stored load) :: history := by
      simp [record, happenings, fills]
    rw [written]
    exact (chronicle.stored running held value).evicted room

theorem chronicle_recorded {start : Cache α} {past : History} {events : List (Event α)}
    (chronicle : Chronicle past start) (recorded : Recorded start past events history cache) :
    Chronicle history cache := by
  induction recorded with
  | stays => exact chronicle
  | turns earlier turn ih => exact chronicle_turn ih turn

theorem onward_recorded {start : Cache α} {past : History} {events : List (Event α)}
    (recorded : Recorded start past events history cache) :
    cache.settings = start.settings ∧ start.now ≤ cache.now := by
  induction recorded with
  | stays => exact ⟨rfl, Nat.le_refl _⟩
  | turns earlier turn ih =>
    obtain ⟨settings, passes⟩ := onward_turn turn
    exact ⟨settings.trans ih.1, Nat.le_trans ih.2 passes⟩

end Steps

/-! ### What calls find -/

section Found

variable {history : History} {cache after : Cache α} {device : String} {load : Nat} {value : α}

/-- The value of a load of the device is kept and within the limits. -/
def Available (history : History) (cache : Cache α) (device : String) (load : Nat) (value : α) :
    Prop :=
  cache.loads[load]? = some ⟨device, .answered (.ok value)⟩ ∧ history.isKept load = true ∧
    InTime cache.settings history cache.now load

theorem Chronicle.fresh?_iff (chronicle : Chronicle history cache) :
    (∃ entry, cache.fresh? device = some entry ∧ entry.load = load ∧ entry.value = value) ↔
      Available history cache device load value := by
  obtain ⟨mark, tidy⟩ := chronicle.tidy
  constructor
  · rintro ⟨entry, fresh, rfl, rfl⟩
    obtain ⟨ready, notExpired⟩ := fresh?_eq_some_iff.mp fresh
    exact ⟨((tidy.fits device).stored entry ready).2, (chronicle.ready device entry ready).2.2,
      (chronicle.inTime_iff ready).mpr notExpired⟩
  · rintro ⟨answered, isKept, inTime⟩
    obtain ⟨other, entry, ready, rfl⟩ := chronicle.kept load isKept inTime
    have stored := ((tidy.fits other).stored entry ready).2
    rw [answered] at stored
    cases stored
    exact ⟨entry, fresh?_eq_some_iff.mpr ⟨ready, (chronicle.inTime_iff ready).mp inTime⟩, rfl, rfl⟩

theorem get_of_fresh? {entry : Entry α} (fresh : cache.fresh? device = some entry) :
    cache.get device = cache.hit device entry := by
  obtain ⟨ready, notExpired⟩ := fresh?_eq_some_iff.mp fresh
  simp [get, ready, notExpired]

/-- A call finds the fresh entry of its device and nothing else. -/
theorem hit_iff :
    (cache.get device).calls[cache.calls.length]? = some (.hit load value) ↔
      ∃ entry, cache.fresh? device = some entry ∧ entry.load = load ∧ entry.value = value := by
  constructor
  · intro answered
    have change := change_get cache device
    generalize cache.get device = after at change answered
    cases change with
    | joined | began => simp [join, startLoad] at answered
    | hit _ entry ready fresh =>
      obtain ⟨same, content⟩ : entry.load = load ∧ entry.value = value := by
        simpa [hit] using answered
      exact ⟨entry, fresh?_eq_some_iff.mpr ⟨ready, fresh⟩, same, content⟩
  · rintro ⟨entry, fresh, rfl, rfl⟩
    simp [get_of_fresh? fresh, hit]

theorem peek_eq_fresh? (cache : Cache α) (device : String) :
    (cache.peek device).2 = cache.fresh? device := by
  unfold peek
  cases cache.fresh? device with
  | none => rfl
  | some entry => rfl

end Found

/-! ### What has expired -/

section Expired

variable {history : History} {before after : Cache α} {event : Event α} {load time : Nat}
  {victims : List String}

/-- A value that has outlived a limit is neither returned nor stored by the next event. -/
theorem untouched_of_expired (chronicle : Chronicle history before)
    (turn : TurnBy before event victims after) (stored : history.storedAt? load = some time)
    (expired : ¬ InTime before.settings history before.now load) :
    ∀ happening ∈ happenings before event victims after,
      happening ≠ .stored load ∧ happening ≠ .returned load := by
  -- what is returned is the value of an entry, which is in time
  have unread : ∀ device entry, before.fresh? device = some entry → entry.load ≠ load := by
    rintro device entry fresh rfl
    obtain ⟨ready, notExpired⟩ := fresh?_eq_some_iff.mp fresh
    exact expired ((chronicle.inTime_iff ready).mpr notExpired)
  intro happening happens
  unfold happenings at happens
  split at happens
  · rename_i device
    cases turn with
    | stored stores => cases stores
    | step =>
      split at happens
      · rename_i found value answered
        obtain ⟨entry, fresh, rfl, -⟩ := hit_iff.mp answered
        rw [List.mem_singleton] at happens
        simpa [happens] using unread device entry fresh
      · cases happens
  · rename_i device
    split at happens
    · rename_i entry found
      rw [peek_eq_fresh?] at found
      rw [List.mem_singleton] at happens
      simpa [happens] using unread device entry found
    · cases happens
  · rw [List.mem_singleton] at happens
    simp [happens]
  · rename_i ended result
    split at happens
    · rename_i filled fills
      obtain ⟨_, _, value, same, running, -⟩ := filled?_eq_some fills
      cases same
      obtain ⟨_, _, answered⟩ := chronicle.answered load time stored
      have other : ended ≠ load := by
        rintro rfl
        rw [running] at answered
        cases answered
      rcases List.mem_append.mp happens with evicted | written
      · obtain ⟨_, -, rfl⟩ := List.mem_map.mp evicted
        exact ⟨nofun, nofun⟩
      · rw [List.mem_singleton] at written
        simpa [written] using other
    · cases happens
  · cases happens

/-- So it stays outside its limits. -/
theorem expired_turn (chronicle : Chronicle history before)
    (turn : TurnBy before event victims after) (stored : history.storedAt? load = some time)
    (expired : ¬ InTime before.settings history before.now load) :
    (record history before event victims after).storedAt? load = some time ∧
      ¬ InTime after.settings (record history before event victims after) after.now load := by
  obtain ⟨sameStored, sameUsed⟩ := history.times_of_others before.now load
    (untouched_of_expired chronicle turn stored expired)
  obtain ⟨settings, passes⟩ := onward_turn turn
  rw [record, sameStored]
  refine ⟨stored, fun inTime => expired ?_⟩
  rw [InTime, sameStored, sameUsed, settings] at inTime
  have inTime : InTime before.settings history after.now load := inTime
  exact inTime.of_later passes fun used last => (chronicle.times load time used stored last).2

/-- Nothing that happens later concerns a value that has outlived a limit. -/
theorem expired_recorded {events : List (Event α)} {later : History}
    (chronicle : Chronicle history before) (recorded : Recorded before history events later after)
    (stored : history.storedAt? load = some time)
    (expired : ¬ InTime before.settings history before.now load) :
    (later.storedAt? load = some time ∧ ¬ InTime after.settings later after.now load) ∧
      ∃ newer, later = newer ++ history ∧
        ∀ item ∈ newer, item.2 ≠ .stored load ∧ item.2 ≠ .returned load := by
  induction recorded with
  | stays => exact ⟨⟨stored, expired⟩, [], rfl, nofun⟩
  | turns earlier turn ih =>
    obtain ⟨⟨stored, expired⟩, newer, rfl, untouched⟩ := ih
    have chronicle := chronicle_recorded chronicle earlier
    refine ⟨expired_turn chronicle turn stored expired, _, (List.append_assoc _ _ _).symm, ?_⟩
    intro item member
    rcases List.mem_append.mp member with last | before
    · obtain ⟨happening, happens, rfl⟩ := List.mem_map.mp last
      exact untouched_of_expired chronicle turn stored expired happening happens
    · exact untouched item before

end Expired

/-- **Expiry is exact.** Every run has a history, and every history of a run tells what the calls
find. A call, or a look without a load, is given the value of a load of the device exactly if the
value was stored, was since then neither evicted nor dropped, and is in time: less than the one
limit has passed since it was stored and, if there is another one, less than that since it was last
stored or returned. Then no load is started. A value that is not in time any more stays so, whatever
happens, and is never returned or stored again. -/
theorem expiry_exact (settings : CacheSettings) :
    (∀ (events : List (Event α)) (cache : Cache α), Reaches (Cache.new settings) events cache ↔
      ∃ history, Recorded (Cache.new settings) [] events history cache) ∧
    ∀ (events : List (Event α)) (history : History) (cache : Cache α),
      Recorded (Cache.new settings) [] events history cache → cache.settings = settings ∧
      (∀ device load value,
        ((cache.get device).calls[cache.calls.length]? = some (.hit load value) ↔
          Available history cache device load value) ∧
        ((∃ entry, (cache.peek device).2 = some entry ∧ entry.load = load ∧ entry.value = value) ↔
          Available history cache device load value) ∧
        (Available history cache device load value → (cache.get device).loads = cache.loads)) ∧
      ∀ load time, history.storedAt? load = some time →
        ¬ InTime settings history cache.now load →
        ∀ (later : List (Event α)) (history' : History) (after : Cache α),
          Recorded cache history later history' after →
            ¬ InTime settings history' after.now load ∧
            ∃ newer, history' = newer ++ history ∧
              ∀ item ∈ newer, item.2 ≠ .stored load ∧ item.2 ≠ .returned load := by
  refine ⟨fun events cache => recorded_iff [], fun events history cache recorded => ?_⟩
  have chronicle := chronicle_recorded (chronicle_new settings) recorded
  have same : cache.settings = settings := (onward_recorded recorded).1
  refine ⟨same, fun device load value => ⟨?_, ?_, fun available => ?_⟩, ?_⟩
  · rw [hit_iff, chronicle.fresh?_iff]
  · rw [peek_eq_fresh?, chronicle.fresh?_iff]
  · obtain ⟨entry, fresh, -⟩ := chronicle.fresh?_iff.mpr available
    rw [get_of_fresh? fresh]
    rfl
  · intro load time stored expired later history' after further
    rw [← same] at expired ⊢
    rw [← (onward_recorded further).1]
    obtain ⟨⟨-, still⟩, newer⟩ := expired_recorded chronicle further stored expired
    exact ⟨still, newer⟩

/-- A value lives for three seconds, and for two after it was last read. -/
def idle : CacheSettings := ⟨2, 3, some 2, 16⟩

def idling : List (Event Nat) :=
  [.get "lamp", .grant 0, .finish 0 (.ok 7), .advance 1500, .peek "lamp", .advance 1499]

/-- Just before the three seconds are over the value is found, for it was read in between; one
millisecond later it is not in time any more. -/
theorem expiry_exact_idle :
    ∃ history, Recorded (Cache.new idle) [] idling history ((Cache.new idle).run idling) ∧
      InTime idle history 2999 0 ∧ ¬ InTime idle history 3000 0 := by
  obtain ⟨runs, every⟩ := @expiry_exact Nat idle
  obtain ⟨history, recorded⟩ := (runs idling _).mp (reaches_run (Cache.new idle) idling)
  have later : Recorded (Cache.new idle) [] (idling ++ [.advance 1]) history
      (((Cache.new idle).run idling).advance 1) := .turns recorded (.step (.advance 1) rfl)
  obtain ⟨-, finds, -⟩ := every _ _ _ recorded
  obtain ⟨-, laterFinds, -⟩ := every _ _ _ later
  obtain ⟨answered, isKept, inTime⟩ := (finds "lamp" 0 7).1.mp rfl
  refine ⟨history, recorded, inTime, fun still => ?_⟩
  have found := (laterFinds "lamp" 0 7).1.mpr ⟨answered, isKept, still⟩
  cases found

end DeviceMapping.Cache
