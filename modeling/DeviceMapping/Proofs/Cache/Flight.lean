/-
**Which load holds the slot of a device.**

A load is open until it has ended and, if it crashed, a call has noticed. The loads begun before
everything was last dropped are the first `mark` ones. `Tidy mark cache` says, device by device
(`SlotFits`):

* a load holds the slot exactly while it is open and was begun since (`held_iff`), so there is one
  such load at most;
* an entry is the answer of a load of the device begun since (`stored`);
* no load of the device is later than the one its slot names (`latest`).

One lemma for each way a slot and its loads change (`SlotFits.begun`, `SlotFits.filled`, ...), from
them one for each way all slots do (`Tidy.stored`, `Tidy.failed`, ...), and from these the step and
the run (`tidy_change`, `tidy_run`).
-/

import DeviceMapping.Proofs.Cache.Change

namespace DeviceMapping

variable {α : Type}

/-- The load has not ended, or it crashed and no call has noticed. -/
def Phase.isOpen : Phase α → Bool
  | queued | running | crashed false => true
  | answered _ | crashed true => false

namespace Cache

/-! ### One slot and the loads -/

/-- The slot of a device fits the loads, of which the first `mark` no longer count. -/
structure SlotFits (mark : Nat) (loads : List (Load α)) (device : String)
    (slot : Option (Slot α)) : Prop where
  held_iff : ∀ load, slot = some (.loading load) ↔
    mark ≤ load ∧ ∃ phase, loads[load]? = some ⟨device, phase⟩ ∧ phase.isOpen = true
  stored : ∀ entry, slot = some (.ready entry) →
    mark ≤ entry.load ∧ loads[entry.load]? = some ⟨device, .answered (.ok entry.value)⟩
  latest : ∀ full, slot = some full →
    ∀ load phase, loads[load]? = some ⟨device, phase⟩ → load ≤ full.load

namespace SlotFits

variable {mark load : Nat} {loads : List (Load α)} {device other : String}
  {slot : Option (Slot α)} {entry : Entry α} {cache : Cache α} {phase next : Phase α}

/-- Only the loads of its own device matter to a slot. -/
theorem congr {others : List (Load α)} (fits : SlotFits mark loads device slot)
    (same : ∀ (load : Nat) (phase : Phase α), others[load]? = some ⟨device, phase⟩ ↔
      loads[load]? = some ⟨device, phase⟩) : SlotFits mark others device slot := by
  refine ⟨fun load => ?_, fun entry found => ?_, fun full found load phase begun => ?_⟩
  · rw [fits.held_iff]
    simp only [same]
  · rw [same]
    exact fits.stored entry found
  · exact fits.latest full found load phase ((same _ _).mp begun)

/-- No load is open beside an entry, so the slot may be emptied. -/
theorem emptied (fits : SlotFits mark loads device (some (.ready entry))) :
    SlotFits mark loads device none := by
  refine ⟨fun load => ⟨nofun, fun isOpen => ?_⟩, nofun, nofun⟩
  cases (fits.held_iff load).mpr isOpen

/-- Reading an entry changes neither its value nor its load. -/
theorem reread (fits : SlotFits mark loads device (some (.ready entry))) (now : Nat) :
    SlotFits mark loads device (some (.ready { entry with accessedAt := now })) := by
  refine ⟨fun load => ?_, fun read found => ?_, fun full found => ?_⟩
  · rw [← fits.emptied.held_iff load]
    exact iff_of_false nofun nofun
  · cases found
    exact fits.stored entry rfl
  · cases found
    have bound := fits.latest (.ready entry) rfl
    exact bound

/-- A slot that was free of loads is held by the load that begins. -/
theorem begun (fits : SlotFits mark loads device slot) (bounded : mark ≤ loads.length)
    (free : ∀ load, slot ≠ some (.loading load)) :
    SlotFits mark (loads ++ [⟨device, .queued⟩]) device (some (.loading loads.length)) := by
  refine ⟨fun load => ⟨fun held => ?_, fun ⟨since, phase, found, isOpen⟩ => ?_⟩, nofun,
    fun full held load phase found => ?_⟩
  · cases held
    exact ⟨bounded, .queued, List.getElem?_concat_length, rfl⟩
  · by_cases before : load < loads.length
    · rw [List.getElem?_append_left before] at found
      exact (free load ((fits.held_iff load).mpr ⟨since, phase, found, isOpen⟩)).elim
    · have bound := lt_length_of_getElem? found
      rw [List.length_append, List.length_singleton] at bound
      rw [show load = loads.length by omega]
  · cases held
    have bound := lt_length_of_getElem? found
    rw [List.length_append, List.length_singleton] at bound
    exact Nat.le_of_lt_succ bound

/-- A load of another device does not matter when it begins. -/
theorem begun_elsewhere (fits : SlotFits mark loads device slot) (elsewhere : other ≠ device) :
    SlotFits mark (loads ++ [⟨other, .queued⟩]) device slot := by
  refine fits.congr fun load phase => ?_
  rw [List.getElem?_append]
  split
  · exact Iff.rfl
  · rename_i after
    rw [List.getElem?_eq_none (Nat.le_of_not_lt after), List.getElem?_singleton]
    split
    · simp [elsewhere]
    · exact Iff.rfl

/-- A load may go on as long as it stays open. -/
theorem goneOn (fits : SlotFits mark cache.loads other slot)
    (found : cache.loads[load]? = some ⟨device, phase⟩) (wasOpen : phase.isOpen = true)
    (stays : next.isOpen = true) : SlotFits mark (cache.setPhase load next).loads other slot := by
  refine ⟨fun holder => ?_, fun entry ready => ?_, fun full is holder state begun => ?_⟩
  · rw [fits.held_iff, getElem?_setPhase]
    by_cases same : load = holder
    · subst same
      rw [if_pos rfl, found]
      constructor
      · rintro ⟨since, state, begun, _⟩
        cases begun
        exact ⟨since, next, rfl, stays⟩
      · rintro ⟨since, state, begun, _⟩
        cases begun
        exact ⟨since, phase, rfl, wasOpen⟩
    · rw [if_neg same]
  · obtain ⟨since, ended⟩ := fits.stored entry ready
    refine ⟨since, ?_⟩
    rw [getElem?_setPhase, if_neg]
    · exact ended
    · rintro rfl
      rw [found] at ended
      cases ended
      cases wasOpen
  · rw [getElem?_setPhase] at begun
    by_cases same : load = holder
    · subst same
      rw [if_pos rfl, found] at begun
      cases begun
      exact fits.latest full is load phase found
    · rw [if_neg same] at begun
      exact fits.latest full is holder state begun

/-- The loads of other devices may go on and end. -/
theorem goneOn_elsewhere (fits : SlotFits mark cache.loads other slot)
    (found : cache.loads[load]? = some ⟨device, phase⟩) (elsewhere : device ≠ other) :
    SlotFits mark (cache.setPhase load next).loads other slot := by
  refine fits.congr fun holder state => ?_
  rw [getElem?_setPhase]
  by_cases same : load = holder
  · subst same
    rw [if_pos rfl, found]
    simp [elsewhere]
  · rw [if_neg same]

/-- An open load that does not hold the slot of its device no longer counts, however it ends. -/
theorem ended_unheld (fits : SlotFits mark cache.loads device slot)
    (found : cache.loads[load]? = some ⟨device, phase⟩) (wasOpen : phase.isOpen = true)
    (unheld : slot ≠ some (.loading load)) :
    SlotFits mark (cache.setPhase load next).loads device slot := by
  have old : ¬ mark ≤ load := fun since =>
    unheld ((fits.held_iff load).mpr ⟨since, phase, found, wasOpen⟩)
  refine ⟨fun holder => ?_, fun entry ready => ?_, fun full is holder state begun => ?_⟩
  · rw [fits.held_iff, getElem?_setPhase]
    by_cases same : load = holder
    · subst same
      exact iff_of_false (fun held => old held.1) (fun held => old held.1)
    · rw [if_neg same]
  · obtain ⟨since, stored⟩ := fits.stored entry ready
    rw [getElem?_setPhase, if_neg fun same : load = entry.load => old (same ▸ since)]
    exact ⟨since, stored⟩
  · rw [getElem?_setPhase] at begun
    by_cases same : load = holder
    · subst same
      exact fits.latest full is load phase found
    · rw [if_neg same] at begun
      exact fits.latest full is holder state begun

/-- The load that holds the slot ends and leaves it free. -/
theorem freed (fits : SlotFits mark cache.loads device (some (.loading load)))
    (found : cache.loads[load]? = some ⟨device, phase⟩) (ends : next.isOpen = false) :
    SlotFits mark (cache.setPhase load next).loads device none := by
  refine ⟨fun holder => ⟨nofun, ?_⟩, nofun, nofun⟩
  rintro ⟨since, state, begun, isOpen⟩
  rw [getElem?_setPhase] at begun
  by_cases same : load = holder
  · subst same
    rw [if_pos rfl, found] at begun
    cases begun
    rw [ends] at isOpen
    cases isOpen
  · rw [if_neg same] at begun
    cases (fits.held_iff holder).mpr ⟨since, state, begun, isOpen⟩
    exact (same rfl).elim

/-- The load that holds the slot ends and fills it with its answer. -/
theorem filled (fits : SlotFits mark cache.loads device (some (.loading load)))
    (found : cache.loads[load]? = some ⟨device, phase⟩) (value : α) (written read : Nat) :
    SlotFits mark (cache.setPhase load (.answered (.ok value))).loads device
      (some (.ready ⟨value, load, written, read⟩)) := by
  refine ⟨fun holder => ?_, fun entry ready => ?_, fun full is holder state begun => ?_⟩
  · rw [← (fits.freed found rfl).held_iff holder]
    exact iff_of_false nofun nofun
  · cases ready
    refine ⟨((fits.held_iff load).mp rfl).1, ?_⟩
    rw [getElem?_setPhase, if_pos rfl, found]
    rfl
  · cases is
    rw [getElem?_setPhase] at begun
    by_cases same : load = holder
    · exact Nat.le_of_eq same.symm
    · rw [if_neg same] at begun
      exact fits.latest _ rfl holder state begun

/-- A slot names a load of its device begun since. -/
theorem of_slot {full : Slot α} (fits : SlotFits mark loads device (some full)) :
    mark ≤ full.load ∧ ∃ phase, loads[full.load]? = some ⟨device, phase⟩ := by
  cases full with
  | loading load =>
    obtain ⟨since, phase, found, _⟩ := (fits.held_iff load).mp rfl
    exact ⟨since, phase, found⟩
  | ready entry =>
    obtain ⟨since, found⟩ := fits.stored entry rfl
    exact ⟨since, _, found⟩

end SlotFits

/-! ### All slots and the loads -/

/-- Every slot fits the loads; the first `mark` were begun before everything was last dropped. -/
structure Tidy (mark : Nat) (cache : Cache α) : Prop where
  mark_le : mark ≤ cache.loads.length
  fits : ∀ device, SlotFits mark cache.loads device (cache.slots.get? device)

theorem tidy_new (settings : CacheSettings) : Tidy 0 (Cache.new settings : Cache α) := by
  refine ⟨Nat.zero_le _, fun device => ⟨fun load => ⟨nofun, ?_⟩, nofun, nofun⟩⟩
  rintro ⟨_, _, found, _⟩
  cases found

section Operations

variable {mark : Nat} {cache after : Cache α}

theorem Tidy.frame (tidy : Tidy mark cache) (slots : after.slots = cache.slots)
    (loads : after.loads = cache.loads) : Tidy mark after := by
  obtain ⟨bounded, fits⟩ := tidy
  exact ⟨loads ▸ bounded, loads ▸ slots ▸ fits⟩

theorem Tidy.thinned (tidy : Tidy mark cache) (thinned : Thinned cache.slots after.slots)
    (loads : after.loads = cache.loads) : Tidy mark after := by
  refine ⟨loads ▸ tidy.mark_le, fun device => ?_⟩
  rw [loads]
  rcases thinned device with same | ⟨gone, entry, found⟩
  · exact same ▸ tidy.fits device
  · rw [gone]
    exact (found ▸ tidy.fits device).emptied

/-- Where one load changes, it is enough to look at the slot of its device. -/
theorem Tidy.changed (tidy : Tidy mark cache) {load : Nat} {device : String} {phase next : Phase α}
    (found : cache.loads[load]? = some ⟨device, phase⟩)
    (loads : after.loads = (cache.setPhase load next).loads)
    (elsewhere : ∀ other, other ≠ device → after.slots.get? other = cache.slots.get? other)
    (here : SlotFits mark (cache.setPhase load next).loads device (after.slots.get? device)) :
    Tidy mark after := by
  refine ⟨?_, fun other => ?_⟩
  · rw [loads, length_loads_setPhase]
    exact tidy.mark_le
  · rw [loads]
    by_cases same : other = device
    · exact same ▸ here
    · rw [elsewhere other same]
      exact (tidy.fits other).goneOn_elsewhere found (Ne.symm same)

theorem tidy_touch (tidy : Tidy mark cache) {device : String} {entry : Entry α}
    (found : cache.slots.get? device = some (.ready entry)) :
    Tidy mark (cache.touch device entry) := by
  refine ⟨tidy.mark_le, fun other => ?_⟩
  show SlotFits mark cache.loads other ((cache.slots.insert device _).get? other)
  rw [Table.get?_insert]
  by_cases same : other = device
  · subst same
    rw [if_pos rfl]
    exact (found ▸ tidy.fits other).reread cache.now
  · rw [if_neg same]
    exact tidy.fits other

theorem tidy_startLoad (tidy : Tidy mark cache) {device : String}
    (free : ∀ load, cache.slots.get? device ≠ some (.loading load)) :
    Tidy mark (cache.startLoad device) := by
  refine ⟨?_, fun other => ?_⟩
  · show mark ≤ (cache.loads ++ [_]).length
    rw [List.length_append]
    exact Nat.le_trans tidy.mark_le (Nat.le_add_right _ _)
  · show SlotFits mark (cache.loads ++ [_]) other ((cache.slots.insert device _).get? other)
    rw [Table.get?_insert]
    by_cases same : other = device
    · subst same
      rw [if_pos rfl]
      exact (tidy.fits other).begun tidy.mark_le free
    · rw [if_neg same]
      exact (tidy.fits other).begun_elsewhere (Ne.symm same)

/-- Once everything is dropped no load begun so far counts. -/
theorem tidy_invalidateAll (cache : Cache α) : Tidy cache.loads.length cache.invalidateAll := by
  refine ⟨Nat.le_refl _, fun device => ⟨fun load => ⟨nofun, ?_⟩, nofun, nofun⟩⟩
  rintro ⟨since, _, found, _⟩
  exact absurd (lt_length_of_getElem? found) (Nat.not_lt.mpr since)

/-- While a load stays open it may go on, whether it holds the slot of its device or not. -/
theorem Tidy.goneOn (tidy : Tidy mark cache) {load : Nat} {device : String} {phase next : Phase α}
    (found : cache.loads[load]? = some ⟨device, phase⟩) (wasOpen : phase.isOpen = true)
    (stays : next.isOpen = true) (slots : after.slots = cache.slots)
    (loads : after.loads = (cache.setPhase load next).loads) : Tidy mark after := by
  refine tidy.changed found loads (fun other _ => by rw [slots]) ?_
  rw [slots]
  exact (tidy.fits device).goneOn found wasOpen stays

/-- A failure frees the slot of its own load and no other. -/
theorem Tidy.failed (tidy : Tidy mark cache) {load : Nat} {device : String} {phase next : Phase α}
    (found : cache.loads[load]? = some ⟨device, phase⟩) (wasOpen : phase.isOpen = true)
    (ends : next.isOpen = false) (slots : after.slots = cache.slots)
    (loads : after.loads = (cache.setPhase load next).loads) :
    Tidy mark (after.fail device load) := by
  have fits := tidy.fits device
  by_cases held : cache.slots.get? device = some (.loading load)
  · have freed : (after.fail device load).slots = cache.slots.erase device := by
      rw [slots_fail_of_held (slots ▸ held), slots]
    refine tidy.changed found loads (fun other different => ?_) ?_
    · rw [freed, Table.get?_erase, if_neg different]
    · rw [freed, Table.get?_erase, if_pos rfl]
      exact (held ▸ fits).freed found ends
  · have kept : (after.fail device load).slots = cache.slots := by
      rw [slots_fail_of_not_held (slots ▸ held), slots]
    refine tidy.changed found loads (fun other _ => by rw [kept]) ?_
    rw [kept]
    exact fits.ended_unheld found wasOpen held

/-- An answer fills the slot that its own load holds, and no other. -/
theorem Tidy.stored (tidy : Tidy mark cache) {load : Nat} {device : String} {phase : Phase α}
    {value : α} (found : cache.loads[load]? = some ⟨device, phase⟩) (wasOpen : phase.isOpen = true)
    (slots : after.slots = cache.slots)
    (loads : after.loads = (cache.setPhase load (.answered (.ok value))).loads) :
    Tidy mark (after.store device load value) := by
  have fits := tidy.fits device
  by_cases held : cache.slots.get? device = some (.loading load)
  · have filled : Tidy mark { after with
        slots := after.slots.insert device (.ready ⟨value, load, after.now, after.now⟩) } := by
      refine tidy.changed found loads (fun other different => ?_) ?_
      · show (after.slots.insert device _).get? other = _
        rw [Table.get?_insert, if_neg different, slots]
      · show SlotFits mark _ device ((after.slots.insert device _).get? device)
        rw [Table.get?_insert, if_pos rfl]
        exact (held ▸ fits).filled found value after.now after.now
    exact filled.thinned (store_of_held (slots ▸ held)) (loads_store after device load value)
  · rw [store_of_not_held (slots ▸ held)]
    refine tidy.changed found loads (fun other _ => by rw [slots]) ?_
    rw [slots]
    exact fits.ended_unheld found wasOpen held

end Operations

/-! ### A step and a run -/

/-- The number of loads begun before everything was last dropped, after one more event. -/
def markAfter (cache : Cache α) (mark : Nat) : Event α → Nat
  | .invalidateAll => cache.loads.length
  | _ => mark

/-- The number of loads begun before everything was last dropped, after a run. -/
def lastDrop (cache : Cache α) (mark : Nat) : List (Event α) → Nat
  | [] => mark
  | event :: rest => lastDrop (cache.step event).1 (markAfter cache mark event) rest

theorem run_append (cache : Cache α) (before after : List (Event α)) :
    cache.run (before ++ after) = (cache.run before).run after :=
  List.foldl_append

theorem tidy_change {mark : Nat} {cache after : Cache α} {event : Event α} (tidy : Tidy mark cache)
    (change : Change cache event after) : Tidy (markAfter cache mark event) after := by
  cases change with
  | joined | advanced | taken | abandoned => exact tidy.frame rfl rfl
  | hit device entry ready fresh => exact (tidy_touch tidy ready).frame rfl rfl
  | began device free expired => exact (tidy_startLoad tidy free).frame rfl rfl
  | found device entry ready fresh => exact tidy_touch tidy ready
  | dropped => exact tidy_invalidateAll cache
  | purged => exact tidy.thinned (thinned_purgeExpired cache) rfl
  | granted load device queued free => exact tidy.goneOn queued rfl rfl rfl rfl
  | stored load device value running => exact tidy.stored running rfl rfl rfl
  | failed load device fault running => exact tidy.failed running rfl rfl rfl rfl
  | crashed load device running => exact tidy.goneOn running rfl rfl rfl rfl
  | noticed call load device waiting unknown =>
    have noticed : Tidy mark ((cache.setPhase load (.crashed true)).fail device load) :=
      tidy.failed unknown rfl rfl rfl rfl
    exact noticed.frame rfl rfl
  | missed | refused | unfinished | uncrashed | untaken | unabandoned => exact tidy

theorem tidy_run {mark : Nat} {cache : Cache α} (tidy : Tidy mark cache)
    (events : List (Event α)) : Tidy (lastDrop cache mark events) (cache.run events) := by
  induction events generalizing mark cache with
  | nil => exact tidy
  | cons event rest ih => exact ih (tidy_change tidy (change_step cache event))

/-- Dropping everything again only moves the mark on. -/
theorem le_lastDrop {mark : Nat} {cache : Cache α} (tidy : Tidy mark cache)
    (events : List (Event α)) : mark ≤ lastDrop cache mark events := by
  induction events generalizing mark cache with
  | nil => exact Nat.le_refl _
  | cons event rest ih =>
    refine Nat.le_trans ?_ (ih (tidy_change tidy (change_step cache event)))
    cases event with
    | invalidateAll => exact tidy.mark_le
    | _ => exact Nat.le_refl _

end Cache

end DeviceMapping
