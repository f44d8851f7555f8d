/-
**Dropping everything is a barrier.**

The loads are numbered in the order they begin, so a load was begun after a drop exactly if its
number is at least the number of loads at the drop. Whatever the loads from before the drop do
later, no entry and no answer to a later call is theirs (`drop_is_barrier`).
-/

import DeviceMapping.Proofs.Cache.Calls

namespace DeviceMapping.Cache

variable {α : Type}

theorem lastDrop_append (cache : Cache α) (mark : Nat) (before after : List (Event α)) :
    lastDrop cache mark (before ++ after) =
      lastDrop (cache.run before) (lastDrop cache mark before) after := by
  induction before generalizing cache mark with
  | nil => rfl
  | cons event rest ih => exact ih (cache.step event).1 (markAfter cache mark event)

/-- The last drop is not before any drop of the run. -/
theorem le_lastDrop_append (cache : Cache α) (mark : Nat) (before after : List (Event α)) :
    (cache.run before).loads.length ≤
      lastDrop cache mark (before ++ .invalidateAll :: after) := by
  rw [lastDrop_append]
  exact le_lastDrop (tidy_invalidateAll (cache.run before)) after

section States

variable {mark : Nat} {cache : Cache α} {device : String}

/-- An entry that is found is the answer of a load begun since. -/
theorem Tidy.found (tidy : Tidy mark cache) {entry : Entry α}
    (found : (cache.peek device).2 = some entry) :
    mark ≤ entry.load ∧ cache.loads[entry.load]? = some ⟨device, .answered (.ok entry.value)⟩ := by
  unfold peek at found
  split at found
  · rename_i fresh is
    cases found
    exact (tidy.fits device).stored entry (fresh?_eq_some is).1
  · cases found

/-- The value that a later call is answered with is the answer of a load begun since. -/
theorem answer_of_later_load (tidy : Tidy mark cache) (answered : Answered cache)
    (later : List (Event α)) {state : Call α} {load : Nat} {result : Except MappingError α}
    (found : ((cache.get device).run later).calls[cache.calls.length]? = some state)
    (is : state.answer? = some (load, result)) :
    mark ≤ load ∧ ∃ phase, ((cache.get device).run later).loads[load]? = some ⟨device, phase⟩ ∧
      phase.result? = some result := by
  have change := change_get cache device
  have tidy' : Tidy mark (cache.get device) := tidy_change tidy change
  have answered' : Answered ((cache.get device).run later) :=
    answered_run tidy' (answered_change tidy answered change) later
  obtain ⟨begun, slot, began, filled, names⟩ := exists_call_of_get change
  have same : slot.load = load := by
    rw [names, ← load_of_later_call began later found]
    exact Call.load_of_answer is
  obtain ⟨since, phase, first⟩ := (filled ▸ tidy'.fits device).of_slot
  rw [same] at since first
  obtain ⟨next, last, _⟩ := (grows_run (cache.get device) later).loads load device phase first
  refine ⟨since, next, last, ?_⟩
  rw [← resultOf_of_getElem? last]
  exact answered'.answers state (List.mem_of_getElem? found) load result is

end States

theorem eq_answered_of_result? {phase : Phase α} {value : α}
    (ended : phase.result? = some (.ok value)) : phase = .answered (.ok value) := by
  cases phase with
  | answered result =>
    cases ended
    rfl
  | queued | running | crashed => cases ended

/-- **Dropping everything is a barrier.** Every entry is the answer of a load begun after the last
drop. After any drop, whatever happens then, an entry that is found and a value that a call is
answered with are those of a load of the device begun after the drop. -/
theorem drop_is_barrier (settings : CacheSettings) :
    (∀ (events : List (Event α)) (device : String) (entry : Entry α),
      ((Cache.new settings).run events).slots.get? device = some (.ready entry) →
        lastDrop (Cache.new settings) 0 events ≤ entry.load ∧
          ((Cache.new settings).run events).loads[entry.load]? =
            some ⟨device, .answered (.ok entry.value)⟩) ∧
    (∀ (before after : List (Event α)) (device : String),
      let mark := ((Cache.new settings).run before).loads.length
      let cache := (Cache.new settings).run (before ++ .invalidateAll :: after)
      mark ≤ lastDrop (Cache.new settings) 0 (before ++ .invalidateAll :: after) ∧
      (∀ entry, (cache.peek device).2 = some entry →
        mark ≤ entry.load ∧
          cache.loads[entry.load]? = some ⟨device, .answered (.ok entry.value)⟩) ∧
      (∀ later state load value,
        ((cache.get device).run later).calls[cache.calls.length]? = some state →
          state.answer? = some (load, .ok value) →
            mark ≤ load ∧ ((cache.get device).run later).loads[load]? =
              some ⟨device, .answered (.ok value)⟩)) := by
  refine ⟨fun events device entry ready => ?_, fun before after device => ?_⟩
  · exact ((tidy_run (tidy_new settings) events).fits device).stored entry ready
  · intro mark cache
    have since := le_lastDrop_append (Cache.new settings) 0 before after
    have tidy : Tidy _ cache := tidy_run (tidy_new settings) _
    have answered : Answered cache := answered_run (tidy_new settings) (answered_new settings) _
    refine ⟨since, fun entry found => ?_, fun later state load value found is => ?_⟩
    · obtain ⟨begun, stored⟩ := tidy.found found
      exact ⟨Nat.le_trans since begun, stored⟩
    · obtain ⟨begun, phase, last, ended⟩ := answer_of_later_load tidy answered later found is
      rw [eq_answered_of_result? ended] at last
      exact ⟨Nat.le_trans since begun, last⟩

/-- A load from before the drop ends last and still leaves no trace: entry and answer are those of
the load begun after it. -/
theorem drop_is_barrier_overtaken :
    let before : List (Event Nat) := [.get "lamp", .grant 0]
    let after : List (Event Nat) :=
      [.get "lamp", .grant 1, .finish 1 (.ok 7), .finish 0 (.ok 3), .take 0]
    let cache := (Cache.new .usual).run (before ++ .invalidateAll :: after)
    cache.calls[0]? = some (.answered 0 (.ok 3)) ∧
      (cache.get "lamp").calls[2]? = some (.hit 1 7) ∧
        ((Cache.new .usual).run before).loads.length ≤ 1 ∧
          (cache.get "lamp").loads[1]? = some ⟨"lamp", .answered (.ok 7)⟩ := by
  intro before after cache
  have barrier := (drop_is_barrier CacheSettings.usual).2 before after "lamp"
  have hit : (cache.get "lamp").calls[2]? = some (.hit 1 7) := rfl
  exact ⟨rfl, hit, barrier.2.2 [] _ 1 7 hit rfl⟩

end DeviceMapping.Cache
