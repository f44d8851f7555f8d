/-
**One load of a device at a time.**

* `Tidy.held_of_underWay`: a load under way that was begun since everything was last dropped holds
  the slot of its device. So there is one at most, and a call joins it.
* `fate_of_waiting`: whatever happens later, drops included, a waiting call still waits, has given
  up, or has the result of its own load; and that result never changes.
* `single_flight`: both, in every state that a cache can reach.
-/

import DeviceMapping.Proofs.Cache.Calls

namespace DeviceMapping

variable {α : Type}

theorem Phase.isOpen_of_not_ended {phase : Phase α} (notEnded : phase.result? = none) :
    phase.isOpen = true := by
  cases phase with
  | queued | running => rfl
  | answered | crashed => cases notEnded

namespace Cache

/-- A load of a device has begun and not ended. -/
def UnderWay (cache : Cache α) (device : String) (load : Nat) : Prop :=
  ∃ phase, cache.loads[load]? = some ⟨device, phase⟩ ∧ phase.result? = none

section States

variable {mark : Nat} {cache : Cache α} {device : String} {load : Nat}

theorem Tidy.held_of_underWay (tidy : Tidy mark cache) (since : mark ≤ load)
    (underWay : cache.UnderWay device load) : cache.slots.get? device = some (.loading load) := by
  obtain ⟨phase, found, notEnded⟩ := underWay
  exact ((tidy.fits device).held_iff load).mpr
    ⟨since, phase, found, Phase.isOpen_of_not_ended notEnded⟩

theorem get_of_held (held : cache.slots.get? device = some (.loading load)) :
    cache.get device = cache.join load := by
  unfold get
  rw [held]

/-- A load ends with the result it is given. -/
theorem resultOf_finish (running : cache.loads[load]? = some ⟨device, .running⟩)
    (result : Except MappingError α) : (cache.finish load result).resultOf load = some result := by
  unfold resultOf
  rw [loads_finish_of_running running, getElem?_setPhase, if_pos rfl, running]
  rfl

theorem resultOf_crash (running : cache.loads[load]? = some ⟨device, .running⟩) :
    (cache.crash load).resultOf load = some (.error .loadCrashed) := by
  unfold resultOf
  rw [loads_crash_of_running running, getElem?_setPhase, if_pos rfl, running]
  rfl

/-- A call waits for its load, gives up, or is answered by its load; the load's result stays. -/
theorem fate_of_waiting (tidy : Tidy mark cache) (answered : Answered cache) {call : Nat}
    (waiting : cache.calls[call]? = some (.waiting load)) (later : List (Event α)) :
    (cache.run later).calls[call]? = some (.waiting load) ∨
      (cache.run later).calls[call]? = some (.abandoned load) ∨
        ∃ result, (cache.run later).calls[call]? = some (.answered load result) ∧
          ∀ further, ((cache.run later).run further).resultOf load = some result := by
  obtain ⟨state, found, becomes⟩ := (grows_run cache later).calls call _ waiting
  cases becomes with
  | stays => exact .inl found
  | abandoned => exact .inr (.inl found)
  | answered _ result =>
    refine .inr (.inr ⟨result, found, fun further => ?_⟩)
    have ended : (cache.run later).resultOf load = some result :=
      (answered_run tidy answered later).answers _ (List.mem_of_getElem? found) load result rfl
    exact (grows_run (cache.run later) further).resultOf ended

theorem take_answers {call : Nat} {result : Except MappingError α}
    (waiting : cache.calls[call]? = some (.waiting load))
    (ended : cache.resultOf load = some result) :
    (cache.take call).calls[call]? = some (.answered load result) := by
  unfold take
  rw [waiting]
  simp only [ended]
  exact List.getElem?_set_self (List.getElem?_eq_some_iff.mp waiting).1

end States

/-- **Single flight.** Of the loads of a device begun since everything was last dropped at most one
is under way; it holds the slot, so a call starts no other one. A call that waits for a load gets
exactly what this load ends with, the same for all, whatever happens to the slot. -/
theorem single_flight (settings : CacheSettings) (events : List (Event α)) :
    let cache := (Cache.new settings).run events
    let mark := lastDrop (Cache.new settings) 0 events
    (∀ device first second, mark ≤ first → mark ≤ second →
      cache.UnderWay device first → cache.UnderWay device second → first = second) ∧
    (∀ device load, mark ≤ load → cache.UnderWay device load →
      cache.slots.get? device = some (.loading load) ∧ (cache.get device).loads = cache.loads ∧
        (cache.get device).calls = cache.calls ++ [.waiting load]) ∧
    (∀ (call load : Nat), cache.calls[call]? = some (.waiting load) → ∀ later,
      (cache.run later).calls[call]? = some (.waiting load) ∨
        (cache.run later).calls[call]? = some (.abandoned load) ∨
          ∃ result, (cache.run later).calls[call]? = some (.answered load result) ∧
            ∀ further, ((cache.run later).run further).resultOf load = some result) ∧
    (∀ (call load : Nat) (result : Except MappingError α),
      cache.calls[call]? = some (.waiting load) → cache.resultOf load = some result →
        (cache.take call).calls[call]? = some (.answered load result)) ∧
    (∀ (load : Nat) (device : String), cache.loads[load]? = some ⟨device, .running⟩ →
      (∀ result, (cache.finish load result).resultOf load = some result) ∧
        (cache.crash load).resultOf load = some (.error .loadCrashed)) := by
  intro cache mark
  have tidy : Tidy mark cache := tidy_run (tidy_new settings) events
  have answered : Answered cache := answered_run (tidy_new settings) (answered_new settings) events
  refine ⟨fun device first second sinceFirst sinceSecond goesFirst goesSecond => ?_,
    fun device load since underWay => ?_, fun call load waiting later => ?_,
    fun call load result waiting ended => take_answers waiting ended,
    fun load device running => ⟨resultOf_finish running, resultOf_crash running⟩⟩
  · have held := tidy.held_of_underWay sinceFirst goesFirst
    rw [tidy.held_of_underWay sinceSecond goesSecond] at held
    cases held
    rfl
  · have held := tidy.held_of_underWay since underWay
    refine ⟨held, ?_, ?_⟩
    · rw [get_of_held held]
      rfl
    · rw [get_of_held held]
      rfl
  · exact fate_of_waiting tidy answered waiting later

/-- A call that waits for a load from before a drop gets its result, while the next call waits for
the one load begun since. -/
theorem single_flight_across_drop :
    let events : List (Event Nat) := [.get "lamp", .grant 0, .invalidateAll, .get "lamp"]
    let cache := (Cache.new .usual).run events
    cache.calls[0]? = some (.waiting 0) ∧ cache.UnderWay "lamp" 0 ∧ cache.UnderWay "lamp" 1 ∧
      (cache.get "lamp").loads = cache.loads ∧
        (cache.get "lamp").calls = cache.calls ++ [.waiting 1] ∧
          (cache.finish 0 (.ok 7)).resultOf 0 = some (.ok 7) := by
  intro events cache
  have flight := single_flight CacheSettings.usual events
  have next : cache.UnderWay "lamp" 1 := ⟨.queued, rfl, rfl⟩
  exact ⟨rfl, ⟨.running, rfl, rfl⟩, next, (flight.2.1 "lamp" 1 (by decide) next).2.1,
    (flight.2.1 "lamp" 1 (by decide) next).2.2, (flight.2.2.2.2 0 "lamp" rfl).1 (.ok 7)⟩

end Cache

end DeviceMapping
