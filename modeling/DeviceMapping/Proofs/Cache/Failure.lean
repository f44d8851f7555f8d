/-
**Which failures later calls can get.**

A load that ends with an error frees its slot at once. A load that crashes keeps it until a call
takes the result, so where all its callers have given up the next call joins a load that is over.

* `held_and_ended_iff`: a slot names a load that has ended exactly where the load crashed, is not
  from before a drop, and no call has its result (`Unnoticed`).
* `later_failure_iff`: a call that begins after a load has failed can get this failure exactly in
  that case; in every other case it depends on a later load of the device.
* `crash_reaches_later_call`: the case does arise.
-/

import DeviceMapping.Proofs.Cache.SingleFlight

namespace DeviceMapping.Cache

variable {α : Type}

/-- A load of a device, begun since the drop marked, crashed and no call has its result. -/
def Unnoticed (cache : Cache α) (mark : Nat) (device : String) (load : Nat) : Prop :=
  mark ≤ load ∧ (∃ noticed, cache.loads[load]? = some ⟨device, .crashed noticed⟩) ∧
    ¬ ∃ call ∈ cache.calls, ∃ result, call.answer? = some (load, result)

section States

variable {mark : Nat} {cache : Cache α} {device : String} {load : Nat}

/-- An open load that has ended crashed and was not noticed. -/
theorem eq_crashed_of_isOpen {phase : Phase α} (isOpen : phase.isOpen = true)
    (ended : phase.result?.isSome = true) : phase = .crashed false := by
  cases phase with
  | queued | running => cases ended
  | answered => cases isOpen
  | crashed noticed =>
    cases noticed with
    | false => rfl
    | true => cases isOpen

/-- A slot names a load that has ended exactly where a crash has not been noticed. -/
theorem held_and_ended_iff (tidy : Tidy mark cache) (answered : Answered cache) :
    cache.slots.get? device = some (.loading load) ∧ (cache.resultOf load).isSome = true ↔
      cache.Unnoticed mark device load := by
  rw [(tidy.fits device).held_iff]
  constructor
  · rintro ⟨⟨since, phase, found, isOpen⟩, ended⟩
    rw [resultOf_of_getElem? found] at ended
    have crashed := eq_crashed_of_isOpen isOpen ended
    subst crashed
    refine ⟨since, ⟨false, found⟩, fun noticed => ?_⟩
    exact Bool.false_ne_true ((answered.noticed_iff load device false found).mpr noticed)
  · rintro ⟨since, ⟨noticed, found⟩, unknown⟩
    have unnoticed : noticed = false := by
      rw [Bool.eq_false_iff]
      exact fun isNoticed =>
        unknown ((answered.noticed_iff load device noticed found).mp isNoticed)
    subst unnoticed
    exact ⟨⟨since, _, found, rfl⟩, by rw [resultOf_of_getElem? found]; rfl⟩

/-- Where a failed load is not a crash to be noticed, the next call depends on a later load. -/
theorem exists_later_call {after : Cache α} (tidy : Tidy mark cache) (answered : Answered cache)
    (change : Change cache (.get device) after) {phase : Phase α} {fault : MappingError}
    (found : cache.loads[load]? = some ⟨device, phase⟩)
    (failed : phase.result? = some (.error fault)) (other : ¬ cache.Unnoticed mark device load) :
    ∃ state, after.calls = cache.calls ++ [state] ∧ load < state.load := by
  have latest := (tidy.fits device).latest
  cases change with
  | joined _ holder held =>
    refine ⟨.waiting holder, rfl, Nat.lt_of_le_of_ne (latest _ held load phase found) ?_⟩
    rintro rfl
    refine other ((held_and_ended_iff tidy answered).mp ⟨held, ?_⟩)
    rw [resultOf_of_getElem? found, failed]
    rfl
  | hit _ entry ready fresh =>
    refine ⟨.hit entry.load entry.value, rfl,
      Nat.lt_of_le_of_ne (latest _ ready load phase found) fun same => ?_⟩
    have stored := ((tidy.fits device).stored entry ready).2
    rw [show entry.load = load from same.symm, found] at stored
    cases stored
    cases failed
  | began => exact ⟨.waiting cache.loads.length, rfl, lt_length_of_getElem? found⟩

/-- The next call takes the result of a crash that has not been noticed. -/
theorem answered_of_unnoticed (tidy : Tidy mark cache) (answered : Answered cache)
    {result : Except MappingError α} (ended : cache.resultOf load = some result)
    (unnoticed : cache.Unnoticed mark device load) :
    ((cache.get device).take cache.calls.length).calls[cache.calls.length]? =
      some (.answered load result) := by
  have held := ((held_and_ended_iff tidy answered).mpr unnoticed).1
  rw [get_of_held held]
  exact take_answers List.getElem?_concat_length ended

end States

/-- **Which failures later calls get.** A slot names a load that is over exactly where the load
crashed unnoticed, and exactly then a call that begins after a failure can be answered with it. In
every other case the call depends on a later load. -/
theorem later_failure_iff (settings : CacheSettings) (events : List (Event α)) :
    let cache := (Cache.new settings).run events
    let mark := lastDrop (Cache.new settings) 0 events
    (∀ device load, cache.slots.get? device = some (.loading load) ∧
      (cache.resultOf load).isSome = true ↔ cache.Unnoticed mark device load) ∧
    (∀ (load : Nat) (device : String) (phase : Phase α) (fault : MappingError),
      cache.loads[load]? = some ⟨device, phase⟩ → phase.result? = some (.error fault) →
        ((∃ later, ((cache.get device).run later).calls[cache.calls.length]? =
            some (.answered load (.error fault))) ↔ cache.Unnoticed mark device load) ∧
        (¬ cache.Unnoticed mark device load → ∀ later state,
          ((cache.get device).run later).calls[cache.calls.length]? = some state →
            load < state.load)) := by
  intro cache mark
  have tidy : Tidy mark cache := tidy_run (tidy_new settings) events
  have answered : Answered cache := answered_run (tidy_new settings) (answered_new settings) events
  refine ⟨fun device load => held_and_ended_iff tidy answered,
    fun load device phase fault found failed => ?_⟩
  have later_load : ¬ cache.Unnoticed mark device load → ∀ later state,
      ((cache.get device).run later).calls[cache.calls.length]? = some state →
        load < state.load := by
    intro other later asked found'
    obtain ⟨state, began, after⟩ := exists_later_call tidy answered
      (change_get cache device) found failed other
    rw [load_of_later_call began later found']
    exact after
  refine ⟨⟨fun ⟨later, found'⟩ => ?_, fun unnoticed => ?_⟩, later_load⟩
  · exact Classical.byContradiction fun other =>
      Nat.lt_irrefl load (later_load other later _ found')
  · have ended := (resultOf_of_getElem? found).trans failed
    exact ⟨[.take cache.calls.length], answered_of_unnoticed tidy answered ended unnoticed⟩

/-- After a returned failure the next call starts a load of its own. -/
theorem later_failure_returned :
    let events : List (Event Nat) :=
      [.get "lamp", .grant 0, .finish 0 (.error (.deviceNotFound "lamp"))]
    let cache := (Cache.new .usual).run events
    cache.loads[0]? = some ⟨"lamp", .answered (.error (.deviceNotFound "lamp"))⟩ ∧
      ¬ cache.Unnoticed 0 "lamp" 0 ∧ (cache.get "lamp").calls[1]? = some (.waiting 1) ∧
        0 < (Call.waiting 1 : Call Nat).load := by
  intro events cache
  have seen : ¬ cache.Unnoticed 0 "lamp" 0 := by
    rintro ⟨_, ⟨_, crashed⟩, _⟩
    cases crashed
  have failures := (later_failure_iff CacheSettings.usual events).2 0 "lamp" _ _ rfl rfl
  exact ⟨rfl, seen, rfl, failures.2 seen [] _ rfl⟩

/-- The crash of a load whose only caller gave up answers a call that begins afterwards. -/
theorem crash_reaches_later_call :
    let cache : Cache Nat :=
      (Cache.new .usual).run [.get "lamp", .abandon 0, .grant 0, .crash 0]
    cache.resultOf 0 = some (.error .loadCrashed) ∧
      cache.slots.get? "lamp" = some (.loading 0) ∧
        (cache.run [.get "lamp", .take 1]).calls[1]? =
          some (.answered 0 (.error .loadCrashed)) :=
  ⟨rfl, rfl, rfl⟩

end DeviceMapping.Cache
