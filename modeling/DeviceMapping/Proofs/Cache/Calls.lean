/-
**What becomes of the loads and calls of a cache.**

* `Grows before after`: loads are only added, keep their device, and an ended load keeps its
  result; calls are only added, and a waiting call is answered by its own load or given up, once
  and for all. Every event makes the cache grow so (`grows_change`, `grows_run`).
* `Answered cache`: every answer is the result of the load it names, and the crash of a load is
  noticed exactly where a call has its result (`answered_change`, `answered_run`).
-/

import DeviceMapping.Proofs.Cache.Flight

namespace DeviceMapping

variable {α : Type}

namespace Call

/-- What may become of a call. -/
inductive Becomes : Call α → Call α → Prop
  | stays (call : Call α) : Becomes call call
  | answered (load : Nat) (result : Except MappingError α) :
      Becomes (.waiting load) (.answered load result)
  | abandoned (load : Nat) : Becomes (.waiting load) (.abandoned load)

namespace Becomes

variable {first second third : Call α}

theorem trans (before : first.Becomes second) (after : second.Becomes third) :
    first.Becomes third := by
  cases before with
  | stays => exact after
  | answered load result =>
    cases after
    exact .answered load result
  | abandoned load =>
    cases after
    exact .abandoned load

/-- A call depends on one load all along. -/
theorem load_eq (becomes : first.Becomes second) : second.load = first.load := by
  cases becomes <;> rfl

end Becomes

/-- An answer names the load that the call depends on. -/
theorem load_of_answer {call : Call α} {load : Nat} {result : Except MappingError α}
    (answered : call.answer? = some (load, result)) : call.load = load := by
  cases call with
  | hit | answered =>
    cases answered
    rfl
  | waiting | abandoned => cases answered

end Call

namespace Cache

/-! ### Loads and calls only grow -/

/-- Loads and calls are only added; devices, results and answers stay. -/
structure Grows (before after : Cache α) : Prop where
  loads : ∀ (load : Nat) (device : String) (phase : Phase α),
    before.loads[load]? = some ⟨device, phase⟩ →
      ∃ next : Phase α, after.loads[load]? = some ⟨device, next⟩ ∧
        ∀ result, phase.result? = some result → next.result? = some result
  calls : ∀ (call : Nat) (state : Call α), before.calls[call]? = some state →
    ∃ next, after.calls[call]? = some next ∧ state.Becomes next

namespace Grows

variable {cache before middle after : Cache α}

theorem same (loads : after.loads = before.loads) (calls : after.calls = before.calls) :
    Grows before after :=
  ⟨fun _ _ phase found => ⟨phase, loads ▸ found, fun _ is => is⟩,
    fun _ state found => ⟨state, calls ▸ found, .stays state⟩⟩

theorem trans (first : Grows before middle) (second : Grows middle after) : Grows before after := by
  refine ⟨fun load device phase found => ?_, fun call state found => ?_⟩
  · obtain ⟨next, found', keeps⟩ := first.loads load device phase found
    obtain ⟨last, found'', keeps'⟩ := second.loads load device next found'
    exact ⟨last, found'', fun result is => keeps' result (keeps result is)⟩
  · obtain ⟨next, found', becomes⟩ := first.calls call state found
    obtain ⟨last, found'', becomes'⟩ := second.calls call next found'
    exact ⟨last, found'', becomes.trans becomes'⟩

theorem added {loads : List (Load α)} {calls : List (Call α)}
    (moreLoads : after.loads = before.loads ++ loads)
    (moreCalls : after.calls = before.calls ++ calls) : Grows before after := by
  refine ⟨fun load device phase found => ⟨phase, ?_, fun _ is => is⟩,
    fun call state found => ⟨state, ?_, .stays state⟩⟩
  · rw [moreLoads, List.getElem?_append_left (lt_length_of_getElem? found)]
    exact found
  · rw [moreCalls, List.getElem?_append_left (List.getElem?_eq_some_iff.mp found).1]
    exact found

/-- A load may go on as long as its result, if it has one, stays. -/
theorem changed {load : Nat} {device : String} {phase next : Phase α}
    (found : before.loads[load]? = some ⟨device, phase⟩)
    (keeps : ∀ result, phase.result? = some result → next.result? = some result)
    (loads : after.loads = (before.setPhase load next).loads)
    (calls : after.calls = before.calls) : Grows before after := by
  refine ⟨fun other owner state found' => ?_,
    fun _ state found' => ⟨state, calls ▸ found', .stays _⟩⟩
  rw [loads, getElem?_setPhase]
  by_cases same : load = other
  · subst same
    rw [found] at found'
    cases found'
    rw [if_pos rfl, found]
    exact ⟨next, rfl, keeps⟩
  · rw [if_neg same]
    exact ⟨state, found', fun _ is => is⟩

/-- A crash that comes to light is the same result. -/
theorem noticed {load : Nat} {device : String}
    (unknown : before.loads[load]? = some ⟨device, .crashed false⟩)
    (loads : after.loads = (before.setPhase load (.crashed true)).loads)
    (calls : after.calls = before.calls) : Grows before after := by
  have keeps : ∀ result : Except MappingError α, (Phase.crashed false).result? = some result →
      (Phase.crashed true).result? = some result := fun _ is => is
  exact .changed unknown keeps loads calls

/-- A waiting call may be answered or given up. -/
theorem called {call load : Nat} {state : Call α}
    (waiting : before.calls[call]? = some (.waiting load))
    (becomes : (Call.waiting load).Becomes state) (loads : after.loads = before.loads)
    (calls : after.calls = before.calls.set call state) :
    Grows before after := by
  refine ⟨fun _ _ phase found => ⟨phase, loads ▸ found, fun _ is => is⟩, fun other old found => ?_⟩
  rw [calls, List.getElem?_set]
  by_cases same : call = other
  · subst same
    rw [waiting] at found
    cases found
    rw [if_pos rfl, if_pos (List.getElem?_eq_some_iff.mp waiting).1]
    exact ⟨state, rfl, becomes⟩
  · rw [if_neg same]
    exact ⟨old, found, .stays old⟩

theorem lt_length (grows : Grows before after) {load : Nat} (begun : load < before.loads.length) :
    load < after.loads.length := by
  obtain ⟨next, found, _⟩ := grows.loads load _ _ (List.getElem?_eq_getElem begun)
  exact lt_length_of_getElem? found

/-- A load that has ended keeps its result. -/
theorem resultOf (grows : Grows before after) {load : Nat} {result : Except MappingError α}
    (ended : before.resultOf load = some result) : after.resultOf load = some result := by
  obtain ⟨⟨device, phase⟩, found, is⟩ := Option.bind_eq_some_iff.mp ended
  obtain ⟨next, found', keeps⟩ := grows.loads load device phase found
  rw [resultOf_of_getElem? found']
  exact keeps result is

end Grows

theorem grows_change {cache after : Cache α} {event : Event α} (change : Change cache event after) :
    Grows cache after := by
  cases change with
  | joined | hit => exact .added (List.append_nil _).symm rfl
  | began => exact .added rfl rfl
  | found | dropped | purged | advanced => exact .same rfl rfl
  | granted load device queued free => exact .changed queued nofun rfl rfl
  | stored load device value running =>
    exact .changed running nofun (loads_store _ _ _ _) (calls_store _ _ _ _)
  | failed load device fault running => exact .changed running nofun rfl rfl
  | crashed load device running => exact .changed running nofun rfl rfl
  | taken call load result waiting ended known =>
    exact .called waiting (.answered load result) rfl rfl
  | noticed call load device waiting unknown =>
    have noticed : Grows cache ((cache.setPhase load (.crashed true)).fail device load) :=
      .noticed unknown rfl rfl
    exact noticed.trans (.called waiting (.answered load _) rfl rfl)
  | abandoned call load waiting => exact .called waiting (.abandoned load) rfl rfl
  | missed | refused | unfinished | uncrashed | untaken | unabandoned => exact .same rfl rfl

theorem grows_run (cache : Cache α) (events : List (Event α)) : Grows cache (cache.run events) := by
  induction events generalizing cache with
  | nil => exact .same rfl rfl
  | cons event rest ih => exact (grows_change (change_step cache event)).trans (ih _)

/-! ### The call that begins -/

/-- The call that begins depends on the load that the slot names afterwards. -/
theorem exists_call_of_get {cache after : Cache α} {device : String}
    (change : Change cache (.get device) after) :
    ∃ state slot, after.calls = cache.calls ++ [state] ∧ after.slots.get? device = some slot ∧
      slot.load = state.load := by
  cases change with
  | joined _ load held => exact ⟨.waiting load, .loading load, rfl, held, rfl⟩
  | hit _ entry ready fresh =>
    refine ⟨.hit entry.load entry.value, .ready { entry with accessedAt := cache.now }, rfl, ?_,
      rfl⟩
    show (cache.slots.insert device _).get? device = _
    rw [Table.get?_insert, if_pos rfl]
  | began _ free expired =>
    refine ⟨.waiting cache.loads.length, .loading cache.loads.length, rfl, ?_, rfl⟩
    show (cache.slots.insert device _).get? device = _
    rw [Table.get?_insert, if_pos rfl]

/-- A call depends on one load whatever happens later. -/
theorem load_of_later_call {cache : Cache α} {device : String} {state asked : Call α}
    (began : (cache.get device).calls = cache.calls ++ [state]) (later : List (Event α))
    (found : ((cache.get device).run later).calls[cache.calls.length]? = some asked) :
    asked.load = state.load := by
  have first : (cache.get device).calls[cache.calls.length]? = some state := by
    rw [began]
    exact List.getElem?_concat_length
  obtain ⟨next, found', becomes⟩ := (grows_run (cache.get device) later).calls _ _ first
  rw [found] at found'
  cases found'
  exact becomes.load_eq

/-! ### Giving out a result -/

/-- Where one waiting call changes, the other answers stay. -/
theorem exists_answer_set {calls : List (Call α)} {call load : Nat} (state : Call α)
    (waiting : calls[call]? = some (.waiting load)) (other : Nat) :
    (∃ asked ∈ calls.set call state, ∃ result, asked.answer? = some (other, result)) ↔
      (∃ asked ∈ calls, ∃ result, asked.answer? = some (other, result)) ∨
        ∃ result, state.answer? = some (other, result) := by
  constructor
  · rintro ⟨asked, member, result, is⟩
    rcases List.mem_or_eq_of_mem_set member with old | rfl
    · exact .inl ⟨asked, old, result, is⟩
    · exact .inr ⟨result, is⟩
  · rintro (⟨asked, member, result, is⟩ | ⟨result, is⟩)
    · obtain ⟨place, found⟩ := List.mem_iff_getElem?.mp member
      have elsewhere : call ≠ place := by
        rintro rfl
        rw [waiting] at found
        cases found
        cases is
      refine ⟨asked, List.mem_of_getElem? (i := place) ?_, result, is⟩
      rw [List.getElem?_set_ne elsewhere]
      exact found
    · have inRange := (List.getElem?_eq_some_iff.mp waiting).1
      exact ⟨state, List.mem_set inRange state, result, is⟩

/-! ### Answers and noticed crashes -/

/-- The results that have been given out are those of the loads, and they tell which crashes have
been noticed. -/
structure Answered (cache : Cache α) : Prop where
  begun : ∀ call ∈ cache.calls, call.load < cache.loads.length
  answers : ∀ call ∈ cache.calls, ∀ load result, call.answer? = some (load, result) →
    cache.resultOf load = some result
  noticed_iff : ∀ (load : Nat) (device : String) (noticed : Bool),
    cache.loads[load]? = some ⟨device, .crashed noticed⟩ →
      (noticed = true ↔ ∃ call ∈ cache.calls, ∃ result, call.answer? = some (load, result))

theorem answered_new (settings : CacheSettings) : Answered (Cache.new settings : Cache α) :=
  ⟨nofun, nofun, nofun⟩

namespace Answered

variable {cache after : Cache α}

theorem frame (answered : Answered cache) (loads : after.loads = cache.loads)
    (calls : after.calls = cache.calls) : Answered after := by
  obtain ⟨begun, answers, noticed⟩ := answered
  have results : after.resultOf = cache.resultOf := by
    funext load
    unfold resultOf
    rw [loads]
  exact ⟨calls ▸ loads ▸ begun, calls ▸ results ▸ answers, calls ▸ loads ▸ noticed⟩

/-- No call has an answer of a load that has not ended. -/
theorem not_answered (answered : Answered cache) {load : Nat}
    (notEnded : cache.resultOf load = none) :
    ¬ ∃ call ∈ cache.calls, ∃ result, call.answer? = some (load, result) := by
  rintro ⟨call, member, result, is⟩
  have ended := answered.answers call member load result is
  rw [notEnded] at ended
  cases ended

/-- A load that has not ended may go on; if it crashes nobody knows yet. -/
theorem changed (answered : Answered cache) {load : Nat} {device : String} {phase next : Phase α}
    (found : cache.loads[load]? = some ⟨device, phase⟩) (notEnded : phase.result? = none)
    (loads : after.loads = (cache.setPhase load next).loads) (calls : after.calls = cache.calls)
    (unknown : next ≠ .crashed true) : Answered after := by
  have grows : Grows cache after :=
    .changed found (fun result is => by rw [notEnded] at is; cases is) loads calls
  refine ⟨fun call member => ?_, fun call member other result is => ?_,
    fun other owner noticed crashed => ?_⟩
  · rw [loads, length_loads_setPhase]
    exact answered.begun call (calls ▸ member)
  · exact grows.resultOf (answered.answers call (calls ▸ member) other result is)
  · rw [calls]
    rw [loads, getElem?_setPhase] at crashed
    by_cases same : load = other
    · subst same
      rw [if_pos rfl, found] at crashed
      cases crashed
      have unread := answered.not_answered ((resultOf_of_getElem? found).trans notEnded)
      exact iff_of_false (fun isTrue => unknown (by rw [isTrue])) unread
    · rw [if_neg same] at crashed
      exact answered.noticed_iff other owner noticed crashed

/-- A new call has no answer, or that of a load which succeeded. -/
theorem added (answered : Answered cache) {more : List (Load α)} {state : Call α}
    (loads : after.loads = cache.loads ++ more) (calls : after.calls = cache.calls ++ [state])
    (queued : ∀ begun ∈ more, begun.phase = .queued) (begun : state.load < after.loads.length)
    (succeeded : ∀ load result, state.answer? = some (load, result) →
      ∃ value, cache.resultOf load = some (.ok value) ∧ result = .ok value) : Answered after := by
  have grows : Grows cache after := .added loads calls
  refine ⟨fun call member => ?_, fun call member load result is => ?_,
    fun load device noticed crashed => ?_⟩
  · rw [calls, List.mem_append, List.mem_singleton] at member
    rcases member with old | rfl
    · exact grows.lt_length (answered.begun call old)
    · exact begun
  · rw [calls, List.mem_append, List.mem_singleton] at member
    rcases member with old | rfl
    · exact grows.resultOf (answered.answers call old load result is)
    · obtain ⟨value, ended, rfl⟩ := succeeded load result is
      exact grows.resultOf ended
  · have before : cache.loads[load]? = some ⟨device, .crashed noticed⟩ := by
      rw [loads, List.getElem?_append] at crashed
      split at crashed
      · exact crashed
      · cases queued _ (List.mem_of_getElem? crashed)
    rw [answered.noticed_iff load device noticed before, calls]
    constructor
    · rintro ⟨call, member, result, is⟩
      exact ⟨call, List.mem_append_left _ member, result, is⟩
    · rintro ⟨call, member, result, is⟩
      rw [List.mem_append, List.mem_singleton] at member
      rcases member with old | rfl
      · exact ⟨call, old, result, is⟩
      · obtain ⟨value, ended, _⟩ := succeeded load result is
        rw [resultOf_of_getElem? before] at ended
        cases ended

/-- A call that starts a load waits for it. -/
theorem began (answered : Answered cache) (device : String) :
    Answered ((cache.startLoad device).join cache.loads.length) := by
  refine answered.added rfl rfl (fun begun new => ?_) ?_ nofun
  · rw [List.mem_singleton.mp new]
  · show cache.loads.length < (cache.loads ++ [_]).length
    rw [List.length_append]
    exact Nat.lt_succ_self _

/-- Where one waiting call changes, it is enough to look at the crashes. -/
theorem replaced (answered : Answered cache) (grows : Grows cache after) {call load : Nat}
    (state : Call α) (waiting : cache.calls[call]? = some (.waiting load))
    (same : state.load = load) (calls : after.calls = cache.calls.set call state)
    (answer : ∀ other result, state.answer? = some (other, result) →
      cache.resultOf other = some result)
    (noticed : ∀ (other : Nat) (device : String) (noticed : Bool),
      after.loads[other]? = some ⟨device, .crashed noticed⟩ →
        (noticed = true ↔
          (∃ asked ∈ cache.calls, ∃ result, asked.answer? = some (other, result)) ∨
            ∃ result, state.answer? = some (other, result))) : Answered after := by
  refine ⟨fun asked member => grows.lt_length ?_, fun asked member other result is =>
    grows.resultOf ?_, fun other device isNoticed crashed => ?_⟩
  · rcases List.mem_or_eq_of_mem_set (calls ▸ member) with old | rfl
    · exact answered.begun asked old
    · rw [same]
      exact answered.begun (.waiting load) (List.mem_of_getElem? waiting)
  · rcases List.mem_or_eq_of_mem_set (calls ▸ member) with old | rfl
    · exact answered.answers asked old other result is
    · exact answer other result is
  · rw [calls, exists_answer_set state waiting]
    exact noticed other device isNoticed crashed

/-- An answer of one load tells nothing about the crash of another. -/
theorem noticed_iff_of_ne (answered : Answered cache) {load other : Nat} (different : load ≠ other)
    (result : Except MappingError α) {device : String} {noticed : Bool}
    (crashed : cache.loads[other]? = some ⟨device, .crashed noticed⟩) :
    noticed = true ↔
      (∃ asked ∈ cache.calls, ∃ answer, asked.answer? = some (other, answer)) ∨
        ∃ answer, (Call.answered load result).answer? = some (other, answer) := by
  rw [answered.noticed_iff other device noticed crashed]
  refine (or_iff_left ?_).symm
  rintro ⟨answer, is⟩
  cases is
  exact different rfl

/-- A call takes the result of its load, whose crash, if it was one, has been noticed. -/
theorem taken (answered : Answered cache) {call load : Nat} {result : Except MappingError α}
    (waiting : cache.calls[call]? = some (.waiting load))
    (ended : cache.resultOf load = some result)
    (known : ∀ device : String, cache.loads[load]? ≠ some ⟨device, .crashed false⟩) :
    Answered { cache with calls := cache.calls.set call (.answered load result) } := by
  refine answered.replaced (.called waiting (.answered load result) rfl rfl)
    (.answered load result) waiting rfl rfl (fun other answer is => ?_)
    fun other device noticed crashed => ?_
  · cases is
    exact ended
  · by_cases same : load = other
    · subst same
      refine iff_of_true ?_ (.inr ⟨result, rfl⟩)
      cases noticed with
      | false => exact (known device crashed).elim
      | true => rfl
    · exact answered.noticed_iff_of_ne same result crashed

/-- The first call that takes the result of a crashed load brings the crash to light. -/
theorem noticed (answered : Answered cache) {call load : Nat} {device : String}
    (waiting : cache.calls[call]? = some (.waiting load))
    (unknown : cache.loads[load]? = some ⟨device, .crashed false⟩)
    (loads : after.loads = (cache.setPhase load (.crashed true)).loads)
    (calls : after.calls = cache.calls.set call (.answered load (.error .loadCrashed))) :
    Answered after := by
  have told : Grows cache { cache with loads := after.loads } :=
    .noticed unknown loads rfl
  have grows : Grows cache after := told.trans (.called waiting (.answered load _) rfl calls)
  refine answered.replaced grows (.answered load (.error .loadCrashed)) waiting rfl calls
    (fun other answer is => ?_) fun other owner noticed crashed => ?_
  · cases is
    exact resultOf_of_getElem? unknown
  · rw [loads, getElem?_setPhase] at crashed
    by_cases same : load = other
    · subst same
      rw [if_pos rfl, unknown] at crashed
      cases crashed
      exact iff_of_true rfl (.inr ⟨_, rfl⟩)
    · rw [if_neg same] at crashed
      exact answered.noticed_iff_of_ne same _ crashed

/-- A call that gives up has no answer. -/
theorem givenUp (answered : Answered cache) {call load : Nat}
    (waiting : cache.calls[call]? = some (.waiting load)) (loads : after.loads = cache.loads)
    (calls : after.calls = cache.calls.set call (.abandoned load)) : Answered after := by
  refine answered.replaced (.called waiting (.abandoned load) loads calls) (.abandoned load)
    waiting rfl calls nofun fun other device noticed crashed => ?_
  rw [answered.noticed_iff other device noticed (loads ▸ crashed)]
  exact (or_iff_left nofun).symm

end Answered

theorem answered_change {mark : Nat} {cache after : Cache α} {event : Event α}
    (tidy : Tidy mark cache) (answered : Answered cache) (change : Change cache event after) :
    Answered after := by
  cases change with
  | joined device load held =>
    obtain ⟨_, phase, begun, _⟩ := ((tidy.fits device).held_iff load).mp held
    exact answered.added (List.append_nil _).symm rfl nofun (lt_length_of_getElem? begun) nofun
  | hit device entry ready fresh =>
    have stored := ((tidy.fits device).stored entry ready).2
    refine answered.added (List.append_nil _).symm rfl nofun (lt_length_of_getElem? stored) ?_
    intro load result is
    cases is
    exact ⟨entry.value, resultOf_of_getElem? stored, rfl⟩
  | began device => exact answered.began device
  | found | dropped | purged | advanced => exact answered.frame rfl rfl
  | granted load device queued free => exact answered.changed queued rfl rfl rfl nofun
  | stored load device value running =>
    exact answered.changed running rfl (loads_store _ _ _ _) (calls_store _ _ _ _) nofun
  | failed load device fault running => exact answered.changed running rfl rfl rfl nofun
  | crashed load device running => exact answered.changed running rfl rfl rfl nofun
  | taken call load result waiting ended known => exact answered.taken waiting ended known
  | noticed call load device waiting unknown => exact answered.noticed waiting unknown rfl rfl
  | abandoned call load waiting => exact answered.givenUp waiting rfl rfl
  | missed | refused | unfinished | uncrashed | untaken | unabandoned => exact answered

theorem answered_run {mark : Nat} {cache : Cache α} (tidy : Tidy mark cache)
    (answered : Answered cache) (events : List (Event α)) : Answered (cache.run events) := by
  induction events generalizing mark cache with
  | nil => exact answered
  | cons event rest ih =>
    have change := change_step cache event
    exact ih (tidy_change tidy change) (answered_change tidy answered change)

end Cache

end DeviceMapping
