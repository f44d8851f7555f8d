/-
**The cache agrees with the rules once its listener has caught up.**

* `Change before after`: all that one event can do to a deployment (`change_step`). What a write does
  is what its course comes to (`last_course_write`).
* `Coherent`: a load ends only with what it read, and while the listener has nothing to receive,
  every load that a slot names has read the rules as they are now, if it has read any. A write that
  changes rules leaves the listener something to receive; receiving it empties the slots
  (`coherent_change`, `coherent_run`).
* `Settled`: a load that can only end with what its device resolves to, as long as nothing is
  written (`settled_change`, `settled_run`).
* `agrees_when_quiet`: every entry, and every answer to a call that begins then, is what its device
  resolves to.
-/

import DeviceMapping.Proofs.Cache.Origin
import DeviceMapping.Proofs.Store.Announcement
import DeviceMapping.Service.Deployment

namespace DeviceMapping.Deployment

/-! ### What one event can do -/

/-- A write that signals, a signal received, a load that reads the rules, a step of the cache in
which a load ends only with what it read, or nothing. -/
inductive Change (before : Deployment) : Deployment → Prop
  | wrote (store : MemoryStore) (change : RuleChange) :
      Change before { before with store := store, feed := before.feed.publish change }
  | received (received : Received) (next : Subscriber)
      (is : before.feed.receive before.listener = some (received, next)) :
      Change before { before with cache := before.cache.invalidateAll, listener := next }
  | read (load : Nat) (device : String)
      (running : before.cache.loads[load]? = some ⟨device, .running⟩)
      (first : before.resolved.lookup load = none) :
      Change before { before with
        resolved := before.resolved ++
          [(load, Resolution.resolve before.registry before.store device)] }
  | moved (move : Cache.Event (List Detail)) (noCrash : ∀ load, move ≠ .crash load)
      (ends : ∀ load result, move = .finish load result →
        before.resolved.lookup load = some result) :
      Change before (before.onCache move)
  | nothing : Change before before

/-- A write is one event here. On a course of its own, with others looking in between, it comes to
the same rules and signals in the end. -/
theorem last_course_write (deployment : Deployment) (write : RuleWrite) :
    let before : Moment MemoryStore := ⟨deployment.store, deployment.feed⟩
    (MemoryStore.course before write).last before =
      ⟨(deployment.write write).store, (deployment.write write).feed⟩ :=
  MemoryStore.last_course ⟨deployment.store, deployment.feed⟩ write

theorem change_write (deployment : Deployment) (write : RuleWrite) :
    Change deployment (deployment.write write) := by
  show Change deployment { deployment with
    store := (write.applyTo deployment.store).1
    feed := deployment.feed.publishAll (write.applyTo deployment.store).2.signal.toList }
  cases signal : (write.applyTo deployment.store).2.signal with
  | none =>
    rw [RuleWrite.applyTo_of_silent deployment.store write signal]
    exact .nothing
  | some change => exact .wrote _ change

theorem change_listen (deployment : Deployment) : Change deployment deployment.listen := by
  unfold listen Cache.listen
  cases is : deployment.feed.receive deployment.listener with
  | none => exact .nothing
  | some first => exact .received first.1 first.2 is

theorem change_resolve (deployment : Deployment) (load : Nat) :
    Change deployment (deployment.resolve load) := by
  unfold resolve
  split
  · rename_i device running first
    exact .read load device running first
  · exact .nothing

theorem change_finish (deployment : Deployment) (load : Nat) :
    Change deployment (deployment.finish load) := by
  unfold finish
  split
  · rename_i result read
    refine .moved (.finish load result) nofun fun other answer same => ?_
    cases same
    exact read
  · exact .nothing

/-- An event changes a deployment in one of five ways. -/
theorem change_step (deployment : Deployment) (event : Event) :
    Change deployment (deployment.step event) := by
  cases event with
  | write write => exact change_write deployment write
  | listen => exact change_listen deployment
  | get device => exact .moved (.get device) nofun nofun
  | peek device => exact .moved (.peek device) nofun nofun
  | purge => exact .moved .purge nofun nofun
  | advance milliseconds => exact .moved (.advance milliseconds) nofun nofun
  | grant load => exact .moved (.grant load) nofun nofun
  | resolve load => exact change_resolve deployment load
  | finish load => exact change_finish deployment load
  | take call => exact .moved (.take call) nofun nofun
  | abandon call => exact .moved (.abandon call) nofun nofun

/-- The cache of a deployment makes steps of its own only. -/
theorem Change.exists_moves {before after : Deployment} (change : Change before after) :
    ∃ moves, after.cache = before.cache.run moves := by
  cases change with
  | received => exact ⟨[.invalidateAll], rfl⟩
  | moved move => exact ⟨[move], rfl⟩
  | wrote | read | nothing => exact ⟨[], rfl⟩

theorem exists_moves (deployment : Deployment) (events : List Event) :
    ∃ moves, (deployment.run events).cache = deployment.cache.run moves := by
  induction events generalizing deployment with
  | nil => exact ⟨[], rfl⟩
  | cons event rest ih =>
    obtain ⟨first, is⟩ := (change_step deployment event).exists_moves
    obtain ⟨others, is'⟩ := ih (deployment.step event)
    refine ⟨first ++ others, ?_⟩
    rw [Cache.run_append, ← is]
    exact is'

/-! ### Coherence -/

/-- Where a load has not read anything yet, what it reads now is what it has read. -/
theorem lookup_concat {resolved : List (Nat × Except MappingError (List Detail))} {load : Nat}
    (first : resolved.lookup load = none) (result : Except MappingError (List Detail))
    (other : Nat) : (resolved ++ [(load, result)]).lookup other =
      if other = load then some result else resolved.lookup other := by
  rw [List.lookup_append, List.lookup_cons, List.lookup_nil]
  by_cases same : other = load
  · subst same
    rw [first, beq_self_eq_true, if_pos rfl]
    rfl
  · have different : (other == load) = false := beq_eq_false_iff_ne.mpr same
    rw [different, if_neg same]
    exact Option.or_none

/-- What holds in every state that a deployment can reach. -/
structure Coherent (deployment : Deployment) : Prop where
  kept : deployment.feed.Kept
  position_le : deployment.listener.position ≤ deployment.feed.sent
  tidy : ∃ mark, Cache.Tidy mark deployment.cache
  answered : Cache.Answered deployment.cache
  begun : ∀ load result, deployment.resolved.lookup load = some result →
    load < deployment.cache.loads.length
  ended : ∀ load result, deployment.cache.resultOf load = some result →
    deployment.resolved.lookup load = some result
  current : deployment.feed.sent ≤ deployment.listener.position → ∀ device slot result,
    deployment.cache.slots.get? device = some slot →
      deployment.resolved.lookup slot.load = some result →
        Resolution.resolve deployment.registry deployment.store device = result

theorem coherent_new (registry : Registry) (capacity : Nat) (settings : CacheSettings) :
    Coherent (.new registry capacity settings) where
  kept := Feed.kept_new capacity
  position_le := Nat.le_refl 0
  tidy := ⟨0, Cache.tidy_new settings⟩
  answered := Cache.answered_new settings
  begun := nofun
  ended := nofun
  current := fun _ => nofun

/-- A step of the cache keeps the entries that were there or lets a load begin, which has read
nothing yet. -/
theorem coherent_moved {deployment : Deployment} (coherent : Coherent deployment)
    (move : Cache.Event (List Detail)) (noCrash : ∀ load, move ≠ .crash load)
    (ends : ∀ load result, move = .finish load result →
      deployment.resolved.lookup load = some result) : Coherent (deployment.onCache move) := by
  obtain ⟨mark, tidy⟩ := coherent.tidy
  have change := Cache.change_step deployment.cache move
  refine ⟨coherent.kept, coherent.position_le, ⟨_, Cache.tidy_change tidy change⟩,
    Cache.answered_change tidy coherent.answered change, fun load result read => ?_,
    fun load result ended => ?_, fun caughtUp device slot result found read => ?_⟩
  · exact (Cache.grows_change change).lt_length (coherent.begun load result read)
  · rcases Cache.origin_of_result change ended with before | isFinish | isCrash
    · exact coherent.ended load result before
    · exact ends load result isFinish
    · exact (noCrash load isCrash).elim
  · rcases Cache.origin_of_slot change found with ⟨old, before, same⟩ | isNew
    · exact coherent.current caughtUp device old result before (same ▸ read)
    · have begun := coherent.begun slot.load result read
      exact (Nat.lt_irrefl _ (isNew ▸ begun)).elim

/-- A load that a slot names and that reads the rules now reads them for the device of the slot. -/
theorem coherent_read {deployment : Deployment} (coherent : Coherent deployment) {load : Nat}
    {device : String} (running : deployment.cache.loads[load]? = some ⟨device, .running⟩)
    (first : deployment.resolved.lookup load = none) :
    Coherent { deployment with
      resolved := deployment.resolved ++
        [(load, Resolution.resolve deployment.registry deployment.store device)] } := by
  refine ⟨coherent.kept, coherent.position_le, coherent.tidy, coherent.answered,
    fun other result read => ?_, fun other result ended => ?_,
    fun caughtUp owner slot result found read => ?_⟩
  · rw [lookup_concat first] at read
    split at read
    · rename_i same
      rw [same]
      exact Cache.lt_length_of_getElem? running
    · exact coherent.begun other result read
  · have before := coherent.ended other result ended
    rw [lookup_concat first, if_neg]
    · exact before
    · rintro rfl
      rw [first] at before
      cases before
  · rw [lookup_concat first] at read
    split at read
    · rename_i same
      obtain ⟨mark, tidy⟩ := coherent.tidy
      obtain ⟨_, phase, begun⟩ := (found ▸ tidy.fits owner).of_slot
      rw [same, running] at begun
      cases begun
      cases read
      rfl
    · exact coherent.current caughtUp owner slot result found read

theorem coherent_change {before after : Deployment} (coherent : Coherent before)
    (change : Change before after) : Coherent after := by
  cases change with
  | wrote store change =>
    -- The signal just sent is still to be received.
    refine { coherent with
      kept := Feed.kept_publish coherent.kept change
      position_le := Nat.le_succ_of_le coherent.position_le
      current := fun caughtUp => ?_ }
    exact (Nat.not_succ_le_self _ (Nat.le_trans caughtUp coherent.position_le)).elim
  | received received next is =>
    obtain ⟨mark, tidy⟩ := coherent.tidy
    exact { coherent with
      position_le := Feed.position_le_of_receive coherent.kept is
      tidy := ⟨_, Cache.tidy_invalidateAll before.cache⟩
      answered := Cache.answered_change tidy coherent.answered .dropped
      current := fun _ => nofun }
  | read load device running first => exact coherent_read coherent running first
  | moved move noCrash ends => exact coherent_moved coherent move noCrash ends
  | nothing => exact coherent

theorem coherent_run {deployment : Deployment} (coherent : Coherent deployment)
    (events : List Event) : Coherent (deployment.run events) := by
  induction events generalizing deployment with
  | nil => exact coherent
  | cons event rest ih => exact ih (coherent_change coherent (change_step deployment event))

theorem Coherent.isQuiet_iff {deployment : Deployment} (coherent : Coherent deployment) :
    deployment.isQuiet = true ↔ deployment.feed.sent ≤ deployment.listener.position := by
  rw [← Feed.receive_eq_none_iff coherent.kept]
  exact Option.isNone_iff_eq_none

/-! ### Calls that begin then -/

def Event.isWrite : Event → Bool
  | write _ => true
  | _ => false

/-- The rules resolve a device to a result, and a load of the device has read this or nothing. -/
structure Settled (deployment : Deployment) (device : String) (load : Nat)
    (result : Except MappingError (List Detail)) : Prop where
  resolves : Resolution.resolve deployment.registry deployment.store device = result
  begun : ∃ phase, deployment.cache.loads[load]? = some ⟨device, phase⟩
  read : ∀ answer, deployment.resolved.lookup load = some answer → answer = result

theorem store_step (deployment : Deployment) {event : Event} (notWrite : event.isWrite = false) :
    (deployment.step event).store = deployment.store := by
  cases event with
  | write => cases notWrite
  | listen => rfl
  | resolve load =>
    show (deployment.resolve load).store = _
    unfold resolve
    split <;> rfl
  | finish load =>
    show (deployment.finish load).store = _
    unfold finish
    split <;> rfl
  | get | peek | purge | advance | grant | take | abandon => rfl

theorem Change.registry_eq {before after : Deployment} (change : Change before after) :
    after.registry = before.registry := by
  cases change <;> rfl

theorem registry_run (deployment : Deployment) (events : List Event) :
    (deployment.run events).registry = deployment.registry := by
  induction events generalizing deployment with
  | nil => rfl
  | cons event rest ih => exact (ih _).trans (change_step deployment event).registry_eq

section Calls

variable {deployment : Deployment} {device : String} {load : Nat}
  {result : Except MappingError (List Detail)}

/-- While the rules stay, a load that reads them reads what its device resolves to. -/
theorem settled_change {after : Deployment} (settled : Settled deployment device load result)
    (change : Change deployment after) (sameRules : after.store = deployment.store) :
    Settled after device load result := by
  have begun : ∃ phase, after.cache.loads[load]? = some ⟨device, phase⟩ := by
    obtain ⟨moves, is⟩ := change.exists_moves
    obtain ⟨phase, found⟩ := settled.begun
    have grows := Cache.grows_run deployment.cache moves
    obtain ⟨next, found', _⟩ := grows.loads load device phase found
    exact ⟨next, is ▸ found'⟩
  refine ⟨?_, begun, fun answer read => ?_⟩
  · rw [change.registry_eq, sameRules]
    exact settled.resolves
  · cases change with
    | read other owner running first =>
      rw [lookup_concat first] at read
      split at read
      · rename_i same
        obtain ⟨phase, found⟩ := settled.begun
        rw [same, running] at found
        cases found
        cases read
        exact settled.resolves
      · exact settled.read answer read
    | wrote | received | moved | nothing => exact settled.read answer read

theorem settled_run (settled : Settled deployment device load result) {events : List Event}
    (noWrite : ∀ event ∈ events, event.isWrite = false) :
    Settled (deployment.run events) device load result := by
  induction events generalizing deployment with
  | nil => exact settled
  | cons event rest ih =>
    have same := store_step deployment (noWrite event List.mem_cons_self)
    exact ih (settled_change settled (change_step deployment event) same)
      fun other member => noWrite other (List.mem_cons_of_mem event member)

/-- A load that the slot of a device names then is settled. -/
theorem settled_of_slot (coherent : Coherent deployment) (quiet : deployment.isQuiet = true)
    {slot : Slot (List Detail)} (found : deployment.cache.slots.get? device = some slot) :
    Settled deployment device slot.load
      (Resolution.resolve deployment.registry deployment.store device) := by
  obtain ⟨mark, tidy⟩ := coherent.tidy
  refine ⟨rfl, (found ▸ tidy.fits device).of_slot.2, fun answer read => ?_⟩
  exact (coherent.current (coherent.isQuiet_iff.mp quiet) device slot answer found read).symm

/-- An entry is what its device resolves to. -/
theorem resolve_of_ready (coherent : Coherent deployment) (quiet : deployment.isQuiet = true)
    {entry : Entry (List Detail)}
    (ready : deployment.cache.slots.get? device = some (.ready entry)) :
    Resolution.resolve deployment.registry deployment.store device = .ok entry.value := by
  obtain ⟨mark, tidy⟩ := coherent.tidy
  have ended : deployment.cache.resultOf entry.load = some (.ok entry.value) :=
    Cache.resultOf_of_getElem? ((tidy.fits device).stored entry ready).2
  exact ((settled_of_slot coherent quiet ready).read _ (coherent.ended _ _ ended)).symm

/-- An answer to a call that begins then is what the device resolves to, if nothing is written
before. -/
theorem resolve_of_later_answer (coherent : Coherent deployment)
    (quiet : deployment.isQuiet = true) {later : List Event}
    (noWrite : ∀ event ∈ later, event.isWrite = false) {state : Call (List Detail)}
    (found : ((deployment.step (.get device)).run later).cache.calls[
      deployment.cache.calls.length]? = some state)
    (is : state.answer? = some (load, result)) :
    Resolution.resolve deployment.registry deployment.store device = result := by
  have begun : Coherent (deployment.step (.get device)) :=
    coherent_change coherent (change_step deployment (.get device))
  have last : Coherent ((deployment.step (.get device)).run later) := coherent_run begun later
  obtain ⟨state', slot, began, filled, names⟩ :=
    Cache.exists_call_of_get (Cache.change_get deployment.cache device)
  have settled : Settled (deployment.step (.get device)) device slot.load _ :=
    settled_of_slot begun quiet filled
  have named : slot.load = load := by
    obtain ⟨moves, same⟩ := exists_moves (deployment.step (.get device)) later
    rw [same] at found
    rw [names, ← Cache.load_of_later_call began moves found]
    exact Call.load_of_answer is
  have ended := last.answered.answers state (List.mem_of_getElem? found) load result is
  rw [named] at settled
  exact ((settled_run settled noWrite).read result (last.ended load result ended)).symm

end Calls

/-- **The cache agrees with the rules once its listener has caught up.** In every state that a
deployment can reach, if the listener has nothing to receive, every entry is what its device
resolves to from the rules now stored; and so is every answer to a call that begins in that state
and gets it before the next write. -/
theorem agrees_when_quiet (registry : Registry) (capacity : Nat) (settings : CacheSettings)
    (events : List Event) :
    let deployment := (Deployment.new registry capacity settings).run events
    deployment.isQuiet = true →
      (∀ device entry, deployment.cache.slots.get? device = some (.ready entry) →
        Resolution.resolve registry deployment.store device = .ok entry.value) ∧
      (∀ device later, (∀ event ∈ later, event.isWrite = false) → ∀ state load result,
        ((deployment.step (.get device)).run later).cache.calls[
            deployment.cache.calls.length]? = some state →
          state.answer? = some (load, result) →
            Resolution.resolve registry deployment.store device = result) := by
  intro deployment quiet
  have coherent : Coherent deployment :=
    coherent_run (coherent_new registry capacity settings) events
  have same : deployment.registry = registry := registry_run _ events
  refine ⟨fun device entry ready => ?_, fun device later noWrite state load result found is => ?_⟩
  · rw [← same]
    exact resolve_of_ready coherent quiet ready
  · rw [← same]
    exact resolve_of_later_answer coherent quiet noWrite found is

/-- A load that read the rules before a write ends after the listener has received its signal, and
leaves no trace: the entry and the next answer are what the devices resolve to since. -/
theorem agrees_when_quiet_overtaken :
    let registry : Registry := .ofLists [⟨"lamps", "Lamps", .ofIds ["power"]⟩]
      [⟨"lamp", "lamps", "Lamp", none⟩, ⟨"spot", "lamps", "Spot", none⟩]
    let deployment := (Deployment.new registry 64 .usual).run
      [.get "lamp", .grant 0, .resolve 0, .write (.save [.forProduct "lamps" "power" "switch"]),
        .listen, .finish 0, .get "lamp", .grant 1, .resolve 1, .finish 1]
    let mapped : String → List Detail := fun device =>
      [⟨"lamps", some device, .property, "power", none, some "switch", none, true⟩]
    deployment.isQuiet = true ∧
      deployment.cache.slots.get? "lamp" = some (.ready ⟨mapped "lamp", 1, 0, 0⟩) ∧
        Resolution.resolve registry deployment.store "lamp" = .ok (mapped "lamp") ∧
          ((deployment.step (.get "spot")).run
            [.grant 2, .resolve 2, .finish 2, .take 2]).cache.calls[2]? =
              some (.answered 2 (.ok (mapped "spot"))) ∧
            Resolution.resolve registry deployment.store "spot" = .ok (mapped "spot") :=
  have agrees := agrees_when_quiet
    (.ofLists [⟨"lamps", "Lamps", .ofIds ["power"]⟩]
      [⟨"lamp", "lamps", "Lamp", none⟩, ⟨"spot", "lamps", "Spot", none⟩]) 64 .usual
    [.get "lamp", .grant 0, .resolve 0, .write (.save [.forProduct "lamps" "power" "switch"]),
      .listen, .finish 0, .get "lamp", .grant 1, .resolve 1, .finish 1] rfl
  ⟨rfl, rfl, agrees.1 "lamp" ⟨_, 1, 0, 0⟩ rfl, rfl,
    agrees.2 "spot" [.grant 2, .resolve 2, .finish 2, .take 2] (by decide) _ 2 _ rfl rfl⟩

end DeviceMapping.Deployment
