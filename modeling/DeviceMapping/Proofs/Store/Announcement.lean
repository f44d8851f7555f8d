/-
**Writes announce their changes.**

* `drain_publish`: a subscriber that had received everything receives exactly the signal published.
* `Announced`: what the course of a write must be like. `announced_announcing`: it is so where the
  steps come to what the write does (`Steps`).
* `removedCount_add_size`, `eraseAll_scopeKeys`: in memory the rules are removed one by one, and what
  is counted on the way is by how much the store becomes smaller; so every course in memory is
  announced (`MemoryStore.announced_course`) and ends with what the write does in one step
  (`MemoryStore.last_course`).
-/

import DeviceMapping.Proofs.Store.Signals
import DeviceMapping.Store.Course
import DeviceMapping.Table.Count

namespace DeviceMapping

/-! ### What subscribers receive -/

namespace Feed

theorem capacity_pos_new (capacity : Nat) : 0 < (new capacity).capacity :=
  Nat.pow_pos (by decide)

theorem kept_publishAll {feed : Feed} (kept : feed.Kept) (changes : List RuleChange) :
    (feed.publishAll changes).Kept := by
  induction changes generalizing feed with
  | nil => exact kept
  | cons change rest ih => exact ih (kept_publish kept change)

theorem capacity_publishAll (feed : Feed) (changes : List RuleChange) :
    (feed.publishAll changes).capacity = feed.capacity := by
  induction changes generalizing feed with
  | nil => rfl
  | cons change rest ih => exact ih (feed.publish change)

/-- Who has received everything receives nothing. -/
theorem drain_subscribe {feed : Feed} (kept : feed.Kept) :
    feed.drain feed.subscribe = ([], feed.subscribe) := by
  have nothing : feed.receive feed.subscribe = none :=
    (receive_eq_none_iff kept feed.subscribe).mpr (Nat.le_refl feed.sent)
  rw [drain, receiveUpTo, nothing]

theorem length_kept_publish (feed : Feed) (change : RuleChange) :
    (feed.publish change).kept.length = min (feed.kept.length + 1) feed.capacity := by
  show ((feed.kept ++ [change]).drop ((feed.kept ++ [change]).length - feed.capacity)).length = _
  rw [List.length_drop, List.length_append, List.length_singleton]
  omega

theorem receive_publish {feed : Feed} (kept : feed.Kept) (room : 0 < feed.capacity)
    (change : RuleChange) :
    (feed.publish change).receive feed.subscribe =
      some (.change change, (feed.publish change).subscribe) := by
  have length := length_kept_publish feed change
  have forgotten : (feed.publish change).forgotten =
      feed.sent + 1 - min (feed.kept.length + 1) feed.capacity := by
    rw [← length]
    rfl
  have newest : (feed.publish change).kept[feed.sent - (feed.publish change).forgotten]? =
      some change := by
    show ((feed.kept ++ [change]).drop ((feed.kept ++ [change]).length - feed.capacity))[_]? = _
    have place : (feed.kept ++ [change]).length - feed.capacity +
        (feed.sent - (feed.publish change).forgotten) = feed.kept.length := by
      unfold Kept at kept
      rw [forgotten, List.length_append, List.length_singleton]
      omega
    rw [List.getElem?_drop, place]
    exact List.getElem?_concat_length
  unfold receive
  rw [if_neg ?_]
  · show ((feed.publish change).kept[feed.sent - (feed.publish change).forgotten]?).map _ = _
    rw [newest]
    rfl
  · show ¬ feed.sent < (feed.publish change).forgotten
    rw [forgotten]
    omega

/-- Who had received everything before a signal receives just this signal. -/
theorem drain_publish {feed : Feed} (kept : feed.Kept) (room : 0 < feed.capacity)
    (change : RuleChange) :
    (feed.publish change).drain feed.subscribe =
      ([.change change], (feed.publish change).subscribe) := by
  obtain ⟨others, length⟩ : ∃ others, (feed.publish change).kept.length = others + 1 := by
    rw [length_kept_publish]
    exact Nat.exists_eq_add_one.mpr (by omega)
  have nothing := (receive_eq_none_iff (kept_publish kept change)
    (feed.publish change).subscribe).mpr (Nat.le_refl _)
  rw [drain, length, receiveUpTo, receive_publish kept room change]
  simp only [receiveUpTo, nothing]

end Feed

/-! ### Announced courses -/

/-- What holds of the course of a write, whichever way it takes. -/
structure Announced {σ : Type} [RuleStore σ] (before : Moment σ) (write : RuleWrite)
    (course : Course σ) : Prop where
  /-- A write that returns is complete, and returns the number of rules it concerned. -/
  complete : ∀ count, course.outcome = .ok count →
    (course.last before).store = (write.applyTo before.store).1 ∧
      count = (write.applyTo before.store).2.count
  /-- A write that concerned any rule publishes one signal. -/
  signals : ∀ count, course.outcome = .ok count → 0 < count →
    ∃ change, (write.applyTo before.store).2.signal = some change ∧
      before.news (course.last before) = [.change change]
  /-- A write that concerned no rule publishes none. -/
  silent : course.outcome = .ok 0 → before.news (course.last before) = []
  /-- When there is a signal to receive, the write is complete. -/
  seen : ∀ moment ∈ course.moments, before.news moment ≠ [] →
    moment.store = (write.applyTo before.store).1
  /-- Wherever the rules differ from those before, a signal follows. -/
  changed : ∀ moment ∈ course.moments, moment.store ≠ before.store →
    ∃ change, before.news (course.last before) = [.change change]
  /-- A write that fails changes nothing and publishes nothing. -/
  failed : ∀ fault, course.outcome = .error fault → ∀ moment ∈ course.moments, moment = before

/-- What the steps of a write come to: those of a write that returns lead to what the write does, and
where no rule is concerned, or the write fails, nothing changes. -/
structure Steps {σ : Type} [RuleStore σ] (store : σ) (write : RuleWrite) (stores : List σ)
    (outcome : Except StoreError Nat) (change : RuleChange) : Prop where
  last : ∀ count, outcome = .ok count → Course.lastOf store stores = (write.applyTo store).1
  written : ∀ count, outcome = .ok count → (write.applyTo store).2 = .signalling count change
  unchanged : outcome = .ok 0 → ∀ other ∈ stores, other = store
  failed : ∀ fault, outcome = .error fault → ∀ other ∈ stores, other = store

namespace Course

variable {σ : Type}

@[simp] theorem lastOf_concat (store last : σ) (stores : List σ) :
    lastOf store (stores ++ [last]) = last :=
  List.getLastD_concat

@[simp] theorem lastOf_cons (store head : σ) (rest : List σ) :
    lastOf store (head :: rest) = lastOf head rest :=
  List.getLastD_cons

theorem lastOf_map {τ : Type} (f : σ → τ) (store : σ) (stores : List σ) :
    lastOf (f store) (stores.map f) = f (lastOf store stores) := by
  induction stores generalizing store with
  | nil => rfl
  | cons head rest ih => rw [List.map_cons, lastOf_cons, lastOf_cons, ih]

theorem lastOf_eq_of_unchanged {store : σ} {stores : List σ}
    (unchanged : ∀ other ∈ stores, other = store) : lastOf store stores = store := by
  rcases List.mem_cons.mp List.getLastD_mem_cons with same | member
  · exact same
  · exact unchanged _ member

end Course

theorem Moment.news_of_feed {σ : Type} {before later : Moment σ} (kept : before.feed.Kept)
    (same : later.feed = before.feed) : before.news later = [] := by
  rw [news, same, Feed.drain_subscribe kept]

theorem Moment.news_publish {σ : Type} {before : Moment σ} (kept : before.feed.Kept)
    (room : 0 < before.feed.capacity) (change : RuleChange) (store : σ) :
    before.news ⟨store, before.feed.publish change⟩ = [.change change] := by
  rw [news, Feed.drain_publish kept room]

section Announcing

variable {σ : Type} [RuleStore σ] {before : Moment σ} {write : RuleWrite}

/-- A course in which nothing changes is announced if nothing was to be done or the write fails. -/
theorem announced_of_unchanged (kept : before.feed.Kept) {course : Course σ} (change : RuleChange)
    (unchanged : ∀ moment ∈ course.moments, moment = before)
    (idle : ∀ count, course.outcome = .ok count →
      count = 0 ∧ write.applyTo before.store = (before.store, .signalling 0 change)) :
    Announced before write course := by
  have last : course.last before = before := Course.lastOf_eq_of_unchanged unchanged
  have quiet : before.news before = [] := Moment.news_of_feed kept rfl
  constructor
  case complete =>
    intro count returned
    obtain ⟨rfl, idle⟩ := idle count returned
    rw [last, idle]
    exact ⟨rfl, rfl⟩
  case signals =>
    intro count returned positive
    rw [(idle count returned).1] at positive
    exact absurd positive (Nat.lt_irrefl 0)
  case silent =>
    intro _
    rw [last, quiet]
  case seen =>
    intro moment member news
    rw [unchanged moment member, quiet] at news
    exact absurd rfl news
  case changed =>
    intro moment member different
    exact absurd (congrArg Moment.store (unchanged moment member)) different
  case failed =>
    intro _ _
    exact unchanged

variable {stores : List σ} {outcome : Except StoreError Nat} {change : RuleChange}

/-- Where the steps come to what the write does, its course is announced. -/
theorem announced_announcing (kept : before.feed.Kept) (room : 0 < before.feed.capacity)
    (steps : Steps before.store write stores outcome change) :
    Announced before write (.announcing before stores outcome change) := by
  have still : (∀ other ∈ stores, other = before.store) →
      ∀ moment ∈ stores.map (⟨·, before.feed⟩), moment = before := by
    intro unchanged moment member
    obtain ⟨other, listed, rfl⟩ := List.mem_map.mp member
    rw [unchanged other listed]
  cases outcome with
  | error fault =>
    refine announced_of_unchanged kept change ?_ nofun
    show ∀ moment ∈ stores.map _ ++ [], moment = before
    rw [List.append_nil]
    exact still (steps.failed fault rfl)
  | ok count =>
    have lastStore := steps.last count rfl
    have written := steps.written count rfl
    by_cases positive : 0 < count
    · have moments : (Course.announcing before stores (.ok count) change).moments =
          stores.map (⟨·, before.feed⟩) ++
            [⟨Course.lastOf before.store stores, before.feed.publish change⟩] := by
        simp only [Course.announcing, if_pos positive]
      have last : (Course.announcing before stores (.ok count) change).last before =
          ⟨Course.lastOf before.store stores, before.feed.publish change⟩ := by
        rw [Course.last, moments, Course.lastOf_concat]
      have told := Moment.news_publish kept room change (Course.lastOf before.store stores)
      constructor
      case complete =>
        intro other returned
        cases returned
        rw [last, written]
        exact ⟨lastStore, rfl⟩
      case signals =>
        intro other returned _
        cases returned
        rw [last, written]
        exact ⟨change, if_pos positive, told⟩
      case silent =>
        intro returned
        cases returned
        exact absurd positive (Nat.lt_irrefl 0)
      case seen =>
        intro moment member news
        rw [moments, List.mem_append, List.mem_singleton] at member
        rcases member with earlier | rfl
        · obtain ⟨other, _, rfl⟩ := List.mem_map.mp earlier
          exact absurd (Moment.news_of_feed kept rfl) news
        · exact lastStore
      case changed =>
        intro _ _ _
        rw [last]
        exact ⟨change, told⟩
      case failed => nofun
    · obtain rfl : count = 0 := Nat.eq_zero_of_not_pos positive
      have unchanged := steps.unchanged rfl
      refine announced_of_unchanged kept change ?_ fun count returned => ?_
      · show ∀ moment ∈ stores.map _ ++ [], moment = before
        rw [List.append_nil]
        exact still unchanged
      · cases returned
        rw [Course.lastOf_eq_of_unchanged unchanged] at lastStore
        exact ⟨rfl, Prod.ext lastStore.symm written⟩

/-- A course ends with what the write leaves, and with its signal published. -/
theorem last_announcing {count : Nat}
    (steps : Steps before.store write stores (.ok count) change) :
    (Course.announcing before stores (.ok count) change).last before =
      ⟨(write.applyTo before.store).1,
        before.feed.publishAll (write.applyTo before.store).2.signal.toList⟩ := by
  rw [steps.written count rfl, ← steps.last count rfl, Course.last, Course.announcing,
    Written.signalling]
  by_cases positive : 0 < count
  · simp only [if_pos positive, Course.lastOf_concat]
    rfl
  · simp only [if_neg positive, List.append_nil]
    exact Course.lastOf_map (Moment.mk · before.feed) before.store stores

end Announcing

/-! ### In memory -/

namespace MemoryStore

theorem lastOf_saving (store : MemoryStore) (rules : List Rule) :
    Course.lastOf store (store.saving rules) = rules.foldl insert store := by
  induction rules generalizing store with
  | nil => rfl
  | cons rule rest ih => rw [saving, Course.lastOf_cons, ih, List.foldl_cons]

theorem lastOf_removing (store : MemoryStore) (ids : List String) :
    Course.lastOf store (store.removing ids) = ⟨ids.foldl Table.erase store.rules⟩ := by
  induction ids generalizing store with
  | nil => rfl
  | cons id rest ih =>
    rw [removing, Course.lastOf_cons, ih, List.foldl_cons]
    rfl

theorem remove_of_absent {store : MemoryStore} {id : String}
    (absent : store.rules.contains id = false) : store.remove id = store :=
  congrArg mk (Table.erase_of_absent absent)

/-- The keys removed are as many as the store becomes smaller. -/
theorem removedCount_add_size (store : MemoryStore) (ids : List String) :
    store.removedCount ids + (ids.foldl Table.erase store.rules).size = store.rules.size := by
  induction ids generalizing store with
  | nil => exact Nat.zero_add _
  | cons id rest ih =>
    have later := ih (store.remove id)
    rw [removedCount, List.foldl_cons]
    by_cases there : store.rules.contains id = true
    · have smaller : (store.remove id).rules.size + 1 = store.rules.size :=
        Table.size_erase_of_contains there
      have same : (store.remove id).rules = store.rules.erase id := rfl
      rw [if_pos there, ← smaller, ← later, same]
      omega
    · have same := remove_of_absent (Bool.eq_false_iff.mpr there)
      rw [same] at later
      rw [if_neg there, same, Table.erase_of_absent (Bool.eq_false_iff.mpr there)]
      omega

/-- Where no key had a rule nothing changed. -/
theorem removing_of_none {store : MemoryStore} {ids : List String}
    (none : store.removedCount ids = 0) : ∀ other ∈ store.removing ids, other = store := by
  induction ids with
  | nil => nofun
  | cons id rest ih =>
    rw [removedCount, Nat.add_eq_zero_iff] at none
    have absent : store.rules.contains id = false := by
      by_contra there
      rw [if_pos (Bool.eq_true_of_not_eq_false there)] at none
      exact absurd none.1 Nat.one_ne_zero
    rw [remove_of_absent absent] at none
    rw [removing, remove_of_absent absent]
    exact List.forall_mem_cons.mpr ⟨rfl, ih none.2⟩

/-- Removing the keys of a scope leaves the rules of all others. -/
theorem eraseAll_scopeKeys (store : MemoryStore) (productId : String) (deviceId : Option String) :
    (store.scopeKeys productId deviceId).foldl Table.erase store.rules =
      store.rules.filter fun _ rule => !belongsTo productId deviceId rule := by
  refine Table.ext_get? fun key => ?_
  rw [Table.get?_eraseAll, Table.get?_filter]
  have listed : key ∈ store.scopeKeys productId deviceId ↔
      ((store.rules.get? key).filter (belongsTo productId deviceId)).isSome = true := by
    rw [scopeKeys, ← Table.contains_iff_mem_keys, Table.contains, Table.get?_filter]
  rw [if_congr listed rfl rfl]
  cases store.rules.get? key with
  | none => rfl
  | some rule => cases belongs : belongsTo productId deviceId rule <;> simp [Option.filter, belongs]

theorem steps_save (store : MemoryStore) (rules : List Rule) :
    Steps store (.save rules) (store.saving rules) (.ok rules.length)
      (if store.anyNew rules then .created else .modified) where
  last _ _ := store.lastOf_saving rules
  written _ returned := by
    cases returned
    rfl
  unchanged none := by
    have empty : rules = [] := List.length_eq_zero_iff.mp (Except.ok.inj none)
    subst empty
    nofun
  failed := nofun

theorem steps_deleteByIds (store : MemoryStore) (ids : List String) :
    Steps store (.deleteByIds ids) (store.removing ids) (.ok (store.removedCount ids)) .deleted where
  last _ _ := store.lastOf_removing ids
  written _ returned := by
    cases returned
    have removed : store.rules.size - (ids.foldl Table.erase store.rules).size =
        store.removedCount ids := by
      rw [← store.removedCount_add_size ids]
      exact Nat.add_sub_cancel _ _
    exact congrArg (Written.signalling · .deleted) removed
  unchanged none := removing_of_none (Except.ok.inj none)
  failed := nofun

theorem steps_deleteByScope (store : MemoryStore) (productId : String)
    (deviceId : Option String) :
    let stores := store.removing (store.scopeKeys productId deviceId)
    Steps store (.deleteByScope productId deviceId) stores
      (.ok (store.rules.size - (Course.lastOf store stores).rules.size)) .deleted := by
  intro stores
  have last : Course.lastOf store stores = (store.deleteByScope productId deviceId).1 := by
    rw [lastOf_removing, eraseAll_scopeKeys]
    rfl
  have count := store.removedCount_add_size (store.scopeKeys productId deviceId)
  have size : (Course.lastOf store stores).rules.size =
      ((store.scopeKeys productId deviceId).foldl Table.erase store.rules).size := by
    rw [lastOf_removing]
  rw [← size] at count
  refine ⟨fun _ _ => last, fun other returned => ?_, fun none => ?_, nofun⟩
  · cases returned
    rw [last]
    rfl
  · have none := Except.ok.inj none
    exact removing_of_none (by omega)

theorem announced_course {before : Moment MemoryStore} (kept : before.feed.Kept)
    (room : 0 < before.feed.capacity) (write : RuleWrite) :
    Announced before write (course before write) := by
  cases write with
  | save rules => exact announced_announcing kept room (steps_save before.store rules)
  | deleteByIds ids => exact announced_announcing kept room (steps_deleteByIds before.store ids)
  | deleteByScope productId deviceId =>
    exact announced_announcing kept room (steps_deleteByScope before.store productId deviceId)

/-- A write in memory always returns. -/
theorem course_returns (before : Moment MemoryStore) (write : RuleWrite) :
    ∃ count, (course before write).outcome = .ok count := by
  cases write with
  | save rules => exact ⟨_, rfl⟩
  | deleteByIds ids => exact ⟨_, rfl⟩
  | deleteByScope productId deviceId => exact ⟨_, rfl⟩

/-- Taken as one step, a write in memory does what its course ends with. -/
theorem last_course (before : Moment MemoryStore) (write : RuleWrite) :
    (course before write).last before =
      ⟨(write.applyTo before.store).1,
        before.feed.publishAll (write.applyTo before.store).2.signal.toList⟩ := by
  cases write with
  | save rules => exact last_announcing (steps_save before.store rules)
  | deleteByIds ids => exact last_announcing (steps_deleteByIds before.store ids)
  | deleteByScope productId deviceId =>
    exact last_announcing (steps_deleteByScope before.store productId deviceId)

end MemoryStore

end DeviceMapping
