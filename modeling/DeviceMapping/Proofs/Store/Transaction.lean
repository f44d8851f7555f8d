/-
**No rule change is silent.**

* `executeAll`: what the statements of a transaction come to; for the statements of a write this is
  what the write does (`executeAll_upsert`, `executeAll_deleteId`).
* `execute_of_ok`, `execute_of_error`: a transaction shows nothing before its commit, and if a step
  fails it shows nothing at all, by induction on the statements that are left.
* `every_change_announced`: so every write is announced, in memory and in a database.
-/

import DeviceMapping.Proofs.Store.Announcement

namespace DeviceMapping

/-! ### In a database -/

namespace RuleStatement

/-- The rows after several statements, and the number of rows they affected. -/
def executeAll (rows : RowStore) : List RuleStatement → RowStore × Nat
  | [] => (rows, 0)
  | statement :: rest =>
    let (next, count) := statement.execute rows
    let later := executeAll next rest
    (later.1, count + later.2)

theorem executeAll_upsert (rows : RowStore) (rules : List Rule) :
    (executeAll rows (rules.map .upsert)).1 = rules.foldl RowStore.insert rows := by
  induction rules generalizing rows with
  | nil => rfl
  | cons rule rest ih => exact ih (rows.insert rule)

/-- The rows that several ids are removed from, and how many go. -/
theorem executeAll_deleteId (rows : RowStore) (ids : List String) :
    executeAll rows (ids.map .deleteId) =
      ((rows.deleteByIds ids).1, rows.size - (rows.deleteByIds ids).1.size) := by
  induction ids generalizing rows with
  | nil => exact congrArg (Prod.mk rows) (Nat.sub_self rows.size).symm
  | cons id rest ih =>
    let next : RowStore := { rows with rows := rows.rows.erase id }
    have first : next.size ≤ rows.size :=
      Nat.add_le_add_left (List.length_filter_le _ _) _
    have later : (next.deleteByIds rest).1.size ≤ next.size :=
      Nat.add_le_add_left (Table.entries_eraseAll_sublist next.rows rest).length_le _
    have all : (rows.deleteByIds (id :: rest)).1 = (next.deleteByIds rest).1 := rfl
    have step : executeAll rows ((id :: rest).map .deleteId) =
        ((executeAll next (rest.map .deleteId)).1,
          rows.size - next.size + (executeAll next (rest.map .deleteId)).2) := rfl
    rw [step, ih next, all]
    refine Prod.ext rfl ?_
    show rows.size - next.size + (next.size - (next.deleteByIds rest).1.size) =
      rows.size - (next.deleteByIds rest).1.size
    omega

end RuleStatement

/-- A write to a database that publishes no signal changes nothing. -/
theorem RowStore.applyTo_of_silent (store : RowStore) (write : RuleWrite)
    (silent : (write.applyTo store).2.signal = none) : (write.applyTo store).1 = store := by
  cases write with
  | save rules =>
    have empty : rules = [] :=
      List.length_eq_zero_iff.mp (Written.count_eq_zero_of_silent silent)
    subst empty
    rfl
  | deleteByIds ids =>
    have asLarge := Nat.sub_eq_zero_iff_le.mp (Written.count_eq_zero_of_silent silent)
    have same := Table.eq_of_sublist_of_size_le (Table.entries_eraseAll_sublist store.rows ids)
      (Nat.le_of_add_le_add_left asLarge)
    exact congrArg (fun rows => { store with rows := rows }) same
  | deleteByScope productId deviceId =>
    have asLarge := Nat.sub_eq_zero_iff_le.mp (Written.count_eq_zero_of_silent silent)
    let keep : RuleRow → Bool := fun row => !row.belongsTo productId deviceId
    have fewerUnnamed : (store.unnamed.filter keep).length ≤ store.unnamed.length :=
      List.length_filter_le _ _
    have fewerRows : (store.rows.filter fun _ row => keep row).size ≤ store.rows.size :=
      List.length_filter_le _ _
    have sizes : store.unnamed.length + store.rows.size ≤
        (store.unnamed.filter keep).length + (store.rows.filter fun _ row => keep row).size :=
      asLarge
    have unnamed : store.unnamed.filter keep = store.unnamed :=
      List.filter_sublist.eq_of_length_le (by omega)
    have rows : (store.rows.filter fun _ row => keep row) = store.rows :=
      Table.eq_of_sublist_of_size_le List.filter_sublist (by omega)
    exact congrArg₂ RowStore.mk unnamed rows

namespace Conduct

variable {conduct : Conduct} {stored pending : RowStore}

/-! #### The steps of a transaction -/

section Execute

variable {affected step : Nat}

theorem execute_of_fault {fault : StoreError} (fails : conduct.fault? step = some fault)
    (statements : List RuleStatement) :
    conduct.execute stored pending affected step statements =
      ([conduct.afterDrop stored pending], .error fault) := by
  cases statements with
  | nil => rw [execute, fails]
  | cons statement rest => rw [execute, fails]

theorem execute_nil (passes : conduct.fault? step = none) :
    conduct.execute stored pending affected step [] = ([pending], .ok affected) := by
  rw [execute, passes]

theorem execute_cons (passes : conduct.fault? step = none) (statement : RuleStatement)
    (rest : List RuleStatement) :
    conduct.execute stored pending affected step (statement :: rest) =
      let later := conduct.execute stored (statement.execute pending).1
        (affected + (statement.execute pending).2) (step + 1) rest
      (stored :: later.1, later.2) := by
  rw [execute, passes]

/-- If a step fails, the database shows at no step what the transaction has written. -/
theorem execute_of_error (rollsBack : conduct.RollsBack) {statements : List RuleStatement}
    {fault : StoreError}
    (failed : (conduct.execute stored pending affected step statements).2 = .error fault) :
    ∀ other ∈ (conduct.execute stored pending affected step statements).1, other = stored := by
  induction statements generalizing pending affected step with
  | nil =>
    cases fails : conduct.fault? step with
    | some fault =>
      rw [execute_of_fault fails]
      exact List.forall_mem_singleton.mpr (rollsBack stored pending)
    | none =>
      rw [execute_nil fails] at failed
      cases failed
  | cons statement rest ih =>
    cases fails : conduct.fault? step with
    | some fault =>
      rw [execute_of_fault fails]
      exact List.forall_mem_singleton.mpr (rollsBack stored pending)
    | none =>
      rw [execute_cons fails] at failed ⊢
      exact List.forall_mem_cons.mpr ⟨rfl, ih failed⟩

/-- A transaction that is committed shows what its statements come to with the last step, and
nothing before. -/
theorem execute_of_ok {statements : List RuleStatement} {count : Nat}
    (returned : (conduct.execute stored pending affected step statements).2 = .ok count) :
    count = affected + (RuleStatement.executeAll pending statements).2 ∧
      (conduct.execute stored pending affected step statements).1 =
        List.replicate statements.length stored ++
          [(RuleStatement.executeAll pending statements).1] := by
  induction statements generalizing pending affected step with
  | nil =>
    cases fails : conduct.fault? step with
    | some fault =>
      rw [execute_of_fault fails] at returned
      cases returned
    | none =>
      rw [execute_nil fails] at returned ⊢
      cases returned
      exact ⟨rfl, rfl⟩
  | cons statement rest ih =>
    cases fails : conduct.fault? step with
    | some fault =>
      rw [execute_of_fault fails] at returned
      cases returned
    | none =>
      rw [execute_cons fails] at returned ⊢
      obtain ⟨total, later⟩ := ih returned
      refine ⟨?_, congrArg (stored :: ·) later⟩
      rw [total, RuleStatement.executeAll, Nat.add_assoc]

theorem execute_returns (sound : ∀ step, conduct.fault? step = none)
    (statements : List RuleStatement) :
    ∃ count, (conduct.execute stored pending affected step statements).2 = .ok count := by
  induction statements generalizing pending affected step with
  | nil => exact ⟨affected, congrArg Prod.snd (execute_nil (sound step))⟩
  | cons statement rest ih =>
    rw [execute_cons (sound step)]
    exact ih

end Execute

theorem transact_of_error (rollsBack : conduct.RollsBack) {statements : List RuleStatement}
    {fault : StoreError} (failed : (conduct.transact stored statements).2 = .error fault) :
    ∀ other ∈ (conduct.transact stored statements).1, other = stored := by
  unfold transact at *
  split
  · nofun
  · rename_i begins
    rw [begins] at failed
    exact List.forall_mem_cons.mpr ⟨rfl, execute_of_error rollsBack failed⟩

theorem transact_of_ok {statements : List RuleStatement} {count : Nat}
    (returned : (conduct.transact stored statements).2 = .ok count) :
    count = (RuleStatement.executeAll stored statements).2 ∧
      (conduct.transact stored statements).1 =
        List.replicate (statements.length + 1) stored ++
          [(RuleStatement.executeAll stored statements).1] := by
  unfold transact at *
  split
  · rename_i fails
    rw [fails] at returned
    cases returned
  · rename_i begins
    rw [begins] at returned
    obtain ⟨total, later⟩ := execute_of_ok returned
    exact ⟨total.trans (Nat.zero_add _), congrArg (stored :: ·) later⟩

theorem transact_returns (sound : ∀ step, conduct.fault? step = none) (stored : RowStore)
    (statements : List RuleStatement) :
    ∃ count, (conduct.transact stored statements).2 = .ok count := by
  unfold transact
  rw [sound 0]
  exact execute_returns sound statements

/-- A transaction does what a write does if its statements come to it. -/
theorem steps_transact (rollsBack : conduct.RollsBack) (write : RuleWrite) (change : RuleChange)
    {statements : List RuleStatement} (counted : Nat → Nat)
    (last : (RuleStatement.executeAll stored statements).1 = (write.applyTo stored).1)
    (written : (write.applyTo stored).2 =
      .signalling (counted (RuleStatement.executeAll stored statements).2) change) :
    Steps stored write (conduct.transact stored statements).1
      ((conduct.transact stored statements).2.map counted) change := by
  cases outcome : (conduct.transact stored statements).2 with
  | error fault =>
    exact ⟨nofun, nofun, nofun, fun _ _ => transact_of_error rollsBack outcome⟩
  | ok count =>
    obtain ⟨total, stores⟩ := transact_of_ok outcome
    refine ⟨fun _ _ => ?_, fun other returned => ?_, fun none => ?_, nofun⟩
    · rw [stores, Course.lastOf_concat, last]
    · cases returned
      rw [written, total]
    · have none := Except.ok.inj none
      rw [← total, none] at written
      have same : (write.applyTo stored).1 = stored :=
        RowStore.applyTo_of_silent stored write (by rw [written]; rfl)
      intro other member
      rw [stores, List.mem_append, List.mem_singleton] at member
      rcases member with before | rfl
      · exact List.eq_of_mem_replicate before
      · exact last.trans same

end Conduct

namespace RowStore

variable {conduct : Conduct} {before : Moment RowStore}

theorem announced_idle (kept : before.feed.Kept) {write : RuleWrite} (change : RuleChange)
    (idle : write.applyTo before.store = (before.store, .signalling 0 change)) :
    Announced before write ⟨[], .ok 0⟩ := by
  refine announced_of_unchanged kept change nofun fun count returned => ?_
  cases returned
  exact ⟨rfl, idle⟩

theorem steps_deleteByIds (rollsBack : conduct.RollsBack) (store : RowStore) (ids : List String) :
    Steps store (.deleteByIds ids) (conduct.transact store (ids.map .deleteId)).1
      (conduct.transact store (ids.map .deleteId)).2 .deleted := by
  have effect := RuleStatement.executeAll_deleteId store ids
  have steps := Conduct.steps_transact rollsBack (.deleteByIds ids) .deleted id
    (congrArg Prod.fst effect) (by rw [effect]; rfl)
  have same : (conduct.transact store (ids.map .deleteId)).2.map id =
      (conduct.transact store (ids.map .deleteId)).2 := by
    cases (conduct.transact store (ids.map .deleteId)).2 <;> rfl
  rwa [same] at steps

theorem steps_deleteByScope (store : RowStore) (productId : String) (deviceId : Option String) :
    Steps store (.deleteByScope productId deviceId)
      (conduct.executeAlone store (.deleteScope productId deviceId)).1
      (conduct.executeAlone store (.deleteScope productId deviceId)).2 .deleted := by
  unfold Conduct.executeAlone
  split
  · exact ⟨nofun, nofun, nofun, fun _ _ => nofun⟩
  · refine ⟨fun _ _ => rfl, fun count returned => ?_, fun none => ?_, nofun⟩
    · cases returned
      rfl
    · have none := Except.ok.inj none
      refine List.forall_mem_singleton.mpr ?_
      refine applyTo_of_silent store (.deleteByScope productId deviceId) ?_
      exact congrArg (fun count => (Written.signalling count .deleted).signal) none

theorem announced_course (rollsBack : conduct.RollsBack) (kept : before.feed.Kept)
    (room : 0 < before.feed.capacity) (write : RuleWrite) :
    Announced before write (course conduct before write) := by
  cases write with
  | save rules =>
    cases rules with
    | nil => exact announced_idle kept .saved rfl
    | cons rule rest =>
      refine announced_announcing kept room (Conduct.steps_transact rollsBack _ .saved _ ?_ rfl)
      exact RuleStatement.executeAll_upsert before.store (rule :: rest)
  | deleteByIds ids =>
    cases ids with
    | nil =>
      refine announced_idle kept .deleted ?_
      have none : before.store.size - before.store.size = 0 := Nat.sub_self _
      exact Prod.ext rfl (congrArg (Written.signalling · .deleted) none)
    | cons id rest =>
      exact announced_announcing kept room (steps_deleteByIds rollsBack before.store (id :: rest))
  | deleteByScope productId deviceId =>
    exact announced_announcing kept room (steps_deleteByScope before.store productId deviceId)

/-- A write to a database whose steps do not fail returns. -/
theorem course_returns (sound : ∀ step, conduct.fault? step = none) (write : RuleWrite) :
    ∃ count, (course conduct before write).outcome = .ok count := by
  cases write with
  | save rules =>
    cases rules with
    | nil => exact ⟨0, rfl⟩
    | cons rule rest =>
      obtain ⟨count, returned⟩ :=
        Conduct.transact_returns sound before.store ((rule :: rest).map .upsert)
      exact ⟨(rule :: rest).length, congrArg (Except.map fun _ => (rule :: rest).length) returned⟩
  | deleteByIds ids =>
    cases ids with
    | nil => exact ⟨0, rfl⟩
    | cons id rest => exact Conduct.transact_returns sound before.store ((id :: rest).map .deleteId)
  | deleteByScope productId deviceId =>
    have returns : ∃ count,
        (conduct.executeAlone before.store (.deleteScope productId deviceId)).2 = .ok count := by
      unfold Conduct.executeAlone
      rw [sound 0]
      exact ⟨_, rfl⟩
    exact returns

end RowStore

/-- **No rule change is silent.** Take any rules and any feed, and a subscriber that has received
all signals so far. A write that returns has done all that it is to do; if it concerned any rule it
publishes one signal, and otherwise none. When the subscriber has something to receive the write is
complete, so a query sees the new rules; and wherever the rules have changed a signal follows. A
write in memory always returns. A write to a database may fail at any step; then it has changed
nothing and publishes nothing, if a transaction that is dropped before its commit is rolled back. -/
theorem every_change_announced (capacity : Nat) (earlier : List RuleChange) (write : RuleWrite) :
    (∀ store : MemoryStore,
      let before : Moment MemoryStore := ⟨store, (Feed.new capacity).publishAll earlier⟩
      Announced before write (MemoryStore.course before write) ∧
        ∃ count, (MemoryStore.course before write).outcome = .ok count) ∧
    ∀ (store : RowStore) (conduct : Conduct), conduct.RollsBack →
      let before : Moment RowStore := ⟨store, (Feed.new capacity).publishAll earlier⟩
      Announced before write (RowStore.course conduct before write) ∧
        ((∀ step, conduct.fault? step = none) →
          ∃ count, (RowStore.course conduct before write).outcome = .ok count) := by
  have kept : ((Feed.new capacity).publishAll earlier).Kept :=
    Feed.kept_publishAll (Feed.kept_new capacity) earlier
  have room : 0 < ((Feed.new capacity).publishAll earlier).capacity := by
    rw [Feed.capacity_publishAll]
    exact Feed.capacity_pos_new capacity
  constructor
  · intro store before
    exact ⟨MemoryStore.announced_course kept room write, MemoryStore.course_returns before write⟩
  · intro store conduct rollsBack before
    exact ⟨RowStore.announced_course rollsBack kept room write,
      fun sound => RowStore.course_returns sound write⟩

/-- A database that rolls back, one step of which may fail. -/
def failingAt (step? : Option Nat) : Conduct :=
  ⟨fun step => if step? = some step then some .database else none, fun stored _ => stored⟩

/-- The commit of two rules fails, and nothing is seen of them; when they are saved again it
succeeds, and is announced although the feed keeps only one signal. -/
theorem every_change_announced_after_failed_commit :
    let write : RuleWrite :=
      .save [.forProduct "lamps" "level" "dim", .forDevice "lamps" "lamp" "color" "rgb"]
    let before : Moment RowStore := ⟨.empty, (Feed.new 1).publishAll [.deleted, .deleted]⟩
    let failing := RowStore.course (failingAt (some 3)) before write
    let saving := RowStore.course (failingAt none) before write
    failing.outcome = .error .database ∧ failing.moments.length = 4 ∧
      (∀ moment ∈ failing.moments, moment = before) ∧
      saving.outcome = .ok 2 ∧
      ∃ change, before.news (saving.last before) = [.change change] := by
  intro write before failing saving
  have rollsBack : ∀ step?, (failingAt step?).RollsBack := fun _ _ _ => rfl
  obtain ⟨-, database⟩ := every_change_announced 1 [.deleted, .deleted] write
  obtain ⟨failed, -⟩ := database .empty (failingAt (some 3)) (rollsBack _)
  obtain ⟨saved, -⟩ := database .empty (failingAt none) (rollsBack _)
  obtain ⟨change, -, news⟩ := saved.signals 2 rfl (by decide)
  exact ⟨rfl, rfl, failed.failed .database rfl, rfl, change, news⟩

end DeviceMapping
