/-
**The course of a write.**

A write takes several steps, and others can look at the rules and receive signals in between. In
memory every rule is stored or removed on its own, and at once for everyone. A database executes its
statements in a transaction, which shows nothing before its commit; any step may fail, and then the
transaction is dropped. The signal is published after the last change.
-/

import DeviceMapping.Store.Memory
import DeviceMapping.Store.Rows

namespace DeviceMapping

/-- What there is for everyone to see at one moment. -/
structure Moment (σ : Type) where
  store : σ
  feed : Feed

namespace Moment

variable {σ : Type}

/-- What a subscriber that had received everything before has to receive at a later moment. -/
def news (before later : Moment σ) : List Received :=
  (later.feed.drain before.feed.subscribe).1

end Moment

/-- The moments after the steps of a write, and the number of rules that it returns. -/
structure Course (σ : Type) where
  moments : List (Moment σ)
  outcome : Except StoreError Nat

namespace Course

variable {σ : Type}

/-- The last of several stores, or the one before them. -/
def lastOf (store : σ) (stores : List σ) : σ :=
  stores.getLastD store

/-- The moment after the last step. -/
def last (course : Course σ) (before : Moment σ) : Moment σ :=
  lastOf before course.moments

/-- The steps of a write from one store to the next; then the signal is published if the write
returns and concerned any rule. -/
def announcing (before : Moment σ) (stores : List σ) (outcome : Except StoreError Nat)
    (change : RuleChange) : Course σ where
  moments := stores.map (⟨·, before.feed⟩) ++
    match outcome with
    | .ok count =>
      if 0 < count then [⟨lastOf before.store stores, before.feed.publish change⟩] else []
    | .error _ => []
  outcome := outcome

end Course

/-! ### In memory -/

namespace MemoryStore

/-- The stores after each of the rules saved. -/
def saving (store : MemoryStore) : List Rule → List MemoryStore
  | [] => []
  | rule :: rest => store.insert rule :: (store.insert rule).saving rest

/-- The store without the rule of a key. -/
def remove (store : MemoryStore) (id : String) : MemoryStore :=
  ⟨store.rules.erase id⟩

/-- The stores after each of the keys removed. -/
def removing (store : MemoryStore) : List String → List MemoryStore
  | [] => []
  | id :: rest => store.remove id :: (store.remove id).removing rest

/-- The number of keys that have a rule when it is their turn to be removed. -/
def removedCount (store : MemoryStore) : List String → Nat
  | [] => 0
  | id :: rest => (if store.rules.contains id then 1 else 0) + (store.remove id).removedCount rest

/-- The keys of the rules of one scope. -/
def scopeKeys (store : MemoryStore) (productId : String) (deviceId : Option String) :
    List String :=
  (store.rules.filter fun _ rule => belongsTo productId deviceId rule).keys

def course (before : Moment MemoryStore) : RuleWrite → Course MemoryStore
  | .save rules =>
    .announcing before (before.store.saving rules) (.ok rules.length)
      (if before.store.anyNew rules then .created else .modified)
  | .deleteByIds ids =>
    .announcing before (before.store.removing ids) (.ok (before.store.removedCount ids)) .deleted
  | .deleteByScope productId deviceId =>
    let stores := before.store.removing (before.store.scopeKeys productId deviceId)
    let rest := Course.lastOf before.store stores
    .announcing before stores (.ok (before.store.rules.size - rest.rules.size)) .deleted

end MemoryStore

/-! ### In a database -/

/-- A statement that writes to the table of rules. -/
inductive RuleStatement where
  | upsert (rule : Rule)
  | deleteId (id : String)
  | deleteScope (productId : String) (deviceId : Option String)

namespace RuleStatement

/-- The rows after a statement, and the number of rows it affected. -/
def execute (rows : RowStore) : RuleStatement → RowStore × Nat
  | upsert rule => (rows.insert rule, 1)
  | deleteId id =>
    let rest : RowStore := { rows with rows := rows.rows.erase id }
    (rest, rows.size - rest.size)
  | deleteScope productId deviceId =>
    let rest := (rows.deleteByScope productId deviceId).1
    (rest, rows.size - rest.size)

end RuleStatement

/-- How a database behaves in a call: which of its steps fail, and what is stored once a transaction
is dropped before its commit, depending on what was stored and what the transaction had written. -/
structure Conduct where
  fault? : Nat → Option StoreError
  afterDrop : RowStore → RowStore → RowStore

namespace Conduct

/-- A transaction that is dropped before its commit is rolled back. -/
def RollsBack (conduct : Conduct) : Prop :=
  ∀ stored pending, conduct.afterDrop stored pending = stored

variable (conduct : Conduct) (stored : RowStore)

/-- The remaining statements of a transaction and its commit, from the step of a number on: the rows
that everyone sees after each step, and the number of rows affected. -/
def execute (pending : RowStore) (affected step : Nat) :
    List RuleStatement → List RowStore × Except StoreError Nat
  | [] =>
    match conduct.fault? step with
    | some fault => ([conduct.afterDrop stored pending], .error fault)
    | none => ([pending], .ok affected)
  | statement :: rest =>
    match conduct.fault? step with
    | some fault => ([conduct.afterDrop stored pending], .error fault)
    | none =>
      let (next, count) := statement.execute pending
      let later := execute next (affected + count) (step + 1) rest
      (stored :: later.1, later.2)

/-- A transaction from its begin on, which is the first step. -/
def transact (statements : List RuleStatement) : List RowStore × Except StoreError Nat :=
  match conduct.fault? 0 with
  | some fault => ([], .error fault)
  | none =>
    let later := conduct.execute stored stored 0 1 statements
    (stored :: later.1, later.2)

/-- A statement without a transaction around it, in a single step. -/
def executeAlone (statement : RuleStatement) : List RowStore × Except StoreError Nat :=
  match conduct.fault? 0 with
  | some fault => ([], .error fault)
  | none =>
    let (next, count) := statement.execute stored
    ([next], .ok count)

end Conduct

namespace RowStore

/-- Nothing is asked of the database where there is nothing to save or to remove. -/
def course (conduct : Conduct) (before : Moment RowStore) : RuleWrite → Course RowStore
  | .save [] => ⟨[], .ok 0⟩
  | .save rules =>
    let (stores, outcome) := conduct.transact before.store (rules.map .upsert)
    .announcing before stores (outcome.map fun _ => rules.length) .saved
  | .deleteByIds [] => ⟨[], .ok 0⟩
  | .deleteByIds ids =>
    let (stores, outcome) := conduct.transact before.store (ids.map .deleteId)
    .announcing before stores outcome .deleted
  | .deleteByScope productId deviceId =>
    let (stores, outcome) := conduct.executeAlone before.store (.deleteScope productId deviceId)
    .announcing before stores outcome .deleted

end RowStore

end DeviceMapping
