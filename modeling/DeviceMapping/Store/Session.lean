/-
**Sessions with a rule store.**

What the service and the resolver ask of a rule store, call by call, and what can be noticed of each
answer: the rules of a query, or the number of rules that a write concerned and whether it published
a signal.
-/

import DeviceMapping.Store.Basic

namespace DeviceMapping

/-- A call of a rule store. -/
inductive StoreCall where
  | save (rules : List Rule)
  | deleteByIds (ids : List String)
  | query (productId : String) (deviceId : Option String)

/-- What can be noticed of a call, apart from the kind of a signal. -/
inductive StoreAnswer where
  | written (count : Nat) (signals : Bool)
  | rules (result : Except StoreError (List Rule))

namespace StoreAnswer

def ofWritten (written : Written) : StoreAnswer :=
  .written written.count written.signal.isSome

end StoreAnswer

namespace StoreCall

variable {σ : Type} [RuleStore σ]

/-- The store after a call, and the answer. -/
def answer (store : σ) : StoreCall → σ × StoreAnswer
  | save rules =>
    let saving := RuleStore.save store rules
    (saving.1, .ofWritten saving.2)
  | deleteByIds ids =>
    let deleting := RuleStore.deleteByIds store ids
    (deleting.1, .ofWritten deleting.2)
  | query productId deviceId => (store, .rules (RuleStore.query store productId deviceId))

/-- The answers to several calls, one after the other. -/
def answers (store : σ) : List StoreCall → List StoreAnswer
  | [] => []
  | call :: rest =>
    let answered := call.answer store
    answered.2 :: answers answered.1 rest

end StoreCall

end DeviceMapping
