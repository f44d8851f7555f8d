/-
**The rule store in memory.**

Rules are kept in a table by their key. Saving a rule fills in its key and replaces the rule that is
there; a query lists the rules in scope by key.
-/

import DeviceMapping.Store.Basic

namespace DeviceMapping

/-- Rules by key. -/
structure MemoryStore where
  rules : Table Rule

namespace MemoryStore

def empty : MemoryStore := ⟨.empty⟩

/-- The rule is in force for a product, or for a device of it. -/
def inScope (productId : String) (deviceId : Option String) (rule : Rule) : Bool :=
  rule.productId == productId &&
    (!rule.isDeviceScoped || (deviceId.isSome && rule.deviceId == deviceId))

def query (store : MemoryStore) (productId : String) (deviceId : Option String) : List Rule :=
  store.rules.values.filter (inScope productId deviceId)

/-- The store with one more rule under its key. -/
def insert (store : MemoryStore) (rule : Rule) : MemoryStore :=
  ⟨store.rules.insert rule.key rule.keyed⟩

/-- The rules that are new among those to be saved one after the other. -/
def anyNew (store : MemoryStore) : List Rule → Bool
  | [] => false
  | rule :: rest => !store.rules.contains rule.key || anyNew (store.insert rule) rest

/-- Saves rules in order; the signal tells whether any key is new. -/
def save (store : MemoryStore) (rules : List Rule) : MemoryStore × Written :=
  (rules.foldl insert store,
    .signalling rules.length (if store.anyNew rules then .created else .modified))

/-- Removes the rules of keys; the count is that of the rules removed. -/
def deleteByIds (store : MemoryStore) (ids : List String) : MemoryStore × Written :=
  let rest := ids.foldl Table.erase store.rules
  (⟨rest⟩, .signalling (store.rules.size - rest.size) .deleted)

/-- The rule belongs to a product, or to a device of it, itself. -/
def belongsTo (productId : String) (deviceId : Option String) (rule : Rule) : Bool :=
  rule.productId == productId &&
    match deviceId with
    | some device => rule.deviceId == some device
    | none => !rule.isDeviceScoped

/-- Removes the rules of one scope. -/
def deleteByScope (store : MemoryStore) (productId : String) (deviceId : Option String) :
    MemoryStore × Written :=
  let rest := store.rules.filter fun _ rule => !belongsTo productId deviceId rule
  (⟨rest⟩, .signalling (store.rules.size - rest.size) .deleted)

instance : RuleStore MemoryStore where
  answersAtOnce := true
  query store productId deviceId := .ok (store.query productId deviceId)
  save := save
  deleteByIds := deleteByIds
  deleteByScope := deleteByScope

end MemoryStore

end DeviceMapping
