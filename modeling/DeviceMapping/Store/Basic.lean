/-
**Rule stores.**

A rule store answers queries for the rules in force for a product, or for one of its devices, and
takes writes. Every write tells how many rules it concerned and which signal, if any, it publishes;
a write that changes nothing publishes none.
-/

import DeviceMapping.Rule.Basic
import DeviceMapping.Store.Feed

namespace DeviceMapping

/-- Why a store cannot answer. -/
inductive StoreError where
  | deviceNotFound (id : String)
  | productNotFound (id : String)
  | database
  | unreadableFields
  | invalidRule (fault : RuleFault)

namespace StoreError

def isNotFound : StoreError → Bool
  | deviceNotFound _ | productNotFound _ => true
  | _ => false

/-- The text of an error whose text is this library's own. -/
def message? : StoreError → Option String
  | deviceNotFound id => some ("Device not found: " ++ id)
  | productNotFound id => some ("Product not found: " ++ id)
  | invalidRule fault => some ("Invalid rule: " ++ fault.message)
  | database | unreadableFields => none

end StoreError

/-- What a write did: the number of rules it concerned and the signal it publishes. -/
structure Written where
  count : Nat
  signal : Option RuleChange
  deriving DecidableEq

namespace Written

/-- A write that published a signal if it concerned any rule. -/
def signalling (count : Nat) (change : RuleChange) : Written :=
  ⟨count, if 0 < count then some change else none⟩

end Written

/-- The operations of a rule store. A scope is a product, or a device of it. Some stores answer at
once, others take their time. -/
class RuleStore (σ : Type) where
  answersAtOnce : Bool
  query : σ → String → Option String → Except StoreError (List Rule)
  save : σ → List Rule → σ × Written
  deleteByIds : σ → List String → σ × Written
  deleteByScope : σ → String → Option String → σ × Written

/-- A write to a rule store. -/
inductive RuleWrite where
  | save (rules : List Rule)
  | deleteByIds (ids : List String)
  | deleteByScope (productId : String) (deviceId : Option String)

namespace RuleWrite

variable {σ : Type} [RuleStore σ]

/-- The store after a write, and what the write did. -/
def applyTo (store : σ) : RuleWrite → σ × Written
  | save rules => RuleStore.save store rules
  | deleteByIds ids => RuleStore.deleteByIds store ids
  | deleteByScope productId deviceId => RuleStore.deleteByScope store productId deviceId

/-- The store after several writes, one after the other. -/
def applyAll (store : σ) (writes : List RuleWrite) : σ :=
  writes.foldl (fun store write => (applyTo store write).1) store

end RuleWrite

end DeviceMapping
