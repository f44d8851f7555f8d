/-
**The two rule stores are interchangeable.**

* `RowStore.ofRules`: the rows of rules; saving and removing act on both alike.
* `Mirrors`: the rows of a database are those of the rules of a store in memory, whose other fields
  can be read back.
* `mirrors_answer`: a call keeps this, and both stores answer it alike, but for a device id that is
  empty in memory and absent in the database.
* `stores_interchangeable`: so they answer every session alike.
-/

import DeviceMapping.Json.Reader
import DeviceMapping.Proofs.Results
import DeviceMapping.Proofs.Store.Keyed
import DeviceMapping.Store.Rows
import DeviceMapping.Store.Session

namespace DeviceMapping

/-! ### A rule and its row -/

namespace Rule

/-- The JSON text of the other fields of the rule, if it has any, reads back as these fields. -/
def ReadsBack (rule : Rule) : Prop :=
  ∀ others, rule.others = some others →
    Json.read? (Json.ofTable others).render = some (Json.ofTable others)

theorem readsBack_of_none {rule : Rule} (bare : rule.others = none) : rule.ReadsBack := by
  intro others has
  rw [bare] at has
  cases has

/-- The rule with no device id in place of an empty one. -/
def withoutEmptyDevice (rule : Rule) : Rule :=
  { rule with deviceId := if rule.isDeviceScoped then rule.deviceId else none }

end Rule

namespace RuleRow

theorem readOthers_render {others : Table Json}
    (readsBack : Json.read? (Json.ofTable others).render = some (Json.ofTable others)) :
    readOthers (some (Json.ofTable others).render) = .ok (some others) := by
  have notEmpty : (Json.ofTable others).render ≠ "" := by
    intro empty
    rw [empty] at readsBack
    cases readsBack
  unfold readOthers
  dsimp only
  rw [if_neg notEmpty, readsBack]
  exact congrArg (fun table => Except.ok (some table)) (Table.ofList_entries others)

/-- The row of a rule reads back as the rule. -/
theorem toRule_ofRule {rule : Rule} {key : String} (readsBack : rule.ReadsBack)
    (id : rule.id = some key) : (ofRule rule).toRule (some key) = .ok rule.withoutEmptyDevice := by
  have others : readOthers (ofRule rule).others = .ok rule.others := by
    unfold ofRule
    cases is : rule.others with
    | none => rfl
    | some others => exact readOthers_render (readsBack others is)
  have type : MetadataType.ofName? (ofRule rule).metadataType = some rule.metadataType :=
    rule.metadataType.ofName?_name
  simp only [toRule, type, others, bind, Except.bind, Option.getD_some]
  rw [Rule.withoutEmptyDevice, id]
  rfl

/-- The row of a rule is in scope exactly where the rule is. -/
theorem inScope_ofRule (productId : String) (deviceId : Option String) (rule : Rule) :
    (ofRule rule).inScope productId deviceId = MemoryStore.inScope productId deviceId rule := by
  unfold inScope MemoryStore.inScope ofRule
  cases own : rule.isDeviceScoped with
  | false => simp
  | true =>
    cases device : rule.deviceId with
    | none => simp [Rule.isDeviceScoped, device] at own
    | some id => cases deviceId <;> simp

end RuleRow

/-! ### The rows of rules -/

namespace RowStore

/-- The rows of rules, each under the key of its rule. -/
def ofRules (rules : Table Rule) : RowStore :=
  ⟨[], rules.map fun _ rule => .ofRule rule⟩

theorem size_ofRules (rules : Table Rule) : (ofRules rules).size = rules.size :=
  (Nat.zero_add _).trans (Table.size_map rules _)

theorem insert_ofRules (rules : Table Rule) (rule : Rule) :
    (ofRules rules).insert rule = ofRules (rules.insert rule.key rule.keyed) := by
  rw [ofRules, ofRules, Table.map_insert]
  rfl

theorem insertAll_ofRules (store : MemoryStore) (rules : List Rule) :
    rules.foldl insert (ofRules store.rules) =
      ofRules (rules.foldl MemoryStore.insert store).rules := by
  induction rules generalizing store with
  | nil => rfl
  | cons rule rest ih =>
    rw [List.foldl_cons, List.foldl_cons, insert_ofRules]
    exact ih (store.insert rule)

/-- Removing keys from the rows of rules does what removing them from the rules does. -/
theorem deleteByIds_ofRules (store : MemoryStore) (ids : List String) :
    (ofRules store.rules).deleteByIds ids =
      (ofRules (store.deleteByIds ids).1.rules, (store.deleteByIds ids).2) := by
  have rest : ((ofRules store.rules).deleteByIds ids).1 =
      ofRules (store.deleteByIds ids).1.rules := by
    rw [ofRules, ofRules, MemoryStore.deleteByIds, Table.map_eraseAll]
    rfl
  refine Prod.ext rest ?_
  show Written.signalling ((ofRules store.rules).size -
    ((ofRules store.rules).deleteByIds ids).1.size) .deleted = _
  rw [rest, size_ofRules, size_ofRules]
  rfl

end RowStore

/-! ### A database that mirrors a store in memory -/

/-- The rows of the database are those of the rules in memory, which lie under their keys and can be
read back. -/
structure Mirrors (memory : MemoryStore) (database : RowStore) : Prop where
  unnamed : database.unnamed = []
  rows : database.rows = memory.rules.map fun _ rule => .ofRule rule
  keyed : memory.Keyed
  readsBack : ∀ key rule, memory.rules.get? key = some rule → rule.ReadsBack

theorem mirrors_empty : Mirrors .empty .empty :=
  ⟨rfl, rfl, MemoryStore.keyed_empty, nofun⟩

section Mirrors

variable {memory : MemoryStore} {database : RowStore}

theorem Mirrors.eq_ofRules (mirrors : Mirrors memory database) :
    database = .ofRules memory.rules := by
  rw [RowStore.ofRules, ← mirrors.unnamed, ← mirrors.rows]

theorem mirrors_insert (mirrors : Mirrors memory database) {rule : Rule}
    (readsBack : rule.ReadsBack) : Mirrors (memory.insert rule) (database.insert rule) where
  unnamed := mirrors.unnamed
  rows := by
    rw [mirrors.eq_ofRules, RowStore.insert_ofRules]
    rfl
  keyed := MemoryStore.keyed_insert mirrors.keyed rule
  readsBack := fun key stored found => by
    rw [MemoryStore.get?_insert] at found
    split at found
    · cases found
      exact readsBack
    · exact mirrors.readsBack key stored found

theorem mirrors_insertAll (mirrors : Mirrors memory database) {rules : List Rule}
    (readBack : ∀ rule ∈ rules, rule.ReadsBack) :
    Mirrors (rules.foldl MemoryStore.insert memory) (rules.foldl RowStore.insert database) := by
  induction rules generalizing memory database with
  | nil => exact mirrors
  | cons rule rest ih =>
    exact ih (mirrors_insert mirrors (readBack rule List.mem_cons_self))
      fun other member => readBack other (List.mem_cons_of_mem rule member)

theorem mirrors_deleteByIds (mirrors : Mirrors memory database) (ids : List String) :
    Mirrors (memory.deleteByIds ids).1 (database.deleteByIds ids).1 where
  unnamed := mirrors.unnamed
  rows := by
    rw [mirrors.eq_ofRules, RowStore.deleteByIds_ofRules]
    rfl
  keyed := MemoryStore.keyed_applyTo mirrors.keyed (.deleteByIds ids)
  readsBack := fun key stored found => by
    rw [MemoryStore.get?_deleteByIds] at found
    split at found
    · cases found
    · exact mirrors.readsBack key stored found

/-- The listing of the database is that of the rules in memory by key. -/
theorem Mirrors.listing_eq (mirrors : Mirrors memory database) :
    database.listing =
      memory.rules.entries.map fun entry => (some entry.1, RuleRow.ofRule entry.2) := by
  rw [mirrors.eq_ofRules]
  exact List.map_map

/-- A query of the database gives the rules that one of the store in memory gives. -/
theorem Mirrors.query_eq (mirrors : Mirrors memory database) (productId : String)
    (deviceId : Option String) :
    database.query productId deviceId =
      .ok ((memory.query productId deviceId).map Rule.withoutEmptyDevice) := by
  let kept := memory.rules.entries.filter fun entry =>
    MemoryStore.inScope productId deviceId entry.2
  have inScope : (database.listing.filter fun row => row.2.inScope productId deviceId) =
      kept.map fun entry => (some entry.1, RuleRow.ofRule entry.2) := by
    rw [mirrors.listing_eq, List.filter_map]
    congr 1
    exact List.filter_congr fun entry _ => RuleRow.inScope_ofRule productId deviceId entry.2
  have values : memory.query productId deviceId = kept.map Prod.snd := by
    rw [MemoryStore.query, Table.values, List.filter_map]
    rfl
  rw [RowStore.query, inScope, values, List.map_map, List.mapM_map]
  refine mapM_eq_ok fun entry member => ?_
  have found := Table.get?_eq_some_iff.mpr (List.mem_filter.mp member).1
  exact RuleRow.toRule_ofRule (mirrors.readsBack _ _ found) (mirrors.keyed _ _ found).2

end Mirrors

/-! ### Sessions -/

namespace StoreAnswer

/-- It cannot be noticed which signal a write published. -/
theorem ofWritten_signalling (count : Nat) (first second : RuleChange) :
    ofWritten (.signalling count first) = ofWritten (.signalling count second) := by
  unfold ofWritten Written.signalling
  split
  · rfl
  · rfl

/-- The answer with no device id in place of an empty one. -/
def withoutEmptyDevices : StoreAnswer → StoreAnswer
  | written count signals => .written count signals
  | rules result => .rules (result.map (List.map Rule.withoutEmptyDevice))

end StoreAnswer

/-- The rules that a call saves. -/
def StoreCall.saved : StoreCall → List Rule
  | save rules => rules
  | deleteByIds _ | query _ _ => []

/-- A call leaves a mirror a mirror, and both stores answer it alike. -/
theorem mirrors_answer {memory : MemoryStore} {database : RowStore}
    (mirrors : Mirrors memory database) (call : StoreCall)
    (readBack : ∀ rule ∈ call.saved, rule.ReadsBack) :
    Mirrors (call.answer memory).1 (call.answer database).1 ∧
      (call.answer database).2 = (call.answer memory).2.withoutEmptyDevices := by
  cases call with
  | save rules =>
    refine ⟨mirrors_insertAll mirrors readBack, ?_⟩
    exact StoreAnswer.ofWritten_signalling rules.length _ _
  | deleteByIds ids =>
    refine ⟨mirrors_deleteByIds mirrors ids, congrArg StoreAnswer.ofWritten ?_⟩
    rw [mirrors.eq_ofRules]
    exact congrArg Prod.snd (RowStore.deleteByIds_ofRules memory ids)
  | query productId deviceId =>
    exact ⟨mirrors, congrArg StoreAnswer.rules (mirrors.query_eq productId deviceId)⟩

theorem answers_of_mirrors {memory : MemoryStore} {database : RowStore}
    (mirrors : Mirrors memory database) {calls : List StoreCall}
    (readBack : ∀ call ∈ calls, ∀ rule ∈ call.saved, rule.ReadsBack) :
    StoreCall.answers database calls =
      (StoreCall.answers memory calls).map StoreAnswer.withoutEmptyDevices := by
  induction calls generalizing memory database with
  | nil => rfl
  | cons call rest ih =>
    obtain ⟨after, same⟩ := mirrors_answer mirrors call (readBack call List.mem_cons_self)
    rw [StoreCall.answers, StoreCall.answers, List.map_cons, same]
    exact congrArg _
      (ih after fun other member => readBack other (List.mem_cons_of_mem call member))

/-- **The two rule stores are interchangeable.** In every session with new stores in which the other
fields of the rules saved can be read back, a database gives the same counts and the same rules in
the same order as a store in memory and signals at the same calls; only a device id that is empty in
memory is absent in the database. -/
theorem stores_interchangeable (calls : List StoreCall)
    (readBack : ∀ call ∈ calls, ∀ rule ∈ call.saved, rule.ReadsBack) :
    StoreCall.answers RowStore.empty calls =
      (StoreCall.answers MemoryStore.empty calls).map StoreAnswer.withoutEmptyDevices :=
  answers_of_mirrors mirrors_empty readBack

/-- A rule with other fields and one with an empty device id are saved with a rule of a lamp, which
is given twice and then removed. -/
theorem stores_interchangeable_lamps :
    let dimmed : Rule :=
      { Rule.forProduct "lamps" "level" "dim" with others := some (.ofList [("unit", .string "%")]) }
    let unnamed : Rule := .forDevice "lamps" "" "color" "rgb"
    let own : Rule := .forDevice "lamps" "lamp" "level" "own"
    let calls : List StoreCall := [.save [dimmed, unnamed, own, own], .query "lamps" (some "lamp"),
      .deleteByIds ["lamp:property:level", "lamp:property:level"], .query "lamps" none]
    StoreCall.answers RowStore.empty calls =
        (StoreCall.answers MemoryStore.empty calls).map StoreAnswer.withoutEmptyDevices ∧
      StoreCall.answers MemoryStore.empty calls =
        [.written 4 true, .rules (.ok [own.keyed, unnamed.keyed, dimmed.keyed]), .written 1 true,
          .rules (.ok [unnamed.keyed, dimmed.keyed])] := by
  refine ⟨stores_interchangeable _ ?_, rfl⟩
  have read : Json.readWritten? "\x7b\"unit\":\"%\"\x7d" =
      some (.object [("unit", .string "%")]) := by
    simp [Json.readWritten?, Json.readValue?, Json.readMembers?, Json.readString?, Json.skipSpace,
      Json.isSpace]
  have readsBack : Json.read? (Json.ofTable (.ofList [("unit", .string "%")])).render =
      some (Json.ofTable (.ofList [("unit", .string "%")])) :=
    (congrArg (Option.bind · (WrittenJson.value? Json.nestingLimit)) read).trans rfl
  simp only [List.forall_mem_cons, StoreCall.saved, List.not_mem_nil, false_implies, implies_true,
    and_true]
  refine ⟨?_, Rule.readsBack_of_none rfl, Rule.readsBack_of_none rfl, Rule.readsBack_of_none rfl⟩
  rintro others ⟨⟩
  exact readsBack

end DeviceMapping
