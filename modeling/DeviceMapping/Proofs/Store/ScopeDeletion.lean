/-
**Deleting a scope.**

Every rule is of one scope: that of a product, or of one of its devices. An empty device id means no
device, for the key of a rule as for what a query returns, and a database saves none for such a rule.
A deletion in memory compares the device ids as they are, though. So a rule saved with an empty one
goes with the rules of its product, and also with those of a device without a name.

* `Rule.isOf_iff`: a rule is of one scope; `Rule.scopeId_eq`, `MemoryStore.inScope_iff`: its key and
  what a query returns follow this scope.
* `MemoryStore.belongsTo_iff`: which rules a deletion in memory takes for those of a scope.
* `RuleBook`: the rules in a store that deletes exactly one scope, which `RemovesScope` describes.
* `RowStore.applyAll_ofRules`: a database does all writes as the book does.
* `MemoryStore.removesScope_iff`, `MemoryStore.answers_eq_iff`: a store in memory does so exactly as
  long as no deletion overreaches (`Overreaches`).
* `scope_deletion_exact_iff`: all of this, and what it means for the two stores side by side.
* `deletion_overreaches`: a deletion that does.
-/

import DeviceMapping.Proofs.Store.Interchange
import DeviceMapping.Table.Count

namespace DeviceMapping

/-! ### The scope of a rule -/

namespace Rule

/-- The device that a rule belongs to, if it belongs to one. -/
def owner? (rule : Rule) : Option String :=
  if rule.isDeviceScoped then rule.deviceId else none

/-- The rule belongs to the scope: to the product itself, or to the device of it. -/
def isOf (productId : String) (deviceId : Option String) (rule : Rule) : Bool :=
  rule.productId == productId && rule.owner? == deviceId

/-- A rule belongs to one scope and to no other. -/
theorem isOf_iff {productId : String} {deviceId : Option String} {rule : Rule} :
    rule.isOf productId deviceId = true ↔ productId = rule.productId ∧ deviceId = rule.owner? := by
  rw [isOf, Bool.and_eq_true, beq_iff_eq, beq_iff_eq]
  exact and_congr eq_comm eq_comm

theorem isDeviceScoped_eq_true_iff {rule : Rule} :
    rule.isDeviceScoped = true ↔ ∃ device, rule.deviceId = some device ∧ device ≠ "" := by
  rw [isDeviceScoped, Option.any_eq_true]
  simp only [bne_iff_ne]

theorem owner?_eq_some_iff {rule : Rule} {device : String} :
    rule.owner? = some device ↔ rule.isDeviceScoped = true ∧ rule.deviceId = some device := by
  unfold owner?
  split
  · rename_i own
    exact (and_iff_right own).symm
  · rename_i shared
    exact iff_of_false nofun fun both => shared both.1

theorem owner?_eq_none_iff {rule : Rule} :
    rule.owner? = none ↔ rule.isDeviceScoped = false := by
  unfold owner?
  split
  · rename_i own
    obtain ⟨device, named, -⟩ := isDeviceScoped_eq_true_iff.mp own
    simp [named, own]
  · rename_i shared
    exact iff_of_true rfl (Bool.eq_false_iff.mpr shared)

/-- The rules of a product itself are those that are not of a device. -/
theorem isOf_none_iff {productId : String} {rule : Rule} :
    rule.isOf productId none = true ↔
      rule.productId = productId ∧ rule.isDeviceScoped = false := by
  rw [isOf, Bool.and_eq_true, beq_iff_eq, beq_iff_eq, owner?_eq_none_iff]

theorem isOf_some_iff {productId device : String} {rule : Rule} :
    rule.isOf productId (some device) = true ↔
      rule.productId = productId ∧ rule.isDeviceScoped = true ∧ rule.deviceId = some device := by
  rw [isOf, Bool.and_eq_true, beq_iff_eq, beq_iff_eq, owner?_eq_some_iff]

/-- No rule belongs to a device without a name. -/
theorem isOf_empty (productId : String) (rule : Rule) : rule.isOf productId (some "") = false := by
  rw [Bool.eq_false_iff]
  intro belongs
  obtain ⟨-, own, named⟩ := isOf_some_iff.mp belongs
  obtain ⟨device, named', notEmpty⟩ := isDeviceScoped_eq_true_iff.mp own
  exact notEmpty (Option.some.inj (named'.symm.trans named))

/-- The key of a rule begins with its scope. -/
theorem scopeId_eq (rule : Rule) : rule.scopeId = rule.owner?.getD rule.productId := by
  unfold scopeId owner? isDeviceScoped
  cases rule.deviceId with
  | none => rfl
  | some device => by_cases empty : device = "" <;> simp [empty]

end Rule

/-- A query returns the rules of the scope of the product and those of the scope asked for. -/
theorem MemoryStore.inScope_iff {productId : String} {deviceId : Option String} {rule : Rule} :
    inScope productId deviceId rule = true ↔
      rule.isOf productId none = true ∨ rule.isOf productId deviceId = true := by
  cases deviceId with
  | none =>
    rw [or_self, Rule.isOf_none_iff]
    simp [inScope]
  | some device =>
    rw [Rule.isOf_none_iff, Rule.isOf_some_iff]
    cases own : rule.isDeviceScoped <;> simp [inScope, own]

/-- A deletion in memory also takes the rules with an empty device id for those of a device. -/
theorem MemoryStore.belongsTo_iff {productId : String} {deviceId : Option String} {rule : Rule} :
    belongsTo productId deviceId rule = true ↔ rule.isOf productId deviceId = true ∨
      deviceId = some "" ∧ rule.productId = productId ∧ rule.deviceId = some "" := by
  cases deviceId with
  | none =>
    rw [Rule.isOf_none_iff]
    simp [belongsTo]
  | some device =>
    have taken : belongsTo productId (some device) rule = true ↔
        rule.productId = productId ∧ rule.deviceId = some device := by
      simp [belongsTo]
    rw [taken, Rule.isOf_some_iff]
    constructor
    · rintro ⟨product, named⟩
      by_cases empty : device = ""
      · subst empty
        exact .inr ⟨rfl, product, named⟩
      · have own := Rule.isDeviceScoped_eq_true_iff.mpr ⟨device, named, empty⟩
        exact .inl ⟨product, own, named⟩
    · rintro (⟨product, -, named⟩ | ⟨empty, product, named⟩)
      · exact ⟨product, named⟩
      · exact ⟨product, named.trans empty.symm⟩

/-! ### Deleting exactly one scope -/

/-- What deleting a scope has to do: the rules that stay are those of every other scope, and the
count is that of the rules removed. -/
structure RemovesScope (productId : String) (deviceId : Option String) (before after : Table Rule)
    (written : Written) : Prop where
  get?_eq_some_iff : ∀ key rule, after.get? key = some rule ↔
    before.get? key = some rule ∧ rule.isOf productId deviceId = false
  written_eq : written =
    .signalling (before.filter fun _ rule => rule.isOf productId deviceId).size .deleted

/-- The rules by key, in a store that deletes exactly one scope. -/
structure RuleBook where
  rules : Table Rule

namespace RuleBook

def empty : RuleBook := ⟨.empty⟩

/-- Removes the rules of a scope and counts them. -/
def deleteByScope (book : RuleBook) (productId : String) (deviceId : Option String) :
    RuleBook × Written :=
  (⟨book.rules.filter fun _ rule => !rule.isOf productId deviceId⟩,
    .signalling (book.rules.filter fun _ rule => rule.isOf productId deviceId).size .deleted)

/-- The book saves rules and removes keys as a store in memory does; its scopes are those of `isOf`. -/
instance : RuleStore RuleBook where
  answersAtOnce := true
  query book productId deviceId :=
    .ok (book.rules.values.filter fun rule =>
      rule.isOf productId none || rule.isOf productId deviceId)
  save book rules :=
    let saved := MemoryStore.save ⟨book.rules⟩ rules
    (⟨saved.1.rules⟩, saved.2)
  deleteByIds book ids :=
    let deleted := MemoryStore.deleteByIds ⟨book.rules⟩ ids
    (⟨deleted.1.rules⟩, deleted.2)
  deleteByScope := deleteByScope

theorem removesScope (book : RuleBook) (productId : String) (deviceId : Option String) :
    RemovesScope productId deviceId book.rules (book.deleteByScope productId deviceId).1.rules
      (book.deleteByScope productId deviceId).2 where
  get?_eq_some_iff key rule := by
    rw [deleteByScope, Table.get?_filter, Option.filter_eq_some_iff, Bool.not_eq_true']
  written_eq := rfl

end RuleBook

/-- The answers to several writes, one after the other. -/
def RuleWrite.answers {σ : Type} [RuleStore σ] (store : σ) : List RuleWrite → List StoreAnswer
  | [] => []
  | write :: rest => .ofWritten (write.applyTo store).2 :: answers (write.applyTo store).1 rest

/-! ### In a database -/

namespace RowStore

theorem deleteByScope_ofRules (book : RuleBook) (productId : String) (deviceId : Option String) :
    (ofRules book.rules).deleteByScope productId deviceId =
      (ofRules (book.deleteByScope productId deviceId).1.rules,
        (book.deleteByScope productId deviceId).2) := by
  have rest : ((ofRules book.rules).deleteByScope productId deviceId).1 =
      ofRules (book.deleteByScope productId deviceId).1.rules :=
    congrArg (RowStore.mk [])
      (Table.filter_map book.rules (fun _ rule => RuleRow.ofRule rule) _)
  refine Prod.ext rest ?_
  show Written.signalling ((ofRules book.rules).size -
    ((ofRules book.rules).deleteByScope productId deviceId).1.size) .deleted = _
  rw [rest, size_ofRules, size_ofRules]
  exact congrArg (Written.signalling · .deleted) (Table.size_sub_size_filter_not book.rules _)

/-- A write does to the rows of rules what it does to the rules in the book. -/
theorem applyTo_ofRules (book : RuleBook) (write : RuleWrite) :
    (write.applyTo (ofRules book.rules)).1 = ofRules (write.applyTo book).1.rules ∧
      StoreAnswer.ofWritten (write.applyTo (ofRules book.rules)).2 =
        .ofWritten (write.applyTo book).2 := by
  cases write with
  | save rules =>
    exact ⟨insertAll_ofRules ⟨book.rules⟩ rules, StoreAnswer.ofWritten_signalling _ _ _⟩
  | deleteByIds ids =>
    have same := deleteByIds_ofRules ⟨book.rules⟩ ids
    exact ⟨congrArg Prod.fst same, congrArg (StoreAnswer.ofWritten ·.2) same⟩
  | deleteByScope productId deviceId =>
    have same := deleteByScope_ofRules book productId deviceId
    exact ⟨congrArg Prod.fst same, congrArg (StoreAnswer.ofWritten ·.2) same⟩

theorem applyAll_ofRules (book : RuleBook) (writes : List RuleWrite) :
    RuleWrite.applyAll (ofRules book.rules) writes =
        ofRules (RuleWrite.applyAll book writes).rules ∧
      RuleWrite.answers (ofRules book.rules) writes = RuleWrite.answers book writes := by
  induction writes generalizing book with
  | nil => exact ⟨rfl, rfl⟩
  | cons write rest ih =>
    obtain ⟨next, answer⟩ := applyTo_ofRules book write
    obtain ⟨last, answers⟩ := ih (write.applyTo book).1
    rw [RuleWrite.answers, RuleWrite.answers, answer, next, answers]
    refine ⟨?_, rfl⟩
    show RuleWrite.applyAll (write.applyTo (ofRules book.rules)).1 rest = _
    rw [next, last]
    rfl

end RowStore

/-! ### In memory -/

namespace MemoryStore

/-- The rules of the store as a book. -/
def book (store : MemoryStore) : RuleBook := ⟨store.rules⟩

/-- The write deletes the scope of a device without a name, and rules of the product have an empty
device id. -/
def Overreaches (store : MemoryStore) : RuleWrite → Prop
  | .deleteByScope productId deviceId =>
    deviceId = some "" ∧ ∃ key rule, store.rules.get? key = some rule ∧
      rule.productId = productId ∧ rule.deviceId = some ""
  | .save _ | .deleteByIds _ => False

section Writes

variable {store : MemoryStore} {productId : String} {deviceId : Option String}

/-- Where it does not overreach, a deletion in memory takes the rules of the scope. -/
theorem belongsTo_eq (within : ¬ store.Overreaches (.deleteByScope productId deviceId))
    {key : String} {rule : Rule} (found : store.rules.get? key = some rule) :
    belongsTo productId deviceId rule = rule.isOf productId deviceId := by
  rw [Bool.eq_iff_iff, belongsTo_iff, or_iff_left]
  rintro ⟨empty, here⟩
  exact within ⟨empty, key, rule, found, here⟩

/-- So it is the deletion in the book. -/
theorem deleteByScope_eq (within : ¬ store.Overreaches (.deleteByScope productId deviceId)) :
    store.deleteByScope productId deviceId =
      (⟨(store.book.deleteByScope productId deviceId).1.rules⟩,
        (store.book.deleteByScope productId deviceId).2) := by
  have rest : (store.rules.filter fun _ rule => !belongsTo productId deviceId rule) =
      (store.book.deleteByScope productId deviceId).1.rules :=
    Table.filter_congr fun key rule found => congrArg Bool.not (belongsTo_eq within found)
  have count : store.rules.size - (store.book.deleteByScope productId deviceId).1.rules.size =
      (store.rules.filter fun _ rule => rule.isOf productId deviceId).size :=
    Table.size_sub_size_filter_not store.rules _
  rw [deleteByScope, rest, count]
  rfl

theorem size_filter_isOf_empty (rules : Table Rule) (productId : String) :
    (rules.filter fun _ rule => rule.isOf productId (some "")).size = 0 := by
  refine List.length_eq_zero_iff.mpr (List.filter_eq_nil_iff.mpr fun entry _ => ?_)
  exact Bool.eq_false_iff.mp (Rule.isOf_empty productId entry.2)

/-- Where it overreaches, it removes rules although there is none of the scope. -/
theorem count_ne_of_overreaches (exceeds : store.Overreaches (.deleteByScope productId deviceId)) :
    (store.deleteByScope productId deviceId).2.count ≠
      (store.book.deleteByScope productId deviceId).2.count := by
  obtain ⟨rfl, key, rule, found, here⟩ := exceeds
  have nothing : (store.book.deleteByScope productId (some "")).2.count = 0 :=
    size_filter_isOf_empty store.rules productId
  have removed : (store.deleteByScope productId (some "")).2.count =
      (store.rules.filter fun _ rule => belongsTo productId (some "") rule).size :=
    Table.size_sub_size_filter_not store.rules _
  rw [nothing, removed]
  refine Nat.ne_of_gt (Table.size_pos_of_contains (?_ : Table.contains _ key = true))
  rw [Table.contains, Table.get?_filter, found,
    Option.filter_some_pos (belongsTo_iff.mpr (.inr ⟨rfl, here⟩))]
  rfl

/-- A deletion in memory is exact unless it overreaches. -/
theorem removesScope_iff :
    RemovesScope productId deviceId store.rules (store.deleteByScope productId deviceId).1.rules
        (store.deleteByScope productId deviceId).2 ↔
      ¬ store.Overreaches (.deleteByScope productId deviceId) := by
  constructor
  · intro removes exceeds
    apply count_ne_of_overreaches exceeds
    rw [removes.written_eq]
    rfl
  · intro within
    rw [deleteByScope_eq within]
    exact store.book.removesScope productId deviceId

/-- A write that does not overreach is the one in the book. -/
theorem applyTo_eq {write : RuleWrite} (within : ¬ store.Overreaches write) :
    write.applyTo store =
      (⟨(write.applyTo store.book).1.rules⟩,
        (write.applyTo store.book).2) := by
  cases write with
  | save | deleteByIds => rfl
  | deleteByScope productId deviceId => exact deleteByScope_eq within

theorem ofWritten_ne_of_overreaches {write : RuleWrite} (exceeds : store.Overreaches write) :
    StoreAnswer.ofWritten (write.applyTo store).2 ≠
      .ofWritten (write.applyTo store.book).2 := by
  cases write with
  | save | deleteByIds => exact exceeds.elim
  | deleteByScope productId deviceId =>
    intro same
    exact count_ne_of_overreaches exceeds (StoreAnswer.written.inj same).1

end Writes

/-! ### Histories -/

/-- One of the writes overreaches when it is its turn. -/
def OverreachesIn (store : MemoryStore) (writes : List RuleWrite) : Prop :=
  ∃ before write after, writes = before ++ write :: after ∧
    (RuleWrite.applyAll store before).Overreaches write

theorem not_overreachesIn_nil (store : MemoryStore) : ¬ store.OverreachesIn [] := by
  rintro ⟨before, write, after, split, -⟩
  exact List.append_ne_nil_of_right_ne_nil before (List.cons_ne_nil write after) split.symm

theorem overreachesIn_cons_iff {store : MemoryStore} {write : RuleWrite}
    {rest : List RuleWrite} :
    store.OverreachesIn (write :: rest) ↔
      store.Overreaches write ∨ (write.applyTo store).1.OverreachesIn rest := by
  constructor
  · rintro ⟨before, other, after, split, exceeds⟩
    cases before with
    | nil =>
      cases split
      exact .inl exceeds
    | cons first before =>
      cases split
      exact .inr ⟨before, other, after, rfl, exceeds⟩
  · rintro (exceeds | ⟨before, other, after, rfl, exceeds⟩)
    · exact ⟨[], write, rest, rfl, exceeds⟩
    · exact ⟨write :: before, other, after, rfl, exceeds⟩

/-- A store in memory answers by the book exactly as long as nothing overreaches. -/
theorem answers_eq_iff (store : MemoryStore) (writes : List RuleWrite) :
    RuleWrite.answers store writes = RuleWrite.answers store.book writes ↔
      ¬ store.OverreachesIn writes := by
  induction writes generalizing store with
  | nil => exact iff_of_true rfl (not_overreachesIn_nil store)
  | cons write rest ih =>
    rw [overreachesIn_cons_iff, not_or, RuleWrite.answers, RuleWrite.answers, List.cons_eq_cons]
    by_cases exceeds : store.Overreaches write
    · exact iff_of_false (fun same => ofWritten_ne_of_overreaches exceeds same.1)
        fun never => never.1 exceeds
    · have next := ih (write.applyTo store).1
      rw [applyTo_eq exceeds] at next ⊢
      exact (and_iff_right rfl).trans (next.trans (and_iff_right exceeds).symm)

/-- And then it has the rules of the book. -/
theorem applyAll_eq {store : MemoryStore} {writes : List RuleWrite}
    (within : ¬ store.OverreachesIn writes) :
    (RuleWrite.applyAll store writes).rules =
      (RuleWrite.applyAll store.book writes).rules := by
  induction writes generalizing store with
  | nil => rfl
  | cons write rest ih =>
    obtain ⟨here, later⟩ := not_or.mp (overreachesIn_cons_iff.not.mp within)
    have next := ih later
    show (RuleWrite.applyAll (write.applyTo store).1 rest).rules = _
    rw [next, applyTo_eq here]
    rfl

end MemoryStore

/-- **Deleting a scope removes that scope, unless it overreaches.** Every rule is of one scope, that
of its device if it has one and else that of its product; its key begins with the scope, and a query
returns the rules of the product and those of the device asked for. After any writes, a deletion in
memory removes the rules of its scope, keeps all others and returns the number removed, exactly if it
does not overreach. The database has the rows of the rules in the book after the same writes, and a
deletion does to them what it does in the book, which is exact. So the two stores answer the writes
alike exactly if none of them overreaches, and then they have the same rules. -/
theorem scope_deletion_exact_iff (writes : List RuleWrite) (productId : String)
    (deviceId : Option String) :
    let memory := RuleWrite.applyAll MemoryStore.empty writes
    let book := RuleWrite.applyAll RuleBook.empty writes
    let database := RuleWrite.applyAll RowStore.empty writes
    (∀ rule : Rule,
      (rule.owner? = none ↔ rule.isDeviceScoped = false) ∧
      (∀ device, rule.owner? = some device ↔
        rule.isDeviceScoped = true ∧ rule.deviceId = some device) ∧
      (rule.isOf productId deviceId = true ↔
        productId = rule.productId ∧ deviceId = rule.owner?) ∧
      (MemoryStore.inScope productId deviceId rule = true ↔
        rule.isOf productId none = true ∨ rule.isOf productId deviceId = true) ∧
      rule.key =
        Rule.keyOf (rule.owner?.getD rule.productId) rule.metadataType rule.metadataId) ∧
    (RemovesScope productId deviceId memory.rules
        (memory.deleteByScope productId deviceId).1.rules
        (memory.deleteByScope productId deviceId).2 ↔
      ¬ memory.Overreaches (.deleteByScope productId deviceId)) ∧
    (RemovesScope productId deviceId book.rules (book.deleteByScope productId deviceId).1.rules
        (book.deleteByScope productId deviceId).2 ∧
      database = .ofRules book.rules ∧
      database.deleteByScope productId deviceId =
        (.ofRules (book.deleteByScope productId deviceId).1.rules,
          (book.deleteByScope productId deviceId).2)) ∧
    (RuleWrite.answers MemoryStore.empty writes = RuleWrite.answers RowStore.empty writes ↔
      ¬ MemoryStore.empty.OverreachesIn writes) ∧
    (¬ MemoryStore.empty.OverreachesIn writes → database = .ofRules memory.rules) := by
  intro memory book database
  obtain ⟨rows, answers⟩ := RowStore.applyAll_ofRules RuleBook.empty writes
  have rows : database = .ofRules book.rules := rows
  refine ⟨fun rule => ⟨Rule.owner?_eq_none_iff, fun device => Rule.owner?_eq_some_iff,
      Rule.isOf_iff, MemoryStore.inScope_iff, ?_⟩, MemoryStore.removesScope_iff,
    ⟨book.removesScope productId deviceId, rows, ?_⟩, ?_, fun within => ?_⟩
  · rw [Rule.key, Rule.scopeId_eq]
  · rw [rows]
    exact RowStore.deleteByScope_ofRules book productId deviceId
  · rw [show RuleWrite.answers RowStore.empty writes = _ from answers]
    exact MemoryStore.answers_eq_iff MemoryStore.empty writes
  · rw [rows, MemoryStore.applyAll_eq within]
    rfl

/-- A rule of a product that was saved with an empty device id is removed from memory with the scope
of a device without a name; from a database it is not. -/
theorem deletion_overreaches :
    let rule : Rule := .forDevice "lamps" "" "power" "switch"
    let store := RuleWrite.applyAll MemoryStore.empty [.save [rule]]
    let database := RuleWrite.applyAll RowStore.empty [.save [rule]]
    rule.isOf "lamps" none = true ∧ rule.isOf "lamps" (some "") = false ∧
      store.query "lamps" none = [rule.keyed] ∧
      (store.deleteByScope "lamps" (some "")).1.query "lamps" none = [] ∧
      (store.deleteByScope "lamps" (some "")).2 = ⟨1, some .deleted⟩ ∧
      (database.deleteByScope "lamps" (some "")).2 = ⟨0, none⟩ :=
  ⟨rfl, rfl, rfl, rfl, rfl, rfl⟩

end DeviceMapping
