/-
**Queries of a database that anything may have written.**

* `SaysObject`: the text of an object by the grammar of JSON, with nothing unreadable in it and not
  nested too deep.
* `Reads`: the rule that a row says, column by column; `FailsBy`: why a row says none.
* `toRule_eq_ok_iff`, `toRule_eq_error_iff`: reading a row gives the one or the other.
* `IsScope`: the rows of a product that belong to no device or to the given one, by the bytes of
  their ids.
* `query_of_named`: a query gives one rule for each of them if all can be read; else the first that
  cannot decides the error. No other row matters.
-/

import DeviceMapping.Proofs.Json.RoundTrip
import DeviceMapping.Proofs.Results
import DeviceMapping.Proofs.Text.ByteOrder
import DeviceMapping.Store.Rows
import DeviceMapping.Table.Lookup

namespace DeviceMapping

namespace MetadataType

theorem ofName?_eq_some_iff {text : String} {type : MetadataType} :
    ofName? text = some type ↔ type.name = text := by
  constructor
  · intro found
    have same := List.find?_some found
    exact eq_of_beq same
  · rintro rfl
    exact type.ofName?_name

theorem ofName?_eq_none_iff {text : String} :
    ofName? text = none ↔ ∀ type : MetadataType, type.name ≠ text := by
  rw [Option.eq_none_iff_forall_ne_some]
  exact forall_congr' fun type => not_congr ofName?_eq_some_iff

end MetadataType

/-! ### Objects in JSON -/

namespace Json

/-- The text says an object with these members. All numbers in it are in range and all strings have
characters for their escapes, and at most as many arrays and objects stand inside each other as a
reader admits. -/
structure SaysObject (text : String) (members : List (String × WrittenJson)) : Prop where
  isText : IsText text (.object members)
  within : (WrittenJson.object members).Within nestingLimit

section Objects

variable {text : String} {members : List (String × WrittenJson)}

theorem SaysObject.ne_empty (object : SaysObject text members) : text ≠ "" := by
  rintro rfl
  have none : readWritten? "" = none := rfl
  rw [readWritten?_eq_some_iff.mpr object.isText] at none
  cases none

theorem SaysObject.unique {others : List (String × WrittenJson)}
    (object : SaysObject text members) (other : SaysObject text others) : members = others :=
  WrittenJson.object.inj (object.isText.unique other.isText)

/-- The members of an object are read from a text exactly if it says one. -/
theorem bind_members?_eq_some_iff {entries : List (String × Json)} :
    (read? text).bind members? = some entries ↔ ∃ members, SaysObject text members ∧
      (Table.ofList (WrittenJson.membersJson members)).entries = entries := by
  simp only [Option.bind_eq_some_iff, read?_eq_some_iff]
  constructor
  · rintro ⟨_, ⟨written, isText, within, rfl⟩, found⟩
    cases written with
    | object members => exact ⟨members, ⟨isText, within⟩, Option.some.inj found⟩
    | _ => cases found
  · rintro ⟨members, ⟨isText, within⟩, rfl⟩
    exact ⟨_, ⟨_, isText, within, rfl⟩, rfl⟩

end Objects

end Json

/-! ### What a row says -/

namespace RuleRow

/-- What a column of other fields says: nothing, or the members of an object in JSON, of which the
last counts where a name is repeated. -/
inductive SaysOthers : Option String → Option (Table Json) → Prop
  | absent : SaysOthers none none
  | empty : SaysOthers (some "") none
  | object {text : String} {members : List (String × WrittenJson)}
      (object : Json.SaysObject text members) :
      SaysOthers (some text) (some (.ofList (WrittenJson.membersJson members)))

/-- The rule has the id of a row, and what the columns of the row say. -/
structure Reads (id : String) (row : RuleRow) (rule : Rule) : Prop where
  id : rule.id = some id
  productId : rule.productId = row.productId
  deviceId : rule.deviceId = row.deviceId
  metadataType : rule.metadataType.name = row.metadataType
  metadataId : rule.metadataId = row.metadataId
  rawKey : rule.rawKey = row.rawKey
  others : SaysOthers row.others rule.others

/-- The type of the row is known, and its other fields are absent, empty or an object in JSON. -/
def Readable (row : RuleRow) : Prop :=
  (∃ type : MetadataType, type.name = row.metadataType) ∧
    (row.others = none ∨ row.others = some "" ∨
      ∃ text members, row.others = some text ∧ Json.SaysObject text members)

/-- Why a row cannot be read: for its type, if that is unknown, and only else for its other
fields. -/
inductive FailsBy (row : RuleRow) : StoreError → Prop
  | type (unknown : ∀ type : MetadataType, type.name ≠ row.metadataType) :
      FailsBy row (.invalidRule (.unknownMetadataType row.metadataType))
  | others {text : String} (type : MetadataType) (known : type.name = row.metadataType)
      (written : row.others = some text) (notEmpty : text ≠ "")
      (unreadable : ∀ members, ¬ Json.SaysObject text members) : FailsBy row .unreadableFields

/-- The row is of a product, and of none of its devices or of the given one. -/
def InScope (productId : String) (deviceId : Option String) (row : RuleRow) : Prop :=
  row.productId = productId ∧
    (row.deviceId = none ∨ ∃ device, deviceId = some device ∧ row.deviceId = some device)

theorem inScope_iff {productId : String} {deviceId : Option String} {row : RuleRow} :
    row.inScope productId deviceId = true ↔ row.InScope productId deviceId := by
  rw [inScope, Bool.and_eq_true, beq_iff_eq, Bool.or_eq_true, beq_iff_eq,
    Option.isNone_iff_eq_none]
  refine and_congr_right fun _ => ?_
  cases row.deviceId <;> cases deviceId <;> simp [eq_comm]

section Reading

variable {row : RuleRow} {id : String} {rule : Rule} {fault : StoreError}

theorem readOthers_eq_ok_iff {column : Option String} {others : Option (Table Json)} :
    readOthers column = .ok others ↔ SaysOthers column others := by
  constructor
  · intro reads
    unfold readOthers at reads
    split at reads
    · cases reads
      exact .absent
    · split at reads
      · rename_i empty
        cases reads
        exact empty ▸ .empty
      · split at reads
        · rename_i entries found
          obtain ⟨members, object, rfl⟩ := Json.bind_members?_eq_some_iff.mp found
          cases reads
          rw [Table.ofList_entries]
          exact .object object
        · cases reads
  · rintro (_ | _ | object)
    · rfl
    · rfl
    · have found := Json.bind_members?_eq_some_iff.mpr ⟨_, object, rfl⟩
      simp only [readOthers, if_neg object.ne_empty, found, Table.ofList_entries]

/-- Other fields that cannot be read are a text that is no object in JSON. -/
theorem readOthers_eq_error_iff {column : Option String} :
    readOthers column = .error fault ↔ fault = .unreadableFields ∧ ∃ text, column = some text ∧
      text ≠ "" ∧ ∀ members, ¬ Json.SaysObject text members := by
  constructor
  · intro fails
    unfold readOthers at fails
    split at fails
    · cases fails
    · split at fails
      · cases fails
      · rename_i notEmpty
        split at fails
        · cases fails
        · rename_i unreadable
          cases fails
          refine ⟨rfl, _, rfl, notEmpty, fun members object => ?_⟩
          rw [Json.bind_members?_eq_some_iff.mpr ⟨members, object, rfl⟩] at unreadable
          cases unreadable
  · rintro ⟨rfl, text, rfl, notEmpty, unreadable⟩
    have none : (Json.read? text).bind Json.members? = none := by
      refine Option.eq_none_iff_forall_ne_some.mpr fun entries found => ?_
      obtain ⟨members, object, -⟩ := Json.bind_members?_eq_some_iff.mp found
      exact unreadable members object
    rw [readOthers, if_neg notEmpty, none]

/-- A row is read as the rule that it says. -/
theorem toRule_eq_ok_iff : row.toRule (some id) = .ok rule ↔ row.Reads id rule := by
  constructor
  · intro reads
    unfold toRule at reads
    cases named : MetadataType.ofName? row.metadataType with
    | none =>
      rw [named] at reads
      cases reads
    | some type =>
      cases found : readOthers row.others with
      | error fault =>
        rw [named, found] at reads
        cases reads
      | ok others =>
        rw [named, found] at reads
        cases reads
        exact ⟨rfl, rfl, rfl, MetadataType.ofName?_eq_some_iff.mp named, rfl, rfl,
          readOthers_eq_ok_iff.mp found⟩
  · intro reads
    have named := MetadataType.ofName?_eq_some_iff.mpr reads.metadataType
    have found := readOthers_eq_ok_iff.mpr reads.others
    obtain ⟨rule⟩ := rule
    cases reads.id
    simp only [toRule, named, found, bind, Except.bind, Option.getD_some, ← reads.productId,
      ← reads.deviceId, ← reads.metadataId, ← reads.rawKey]

/-- A row that cannot be read fails for its type before its other fields are looked at. -/
theorem toRule_eq_error_iff {id : Option String} :
    row.toRule id = .error fault ↔ row.FailsBy fault := by
  unfold toRule
  cases named : MetadataType.ofName? row.metadataType with
  | none =>
    constructor
    · rintro ⟨⟩
      exact .type (MetadataType.ofName?_eq_none_iff.mp named)
    · rintro (_ | ⟨type, known, -, -, -⟩)
      · rfl
      · exact absurd known (MetadataType.ofName?_eq_none_iff.mp named type)
  | some type =>
    have known := MetadataType.ofName?_eq_some_iff.mp named
    cases found : readOthers row.others with
    | error first =>
      obtain ⟨rfl, text, written, notEmpty, unreadable⟩ := readOthers_eq_error_iff.mp found
      constructor
      · rintro ⟨⟩
        exact .others type known written notEmpty unreadable
      · rintro (unknown | _)
        · exact absurd known (unknown type)
        · rfl
    | ok others =>
      refine iff_of_false nofun ?_
      rintro (unknown | ⟨-, -, written, notEmpty, unreadable⟩)
      · exact absurd known (unknown type)
      · have fails := readOthers_eq_error_iff.mpr ⟨rfl, _, written, notEmpty, unreadable⟩
        rw [found] at fails
        cases fails

/-- The rows that can be read are those that say a rule. -/
theorem readable_iff : row.Readable ↔ ∃ rule, row.Reads id rule := by
  constructor
  · rintro ⟨⟨type, known⟩, column⟩
    obtain ⟨others, written⟩ : ∃ others, SaysOthers row.others others := by
      rcases column with absent | empty | ⟨text, members, written, object⟩
      · exact ⟨none, absent ▸ .absent⟩
      · exact ⟨none, empty ▸ .empty⟩
      · exact ⟨some (.ofList (WrittenJson.membersJson members)), written ▸ .object object⟩
    exact ⟨⟨some id, row.productId, row.deviceId, type, row.metadataId, row.rawKey, others⟩,
      rfl, rfl, rfl, known, rfl, rfl, written⟩
  · rintro ⟨rule, reads⟩
    refine ⟨⟨_, reads.metadataType⟩, ?_⟩
    have written := reads.others
    generalize row.others = column, rule.others = others at written
    cases written with
    | absent => exact .inl rfl
    | empty => exact .inr (.inl rfl)
    | object object => exact .inr (.inr ⟨_, _, rfl, object⟩)

end Reading

end RuleRow

/-! ### Queries -/

namespace RowStore

/-- The rows of a product that belong to no device or to the given one, by the bytes of their ids.
-/
structure IsScope (store : RowStore) (productId : String) (deviceId : Option String)
    (scope : List (String × RuleRow)) : Prop where
  rows : ∀ id row, (id, row) ∈ scope ↔
    store.rows.get? id = some row ∧ row.InScope productId deviceId
  ordered : scope.Pairwise fun first second => Text.bytes first.1 < Text.bytes second.1

section Queries

variable {store : RowStore}

/-- The rows in scope as a table. -/
def rowsInScope (store : RowStore) (productId : String) (deviceId : Option String) :
    Table RuleRow :=
  store.rows.filter fun _ row => row.inScope productId deviceId

theorem isScope_rowsInScope (store : RowStore) (productId : String) (deviceId : Option String) :
    store.IsScope productId deviceId (store.rowsInScope productId deviceId).entries where
  rows := fun id row => by
    rw [← Table.get?_eq_some_iff, rowsInScope, Table.get?_filter, Option.filter_eq_some_iff,
      RuleRow.inScope_iff]
  ordered := (store.rowsInScope productId deviceId).sorted.imp Text.bytes_lt_bytes_iff.mpr

theorem query_eq (named : store.unnamed = []) (productId : String) (deviceId : Option String) :
    store.query productId deviceId =
      (store.rowsInScope productId deviceId).entries.mapM fun entry =>
        entry.2.toRule (some entry.1) := by
  have listing : store.listing = store.rows.entries.map fun entry => (some entry.1, entry.2) := by
    rw [listing, named]
    rfl
  rw [query, listing, List.filter_map, List.mapM_map]
  rfl

/-- Where two databases have the same rows in scope, the others do not matter. -/
theorem rowsInScope_congr {other : RowStore} {productId : String} {deviceId : Option String}
    (same : ∀ id row, row.InScope productId deviceId →
      (other.rows.get? id = some row ↔ store.rows.get? id = some row)) :
    other.rowsInScope productId deviceId = store.rowsInScope productId deviceId := by
  refine Table.ext_get? fun id => Option.ext fun row => ?_
  rw [rowsInScope, rowsInScope, Table.get?_filter, Table.get?_filter, Option.filter_eq_some_iff,
    Option.filter_eq_some_iff, RuleRow.inScope_iff]
  exact and_congr_left (same id row)

/-- **What a query of a database answers, whatever its rows hold.** If every row has its id, the
rows of the product that belong to no device or to the given one are taken by the bytes of their
ids. The query gives one rule for each, with all the row says, exactly if every one of them has a
known type and other fields that are absent, empty or an object in JSON whose numbers, escapes and
nesting are within the limits. Else the first row that has not decides the error, by its type before
its other fields. Rows out of scope do not matter. -/
theorem query_of_named (store : RowStore) (named : store.unnamed = []) (productId : String)
    (deviceId : Option String) :
    ∃ scope, store.IsScope productId deviceId scope ∧
      (∀ rules, store.query productId deviceId = .ok rules ↔
        List.Forall₂ (fun entry rule => entry.2.Reads entry.1 rule) scope rules) ∧
      ((∃ rules, store.query productId deviceId = .ok rules) ↔
        ∀ entry ∈ scope, entry.2.Readable) ∧
      (∀ fault, store.query productId deviceId = .error fault ↔
        ∃ before first after, scope = before ++ first :: after ∧
          (∀ entry ∈ before, entry.2.Readable) ∧ first.2.FailsBy fault) ∧
      ∀ other : RowStore, other.unnamed = [] →
        (∀ id row, row.InScope productId deviceId →
          (other.rows.get? id = some row ↔ store.rows.get? id = some row)) →
        other.query productId deviceId = store.query productId deviceId := by
  have query := query_eq named productId deviceId
  have readable : ∀ entry : String × RuleRow,
      entry.2.Readable ↔ ∃ rule, entry.2.toRule (some entry.1) = .ok rule := fun entry =>
    RuleRow.readable_iff.trans (exists_congr fun rule => RuleRow.toRule_eq_ok_iff.symm)
  refine ⟨_, store.isScope_rowsInScope productId deviceId, fun rules => ?_, ?_, fun fault => ?_,
    fun other named' same => ?_⟩
  · rw [query, mapM_eq_ok_iff]
    simp only [RuleRow.toRule_eq_ok_iff]
  · rw [query, exists_mapM_eq_ok_iff]
    exact forall₂_congr fun entry _ => (readable entry).symm
  · rw [query, mapM_eq_error_iff]
    simp only [readable, RuleRow.toRule_eq_error_iff]
  · rw [query, query_eq named', rowsInScope_congr same]

/-- Other fields of a rule. -/
def sensorFields : List (String × Json) :=
  [("scale", .array [.integer 2, .null]), ("unit", .string "C")]

/-- One row of a product without other fields and one with some, and one of its device that has an
unknown type and no JSON. -/
def mixed : RowStore :=
  ⟨[], ((Table.empty.insert "a" ⟨"p", none, "event", "alarm", some "raw", none⟩).insert "b"
    ⟨"p", some "d", "gauge", "level", none, some "\x7b"⟩).insert "c"
    ⟨"p", none, "property", "level", some "raw",
      some "\x7b\"scale\":[2,null],\"unit\":\"C\"\x7d"⟩⟩

theorem readOthers_sensorFields :
    RuleRow.readOthers (some "\x7b\"scale\":[2,null],\"unit\":\"C\"\x7d") =
      .ok (some (.ofList sensorFields)) := by
  have sorted : Table.Sorted sensorFields := by
    simp only [sensorFields, Table.Sorted, List.pairwise_cons, List.mem_singleton,
      List.not_mem_nil, forall_eq]
    exact ⟨by decide, nofun, .nil⟩
  have writable : (Json.object sensorFields).Writable Json.nestingLimit := by
    refine ⟨by decide, sorted, ⟨by decide, ?_, trivial, trivial⟩, trivial, trivial⟩
    exact ⟨by decide, by decide⟩
  have text : Json.render (.object sensorFields) =
      "\x7b\"scale\":[2,null],\"unit\":\"C\"\x7d" := by
    decide +kernel
  have read := Json.read?_render writable
  rw [text] at read
  rw [RuleRow.readOthers, if_neg (by decide), read]
  rfl

theorem query_mixed : mixed.query "p" none =
    .ok [⟨some "a", "p", none, .event, "alarm", some "raw", none⟩,
      ⟨some "c", "p", none, .property, "level", some "raw", some (.ofList sensorFields)⟩] := by
  have first : RuleRow.toRule (some "a") ⟨"p", none, "event", "alarm", some "raw", none⟩ =
      .ok ⟨some "a", "p", none, .event, "alarm", some "raw", none⟩ := rfl
  have second : RuleRow.toRule (some "c") ⟨"p", none, "property", "level", some "raw",
      some "\x7b\"scale\":[2,null],\"unit\":\"C\"\x7d"⟩ =
      .ok ⟨some "c", "p", none, .property, "level", some "raw", some (.ofList sensorFields)⟩ := by
    have named : MetadataType.ofName? "property" = some .property := rfl
    simp only [RuleRow.toRule, named, readOthers_sensorFields, bind, Except.bind, Option.getD_some]
  have scope : (mixed.rowsInScope "p" none).entries =
      [("a", ⟨"p", none, "event", "alarm", some "raw", none⟩),
        ("c", ⟨"p", none, "property", "level", some "raw",
          some "\x7b\"scale\":[2,null],\"unit\":\"C\"\x7d"⟩)] := rfl
  rw [query_eq rfl, scope]
  simp only [List.mapM_cons, List.mapM_nil, first, second]
  rfl

/-- The rows of the product are read, other fields among them. The row of the device decides the
error for the device, by its type, and does not matter to what the product is answered. -/
theorem query_of_named_mixed :
    mixed.unnamed = [] ∧
      (mixed.query "p" none =
          .ok [⟨some "a", "p", none, .event, "alarm", some "raw", none⟩,
            ⟨some "c", "p", none, .property, "level", some "raw", some (.ofList sensorFields)⟩] ∧
        ∃ scope, mixed.IsScope "p" none scope ∧ ∀ entry ∈ scope, entry.2.Readable) ∧
      mixed.query "p" (some "d") = .error (.invalidRule (.unknownMetadataType "gauge")) ∧
        ∃ scope, mixed.IsScope "p" (some "d") scope ∧
          ∃ before first after, scope = before ++ first :: after ∧
            (∀ entry ∈ before, entry.2.Readable) ∧
            first.2.FailsBy (.invalidRule (.unknownMetadataType "gauge")) := by
  obtain ⟨scope, isScope, -, readable, -⟩ := query_of_named mixed rfl "p" none
  obtain ⟨scope', isScope', -, -, fails, -⟩ := query_of_named mixed rfl "p" (some "d")
  exact ⟨rfl, ⟨query_mixed, scope, isScope, readable.mp ⟨_, query_mixed⟩⟩, rfl, scope', isScope',
    (fails _).mp rfl⟩

/-! #### Objects that cannot be read -/

/-- An object in JSON with one member. -/
def objectText (value : List Char) : String :=
  String.ofList ('\x7b' :: '"' :: 'a' :: '"' :: ':' :: (value ++ ['\x7d']))

/-- A database with one row, of a product, whose other fields are an object with one member. -/
def holding (value : List Char) : RowStore :=
  ⟨[], Table.empty.insert "a"
    ⟨"p", none, "property", "level", some "raw", some (objectText value)⟩⟩

/-- An object in JSON with this value as its only member makes a query of the product fail. -/
structure IsRefused (value : List Char) : Prop where
  isObject : ∃ members, Json.IsText (objectText value) (.object members)
  named : (holding value).unnamed = []
  fails : (holding value).query "p" none = .error .unreadableFields

/-- Arrays inside each other, as many as the number and one more. -/
def nestedText : Nat → List Char
  | 0 => ['[', ']']
  | n + 1 => '[' :: (nestedText n ++ [']'])

def nested : Nat → WrittenJson
  | 0 => .array []
  | n + 1 => .array [nested n]

theorem says_nestedText (n : Nat) (rest : List Char) :
    Json.Says (nestedText n ++ rest) (nested n) rest := by
  induction n generalizing rest with
  | zero => exact .emptyArray .none
  | succ n ih =>
    rw [nestedText, List.cons_append, List.append_assoc]
    exact .array (.last .none (ih _) .none)

theorem not_within_nested {levels n : Nat} (deep : levels ≤ n) : ¬ (nested n).Within levels := by
  induction n generalizing levels with
  | zero => exact fun within => absurd within.1 (by omega)
  | succ n ih => exact fun within => ih (show levels - 1 ≤ n by omega) within.2.1

/-- The text of a number beyond all doubles. -/
theorem says_beyond (rest : List Char) :
    Json.Says ("1e999".toList ++ rest) .unreadable rest := by
  have digits : ∀ digits, digits ∈ [['1'], ['9', '9', '9']] → Json.IsDigits digits := by
    intro digits member
    simp only [List.mem_cons, List.not_mem_nil, or_false] at member
    rcases member with rfl | rfl
    · exact ⟨by decide, by simp⟩
    · exact ⟨by decide, by simp⟩
  have parts : Json.SaysNumber ('1' :: 'e' :: '9' :: '9' :: '9' :: rest)
      ⟨false, ['1'], none, some (false, ['9', '9', '9'])⟩ rest :=
    @Json.SaysNumber.parts _ ['1'] _ _ _ _ _ _ .absent (digits _ (by simp)) (by decide) .absent
      (@Json.SaysExponent.present 'e' [] ['9', '9', '9'] rest false (.inl rfl) (by simp)
        (digits _ (by simp)))
  refine .number parts (.tooLarge (fun isWhole => ?_) ?_ ?_)
  · cases isWhole.noExponent
  · exact Option.isNone_iff_eq_none.mp (by decide +kernel)
  · have magnitude : Json.NumberText.magnitude ⟨false, ['1'], none, some (false, ['9', '9', '9'])⟩ =
        1 * 10 ^ ((999 : Nat) : Int) := rfl
    rw [magnitude, one_mul, zpow_natCast]
    exact pow_le_pow_right₀ (by norm_num) (by decide)

/-- A string whose only escape is the first half of a pair. -/
theorem says_half (rest : List Char) :
    Json.Says ("\"\\ud800\"".toList ++ rest) .unreadable rest := by
  have unit := @Json.SaysUnit.digits 'd' '8' '0' '0' 13 8 0 0 ('"' :: rest) rfl rfl rfl rfl
  exact .unreadableString (.unicode (.high unit (by simp [Json.IsHigh]) nofun) .close)

/-- An object in JSON whose only member goes beyond the limits is refused. -/
theorem isRefused_of_beyond {value : List Char} {written : WrittenJson}
    (is : Json.Says (value ++ ['\x7d']) written ['\x7d'])
    (beyond : ¬ written.Within (Json.nestingLimit - 1)) : IsRefused value := by
  have name : Json.SaysString ('a' :: '"' :: ':' :: (value ++ ['\x7d'])) (some ['a'])
      (':' :: (value ++ ['\x7d'])) := .plain (by decide) (by decide) (by decide) .close
  have object := Json.Says.object (.last (.member .none name .none .none is .none))
  have isText : Json.IsText (objectText value) (.object [("a", written)]) := by
    refine ⟨_, [], .none, ?_, .none⟩
    rw [objectText, String.toList_ofList]
    exact object
  refine ⟨⟨_, isText⟩, rfl, ?_⟩
  have fails : RuleRow.FailsBy ⟨"p", none, "property", "level", some "raw", some (objectText value)⟩
      .unreadableFields := by
    refine .others .property rfl rfl ?_ fun members other => ?_
    · intro empty
      rw [objectText, ← String.toList_inj, String.toList_ofList] at empty
      cases empty
    · cases isText.unique other.isText
      exact beyond other.within.2.1
  have scope : ((holding value).rowsInScope "p" none).entries =
      [("a", ⟨"p", none, "property", "level", some "raw", some (objectText value)⟩)] := rfl
  have unread : RuleRow.toRule (some "a") _ = .error _ := RuleRow.toRule_eq_error_iff.mpr fails
  rw [query_eq rfl, scope, List.mapM_cons, unread]
  rfl

/-- Objects in JSON are refused for a number beyond all doubles, for half of a pair of units, and for
one level of nesting too many. -/
theorem query_refuses_objects :
    IsRefused "1e999".toList ∧ IsRefused "\"\\ud800\"".toList ∧ IsRefused (nestedText 126) :=
  ⟨isRefused_of_beyond (says_beyond _) nofun, isRefused_of_beyond (says_half _) nofun,
    isRefused_of_beyond (says_nestedText 126 _) (not_within_nested (Nat.le_refl 126))⟩

end Queries

end RowStore

end DeviceMapping
