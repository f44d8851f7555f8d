/-
**The rule store in a database.**

Each rule is a row of columns, the other fields as JSON text; a row read back may hold anything that
the columns admit, so reading a row can fail. Rows are ordered by id; those without one come first,
and of these the ones without a device. An absent id is read as the empty text. A saved rule that
belongs to no device has no device id in its row.
-/

import DeviceMapping.Store.Basic
import DeviceMapping.Json.Reader

namespace DeviceMapping

/-- A row without its id. -/
structure RuleRow where
  productId : String
  deviceId : Option String
  metadataType : String
  metadataId : String
  rawKey : Option String
  others : Option String

/-- The columns of a row as anything may write them, each with a value or without. -/
structure RuleColumns where
  id : Option String
  productId : Option String
  deviceId : Option String
  metadataType : Option String
  metadataId : Option String
  rawKey : Option String
  others : Option String

/-- The row of columns, if product, type and element have values. -/
def RuleColumns.row? (columns : RuleColumns) : Option RuleRow := do
  some ⟨← columns.productId, columns.deviceId, ← columns.metadataType, ← columns.metadataId,
    columns.rawKey, columns.others⟩

namespace RuleRow

/-- The row of a rule. -/
def ofRule (rule : Rule) : RuleRow where
  productId := rule.productId
  deviceId := if rule.isDeviceScoped then rule.deviceId else none
  metadataType := rule.metadataType.name
  metadataId := rule.metadataId
  rawKey := rule.rawKey
  others := rule.others.map fun others => (Json.ofTable others).render

/-- The other fields in the text of a column; none when it is empty. -/
def readOthers : Option String → Except StoreError (Option (Table Json))
  | none => .ok none
  | some text =>
    if text = "" then .ok none
    else match (Json.read? text).bind Json.members? with
      | some members => .ok (some (Table.ofList members))
      | none => .error .unreadableFields

/-- The rule of a row: its type is looked at first, then its other fields. -/
def toRule (id : Option String) (row : RuleRow) : Except StoreError Rule := do
  let type ← match MetadataType.ofName? row.metadataType with
    | some type => .ok type
    | none => .error (.invalidRule (.unknownMetadataType row.metadataType))
  let others ← readOthers row.others
  .ok ⟨some (id.getD ""), row.productId, row.deviceId, type, row.metadataId, row.rawKey, others⟩

/-- The row is in scope for a product, or for a device of it. -/
def inScope (productId : String) (deviceId : Option String) (row : RuleRow) : Bool :=
  row.productId == productId && (row.deviceId.isNone || row.deviceId == deviceId)

/-- The row belongs to a product, or to a device of it, itself. -/
def belongsTo (productId : String) (deviceId : Option String) (row : RuleRow) : Bool :=
  row.productId == productId && row.deviceId == deviceId

end RuleRow

/-- The rows without an id in the order they came, and the others by id. -/
structure RowStore where
  unnamed : List RuleRow
  rows : Table RuleRow

namespace RowStore

def empty : RowStore := ⟨[], .empty⟩

/-- The rows with their ids, in order. -/
def listing (store : RowStore) : List (Option String × RuleRow) :=
  let (shared, owned) := store.unnamed.partition fun row => row.deviceId.isNone
  (shared ++ owned).map (none, ·) ++ store.rows.entries.map fun entry => (some entry.1, entry.2)

/-- The number of rows. -/
def size (store : RowStore) : Nat :=
  store.unnamed.length + store.rows.size

/-- The rules of the rows in scope; the first row that cannot be read decides the error. -/
def query (store : RowStore) (productId : String) (deviceId : Option String) :
    Except StoreError (List Rule) :=
  (store.listing.filter fun row => row.2.inScope productId deviceId).mapM fun row =>
    row.2.toRule row.1

/-- The store with the row of one more rule, in place of the row of its key. -/
def insert (store : RowStore) (rule : Rule) : RowStore :=
  { store with rows := store.rows.insert rule.key (.ofRule rule) }

def save (store : RowStore) (rules : List Rule) : RowStore × Written :=
  (rules.foldl insert store, .signalling rules.length .saved)

def deleteByIds (store : RowStore) (ids : List String) : RowStore × Written :=
  let rest := { store with rows := ids.foldl Table.erase store.rows }
  (rest, .signalling (store.size - rest.size) .deleted)

def deleteByScope (store : RowStore) (productId : String) (deviceId : Option String) :
    RowStore × Written :=
  let rest : RowStore :=
    ⟨store.unnamed.filter fun row => !row.belongsTo productId deviceId,
      store.rows.filter fun _ row => !row.belongsTo productId deviceId⟩
  (rest, .signalling (store.size - rest.size) .deleted)

/-- Adds a row as it is; a taken id and an absent value in a column that must have one are
refused. -/
def insertColumns (store : RowStore) (columns : RuleColumns) : Except StoreError RowStore :=
  match columns.row?, columns.id with
  | none, _ => .error .database
  | some row, none => .ok { store with unnamed := store.unnamed ++ [row] }
  | some row, some id =>
    if store.rows.contains id then .error .database
    else .ok { store with rows := store.rows.insert id row }

instance : RuleStore RowStore where
  answersAtOnce := false
  query := query
  save := save
  deleteByIds := deleteByIds
  deleteByScope := deleteByScope

end RowStore

end DeviceMapping
