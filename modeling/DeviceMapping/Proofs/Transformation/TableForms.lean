/-
**The two forms of a table mean the same.**

A table is configured as an object, whose members are its sources with their targets, or as a list of
items, each with a source and a target. A source is looked up by its text, in whichever kind of value
an item spells it.

* `entriesOf_array`, `entriesOf_object`: what the two forms are read as.
* `apply_enumeration`, `lookup_eq_find?`: what a table does to a raw value; `lookup_eq_get?`: where no
  source is listed twice, this does not depend on the order of the entries.
* `table_forms_agree`: a list that spells the members of an object in any order does the same as the
  object; and whatever list of items there is, the first item of a source decides.
-/

import DeviceMapping.Proofs.Results
import DeviceMapping.Table.Lookup
import DeviceMapping.Transformation.Application

namespace DeviceMapping

theorem Json.scalarText?_eq_none_iff {value : Json} : value.scalarText? = none ↔ value = .null := by
  cases value <;> simp [Json.scalarText?]

/-! ### Reading the two forms -/

namespace EnumEntry

/-- The source of an entry with its target. -/
def toPair (entry : EnumEntry) : String × Json :=
  (entry.source, entry.target)

/-- The item has the target of the entry, and a source whose text is that of the entry. -/
structure Spells (item : Json) (entry : EnumEntry) : Prop where
  source : ∃ value, item.member? "source" = some value ∧ value.scalarText? = some entry.source
  target : item.member? "target" = some entry.target

theorem ofItem_of_spells {item : Json} {entry : EnumEntry} (spells : Spells item entry) :
    ofItem item = .ok entry := by
  rw [ofItem, Option.bind_eq_some_iff.mpr spells.source, spells.target]

end EnumEntry

namespace Transformation

theorem entriesOf_array {items : List Json} {entries : List EnumEntry}
    (spelled : List.Forall₂ EnumEntry.Spells items entries) :
    entriesOf (some (.array items)) = .ok entries :=
  mapM_eq_ok_of_forall₂ (spelled.imp fun _ _ spells => EnumEntry.ofItem_of_spells spells)

theorem entriesOf_object (table : Table Json) : ∃ entries,
    entriesOf (some (.ofTable table)) = .ok entries ∧
      entries.map EnumEntry.toPair = table.entries := by
  refine ⟨_, rfl, ?_⟩
  rw [List.map_map]
  exact List.map_id _

/-- The configuration is one of a table, with these rules. -/
structure IsTable (config rules : Json) : Prop where
  type : config.member? "type" = some (.string "mapping")
  rules : config.member? "rules" = some rules

theorem ofConfig_of_isTable {config rules : Json} {entries : List EnumEntry}
    (table : IsTable config rules) (read : entriesOf (some rules) = .ok entries) :
    ofConfig config = .ok (some (enumeration entries)) := by
  obtain ⟨type, listed⟩ := table
  cases config with
  | object members =>
    have type' : members.lookup "type" = some (.string "mapping") := type
    have listed' : members.lookup "rules" = some rules := listed
    rw [ofConfig, type', listed', read]
    rfl
  | null | bool | integer | double | string | array => cases type

/-! ### Looking up a raw value -/

section Lookup

variable {entries : List EnumEntry} {raw : Json} {text : String}

/-- A table never fails; it does not change `null`. -/
theorem apply_enumeration (entries : List EnumEntry) (raw : Json) :
    (enumeration entries).apply raw = ⟨lookup entries raw, false⟩ := by
  cases raw <;> rfl

theorem lookup_null (entries : List EnumEntry) : lookup entries .null = .null := rfl

/-- A table gives the target of the first entry whose source is the text of the raw value. -/
theorem lookup_eq_find? (spelled : raw.scalarText? = some text) :
    lookup entries raw =
      ((entries.find? fun entry => entry.source == text).map EnumEntry.target).getD raw := by
  rw [lookup, spelled]
  dsimp only
  cases entries.find? fun entry => entry.source == text with
  | none => rfl
  | some entry => rfl

theorem lookup_of_split {before after : List EnumEntry} {entry : EnumEntry}
    (spelled : raw.scalarText? = some text) (split : entries = before ++ entry :: after)
    (isSource : entry.source = text) (first : ∀ earlier ∈ before, earlier.source ≠ text) :
    lookup entries raw = entry.target := by
  have found : (entries.find? fun entry => entry.source == text) = some entry := by
    refine List.find?_eq_some_iff_append.mpr ⟨beq_iff_eq.mpr isSource, before, after, split, ?_⟩
    intro earlier member
    simpa using first earlier member
  rw [lookup_eq_find? spelled, found, Option.map_some, Option.getD_some]

theorem lookup_of_absent (spelled : raw.scalarText? = some text)
    (absent : ∀ entry ∈ entries, entry.source ≠ text) : lookup entries raw = raw := by
  have missing : (entries.find? fun entry => entry.source == text) = none := by
    refine List.find?_eq_none.mpr fun entry member => ?_
    simpa using absent entry member
  rw [lookup_eq_find? spelled, missing, Option.map_none, Option.getD_none]

theorem lookup_toPair (entries : List EnumEntry) (text : String) :
    (entries.map EnumEntry.toPair).lookup text =
      (entries.find? fun entry => entry.source == text).map EnumEntry.target := by
  induction entries with
  | nil => rfl
  | cons entry rest ih =>
    rw [List.map_cons, Table.lookup_cons, List.find?_cons]
    by_cases same : entry.source = text
    · rw [if_pos (show text = entry.toPair.1 from same.symm), beq_iff_eq.mpr same]
      rfl
    · rw [if_neg fun equal => same equal.symm, beq_eq_false_iff_ne.mpr same]
      exact ih

/-- The order of the entries does not matter where no source is listed twice. -/
theorem lookup_eq_get? {table : Table Json}
    (same : (entries.map EnumEntry.toPair).Perm table.entries)
    (spelled : raw.scalarText? = some text) :
    lookup entries raw = (table.get? text).getD raw := by
  have nodup : ((entries.map EnumEntry.toPair).map (·.1)).Nodup :=
    (same.symm.map (·.1)).nodup (Table.nodup_of_sorted table.sorted)
  rw [lookup_eq_find? spelled, ← lookup_toPair, Table.lookup_of_perm same nodup, Table.get?]

theorem lookup_congr {others : List EnumEntry} {table : Table Json}
    (same : (entries.map EnumEntry.toPair).Perm table.entries)
    (same' : (others.map EnumEntry.toPair).Perm table.entries) (raw : Json) :
    lookup entries raw = lookup others raw := by
  cases spelled : raw.scalarText? with
  | none => rw [Json.scalarText?_eq_none_iff.mp spelled, lookup_null, lookup_null]
  | some text => rw [lookup_eq_get? same spelled, lookup_eq_get? same' spelled]

end Lookup

/-- **The two forms of a table mean the same.** The configuration of a table as an object, and one as
a list of items that spell the members of the object in any order, are both read as transformations
that do the same to every raw value: neither fails, `null` stays `null`, and any other value becomes
the target that the table has for its text, or stays as it is if there is none. Of any list of items
the first one whose source has the text of the raw value decides. -/
theorem table_forms_agree :
    (∀ (table : Table Json) (items : List Json) (entries : List EnumEntry) (object list : Json),
      IsTable object (.ofTable table) → IsTable list (.array items) →
      List.Forall₂ EnumEntry.Spells items entries →
      (entries.map EnumEntry.toPair).Perm table.entries →
        ∃ ofObject ofList, ofConfig object = .ok (some ofObject) ∧
          ofConfig list = .ok (some ofList) ∧ ∀ raw,
            ofList.apply raw = ofObject.apply raw ∧ (ofObject.apply raw).failed = false ∧
            (raw = .null → (ofObject.apply raw).value = .null) ∧
            ∀ text, raw.scalarText? = some text →
              (ofObject.apply raw).value = (table.get? text).getD raw) ∧
    ∀ (items : List Json) (entries : List EnumEntry) (list : Json), IsTable list (.array items) →
      List.Forall₂ EnumEntry.Spells items entries →
        ∃ ofList, ofConfig list = .ok (some ofList) ∧
          ∀ raw text, raw.scalarText? = some text →
            (∀ before entry after, entries = before ++ entry :: after → entry.source = text →
              (∀ earlier ∈ before, earlier.source ≠ text) →
                ofList.apply raw = ⟨entry.target, false⟩) ∧
            ((∀ entry ∈ entries, entry.source ≠ text) → ofList.apply raw = ⟨raw, false⟩) := by
  constructor
  · intro table items entries object list isObject isList spelled same
    obtain ⟨members, read, listed⟩ := entriesOf_object table
    have same' : (members.map EnumEntry.toPair).Perm table.entries := listed ▸ .refl _
    refine ⟨_, _, ofConfig_of_isTable isObject read,
      ofConfig_of_isTable isList (entriesOf_array spelled), fun raw => ?_⟩
    rw [apply_enumeration, apply_enumeration, lookup_congr same same' raw]
    refine ⟨rfl, rfl, ?_, fun text isText => lookup_eq_get? same' isText⟩
    rintro rfl
    exact lookup_null members
  · intro items entries list isList spelled
    refine ⟨_, ofConfig_of_isTable isList (entriesOf_array spelled), fun raw text isText => ?_⟩
    rw [apply_enumeration]
    constructor
    · intro before entry after split isSource first
      rw [lookup_of_split isText split isSource first]
    · intro absent
      rw [lookup_of_absent isText absent]

/-- An item of a list. -/
def tableItem (source target : Json) : Json :=
  .object [("source", source), ("target", target)]

/-- A configuration of a table. -/
def tableConfig (rules : Json) : Json :=
  .object [("rules", rules), ("type", .string "mapping")]

/-- A list whose sources are a truth value and a number means the same as the object with their texts
as its members; where another item has the same text as its source, the first one decides. -/
theorem table_forms_agree_mixed :
    let table : Table Json := .ofList [("1", .string "on"), ("true", .null)]
    let items := [tableItem (.bool true) .null, tableItem (.integer 1) (.string "on")]
    let entries : List EnumEntry := [⟨"true", .null⟩, ⟨"1", .string "on"⟩]
    let later := tableItem (.string "1") (.string "off")
    List.Forall₂ EnumEntry.Spells items entries ∧
      (entries.map EnumEntry.toPair).Perm table.entries ∧
      (∃ ofObject ofList, ofConfig (tableConfig (.ofTable table)) = .ok (some ofObject) ∧
        ofConfig (tableConfig (.array items)) = .ok (some ofList) ∧
          ofList.apply (.integer 1) = ofObject.apply (.integer 1) ∧
            (ofObject.apply (.integer 1)).value = .string "on") ∧
      ∃ ofList, ofConfig (tableConfig (.array (items ++ [later]))) = .ok (some ofList) ∧
        ofList.apply (.string "1") = ⟨.string "on", false⟩ := by
  intro table items entries later
  have isOn : EnumEntry.Spells (tableItem (.integer 1) (.string "on")) ⟨"1", .string "on"⟩ :=
    ⟨⟨_, rfl, rfl⟩, rfl⟩
  have isNull : EnumEntry.Spells (tableItem (.bool true) .null) ⟨"true", .null⟩ :=
    ⟨⟨_, rfl, rfl⟩, rfl⟩
  have isOff : List.Forall₂ EnumEntry.Spells [later] [⟨"1", .string "off"⟩] :=
    .cons ⟨⟨_, rfl, rfl⟩, rfl⟩ .nil
  have spelled : List.Forall₂ EnumEntry.Spells items entries := .cons isNull (.cons isOn .nil)
  have same : (entries.map EnumEntry.toPair).Perm table.entries := List.Perm.swap _ _ _
  have isTable : ∀ rules, IsTable (tableConfig rules) rules := fun rules => ⟨rfl, rfl⟩
  obtain ⟨ofObject, ofList, object, list, agree⟩ :=
    table_forms_agree.1 table items entries _ _ (isTable _) (isTable _) spelled same
  obtain ⟨equal, -, -, known⟩ := agree (.integer 1)
  obtain ⟨ofRepeated, repeated, decides⟩ :=
    table_forms_agree.2 (items ++ [later]) _ _ (isTable _) (List.rel_append spelled isOff)
  refine ⟨spelled, same, ⟨ofObject, ofList, object, list, equal, known "1" rfl⟩,
    ofRepeated, repeated, ?_⟩
  refine (decides (.string "1") "1" rfl).1 [⟨"true", .null⟩] ⟨"1", .string "on"⟩ _ rfl rfl ?_
  exact List.forall_mem_singleton.mpr (by decide)

end Transformation

end DeviceMapping
