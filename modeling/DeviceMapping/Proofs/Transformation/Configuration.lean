/-
**A configuration says all of its transformation.**

* `ofConfig_toConfig`: the configuration of a transformation is read as this transformation. Every
  item of a written table is read as its entry, and a formula is made of its source.
* `read?_render_toConfig`: the text of the configuration reads back too. That of a formula always
  does; that of a table does where its targets do, three levels further in (`writable_toConfig`).
* `transformation_withTransformation`, `get?_withTransformation`: a rule gives the transformation
  that it was given, and its other fields stay.
* `transformation_round_trips`: so a transformation survives being written, whichever of the forms
  it was read from.
-/

import DeviceMapping.Proofs.Json.RoundTrip
import DeviceMapping.Proofs.Results
import DeviceMapping.Rule.Basic
import DeviceMapping.Table.Lookup
import DeviceMapping.Transformation.Application

namespace DeviceMapping

/-! ### Configurations -/

theorem EnumEntry.ofItem_toJson (entry : EnumEntry) : ofItem entry.toJson = .ok entry := rfl

namespace Transformation

theorem entriesOf_toJson (entries : List EnumEntry) :
    entriesOf (some (.array (entries.map EnumEntry.toJson))) = .ok entries := by
  have read : (entries.map EnumEntry.toJson).mapM EnumEntry.ofItem = .ok (entries.map id) := by
    rw [List.mapM_map]
    exact mapM_eq_ok fun entry _ => entry.ofItem_toJson
  rwa [List.map_id] at read

theorem ofConfig_toConfig (transformation : Transformation) :
    ofConfig transformation.toConfig = .ok (some transformation) := by
  cases transformation with
  | enumeration entries =>
    have table := congrArg (Except.map fun entries => some (enumeration entries))
      (entriesOf_toJson entries)
    exact table
  | math formula =>
    have same : Formula.compile formula.source = formula := Formula.ext_source rfl
    exact congrArg (fun formula => Except.ok (some (math formula))) same

theorem read_toConfig (transformation : Transformation) :
    read transformation.toConfig = .ok transformation := by
  rw [read, ofConfig_toConfig]

/-! ### Their texts -/

/-- The values that a table gives. -/
def targets : Transformation → List Json
  | enumeration entries => entries.map EnumEntry.target
  | math _ => []

theorem writableItems_toJson {levels : Nat} {entries : List EnumEntry}
    (writable : ∀ entry ∈ entries, entry.target.Writable levels) :
    Json.WritableItems (levels + 1) (entries.map EnumEntry.toJson) := by
  induction entries with
  | nil => trivial
  | cons entry rest ih =>
    obtain ⟨target, later⟩ := List.forall_mem_cons.mp writable
    have sorted : Table.Sorted [("source", Json.string entry.source), ("target", entry.target)] :=
      List.pairwise_pair.mpr (by decide : "source" < "target")
    exact ⟨⟨Nat.succ_pos levels, sorted, trivial, target, trivial⟩, ih later⟩

/-- A configuration is nested three levels deeper than the values of its table. -/
theorem writable_toConfig {levels : Nat} (transformation : Transformation)
    (writable : ∀ target ∈ transformation.targets, target.Writable levels) :
    transformation.toConfig.Writable (levels + 3) := by
  cases transformation with
  | enumeration entries =>
    have items : Json.WritableItems (levels + 1) (entries.map EnumEntry.toJson) :=
      writableItems_toJson fun entry member =>
        writable entry.target (List.mem_map.mpr ⟨entry, member, rfl⟩)
    have sorted : Table.Sorted [("rules", Json.array (entries.map EnumEntry.toJson)),
        ("type", .string "mapping")] :=
      List.pairwise_pair.mpr (by decide : "rules" < "type")
    exact ⟨Nat.succ_pos _, sorted, ⟨Nat.succ_pos _, items⟩, trivial, trivial⟩
  | math formula =>
    have sorted : Table.Sorted [("expression", Json.string formula.source),
        ("type", .string "math")] :=
      List.pairwise_pair.mpr (by decide : "expression" < "type")
    exact ⟨Nat.succ_pos _, sorted, trivial, trivial, trivial⟩

theorem read?_render_toConfig (transformation : Transformation)
    (writable : ∀ target ∈ transformation.targets, target.Writable (Json.nestingLimit - 3)) :
    (Json.read? transformation.toConfig.render).map read = some (.ok transformation) := by
  have config : transformation.toConfig.Writable Json.nestingLimit :=
    writable_toConfig transformation writable
  rw [Json.read?_render config, Option.map_some, read_toConfig]

/-- A configuration is never `null`, so it is not taken for an absent one. -/
theorem ofOthers_of_get? {others : Table Json} {transformation : Transformation}
    (found : others.get? configKey = some transformation.toConfig) :
    ofOthers others = .ok (some transformation) := by
  have config := ofConfig_toConfig transformation
  unfold ofOthers
  rw [found]
  cases transformation with
  | enumeration entries => exact config
  | math formula => exact config

end Transformation

/-! ### Rules -/

namespace Rule

/-- With a transformation, the other fields of a rule are those it had but for one. -/
theorem get?_withTransformation (rule : Rule) (transformation : Transformation) :
    ∃ others, (rule.withTransformation transformation).others = some others ∧
      ∀ key, others.get? key =
        if key = Transformation.configKey then some transformation.toConfig
        else (rule.others.getD .empty).get? key :=
  ⟨_, rfl, fun key => Table.get?_insert (rule.others.getD .empty) Transformation.configKey key _⟩

theorem transformation_withTransformation (rule : Rule) (given : Transformation) :
    (rule.withTransformation given).transformation = .ok (some given) := by
  obtain ⟨others, has, get⟩ := rule.get?_withTransformation given
  have found : others.get? Transformation.configKey = some given.toConfig := by
    rw [get, if_pos rfl]
  rw [Rule.transformation, has]
  exact Transformation.ofOthers_of_get? found

end Rule

namespace Transformation

/-- **A transformation survives its configuration.** Its configuration is read as this
transformation, also where the type must be known; and so is the text of the configuration, if the
values of its table can be read back from where they stand in it, which every formula meets. A rule
that is given a transformation gives it back, keeps all its fields but the others, and of the others
all but the configuration. And whatever configuration a transformation was read from, the one that
is written for it is read as a transformation that does the same to every raw value. -/
theorem transformation_round_trips :
    (∀ transformation : Transformation,
      ofConfig transformation.toConfig = .ok (some transformation) ∧
        read transformation.toConfig = .ok transformation ∧
        ((∀ target ∈ transformation.targets, target.Writable (Json.nestingLimit - 3)) →
          (Json.read? transformation.toConfig.render).map read = some (.ok transformation)) ∧
        ∀ rule : Rule,
          (rule.withTransformation transformation).transformation = .ok (some transformation) ∧
            { rule.withTransformation transformation with others := rule.others } = rule ∧
            ∃ others, (rule.withTransformation transformation).others = some others ∧
              ∀ key, key ≠ configKey → others.get? key = (rule.others.getD .empty).get? key) ∧
    ∀ config transformation, ofConfig config = .ok (some transformation) →
      ∃ again, ofConfig transformation.toConfig = .ok (some again) ∧
        ∀ raw, again.tryApply raw = transformation.tryApply raw ∧
          again.apply raw = transformation.apply raw := by
  constructor
  · intro transformation
    refine ⟨ofConfig_toConfig transformation, read_toConfig transformation,
      read?_render_toConfig transformation, fun rule => ?_⟩
    obtain ⟨others, has, get⟩ := rule.get?_withTransformation transformation
    refine ⟨rule.transformation_withTransformation transformation, rfl, others, has, ?_⟩
    intro key elsewhere
    rw [get, if_neg elsewhere]
  · intro config transformation _
    exact ⟨transformation, ofConfig_toConfig transformation, fun _ => ⟨rfl, rfl⟩⟩

/-- A table that is configured as an object is written as a list, which does the same and whose text
reads back, with `null` and a list among its targets. -/
theorem transformation_round_trips_object :
    let config : Json := .object [("rules", .object [("0", .null), ("1", .array [.bool true])]),
      ("type", .string "mapping")]
    let table := enumeration [⟨"0", .null⟩, ⟨"1", .array [.bool true]⟩]
    ofConfig config = .ok (some table) ∧ table.toConfig ≠ config ∧
      (∃ again, ofConfig table.toConfig = .ok (some again) ∧
        again.apply (.integer 1) = table.apply (.integer 1)) ∧
      (Json.read? table.toConfig.render).map read = some (.ok table) := by
  intro config table
  have accepted : ofConfig config = .ok (some table) := rfl
  obtain ⟨again, read, same⟩ := transformation_round_trips.2 config table accepted
  obtain ⟨-, -, text, -⟩ := transformation_round_trips.1 table
  have different : table.toConfig ≠ config := by
    intro equal
    have shape := congrArg (fun value => ((value.member? "rules").bind Json.items?).isSome) equal
    cases shape
  have list : (Json.array [.bool true]).Writable (Json.nestingLimit - 3) :=
    ⟨by decide, trivial, trivial⟩
  have targets : ∀ target ∈ table.targets, target.Writable (Json.nestingLimit - 3) :=
    List.forall_mem_cons.mpr ⟨trivial, List.forall_mem_singleton.mpr list⟩
  exact ⟨accepted, different, ⟨again, read, (same (.integer 1)).2⟩, text targets⟩

end Transformation

end DeviceMapping
