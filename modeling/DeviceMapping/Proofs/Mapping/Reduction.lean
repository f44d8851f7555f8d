/-
**Which rule wins an element.**

* `winner?`: of the rules for an element the first one of a device, or else the first one.
* `get?_reduceRules`: this is the rule that reducing a list leaves for the element.
* `winner?_filter`: rules that are left out change the winner only if it is one of them.
-/

import DeviceMapping.Mapping.Resolution
import DeviceMapping.Table.Lookup

namespace DeviceMapping.Resolution

/-- The rule is for an element. -/
def isFor (element : String) (rule : Rule) : Bool :=
  rule.metadataId == element

/-- The rule is for an element and of a device. -/
def isOwnFor (element : String) (rule : Rule) : Bool :=
  isFor element rule && rule.isDeviceScoped

theorem isFor_iff {element : String} {rule : Rule} :
    isFor element rule = true ↔ rule.metadataId = element :=
  beq_iff_eq

theorem isOwnFor_iff {element : String} {rule : Rule} : isOwnFor element rule = true ↔
    rule.metadataId = element ∧ rule.isDeviceScoped = true := by
  rw [isOwnFor, Bool.and_eq_true, isFor_iff]

/-- The first rule of a device for an element, or else the first rule for it. -/
def winner? (rules : List Rule) (element : String) : Option Rule :=
  (rules.find? (isOwnFor element)).or (rules.find? (isFor element))

/-! ### Reducing a list -/

theorem get?_addRule (chosen : Table Rule) (rule : Rule) (element : String) :
    (addRule chosen rule).get? element =
      if isFor element rule then
        ((chosen.get? element).filter Rule.isDeviceScoped).or
          ((if rule.isDeviceScoped then some rule else chosen.get? element).or (some rule))
      else chosen.get? element := by
  unfold addRule isFor
  by_cases same : rule.metadataId = element
  · subst same
    rw [if_pos (beq_self_eq_true _)]
    cases found : chosen.get? rule.metadataId with
    | none => cases own : rule.isDeviceScoped <;> simp
    | some held => cases own : rule.isDeviceScoped <;> cases own' : held.isDeviceScoped <;>
        simp [Option.filter_some, found, own']
  · have other : element ≠ rule.metadataId := fun equal => same equal.symm
    rw [if_neg (by simpa using same)]
    cases chosen.get? rule.metadataId with
    | none => simp [other]
    | some held =>
      dsimp only
      split
      · simp [other]
      · rfl

/-- The rule chosen so far stays if it is of a device; else the first rule of a device counts, then
the one chosen so far, then the first one. -/
theorem get?_foldl_addRule (rules : List Rule) (chosen : Table Rule) (element : String) :
    (rules.foldl addRule chosen).get? element =
      ((chosen.get? element).filter Rule.isDeviceScoped).or
        ((rules.find? (isOwnFor element)).or
          ((chosen.get? element).or (rules.find? (isFor element)))) := by
  induction rules generalizing chosen with
  | nil => cases found : chosen.get? element with
    | none => simp [found]
    | some held => cases own : held.isDeviceScoped <;> simp [Option.filter_some, found, own]
  | cons rule rest ih =>
    rw [List.foldl_cons, ih, get?_addRule, List.find?_cons, List.find?_cons, isOwnFor]
    cases isFor element rule with
    | false => simp
    | true => cases chosen.get? element with
      | none => cases own : rule.isDeviceScoped <;> simp [Option.filter_some, own]
      | some held => cases own : rule.isDeviceScoped <;> cases own' : held.isDeviceScoped <;>
          simp [Option.filter_some, own, own']

/-- Reducing a list leaves the winner of each element. -/
theorem get?_reduceRules (rules : List Rule) (element : String) :
    (reduceRules rules).get? element = winner? rules element :=
  get?_foldl_addRule rules .empty element

/-! ### Leaving rules out -/

section Filter

variable {rules : List Rule} {element : String} {keep : Rule → Bool}

/-- The first rule that passes a test is still the first one if it is kept. -/
theorem find?_filter_of_some {test : Rule → Bool} {rule : Rule}
    (found : rules.find? test = some rule) (kept : keep rule = true) :
    (rules.filter keep).find? test = some rule := by
  obtain ⟨passes, before, after, rfl, notBefore⟩ := List.find?_eq_some_iff_append.mp found
  rw [List.filter_append, List.filter_cons_of_pos kept, List.find?_append]
  have none : (before.filter keep).find? test = none :=
    List.find?_eq_none.mpr fun other member => by
      simpa using notBefore other (List.mem_filter.mp member).1
  rw [none, Option.none_or, List.find?_cons_of_pos passes]

theorem find?_filter_of_none {test : Rule → Bool} (missing : rules.find? test = none) :
    (rules.filter keep).find? test = none :=
  List.find?_eq_none.mpr fun other member =>
    List.find?_eq_none.mp missing other (List.mem_filter.mp member).1

/-- The winner stays the winner when other rules are left out. -/
theorem winner?_filter {rule : Rule} (wins : winner? rules element = some rule)
    (kept : keep rule = true) : winner? (rules.filter keep) element = some rule := by
  unfold winner? at wins ⊢
  cases own : rules.find? (isOwnFor element) with
  | some first =>
    rw [own, Option.some_or] at wins
    cases wins
    rw [find?_filter_of_some own kept, Option.some_or]
  | none =>
    rw [own, Option.none_or] at wins
    rw [find?_filter_of_none own, Option.none_or, find?_filter_of_some wins kept]

theorem winner?_filter_of_none (missing : winner? rules element = none) :
    winner? (rules.filter keep) element = none := by
  unfold winner? at missing ⊢
  obtain ⟨own, any⟩ := Option.or_eq_none_iff.mp missing
  rw [find?_filter_of_none own, find?_filter_of_none any]
  rfl

end Filter

end DeviceMapping.Resolution
