/-
**Which rule wins, and that the order of the rules hardly matters.**

* `Wins`: the rule that an element is left with, said of the list alone: the first one of a device,
  or else the first one. `wins_iff` ties it to the reduction.
* `map_isDeviceScoped_winner?`: whether an element is left with a rule of a device depends on which
  rules there are and not on their order.
* `winner?_of_perm`: where the rules of one element and one kind of scope are all the same rule, so
  does the rule itself.
* `device_rules_win`: all of it for the reduced list.
-/

import DeviceMapping.Proofs.Mapping.Resolution

namespace DeviceMapping.Resolution

/-- The rule that an element is left with: the first one of a device, or else, where no rule for the
element is of a device, the first one. -/
inductive Wins (rules : List Rule) (element : String) (rule : Rule) : Prop
  | own {before after : List Rule} (split : rules = before ++ rule :: after)
      (isFor : rule.metadataId = element) (ofDevice : rule.isDeviceScoped = true)
      (first : ∀ other ∈ before, other.metadataId = element → other.isDeviceScoped = false)
  | shared {before after : List Rule} (split : rules = before ++ rule :: after)
      (isFor : rule.metadataId = element)
      (noOwn : ∀ other ∈ rules, other.metadataId = element → other.isDeviceScoped = false)
      (first : ∀ other ∈ before, other.metadataId ≠ element)

section Winner

variable {rules others : List Rule} {element : String}

theorem isOwnFor_eq_false_iff {rule : Rule} : isOwnFor element rule = false ↔
    (rule.metadataId = element → rule.isDeviceScoped = false) := by
  rw [← Bool.not_eq_true, isOwnFor_iff, not_and, Bool.not_eq_true]

theorem find?_isOwnFor_eq_none_iff : rules.find? (isOwnFor element) = none ↔
    ∀ other ∈ rules, other.metadataId = element → other.isDeviceScoped = false := by
  rw [List.find?_eq_none]
  simp only [Bool.not_eq_true, isOwnFor_eq_false_iff]

theorem find?_isOwnFor_eq_some_iff {rule : Rule} :
    rules.find? (isOwnFor element) = some rule ↔
      rule.metadataId = element ∧ rule.isDeviceScoped = true ∧
        ∃ before after, rules = before ++ rule :: after ∧
          ∀ other ∈ before, other.metadataId = element → other.isDeviceScoped = false := by
  rw [List.find?_eq_some_iff_append, isOwnFor_iff, and_assoc]
  simp only [Bool.not_eq_true', isOwnFor_eq_false_iff]

theorem find?_isFor_eq_some_iff {rule : Rule} :
    rules.find? (isFor element) = some rule ↔
      rule.metadataId = element ∧ ∃ before after, rules = before ++ rule :: after ∧
        ∀ other ∈ before, other.metadataId ≠ element := by
  rw [List.find?_eq_some_iff_append, isFor_iff]
  simp only [isFor, Bool.not_eq_true', beq_eq_false_iff_ne]

/-- The winner as the reduction finds it is the one that the list alone determines. -/
theorem wins_iff {rule : Rule} : Wins rules element rule ↔ winner? rules element = some rule := by
  rw [winner?, Option.or_eq_some_iff, find?_isOwnFor_eq_some_iff, find?_isOwnFor_eq_none_iff,
    find?_isFor_eq_some_iff]
  constructor
  · intro wins
    cases wins with
    | own split isFor ofDevice first => exact .inl ⟨isFor, ofDevice, _, _, split, first⟩
    | shared split isFor noOwn first => exact .inr ⟨noOwn, isFor, _, _, split, first⟩
  · rintro (⟨isFor, ofDevice, before, after, split, first⟩ |
      ⟨noOwn, isFor, before, after, split, first⟩)
    · exact .own split isFor ofDevice first
    · exact .shared split isFor noOwn first

/-- An element is left with a rule exactly if there is one for it. -/
theorem isSome_winner? (rules : List Rule) (element : String) :
    (winner? rules element).isSome = rules.any (isFor element) := by
  rw [Bool.eq_iff_iff, winner?, Option.isSome_or, Bool.or_eq_true, List.find?_isSome,
    List.find?_isSome, List.any_eq_true]
  constructor
  · rintro (⟨rule, member, isOwnFor⟩ | found)
    · exact ⟨rule, member, isFor_iff.mpr (isOwnFor_iff.mp isOwnFor).1⟩
    · exact found
  · exact .inr

/-- An element is left with a rule of a device exactly if there is one. -/
theorem isDeviceScoped_of_wins {winner : Rule} (wins : Wins rules element winner) :
    winner.isDeviceScoped = rules.any (isOwnFor element) := by
  cases wins with
  | own split isFor ofDevice _ =>
    have member : winner ∈ rules := split ▸ List.mem_append_right _ List.mem_cons_self
    rw [ofDevice]
    exact (List.any_eq_true.mpr ⟨winner, member, isOwnFor_iff.mpr ⟨isFor, ofDevice⟩⟩).symm
  | shared split isFor noOwn _ =>
    have member : winner ∈ rules := split ▸ List.mem_append_right _ List.mem_cons_self
    rw [noOwn winner member isFor]
    refine (List.any_eq_false.mpr fun other listed => ?_).symm
    rw [Bool.not_eq_true, isOwnFor_eq_false_iff]
    exact noOwn other listed

/-- Which kind of scope an element is left with depends on which rules there are. -/
theorem map_isDeviceScoped_winner? (rules : List Rule) (element : String) :
    (winner? rules element).map Rule.isDeviceScoped =
      if rules.any (isFor element) then some (rules.any (isOwnFor element)) else none := by
  rw [← isSome_winner?]
  cases wins : winner? rules element with
  | none => rfl
  | some winner =>
    rw [Option.map_some, Option.isSome_some, if_pos rfl, isDeviceScoped_of_wins (wins_iff.mpr wins)]

/-! ### Other orders of the list -/

theorem map_isDeviceScoped_of_perm (perm : others.Perm rules) :
    (winner? others element).map Rule.isDeviceScoped =
      (winner? rules element).map Rule.isDeviceScoped := by
  rw [map_isDeviceScoped_winner?, map_isDeviceScoped_winner?, perm.any_eq, perm.any_eq]

/-- Two rules of one element and one kind of scope are the same rule. -/
def OnePerScope (rules : List Rule) : Prop :=
  ∀ first ∈ rules, ∀ second ∈ rules, first.metadataId = second.metadataId →
    first.isDeviceScoped = second.isDeviceScoped → first = second

/-- Where no two rules share their element and kind of scope, their order does not matter. -/
theorem winner?_of_perm (perm : others.Perm rules) (single : OnePerScope rules) :
    winner? others element = winner? rules element := by
  have kind : (winner? others element).map Rule.isDeviceScoped =
      (winner? rules element).map Rule.isDeviceScoped := map_isDeviceScoped_of_perm perm
  cases wins : winner? others element with
  | none =>
    rw [wins] at kind
    exact (Option.map_eq_none_iff.mp kind.symm).symm
  | some winner =>
    rw [wins] at kind
    obtain ⟨other, wins', sameKind⟩ := Option.map_eq_some_iff.mp kind.symm
    -- both winners are rules of the list, for one element and of one kind of scope
    obtain ⟨member, named⟩ := mem_of_winner? wins
    obtain ⟨member', named'⟩ := mem_of_winner? wins'
    rw [wins', single winner (perm.mem_iff.mp member) other member' (named.trans named'.symm)
      sameKind.symm]

end Winner

/-- **The rules of devices win in every order.** Reducing a list of rules leaves one rule for each
element that a rule of the list is for, and that is the first rule of a device for the element if
there is any, else the first rule for it. So in every other order of the list the element is left
with a rule of the same kind of scope; and with the same rule, where no two rules of the list share
both their element and their kind of scope. -/
theorem device_rules_win (rules : List Rule) :
    (∀ element, (reduceRules rules).contains element = true ↔
      ∃ rule ∈ rules, rule.metadataId = element) ∧
    (∀ element rule, (reduceRules rules).get? element = some rule ↔ Wins rules element rule) ∧
    ∀ others, others.Perm rules →
      (∀ element, ((reduceRules others).get? element).map Rule.isDeviceScoped =
        ((reduceRules rules).get? element).map Rule.isDeviceScoped) ∧
      (OnePerScope rules → reduceRules others = reduceRules rules) := by
  refine ⟨fun element => ?_, fun element rule => ?_, fun others perm => ⟨fun element => ?_, ?_⟩⟩
  · rw [Table.contains, get?_reduceRules, isSome_winner?, List.any_eq_true]
    simp only [isFor_iff]
  · rw [get?_reduceRules, wins_iff]
  · rw [get?_reduceRules, get?_reduceRules]
    exact map_isDeviceScoped_of_perm perm
  · intro single
    apply Table.ext_get?
    intro element
    rw [get?_reduceRules, get?_reduceRules]
    exact winner?_of_perm perm single

/-- Of the rules for the power of a lamp its own one is left, although it comes last; the other way
round the list comes to the same. -/
theorem device_rules_win_reversed :
    let power := Rule.forProduct "lamps" "power" "switch"
    let own := Rule.forDevice "lamps" "lamp" "power" "button"
    let level := Rule.forProduct "lamps" "level" "dim"
    let rules := [power, level, own]
    rules.reverse.Perm rules ∧ OnePerScope rules ∧
      (reduceRules rules).contains "level" = true ∧ (reduceRules rules).get? "power" = some own ∧
        reduceRules rules.reverse = reduceRules rules := by
  intro power own level rules
  obtain ⟨contains_iff, wins_iff, ordered⟩ := device_rules_win rules
  have perm : rules.reverse.Perm rules := List.reverse_perm rules
  have single : OnePerScope rules := by
    simp [OnePerScope, rules, power, own, level, Rule.forDevice, Rule.forProduct,
      Rule.isDeviceScoped]
  have listed : level ∈ rules := List.mem_cons_of_mem power List.mem_cons_self
  have split : rules = [power, level] ++ own :: [] := rfl
  have wins : Wins rules "power" own := by
    refine .own split rfl rfl fun other before _ => ?_
    simp only [List.mem_cons, List.not_mem_nil, or_false] at before
    rcases before with rfl | rfl
    · rfl
    · rfl
  exact ⟨perm, single, (contains_iff "level").mpr ⟨level, listed, rfl⟩,
    (wins_iff "power" own).mpr wins, (ordered rules.reverse perm).2 single⟩

end DeviceMapping.Resolution
