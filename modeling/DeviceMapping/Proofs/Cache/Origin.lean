/-
**Where slots and results come from.**

* `Inherits before after`: every slot names the load that the slot of its device named before. Only
  the beginning of a load breaks this, and then the slot names the new load (`origin_of_slot`).
* `origin_of_result`: after an event a load has the result it had before, or the one the event
  ended it with.
-/

import DeviceMapping.Proofs.Cache.Calls

namespace DeviceMapping.Cache

variable {α : Type}

/-! ### Slots -/

/-- Every slot names the load that the slot of its device named before. -/
def Inherits (before after : Table (Slot α)) : Prop :=
  ∀ device slot, after.get? device = some slot →
    ∃ old, before.get? device = some old ∧ old.load = slot.load

theorem Inherits.refl (slots : Table (Slot α)) : Inherits slots slots :=
  fun _ slot found => ⟨slot, found, rfl⟩

theorem Inherits.trans {first second third : Table (Slot α)} (before : Inherits first second)
    (after : Inherits second third) : Inherits first third := by
  intro device slot found
  obtain ⟨middle, found', same⟩ := after device slot found
  obtain ⟨old, found'', same'⟩ := before device middle found'
  exact ⟨old, found'', same'.trans same⟩

theorem Thinned.inherits {before after : Table (Slot α)} (thinned : Thinned before after) :
    Inherits before after :=
  fun _ slot found => ⟨slot, thinned.get?_of_some found, rfl⟩

/-- A slot may be filled anew as long as it names the same load. -/
theorem inherits_insert {slots : Table (Slot α)} {device : String} {old new : Slot α}
    (found : slots.get? device = some old) (same : old.load = new.load) :
    Inherits slots (slots.insert device new) := by
  intro other slot found'
  rw [Table.get?_insert] at found'
  by_cases here : other = device
  · rw [if_pos here] at found'
    cases found'
    exact ⟨old, here ▸ found, same⟩
  · rw [if_neg here] at found'
    exact ⟨slot, found', rfl⟩

theorem inherits_store (cache : Cache α) (device : String) (load : Nat) (value : α) :
    Inherits cache.slots (cache.store device load value).slots := by
  by_cases held : cache.slots.get? device = some (.loading load)
  · have filled : Inherits cache.slots (cache.slots.insert device
        (.ready ⟨value, load, cache.now, cache.now⟩)) := inherits_insert held rfl
    exact filled.trans (store_of_held held).inherits
  · rw [store_of_not_held held]
    exact .refl _

theorem inherits_fail (cache : Cache α) (device : String) (load : Nat) :
    Inherits cache.slots (cache.fail device load).slots := by
  by_cases held : cache.slots.get? device = some (.loading load)
  · rw [slots_fail_of_held held]
    intro other slot found
    rw [Table.get?_erase] at found
    split at found
    · cases found
    · exact ⟨slot, found, rfl⟩
  · rw [slots_fail_of_not_held held]
    exact .refl _

section Changes

variable {cache after : Cache α} {event : Event α}

/-- A slot names the load it named before the event, or the load that the event began. -/
theorem origin_of_slot (change : Change cache event after) {device : String} {slot : Slot α}
    (found : after.slots.get? device = some slot) :
    (∃ old, cache.slots.get? device = some old ∧ old.load = slot.load) ∨
      slot.load = cache.loads.length := by
  cases change with
  | hit _ entry ready fresh | found _ entry ready fresh =>
    have inherits : Inherits cache.slots (cache.touch _ entry).slots := inherits_insert ready rfl
    exact .inl (inherits device slot found)
  | began owner free expired =>
    replace found : (cache.slots.insert owner _).get? device = some slot := found
    rw [Table.get?_insert] at found
    by_cases same : device = owner
    · rw [if_pos same] at found
      cases found
      exact .inr rfl
    · rw [if_neg same] at found
      exact .inl ⟨slot, found, rfl⟩
  | dropped => cases found
  | purged => exact .inl ((thinned_purgeExpired cache).inherits device slot found)
  | stored load owner value running =>
    have inherits := inherits_store (cache.withAnswer load (.ok value)) owner load value
    exact .inl (inherits device slot found)
  | failed load owner fault running =>
    have inherits := inherits_fail (cache.withAnswer load (.error fault)) owner load
    exact .inl (inherits device slot found)
  | noticed call load owner waiting unknown =>
    have inherits := inherits_fail (cache.setPhase load (.crashed true)) owner load
    exact .inl (inherits device slot found)
  | joined | missed | advanced | granted | refused | unfinished | crashed | uncrashed | taken
    | untaken | abandoned | unabandoned => exact .inl ⟨slot, found, rfl⟩

/-! ### Results -/

/-- Where one load changes its phase, the others keep their results. -/
theorem resultOf_setPhase {cache after : Cache α} {load : Nat} {phase : Phase α}
    (loads : after.loads = (cache.setPhase load phase).loads) {other : Nat}
    {result : Except MappingError α} (ended : after.resultOf other = some result) :
    cache.resultOf other = some result ∨ load = other ∧ phase.result? = some result := by
  by_cases same : load = other
  · refine .inr ⟨same, ?_⟩
    unfold resultOf at ended
    rw [loads, getElem?_setPhase, if_pos same] at ended
    obtain ⟨_, changed, is⟩ := Option.bind_eq_some_iff.mp ended
    obtain ⟨_, _, rfl⟩ := Option.map_eq_some_iff.mp changed
    exact is
  · refine .inl ?_
    unfold resultOf at ended ⊢
    rw [loads, getElem?_setPhase, if_neg same] at ended
    exact ended

/-- A load that begins has no result. -/
theorem resultOf_of_began {device : String} {load : Nat} {result : Except MappingError α}
    (ended : (cache.startLoad device).resultOf load = some result) :
    cache.resultOf load = some result := by
  obtain ⟨begun, found, is⟩ := Option.bind_eq_some_iff.mp ended
  replace found : (cache.loads ++ [⟨device, .queued⟩])[load]? = some begun := found
  rw [List.getElem?_append] at found
  split at found
  · rw [resultOf_of_getElem? found]
    exact is
  · have isNew := List.mem_singleton.mp (List.mem_of_getElem? found)
    subst isNew
    cases is

/-- A load has the result it had before the event, or the event ended it. -/
theorem origin_of_result (change : Change cache event after) {load : Nat}
    {result : Except MappingError α} (ended : after.resultOf load = some result) :
    cache.resultOf load = some result ∨ event = .finish load result ∨ event = .crash load := by
  cases change with
  | began device free expired => exact .inl (resultOf_of_began ended)
  | granted other device queued free =>
    rcases resultOf_setPhase rfl ended with before | ⟨_, nothing⟩
    · exact .inl before
    · cases nothing
  | stored other device value running =>
    have loads : ((cache.withAnswer other (.ok value)).store device other value).loads =
        (cache.setPhase other (.answered (.ok value))).loads := loads_store _ _ _ _
    rcases resultOf_setPhase loads ended with before | ⟨rfl, is⟩
    · exact .inl before
    · cases is
      exact .inr (.inl rfl)
  | failed other device fault running =>
    rcases resultOf_setPhase rfl ended with before | ⟨rfl, is⟩
    · exact .inl before
    · cases is
      exact .inr (.inl rfl)
  | crashed other device running =>
    rcases resultOf_setPhase rfl ended with before | ⟨rfl, _⟩
    · exact .inl before
    · exact .inr (.inr rfl)
  | noticed call other device waiting unknown =>
    rcases resultOf_setPhase rfl ended with before | ⟨rfl, is⟩
    · exact .inl before
    · exact .inl ((resultOf_of_getElem? unknown).trans is)
  | joined | hit | found | missed | dropped | purged | advanced | refused | unfinished | uncrashed
    | taken | untaken | abandoned | unabandoned => exact .inl ended

end Changes

end DeviceMapping.Cache
