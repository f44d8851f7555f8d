/-
**Signals of the store in memory.**

* `receive_eq_none_iff`: a subscriber has nothing to receive exactly if as many signals lie behind
  it as were ever sent.
* `applyTo_of_silent`: a write that publishes no signal leaves the rules as they are.
-/

import DeviceMapping.Store.Memory
import DeviceMapping.Table.Lookup

namespace DeviceMapping

/-! ### Receiving -/

namespace Feed

/-- No more signals are kept than were sent. -/
def Kept (feed : Feed) : Prop :=
  feed.kept.length ≤ feed.sent

theorem kept_new (capacity : Nat) : (Feed.new capacity).Kept :=
  Nat.le_refl 0

theorem kept_publish {feed : Feed} (kept : feed.Kept) (change : RuleChange) :
    (feed.publish change).Kept := by
  show ((feed.kept ++ [change]).drop _).length ≤ feed.sent + 1
  rw [List.length_drop, List.length_append, List.length_singleton]
  exact Nat.le_trans (Nat.sub_le _ _) (Nat.succ_le_succ kept)

/-- There is nothing to receive exactly if every signal sent lies behind the subscriber. -/
theorem receive_eq_none_iff {feed : Feed} (kept : feed.Kept) (subscriber : Subscriber) :
    feed.receive subscriber = none ↔ feed.sent ≤ subscriber.position := by
  unfold Kept at kept
  unfold receive forgotten
  split
  · rename_i behind
    refine iff_of_false nofun ?_
    omega
  · rename_i notBehind
    rw [Option.map_eq_none_iff, List.getElem?_eq_none_iff]
    omega

/-- Receiving does not lead beyond the signals that were sent. -/
theorem position_le_of_receive {feed : Feed} (kept : feed.Kept) {subscriber next : Subscriber}
    {received : Received} (is : feed.receive subscriber = some (received, next)) :
    next.position ≤ feed.sent := by
  unfold Kept at kept
  unfold receive at is
  split at is
  · cases is
    exact Nat.sub_le _ _
  · rename_i notBehind
    obtain ⟨change, found, same⟩ := Option.map_eq_some_iff.mp is
    cases same
    have bound := (List.getElem?_eq_some_iff.mp found).1
    unfold forgotten at bound notBehind
    show subscriber.position + 1 ≤ feed.sent
    omega

end Feed

/-! ### Writes without a signal -/

theorem Written.count_eq_zero_of_silent {count : Nat} {change : RuleChange}
    (silent : (Written.signalling count change).signal = none) : count = 0 := by
  unfold signalling at silent
  split at silent
  · cases silent
  · rename_i notPositive
    exact Nat.eq_zero_of_not_pos notPositive

/-- A write that publishes no signal changes nothing. -/
theorem RuleWrite.applyTo_of_silent (store : MemoryStore) (write : RuleWrite)
    (silent : (write.applyTo store).2.signal = none) : (write.applyTo store).1 = store := by
  cases write with
  | save rules =>
    have empty : rules = [] :=
      List.length_eq_zero_iff.mp (Written.count_eq_zero_of_silent silent)
    subst empty
    rfl
  | deleteByIds ids =>
    have asLarge := Nat.sub_eq_zero_iff_le.mp (Written.count_eq_zero_of_silent silent)
    exact congrArg MemoryStore.mk
      (Table.eq_of_sublist_of_size_le (Table.entries_eraseAll_sublist store.rules ids) asLarge)
  | deleteByScope productId deviceId =>
    have asLarge := Nat.sub_eq_zero_iff_le.mp (Written.count_eq_zero_of_silent silent)
    exact congrArg MemoryStore.mk
      (Table.eq_of_sublist_of_size_le List.filter_sublist asLarge)

end DeviceMapping
