/-
**Expired entries are never missed.**

Removing the expired entries at once or leaving them until they are in the way comes to the same
for every caller.

* `MakesRoomBy`, `TurnBy`, `ReachesBy`: the runs of `Reaches` with the devices that each event
  evicted and what each event told (`reaches_iff`). Two runs that evict the same devices break the
  ties between entries read at the same moment in the same way.
* `Alike.makesRoomBy`: alike caches can evict the same, although one of them may have too many
  slots and the other not. Whichever needs room first loses its expired entries, and then the two
  have the same slots.
* `ReachesBy.drop_purges`, `ReachesBy.add_purges`: purges can be taken out of a run and put into it
  anywhere, by induction on the run, since alike caches stay alike (`Alike.step`, `Alike.turnBy`).
* `lazy_expiry_unobservable`: the two runs agree throughout.
-/

import DeviceMapping.Proofs.Cache.Alike

namespace DeviceMapping.Cache

variable {α : Type}

/-! ### What was evicted -/

/-- What making room may come to, with the devices that were evicted. -/
inductive MakesRoomBy (before : Cache α) : List String → Cache α → Prop
  | enough (fits : before.slots.size ≤ before.settings.maxCapacity.toNat) :
      MakesRoomBy before [] before
  | evicted {victims : List String} {after : Cache α}
      (tooMany : before.settings.maxCapacity.toNat < before.slots.size)
      (evictions : Evictions before.purgeExpired victims after) (settled : after.Settled) :
      MakesRoomBy before victims after

theorem makesRoom_iff {before after : Cache α} :
    MakesRoom before after ↔ ∃ victims, MakesRoomBy before victims after := by
  constructor
  · intro room
    cases room with
    | enough fits => exact ⟨[], .enough fits⟩
    | evicted tooMany evictions settled => exact ⟨_, .evicted tooMany evictions settled⟩
  · rintro ⟨victims, room⟩
    cases room with
    | enough fits => exact .enough fits
    | evicted tooMany evictions settled => exact .evicted tooMany evictions settled

/-- The cache once an event has stored an answer and before room is made, if the event stores one. -/
def filled? (cache : Cache α) : Event α → Option (Cache α)
  | .finish load (.ok value) =>
    match cache.loads[load]? with
    | some ⟨device, .running⟩ =>
      if cache.isHeldBy device load then some (cache.withEntry load device value) else none
    | _ => none
  | _ => none

/-- The cache before and after an event, with the devices that were evicted. -/
inductive TurnBy (before : Cache α) : Event α → List String → Cache α → Prop
  | step (event : Event α) (stores : before.filled? event = none) :
      TurnBy before event [] (before.step event).1
  | stored (event : Event α) {filled after : Cache α} {victims : List String}
      (stores : before.filled? event = some filled) (room : MakesRoomBy filled victims after) :
      TurnBy before event victims after

theorem filled?_eq_some {cache filled : Cache α} {event : Event α}
    (stores : cache.filled? event = some filled) :
    ∃ load device value, event = .finish load (.ok value) ∧
      cache.loads[load]? = some ⟨device, .running⟩ ∧
      cache.slots.get? device = some (.loading load) ∧
      filled = cache.withEntry load device value := by
  unfold filled? at stores
  split at stores
  · rename_i load value
    split at stores
    · rename_i device running
      split at stores
      · rename_i held
        exact ⟨load, device, value, rfl, running, isHeldBy_iff.mp held,
          (Option.some.inj stores).symm⟩
      · cases stores
    · cases stores
  · cases stores

theorem filled?_of_held {cache : Cache α} {load : Nat} {device : String} (value : α)
    (running : cache.loads[load]? = some ⟨device, .running⟩)
    (held : cache.slots.get? device = some (.loading load)) :
    cache.filled? (.finish load (.ok value)) = some (cache.withEntry load device value) := by
  simp only [filled?, running, if_pos (isHeldBy_iff.mpr held)]

/-- An event that stores an answer makes room for it. -/
theorem step_of_filled? {cache filled : Cache α} {event : Event α}
    (stores : cache.filled? event = some filled) :
    (cache.step event).1 = filled.enforceCapacity := by
  obtain ⟨load, device, value, rfl, running, held, rfl⟩ := filled?_eq_some stores
  show cache.finish load (.ok value) = _
  unfold finish
  rw [running]
  exact if_pos (isHeldBy_iff.mpr held)

theorem turn_iff {before after : Cache α} {event : Event α} :
    Turn before event after ↔ ∃ victims, TurnBy before event victims after := by
  constructor
  · intro turn
    cases turn with
    | step =>
      cases stores : before.filled? event with
      | none => exact ⟨[], .step event stores⟩
      | some filled =>
        rw [step_of_filled? stores]
        obtain ⟨victims, room⟩ := makesRoom_iff.mp (makesRoom_enforceCapacity filled)
        exact ⟨victims, .stored event stores room⟩
    | stored load device value running held room =>
      obtain ⟨victims, room⟩ := makesRoom_iff.mp room
      exact ⟨victims, .stored _ (filled?_of_held value running held) room⟩
  · rintro ⟨victims, turn⟩
    cases turn with
    | step => exact .step event
    | stored stores room =>
      obtain ⟨load, device, value, rfl, running, held, rfl⟩ := filled?_eq_some stores
      exact .stored load device value running held (makesRoom_iff.mpr ⟨victims, room⟩)

/-! ### Runs beside their purges -/

/-- The event removes the expired entries. -/
def Event.isPurge : Event α → Bool
  | .purge => true
  | _ => false

/-- The events that are not purges. -/
def besidesPurges (events : List (Event α)) : List (Event α) :=
  events.filter fun event => !event.isPurge

/-- What the events of a run tell, besides its purges. -/
def replies (cache : Cache α) : List (Event α) → List (Reply α)
  | [] => []
  | event :: rest =>
    if event.isPurge then (cache.step event).1.replies rest
    else (cache.step event).2 :: (cache.step event).1.replies rest

/-- The cache before and after several events, with the devices that each event evicted and what
each told, besides the purges. -/
inductive ReachesBy :
    Cache α → List (Event α) → List (List String) → List (Reply α) → Cache α → Prop
  | stays (cache : Cache α) : ReachesBy cache [] [] [] cache
  | purges {before after : Cache α} {events : List (Event α)} {evicted : List (List String)}
      {replies : List (Reply α)}
      (later : ReachesBy before.purgeExpired events evicted replies after) :
      ReachesBy before (.purge :: events) evicted replies after
  | turns {before middle after : Cache α} {event : Event α} {events : List (Event α)}
      {victims : List String} {evicted : List (List String)} {replies : List (Reply α)}
      (other : event.isPurge = false) (turn : TurnBy before event victims middle)
      (later : ReachesBy middle events evicted replies after) :
      ReachesBy before (event :: events) (victims :: evicted) ((before.step event).2 :: replies)
        after

theorem besidesPurges_cons {event : Event α} (other : event.isPurge = false)
    (rest : List (Event α)) : besidesPurges (event :: rest) = event :: besidesPurges rest :=
  List.filter_cons_of_pos (by rw [other]; rfl)

theorem ne_purge {event : Event α} (other : event.isPurge = false) : event ≠ .purge := by
  rintro rfl
  cases other

theorem eq_purge {event : Event α} (purges : event.isPurge = true) : event = .purge := by
  cases event <;> first | rfl | cases purges

/-- These are the runs with any choice among entries read at the same moment. -/
theorem reaches_iff {before after : Cache α} {events : List (Event α)} :
    Reaches before events after ↔
      ∃ evicted replies, ReachesBy before events evicted replies after := by
  constructor
  · intro reaches
    induction reaches with
    | stays cache => exact ⟨[], [], .stays cache⟩
    | @turns before middle after event events turn later ih =>
      obtain ⟨evicted, replies, later⟩ := ih
      by_cases purges : event.isPurge = true
      · cases eq_purge purges
        obtain ⟨victims, turn⟩ := turn_iff.mp turn
        cases turn with
        | step => exact ⟨evicted, replies, .purges later⟩
        | stored stores => cases stores
      · obtain ⟨victims, turn⟩ := turn_iff.mp turn
        exact ⟨_, _, .turns (Bool.eq_false_iff.mpr purges) turn later⟩
  · rintro ⟨evicted, replies, reaches⟩
    induction reaches with
    | stays cache => exact .stays cache
    | purges later ih => exact .turns (.step .purge) ih
    | turns other turn later ih => exact .turns (turn_iff.mpr ⟨_, turn⟩) ih

/-! ### Alike caches evict the same -/

theorem Evictions.eq_foldl {cache after : Cache α} {victims : List String}
    (evictions : Evictions cache victims after) : after = victims.foldl evict cache := by
  induction evictions with
  | done => rfl
  | next first others ih => exact ih

/-- Making room changes nothing but the slots and the number of evictions. -/
theorem MakesRoomBy.eq {before after : Cache α} {victims : List String}
    (room : MakesRoomBy before victims after) :
    after = { before with
      slots := after.slots
      counters := { before.counters with
        evictions := before.counters.evictions + victims.length } } := by
  cases room with
  | enough => rfl
  | evicted tooMany evictions settled =>
    rw [evictions.eq_foldl, foldl_evict]
    rfl

theorem Evictions.eq_nil_of_fits {cache after : Cache α} {victims : List String}
    (evictions : Evictions cache victims after)
    (fits : cache.slots.size ≤ cache.settings.maxCapacity.toNat) :
    victims = [] ∧ after = cache := by
  cases evictions with
  | done => exact ⟨rfl, rfl⟩
  | next first others => exact absurd fits (Nat.not_le.mpr first.tooMany)

theorem purgeExpired_eq_self {cache : Cache α}
    (live : ∀ device, cache.live? device = cache.slots.get? device) :
    cache.purgeExpired = cache := by
  have slots : cache.purgeExpired.slots = cache.slots :=
    Table.ext_get? fun device => (get?_purgeExpired cache device).trans (live device)
  exact Cache.ext rfl rfl slots rfl rfl rfl rfl

/-- Evictions leave no expired entry where there was none. -/
theorem Evictions.purgeExpired_eq {cache after : Cache α} {victims : List String}
    (evictions : Evictions cache victims after)
    (live : ∀ device, cache.live? device = cache.slots.get? device) :
    after.purgeExpired = after := by
  induction evictions with
  | done => exact purgeExpired_eq_self live
  | @next cache after victim entry rest first others ih =>
    refine ih fun device => ?_
    have left : (cache.evict victim).live? device =
        if device = victim then none else cache.live? device := live?_erase cache victim device
    rw [left, get?_slots_evict, live]

namespace MakesRoomBy

variable {before after : Cache α} {victims : List String}

theorem unique {last : Cache α} (room : MakesRoomBy before victims after)
    (other : MakesRoomBy before victims last) : last = after := by
  cases room with
  | enough fits =>
    cases other with
    | enough => rfl
    | evicted tooMany => exact absurd fits (Nat.not_le.mpr tooMany)
  | evicted tooMany evictions settled =>
    cases other with
    | enough fits => exact absurd fits (Nat.not_le.mpr tooMany)
    | evicted _ others => rw [evictions.eq_foldl, others.eq_foldl]

/-- Where the expired entries went before, the same is evicted. -/
theorem purged (room : MakesRoomBy before victims after) :
    MakesRoomBy before.purgeExpired victims after.purgeExpired := by
  cases room with
  | enough fits => exact .enough (Nat.le_trans (size_purgeExpired_le before) fits)
  | evicted tooMany evictions settled =>
    have live : ∀ device,
        before.purgeExpired.live? device = before.purgeExpired.slots.get? device := fun device => by
      rw [live?_purgeExpired, get?_purgeExpired]
    rw [evictions.purgeExpired_eq live]
    by_cases fits : before.purgeExpired.slots.size ≤ before.settings.maxCapacity.toNat
    · obtain ⟨rfl, rfl⟩ := evictions.eq_nil_of_fits fits
      exact .enough fits
    · refine .evicted (Nat.not_le.mp fits) ?_ settled
      rwa [purgeExpired_purgeExpired]

/-- What can be evicted once the expired entries went can be evicted where they did not. -/
theorem of_purged (room : MakesRoomBy before.purgeExpired victims after) :
    ∃ last, MakesRoomBy before victims last ∧ Alike after last := by
  by_cases fits : before.slots.size ≤ before.settings.maxCapacity.toNat
  · have purgedFits := Nat.le_trans (size_purgeExpired_le before) fits
    cases room with
    | enough => exact ⟨before, .enough fits, (alike_purgeExpired before).symm⟩
    | evicted tooMany => exact absurd purgedFits (Nat.not_le.mpr tooMany)
  · refine ⟨after, .evicted (Nat.not_le.mp fits) ?_ ?_, .refl after⟩
    · cases room with
      | enough => exact .done _
      | evicted _ evictions => rwa [purgeExpired_purgeExpired] at evictions
    · cases room with
      | enough purgedFits => exact settled_iff.mpr (.inl purgedFits)
      | evicted _ _ settled => exact settled

end MakesRoomBy

namespace Alike

variable {first second after : Cache α} {victims : List String}

/-- Of two alike caches the one can evict what the other evicts, and they are alike after it. -/
theorem makesRoomBy (alike : Alike first second) (room : MakesRoomBy first victims after) :
    ∃ last, MakesRoomBy second victims last ∧ Alike after last := by
  have purged := room.purged
  rw [← alike.purgeExpired_eq] at purged
  obtain ⟨last, other, same⟩ := purged.of_purged
  exact ⟨last, other, (alike_purgeExpired after).trans same⟩

theorem of_makesRoomBy {last : Cache α} (alike : Alike first second)
    (room : MakesRoomBy first victims after) (other : MakesRoomBy second victims last) :
    Alike after last := by
  have purged := other.purged
  rw [alike.purgeExpired_eq] at purged
  exact alike_iff.mpr (room.purged.unique purged)

theorem filled?_of_some (alike : Alike first second) {event : Event α} {filled : Cache α}
    (stores : first.filled? event = some filled) :
    ∃ other, second.filled? event = some other ∧ Alike filled other := by
  obtain ⟨load, device, value, rfl, running, held, rfl⟩ := filled?_eq_some stores
  rw [← alike.loads_eq] at running
  rw [← live?_eq_loading_iff, ← alike.live?_eq, live?_eq_loading_iff] at held
  exact ⟨_, filled?_of_held value running held, alike.withEntry load device value⟩

theorem filled?_of_none (alike : Alike first second) {event : Event α}
    (stores : first.filled? event = none) : second.filled? event = none := by
  cases other : second.filled? event with
  | none => rfl
  | some filled =>
    obtain ⟨_, filled, -⟩ := alike.symm.filled?_of_some other
    rw [stores] at filled
    cases filled

/-- Of two alike caches the one can turn into what the other turns into. -/
theorem turnBy (alike : Alike first second) {event : Event α} (other : event.isPurge = false)
    (turn : TurnBy first event victims after) :
    ∃ last, TurnBy second event victims last ∧ Alike after last := by
  cases turn with
  | step stores =>
    exact ⟨_, .step event (alike.filled?_of_none stores), (alike.step (ne_purge other)).1⟩
  | stored stores room =>
    obtain ⟨filled, stores, same⟩ := alike.filled?_of_some stores
    obtain ⟨last, room, after⟩ := same.makesRoomBy room
    exact ⟨last, .stored event stores room, after⟩

theorem of_turnBy {last : Cache α} (alike : Alike first second) {event : Event α}
    (other : event.isPurge = false) (turn : TurnBy first event victims after)
    (turn' : TurnBy second event victims last) : Alike after last := by
  cases turn with
  | step stores =>
    cases turn' with
    | step => exact (alike.step (ne_purge other)).1
    | stored stores' =>
      rw [alike.filled?_of_none stores] at stores'
      cases stores'
  | stored stores room =>
    obtain ⟨filled, stores, same⟩ := alike.filled?_of_some stores
    cases turn' with
    | step none =>
      rw [none] at stores
      cases stores
    | stored stores' room' =>
      rw [stores] at stores'
      cases stores'
      exact same.of_makesRoomBy room room'

end Alike

/-! ### Runs with and without purges -/

namespace ReachesBy

variable {first second after : Cache α} {events : List (Event α)} {evicted : List (List String)}
  {replies : List (Reply α)}

/-- The purges of a run can be left out. -/
theorem drop_purges (reaches : ReachesBy first events evicted replies after)
    (alike : Alike first second) :
    ∃ last, ReachesBy second (besidesPurges events) evicted replies last ∧ Alike after last := by
  induction reaches generalizing second with
  | stays cache => exact ⟨second, .stays second, alike⟩
  | purges later ih => exact ih ((alike_purgeExpired _).symm.trans alike)
  | @turns before middle after event events victims evicted replies other turn later ih =>
    obtain ⟨middle', turn, same⟩ := alike.turnBy other turn
    obtain ⟨last, later, after⟩ := ih same
    rw [besidesPurges_cons other, ← (alike.step (ne_purge other)).2]
    exact ⟨last, .turns other turn later, after⟩

/-- Purges can be put into a run anywhere. -/
theorem add_purges (reaches : ReachesBy first (besidesPurges events) evicted replies after)
    (alike : Alike first second) :
    ∃ last, ReachesBy second events evicted replies last ∧ Alike after last := by
  induction events generalizing first second evicted replies with
  | nil =>
    cases reaches with
    | stays => exact ⟨second, .stays second, alike⟩
  | cons event rest ih =>
    by_cases purges : event.isPurge = true
    · cases eq_purge purges
      obtain ⟨last, later, after⟩ := ih reaches (alike.trans (alike_purgeExpired second))
      exact ⟨last, .purges later, after⟩
    · have other := Bool.eq_false_iff.mpr purges
      rw [besidesPurges_cons other] at reaches
      cases reaches with
      | purges => cases other
      | turns _ turn later =>
        obtain ⟨middle, turn, same⟩ := alike.turnBy other turn
        obtain ⟨last, later, after⟩ := ih later same
        rw [← (alike.step (ne_purge other)).2]
        exact ⟨last, .turns other turn later, after⟩

/-- Runs of the same events that evict the same tell the same and stay alike. -/
theorem alike_of_evicted {replies' : List (Reply α)} {last : Cache α}
    (reaches : ReachesBy first events evicted replies after)
    (reaches' : ReachesBy second events evicted replies' last) (alike : Alike first second) :
    replies' = replies ∧ Alike after last := by
  induction reaches generalizing second replies' with
  | stays cache =>
    cases reaches' with
    | stays => exact ⟨rfl, alike⟩
  | @purges before after events evicted replies later ih =>
    cases reaches' with
    | purges later' =>
      have same := (alike_purgeExpired before).symm.trans alike
      exact ih later' (same.trans (alike_purgeExpired second))
    | turns other => cases other
  | turns other turn later ih =>
    cases reaches' with
    | purges => cases other
    | turns _ turn' later' =>
      obtain ⟨same, after⟩ := ih later' (alike.of_turnBy other turn turn')
      rw [same, (alike.step (ne_purge other)).2]
      exact ⟨rfl, after⟩

end ReachesBy

/-- A run of an alike cache without the purges tells the same. -/
theorem Alike.run_besidesPurges {first second : Cache α} (alike : Alike first second)
    (events : List (Event α)) :
    Alike (first.run events) (second.run (besidesPurges events)) ∧
      second.replies (besidesPurges events) = first.replies events := by
  induction events generalizing first second with
  | nil => exact ⟨alike, rfl⟩
  | cons event rest ih =>
    by_cases purges : event.isPurge = true
    · cases eq_purge purges
      exact ih ((alike_purgeExpired first).symm.trans alike)
    · have other := Bool.eq_false_iff.mpr purges
      obtain ⟨after, reply⟩ := alike.step (ne_purge other)
      obtain ⟨last, later⟩ := ih after
      rw [besidesPurges_cons other]
      refine ⟨last, ?_⟩
      rw [replies, replies, other, if_neg Bool.false_ne_true, if_neg Bool.false_ne_true, later, reply]

/-! ### What is left to tell them apart -/

/-- As many slots go in a purge as there are expired entries. -/
theorem size_purgeExpired_add (cache : Cache α) :
    cache.purgeExpired.slots.size + cache.staleCount = cache.slots.size := by
  have stale : cache.staleCount = (cache.slots.filter fun _ slot => cache.isStale slot).size :=
    List.countP_eq_length_filter
  rw [stale, Nat.add_comm]
  exact cache.slots.size_filter_add fun _ slot => cache.isStale slot

namespace Alike

variable {first second : Cache α}

/-- What one of two alike caches holds and the other does not is an expired entry. -/
theorem get?_or_expired (alike : Alike first second) {device : String} {slot : Slot α}
    (found : first.slots.get? device = some slot) :
    second.slots.get? device = some slot ∨
      ∃ entry, slot = .ready entry ∧ first.isExpired entry = true := by
  cases slot with
  | loading load =>
    rw [← live?_eq_loading_iff, ← alike.live?_eq, live?_eq_loading_iff] at found
    exact .inl found
  | ready entry =>
    by_cases expired : first.isExpired entry = true
    · exact .inr ⟨entry, rfl, expired⟩
    · have live := live?_eq_ready_iff.mpr ⟨found, Bool.eq_false_iff.mpr expired⟩
      rw [← alike.live?_eq, live?_eq_ready_iff] at live
      exact .inl live.1

/-- Alike caches differ in size by as much as they differ in expired entries. -/
theorem size_add_staleCount (alike : Alike first second) :
    first.slots.size + second.staleCount = second.slots.size + first.staleCount := by
  have sizeFirst := size_purgeExpired_add first
  have sizeSecond := size_purgeExpired_add second
  rw [alike.purgeExpired_eq] at sizeSecond
  omega

end Alike

/-- **Lazy expiry is unobservable.** Take a run of the cache and the same run with purges put in or
left out anywhere. The two tell the same, and wherever they have come to they agree in the loads
there were, the calls with their answers, the permits and all that is counted; what a device has in
one cache and not in the other is an expired entry. The same holds whichever of several entries read
at the same moment are evicted: what one run evicts the other can evict as well, and if it does, the
two agree. So only the numbers of slots tell them apart, by as many expired entries as one of them
has more, and the numbers that the purges report, which are the numbers of expired entries. -/
theorem lazy_expiry_unobservable (start : Cache α) {events others : List (Event α)}
    (same : besidesPurges others = besidesPurges events) :
    (Alike (start.run events) (start.run others) ∧ start.replies others = start.replies events) ∧
    (∀ after : Cache α, Reaches start events after ↔
      ∃ evicted replies, ReachesBy start events evicted replies after) ∧
    (∀ evicted replies after, ReachesBy start events evicted replies after →
      (∃ last, ReachesBy start others evicted replies last) ∧
      ∀ replies' last, ReachesBy start others evicted replies' last →
        replies' = replies ∧ Alike after last) ∧
    (∀ first second : Cache α, Alike first second →
      (∀ device slot, first.slots.get? device = some slot →
        second.slots.get? device = some slot ∨
          ∃ entry, slot = .ready entry ∧ first.isExpired entry = true) ∧
      first.slots.size + second.staleCount = second.slots.size + first.staleCount) ∧
    ∀ cache : Cache α, cache.step .purge = (cache.purgeExpired, .purged cache.staleCount) ∧
      cache.purgeExpired.slots.size + cache.staleCount = cache.slots.size := by
  refine ⟨?_, fun _ => reaches_iff, fun evicted replies after reaches => ?_,
    fun first second alike => ⟨fun device slot => alike.get?_or_expired, alike.size_add_staleCount⟩,
    fun cache => ⟨rfl, size_purgeExpired_add cache⟩⟩
  · obtain ⟨lastFirst, toldFirst⟩ := (Alike.refl start).run_besidesPurges events
    obtain ⟨lastSecond, toldSecond⟩ := (Alike.refl start).run_besidesPurges others
    rw [same] at lastSecond toldSecond
    exact ⟨lastFirst.trans lastSecond.symm, toldSecond.symm.trans toldFirst⟩
  · obtain ⟨_, dropped, without⟩ := reaches.drop_purges (.refl start)
    rw [← same] at dropped
    obtain ⟨last, added, back⟩ := dropped.add_purges (.refl start)
    refine ⟨⟨last, added⟩, fun replies' last' reaches' => ?_⟩
    obtain ⟨told, alike⟩ := added.alike_of_evicted reaches' (.refl start)
    exact ⟨told, (without.trans back).trans alike⟩

/-- An entry that lives for a second, and the load of another device after it has expired. -/
def brief : CacheSettings := ⟨2, 1, none, 16⟩

def fading : List (Event Nat) :=
  [.get "lamp", .grant 0, .finish 0 (.ok 1), .advance 1000, .get "plug", .grant 1, .finish 1 (.ok 2)]

/-- The same with the expired entry removed before the other device is asked for. -/
def fadingPurged : List (Event Nat) :=
  [.get "lamp", .grant 0, .finish 0 (.ok 1), .advance 1000, .purge, .get "plug", .grant 1,
    .finish 1 (.ok 2)]

/-- One cache still holds the expired entry and the other does not, and nothing else tells them
apart, as long as there is room and once a third device is in need of it. -/
theorem lazy_expiry_unobservable_fading :
    ((Cache.new brief).run fading).slots.size = 2 ∧
      ((Cache.new brief).run fadingPurged).slots.size = 1 ∧
      Alike ((Cache.new brief).run fading) ((Cache.new brief).run fadingPurged) ∧
      ∀ later : List (Event Nat),
        ((Cache.new brief).run (fadingPurged ++ later)).counters =
          ((Cache.new brief).run (fading ++ later)).counters := by
  have same : besidesPurges fadingPurged = besidesPurges fading := rfl
  have sameLater : ∀ later : List (Event Nat),
      besidesPurges (fadingPurged ++ later) = besidesPurges (fading ++ later) := fun later => by
    rw [besidesPurges, besidesPurges, List.filter_append, List.filter_append]
    exact congrArg (· ++ _) same
  obtain ⟨⟨alike, -⟩, -⟩ := lazy_expiry_unobservable (Cache.new brief) same
  refine ⟨rfl, rfl, alike, fun later => ?_⟩
  exact (lazy_expiry_unobservable (Cache.new brief) (sameLater later)).1.1.counters_eq

end DeviceMapping.Cache
