/-
**What has become of the values of the cache.**

A value is known by the load it comes from. It is stored once its load has ended, given out by calls
that find it, evicted when room is made, and dropped with everything else; a `History` lists all this
with its times. A call that waited for the load is answered by the load and takes nothing from the
cache.

* `Recorded`: the runs of the cache beside their history; these are all runs (`recorded_iff`).
* `storedAt?`, `usedAt?`, `isKept`: what a history says about one value; each has an equation for
  one more item.
-/

import DeviceMapping.Proofs.Cache.LazyExpiry

namespace DeviceMapping.Cache

variable {α : Type}

/-! ### Histories -/

/-- Something that happens to the value of a load, or to all values. -/
inductive Happening where
  | stored (load : Nat)
  | returned (load : Nat)
  | evicted (load : Nat)
  | dropped
  deriving DecidableEq

/-- What has happened and when, the newest first. -/
abbrev History := List (Nat × Happening)

namespace History

/-- The time at which the value of a load was stored. -/
def storedAt? (history : History) (load : Nat) : Option Nat :=
  (history.find? fun item => item.2 == .stored load).map (·.1)

/-- The time at which the value of a load was last stored or returned. -/
def usedAt? (history : History) (load : Nat) : Option Nat :=
  (history.find? fun item => item.2 == .stored load || item.2 == .returned load).map (·.1)

/-- The value of a load was stored, and since then it was neither evicted nor dropped. -/
def isKept (history : History) (load : Nat) : Bool :=
  (history.find? fun item =>
    item.2 == .stored load || item.2 == .evicted load || item.2 == .dropped).any
      fun item => item.2 == .stored load

section Cons

variable (history : History) (time : Nat) {load : Nat} {happening : Happening}

theorem storedAt?_cons : storedAt? ((time, happening) :: history) load =
    if happening = .stored load then some time else storedAt? history load := by
  by_cases stored : happening = .stored load
  · simp [storedAt?, stored]
  · simp [storedAt?, stored]

theorem usedAt?_cons : usedAt? ((time, happening) :: history) load =
    if happening = .stored load ∨ happening = .returned load then some time
    else usedAt? history load := by
  by_cases used : happening = .stored load ∨ happening = .returned load
  · rw [if_pos used, usedAt?, List.find?_cons_of_pos (by simpa using used)]
    rfl
  · rw [if_neg used, usedAt?, List.find?_cons_of_neg (by simpa using used)]
    rfl

theorem isKept_cons : isKept ((time, happening) :: history) load =
    if happening = .stored load then true
    else if happening = .evicted load ∨ happening = .dropped then false
    else isKept history load := by
  by_cases stored : happening = .stored load
  · simp [isKept, stored]
  · by_cases lost : happening = .evicted load ∨ happening = .dropped
    · rw [if_neg stored, if_pos lost, isKept,
        List.find?_cons_of_pos (by simpa [or_assoc] using .inr lost)]
      simpa using stored
    · rw [if_neg stored, if_neg lost, isKept,
        List.find?_cons_of_neg (by simpa [or_assoc] using not_or.mpr ⟨stored, lost⟩)]
      rfl

/-- A value that is stored or returned makes no difference to the others. -/
theorem cons_of_other {other : Nat} (about : happening = .stored other ∨ happening = .returned other)
    (different : other ≠ load) :
    storedAt? ((time, happening) :: history) load = storedAt? history load ∧
      usedAt? ((time, happening) :: history) load = usedAt? history load ∧
      isKept ((time, happening) :: history) load = isKept history load := by
  rcases about with rfl | rfl
  · simp [storedAt?_cons, usedAt?_cons, isKept_cons, different]
  · simp [storedAt?_cons, usedAt?_cons, isKept_cons, different]

end Cons

/-- What happens to other values makes no difference to when a value was stored and used. -/
theorem times_of_others (history : History) (time load : Nat) {others : List Happening}
    (untouched : ∀ other ∈ others, other ≠ .stored load ∧ other ≠ .returned load) :
    storedAt? (others.map (fun other => (time, other)) ++ history) load =
        storedAt? history load ∧
      usedAt? (others.map (fun other => (time, other)) ++ history) load =
        usedAt? history load := by
  induction others with
  | nil => exact ⟨rfl, rfl⟩
  | cons other rest ih =>
    obtain ⟨notStored, notReturned⟩ := untouched other List.mem_cons_self
    obtain ⟨stored, used⟩ := ih fun later member => untouched later (List.mem_cons_of_mem _ member)
    simp [storedAt?_cons, usedAt?_cons, notStored, notReturned, stored, used]

/-- Of the values kept before those stay that are not evicted. -/
theorem isKept_of_evicted (history : History) (time load : Nat) (evicted : List Nat) :
    isKept ((evicted.map Happening.evicted).map (fun other => (time, other)) ++ history) load =
      true ↔ load ∉ evicted ∧ isKept history load = true := by
  induction evicted with
  | nil => simp
  | cons other rest ih =>
    rw [List.map_cons, List.map_cons, List.cons_append, isKept_cons, if_neg nofun]
    by_cases same : other = load
    · simp [same]
    · simpa [same, Ne.symm same] using ih

end History

/-! ### Runs beside their history -/

/-- The load whose value fills the slot of a device. -/
def loadOf? (cache : Cache α) (device : String) : Option Nat :=
  ((cache.slots.get? device).bind Slot.content?).map Entry.load

/-- What an event makes happen, given the devices that it evicts; the newest first. -/
def happenings (before : Cache α) (event : Event α) (victims : List String) (after : Cache α) :
    List Happening :=
  match event with
  | .get _ =>
    match after.calls[before.calls.length]? with
    | some (.hit load _) => [.returned load]
    | _ => []
  | .peek device =>
    match (before.peek device).2 with
    | some entry => [.returned entry.load]
    | none => []
  | .invalidateAll => [.dropped]
  | .finish load _ =>
    match before.filled? event with
    | some filled => (victims.filterMap filled.loadOf?).map .evicted ++ [.stored load]
    | none => []
  | _ => []

/-- The history after an event. -/
def record (history : History) (before : Cache α) (event : Event α) (victims : List String)
    (after : Cache α) : History :=
  (happenings before event victims after).map (fun happening => (before.now, happening)) ++ history

/-- The cache before and after several events, and the history that goes on over them. -/
inductive Recorded (start : Cache α) (past : History) : List (Event α) → History → Cache α → Prop
  | stays : Recorded start past [] past start
  | turns {events : List (Event α)} {history : History} {before after : Cache α} {event : Event α}
      {victims : List String} (earlier : Recorded start past events history before)
      (turn : TurnBy before event victims after) :
      Recorded start past (events ++ [event]) (record history before event victims after) after

theorem Reaches.concat {start before after : Cache α} {events : List (Event α)} {event : Event α}
    (earlier : Reaches start events before) (turn : Turn before event after) :
    Reaches start (events ++ [event]) after := by
  induction earlier with
  | stays => exact .turns turn (.stays _)
  | turns first _ ih => exact .turns first (ih turn)

theorem Recorded.cons {start middle after : Cache α} {past history : History} {event : Event α}
    {events : List (Event α)} {victims : List String} (turn : TurnBy start event victims middle)
    (later : Recorded middle (record past start event victims middle) events history after) :
    Recorded start past (event :: events) history after := by
  induction later with
  | stays => exact .turns .stays turn
  | turns _ last ih => exact .turns ih last

/-- Every run has a history. -/
theorem recorded_iff {start after : Cache α} (past : History) {events : List (Event α)} :
    Reaches start events after ↔ ∃ history, Recorded start past events history after := by
  constructor
  · intro reaches
    induction reaches generalizing past with
    | stays => exact ⟨past, .stays⟩
    | turns turn _ ih =>
      obtain ⟨victims, turn⟩ := turn_iff.mp turn
      obtain ⟨history, later⟩ := ih (record past _ _ victims _)
      exact ⟨history, .cons turn later⟩
  · rintro ⟨history, recorded⟩
    induction recorded with
    | stays => exact .stays start
    | turns _ turn ih => exact ih.concat (turn_iff.mpr ⟨_, turn⟩)

end DeviceMapping.Cache
