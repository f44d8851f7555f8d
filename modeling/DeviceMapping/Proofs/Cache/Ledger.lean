/-
**Books kept beside a run.**

What the cache does not keep itself can be written down from one event to the next, from what the
event found and what it left. `Kept enter start blank` are the runs from `start` with such a book,
which is `blank` at first and gets one entry by `enter` for each event; every run has one
(`kept_iff`).
-/

import DeviceMapping.Proofs.Cache.History

namespace DeviceMapping.Cache

variable {α β : Type}

/-- The cache before and after several events, and the book that goes on over them. -/
inductive Kept (enter : Cache α → Event α → Cache α → β → β) (start : Cache α) (blank : β) :
    List (Event α) → β → Cache α → Prop
  | stays : Kept enter start blank [] blank start
  | turns {events : List (Event α)} {book : β} {before after : Cache α} {event : Event α}
      (earlier : Kept enter start blank events book before) (turn : Turn before event after) :
      Kept enter start blank (events ++ [event]) (enter before event after book) after

section Kept

variable {enter : Cache α → Event α → Cache α → β → β} {start middle after : Cache α}
  {blank book : β} {event : Event α} {events : List (Event α)}

theorem Kept.cons (turn : Turn start event middle)
    (later : Kept enter middle (enter start event middle blank) events book after) :
    Kept enter start blank (event :: events) book after := by
  induction later with
  | stays => exact .turns .stays turn
  | turns _ last ih => exact .turns ih last

theorem Kept.reaches (kept : Kept enter start blank events book after) :
    Reaches start events after := by
  induction kept with
  | stays => exact .stays start
  | turns _ turn ih => exact ih.concat turn

/-- Every run has a book. -/
theorem kept_iff (enter : Cache α → Event α → Cache α → β → β) (blank : β) :
    Reaches start events after ↔ ∃ book, Kept enter start blank events book after := by
  refine ⟨fun reaches => ?_, fun ⟨_, kept⟩ => kept.reaches⟩
  induction reaches generalizing blank with
  | stays => exact ⟨blank, .stays⟩
  | turns turn _ ih =>
    obtain ⟨book, later⟩ := ih (enter _ _ _ blank)
    exact ⟨book, .cons turn later⟩

end Kept

end DeviceMapping.Cache
