/-
**What can happen to a writer beside a cache.**

* `Change before event after`: all that an event can do (`change_step`).
* `Later before after`: the cache has grown, a write keeps its message, the call it asked with and
  what it gave to the sink (`later_change`).
* `messages_run`: the writer has the messages that were sent, in the order sent.
-/

import DeviceMapping.Proofs.Cache.Calls
import DeviceMapping.Service.Ingestion

namespace DeviceMapping

/-! ### The progress of a write -/

namespace Progress

/-- The message was not taken up yet. -/
def isSent : Progress → Bool
  | sent => true
  | _ => false

/-- What the sink was given. -/
def handed? : Progress → Option Message
  | saving handed | ended handed _ => some handed
  | sent | mapping => none

end Progress

namespace Writer

theorem getElem?_setProgress (writer : Writer) (place other : Nat) (progress : Progress) :
    (writer.setProgress place progress).writes[other]? =
      if place = other then (writer.writes[place]?).map fun write => ⟨write.message, progress⟩
      else writer.writes[other]? := by
  show (writer.writes.modify place fun write => { write with progress := progress })[other]? = _
  rw [List.getElem?_modify]
  by_cases same : place = other
  · subst same
    simp
  · simp [same]

theorem getElem?_send (writer : Writer) (message : Message) (place : Nat) :
    (writer.send message).writes[place]? =
      if place = writer.writes.length then some ⟨message, .sent⟩ else writer.writes[place]? := by
  show (writer.writes ++ [_])[place]? = _
  by_cases last : place = writer.writes.length
  · subst last
    rw [List.getElem?_concat_length, if_pos rfl]
  · rw [if_neg last, List.getElem?_append]
    split
    · rfl
    · rename_i beyond
      rw [List.getElem?_eq_none (Nat.not_lt.mp beyond), List.getElem?_eq_none]
      simp only [List.length_cons, List.length_nil]
      omega

/-- The message taken up next is the first that was not yet. -/
theorem nextPlace?_eq_some {writer : Writer} {place : Nat} (next : writer.nextPlace? = some place) :
    writer.active < writer.limit ∧ (∃ message, writer.writes[place]? = some ⟨message, .sent⟩) ∧
      ∀ earlier < place, ∀ write, writer.writes[earlier]? = some write →
        write.progress.isSent = false := by
  unfold nextPlace? at next
  split at next
  · rename_i room
    have first : writer.writes.findIdx? (fun write => write.progress.isSent) = some place := next
    obtain ⟨inRange, isSent, earlier⟩ := List.findIdx?_eq_some_iff_getElem.mp first
    refine ⟨room, ?_, fun other before write found => ?_⟩
    · refine ⟨writer.writes[place].message, ?_⟩
      rw [List.getElem?_eq_getElem inRange]
      revert isSent
      rcases writer.writes[place] with ⟨message, progress⟩
      cases progress <;> simp [Progress.isSent]
    · obtain ⟨_, rfl⟩ := List.getElem?_eq_some_iff.mp found
      exact Bool.eq_false_iff.mpr (earlier other before)
  · cases next

end Writer

namespace Ingestion

/-! ### What one event can do -/

/-- Before and after an event. -/
inductive Change (before : Ingestion) : Event → Ingestion → Prop
  | sent (message : Message) (isOpen : before.isOpen = true) :
      Change before (.send message) { before with writer := before.writer.send message }
  | closed : Change before .close { before with isOpen := false }
  | received (place : Nat) (message : Message) (room : before.writer.active < before.writer.limit)
      (found : before.writer.writes[place]? = some ⟨message, .sent⟩)
      (first : ∀ earlier < place, ∀ write, before.writer.writes[earlier]? = some write →
        write.progress.isSent = false) :
      Change before .receive { before with writer := before.writer.setProgress place .mapping }
  | asked (place : Nat) (message : Message)
      (found : before.writer.writes[place]? = some ⟨message, .mapping⟩)
      (fresh : before.asked.lookup place = none)
      (mapped : message.type.carriesMappedProperties = true) :
      Change before (.begin place) (before.ask place message.deviceId)
  | passed (place : Nat) (message : Message)
      (found : before.writer.writes[place]? = some ⟨message, .mapping⟩)
      (fresh : before.asked.lookup place = none)
      (unmapped : message.type.carriesMappedProperties = false) :
      Change before (.begin place) { before with writer :=
        { before.writer.setProgress place (.saving message) with
          handed := before.writer.handed ++ [place] } }
  | handed (place : Nat) (message : Message) (load : Nat) (result : Except MappingError (List Detail))
      (found : before.writer.writes[place]? = some ⟨message, .mapping⟩)
      (answer : before.answerFor place = some (load, result)) :
      Change before (.handOver place) { before with writer :=
        { before.writer.setProgress place (.saving (message.mappedBy result.toOption)) with
          handed := before.writer.handed ++ [place] } }
  | concluded (place : Nat) (message handed : Message) (accepted : Bool)
      (found : before.writer.writes[place]? = some ⟨message, .saving handed⟩) :
      Change before (.conclude place accepted) { before with
        writer := before.writer.setProgress place (.ended handed accepted)
        written := if accepted then before.written + 1 else before.written }
  | moved (move : Cache.Event (List Detail)) (kept : before.isAwaited move = false) :
      Change before (.cache move) { before with cache := (before.cache.step move).1 }
  | nothing (event : Event) (silent : ∀ message, event = .send message → before.isOpen = false) :
      Change before event before

section Step

variable (ingestion : Ingestion)

theorem change_receive :
    Change ingestion .receive { ingestion with writer := ingestion.writer.receive } := by
  unfold Writer.receive
  split
  · rename_i place next
    obtain ⟨room, ⟨message, found⟩, first⟩ := Writer.nextPlace?_eq_some next
    exact .received place message room found first
  · exact .nothing .receive nofun

theorem change_begin (place : Nat) : Change ingestion (.begin place) (ingestion.begin place) := by
  unfold begin
  split
  · rename_i message found fresh
    split
    · rename_i mapped
      exact .asked place message found fresh mapped
    · rename_i unmapped
      have given : ingestion.writer.handOver place none =
          { ingestion.writer.setProgress place (.saving message) with
            handed := ingestion.writer.handed ++ [place] } := by
        unfold Writer.handOver
        rw [found]
        rfl
      rw [given]
      exact .passed place message found fresh (Bool.eq_false_iff.mpr unmapped)
  · exact .nothing (.begin place) nofun

theorem change_handOver (place : Nat) :
    Change ingestion (.handOver place) (ingestion.handOver place) := by
  unfold handOver
  split
  · rename_i load result answer
    unfold Writer.handOver
    split
    · rename_i message found
      exact .handed place message load result found answer
    · exact .nothing (.handOver place) nofun
  · exact .nothing (.handOver place) nofun

theorem change_conclude (place : Nat) (accepted : Bool) :
    Change ingestion (.conclude place accepted) (ingestion.conclude place accepted) := by
  unfold conclude
  split
  · rename_i message handed found
    have given : ingestion.writer.conclude place accepted =
        ingestion.writer.setProgress place (.ended handed accepted) := by
      unfold Writer.conclude
      rw [found]
    rw [given]
    exact .concluded place message handed accepted found
  · exact .nothing (.conclude place accepted) nofun

theorem change_step (event : Event) : Change ingestion event (ingestion.step event) := by
  cases event with
  | send message =>
    show Change ingestion (.send message) (ingestion.send message)
    unfold send
    split
    · rename_i isOpen
      exact .sent message isOpen
    · rename_i gone
      exact .nothing (.send message) fun _ _ => Bool.eq_false_iff.mpr gone
  | close => exact .closed
  | receive => exact change_receive ingestion
  | begin place => exact change_begin ingestion place
  | handOver place => exact change_handOver ingestion place
  | conclude place accepted => exact change_conclude ingestion place accepted
  | cache move =>
    show Change ingestion (.cache move) (ingestion.onCache move)
    unfold onCache
    split
    · exact .nothing (.cache move) nofun
    · rename_i kept
      exact .moved move (Bool.eq_false_iff.mpr kept)

end Step

/-- The cache makes a step of its own, or none. -/
theorem Change.exists_move {before after : Ingestion} {event : Event}
    (change : Change before event after) :
    after.cache = before.cache ∨ ∃ move, after.cache = (before.cache.step move).1 := by
  cases change with
  | asked place message => exact .inr ⟨.get message.deviceId, rfl⟩
  | moved move => exact .inr ⟨move, rfl⟩
  | sent | closed | received | passed | handed | concluded | nothing => exact .inl rfl

/-- Only giving a call up can be giving up one that is awaited. -/
theorem isAwaited_of_keeps (ingestion : Ingestion) {move : Cache.Event (List Detail)}
    (keeps : ∀ call, move ≠ .abandon call) : ingestion.isAwaited move = false := by
  cases move with
  | abandon call => exact (keeps call rfl).elim
  | get | peek | invalidateAll | purge | advance | grant | finish | crash | take => rfl

/-- What happens to the cache alone, no call that is awaited being given up. -/
theorem run_cache (ingestion : Ingestion) {moves : List (Cache.Event (List Detail))}
    (kept : ∀ move ∈ moves, ingestion.isAwaited move = false) :
    ingestion.run (moves.map .cache) = { ingestion with cache := ingestion.cache.run moves } := by
  induction moves generalizing ingestion with
  | nil => rfl
  | cons move rest ih =>
    have moved : ingestion.step (.cache move) =
        { ingestion with cache := (ingestion.cache.step move).1 } := by
      show ingestion.onCache move = _
      unfold onCache
      rw [kept move List.mem_cons_self]
      rfl
    show (ingestion.step (.cache move)).run (rest.map .cache) = _
    rw [moved, ih]
    · rfl
    · exact fun other member => kept other (List.mem_cons_of_mem _ member)

/-- Messages sent while there is a sender are there to be taken up. -/
theorem run_sends {ingestion : Ingestion} (isOpen : ingestion.isOpen = true)
    (messages : List Message) :
    ingestion.run (messages.map .send) = { ingestion with writer := { ingestion.writer with
      writes := ingestion.writer.writes ++ messages.map fun message => ⟨message, .sent⟩ } } := by
  induction messages generalizing ingestion with
  | nil =>
    rw [List.map_nil, List.map_nil, List.append_nil]
    rfl
  | cons message rest ih =>
    have sends : ingestion.step (.send message) =
        { ingestion with writer := ingestion.writer.send message } := if_pos isOpen
    show (ingestion.step (.send message)).run (rest.map .send) = _
    rw [sends, ih, Writer.send, List.append_assoc]
    · rfl
    · exact isOpen

theorem sentBy_append_sends (messages : List Message) (events : List Event) :
    sentBy (messages.map .send ++ events) = messages ++ sentBy events := by
  induction messages with
  | nil => rfl
  | cons message rest ih => exact congrArg (message :: ·) ih

theorem run_append (ingestion : Ingestion) (before after : List Event) :
    ingestion.run (before ++ after) = (ingestion.run before).run after :=
  List.foldl_append

/-! ### The calls of the writes -/

theorem lookup_ask (ingestion : Ingestion) (place : Nat) (device : String) (other : Nat) :
    (ingestion.ask place device).asked.lookup other = (ingestion.asked.lookup other).or
      (if other = place then some ingestion.cache.calls.length else none) := by
  show (ingestion.asked ++ [_]).lookup other = _
  rw [List.lookup_append, List.lookup_cons]
  by_cases same : other = place
  · rw [if_pos same, beq_iff_eq.mpr same]
  · rw [if_neg same, beq_false_of_ne same]
    rfl

/-- A write has its call, or it is the one that asks. -/
theorem lookup_ask_eq_some_iff {ingestion : Ingestion} {place other call : Nat} {device : String} :
    (ingestion.ask place device).asked.lookup other = some call ↔
      ingestion.asked.lookup other = some call ∨ ingestion.asked.lookup other = none ∧
        other = place ∧ ingestion.cache.calls.length = call := by
  rw [lookup_ask, Option.or_eq_some_iff, Option.ite_none_right_eq_some, Option.some_inj]

theorem lookup_ask_of_ne (ingestion : Ingestion) {place other : Nat} (device : String)
    (different : other ≠ place) :
    (ingestion.ask place device).asked.lookup other = ingestion.asked.lookup other := by
  rw [lookup_ask, if_neg different, Option.or_none]

/-! ### What stays -/

/-- The cache has grown, and the writes keep what they have. -/
structure Later (before after : Ingestion) : Prop where
  cache : Cache.Grows before.cache after.cache
  asked : ∀ place call, before.asked.lookup place = some call →
    after.asked.lookup place = some call
  writes : ∀ (place : Nat) (message : Message) (progress : Progress),
    before.writer.writes[place]? = some ⟨message, progress⟩ →
      ∃ next : Progress, after.writer.writes[place]? = some ⟨message, next⟩ ∧
        (progress.isSent = false → next.isSent = false) ∧
        ∀ handed, progress.handed? = some handed → next.handed? = some handed

namespace Later

variable {before middle after : Ingestion}

theorem refl (ingestion : Ingestion) : Later ingestion ingestion :=
  ⟨.same rfl rfl, fun _ _ found => found,
    fun _ _ progress found => ⟨progress, found, id, fun _ is => is⟩⟩

theorem trans (first : Later before middle) (second : Later middle after) : Later before after := by
  refine ⟨first.cache.trans second.cache,
    fun place call found => second.asked place call (first.asked place call found),
    fun place message progress found => ?_⟩
  obtain ⟨next, found', taken, keeps⟩ := first.writes place message progress found
  obtain ⟨last, found'', taken', keeps'⟩ := second.writes place message next found'
  exact ⟨last, found'', fun begun => taken' (taken begun), fun handed is =>
    keeps' handed (keeps handed is)⟩

/-- A write may go on as long as what it gave to the sink stays. -/
theorem progressed {place : Nat} {message : Message} {progress next : Progress}
    (found : before.writer.writes[place]? = some ⟨message, progress⟩) (begun : next.isSent = false)
    (keeps : ∀ handed, progress.handed? = some handed → next.handed? = some handed)
    (cache : after.cache = before.cache) (asked : after.asked = before.asked)
    (writes : after.writer.writes = (before.writer.setProgress place next).writes) :
    Later before after := by
  refine ⟨cache ▸ .same rfl rfl, fun _ _ is => asked ▸ is, fun other owner state found' => ?_⟩
  rw [writes, Writer.getElem?_setProgress]
  by_cases same : place = other
  · subst same
    rw [found] at found'
    cases found'
    rw [if_pos rfl, found]
    exact ⟨next, rfl, fun _ => begun, keeps⟩
  · rw [if_neg same]
    exact ⟨state, found', id, fun _ is => is⟩

end Later

theorem later_change {before after : Ingestion} {event : Event}
    (change : Change before event after) : Later before after := by
  cases change with
  | sent message isOpen =>
    refine ⟨.same rfl rfl, fun _ _ found => found, fun place owner progress found => ?_⟩
    refine ⟨progress, ?_, id, fun _ is => is⟩
    show (before.writer.send message).writes[place]? = _
    rw [Writer.getElem?_send, if_neg (Nat.ne_of_lt (List.getElem?_eq_some_iff.mp found).1), found]
  | closed => exact ⟨.same rfl rfl, fun _ _ found => found, (Later.refl before).writes⟩
  | received place message room found first => exact .progressed found rfl nofun rfl rfl rfl
  | asked place message found fresh mapped =>
    exact ⟨Cache.grows_change (Cache.change_get _ _),
      fun other call is => lookup_ask_eq_some_iff.mpr (.inl is), (Later.refl before).writes⟩
  | passed place message found => exact .progressed found rfl nofun rfl rfl rfl
  | handed place message load result found => exact .progressed found rfl nofun rfl rfl rfl
  | concluded place message handed accepted found =>
    have keeps : ∀ given, (Progress.saving handed).handed? = some given →
        (Progress.ended handed accepted).handed? = some given := fun _ is => is
    exact .progressed found rfl keeps rfl rfl rfl
  | moved move kept =>
    exact ⟨Cache.grows_change (Cache.change_step _ move), fun _ _ found => found,
      (Later.refl before).writes⟩
  | nothing => exact .refl before

/-! ### The messages of the writer -/

/-- The messages of the writer, in the order sent. -/
def messages (ingestion : Ingestion) : List Message :=
  ingestion.writer.writes.map (·.message)

theorem messages_setProgress (writer : Writer) (place : Nat) (progress : Progress) :
    (writer.setProgress place progress).writes.map (·.message) = writer.writes.map (·.message) := by
  refine List.ext_getElem? fun other => ?_
  rw [List.getElem?_map, List.getElem?_map, Writer.getElem?_setProgress]
  split
  · rename_i same
    subst same
    rw [Option.map_map]
    rfl
  · rfl

theorem messages_of_change {before after : Ingestion} {event : Event}
    (change : Change before event after) (notSend : ∀ message, event ≠ .send message) :
    after.messages = before.messages := by
  cases change with
  | sent message => exact (notSend message rfl).elim
  | received | passed | handed | concluded => exact messages_setProgress before.writer _ _
  | closed | asked | moved | nothing => rfl

theorem isOpen_of_change {before after : Ingestion} {event : Event}
    (change : Change before event after) (notClose : event ≠ .close) :
    after.isOpen = before.isOpen := by
  cases change with
  | closed => exact (notClose rfl).elim
  | sent | received | asked | passed | handed | concluded | moved | nothing => rfl

theorem messages_send (ingestion : Ingestion) (message : Message) :
    (ingestion.send message).messages =
      ingestion.messages ++ (if ingestion.isOpen then [message] else []) := by
  unfold send
  split
  · exact List.map_append
  · exact (List.append_nil _).symm

/-- The writer has the messages that were sent while there was a sender. -/
theorem messages_run (ingestion : Ingestion) (events : List Event) :
    (ingestion.run events).messages =
      ingestion.messages ++ (if ingestion.isOpen then sentBy events else []) := by
  induction events generalizing ingestion with
  | nil => rw [sentBy, ite_self, List.append_nil]; rfl
  | cons event rest ih =>
    have change := change_step ingestion event
    have later : (ingestion.run (event :: rest)).messages = _ := ih (ingestion.step event)
    rw [later]
    cases event with
    | send message =>
      have same : (ingestion.send message).isOpen = ingestion.isOpen :=
        isOpen_of_change change nofun
      show (ingestion.send message).messages ++ (if (ingestion.send message).isOpen then _ else _) = _
      rw [messages_send, same, List.append_assoc]
      cases ingestion.isOpen <;> rfl
    | close =>
      show ingestion.messages ++ [] = _
      rw [sentBy, ite_self]
    | receive | begin | handOver | conclude | cache =>
      rw [messages_of_change change nofun, isOpen_of_change change nofun]
      rfl

end Ingestion

end DeviceMapping
