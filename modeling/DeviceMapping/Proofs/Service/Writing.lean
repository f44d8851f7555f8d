/-
**Every message is written once.**

* `Orderly`: messages are taken up in the order sent and no more at once than the limit; the sink
  is given each message once; and of the messages sent before one that it is given, fewer than the
  limit come after it (`orderly_change`, `orderly_run`).
* `Faithful`: what the sink is given is the message itself, save for the properties that were mapped
  by what the write's own call was answered (`faithful_change`, `faithful_run`).
* `gives_each_message_once`: both for every run, and what they come to once the writer has returned.
-/

import DeviceMapping.Proofs.Service.Ingestion

namespace DeviceMapping

namespace Writer

/-! ### Counting writes -/

theorem writes_setProgress {writer : Writer} {place : Nat} {message : Message} {old : Progress}
    (found : writer.writes[place]? = some ⟨message, old⟩) (new : Progress) :
    (writer.setProgress place new).writes = writer.writes.set place ⟨message, new⟩ := by
  refine List.ext_getElem? fun other => ?_
  rw [getElem?_setProgress, found, List.getElem?_set, if_pos (List.getElem?_eq_some_iff.mp found).1]
  rfl

/-- A write that goes on counts for what it is then. -/
theorem countP_setProgress {writer : Writer} {place : Nat} {message : Message} {old : Progress}
    (found : writer.writes[place]? = some ⟨message, old⟩) (new : Progress)
    (counts : Progress → Bool) :
    ((writer.setProgress place new).writes.countP fun write => counts write.progress) +
        (if counts old then 1 else 0) =
      (writer.writes.countP fun write => counts write.progress) + if counts new then 1 else 0 := by
  obtain ⟨inRange, is⟩ := List.getElem?_eq_some_iff.mp found
  have atPlace : (if counts old then 1 else 0) ≤
      writer.writes.countP fun write => counts write.progress := by
    split
    · rename_i counted
      exact List.countP_pos_iff.mpr ⟨_, List.mem_of_getElem? found, counted⟩
    · exact Nat.zero_le _
  rw [writes_setProgress found, List.countP_set inRange, is]
  dsimp only
  omega

theorem countP_send (writer : Writer) (message : Message) (counts : Progress → Bool)
    (notSent : counts .sent = false) :
    ((writer.send message).writes.countP fun write => counts write.progress) =
      writer.writes.countP fun write => counts write.progress := by
  show (writer.writes ++ [_]).countP _ = _
  rw [List.countP_append, List.countP_singleton, notSent]
  rfl

theorem active_setProgress {writer : Writer} {place : Nat} {message : Message} {old : Progress}
    (found : writer.writes[place]? = some ⟨message, old⟩) (new : Progress) :
    (writer.setProgress place new).active + (if old.isActive then 1 else 0) =
      writer.active + if new.isActive then 1 else 0 :=
  countP_setProgress found new Progress.isActive

/-- The write of a message has begun and not ended. -/
def isActiveAt (writer : Writer) (place : Nat) : Bool :=
  (writer.writes[place]?).any fun write => write.progress.isActive

/-- The writes in progress are counted by their places. -/
theorem active_eq (writer : Writer) :
    writer.active = (List.range writer.writes.length).countP writer.isActiveAt := by
  have places : (List.range writer.writes.length).map (writer.writes[·]?) =
      writer.writes.map some := by
    refine List.ext_getElem (by simp) fun place inRange inRange' => ?_
    rw [List.getElem_map, List.getElem_map, List.getElem_range,
      List.getElem?_eq_getElem (by simpa using inRange)]
  calc writer.active
      = (writer.writes.map some).countP fun write => write.any fun write =>
          write.progress.isActive := by rw [List.countP_map]; rfl
    _ = (List.range writer.writes.length).countP writer.isActiveAt := by
          rw [← places, List.countP_map]; rfl

/-- Beside a write in progress, no more writes of earlier messages are than the rest of those in
progress. -/
theorem countP_lt_active {writer : Writer} {place : Nat} (isActive : writer.isActiveAt place = true)
    {counts : Nat → Bool}
    (active : ∀ earlier < place, counts earlier = true → writer.isActiveAt earlier = true) :
    (List.range place).countP counts < writer.active := by
  have inRange : place < writer.writes.length := by
    refine Nat.lt_of_not_le fun beyond => ?_
    rw [isActiveAt, List.getElem?_eq_none beyond] at isActive
    cases isActive
  have earlier : (List.range place).countP counts ≤ (List.range place).countP writer.isActiveAt :=
    List.countP_mono_left fun other member => active other (List.mem_range.mp member)
  have upTo : (List.range (place + 1)).countP writer.isActiveAt =
      (List.range place).countP writer.isActiveAt + 1 := by
    rw [List.range_succ, List.countP_append, List.countP_singleton, if_pos isActive]
  have all : (List.range (place + 1)).countP writer.isActiveAt ≤
      (List.range writer.writes.length).countP writer.isActiveAt :=
    (List.range_sublist.mpr inRange).countP_le
  rw [active_eq]
  omega

/-! ### Order -/

/-- How many of the messages sent before a place are not among the places. -/
def overtaken (places : List Nat) (place : Nat) : Nat :=
  (List.range place).countP fun earlier => decide (earlier ∉ places)

/-- What holds of a writer at any time. -/
structure Orderly (writer : Writer) : Prop where
  active_le : writer.active ≤ writer.limit
  taken : ∃ taken ≤ writer.writes.length, ∀ place write, writer.writes[place]? = some write →
    (write.progress.isSent = true ↔ taken ≤ place)
  handed_nodup : writer.handed.Nodup
  mem_handed_iff : ∀ place, place ∈ writer.handed ↔
    ∃ message progress handed, writer.writes[place]? = some ⟨message, progress⟩ ∧
      progress.handed? = some handed
  overtaken_lt : ∀ before place after, writer.handed = before ++ place :: after →
    overtaken before place < writer.limit

theorem orderly_new (concurrency : Nat) : Orderly (.new concurrency []) := by
  refine ⟨Nat.zero_le _, ⟨0, Nat.zero_le _, fun place write found => ?_⟩, List.nodup_nil,
    fun place => iff_of_false List.not_mem_nil ?_, fun before place after split => ?_⟩
  · cases found
  · rintro ⟨_, _, _, found, -⟩
    cases found
  · cases before <;> cases split

/-- The last of some items, or one of those before it, with what stands before it. -/
theorem split_concat {α : Type} {items before after : List α} {last item : α}
    (split : items ++ [last] = before ++ item :: after) :
    before = items ∧ item = last ∨ ∃ rest, items = before ++ item :: rest := by
  rcases List.append_eq_append_iff.mp split with ⟨more, rfl, is⟩ | ⟨more, rfl, is⟩
  · cases more with
    | nil =>
      cases is
      exact .inl ⟨List.append_nil _, rfl⟩
    | cons _ others => cases others <;> cases is
  · cases more with
    | nil =>
      cases is
      exact .inl ⟨(List.append_nil _).symm, rfl⟩
    | cons _ others =>
      cases is
      exact .inr ⟨others, rfl⟩

namespace Orderly

variable {writer : Writer} {place : Nat} {message : Message} {old new : Progress}

/-- A write that was not handed over is not among those that were. -/
theorem not_mem_handed (orderly : Orderly writer)
    (found : writer.writes[place]? = some ⟨message, old⟩) (unhanded : old.handed? = none) :
    place ∉ writer.handed := by
  intro member
  obtain ⟨_, progress, handed, found', is⟩ := (orderly.mem_handed_iff place).mp member
  rw [found] at found'
  cases found'
  rw [unhanded] at is
  cases is

/-- A write that has begun may go on. -/
theorem taken_setProgress (orderly : Orderly writer)
    (found : writer.writes[place]? = some ⟨message, old⟩) (begun : old.isSent = false)
    (goesOn : new.isSent = false) :
    ∃ taken ≤ (writer.setProgress place new).writes.length, ∀ other write,
      (writer.setProgress place new).writes[other]? = some write →
        (write.progress.isSent = true ↔ taken ≤ other) := by
  obtain ⟨taken, inRange, isSent⟩ := orderly.taken
  refine ⟨taken, ?_, fun other write found' => ?_⟩
  · show taken ≤ (writer.writes.modify place _).length
    rw [List.length_modify]
    exact inRange
  · rw [getElem?_setProgress] at found'
    split at found'
    · rename_i same
      subst same
      rw [found] at found'
      cases found'
      rw [← isSent place _ found]
      simp only [begun, goesOn]
    · exact isSent other write found'

theorem mem_handed_setProgress (orderly : Orderly writer)
    (found : writer.writes[place]? = some ⟨message, old⟩)
    (same : new.handed?.isSome = old.handed?.isSome) (other : Nat) :
    other ∈ writer.handed ↔ ∃ message progress handed,
      (writer.setProgress place new).writes[other]? = some ⟨message, progress⟩ ∧
        progress.handed? = some handed := by
  rw [orderly.mem_handed_iff, getElem?_setProgress]
  split
  · rename_i here
    subst here
    rw [found]
    constructor
    · rintro ⟨_, _, handed, is, given⟩
      cases is
      obtain ⟨handed', given'⟩ := Option.isSome_iff_exists.mp (same.trans (by rw [given]; rfl))
      exact ⟨message, new, handed', rfl, given'⟩
    · rintro ⟨_, _, handed, is, given⟩
      cases is
      obtain ⟨handed', given'⟩ := Option.isSome_iff_exists.mp (same.symm.trans (by rw [given]; rfl))
      exact ⟨message, old, handed', rfl, given'⟩
  · rfl

/-- A write that was not handed over goes on; as many are in progress as the count tells. -/
theorem unhanded (orderly : Orderly writer)
    (found : writer.writes[place]? = some ⟨message, old⟩) (begun : old.isSent = false)
    (goesOn : new.isSent = false) (same : new.handed?.isSome = old.handed?.isSome)
    (notMore : new.isActive = true → old.isActive = true) :
    Orderly (writer.setProgress place new) := by
  refine ⟨?_, orderly.taken_setProgress found begun goesOn, orderly.handed_nodup,
    orderly.mem_handed_setProgress found same, orderly.overtaken_lt⟩
  have count := active_setProgress found new
  have bounded := orderly.active_le
  show (writer.setProgress place new).active ≤ writer.limit
  cases isActive : new.isActive with
  | false =>
    rw [isActive] at count
    simp only [Bool.false_eq_true, if_false] at count
    omega
  | true =>
    rw [isActive, notMore isActive] at count
    omega

/-- A message is sent. -/
theorem send (orderly : Orderly writer) (message : Message) : Orderly (writer.send message) := by
  obtain ⟨taken, inRange, isSent⟩ := orderly.taken
  refine ⟨?_, ⟨taken, ?_, fun other write found => ?_⟩, orderly.handed_nodup, fun other => ?_,
    orderly.overtaken_lt⟩
  · show (writer.send message).active ≤ writer.limit
    unfold active
    rw [countP_send writer message Progress.isActive rfl]
    exact orderly.active_le
  · show taken ≤ (writer.writes ++ [_]).length
    rw [List.length_append]
    exact Nat.le_add_right_of_le inRange
  · rw [getElem?_send] at found
    split at found
    · rename_i last
      cases found
      exact iff_of_true rfl (last ▸ inRange)
    · exact isSent other write found
  · show other ∈ writer.handed ↔ _
    rw [orderly.mem_handed_iff, getElem?_send]
    split
    · rename_i last
      refine iff_of_false ?_ ?_
      · rintro ⟨_, _, _, found, -⟩
        exact absurd (List.getElem?_eq_some_iff.mp found).1 (Nat.not_lt.mpr (Nat.le_of_eq last.symm))
      · rintro ⟨_, _, _, is, given⟩
        cases is
        cases given
    · rfl

/-- The first message not taken up is taken up. -/
theorem receive (orderly : Orderly writer) (room : writer.active < writer.limit)
    (found : writer.writes[place]? = some ⟨message, .sent⟩)
    (first : ∀ earlier < place, ∀ write, writer.writes[earlier]? = some write →
      write.progress.isSent = false) : Orderly (writer.setProgress place .mapping) := by
  obtain ⟨taken, inRange, isSent⟩ := orderly.taken
  have notAfter : taken ≤ place := (isSent place _ found).mp rfl
  have here : taken = place := by
    refine Nat.le_antisymm notAfter (Nat.le_of_not_lt fun before => ?_)
    have within : taken < writer.writes.length :=
      Nat.lt_trans before (List.getElem?_eq_some_iff.mp found).1
    have begun := first taken before _ (List.getElem?_eq_getElem within)
    rw [(isSent taken _ (List.getElem?_eq_getElem within)).mpr (Nat.le_refl _)] at begun
    cases begun
  subst here
  refine ⟨?_, ⟨taken + 1, ?_, fun other write found' => ?_⟩, orderly.handed_nodup,
    orderly.mem_handed_setProgress found rfl, orderly.overtaken_lt⟩
  · have count := active_setProgress found .mapping
    show (writer.setProgress taken .mapping).active ≤ writer.limit
    simp only [Progress.isActive, Bool.false_eq_true, if_false, if_true] at count
    omega
  · show taken + 1 ≤ (writer.writes.modify taken _).length
    rw [List.length_modify]
    exact (List.getElem?_eq_some_iff.mp found).1
  · rw [getElem?_setProgress] at found'
    split at found'
    · rename_i same
      subst same
      rw [found] at found'
      cases found'
      exact iff_of_false nofun (Nat.not_succ_le_self _)
    · rename_i elsewhere
      rw [isSent other write found']
      omega

/-- All earlier messages that were not handed over are in progress. -/
theorem overtaken_handed_lt (orderly : Orderly writer)
    (found : writer.writes[place]? = some ⟨message, .mapping⟩) :
    overtaken writer.handed place < writer.limit := by
  obtain ⟨taken, inRange, isSent⟩ := orderly.taken
  have begun : place < taken := Nat.lt_of_not_le fun before => by
    cases (isSent place _ found).mpr before
  have isActive : writer.isActiveAt place = true := by
    rw [isActiveAt, found]
    rfl
  refine Nat.lt_of_lt_of_le (countP_lt_active isActive fun earlier before unhanded => ?_)
    orderly.active_le
  have within : earlier < writer.writes.length := by omega
  have found' := List.getElem?_eq_getElem within
  have begun' : (writer.writes[earlier]).progress.isSent = false :=
    Bool.eq_false_iff.mpr fun sent => by
      have := (isSent earlier _ found').mp sent
      omega
  rw [isActiveAt, found']
  show (writer.writes[earlier]).progress.isActive = true
  have notHanded := mt (orderly.mem_handed_iff earlier).mpr (of_decide_eq_true unhanded)
  revert found' begun' notHanded
  generalize writer.writes[earlier] = write
  intro found' begun' notHanded
  obtain ⟨message, progress⟩ := write
  cases progress with
  | sent => cases begun'
  | mapping => rfl
  | saving handed => exact (notHanded ⟨_, _, handed, found', rfl⟩).elim
  | ended handed accepted => exact (notHanded ⟨_, _, handed, found', rfl⟩).elim

/-- A message is handed over. -/
theorem handOver (orderly : Orderly writer)
    (found : writer.writes[place]? = some ⟨message, .mapping⟩) (given : Message) :
    Orderly { writer.setProgress place (.saving given) with
      handed := writer.handed ++ [place] } := by
  have fresh : place ∉ writer.handed := orderly.not_mem_handed found rfl
  refine ⟨?_, orderly.taken_setProgress found rfl rfl, ?_, fun other => ?_,
    fun before other after split => ?_⟩
  · have count := active_setProgress found (.saving given)
    have bounded := orderly.active_le
    show (writer.setProgress place (.saving given)).active ≤ writer.limit
    simp only [Progress.isActive, if_true] at count
    omega
  · refine List.nodup_append.mpr ⟨orderly.handed_nodup, List.pairwise_singleton _ place, ?_⟩
    intro other member last isLast same
    rw [List.mem_singleton.mp isLast] at same
    exact fresh (same ▸ member)
  · show other ∈ writer.handed ++ [place] ↔ _
    rw [List.mem_append, List.mem_singleton, orderly.mem_handed_iff]
    show _ ↔ ∃ message progress handed,
      (writer.setProgress place (.saving given)).writes[other]? = some ⟨message, progress⟩ ∧ _
    rw [getElem?_setProgress]
    split
    · rename_i same
      subst same
      rw [found]
      exact iff_of_true (.inr rfl) ⟨message, .saving given, given, rfl, rfl⟩
    · rename_i elsewhere
      exact or_iff_left fun same => elsewhere same.symm
  · rcases split_concat split with ⟨rfl, rfl⟩ | ⟨rest, split⟩
    · exact orderly.overtaken_handed_lt found
    · exact orderly.overtaken_lt before other rest split

end Orderly

end Writer

namespace Ingestion

theorem orderly_change {before after : Ingestion} {event : Event}
    (orderly : before.writer.Orderly) (change : Change before event after) :
    after.writer.Orderly := by
  cases change with
  | sent message isOpen => exact orderly.send message
  | received place message room found first => exact orderly.receive room found first
  | passed place message found => exact orderly.handOver found message
  | handed place message load result found => exact orderly.handOver found _
  | concluded place message handed accepted found =>
    exact orderly.unhanded found rfl rfl rfl nofun
  | closed | asked | moved | nothing => exact orderly

theorem orderly_run {ingestion : Ingestion} (orderly : ingestion.writer.Orderly)
    (events : List Event) : (ingestion.run events).writer.Orderly := by
  induction events generalizing ingestion with
  | nil => exact orderly
  | cons event rest ih => exact ih (orderly_change orderly (change_step ingestion event))

theorem orderly_of_new (settings : CacheSettings) (concurrency : Nat) (events : List Event) :
    ((Ingestion.new settings concurrency).run events).writer.Orderly := by
  have new : (Ingestion.new settings concurrency).writer.Orderly := Writer.orderly_new concurrency
  exact orderly_run new events

/-! ### What the sink is given -/

/-- The sink is given the message itself, with its properties mapped if it is of a type whose
properties are mapped and the load of its device that the write asked for succeeded. -/
def Gives (ingestion : Ingestion) (place : Nat) (message handed : Message) : Prop :=
  if message.type.carriesMappedProperties then
    ∃ load phase result, ingestion.answerFor place = some (load, result) ∧
      ingestion.cache.loads[load]? = some ⟨message.deviceId, phase⟩ ∧
      phase.result? = some result ∧
      handed = match result with
        | .ok details =>
          { message with properties := (Payload.map message.properties details).properties }
        | .error _ => message
  else handed = message

/-- What holds of the calls of the writes and of what the sink was given, at any time. -/
structure Faithful (ingestion : Ingestion) : Prop where
  tidy : ∃ mark, Cache.Tidy mark ingestion.cache
  answered : Cache.Answered ingestion.cache
  asks : ∀ place call, ingestion.asked.lookup place = some call →
    ∃ message progress state phase,
      ingestion.writer.writes[place]? = some ⟨message, progress⟩ ∧ progress.isSent = false ∧
      message.type.carriesMappedProperties = true ∧ ingestion.cache.calls[call]? = some state ∧
      ingestion.cache.loads[state.load]? = some ⟨message.deviceId, phase⟩
  gives : ∀ place message progress handed,
    ingestion.writer.writes[place]? = some ⟨message, progress⟩ →
      progress.handed? = some handed → ingestion.Gives place message handed
  counted : ingestion.written = ingestion.writer.written

theorem faithful_new (settings : CacheSettings) (concurrency : Nat) :
    Faithful (.new settings concurrency) := by
  refine ⟨⟨0, Cache.tidy_new settings⟩, Cache.answered_new settings, fun place call asked => ?_,
    fun place message progress handed found => ?_, rfl⟩
  · cases asked
  · cases found

section Later

variable {before after : Ingestion} {place : Nat}

/-- An answer stays. -/
theorem Later.answerFor (later : Later before after)
    {answer : Nat × Except MappingError (List Detail)}
    (answered : before.answerFor place = some answer) : after.answerFor place = some answer := by
  obtain ⟨call, asked, answered⟩ := Option.bind_eq_some_iff.mp answered
  obtain ⟨state, found, is⟩ := Option.bind_eq_some_iff.mp answered
  obtain ⟨next, found', becomes⟩ := later.cache.calls call state found
  unfold Ingestion.answerFor
  rw [later.asked place call asked]
  show (after.cache.calls[call]?).bind Call.answer? = some answer
  rw [found']
  cases becomes with
  | stays => exact is
  | answered | abandoned => cases is

theorem Gives.later {message handed : Message} (gives : before.Gives place message handed)
    (later : Later before after) : after.Gives place message handed := by
  unfold Gives at *
  split
  · rename_i mapped
    rw [if_pos mapped] at gives
    obtain ⟨load, phase, result, answer, begun, ended, is⟩ := gives
    obtain ⟨next, begun', keeps⟩ := later.cache.loads load _ phase begun
    exact ⟨load, next, result, later.answerFor answer, begun', keeps result ended, is⟩
  · rename_i unmapped
    rw [if_neg unmapped] at gives
    exact gives

end Later

section Faithful

variable {before after : Ingestion} {event : Event}

theorem Faithful.sound (faithful : Faithful before) (change : Change before event after) :
    (∃ mark, Cache.Tidy mark after.cache) ∧ Cache.Answered after.cache := by
  obtain ⟨mark, tidy⟩ := faithful.tidy
  rcases change.exists_move with same | ⟨move, moved⟩
  · rw [same]
    exact ⟨⟨mark, tidy⟩, faithful.answered⟩
  · rw [moved]
    have step := Cache.change_step before.cache move
    exact ⟨⟨_, Cache.tidy_change tidy step⟩, Cache.answered_change tidy faithful.answered step⟩

/-- A call that was asked before depends on a load of the device of its message. -/
theorem Faithful.asks_later (faithful : Faithful before) (later : Later before after) {place call : Nat}
    (asked : before.asked.lookup place = some call) :
    ∃ message progress state phase, after.writer.writes[place]? = some ⟨message, progress⟩ ∧
      progress.isSent = false ∧ message.type.carriesMappedProperties = true ∧
      after.cache.calls[call]? = some state ∧
      after.cache.loads[state.load]? = some ⟨message.deviceId, phase⟩ := by
  obtain ⟨message, progress, state, phase, found, taken, mapped, called, begun⟩ :=
    faithful.asks place call asked
  obtain ⟨next, found', stays, -⟩ := later.writes place message progress found
  obtain ⟨state', called', becomes⟩ := later.cache.calls call state called
  obtain ⟨phase', begun', -⟩ := later.cache.loads state.load _ phase begun
  exact ⟨message, next, state', phase', found', stays taken, mapped, called',
    becomes.load_eq ▸ begun'⟩

/-- A write that asks for details depends on a load of the device of its message. -/
theorem Faithful.asks_ask (faithful : Faithful before) {place : Nat} {message : Message}
    (fresh : before.asked.lookup place = none)
    (found : before.writer.writes[place]? = some ⟨message, .mapping⟩)
    (mapped : message.type.carriesMappedProperties = true) {other call : Nat}
    (asked : (before.ask place message.deviceId).asked.lookup other = some call) :
    ∃ message' progress state phase, before.writer.writes[other]? = some ⟨message', progress⟩ ∧
      progress.isSent = false ∧ message'.type.carriesMappedProperties = true ∧
      (before.cache.get message.deviceId).calls[call]? = some state ∧
      (before.cache.get message.deviceId).loads[state.load]? =
        some ⟨message'.deviceId, phase⟩ := by
  have change := Change.asked place message found fresh mapped
  rcases lookup_ask_eq_some_iff.mp asked with old | ⟨-, rfl, rfl⟩
  · exact faithful.asks_later (later_change change) old
  · obtain ⟨⟨mark, tidy⟩, -⟩ := faithful.sound change
    obtain ⟨state, slot, calls, filled, names⟩ :=
      Cache.exists_call_of_get (Cache.change_get before.cache message.deviceId)
    obtain ⟨-, phase, begun⟩ := (filled ▸ tidy.fits message.deviceId).of_slot
    refine ⟨message, .mapping, state, phase, found, rfl, mapped, ?_, names ▸ begun⟩
    rw [calls]
    exact List.getElem?_concat_length

/-- Where one write goes on, what was given before stays. -/
theorem Faithful.gives_setProgress (faithful : Faithful before) (later : Later before after)
    {place : Nat} {message : Message} {old new : Progress}
    (found : before.writer.writes[place]? = some ⟨message, old⟩)
    (writes : after.writer.writes = (before.writer.setProgress place new).writes)
    (given : ∀ handed, new.handed? = some handed → after.Gives place message handed)
    (other : Nat) (message' : Message) (progress : Progress) (handed : Message)
    (found' : after.writer.writes[other]? = some ⟨message', progress⟩)
    (is : progress.handed? = some handed) : after.Gives other message' handed := by
  rw [writes, Writer.getElem?_setProgress] at found'
  split at found'
  · rename_i same
    subst same
    rw [found] at found'
    cases found'
    exact given handed is
  · exact (faithful.gives other message' progress handed found' is).later later

theorem written_setProgress {writer : Writer} {place : Nat} {message : Message} {old : Progress}
    (found : writer.writes[place]? = some ⟨message, old⟩) (notYet : old.isAccepted = false)
    (new : Progress) : (writer.setProgress place new).written =
      if new.isAccepted then writer.written + 1 else writer.written := by
  have count := Writer.countP_setProgress found new Progress.isAccepted
  rw [notYet] at count
  unfold Writer.written
  split <;> simp_all

/-- A write whose message is mapped gives what its call was answered. -/
theorem Faithful.gives_answer (faithful : Faithful before) {place : Nat} {message : Message}
    {load : Nat} {result : Except MappingError (List Detail)}
    (found : before.writer.writes[place]? = some ⟨message, .mapping⟩)
    (answer : before.answerFor place = some (load, result)) :
    before.Gives place message (message.mappedBy result.toOption) := by
  obtain ⟨call, asked, called⟩ := Option.bind_eq_some_iff.mp answer
  obtain ⟨owner, progress, state, phase, found', -, mapped, called', begun⟩ :=
    faithful.asks place call asked
  rw [found] at found'
  cases found'
  obtain ⟨state', found'', is⟩ := Option.bind_eq_some_iff.mp called
  rw [called'] at found''
  cases found''
  rw [Call.load_of_answer is] at begun
  have ended := faithful.answered.answers state (List.mem_of_getElem? called') load result is
  rw [Cache.resultOf_of_getElem? begun] at ended
  unfold Gives
  rw [if_pos mapped]
  refine ⟨load, phase, result, answer, begun, ended, ?_⟩
  cases result with
  | ok details => exact if_pos mapped
  | error fault => rfl

theorem faithful_change (faithful : Faithful before) (change : Change before event after) :
    Faithful after := by
  have later := later_change change
  obtain ⟨tidy, answered⟩ := faithful.sound change
  cases change with
  | sent message isOpen =>
    refine ⟨tidy, answered, fun place call asked => faithful.asks_later later asked,
      fun place owner progress handed found is => ?_, ?_⟩
    · replace found : (before.writer.send message).writes[place]? = _ := found
      rw [Writer.getElem?_send] at found
      split at found
      · cases found
        cases is
      · exact (faithful.gives place owner progress handed found is).later later
    · rw [faithful.counted]
      exact (Writer.countP_send before.writer message Progress.isAccepted rfl).symm
  | received place message room found first =>
    refine ⟨tidy, answered, fun other call asked => faithful.asks_later later asked,
      faithful.gives_setProgress later found rfl nofun, ?_⟩
    rw [faithful.counted]
    exact (written_setProgress found rfl .mapping).symm
  | asked place message found fresh mapped =>
    refine ⟨tidy, answered, fun other call asked => faithful.asks_ask fresh found mapped asked,
      fun other owner progress handed found' is => ?_, faithful.counted⟩
    exact (faithful.gives other owner progress handed found' is).later later
  | passed place message found fresh unmapped =>
    refine ⟨tidy, answered, fun other call asked => faithful.asks_later later asked,
      faithful.gives_setProgress later found rfl fun handed is => ?_, ?_⟩
    · cases is
      unfold Gives
      rw [unmapped]
      rfl
    · rw [faithful.counted]
      exact (written_setProgress found rfl (.saving message)).symm
  | handed place message load result found answer =>
    refine ⟨tidy, answered, fun other call asked => faithful.asks_later later asked,
      faithful.gives_setProgress later found rfl fun handed is => ?_, ?_⟩
    · cases is
      exact (faithful.gives_answer found answer).later later
    · rw [faithful.counted]
      exact (written_setProgress found rfl (.saving _)).symm
  | concluded place message handed accepted found =>
    refine ⟨tidy, answered, fun other call asked => faithful.asks_later later asked,
      faithful.gives_setProgress later found rfl fun handed' is => ?_, ?_⟩
    · exact (faithful.gives place message (.saving handed) handed' found is).later later
    · rw [faithful.counted]
      exact (written_setProgress found rfl (.ended handed accepted)).symm
  | closed | moved =>
    exact ⟨tidy, answered, fun place call asked => faithful.asks_later later asked,
      fun place message progress handed found is =>
        (faithful.gives place message progress handed found is).later later, faithful.counted⟩
  | nothing => exact faithful

end Faithful

theorem faithful_run {ingestion : Ingestion} (faithful : Faithful ingestion)
    (events : List Event) : Faithful (ingestion.run events) := by
  induction events generalizing ingestion with
  | nil => exact faithful
  | cons event rest ih => exact ih (faithful_change faithful (change_step ingestion event))

/-! ### A whole run -/

theorem limit_change {before after : Ingestion} {event : Event} (change : Change before event after) :
    after.writer.limit = before.writer.limit := by
  cases change with
  | sent | closed | received | asked | passed | handed | concluded | moved | nothing => rfl

theorem limit_run (ingestion : Ingestion) (events : List Event) :
    (ingestion.run events).writer.limit = ingestion.writer.limit := by
  induction events generalizing ingestion with
  | nil => rfl
  | cons event rest ih => exact (ih _).trans (limit_change (change_step ingestion event))

/-- Once all writes have ended, each has given its message to the sink. -/
theorem ended_of_isDone {writer : Writer} (done : writer.isDone = true) {place : Nat}
    {message : Message} {progress : Progress}
    (found : writer.writes[place]? = some ⟨message, progress⟩) :
    ∃ handed accepted, progress = .ended handed accepted := by
  have ended := List.all_eq_true.mp done _ (List.mem_of_getElem? found)
  cases progress with
  | ended handed accepted => exact ⟨handed, accepted, rfl⟩
  | sent | mapping | saving => cases ended

/-- The sink has been given all messages, each once. -/
theorem perm_handed_of_isDone {writer : Writer} (orderly : writer.Orderly)
    (done : writer.isDone = true) : writer.handed.Perm (List.range writer.writes.length) := by
  refine (List.perm_ext_iff_of_nodup orderly.handed_nodup List.nodup_range).mpr fun place => ?_
  rw [orderly.mem_handed_iff, List.mem_range]
  constructor
  · rintro ⟨_, _, _, found, -⟩
    exact (List.getElem?_eq_some_iff.mp found).1
  · intro inRange
    have found := List.getElem?_eq_getElem inRange
    obtain ⟨handed, accepted, is⟩ := ended_of_isDone done found
    exact ⟨_, _, handed, found, by rw [is]; rfl⟩

/-- **Every message is written once.** In every run the writer has the messages that were sent, in
order. At any time no more writes are in progress than the limit, which is at least one; the sink
was given no message twice, and what it was given is the message itself with its properties mapped
where they are to be and the details of its device were obtained; and as many messages were counted
as the sink accepted. When the writer has returned, the sink was given every message. -/
theorem gives_each_message_once (settings : CacheSettings) (concurrency : Nat)
    (events : List Event) :
    let ingestion := (Ingestion.new settings concurrency).run events
    ingestion.messages = sentBy events ∧ ingestion.writer.active ≤ max 1 concurrency ∧
      ingestion.writer.handed.Nodup ∧
      (∀ place ∈ ingestion.writer.handed, ∃ message progress handed,
        ingestion.writer.writes[place]? = some ⟨message, progress⟩ ∧
          progress.handed? = some handed ∧ ingestion.Gives place message handed) ∧
      ingestion.written = ingestion.writer.written ∧
      (ingestion.hasReturned = true →
        ingestion.writer.handed.Perm (List.range (sentBy events).length) ∧
        ∀ place message, (sentBy events)[place]? = some message → ∃ handed accepted,
          ingestion.writer.writes[place]? = some ⟨message, .ended handed accepted⟩ ∧
            ingestion.Gives place message handed) := by
  intro ingestion
  have orderly : ingestion.writer.Orderly := orderly_of_new settings concurrency events
  have faithful : Faithful ingestion := faithful_run (faithful_new settings concurrency) events
  have sent : ingestion.messages = sentBy events := messages_run _ events
  have limit : ingestion.writer.limit = max 1 concurrency := limit_run _ events
  refine ⟨sent, limit ▸ orderly.active_le, orderly.handed_nodup, fun place member => ?_,
    faithful.counted, fun returned => ?_⟩
  · obtain ⟨message, progress, handed, found, is⟩ := (orderly.mem_handed_iff place).mp member
    exact ⟨message, progress, handed, found, is,
      faithful.gives place message progress handed found is⟩
  · have done : ingestion.writer.isDone = true := (Bool.and_eq_true_iff.mp returned).2
    have length : ingestion.writer.writes.length = (sentBy events).length := by
      rw [← sent]
      exact (List.length_map _).symm
    refine ⟨length ▸ perm_handed_of_isDone orderly done, fun place message isSent => ?_⟩
    rw [← sent] at isSent
    obtain ⟨⟨_, progress⟩, found, rfl⟩ := Option.map_eq_some_iff.mp (List.getElem?_map ▸ isSent)
    obtain ⟨handed, accepted, rfl⟩ := ended_of_isDone done found
    exact ⟨handed, accepted, found, faithful.gives place _ _ handed found rfl⟩

/-- A message with one raw value. -/
def sample (type : MessageType) (device : String) (value : Int) : Message :=
  ⟨type, device, some "sample", 7, .ofList [("raw", .integer value)]⟩

/-- A report whose load succeeds, a reply whose load fails and an event that the sink refuses; the
report is handed over last. -/
def mixed : List Event :=
  let power : Detail := ⟨"lamps", some "lamp", .property, "power", none, some "raw", none, true⟩
  [.send (sample .reportProperty "lamp" 1), .send (sample .readPropertyReply "spot" 2),
    .send (sample .event "lamp" 3), .close, .receive, .begin 0, .receive, .begin 1,
    .cache (.grant 0), .cache (.grant 1), .cache (.finish 1 (.error .loadCrashed)),
    .cache (.take 1), .handOver 1, .conclude 1 true, .receive, .begin 2,
    .cache (.finish 0 (.ok [power])), .cache (.take 0), .handOver 0, .conclude 0 true,
    .conclude 2 false]

theorem gives_each_message_once_mixed :
    let ingestion := (Ingestion.new .usual 2).run mixed
    ingestion.hasReturned = true ∧ ingestion.writer.handed = [1, 2, 0] ∧
      ingestion.writer.handed.Perm (List.range 3) ∧ ingestion.written = 2 ∧
      ∃ handed accepted, ingestion.writer.writes[0]? =
          some ⟨sample .reportProperty "lamp" 1, .ended handed accepted⟩ ∧
        ingestion.Gives 0 (sample .reportProperty "lamp" 1) handed := by
  obtain ⟨-, -, -, -, counted, whole⟩ := gives_each_message_once CacheSettings.usual 2 mixed
  have returned : ((Ingestion.new .usual 2).run mixed).hasReturned = true := by rfl
  obtain ⟨perm, each⟩ := whole returned
  exact ⟨returned, rfl, perm, counted.trans rfl, each 0 _ rfl⟩

end Ingestion

end DeviceMapping
