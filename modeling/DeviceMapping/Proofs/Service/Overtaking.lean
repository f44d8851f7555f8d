/-
**A message that waits is overtaken.**

Beside a cache that holds nothing and has a permit free (`Idle`), a write can be brought to its end
while another one waits: its load fails and frees its slot, so the next write finds the cache as
this one did.

* `exists_passing`, `exists_passing_all`: messages are taken up, handed over and ended one after the
  other, while an earlier one waits.
* `exists_waiting`: a message that is mapped is taken up and gets its answer, and its write goes no
  further yet.
* `exists_overtaking`: so it comes after any later message, where two writes may be in progress.
* `order_kept_iff`: with what `keepsOrder_of_begun` says, exactly which messages stay in order.
-/

import DeviceMapping.Proofs.Service.Order

namespace DeviceMapping

namespace Cache

variable {α : Type}

/-! ### A load that fails -/

/-- No slot is held or filled, and a load can begin. -/
structure Idle (cache : Cache α) : Prop where
  empty : ∀ device, cache.slots.get? device = none
  free : 0 < cache.freePermits

theorem idle_new (settings : CacheSettings) : Idle (Cache.new settings : Cache α) :=
  ⟨fun _ => rfl, Nat.lt_of_lt_of_le Nat.one_pos (Nat.le_max_left _ _)⟩

section Steps

variable {cache : Cache α} {device : String} {call load : Nat}

theorem get_of_empty (empty : cache.slots.get? device = none) :
    cache.get device = (cache.startLoad device).join cache.loads.length := by
  unfold get
  rw [empty]

theorem grant_of_queued (queued : cache.loads[load]? = some ⟨device, .queued⟩)
    (free : 0 < cache.freePermits) :
    cache.grant load =
      { cache.setPhase load .running with freePermits := cache.freePermits - 1 } := by
  unfold grant
  rw [queued]
  exact if_pos free

theorem finish_of_running (running : cache.loads[load]? = some ⟨device, .running⟩)
    (fault : MappingError) :
    cache.finish load (.error fault) = (cache.withAnswer load (.error fault)).fail device load := by
  unfold finish
  rw [running]
  rfl

theorem take_of_answered {result : Except MappingError α}
    (waiting : cache.calls[call]? = some (.waiting load))
    (answered : cache.loads[load]? = some ⟨device, .answered result⟩) :
    cache.take call = { cache with calls := cache.calls.set call (.answered load result) } := by
  have ended : cache.resultOf load = some result := resultOf_of_getElem? answered
  have known : cache.notice load = cache := by
    unfold notice
    rw [answered]
  unfold take
  rw [waiting]
  simp only [ended, known]

end Steps

/-- The load that is begun next fails at once, and the call made next takes the result. -/
def failNext (cache : Cache α) : List (Event α) :=
  [.grant cache.loads.length, .finish cache.loads.length (.error .loadCrashed),
    .take cache.calls.length]

/-- After a call whose load has failed everything is idle again. -/
theorem Idle.run_failNext {cache : Cache α} (idle : Idle cache) (device : String) :
    Idle ((cache.get device).run cache.failNext) ∧
      ((cache.get device).run cache.failNext).calls =
        cache.calls ++ [.answered cache.loads.length (.error .loadCrashed)] := by
  let load := cache.loads.length
  let asked := (cache.startLoad device).join load
  let running := { asked.setPhase load .running with freePermits := cache.freePermits - 1 }
  let failed := (running.withAnswer load (.error .loadCrashed)).fail device load
  have isQueued : asked.loads[load]? = some ⟨device, .queued⟩ := List.getElem?_concat_length
  have isRunning : running.loads[load]? = some ⟨device, .running⟩ := by
    show (asked.setPhase load .running).loads[load]? = _
    rw [getElem?_setPhase, if_pos rfl, isQueued]
    rfl
  have isAnswered : failed.loads[load]? = some ⟨device, .answered (.error .loadCrashed)⟩ := by
    show (running.setPhase load (.answered (.error .loadCrashed))).loads[load]? = _
    rw [getElem?_setPhase, if_pos rfl, isRunning]
    rfl
  have isWaiting : failed.calls[cache.calls.length]? = some (.waiting load) :=
    List.getElem?_concat_length
  have isHeld : (running.withAnswer load (.error .loadCrashed)).slots.get? device =
      some (.loading load) := by
    show (cache.slots.insert device _).get? device = _
    rw [Table.get?_insert, if_pos rfl]
  have granted : (cache.get device).grant load = running := by
    rw [get_of_empty (idle.empty device)]
    exact grant_of_queued isQueued idle.free
  let answered : Call α := .answered load (.error .loadCrashed)
  have whole : (cache.get device).run cache.failNext =
      { failed with calls := failed.calls.set cache.calls.length answered } := by
    show (((cache.get device).grant load).finish load _).take cache.calls.length = _
    rw [granted, finish_of_running isRunning]
    exact take_of_answered isWaiting isAnswered
  rw [whole]
  refine ⟨⟨fun other => ?_, ?_⟩, ?_⟩
  · show failed.slots.get? other = none
    rw [slots_fail_of_held isHeld]
    show ((cache.slots.insert device _).erase device).get? other = none
    rw [Table.get?_erase, Table.get?_insert]
    split
    · rfl
    · exact idle.empty other
  · exact Nat.succ_pos _
  · show (cache.calls ++ [_]).set cache.calls.length _ = _
    rw [List.set_append_right _ _ (Nat.le_refl _), Nat.sub_self]
    rfl

end Cache

namespace Writer

/-! ### The next message to take up -/

section Next

variable {writer : Writer} {done rest : List Write} {message : Message} {old : Progress}

theorem getElem?_split {α : Type} (front : List α) (item : α) (rest : List α) :
    (front ++ item :: rest)[front.length]? = some item := by
  rw [List.getElem?_append_right (Nat.le_refl _), Nat.sub_self]
  rfl

theorem getElem?_next (writes : writer.writes = done ++ ⟨message, old⟩ :: rest) :
    writer.writes[done.length]? = some ⟨message, old⟩ := by
  rw [writes, getElem?_split]

theorem writes_next (writes : writer.writes = done ++ ⟨message, old⟩ :: rest) (new : Progress) :
    (writer.setProgress done.length new).writes = done ++ ⟨message, new⟩ :: rest := by
  rw [writes_setProgress (getElem?_next writes), writes,
    List.set_append_right _ _ (Nat.le_refl _), Nat.sub_self]
  rfl

theorem receive_next (writes : writer.writes = done ++ ⟨message, .sent⟩ :: rest)
    (taken : ∀ write ∈ done, write.progress.isSent = false)
    (room : writer.active < writer.limit) :
    writer.receive = writer.setProgress done.length .mapping := by
  have next : writer.nextPlace? = some done.length := by
    unfold nextPlace?
    rw [if_pos room]
    obtain ⟨inRange, is⟩ := List.getElem?_eq_some_iff.mp (getElem?_next writes)
    refine List.findIdx?_eq_some_iff_getElem.mpr ⟨inRange, ?_, fun earlier isEarlier sent => ?_⟩
    · rw [is]
    · have member : writer.writes[earlier] ∈ done := by
        simp only [writes, List.getElem_append_left isEarlier]
        exact List.getElem_mem isEarlier
      have begun := taken _ member
      revert begun sent
      cases writer.writes[earlier].progress <;> simp [Progress.isSent]
  unfold receive
  rw [next]

end Next

theorem setProgress_setProgress (writer : Writer) (place : Nat) (first second : Progress) :
    (writer.setProgress place first).setProgress place second =
      writer.setProgress place second := by
  unfold setProgress
  simp only [List.modify_modify_eq]
  rfl

end Writer

namespace Ingestion

/-! ### Passing messages on -/

/-- Some writes have begun, a few of them are in progress, the next message can be taken up, and the
cache is idle. -/
structure Clear (ingestion : Ingestion) (busy : Nat) (done : List Write) (rest : List Message) :
    Prop where
  idle : ingestion.cache.Idle
  writes : ingestion.writer.writes = done ++ rest.map fun message => ⟨message, .sent⟩
  taken : ∀ write ∈ done, write.progress.isSent = false
  active : ingestion.writer.active = busy
  room : busy < ingestion.writer.limit
  unasked : ∀ place, done.length ≤ place → ingestion.asked.lookup place = none
  begun : ∀ place < done.length, ingestion.HasBegun place

/-- A message is taken up. -/
def takenUp (ingestion : Ingestion) (place : Nat) : Ingestion :=
  { ingestion with writer := ingestion.writer.setProgress place .mapping }

/-- A message is handed over as it is, and the sink has accepted it. -/
def passedOn (ingestion : Ingestion) (place : Nat) (message : Message) : Ingestion :=
  { ingestion with
    writer := { ingestion.writer.setProgress place (.ended message true) with
      handed := ingestion.writer.handed ++ [place] }
    written := ingestion.written + 1 }

/-- A write has asked for the details of a device, and their load has failed. -/
def askedInVain (ingestion : Ingestion) (place : Nat) (device : String) : Ingestion :=
  { ingestion with
    cache := (ingestion.cache.get device).run ingestion.cache.failNext
    asked := ingestion.asked ++ [(place, ingestion.cache.calls.length)] }

theorem asked_askedInVain (ingestion : Ingestion) (place : Nat) (device : String) :
    (ingestion.askedInVain place device).asked = (ingestion.ask place device).asked :=
  rfl

/-- A message is taken up, its write asks for details, and their load fails. -/
def askVainly (ingestion : Ingestion) (place : Nat) : List Event :=
  [.receive, .begin place] ++ ingestion.cache.failNext.map .cache

section Places

variable {ingestion : Ingestion} {place : Nat} {message : Message} {old : Progress}

theorem found_takenUp (found : ingestion.writer.writes[place]? = some ⟨message, old⟩) :
    (ingestion.takenUp place).writer.writes[place]? = some ⟨message, .mapping⟩ := by
  show (ingestion.writer.setProgress place .mapping).writes[place]? = _
  rw [Writer.getElem?_setProgress, if_pos rfl, found]
  rfl

/-- A message without details is handed over as it is, and the sink accepts it. -/
theorem conclude_handOver (found : ingestion.writer.writes[place]? = some ⟨message, old⟩) :
    conclude { ingestion.takenUp place with
      writer := (ingestion.takenUp place).writer.handOver place none } place true =
      ingestion.passedOn place message := by
  let handed (next : Writer) : Writer :=
    { next with handed := ingestion.writer.handed ++ [place] }
  have given : (ingestion.takenUp place).writer.handOver place none =
      handed (ingestion.writer.setProgress place (.saving message)) := by
    unfold Writer.handOver
    rw [found_takenUp found]
    exact congrArg handed (Writer.setProgress_setProgress _ place .mapping (.saving message))
  have saving : (handed (ingestion.writer.setProgress place (.saving message))).writes[place]? =
      some ⟨message, .saving message⟩ := by
    show (ingestion.writer.setProgress place _).writes[place]? = _
    rw [Writer.getElem?_setProgress, if_pos rfl, found]
    rfl
  have ended : (handed (ingestion.writer.setProgress place (.saving message))).conclude place true =
      handed (ingestion.writer.setProgress place (.ended message true)) := by
    unfold Writer.conclude
    rw [saving]
    exact congrArg handed (Writer.setProgress_setProgress _ place (.saving message) _)
  rw [given]
  unfold conclude
  simp only [saving, ended]
  rfl

end Places

/-! ### One message after the other -/

section Clear

variable {ingestion after : Ingestion} {busy busier : Nat} {done : List Write} {message : Message}
  {rest : List Message} {new : Progress}

theorem Clear.found (clear : Clear ingestion busy done (message :: rest)) :
    ingestion.writer.writes[done.length]? = some ⟨message, .sent⟩ :=
  Writer.getElem?_next clear.writes

theorem Clear.step_receive (clear : Clear ingestion busy done (message :: rest)) :
    ingestion.step .receive = ingestion.takenUp done.length := by
  show { ingestion with writer := ingestion.writer.receive } = _
  rw [Writer.receive_next clear.writes clear.taken (clear.active ▸ clear.room)]
  rfl

/-- The write of the message begins after all earlier ones. -/
theorem Clear.inTurn_begin (clear : Clear ingestion busy done (message :: rest)) :
    InTurn ingestion [.receive, .begin done.length] := by
  refine ⟨fun place is => ?_, fun place is earlier isEarlier => ?_, trivial⟩
  · cases is
  · cases is
    rw [clear.step_receive]
    exact clear.begun earlier isEarlier

theorem Clear.inTurn_askVainly (clear : Clear ingestion busy done (message :: rest)) :
    InTurn ingestion (ingestion.askVainly done.length) :=
  (inTurn_append ingestion [.receive, .begin done.length] _).mpr
    ⟨clear.inTurn_begin, nofun, nofun, nofun, trivial⟩

/-- The write of a message that is not mapped hands it over as it begins. -/
theorem Clear.run_unmapped (clear : Clear ingestion busy done (message :: rest))
    (unmapped : message.type.carriesMappedProperties = false) :
    ingestion.run [.receive, .begin done.length, .conclude done.length true] =
      ingestion.passedOn done.length message := by
  have fresh : (ingestion.takenUp done.length).asked.lookup done.length = none :=
    clear.unasked _ (Nat.le_refl _)
  have begins : (ingestion.takenUp done.length).begin done.length =
      { ingestion.takenUp done.length with
        writer := (ingestion.takenUp done.length).writer.handOver done.length none } := by
    unfold begin
    rw [found_takenUp clear.found, fresh]
    simp only [unmapped, Bool.false_eq_true, if_false]
  show ((ingestion.step .receive).begin done.length).conclude done.length true = _
  rw [clear.step_receive, begins, conclude_handOver clear.found]

/-- The write of a message that is mapped asks for details, and their load fails. -/
theorem Clear.run_mapped (clear : Clear ingestion busy done (message :: rest))
    (mapped : message.type.carriesMappedProperties = true) :
    ingestion.run (ingestion.askVainly done.length) =
      (ingestion.askedInVain done.length message.deviceId).takenUp done.length := by
  have fresh : (ingestion.takenUp done.length).asked.lookup done.length = none :=
    clear.unasked _ (Nat.le_refl _)
  have begins : (ingestion.takenUp done.length).begin done.length =
      (ingestion.takenUp done.length).ask done.length message.deviceId := by
    unfold begin
    rw [found_takenUp clear.found, fresh]
    exact if_pos mapped
  rw [askVainly, run_append]
  show ((ingestion.step .receive).begin done.length).run _ = _
  rw [clear.step_receive, begins, run_cache]
  · rfl
  · intro move member
    simp only [Cache.failNext, List.mem_cons, List.not_mem_nil, or_false] at member
    rcases member with rfl | rfl | rfl <;> rfl

/-- The call of the write has the answer that its load failed. -/
theorem Clear.answerFor_mapped (clear : Clear ingestion busy done (message :: rest)) :
    (ingestion.askedInVain done.length message.deviceId).answerFor done.length =
      some (ingestion.cache.loads.length, .error .loadCrashed) := by
  have asked : (ingestion.askedInVain done.length message.deviceId).asked.lookup done.length =
      some ingestion.cache.calls.length := by
    rw [asked_askedInVain]
    exact lookup_ask_eq_some_iff.mpr (.inr ⟨clear.unasked _ (Nat.le_refl _), rfl, rfl⟩)
  unfold answerFor
  rw [asked]
  show (((ingestion.cache.get message.deviceId).run ingestion.cache.failNext).calls[
    ingestion.cache.calls.length]?).bind Call.answer? = _
  rw [(clear.idle.run_failNext message.deviceId).2, List.getElem?_concat_length]
  rfl

/-- The write of a message that is mapped hands it over as it is once the load has failed. -/
theorem Clear.run_answered (clear : Clear ingestion busy done (message :: rest))
    (mapped : message.type.carriesMappedProperties = true) :
    ingestion.run (ingestion.askVainly done.length ++
        [.handOver done.length, .conclude done.length true]) =
      (ingestion.askedInVain done.length message.deviceId).passedOn done.length message := by
  let asked := (ingestion.askedInVain done.length message.deviceId).takenUp done.length
  have answer : asked.answerFor done.length = _ := clear.answerFor_mapped
  have handed : asked.handOver done.length =
      { asked with writer := asked.writer.handOver done.length none } := by
    unfold handOver
    rw [answer]
    rfl
  rw [run_append, clear.run_mapped mapped]
  show (asked.handOver done.length).conclude done.length true = _
  rw [handed]
  exact conclude_handOver clear.found

/-- The next message can be taken up once the write of this one has begun. -/
theorem Clear.goOn (clear : Clear ingestion busy done (message :: rest)) (idle : after.cache.Idle)
    (writes : after.writer.writes = (ingestion.writer.setProgress done.length new).writes)
    (begun : new.isSent = false) (active : after.writer.active = busier)
    (room : busier < after.writer.limit)
    (unasked : ∀ place, done.length < place → after.asked.lookup place = none)
    (hasBegun : ∀ place ≤ done.length, after.HasBegun place) :
    Clear after busier (done ++ [⟨message, new⟩]) rest := by
  have length : (done ++ [(⟨message, new⟩ : Write)]).length = done.length + 1 := by
    rw [List.length_append]
    rfl
  refine ⟨idle, ?_, fun write member => ?_, active, room, fun place beyond => ?_,
    fun place before => ?_⟩
  · rw [writes, Writer.writes_next clear.writes, List.append_assoc]
    rfl
  · rcases List.mem_append.mp member with old | last
    · exact clear.taken write old
    · rw [List.mem_singleton.mp last]
      exact begun
  · rw [length] at beyond
    exact unasked place beyond
  · rw [length] at before
    exact hasBegun place (Nat.le_of_lt_succ before)

theorem Clear.unasked_askedInVain (clear : Clear ingestion busy done (message :: rest)) {place : Nat}
    (beyond : done.length < place) :
    (ingestion.askedInVain done.length message.deviceId).asked.lookup place = none := by
  rw [asked_askedInVain, lookup_ask_of_ne ingestion message.deviceId (Nat.ne_of_gt beyond)]
  exact clear.unasked place (Nat.le_of_lt beyond)

theorem Clear.hasBegun_askedInVain (clear : Clear ingestion busy done (message :: rest)) {place : Nat}
    (upTo : place ≤ done.length) :
    (ingestion.askedInVain done.length message.deviceId).HasBegun place := by
  rcases Nat.lt_or_eq_of_le upTo with before | rfl
  · refine (clear.begun place before).imp (fun ⟨call, found⟩ => ⟨call, ?_⟩) id
    rw [asked_askedInVain]
    exact lookup_ask_eq_some_iff.mpr (.inl found)
  · obtain ⟨call, asked, -⟩ := Option.bind_eq_some_iff.mp clear.answerFor_mapped
    exact .inl ⟨call, asked⟩

/-- As many writes are in progress once a message was passed on as before. -/
theorem Clear.active_passedOn (clear : Clear ingestion busy done (message :: rest)) :
    (ingestion.passedOn done.length message).writer.active = busy := by
  have count := Writer.active_setProgress clear.found (.ended message true)
  simp only [Progress.isActive, Bool.false_eq_true, if_false, Nat.add_zero] at count
  show (ingestion.writer.setProgress done.length _).active = busy
  rw [count, clear.active]

/-- The events send nothing and hand over no message before a place. -/
def Spares (place : Nat) (events : List Event) : Prop :=
  ∀ event ∈ events, (∀ message, event ≠ .send message) ∧
    ∀ other < place, event ≠ .handOver other

theorem spares_append {place : Nat} {before after : List Event} (first : Spares place before)
    (second : Spares place after) : Spares place (before ++ after) := fun event member =>
  (List.mem_append.mp member).elim (first event) (second event)

theorem Spares.of_le {place other : Nat} {events : List Event} (spares : Spares place events)
    (notAfter : other ≤ place) : Spares other events := fun event member =>
  ⟨(spares event member).1, fun earlier before =>
    (spares event member).2 earlier (Nat.lt_of_lt_of_le before notAfter)⟩

theorem spares_askVainly (ingestion : Ingestion) (place : Nat) :
    Spares place (ingestion.askVainly place) := by
  simp [Spares, askVainly, Cache.failNext]

theorem spares_handOver (place : Nat) : Spares place [.handOver place] := by
  intro event member
  rw [List.mem_singleton.mp member]
  refine ⟨nofun, fun other before is => ?_⟩
  cases is
  exact Nat.lt_irrefl place before

theorem spares_conclude (place other : Nat) (accepted : Bool) :
    Spares place [.conclude other accepted] := by
  intro event member
  rw [List.mem_singleton.mp member]
  exact ⟨nofun, nofun⟩

theorem Clear.exists_passing (clear : Clear ingestion busy done (message :: rest)) :
    ∃ events, Spares done.length events ∧ InTurn ingestion events ∧
      Clear (ingestion.run events) busy (done ++ [⟨message, .ended message true⟩]) rest ∧
      (ingestion.run events).writer.handed = ingestion.writer.handed ++ [done.length] := by
  cases mapped : message.type.carriesMappedProperties with
  | false =>
    refine ⟨[.receive, .begin done.length, .conclude done.length true], ?_, ?_, ?_, ?_⟩
    · simp [Spares]
    · refine (inTurn_append ingestion [.receive, .begin done.length] _).mpr
        ⟨clear.inTurn_begin, nofun, trivial⟩
    · rw [clear.run_unmapped mapped]
      refine clear.goOn clear.idle rfl rfl clear.active_passedOn clear.room
        (fun place beyond => clear.unasked place (Nat.le_of_lt beyond)) fun place upTo => ?_
      rcases Nat.lt_or_eq_of_le upTo with before | rfl
      · exact (clear.begun place before).imp id (List.mem_append_left _)
      · exact .inr (List.mem_append_right _ (List.mem_singleton.mpr rfl))
    · rw [clear.run_unmapped mapped]
      rfl
  | true =>
    refine ⟨ingestion.askVainly done.length ++
      [.handOver done.length, .conclude done.length true], ?_, ?_, ?_, ?_⟩
    · exact spares_append (spares_askVainly ingestion _)
        (spares_append (spares_handOver _) (spares_conclude _ _ true))
    · exact (inTurn_append ingestion _ _).mpr ⟨clear.inTurn_askVainly, nofun, nofun, trivial⟩
    · rw [clear.run_answered mapped]
      refine clear.goOn (clear.idle.run_failNext message.deviceId).1 rfl rfl clear.active_passedOn
        clear.room (fun place beyond => clear.unasked_askedInVain beyond) fun place upTo => ?_
      exact (clear.hasBegun_askedInVain upTo).imp id (List.mem_append_left _)
    · rw [clear.run_answered mapped]
      rfl

/-- Messages are passed on one after the other. -/
theorem Clear.exists_passing_all {front : List Message}
    (clear : Clear ingestion busy done (front ++ rest)) :
    ∃ events done', Spares done.length events ∧ InTurn ingestion events ∧
      Clear (ingestion.run events) busy done' rest ∧
      done'.length = done.length + front.length ∧
      (ingestion.run events).writer.handed =
        ingestion.writer.handed ++ List.range' done.length front.length := by
  induction front generalizing ingestion done with
  | nil => exact ⟨[], done, nofun, trivial, clear, rfl, (List.append_nil _).symm⟩
  | cons message front ih =>
    obtain ⟨events, spares, inTurn, next, handed⟩ := clear.exists_passing
    obtain ⟨others, done', spares', inTurn', last, length, handed'⟩ := ih next
    rw [List.length_append, List.length_singleton] at spares' length handed'
    refine ⟨events ++ others, done', spares_append spares (spares'.of_le (Nat.le_succ _)),
      (inTurn_append ingestion events others).mpr ⟨inTurn, inTurn'⟩, ?_, ?_, ?_⟩
    · rw [run_append]
      exact last
    · rw [length, List.length_cons]
      omega
    · rw [run_append, handed', handed, List.append_assoc, List.length_cons, List.range'_succ]
      rfl

/-! ### A message that waits -/

/-- The write of a message has its answer and has not handed the message over. -/
def Waits (ingestion : Ingestion) (place : Nat) : Prop :=
  ∃ message answer, ingestion.writer.writes[place]? = some ⟨message, .mapping⟩ ∧
    ingestion.answerFor place = some answer

/-- A message that is mapped may have its answer and wait. -/
theorem Clear.exists_waiting (clear : Clear ingestion busy done (message :: rest))
    (mapped : message.type.carriesMappedProperties = true)
    (room : busy + 1 < ingestion.writer.limit) :
    ∃ events, Spares done.length events ∧ InTurn ingestion events ∧
      Clear (ingestion.run events) (busy + 1) (done ++ [⟨message, .mapping⟩]) rest ∧
      (ingestion.run events).writer.handed = ingestion.writer.handed ∧
      (ingestion.run events).Waits done.length := by
  refine ⟨ingestion.askVainly done.length, ?_, clear.inTurn_askVainly, ?_, ?_, ?_⟩
  · exact spares_askVainly ingestion _
  · rw [clear.run_mapped mapped]
    refine clear.goOn (clear.idle.run_failNext message.deviceId).1 rfl rfl ?_ room
      (fun place beyond => clear.unasked_askedInVain beyond)
      fun place upTo => clear.hasBegun_askedInVain upTo
    have count := Writer.active_setProgress clear.found .mapping
    simp only [Progress.isActive, Bool.false_eq_true, if_false, if_true, Nat.add_zero] at count
    show (ingestion.writer.setProgress done.length .mapping).active = busy + 1
    rw [count, clear.active]
  · rw [clear.run_mapped mapped]
    rfl
  · rw [clear.run_mapped mapped]
    have found : (ingestion.askedInVain done.length message.deviceId).writer.writes[done.length]? =
        some ⟨message, .sent⟩ := clear.found
    exact ⟨message, _, found_takenUp found, clear.answerFor_mapped⟩

end Clear

/-- A write waits as long as it is not its turn. -/
theorem waits_change {before after : Ingestion} {event : Event} {place : Nat}
    (waits : before.Waits place) (change : Change before event after)
    (notHanded : event ≠ .handOver place) : after.Waits place := by
  obtain ⟨message, answer, found, answered⟩ := waits
  refine ⟨message, answer, ?_, (later_change change).answerFor answered⟩
  have elsewhere : ∀ {other : Nat} {write : Write} (new : Progress),
      before.writer.writes[other]? = some write → other ≠ place →
        (before.writer.setProgress other new).writes[place]? = some ⟨message, .mapping⟩ := by
    intro other write new found' different
    rw [Writer.getElem?_setProgress, if_neg different, found]
  cases change with
  | sent owner isOpen =>
    show (before.writer.send owner).writes[place]? = _
    rw [Writer.getElem?_send, if_neg (Nat.ne_of_lt (List.getElem?_eq_some_iff.mp found).1), found]
  | received other owner room found' =>
    refine elsewhere .mapping found' ?_
    rintro rfl
    rw [found] at found'
    cases found'
  | passed other owner found' fresh =>
    refine elsewhere (.saving owner) found' ?_
    rintro rfl
    obtain ⟨call, asked, -⟩ := Option.bind_eq_some_iff.mp answered
    rw [fresh] at asked
    cases asked
  | handed other owner load result found' =>
    refine elsewhere _ found' ?_
    rintro rfl
    exact notHanded rfl
  | concluded other owner handed accepted found' =>
    refine elsewhere _ found' ?_
    rintro rfl
    rw [found] at found'
    cases found'
  | closed | asked | moved | nothing => exact found

theorem waits_run {ingestion : Ingestion} {place : Nat} (waits : ingestion.Waits place)
    {events : List Event} (spares : Spares (place + 1) events) :
    (ingestion.run events).Waits place := by
  induction events generalizing ingestion with
  | nil => exact waits
  | cons event rest ih =>
    have notHanded := (spares event List.mem_cons_self).2 place (Nat.lt_succ_self place)
    exact ih (waits_change waits (change_step ingestion event) notHanded)
      fun other member => spares other (List.mem_cons_of_mem _ member)

/-- A write that waits may hand its message over. -/
theorem Waits.handed_step {ingestion : Ingestion} {place : Nat} (waits : ingestion.Waits place) :
    (ingestion.step (.handOver place)).writer.handed = ingestion.writer.handed ++ [place] := by
  obtain ⟨message, ⟨load, result⟩, found, answered⟩ := waits
  show (ingestion.handOver place).writer.handed = _
  unfold handOver
  rw [answered]
  show (ingestion.writer.handOver place _).handed = _
  unfold Writer.handOver
  rw [found]

/-! ### A message that is overtaken -/

theorem sentBy_of_spares {place : Nat} {events : List Event} (spares : Spares place events) :
    sentBy events = [] := by
  induction events with
  | nil => rfl
  | cons event rest ih =>
    have others := ih fun other member => spares other (List.mem_cons_of_mem _ member)
    cases event with
    | send message => exact ((spares _ List.mem_cons_self).1 message rfl).elim
    | close => rfl
    | receive | begin | handOver | conclude | cache => exact others

theorem inTurn_sends (ingestion : Ingestion) (messages : List Message) :
    InTurn ingestion (messages.map .send) := by
  induction messages generalizing ingestion with
  | nil => trivial
  | cons message rest ih =>
    refine ⟨fun place is => ?_, ih _⟩
    cases is

/-- Once messages are sent they can be taken up. -/
theorem clear_sends (settings : CacheSettings) (concurrency : Nat) (messages : List Message) :
    Clear ((Ingestion.new settings concurrency).run (messages.map .send)) 0 [] messages := by
  have sent : (Ingestion.new settings concurrency).run (messages.map .send) = _ := run_sends rfl messages
  rw [sent]
  refine ⟨Cache.idle_new settings, rfl, fun _ member => absurd member List.not_mem_nil, ?_, ?_,
    fun _ _ => rfl, fun place before => absurd before (Nat.not_lt_zero place)⟩
  · show (([] ++ messages.map fun message => (⟨message, .sent⟩ : Write)).countP _) = 0
    rw [List.nil_append, List.countP_map]
    exact List.countP_eq_zero.mpr fun _ _ => Bool.false_ne_true
  · exact Nat.lt_of_lt_of_le Nat.one_pos (Nat.le_max_left 1 concurrency)

/-- A message that is mapped may be overtaken by a later one of its device where two writes may be
in progress. -/
theorem exists_overtaking (settings : CacheSettings) {concurrency : Nat} (two : 1 < concurrency)
    {front between rest : List Message} {first second : Message}
    (mapped : first.type.carriesMappedProperties = true)
    (same : first.deviceId = second.deviceId) :
    ∃ events, InTurn (.new settings concurrency) events ∧
      sentBy events = front ++ first :: (between ++ second :: rest) ∧
      ¬ ((Ingestion.new settings concurrency).run events).KeepsOrder := by
  let messages := front ++ first :: (between ++ second :: rest)
  let sent := (Ingestion.new settings concurrency).run (messages.map .send)
  have clear : Clear sent 0 [] messages := clear_sends settings concurrency messages
  obtain ⟨before, done, spares, inTurn, clear, length, -⟩ := clear.exists_passing_all
  have limit : (sent.run before).writer.limit = max 1 concurrency :=
    (limit_run sent before).trans (limit_run _ _)
  obtain ⟨waiting, spares', inTurn', clear, -, waits⟩ :=
    clear.exists_waiting mapped (limit ▸ Nat.lt_of_lt_of_le two (Nat.le_max_right 1 concurrency))
  rw [List.append_cons between second rest] at clear
  obtain ⟨later, done', spares'', inTurn'', -, -, handed⟩ := clear.exists_passing_all
  rw [List.length_append, List.length_singleton] at spares'' handed
  let events := before ++ (waiting ++ (later ++ [.handOver done.length]))
  have silent : sentBy events = [] := by
    refine sentBy_of_spares (spares_append (spares.of_le (Nat.zero_le _))
      (spares_append (spares'.of_le (Nat.zero_le _)) (spares_append ?_ ?_)))
    · exact spares''.of_le (Nat.zero_le _)
    · exact (spares_handOver done.length).of_le (Nat.zero_le _)
  have isSent : sentBy (messages.map .send ++ events) = messages := by
    rw [sentBy_append_sends, silent, List.append_nil]
  have overtaken : ((Ingestion.new settings concurrency).run
      (messages.map .send ++ events)).writer.handed = (((sent.run before).run waiting).run
        later).writer.handed ++ [done.length] := by
    simp only [events, run_append]
    exact (waits_run waits spares'').handed_step
  have has : ((Ingestion.new settings concurrency).run
      (messages.map .send ++ events)).messages = messages :=
    (messages_run _ _).trans isSent
  refine ⟨messages.map .send ++ events, ?_, isSent, fun keeps => ?_⟩
  · simp only [events, inTurn_append]
    exact ⟨inTurn_sends _ _, inTurn, inTurn', inTurn'', nofun, trivial⟩
  · unfold KeepsOrder deviceAt at keeps
    rw [overtaken, handed, has] at keeps
    obtain ⟨-, -, apart⟩ := List.pairwise_append.mp keeps
    have place : done.length = front.length := length.trans (Nat.zero_add _)
    have atFirst : messages[done.length]? = some first :=
      place ▸ Writer.getElem?_split front first (between ++ second :: rest)
    have atSecond : messages[done.length + 1 + between.length]? = some second := by
      have split := Writer.getElem?_split (front ++ first :: between) second rest
      rw [List.append_assoc, List.length_append, List.length_cons] at split
      rw [place, Nat.add_assoc, Nat.add_comm 1]
      exact split
    have member : done.length + 1 + between.length ∈
        List.range' (done.length + 1) (between ++ [second]).length := by
      rw [List.mem_range'_1, List.length_append, List.length_singleton]
      omega
    have inOrder := apart _ (List.mem_append_right _ member) done.length List.mem_cons_self
      (by rw [atFirst, atSecond, Option.map_some, Option.map_some, same])
    omega

/-- **Which messages stay in order.** The messages of each device are given to the sink in the order
sent, in every run whose writes begin in that order, exactly if no two writes may be in progress at
once, or no message that is mapped is followed by another one of its device. In any run, of the
messages sent before one that is given to the sink, fewer than the limit come after it. -/
theorem order_kept_iff (settings : CacheSettings) (concurrency : Nat) (messages : List Message) :
    ((∀ events, InTurn (.new settings concurrency) events → sentBy events = messages →
        ((Ingestion.new settings concurrency).run events).KeepsOrder) ↔
      concurrency ≤ 1 ∨ messages.Pairwise fun first second =>
        first.deviceId = second.deviceId → first.type.carriesMappedProperties = false) ∧
    ∀ events before place after,
      ((Ingestion.new settings concurrency).run events).writer.handed = before ++ place :: after →
        Writer.overtaken before place < max 1 concurrency := by
  refine ⟨⟨fun kept => ?_, fun safe events inTurn sent => keepsOrder_of_begun safe inTurn sent⟩,
    fun events before place after split => ?_⟩
  · refine (Nat.lt_or_ge 1 concurrency).symm.imp id fun two => ?_
    refine pairwise_of_split fun front first after split second member same => ?_
    obtain ⟨between, rest, rfl⟩ := List.append_of_mem member
    refine Bool.eq_false_iff.mpr fun mapped => ?_
    obtain ⟨events, inTurn, sent, disordered⟩ := exists_overtaking settings two mapped same
    exact disordered (kept events inTurn (sent.trans split.symm))
  · have orderly := orderly_of_new settings concurrency events
    have limit : _ = max 1 concurrency := limit_run (.new settings concurrency) events
    exact limit ▸ orderly.overtaken_lt before place after split

/-- An event goes before a report of its device that waits for its load. -/
def overtaking : List Event :=
  [.send (sample .reportProperty "lamp" 1), .send (sample .event "lamp" 2),
    .send (sample .reportProperty "lamp" 3), .close, .receive, .begin 0, .receive, .begin 1,
    .conclude 1 true, .receive, .begin 2, .cache (.grant 0), .cache (.finish 0 (.ok [])),
    .cache (.take 0), .handOver 0, .conclude 0 true, .cache (.take 1), .handOver 2,
    .conclude 2 true]

theorem event_overtakes_report :
    let ingestion := (Ingestion.new .usual 2).run overtaking
    InTurn (.new .usual 2) overtaking ∧ ingestion.hasReturned = true ∧
      ingestion.deviceAt 0 = ingestion.deviceAt 1 ∧ ingestion.writer.handed = [1, 0, 2] ∧
      ¬ ingestion.KeepsOrder := by
  have handed : ((Ingestion.new .usual 2).run overtaking).writer.handed = [1, 0, 2] := by rfl
  have same : ((Ingestion.new .usual 2).run overtaking).deviceAt 1 =
      ((Ingestion.new .usual 2).run overtaking).deviceAt 0 := by rfl
  have inTurn : InTurn (.new .usual 2) overtaking := by decide
  have returned : ((Ingestion.new .usual 2).run overtaking).hasReturned = true := by rfl
  refine ⟨inTurn, returned, same.symm, handed, fun keeps => ?_⟩
  unfold KeepsOrder at keeps
  rw [handed] at keeps
  exact absurd ((List.pairwise_cons.mp keeps).1 0 List.mem_cons_self same) (Nat.not_lt_zero 1)

/-- Behind events the reports of a device stay in order, however many writes may be in progress. -/
theorem order_kept_behind_event :
    let messages := [sample .event "lamp" 1, sample .event "spot" 2, sample .reportProperty "lamp" 3]
    ∀ events, InTurn (.new .usual 64) events → sentBy events = messages →
      ((Ingestion.new .usual 64).run events).KeepsOrder :=
  (order_kept_iff .usual 64 _).1.mpr (.inr (by decide))

end Ingestion

end DeviceMapping
