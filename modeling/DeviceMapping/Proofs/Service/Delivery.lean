/-
**A delivery is one of the runs of a writer beside a cache.**

* `Moves before after`: the cache makes steps of its own, and no call is given up. Letting happen
  all that can happen at one moment is such a run (`moves_settle`).
* `Follows delivery ingestion`: both have the same cache and the same writer, the writes that wait
  have asked, and those that have just been taken up have not.
* `Follows.beginWrite`, `Follows.goOn`, `Follows.receive`, `Follows.load`: every part of a delivery
  is a list of events, and so are its turns (`Follows.turn`, `Follows.takeTurns`).
* `exists_events_of_delivery`: so a whole delivery is a run, and what holds of all runs holds of it
  (`delivers_each_message_once`).
-/

import DeviceMapping.Proofs.Service.Writing
import DeviceMapping.Service.Delivery

namespace DeviceMapping

/-! ### What a cache does on a clock -/

namespace Cache

variable {α : Type}

/-- The cache makes steps of its own, and no call is given up. -/
def Moves (before after : Cache α) : Prop :=
  ∃ moves : List (Event α), (∀ move ∈ moves, ∀ call, move ≠ .abandon call) ∧
    after = before.run moves

namespace Moves

variable {before middle after : Cache α}

theorem refl (cache : Cache α) : Moves cache cache :=
  ⟨[], nofun, rfl⟩

theorem trans (first : Moves before middle) (second : Moves middle after) :
    Moves before after := by
  obtain ⟨moves, kept, rfl⟩ := first
  obtain ⟨others, kept', rfl⟩ := second
  refine ⟨moves ++ others, fun move member => ?_, (run_append before moves others).symm⟩
  exact (List.mem_append.mp member).elim (kept move) (kept' move)

theorem step (cache : Cache α) (move : Event α) (kept : ∀ call, move ≠ .abandon call) :
    Moves cache (cache.step move).1 :=
  ⟨[move], fun _ member => List.mem_singleton.mp member ▸ kept, rfl⟩

end Moves

end Cache

namespace Timeline

variable {σ α : Type} (loader : σ → String → σ × LoadPlan α)

theorem moves_endLoad (timeline : Timeline σ α) (load : Nat)
    (result : Option (Except MappingError α)) :
    Cache.Moves timeline.cache (timeline.endLoad load result).cache := by
  cases result with
  | some result => exact .step timeline.cache (.finish load result) nofun
  | none => exact .step timeline.cache (.crash load) nofun

theorem moves_begin (timeline : Timeline σ α) (load : Nat) (device : String) :
    Cache.Moves timeline.cache (timeline.begin loader load device).cache := by
  have granted : Cache.Moves timeline.cache (timeline.cache.grant load) :=
    .step timeline.cache (.grant load) nofun
  unfold begin
  obtain ⟨state, plan⟩ := loader timeline.loader device
  by_cases atOnce : plan.delay = 0
  · simp only [if_pos atOnce]
    exact granted.trans (moves_endLoad _ load plan.result)
  · simp only [if_neg atOnce]
    exact granted

theorem moves_beginQueued (limit : Nat) (timeline : Timeline σ α) :
    Cache.Moves timeline.cache (beginQueued loader limit timeline).cache := by
  induction limit generalizing timeline with
  | zero => exact .refl _
  | succ limit ih =>
    unfold beginQueued
    split
    · rename_i load device next
      exact (moves_begin loader timeline load device).trans (ih _)
    · exact .refl _

theorem moves_takes (cache : Cache α) (calls : List Nat) :
    Cache.Moves cache (calls.foldl Cache.take cache) := by
  induction calls generalizing cache with
  | nil => exact .refl cache
  | cons call rest ih => exact (Cache.Moves.step cache (.take call) nofun).trans (ih _)

/-- All that can happen at one moment are steps of the cache. -/
theorem moves_settle (timeline : Timeline σ α) :
    Cache.Moves timeline.cache (timeline.settle loader).cache :=
  (moves_beginQueued loader _ timeline).trans (moves_takes _ _)

end Timeline

/-! ### The parts of a delivery -/

namespace Delivery

variable {σ : Type} {delivery : Delivery σ} {ingestion : Ingestion}

/-- The delivery and the writer beside a cache are in the same state. -/
structure Follows (delivery : Delivery σ) (ingestion : Ingestion) : Prop where
  cache : ingestion.cache = delivery.service.timeline.cache
  writer : ingestion.writer = delivery.writer
  faithful : ingestion.Faithful
  resumes : ∀ place call, (place, some call) ∈ delivery.ready →
    ingestion.asked.lookup place = some call
  waits : ∀ place call, (place, call) ∈ delivery.waiting → ingestion.asked.lookup place = some call
  begins : ∀ place, (place, none) ∈ delivery.ready → ingestion.asked.lookup place = none ∧
    ∃ message, ingestion.writer.writes[place]? = some ⟨message, .mapping⟩
  apart : delivery.ready.Pairwise fun first second =>
    first.2 = none → second.2 = none → first.1 ≠ second.1

/-- The first of the writes that can go on is about to. -/
theorem Follows.pop (follows : Follows delivery ingestion) {head : Nat × Option Nat}
    {rest : List (Nat × Option Nat)} (ready : delivery.ready = head :: rest) :
    Follows { delivery with ready := rest } ingestion where
  cache := follows.cache
  writer := follows.writer
  faithful := follows.faithful
  resumes := fun place call member =>
    follows.resumes place call (ready ▸ List.mem_cons_of_mem _ member)
  waits := follows.waits
  begins := fun place member => follows.begins place (ready ▸ List.mem_cons_of_mem _ member)
  apart := (List.pairwise_cons.mp (ready ▸ follows.apart)).2

/-- Writes that wait may be let go on. -/
theorem Follows.wake (follows : Follows delivery ingestion) (awake : Nat → Bool) :
    Follows (delivery.wake awake) ingestion := by
  have woken : ∀ write, write ∈ (delivery.wake awake).ready → write ∈ delivery.ready ∨
      ∃ place call, (place, call) ∈ delivery.waiting ∧ write = (place, some call) := by
    intro write member
    rcases List.mem_append.mp member with old | new
    · exact .inl old
    · obtain ⟨⟨place, call⟩, sorted, rfl⟩ := List.mem_map.mp new
      have among : (place, call) ∈ (delivery.waiting.partition fun write => awake write.2).1 :=
        List.mem_mergeSort.mp sorted
      rw [List.partition_eq_filter_filter] at among
      exact .inr ⟨place, call, (List.mem_filter.mp among).1, rfl⟩
  refine ⟨follows.cache, follows.writer, follows.faithful, fun place call member => ?_,
    fun place call member => ?_, fun place member => ?_, ?_⟩
  · rcases woken _ member with old | ⟨place', call', waits, same⟩
    · exact follows.resumes place call old
    · cases same
      exact follows.waits place call waits
  · replace member : (place, call) ∈ (delivery.waiting.partition _).2 := member
    rw [List.partition_eq_filter_filter] at member
    exact follows.waits place call (List.mem_filter.mp member).1
  · rcases woken _ member with old | ⟨_, _, _, same⟩
    · exact follows.begins place old
    · cases same
  · refine List.pairwise_append.mpr ⟨follows.apart, ?_, ?_⟩
    · refine List.pairwise_map.mpr (List.pairwise_of_forall fun _ _ asked => ?_)
      cases asked
    · intro first member second new isFresh asked
      obtain ⟨_, _, rfl⟩ := List.mem_map.mp new
      cases asked

theorem Follows.wakeLoad (follows : Follows delivery ingestion) (load : Nat) :
    Follows (delivery.wakeLoad load) ingestion :=
  follows.wake _

/-- A write that has asked may wait for its call. -/
theorem Follows.waitFor (follows : Follows delivery ingestion) {place call : Nat}
    (asked : ingestion.asked.lookup place = some call) :
    Follows (delivery.waitFor place call).1 ingestion := by
  have waits : Follows { delivery with waiting := delivery.waiting ++ [(place, call)] } ingestion :=
    { follows with
      waits := fun other known member => by
        rcases List.mem_append.mp member with old | new
        · exact follows.waits other known old
        · cases List.mem_singleton.mp new
          exact asked }
  unfold Delivery.waitFor
  dsimp only
  split
  · exact waits.wakeLoad (loadOf delivery.service call)
  · exact waits

/-! ### Handing over -/

section Deliver

variable (accepts : Message → Bool) {place call : Nat} {details : Option (List Detail)}

/-- A message is handed over, and the sink answers. -/
theorem exists_deliver (delivery : Delivery σ) (place : Nat) (details : Option (List Detail)) :
    ∃ accepted service, delivery.deliver accepts place details = { delivery with
      writer := (delivery.writer.handOver place details).conclude place accepted
      service := service } ∧ service.timeline = delivery.service.timeline := by
  unfold deliver
  split
  · rename_i write found
    refine ⟨accepts (write.message.mappedBy details), _, rfl, ?_⟩
    cases details <;> rfl
  · rename_i missing
    have same : (delivery.writer.handOver place details).conclude place true = delivery.writer := by
      unfold Writer.handOver
      simp only [missing]
      unfold Writer.conclude
      simp only [missing]
    exact ⟨true, delivery.service, by rw [same], rfl⟩

theorem getElem?_conclude_handOver (writer : Writer) {other : Nat} (different : place ≠ other)
    (accepted : Bool) : ((writer.handOver place details).conclude place accepted).writes[other]? =
      writer.writes[other]? := by
  have handed : (writer.handOver place details).writes[other]? = writer.writes[other]? := by
    unfold Writer.handOver
    split
    · exact (Writer.getElem?_setProgress writer place other _).trans (if_neg different)
    · rfl
  rw [← handed]
  unfold Writer.conclude
  split
  · exact (Writer.getElem?_setProgress _ place other _).trans (if_neg different)
  · rfl

/-- The sink answers whether a message was handed over or not. -/
theorem exists_conclude (ingestion : Ingestion) (place : Nat) (accepted : Bool) :
    ∃ written, ingestion.conclude place accepted = { ingestion with
      writer := ingestion.writer.conclude place accepted
      written := written } := by
  unfold Ingestion.conclude
  split
  · exact ⟨_, rfl⟩
  · rename_i notSaving
    have same : ingestion.writer.conclude place accepted = ingestion.writer := by
      unfold Writer.conclude
      split
      · rename_i message handed found
        exact (notSaving message handed found).elim
      · rfl
    exact ⟨ingestion.written, by rw [same]⟩

/-- A message is handed over whose write was not waiting to begin, and the sink answers. -/
theorem Follows.delivered (follows : Follows delivery ingestion)
    (elsewhere : ∀ other, (other, none) ∈ delivery.ready → place ≠ other)
    {event : Ingestion.Event} (hands : ingestion.step event =
      { ingestion with writer := ingestion.writer.handOver place details }) :
    ∃ events, Follows (delivery.deliver accepts place details) (ingestion.run events) := by
  obtain ⟨accepted, service, delivered, timeline⟩ := exists_deliver accepts delivery place details
  obtain ⟨written, concluded⟩ := exists_conclude
    { ingestion with writer := ingestion.writer.handOver place details } place accepted
  have ran : ingestion.run [event, .conclude place accepted] = { ingestion with
      writer := (ingestion.writer.handOver place details).conclude place accepted
      written := written } := by
    show (ingestion.step event).conclude place accepted = _
    rw [hands, concluded]
  have faithful := Ingestion.faithful_run follows.faithful [event, .conclude place accepted]
  refine ⟨[event, .conclude place accepted], ?_⟩
  rw [ran] at faithful ⊢
  rw [delivered]
  refine ⟨follows.cache.trans (congrArg Timeline.cache timeline).symm, ?_, faithful,
    follows.resumes, follows.waits, fun other member => ?_, follows.apart⟩
  · show (ingestion.writer.handOver place details).conclude place accepted = _
    rw [follows.writer]
  · obtain ⟨fresh, message, found⟩ := follows.begins other member
    refine ⟨fresh, message, ?_⟩
    exact (getElem?_conclude_handOver ingestion.writer (elsewhere other member) accepted).trans found

/-- A write hands its message over with what its call was answered. -/
theorem Follows.deliver (follows : Follows delivery ingestion)
    (asked : ingestion.asked.lookup place = some call)
    (answer : answerTo delivery.service call = some details) :
    ∃ events, Follows (delivery.deliver accepts place details) (ingestion.run events) := by
  have hands : ingestion.handOver place =
      { ingestion with writer := ingestion.writer.handOver place details } := by
    obtain ⟨⟨load, result⟩, is, rfl⟩ := Option.map_eq_some_iff.mp answer
    have known : ingestion.answerFor place = some (load, result) := by
      unfold Ingestion.answerFor
      rw [asked, follows.cache]
      exact is
    unfold Ingestion.handOver
    rw [known]
  have elsewhere (other : Nat) (member : (other, none) ∈ delivery.ready) : place ≠ other := by
    rintro rfl
    obtain ⟨fresh, -⟩ := follows.begins place member
    rw [asked] at fresh
    cases fresh
  have step : ingestion.step (.handOver place) = _ := hands
  exact follows.delivered accepts elsewhere step

/-- A write goes on with the answer to its call, or waits for it. -/
theorem Follows.goOn (follows : Follows delivery ingestion)
    (asked : ingestion.asked.lookup place = some call) :
    ∃ events, Follows (delivery.goOn accepts place call).1 (ingestion.run events) := by
  unfold Delivery.goOn
  dsimp only
  split
  · rename_i details answer
    split
    · exact follows.deliver accepts asked answer
    · split
      · exact ⟨[], follows.waitFor asked⟩
      · have aware : Follows { delivery with
            steps := delivery.steps - 1
            noticed := loadOf delivery.service call :: delivery.noticed } ingestion :=
          { follows with }
        exact (aware.wakeLoad _).deliver accepts asked answer
  · exact ⟨[], follows.waitFor asked⟩

/-- A write asks for the details of a device. -/
theorem Follows.ask (follows : Follows delivery ingestion)
    (elsewhere : ∀ other, (other, none) ∈ delivery.ready → place ≠ other) {device : String}
    (faithful : (ingestion.ask place device).Faithful) :
    Follows { delivery with service := delivery.service.onCache (·.get device) }
      (ingestion.ask place device) := by
  have stays {other known : Nat} (found : ingestion.asked.lookup other = some known) :
      (ingestion.ask place device).asked.lookup other = some known :=
    Ingestion.lookup_ask_eq_some_iff.mpr (.inl found)
  refine ⟨?_, follows.writer, faithful, fun other known member => stays
    (follows.resumes other known member), fun other known member => stays
    (follows.waits other known member), fun other member => ?_, follows.apart⟩
  · show ingestion.cache.get device = delivery.service.timeline.cache.get device
    rw [follows.cache]
  · obtain ⟨fresh, begins⟩ := follows.begins other member
    exact ⟨(Ingestion.lookup_ask_of_ne ingestion device (elsewhere other member).symm).trans fresh,
      begins⟩

/-- The write of a message that was taken up begins. -/
theorem Follows.beginWrite (follows : Follows delivery ingestion)
    (fresh : ingestion.asked.lookup place = none) {message : Message}
    (found : ingestion.writer.writes[place]? = some ⟨message, .mapping⟩)
    (elsewhere : ∀ other, (other, none) ∈ delivery.ready → place ≠ other) :
    ∃ events, Follows (delivery.beginWrite accepts place).1 (ingestion.run events) := by
  have found' : delivery.writer.writes[place]? = some ⟨message, .mapping⟩ :=
    follows.writer ▸ found
  unfold Delivery.beginWrite
  rw [found']
  dsimp only
  split
  · rename_i mapped
    have begins : ingestion.run [.begin place] = ingestion.ask place message.deviceId := by
      show ingestion.begin place = _
      unfold Ingestion.begin
      rw [found, fresh]
      exact if_pos mapped
    have asks := follows.ask elsewhere
      (begins ▸ Ingestion.faithful_run follows.faithful [.begin place])
    have asked : (ingestion.ask place message.deviceId).asked.lookup place =
        some delivery.service.timeline.cache.calls.length :=
      Ingestion.lookup_ask_eq_some_iff.mpr (.inr ⟨fresh, rfl, by rw [follows.cache]⟩)
    split
    · rename_i details answer
      obtain ⟨events, delivered⟩ := asks.deliver accepts asked answer
      refine ⟨[.begin place] ++ events, ?_⟩
      rw [Ingestion.run_append, begins]
      exact delivered
    · refine ⟨[.begin place], ?_⟩
      rw [begins]
      exact asks.waitFor asked
  · rename_i unmapped
    have begins : ingestion.begin place =
        { ingestion with writer := ingestion.writer.handOver place none } := by
      unfold Ingestion.begin
      rw [found, fresh]
      exact if_neg unmapped
    have step : ingestion.step (.begin place) = _ := begins
    exact follows.delivered accepts elsewhere step

end Deliver

/-! ### Turns -/

section Turns

variable (accepts : Message → Bool)

/-- The first of the writes that can go on goes on. -/
theorem Follows.goOnFirst (follows : Follows delivery ingestion) {place : Nat} {call : Option Nat}
    {rest : List (Nat × Option Nat)} (ready : delivery.ready = (place, call) :: rest) :
    ∃ events, Follows (match call with
      | some call => Delivery.goOn accepts { delivery with ready := rest } place call
      | none => Delivery.beginWrite accepts { delivery with ready := rest } place).1
        (ingestion.run events) := by
  have popped := follows.pop ready
  have first : (place, call) ∈ delivery.ready := ready ▸ List.mem_cons_self
  cases call with
  | some call => exact popped.goOn accepts (follows.resumes place call first)
  | none =>
    obtain ⟨fresh, message, found⟩ := follows.begins place first
    have apart := (List.pairwise_cons.mp (ready ▸ follows.apart)).1
    exact popped.beginWrite accepts fresh found fun other member =>
      apart (other, none) member rfl rfl

theorem Follows.goOnUntilEnd (follows : Follows delivery ingestion) (limit : Nat)
    (yielded : Bool) :
    ∃ events, Follows (delivery.goOnUntilEnd accepts limit yielded).1 (ingestion.run events) := by
  induction limit generalizing delivery ingestion yielded with
  | zero => exact ⟨[], follows⟩
  | succ limit ih =>
    unfold Delivery.goOnUntilEnd
    split
    · exact ⟨[], follows⟩
    · rename_i place call rest ready
      obtain ⟨events, went⟩ := follows.goOnFirst accepts ready
      have goesOn {after : Delivery σ} (went : Follows after (ingestion.run events))
          (yielded : Bool) : ∃ events,
            Follows (Delivery.goOnUntilEnd accepts limit yielded after).1 (ingestion.run events) := by
        obtain ⟨others, followed⟩ := ih went yielded
        exact ⟨events ++ others, (Ingestion.run_append ingestion events others).symm ▸ followed⟩
      cases call with
      | some | none =>
        dsimp only at went ⊢
        split
        · exact ⟨events, went⟩
        · exact goesOn went _
        · exact goesOn went true
        · exact ⟨events, went⟩

/-- The writer takes up a message, or notices that there are no more. -/
theorem Follows.receive (follows : Follows delivery ingestion) :
    ∃ events, Follows delivery.receive.1 (ingestion.run events) := by
  unfold Delivery.receive
  split
  · exact ⟨[], follows⟩
  · split
    · rename_i place next
      rw [← follows.writer] at next
      obtain ⟨-, ⟨message, found⟩, -⟩ := Writer.nextPlace?_eq_some next
      have fresh : ingestion.asked.lookup place = none := by
        refine Option.eq_none_iff_forall_ne_some.mpr fun call asked => ?_
        obtain ⟨_, _, _, _, found', begun, -⟩ := follows.faithful.asks place call asked
        rw [found] at found'
        cases found'
        cases begun
      have elsewhere (other : Nat) (member : (other, none) ∈ delivery.ready) : place ≠ other := by
        rintro rfl
        obtain ⟨-, _, found'⟩ := follows.begins place member
        rw [found] at found'
        cases found'
      have taken : ingestion.writer.receive = ingestion.writer.setProgress place .mapping := by
        unfold Writer.receive
        rw [next]
      refine ⟨[.receive], follows.cache, congrArg Writer.receive follows.writer,
        Ingestion.faithful_run follows.faithful [.receive], fun other call member => ?_,
        follows.waits, fun other member => ?_, ?_⟩
      · refine follows.resumes other call ((List.mem_append.mp member).resolve_right fun new => ?_)
        cases List.mem_singleton.mp new
      · show ingestion.asked.lookup other = none ∧ ∃ message,
          ingestion.writer.receive.writes[other]? = some ⟨message, .mapping⟩
        rw [taken, Writer.getElem?_setProgress]
        rcases List.mem_append.mp member with old | new
        · rw [if_neg (elsewhere other old)]
          exact follows.begins other old
        · cases List.mem_singleton.mp new
          rw [if_pos rfl, found]
          exact ⟨fresh, message, rfl⟩
      · refine List.pairwise_append.mpr ⟨follows.apart, List.pairwise_singleton _ _, ?_⟩
        rintro ⟨other, call⟩ member _ new isFresh -
        cases List.mem_singleton.mp new
        cases isFresh
        exact (elsewhere other member).symm
    · split
      · exact ⟨[], follows⟩
      · exact ⟨[], { follows with }⟩

theorem Follows.turn (follows : Follows delivery ingestion) :
    ∃ events, Follows (delivery.turn accepts).1 (ingestion.run events) := by
  obtain ⟨events, taken⟩ := follows.receive
  obtain ⟨others, went⟩ :=
    taken.goOnUntilEnd accepts delivery.receive.1.writer.active false
  exact ⟨events ++ others, (Ingestion.run_append ingestion events others).symm ▸ went⟩

variable [RuleStore σ]

/-- The loads run. -/
theorem Follows.load (follows : Follows delivery ingestion) (steps : Nat) :
    ∃ events, Follows (delivery.load steps) (ingestion.run events) := by
  obtain ⟨moves, keeps, moved⟩ := Timeline.moves_settle
    (Service.loader delivery.service.registry delivery.service.store) delivery.service.timeline
  have ran := ingestion.run_cache fun move member => ingestion.isAwaited_of_keeps (keeps move member)
  have loaded : Follows { delivery with service := delivery.service.settle, steps := steps }
      (ingestion.run (moves.map .cache)) := by
    have faithful := Ingestion.faithful_run follows.faithful (moves.map .cache)
    rw [ran] at faithful ⊢
    refine { follows with cache := ?_, faithful := faithful }
    show ingestion.cache.run moves = _
    rw [follows.cache]
    exact moved.symm
  exact ⟨moves.map .cache, loaded.wake fun call => (answerTo delivery.service.settle call).isSome⟩

theorem Follows.takeTurns (follows : Follows delivery ingestion) (steps turns : Nat) :
    ∃ events, Follows (Delivery.takeTurns accepts steps turns delivery) (ingestion.run events) := by
  induction turns generalizing delivery ingestion with
  | zero => exact ⟨[], follows⟩
  | succ turns ih =>
    obtain ⟨events, went⟩ := follows.turn accepts
    have goesOn {after : Delivery σ} (others : List Ingestion.Event)
        (went : Follows after ((ingestion.run events).run others)) : ∃ events,
          Follows (Delivery.takeTurns accepts steps turns after) (ingestion.run events) := by
      obtain ⟨last, followed⟩ := ih went
      refine ⟨events ++ (others ++ last), ?_⟩
      rw [Ingestion.run_append, Ingestion.run_append]
      exact followed
    unfold Delivery.takeTurns
    split
    · rename_i after is
      rw [is] at went
      exact goesOn [] went
    · rename_i after is
      rw [is] at went
      split
      · exact ⟨events, went⟩
      · obtain ⟨others, loaded⟩ := went.load steps
        exact goesOn others loaded

end Turns

/-! ### A whole delivery -/

section Whole

variable [RuleStore σ] (accepts : Message → Bool) {service : Service σ} {settings : CacheSettings}
  {history : List (Cache.Event (List Detail))}

/-- **A delivery is a run.** Beside a cache that has come to be as the one of the service has, the
messages are sent, the senders go, and a list of events leads to the writer of the delivery. -/
theorem exists_events_of_delivery
    (reached : service.timeline.cache = (Cache.new settings).run history) (concurrency : Nat)
    (messages : List Message) :
    ∃ events, Ingestion.sentBy events = messages ∧
      Follows (run accepts service concurrency messages)
        ((Ingestion.new settings concurrency).run events) := by
  let steps := stepsBetween σ messages.length
  let before : List Ingestion.Event := messages.map .send ++ .close :: history.map .cache
  have begun : (Ingestion.new settings concurrency).run before =
      ⟨service.timeline.cache, false, .new concurrency messages, [], 0⟩ := by
    rw [Ingestion.run_append, Ingestion.run_sends rfl, reached]
    exact Ingestion.run_cache ⟨.new settings, false, .new concurrency messages, [], 0⟩
      fun move _ => by cases move <;> rfl
  have faithful := Ingestion.faithful_run (Ingestion.faithful_new settings concurrency) before
  have follows : Follows
      ⟨service, .new concurrency messages, stepsLeft steps messages.length, false, [], [], []⟩
      ((Ingestion.new settings concurrency).run before) := by
    rw [begun] at faithful ⊢
    exact ⟨rfl, rfl, faithful, nofun, nofun, nofun, .nil⟩
  obtain ⟨events, followed⟩ := follows.takeTurns accepts steps (4 * messages.length + 6)
  refine ⟨before ++ events, ?_, ?_⟩
  · rw [List.append_assoc, Ingestion.sentBy_append_sends]
    exact List.append_nil messages
  · rw [Ingestion.run_append]
    exact followed

/-- **A delivery hands over every message once**, no more of them at once than its limit, and all of
them once its writes have ended. -/
theorem delivers_each_message_once
    (reached : service.timeline.cache = (Cache.new settings).run history) (concurrency : Nat)
    (messages : List Message) :
    let delivery := run accepts service concurrency messages
    delivery.writer.writes.map (·.message) = messages ∧
      delivery.writer.active ≤ max 1 concurrency ∧ delivery.writer.handed.Nodup ∧
      (delivery.isDone = true → delivery.writer.handed.Perm (List.range messages.length)) := by
  intro delivery
  obtain ⟨events, sent, follows⟩ :=
    exists_events_of_delivery accepts reached concurrency messages
  have orderly : delivery.writer.Orderly :=
    follows.writer ▸ Ingestion.orderly_of_new settings concurrency events
  have limit : delivery.writer.limit = max 1 concurrency :=
    follows.writer ▸ Ingestion.limit_run (.new settings concurrency) events
  have has : delivery.writer.writes.map (·.message) = messages :=
    follows.writer ▸ (Ingestion.messages_run (.new settings concurrency) events).trans sent
  refine ⟨has, limit ▸ orderly.active_le, orderly.handed_nodup, fun done => ?_⟩
  have length : delivery.writer.writes.length = messages.length := by
    rw [← has]
    exact (List.length_map _).symm
  exact length ▸ Ingestion.perm_handed_of_isDone orderly (Bool.and_eq_true_iff.mp done).2

end Whole

end Delivery

end DeviceMapping
