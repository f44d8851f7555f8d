/-
**Which messages come to the sink in order.**

A write that asks for the details of its device may wait while later messages go to the sink.

* `BegunInOrder`: where writes begin in the order of their messages, only a message that has asked
  for details is overtaken (`begunInOrder_change`, `begunInOrder_run`).
* `keepsOrder_of_begun`: so the messages of a device stay in order if no two writes are in progress
  at once, or none of them is mapped and followed by another one.
-/

import DeviceMapping.Proofs.Service.Writing

namespace DeviceMapping.Ingestion

/-! ### Beginning in order -/

/-- The write of a message has asked for details, or has handed the message over. -/
def HasBegun (ingestion : Ingestion) (place : Nat) : Prop :=
  (∃ call, ingestion.asked.lookup place = some call) ∨ place ∈ ingestion.writer.handed

/-- The event is not the beginning of a write before that of an earlier message. -/
def Allows (ingestion : Ingestion) (event : Event) : Prop :=
  ∀ place, event = .begin place → ∀ earlier < place, ingestion.HasBegun earlier

/-- The writes begin in the order of their messages. -/
def InTurn : Ingestion → List Event → Prop
  | _, [] => True
  | ingestion, event :: rest => ingestion.Allows event ∧ InTurn (ingestion.step event) rest

instance (ingestion : Ingestion) (place : Nat) : Decidable (ingestion.HasBegun place) :=
  decidable_of_iff ((ingestion.asked.lookup place).isSome = true ∨ place ∈ ingestion.writer.handed)
    (or_congr_left Option.isSome_iff_exists)

instance (ingestion : Ingestion) : (event : Event) → Decidable (ingestion.Allows event)
  | .begin place => decidable_of_iff (∀ earlier < place, ingestion.HasBegun earlier)
      ⟨fun begun _ is => by cases is; exact begun, fun allowed => allowed place rfl⟩
  | .send _ | .close | .receive | .handOver _ | .conclude _ _ | .cache _ => .isTrue nofun

def decidableInTurn : (ingestion : Ingestion) → (events : List Event) →
    Decidable (InTurn ingestion events)
  | _, [] => .isTrue trivial
  | ingestion, event :: rest =>
    @instDecidableAnd _ _ inferInstance (decidableInTurn (ingestion.step event) rest)

instance (ingestion : Ingestion) (events : List Event) : Decidable (InTurn ingestion events) :=
  decidableInTurn ingestion events

theorem inTurn_append (ingestion : Ingestion) (before after : List Event) :
    InTurn ingestion (before ++ after) ↔
      InTurn ingestion before ∧ InTurn (ingestion.run before) after := by
  induction before generalizing ingestion with
  | nil => exact (and_iff_right trivial).symm
  | cons event rest ih => exact (and_congr_right fun _ => ih _).trans and_assoc.symm

/-- What holds where writes begin in the order of their messages. -/
structure BegunInOrder (ingestion : Ingestion) : Prop where
  earlier : ∀ place, ingestion.HasBegun place → ∀ earlier < place, ingestion.HasBegun earlier
  waited : ∀ before place after, ingestion.writer.handed = before ++ place :: after →
    ∀ earlier < place, earlier ∈ before ∨ ∃ call, ingestion.asked.lookup earlier = some call

theorem begunInOrder_new (settings : CacheSettings) (concurrency : Nat) :
    BegunInOrder (.new settings concurrency) := by
  refine ⟨fun place begun => ?_, fun before place after split => ?_⟩
  · rcases begun with ⟨call, asked⟩ | handed
    · cases asked
    · cases handed
  · cases before <;> cases split

namespace BegunInOrder

variable {before after : Ingestion} {place : Nat}

theorem frame (inOrder : BegunInOrder before) (asked : after.asked = before.asked)
    (handed : after.writer.handed = before.writer.handed) : BegunInOrder after := by
  have same : after.HasBegun = before.HasBegun := by
    funext place
    unfold HasBegun
    rw [asked, handed]
  exact ⟨same ▸ inOrder.earlier, handed ▸ asked ▸ inOrder.waited⟩

/-- A message is handed over whose earlier ones have begun. -/
theorem handOver (inOrder : BegunInOrder before)
    (turn : ∀ earlier < place, before.HasBegun earlier) (asked : after.asked = before.asked)
    (handed : after.writer.handed = before.writer.handed ++ [place]) : BegunInOrder after := by
  have begun : ∀ other, before.HasBegun other → after.HasBegun other := fun other is =>
    is.imp (fun ⟨call, found⟩ => ⟨call, asked ▸ found⟩) fun member =>
      handed ▸ List.mem_append_left _ member
  refine ⟨fun other is earlier isEarlier => begun earlier ?_,
    fun earlier other later split => ?_⟩
  · rcases is with ⟨call, found⟩ | member
    · exact inOrder.earlier other (.inl ⟨call, asked ▸ found⟩) earlier isEarlier
    · rw [handed, List.mem_append, List.mem_singleton] at member
      rcases member with old | rfl
      · exact inOrder.earlier other (.inr old) earlier isEarlier
      · exact turn earlier isEarlier
  · rw [handed] at split
    rw [asked]
    rcases Writer.split_concat split with ⟨rfl, rfl⟩ | ⟨rest, split⟩
    · exact fun first isFirst => (turn first isFirst).symm
    · exact inOrder.waited earlier other rest split

/-- A write asks for details whose earlier ones have begun. -/
theorem ask (inOrder : BegunInOrder before) (turn : ∀ earlier < place, before.HasBegun earlier)
    (device : String) : BegunInOrder (before.ask place device) := by
  have stays : ∀ other, (∃ call, before.asked.lookup other = some call) →
      ∃ call, (before.ask place device).asked.lookup other = some call :=
    fun _ ⟨call, found⟩ => ⟨call, lookup_ask_eq_some_iff.mpr (.inl found)⟩
  refine ⟨fun other is earlier isEarlier => ?_, fun earlier other later split first isFirst =>
    (inOrder.waited earlier other later split first isFirst).imp id (stays first)⟩
  have begun : before.HasBegun earlier := by
    rcases is with ⟨call, found⟩ | member
    · rcases lookup_ask_eq_some_iff.mp found with old | ⟨-, rfl, -⟩
      · exact inOrder.earlier other (.inl ⟨call, old⟩) earlier isEarlier
      · exact turn earlier isEarlier
    · exact inOrder.earlier other (.inr member) earlier isEarlier
  exact begun.imp (stays earlier) id

end BegunInOrder

theorem begunInOrder_change {before after : Ingestion} {event : Event}
    (inOrder : BegunInOrder before) (allowed : before.Allows event)
    (change : Change before event after) : BegunInOrder after := by
  cases change with
  | asked place message => exact inOrder.ask (allowed place rfl) message.deviceId
  | passed place message => exact inOrder.handOver (allowed place rfl) rfl rfl
  | handed place message load result found answer =>
    obtain ⟨call, asked, -⟩ := Option.bind_eq_some_iff.mp answer
    exact inOrder.handOver (inOrder.earlier place (.inl ⟨call, asked⟩)) rfl rfl
  | sent | closed | received | concluded | moved => exact inOrder.frame rfl rfl
  | nothing => exact inOrder

theorem begunInOrder_run {ingestion : Ingestion} (inOrder : BegunInOrder ingestion)
    {events : List Event} (inTurn : InTurn ingestion events) :
    BegunInOrder (ingestion.run events) := by
  induction events generalizing ingestion with
  | nil => exact inOrder
  | cons event rest ih =>
    exact ih (begunInOrder_change inOrder inTurn.1 (change_step ingestion event)) inTurn.2

/-! ### The order of the messages of a device -/

/-- The device of a message. -/
def deviceAt (ingestion : Ingestion) (place : Nat) : Option String :=
  (ingestion.messages[place]?).map (·.deviceId)

/-- The sink was given the messages of each device in the order sent. -/
def KeepsOrder (ingestion : Ingestion) : Prop :=
  ingestion.writer.handed.Pairwise fun first second =>
    ingestion.deviceAt first = ingestion.deviceAt second → first < second

/-- What relates each item to those after it relates them pairwise. -/
theorem pairwise_of_split {α : Type} {items : List α} {related : α → α → Prop}
    (splits : ∀ before item after, items = before ++ item :: after →
      ∀ other ∈ after, related item other) : items.Pairwise related := by
  induction items with
  | nil => exact .nil
  | cons item rest ih =>
    refine .cons (splits [] item rest rfl) (ih fun before other after split => ?_)
    exact splits (item :: before) other after (congrArg (item :: ·) split)

/-- The order is kept if each message comes after the earlier ones of its device. -/
theorem keepsOrder_of_split {ingestion : Ingestion} (nodup : ingestion.writer.handed.Nodup)
    (comesAfter : ∀ before place after, ingestion.writer.handed = before ++ place :: after →
      ∀ earlier < place, ingestion.deviceAt earlier = ingestion.deviceAt place →
        earlier ∈ before) : ingestion.KeepsOrder := by
  refine pairwise_of_split fun before place after split other later same => ?_
  rw [split] at nodup
  obtain ⟨-, rest, apart⟩ := List.nodup_append.mp nodup
  refine Nat.lt_of_le_of_ne (Nat.le_of_not_lt fun isEarlier => ?_) fun equal => ?_
  · have known := comesAfter before place after split other isEarlier same.symm
    exact apart other known other (List.mem_cons_of_mem _ later) rfl
  · exact (List.nodup_cons.mp rest).1 (equal ▸ later)

/-- Where writes begin in the order of their messages, those of a device are given to the sink in
order if no two writes are in progress at once, or no message that is mapped is followed by another
one of its device. -/
theorem keepsOrder_of_begun {settings : CacheSettings} {concurrency : Nat} {messages : List Message}
    (safe : concurrency ≤ 1 ∨ messages.Pairwise fun first second =>
      first.deviceId = second.deviceId → first.type.carriesMappedProperties = false)
    {events : List Event} (inTurn : InTurn (.new settings concurrency) events)
    (sent : sentBy events = messages) :
    ((Ingestion.new settings concurrency).run events).KeepsOrder := by
  have orderly := orderly_of_new settings concurrency events
  have faithful := faithful_run (faithful_new settings concurrency) events
  have inOrder := begunInOrder_run (begunInOrder_new settings concurrency) inTurn
  have limit : _ = max 1 concurrency := limit_run (.new settings concurrency) events
  have has : _ = sentBy events := messages_run (.new settings concurrency) events
  generalize (Ingestion.new settings concurrency).run events = ingestion at *
  refine keepsOrder_of_split orderly.handed_nodup
    fun before place after split earlier isEarlier same => ?_
  rcases safe with single | unmapped
  · have few := orderly.overtaken_lt before place after split
    rw [limit, Nat.max_eq_left single] at few
    have none := List.countP_eq_zero.mp (Nat.lt_one_iff.mp few) earlier (List.mem_range.mpr isEarlier)
    simpa using none
  · refine (inOrder.waited before place after split earlier isEarlier).resolve_right ?_
    rintro ⟨call, asked⟩
    obtain ⟨message, progress, -, -, found, -, mapped, -⟩ := faithful.asks earlier call asked
    have atEarlier : ingestion.messages[earlier]? = some message := by
      rw [Ingestion.messages, List.getElem?_map, found]
      rfl
    unfold deviceAt at same
    rw [atEarlier] at same
    obtain ⟨other, atPlace, ofSame⟩ := Option.map_eq_some_iff.mp same.symm
    rw [has, sent] at atEarlier atPlace
    obtain ⟨inRange, rfl⟩ := List.getElem?_eq_some_iff.mp atEarlier
    obtain ⟨inRange', rfl⟩ := List.getElem?_eq_some_iff.mp atPlace
    have never := List.pairwise_iff_getElem.mp unmapped earlier place inRange inRange' isEarlier
    rw [never ofSame.symm] at mapped
    cases mapped

end DeviceMapping.Ingestion
