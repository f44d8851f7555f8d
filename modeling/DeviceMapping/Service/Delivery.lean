/-
**Deliveries.**

A delivery runs a writer over a service whose sink answers at once. The writer takes up one message
at a time and then goes on with the writes that can go on, in order, until one of them ends; a write
whose details are not cached waits for their load. When nothing more can be done the loads run, and
the writes go on in the order of their loads.

So that the loads get their turn, a writer may take only so many steps between two runs of them:
taking up a message is a step, as is noticing that there are no more and that a load has ended. The
messages are sent in steps of the same kind, and what is left of the last of them is what the writer
begins with. A write that would need a step where none is left lets all writes of its load go on
later.
-/

import DeviceMapping.Service.Basic
import DeviceMapping.Service.Writer

namespace DeviceMapping

/-- A delivery at one moment: the steps left before the loads run, whether the end of the messages
was noticed, the writes that can go on, with the call they waited for if any, the writes that wait
for a call, and the loads whose end was noticed. -/
structure Delivery (σ : Type) where
  service : Service σ
  writer : Writer
  steps : Nat
  atEnd : Bool
  ready : List (Nat × Option Nat)
  waiting : List (Nat × Nat)
  noticed : List Nat

namespace Delivery

variable {σ : Type} [RuleStore σ]

/-- What came of a write that went on. -/
inductive Outcome where
  | ended
  | waits
  | yields
  deriving DecidableEq

/-! ### Writes -/

/-- Hands a write over with the details of its device, and ends it by the sink's answer. -/
def deliver (accepts : Message → Bool) (delivery : Delivery σ) (place : Nat)
    (details : Option (List Detail)) : Delivery σ :=
  match delivery.writer.writes[place]? with
  | some write =>
    let (service, _) := delivery.service.mapBy details write.message.properties
    let accepted := accepts (write.message.mappedBy details)
    { delivery with
      service := service
      writer := (delivery.writer.handOver place details).conclude place accepted }
  | none => delivery

/-- The answer to a call, if it has come. -/
def answerTo (service : Service σ) (call : Nat) : Option (Option (List Detail)) :=
  (service.timeline.answerTo call).map fun answer => answer.2.toOption

/-- The load that a call depends on. -/
def loadOf (service : Service σ) (call : Nat) : Nat :=
  ((service.timeline.cache.calls[call]?).map Call.load).getD 0

/-- The calls come in the order of their loads, and those of one load in their own order. -/
def isBefore (service : Service σ) (first second : Nat) : Bool :=
  let (load, other) := (loadOf service first, loadOf service second)
  decide (load < other ∨ (load = other ∧ first ≤ second))

/-- Lets the writes go on that wait for certain calls. -/
def wake (delivery : Delivery σ) (awake : Nat → Bool) : Delivery σ :=
  let (woken, waiting) := delivery.waiting.partition fun write => awake write.2
  let woken := woken.mergeSort fun first second => isBefore delivery.service first.2 second.2
  { delivery with
    ready := delivery.ready ++ woken.map fun write => (write.1, some write.2)
    waiting := waiting }

/-- Lets the writes go on that wait for a load. -/
def wakeLoad (delivery : Delivery σ) (load : Nat) : Delivery σ :=
  delivery.wake fun call => loadOf delivery.service call == load

/-- A write waits for a call; without a step left it yields to the others of its load. -/
def waitFor (delivery : Delivery σ) (place call : Nat) : Delivery σ × Outcome :=
  let delivery := { delivery with waiting := delivery.waiting ++ [(place, call)] }
  if delivery.steps = 0 then (delivery.wakeLoad (loadOf delivery.service call), .yields)
  else (delivery, .waits)

/-- A write goes on with the answer to its call, or waits for it. The first write to learn that a
load has ended takes a step for it. -/
def goOn (accepts : Message → Bool) (delivery : Delivery σ) (place call : Nat) :
    Delivery σ × Outcome :=
  let load := loadOf delivery.service call
  match answerTo delivery.service call with
  | some details =>
    if delivery.noticed.contains load then (delivery.deliver accepts place details, .ended)
    else if delivery.steps = 0 then delivery.waitFor place call
    else
      let aware := { delivery with
        steps := delivery.steps - 1, noticed := load :: delivery.noticed }
      ((aware.wakeLoad load).deliver accepts place details, .ended)
  | none => delivery.waitFor place call

/-- A write that has just begun asks for the details of its device, if its message is mapped. -/
def beginWrite (accepts : Message → Bool) (delivery : Delivery σ) (place : Nat) :
    Delivery σ × Outcome :=
  match delivery.writer.writes[place]? with
  | some write =>
    if write.message.type.carriesMappedProperties then
      let call := delivery.service.timeline.cache.calls.length
      let asked := { delivery with
        service := delivery.service.onCache (·.get write.message.deviceId) }
      match answerTo asked.service call with
      | some details => (asked.deliver accepts place details, .ended)
      | none => asked.waitFor place call
    else (delivery.deliver accepts place none, .ended)
  | none => (delivery, .waits)

/-! ### Turns -/

/-- Goes on with writes that can, a given number at most, until one ends or a second one yields;
tells whether one ended. -/
def goOnUntilEnd (accepts : Message → Bool) : Nat → Bool → Delivery σ → Delivery σ × Bool
  | 0, _, delivery => (delivery, false)
  | limit + 1, yielded, delivery =>
    match delivery.ready with
    | [] => (delivery, false)
    | (place, call) :: rest =>
      let delivery := { delivery with ready := rest }
      let (after, outcome) := match call with
        | some call => delivery.goOn accepts place call
        | none => delivery.beginWrite accepts place
      match outcome, yielded with
      | .ended, _ => (after, true)
      | .waits, _ => goOnUntilEnd accepts limit yielded after
      | .yields, false => goOnUntilEnd accepts limit true after
      | .yields, true => (after, false)

/-- Takes up a message if the writer can; tells whether it did. -/
def receive (delivery : Delivery σ) : Delivery σ × Bool :=
  if delivery.writer.limit ≤ delivery.writer.active || delivery.steps = 0 then (delivery, false)
  else match delivery.writer.nextPlace? with
    | some place =>
      ({ delivery with
        writer := delivery.writer.receive
        steps := delivery.steps - 1
        ready := delivery.ready ++ [(place, none)] }, true)
    | none =>
      if delivery.atEnd then (delivery, false)
      else ({ delivery with steps := delivery.steps - 1, atEnd := true }, false)

/-- Takes up a message and goes on with the writes; tells whether anything was done. -/
def turn (accepts : Message → Bool) (delivery : Delivery σ) : Delivery σ × Bool :=
  let (taken, received) := delivery.receive
  let (after, ended) := goOnUntilEnd accepts taken.writer.active false taken
  (after, received || ended)

/-- Runs the loads; the writes that waited for them can go on, and steps can be taken again. -/
def load (delivery : Delivery σ) (steps : Nat) : Delivery σ :=
  let loaded := { delivery with service := delivery.service.settle, steps := steps }
  loaded.wake fun call => (answerTo loaded.service call).isSome

/-- All messages were taken up, and all writes have ended. -/
def isDone (delivery : Delivery σ) : Bool :=
  delivery.atEnd && delivery.writer.isDone

/-- Takes turns and runs loads with a number of steps between them, a given number of times at
most. -/
def takeTurns (accepts : Message → Bool) (steps : Nat) : Nat → Delivery σ → Delivery σ
  | 0, delivery => delivery
  | turns + 1, delivery =>
    match delivery.turn accepts with
    | (after, true) => takeTurns accepts steps turns after
    | (after, false) =>
      if after.isDone then after else takeTurns accepts steps turns (after.load steps)

/-- The steps between two runs of the loads. Loads from a store that does not answer at once end
only where nothing else is left to do. -/
def stepsBetween (σ : Type) [RuleStore σ] (messages : Nat) : Nat :=
  if RuleStore.answersAtOnce σ then 128 else 3 * messages + 3

/-- The steps that are left when a number of messages has been sent, of so many at a time. -/
def stepsLeft (steps messages : Nat) : Nat :=
  match messages with
  | 0 => steps
  | sent + 1 => steps - 1 - sent % steps

/-- Delivers messages. Every message takes a turn to be taken up and one to end, and the loads run
at most once for each of these turns. -/
def run (accepts : Message → Bool) (service : Service σ) (concurrency : Nat)
    (messages : List Message) : Delivery σ :=
  let steps := stepsBetween σ messages.length
  takeTurns accepts steps (4 * messages.length + 6)
    ⟨service, .new concurrency messages, stepsLeft steps messages.length, false, [], [], []⟩

/-- The messages that the sink accepted, in the order sent. -/
def accepted (delivery : Delivery σ) : List Message :=
  delivery.writer.writes.filterMap fun write => match write.progress with
    | .ended handed true => some handed
    | _ => none

end Delivery

/-- Writes one message; tells what the sink was given and whether it was accepted. -/
def Service.write {σ : Type} [RuleStore σ] (service : Service σ) (accepts : Message → Bool)
    (message : Message) : Service σ × Message × Bool :=
  let (after, mapped) := service.transformMessage message
  (after, mapped, accepts mapped)

end DeviceMapping
