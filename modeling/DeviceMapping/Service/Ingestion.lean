/-
**A writer beside a cache.**

Messages are sent to a writer until the senders are gone. A write begins once its message was taken
up: a message that is not mapped goes to the sink at once, any other asks the cache for the details
of its device and goes to the sink when its call has an answer. Loads begin and end meanwhile, other
calls come and go, and every part goes on when it likes. An event is one step of one part, a run is
any list of events; an event that cannot happen changes nothing.
-/

import DeviceMapping.Cache.Run
import DeviceMapping.Service.Writer

namespace DeviceMapping

/-- The writer with one more message to take up. -/
def Writer.send (writer : Writer) (message : Message) : Writer :=
  { writer with writes := writer.writes ++ [⟨message, .sent⟩] }

/-- A cache, whether there is a sender left, a writer, the call of each write that has asked for
details, and how many messages the sink was counted to have accepted. -/
structure Ingestion where
  cache : Cache (List Detail)
  isOpen : Bool
  writer : Writer
  asked : List (Nat × Nat)
  written : Nat

namespace Ingestion

/-- A writer that has done nothing, beside a cache that has done nothing. -/
def new (settings : CacheSettings) (concurrency : Nat) : Ingestion :=
  ⟨.new settings, true, .new concurrency [], [], 0⟩

/-- What happens; writes are named by the place of their message in the order sent. -/
inductive Event where
  | send (message : Message)
  | close
  | receive
  | begin (place : Nat)
  | handOver (place : Nat)
  | conclude (place : Nat) (accepted : Bool)
  | cache (event : Cache.Event (List Detail))

/-- Sends a message, as long as there is a sender. -/
def send (ingestion : Ingestion) (message : Message) : Ingestion :=
  if ingestion.isOpen then { ingestion with writer := ingestion.writer.send message }
  else ingestion

/-- A write asks for the details of a device; its call becomes the last of the calls. -/
def ask (ingestion : Ingestion) (place : Nat) (device : String) : Ingestion :=
  { ingestion with
    cache := ingestion.cache.get device
    asked := ingestion.asked ++ [(place, ingestion.cache.calls.length)] }

/-- The write of a message that was taken up begins. -/
def begin (ingestion : Ingestion) (place : Nat) : Ingestion :=
  match ingestion.writer.writes[place]?, ingestion.asked.lookup place with
  | some ⟨message, .mapping⟩, none =>
    if message.type.carriesMappedProperties then ingestion.ask place message.deviceId
    else { ingestion with writer := ingestion.writer.handOver place none }
  | _, _ => ingestion

/-- The load and the answer that the call of a write has got. -/
def answerFor (ingestion : Ingestion) (place : Nat) :
    Option (Nat × Except MappingError (List Detail)) :=
  (ingestion.asked.lookup place).bind fun call =>
    (ingestion.cache.calls[call]?).bind Call.answer?

/-- A write whose call has an answer hands its message to the sink. -/
def handOver (ingestion : Ingestion) (place : Nat) : Ingestion :=
  match ingestion.answerFor place with
  | some (_, result) =>
    { ingestion with writer := ingestion.writer.handOver place result.toOption }
  | none => ingestion

/-- The sink has accepted or refused a message; those accepted are counted. -/
def conclude (ingestion : Ingestion) (place : Nat) (accepted : Bool) : Ingestion :=
  match ingestion.writer.writes[place]? with
  | some ⟨_, .saving _⟩ =>
    { ingestion with
      writer := ingestion.writer.conclude place accepted
      written := if accepted then ingestion.written + 1 else ingestion.written }
  | _ => ingestion

/-- The event would give up a call that a write waits for. -/
def isAwaited (ingestion : Ingestion) : Cache.Event (List Detail) → Bool
  | .abandon call => ingestion.asked.any fun write => write.2 == call
  | _ => false

/-- Something happens to the cache; no write gives its call up. -/
def onCache (ingestion : Ingestion) (event : Cache.Event (List Detail)) : Ingestion :=
  if ingestion.isAwaited event then ingestion
  else { ingestion with cache := (ingestion.cache.step event).1 }

def step (ingestion : Ingestion) : Event → Ingestion
  | .send message => ingestion.send message
  | .close => { ingestion with isOpen := false }
  | .receive => { ingestion with writer := ingestion.writer.receive }
  | .begin place => ingestion.begin place
  | .handOver place => ingestion.handOver place
  | .conclude place accepted => ingestion.conclude place accepted
  | .cache event => ingestion.onCache event

/-- What a list of events makes of it. -/
def run (ingestion : Ingestion) (events : List Event) : Ingestion :=
  events.foldl step ingestion

/-- The messages sent while there was a sender. -/
def sentBy : List Event → List Message
  | [] => []
  | .send message :: rest => message :: sentBy rest
  | .close :: _ => []
  | _ :: rest => sentBy rest

/-- There is no sender left, and all writes have ended. -/
def hasReturned (ingestion : Ingestion) : Bool :=
  !ingestion.isOpen && ingestion.writer.isDone

end Ingestion

end DeviceMapping
