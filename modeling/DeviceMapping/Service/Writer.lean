/-
**Writing messages.**

A writer takes up messages in the order they were sent, no more at once than its limit. Each write
obtains the details of its device, hands the mapped message to the sink, and ends when the sink has
taken or refused it. Whatever the order of these steps between writes, the places of the messages
handed over stand in `handed`, in the order the sink was called.
-/

import DeviceMapping.Mapping.Payload
import DeviceMapping.Thing.Message

namespace DeviceMapping

/-- How far the write of a message has come. -/
inductive Progress where
  | sent
  | mapping
  | saving (handed : Message)
  | ended (handed : Message) (accepted : Bool)

namespace Progress

/-- The write has begun and not ended. -/
def isActive : Progress → Bool
  | mapping | saving _ => true
  | sent | ended _ _ => false

def isAccepted : Progress → Bool
  | ended _ accepted => accepted
  | _ => false

end Progress

/-- A message as it was sent, and how far its write has come. -/
structure Write where
  message : Message
  progress : Progress

/-- A writer at one moment; a write is known by the place of its message in the order sent. -/
structure Writer where
  limit : Nat
  writes : List Write
  handed : List Nat

/-- A message with its properties mapped by the details of its device, where it is of a type that
is mapped and there are details. -/
def Message.mappedBy (message : Message) (details : Option (List Detail)) : Message :=
  match details with
  | some details =>
    if message.type.carriesMappedProperties then
      { message with properties := (Payload.map message.properties details).properties }
    else message
  | none => message

namespace Writer

/-- A writer of messages with a limit of at least one. -/
def new (concurrency : Nat) (messages : List Message) : Writer :=
  ⟨max 1 concurrency, messages.map fun message => ⟨message, .sent⟩, []⟩

/-- The number of writes that have begun and not ended. -/
def active (writer : Writer) : Nat :=
  writer.writes.countP fun write => write.progress.isActive

/-- The number of messages the sink accepted. -/
def written (writer : Writer) : Nat :=
  writer.writes.countP fun write => write.progress.isAccepted

/-- Every write has ended. -/
def isDone (writer : Writer) : Bool :=
  writer.writes.all fun write => match write.progress with
    | .ended _ _ => true
    | _ => false

/-- The place of the next message to take up, where the limit allows it. -/
def nextPlace? (writer : Writer) : Option Nat :=
  if writer.active < writer.limit then
    writer.writes.findIdx? fun write => match write.progress with
      | .sent => true
      | _ => false
  else none

/-- The writer with a write further on. -/
def setProgress (writer : Writer) (place : Nat) (progress : Progress) : Writer :=
  { writer with
    writes := writer.writes.modify place fun write => { write with progress := progress } }

/-- Takes up the next message. -/
def receive (writer : Writer) : Writer :=
  match writer.nextPlace? with
  | some place => writer.setProgress place .mapping
  | none => writer

/-- Hands a message to the sink, mapped by the details obtained for its device. -/
def handOver (writer : Writer) (place : Nat) (details : Option (List Detail)) : Writer :=
  match writer.writes[place]? with
  | some ⟨message, .mapping⟩ =>
    { writer.setProgress place (.saving (message.mappedBy details)) with
      handed := writer.handed ++ [place] }
  | _ => writer

/-- Ends a write: the sink has accepted or refused the message. -/
def conclude (writer : Writer) (place : Nat) (accepted : Bool) : Writer :=
  match writer.writes[place]? with
  | some ⟨_, .saving handed⟩ => writer.setProgress place (.ended handed accepted)
  | _ => writer

/-- What happens to a writer. -/
inductive Event where
  | receive
  | handOver (place : Nat) (details : Option (List Detail))
  | conclude (place : Nat) (accepted : Bool)

def step (writer : Writer) : Event → Writer
  | .receive => writer.receive
  | .handOver place details => writer.handOver place details
  | .conclude place accepted => writer.conclude place accepted

/-- The writer after a list of events. -/
def run (writer : Writer) (events : List Event) : Writer :=
  events.foldl step writer

end Writer

end DeviceMapping
