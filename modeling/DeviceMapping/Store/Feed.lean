/-
**The feed of rule changes.**

Every write to a rule store publishes one signal that names no rule. The feed keeps the last signals
only, as many as its capacity rounded up to a power of two; a subscriber sees the signals sent after
it subscribed, in order, and where some are gone it first learns how many it missed.
-/

namespace DeviceMapping

/-- What happened to the rules. -/
inductive RuleChange where
  | created
  | saved
  | modified
  | deleted
  deriving DecidableEq, Inhabited

namespace RuleChange

def name : RuleChange → String
  | created => "Created"
  | saved => "Saved"
  | modified => "Modified"
  | deleted => "Deleted"

def ofName? (text : String) : Option RuleChange :=
  [created, saved, modified, deleted].find? fun change => change.name == text

end RuleChange

/-- The signals that are still kept, oldest first, and the number of all signals ever sent. -/
structure Feed where
  capacity : Nat
  sent : Nat
  kept : List RuleChange

/-- A subscriber is known by the number of signals that lie behind it. -/
structure Subscriber where
  position : Nat
  deriving DecidableEq

/-- What a subscriber receives: a signal, or the number of signals it missed. -/
inductive Received where
  | change (change : RuleChange)
  | lagged (missed : Nat)
  deriving DecidableEq

namespace Feed

/-- The least power of two that is at least a positive number. -/
def powerAbove (n : Nat) : Nat :=
  Nat.pow 2 (if n ≤ 1 then 0 else (n - 1).log2 + 1)

/-- A feed that has sent nothing; it keeps at least one signal. -/
def new (capacity : Nat) : Feed :=
  ⟨powerAbove (max capacity 1), 0, []⟩

/-- The usual number of signals kept. -/
def usualCapacity : Nat := 64

/-- Sends a signal to all subscribers and forgets the oldest one beyond the capacity. -/
def publish (feed : Feed) (change : RuleChange) : Feed :=
  let kept := feed.kept ++ [change]
  { feed with sent := feed.sent + 1, kept := kept.drop (kept.length - feed.capacity) }

/-- Sends several signals in order. -/
def publishAll (feed : Feed) (changes : List RuleChange) : Feed :=
  changes.foldl publish feed

/-- A subscriber that sees every later signal. -/
def subscribe (feed : Feed) : Subscriber :=
  ⟨feed.sent⟩

/-- The number of signals that are gone. -/
def forgotten (feed : Feed) : Nat :=
  feed.sent - feed.kept.length

/-- The next signal of a subscriber, or how many it missed; nothing when it has seen them all. -/
def receive (feed : Feed) (subscriber : Subscriber) : Option (Received × Subscriber) :=
  if subscriber.position < feed.forgotten then
    some (.lagged (feed.forgotten - subscriber.position), ⟨feed.forgotten⟩)
  else
    (feed.kept[subscriber.position - feed.forgotten]?).map fun change =>
      (.change change, ⟨subscriber.position + 1⟩)

/-- What a subscriber receives in a number of attempts. -/
def receiveUpTo (feed : Feed) : Nat → Subscriber → List Received × Subscriber
  | 0, subscriber => ([], subscriber)
  | attempts + 1, subscriber =>
    match feed.receive subscriber with
    | none => ([], subscriber)
    | some (received, subscriber) =>
      let rest := receiveUpTo feed attempts subscriber
      (received :: rest.1, rest.2)

/-- All that a subscriber can receive now: at most one notice and the kept signals. -/
def drain (feed : Feed) (subscriber : Subscriber) : List Received × Subscriber :=
  feed.receiveUpTo (feed.kept.length + 1) subscriber

end Feed

end DeviceMapping
