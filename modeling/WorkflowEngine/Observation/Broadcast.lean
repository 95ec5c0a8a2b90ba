/-
This file holds a broadcast channel that keeps its latest messages. A receiver that falls behind
learns how many messages it has lost.
-/

namespace WorkflowEngine

/-- The channel counts all messages and keeps the latest ones, oldest first. -/
structure Broadcast (A : Type) where
  capacity : Nat
  sent : Nat := 0
  kept : List A := []

/-- A receiver knows the number of the message that it reads next. -/
structure Broadcast.Receiver where
  next : Nat
  deriving DecidableEq, Repr

/-- A receiver reads messages and the counts of lost messages. -/
inductive Broadcast.Delivery (A : Type) where
  | lagged (count : Nat)
  | message (value : A)
  deriving DecidableEq, Repr

namespace Broadcast

/-- Doubling stops at the first power that is not below the number. -/
def powerFrom (least : Nat) : Nat → Nat → Nat
  | 0, power => power
  | doublings + 1, power => if least ≤ power then power else powerFrom least doublings (2 * power)

/-- The capacity is rounded up to a power of two. -/
def create {A : Type} (capacity : Nat) : Broadcast A :=
  { capacity := powerFrom capacity capacity 1 }

/-- A full channel drops its oldest message. -/
def send {A : Type} (channel : Broadcast A) (value : A) : Broadcast A :=
  let kept := channel.kept ++ [value]
  { channel with
    sent := channel.sent + 1
    kept := kept.drop (kept.length - channel.capacity) }

def subscribe {A : Type} (channel : Broadcast A) : Receiver :=
  ⟨channel.sent⟩

def receive {A : Type} (channel : Broadcast A) (receiver : Receiver) :
    List (Delivery A) × Receiver :=
  let oldest := channel.sent - channel.kept.length
  let lost := oldest - receiver.next
  let fresh := channel.kept.drop (receiver.next - oldest)
  ((if 0 < lost then [.lagged lost] else []) ++ fresh.map .message, ⟨channel.sent⟩)

end Broadcast

end WorkflowEngine
