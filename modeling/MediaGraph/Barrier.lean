/-!
# Barriers

A `Barrier` numbers the syncs of a client and knows whether the one that is being waited for has
been acknowledged. Only the acknowledgement that carries exactly the awaited number counts; any
other is stale and changes nothing.
-/

namespace MediaGraph

/-- The sync of a client that is in flight, and how many there have been. -/
structure Barrier where
  /-- Number of the next sync; it wraps around. -/
  next : UInt32 := 0
  pending : Option UInt32 := none
  /-- Whether the last number waited for has been acknowledged. -/
  complete : Bool := false
  syncs : Nat := 0
  /-- How many batches have been handled. -/
  iterations : Nat := 0
  deriving DecidableEq

namespace Barrier

def nextSequence (barrier : Barrier) : UInt32 × Barrier :=
  (barrier.next, { barrier with next := barrier.next + 1 })

def begin (barrier : Barrier) (sequence : UInt32) : Barrier :=
  { barrier with pending := some sequence, complete := false, syncs := barrier.syncs + 1 }

/-- Takes an acknowledgement and says whether it was the awaited one. -/
def acknowledge (barrier : Barrier) (sequence : UInt32) : Bool × Barrier :=
  if barrier.pending = some sequence then
    (true, { barrier with pending := none, complete := true })
  else (false, barrier)

def recordIteration (barrier : Barrier) : Barrier :=
  { barrier with iterations := barrier.iterations + 1 }

end Barrier

end MediaGraph
