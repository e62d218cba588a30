import HubLink.Message

/-! # Correlation registry

The operations that wait for an answer of the hub, by correlation id. Every operation has one
completion, which is resolved when the operation leaves the registry: by an answer, by its deadline
or by giving up. Whoever changes a registry gets the completions that are resolved by the change;
an answer that comes late or twice finds no entry and resolves none. -/

namespace HubLink

/-- The end of an operation, for the one who waits for it. -/
structure Resolution where
  /-- Who waits. -/
  completion : Nat
  /-- How the operation ended. -/
  result : Except Fault Delivered

/-- What changing a collection of operations leads to. -/
structure Change (σ α : Type) where
  /-- The collection afterwards. -/
  state : σ
  /-- What the one who made the change is told. -/
  value : α
  /-- The operations that ended. -/
  resolved : List Resolution := []

/-- An operation that waits for its answer. -/
structure PendingCorrelation where
  /-- Who waits. -/
  completion : Nat
  /-- When the wait is over. -/
  deadline : Nat
  deriving DecidableEq, Repr

namespace PendingCorrelation

/-- End the operation of an id with an answer or a fault. -/
def resolve (p : PendingCorrelation) (id : Nat) (outcome : Except Fault (Option Response)) :
    Resolution where
  completion := p.completion
  result := outcome.map fun response => { id, response }

/-- Whether the wait is over. -/
def isExpired (p : PendingCorrelation) (now : Nat) : Bool := p.deadline ≤ now

end PendingCorrelation

/-- The operations that wait for an answer, by correlation id. -/
structure CorrelationRegistry where
  /-- The waiting operations. -/
  pending : SortedMap Nat PendingCorrelation := .empty

namespace CorrelationRegistry

/-- The registry without operations. -/
def empty : CorrelationRegistry := {}

/-- Whether an id waits for its answer. -/
def contains (r : CorrelationRegistry) (id : Nat) : Bool := r.pending.contains id

/-- Number of waiting operations. -/
def size (r : CorrelationRegistry) : Nat := r.pending.size

/-- Whether no operation waits. -/
def isEmpty (r : CorrelationRegistry) : Bool := r.pending.isEmpty

/-- The earliest deadline. -/
def nextDeadline (r : CorrelationRegistry) : Option Nat :=
  earliestOf (r.pending.values.map (·.deadline))

/-- Let an operation wait. One whose id already waits is refused, which ends it. -/
def register (r : CorrelationRegistry) (id completion deadline : Nat) :
    Change CorrelationRegistry (Except Fault Unit) :=
  if r.contains id then
    { state := r, value := .error (.duplicateId id)
      resolved := [⟨completion, .error (.duplicateId id)⟩] }
  else
    { state := ⟨r.pending.insert id ⟨completion, deadline⟩⟩, value := .ok () }

/-- End the operation of an id; tells whether it was waiting. -/
def resolve (r : CorrelationRegistry) (id : Nat) (outcome : Except Fault (Option Response)) :
    Change CorrelationRegistry Bool :=
  match r.pending.get? id with
  | some p =>
    { state := ⟨r.pending.erase id⟩, value := true, resolved := [p.resolve id outcome] }
  | none => { state := r, value := false }

/-- End the operations whose wait is over; tells their ids. -/
def sweep (r : CorrelationRegistry) (now : Nat) : Change CorrelationRegistry (List Nat) :=
  let expired := r.pending.filter fun _ p => p.isExpired now
  { state := ⟨r.pending.filter fun _ p => !p.isExpired now⟩
    value := expired.keys
    resolved := expired.entries.map fun (id, p) => p.resolve id (.error .timeout) }

/-- End all operations with a fault; tells how many there were. -/
def drain (r : CorrelationRegistry) (fault : Fault) : Change CorrelationRegistry Nat where
  state := .empty
  value := r.size
  resolved := r.pending.entries.map fun (id, p) => p.resolve id (.error fault)

end CorrelationRegistry

end HubLink
