import CommunicationIpc.Kernel.CommandStream
import CommunicationIpc.Kernel.Translate

/-! `MessageParcel::Append`, and the strong references that parcels and appended entries hold. A parcel is its data, the offsets of
its objects and the objects it holds until it is destroyed; a remote object is its address. Bytes behind the data count as zeros. -/
namespace CommunicationIpc.Kernel.ParcelAppend
open CommunicationIpc.Library
open CommunicationIpc.Kernel.CommandStream (Parcel.writeBuffer)
open CommunicationIpc.Kernel.Translate (binderTypeBinder binderTypeHandle binderTypeFd)

structure MessageParcel where
  bytes : List UInt8
  offsets : List Nat
  holders : List UInt64
  deriving DecidableEq

def MessageParcel.new : MessageParcel := ⟨[],[],[]⟩

/-- What becomes of one entry of the table: the two calls for its offset, whether the address of its object is not null, and what
`dup` returns should it be a file descriptor. -/
structure EntryResults where
  ensureObjectsCapacity : Bool
  writeObjectOffset : Bool
  flat : Bool
  dup : UInt32

structure Results where
  writeBuffer : Bool
  objectOffsets : Bool
  entry : Nat → EntryResults
  queryObject : UInt32 → Option UInt64

def patch (bytes : List UInt8) (offset : Nat) (written : List UInt8) : List UInt8 :=
  ((Memory.ofBytes bytes).writeBytes offset written).readBytes 0 bytes.length

/-- The file descriptor object at an offset gets a descriptor of its own. -/
def duplicate (bytes : List UInt8) (offset : Nat) (dup : UInt32) : List UInt8 :=
  patch (patch bytes (offset+8) (toLE 4 dup.toNat)) (offset+16) (toLE 8 1)

/-- The data after the call, and the object whose strong count was increased. -/
def acquireObject (queryObject : UInt32 → Option UInt64) (dup : UInt32) (bytes : List UInt8) (offset : Nat) :
    List UInt8 × Option UInt64 :=
  let memory := Memory.ofBytes bytes
  let type := memory.read offset 4
  if type = binderTypeBinder then
    let binder := memory.read (offset+8) 8
    let cookie := memory.read (offset+16) 8
    (bytes,if binder ≠ 0 ∧ cookie ≠ 0 then some (UInt64.ofNat cookie) else none)
  else if type = binderTypeHandle then (bytes,queryObject (UInt32.ofNat (memory.read (offset+8) 4)))
  else if type = binderTypeFd then (duplicate bytes offset dup,none)
  else (bytes,none)

/-- `acquired`: the objects whose counts the call has increased so far. -/
structure Appending where
  bytes : List UInt8
  offsets : List Nat
  acquired : List UInt64

def appendObjects (results : Results) (writeCursorOld : Nat) : Nat → List Nat → Appending → Appending × Bool
  | _,[],s => (s,true)
  | index,objectOffset :: objectOffsets,s =>
    let entry := results.entry index
    if ¬ entry.ensureObjectsCapacity then (s,false)
    else if ¬ entry.writeObjectOffset then (s,false)
    else
      let offset := writeCursorOld+objectOffset
      let s := { s with offsets := s.offsets ++ [offset] }
      if ¬ entry.flat then (s,false)
      else
        let (bytes,object) := acquireObject results.queryObject entry.dup s.bytes offset
        appendObjects results writeCursorOld (index+1) objectOffsets { s with bytes := bytes, acquired := s.acquired ++ object.toList }

structure Appended where
  parcel : MessageParcel
  acquired : List UInt64
  result : Bool
  deriving DecidableEq

def append (results : Results) (parcel data : MessageParcel) : Appended :=
  if data.bytes = [] then ⟨parcel,[],true⟩
  else if ¬ results.writeBuffer then ⟨parcel,[],false⟩
  else
    let written := Parcel.writeBuffer parcel.bytes data.bytes
    if data.offsets = [] then ⟨{ parcel with bytes := written },[],true⟩
    else if ¬ results.objectOffsets then ⟨{ parcel with bytes := written },[],false⟩
    else
      let (s,result) := appendObjects results parcel.bytes.length 0 data.offsets ⟨written,parcel.offsets,[]⟩
      ⟨{ parcel with bytes := s.bytes, offsets := s.offsets },s.acquired,result⟩

/-- Two parcels of a process, and the strong counts of its remote objects. `acquired`, which is not in the source, has one object
for each time `AcquireObject` increased a count. -/
structure System where
  parcel : Bool → MessageParcel
  strong : UInt64 → Int
  acquired : List UInt64

def System.new (strong : UInt64 → Int) : System := ⟨fun _ => .new,strong,[]⟩

/-- `writeRemoteObject` with the result of `AttemptIncStrongRef` and what the write leaves in the data and in the table, nothing
where it fails at once. -/
inductive Event
  | receive (which : Bool) (bytes : List UInt8) (offsets : List Nat)
  | write (which : Bool) (bytes : List UInt8)
  | writeRemoteObject (which : Bool) (object : UInt64) (attemptIncStrongRef : Bool) (bytes : List UInt8) (offsets : List Nat)
  | append (which : Bool) (results : Results)

namespace System

def put (system : System) (which : Bool) (parcel : MessageParcel) : System :=
  { system with parcel := fun other => if other = which then parcel else system.parcel other }

def addStrong (system : System) (object : UInt64) (change : Int) : System :=
  { system with strong := fun other => if other = object then system.strong other+change else system.strong other }

/-- `holders_` keeps the reference that `AttemptIncStrongRef` allowed. -/
def step (system : System) : Event → System
  | .receive which bytes offsets => system.put which { system.parcel which with bytes := bytes, offsets := offsets }
  | .write which bytes =>
    let parcel := system.parcel which
    system.put which { parcel with bytes := parcel.bytes ++ bytes }
  | .writeRemoteObject which object attemptIncStrongRef bytes offsets =>
    if ¬ attemptIncStrongRef then system
    else
      let parcel := system.parcel which
      let held := (system.addStrong object 1).put which { parcel with holders := parcel.holders ++ [object] }
      held.put which { held.parcel which with
        bytes := parcel.bytes ++ bytes, offsets := parcel.offsets ++ offsets.map (parcel.bytes.length+·) }
  | .append which results =>
    let appended := ParcelAppend.append results (system.parcel which) (system.parcel !which)
    let taken := appended.acquired.foldl (fun system object => system.addStrong object 1) system
    { taken.put which appended.parcel with acquired := system.acquired ++ appended.acquired }

def run (strong : UInt64 → Int) (events : List Event) : System := events.foldl step (.new strong)

/-- The counts when both parcels are destroyed, which let go of what they hold. -/
def destroyed (system : System) : UInt64 → Int :=
  ((system.parcel true).holders ++ (system.parcel false).holders).foldl
    (fun strong object other => if other = object then strong other-1 else strong other) system.strong

end System

end CommunicationIpc.Kernel.ParcelAppend
