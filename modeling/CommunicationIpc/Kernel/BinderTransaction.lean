import CommunicationIpc.Kernel.BinderInvoker
import CommunicationIpc.Kernel.Translate

/-! `BinderInvoker::Transaction`: a delivered transaction is handed to its target, and what the target
made of it is sent back. -/
namespace CommunicationIpc.Kernel.BinderTransaction
open CommunicationIpc.Library CommunicationIpc.Kernel.Translate CommunicationIpc.Kernel.BinderOutput CommunicationIpc.Kernel.BinderInvoker

def tfHitrace : UInt32 := 0x80
def errDeadObject : Int := -32
def errNullObject : Int := 7
def binderAlignBytes : Nat := 8

/-- `sizeof(dbinder_negotiation_data)`. -/
def negotiationDataSize : Nat := 416

/-- What is read of a `binder_transaction_data`. -/
structure BinderTransactionData where
  targetPtr : UInt64
  cookie : UInt64
  flags : UInt32
  offsetsSize : UInt64
  offsets : UInt64

structure ReplyParcel where
  bytes : List UInt8
  objects : List Nat
  data : UInt64
  objectOffsets : UInt64

def ReplyParcel.empty : ReplyParcel := ⟨[],[],0,0⟩

def ReplyParcel.view (parcel : ReplyParcel) : ParcelView :=
  ⟨parcel.bytes.length,parcel.data,parcel.objects.length,parcel.objectOffsets⟩

/-- `WriteInt8(0)`: a parcel grows by words of 4 bytes, and its data may move. -/
def ReplyParcel.writeInt8 (parcel : ReplyParcel) (moved : UInt64) : ReplyParcel :=
  { parcel with bytes := parcel.bytes ++ [0,0,0,0], data := moved }

/-- What the call finds in its process. `acquires` is the result of `AttemptIncStrongRef` and `valid` that of `IsValidObject`
for the target, `registry` whether there is a registry object; `caller` is what `GetCallerPid` and `GetCallerUid` return once the
target has run, `getAndSaveDBinderData` the result of that function for the object at an index; `result` and `grown` are
addresses. -/
structure Process where
  single : Bool
  acquires : Bool
  processSkeleton : Bool
  valid : Bool
  ipcProcessSkeleton : Bool
  registry : Bool
  caller : Int × Int
  getAndSaveDBinderData : Nat → UInt64 → Int × Int → Int
  traceRecovered : Bool
  result : UInt64
  grown : UInt64
  alive : Bool

/-- What `SendRequest` of a target does. `change` is what it does to the strong references of the target, and `leaves` what
its own calls leave of the invoker. -/
structure Stub where
  error : Int
  reply : ReplyParcel
  change : Int
  leaves : Invoker → Invoker

/-- `own` is not in the source: the change that the target made itself. -/
structure Called where
  error : Int
  reply : ReplyParcel
  strong : Int
  own : Int
  invoker : Invoker

def Stub.sendRequest (stub : Stub) (strong : Int) (invoker : Invoker) : Called :=
  ⟨stub.error,stub.reply,strong+stub.change,stub.change,stub.leaves invoker⟩

def refuse (error strong : Int) (invoker : Invoker) : Called := ⟨error,.empty,strong,0,invoker⟩

/-- An object that was acquired and is not valid is not released. -/
def generalServiceSendRequest (process : Process) (tr : BinderTransactionData) (stub : Stub) (strong : Int) (invoker : Invoker) : Called :=
  if tr.targetPtr ≠ 0 ∧ tr.cookie ≠ 0 ∧ process.acquires then
    let acquired := strong+1
    if process.processSkeleton ∧ ¬ process.valid then refuse errDeadObject acquired invoker
    else if 0 < acquired then
      let called := stub.sendRequest acquired invoker
      { called with strong := called.strong-1 }
    else refuse errDeadObject acquired invoker
  else refuse errDeadObject strong invoker

/-- The registry object is held by a pointer that releases it. -/
def samgrServiceSendRequest (process : Process) (stub : Stub) (strong : Int) (invoker : Invoker) : Called :=
  if ¬ process.ipcProcessSkeleton then refuse errNullObject strong invoker
  else if ¬ process.registry then refuse errDeadObject strong invoker
  else
    let called := stub.sendRequest (strong+1) invoker
    { called with strong := called.strong-1 }

def targetStubSendRequest (process : Process) (tr : BinderTransactionData) (stub : Stub) (strong : Int) (invoker : Invoker) : Called :=
  if tr.targetPtr ≠ 0 then generalServiceSendRequest process tr stub strong invoker
  else samgrServiceSendRequest process stub strong invoker

/-- The loop over the objects from index `i` on. A buffer of the size of negotiation data is followed by the object it is for. -/
def translateObjects (process : Process) (memory : Memory) (totalSize : Nat) : Nat → List Nat → Nat → Option Nat
  | _,[],total => some total
  | i,offset :: objects,total =>
    if memory.read offset 4 = binderTypePtr ∧ memory.read (offset+16) 8 = negotiationDataSize then
      let total := total+(negotiationDataSize+7)/8*8
      match objects with
      | [] => some total
      | object :: objects =>
        if totalSize < (object+flatBinderObjectSize) % 2^64 then some total
        else if memory.read object 4 ≠ binderTypeBinder then none
        else if process.getAndSaveDBinderData (i+1) (UInt64.ofNat (memory.read (object+16) 8)) process.caller ≠ errNone then none
        else translateObjects process memory totalSize (i+2) objects total
    else translateObjects process memory totalSize (i+1) objects total

/-- For a reply: the pid and uid of the caller are at hand. -/
def translateDBinderStub (process : Process) (parcel : ReplyParcel) : Option Nat :=
  translateObjects process (.ofBytes parcel.bytes) parcel.bytes.length 0 parcel.objects 0

/-- The library `ipc_single` does not translate. A reply that cannot be translated is not sent. -/
def sendReply (process : Process) (invoker : Invoker) (reply : ReplyParcel) : Invoker :=
  match if process.single then some 0 else translateDBinderStub process reply with
  | none => invoker
  | some totalDBinderBufSize =>
    let aligned := if 0 < totalDBinderBufSize ∧ reply.bytes.length % binderAlignBytes ≠ 0 then reply.writeInt8 process.grown else reply
    invoker.sendReply ⟨0,aligned.view,process.result,totalDBinderBufSize⟩ .succeed process.alive

/-- `TraceServerReceive` takes the trace identifier off the data, and its flag, when there is room for one. -/
def traceServerReceive (process : Process) (flags : UInt32) : UInt32 :=
  if flags &&& tfHitrace ≠ 0 ∧ process.traceRecovered then flags &&& ~~~tfHitrace else flags

/-- `called`: the invoker when the target has run. -/
structure Served where
  called : Invoker
  after : Invoker
  strong : Int
  own : Int

def transaction (process : Process) (tr : BinderTransactionData) (stub : Stub) (strong : Nat) (invoker : Invoker) : Served :=
  if 0 < tr.offsetsSize ∧ tr.offsets = 0 then ⟨invoker,invoker,strong,0⟩
  else
    let flagValue := traceServerReceive process tr.flags &&& ~~~tfAcceptFds
    let called := targetStubSendRequest process tr stub strong invoker
    let after := if flagValue &&& tfOneWay = 0 then sendReply process called.invoker called.reply else called.invoker
    ⟨called.invoker,after,called.strong,called.own⟩

end CommunicationIpc.Kernel.BinderTransaction
