import CommunicationIpc.Kernel.Hitrace

/-! `SendRequest` and `SendReply` of a `BinderInvoker` up to the command they write: translation, padding of a parcel that
holds buffers for negotiation data, and the trace identifier of a request. -/
namespace CommunicationIpc.Kernel.ScatterGather
open CommunicationIpc.Library CommunicationIpc.Kernel.BinderOutput CommunicationIpc.Kernel.BinderInvoker
open CommunicationIpc.Kernel.BinderTransaction (Process ReplyParcel binderAlignBytes errNullObject)
open CommunicationIpc.Kernel.Hitrace (ThreadTrace Sending traceClientSend)

/-- The arguments of `SendRequest` and what it finds: whether `TranslateDBinderProxy` succeeds, whether the target tells its pid and
uid, whether the padding can be written, and the address of the data when the identifier has been appended. -/
structure Request where
  handle : Int32
  code : UInt32
  flags : UInt32
  data : ReplyParcel
  translateDBinderProxy : Bool
  getDBinderCallingPidUid : Bool
  writeInt8 : Bool
  traceId : ThreadTrace
  sending : Sending
  moved : UInt64
  writes : Writes

/-- As for a reply, but the pid and uid are asked for by a request of their own; `caller` is the answer to it. -/
def translateDBinderStub (process : Process) (getDBinderCallingPidUid : Bool) (data : ReplyParcel) : Option Nat :=
  let saved := if getDBinderCallingPidUid then process.getAndSaveDBinderData else fun _ _ _ => errNullObject
  BinderTransaction.translateDBinderStub { process with getAndSaveDBinderData := saved } data

/-- One write of a byte, whatever is missing to the next multiple. -/
def padParcel (process : Process) (totalDBinderBufSize : Nat) (writeInt8 : Bool) (parcel : ReplyParcel) : Option ReplyParcel :=
  if 0 < totalDBinderBufSize ∧ parcel.bytes.length % binderAlignBytes ≠ 0 then
    if writeInt8 then some (parcel.writeInt8 process.grown) else none
  else some parcel

def sendRequest (process : Process) (invoker : Invoker) (request : Request) : Invoker :=
  if ¬ request.translateDBinderProxy then invoker
  else
    match if process.single then some 0 else translateDBinderStub process request.getDBinderCallingPidUid request.data with
    | none => invoker
    | some totalDBinderBufSize =>
      match padParcel process totalDBinderBufSize request.writeInt8 request.data with
      | none => invoker
      | some padded =>
        let (bytes,flags) := traceClientSend request.handle padded.bytes request.flags request.traceId request.sending
        let newData := { padded with bytes := bytes, data := request.moved }
        invoker.sendRequest ⟨flags,request.handle.toUInt32,request.code,newData.view,totalDBinderBufSize⟩ request.writes process.alive

def ReplyParcel.rewindWrite (parcel : ReplyParcel) (newPosition : Nat) : ReplyParcel :=
  { parcel with bytes := CommandStream.Parcel.rewindWrite parcel.bytes newPosition }

/-- The data parcel as well, as `SendRequest` leaves it. A parcel is written at the end of its bytes. -/
def sendRequestParcel (process : Process) (invoker : Invoker) (request : Request) : Invoker × ReplyParcel :=
  if ¬ request.translateDBinderProxy then (invoker,request.data)
  else
    match if process.single then some 0 else translateDBinderStub process request.getDBinderCallingPidUid request.data with
    | none => (invoker,request.data)
    | some totalDBinderBufSize =>
      match padParcel process totalDBinderBufSize request.writeInt8 request.data with
      | none => (invoker,request.data)
      | some padded =>
        let oldWritePosition := padded.bytes.length
        let (bytes,flags) := traceClientSend request.handle padded.bytes request.flags request.traceId request.sending
        let newData := { padded with bytes := bytes, data := request.moved }
        let sent := invoker.sendRequest ⟨flags,request.handle.toUInt32,request.code,newData.view,totalDBinderBufSize⟩ request.writes
          process.alive
        -- where the command is not written, and where the answer has come
        (sent,ReplyParcel.rewindWrite newData oldWritePosition)

def sendReply (process : Process) (invoker : Invoker) (reply : ReplyParcel) (flags : UInt32) (writeInt8 : Bool) (writes : Writes) :
    Invoker :=
  match if process.single then some 0 else BinderTransaction.translateDBinderStub process reply with
  | none => invoker
  | some totalDBinderBufSize =>
    match padParcel process totalDBinderBufSize writeInt8 reply with
    | none => invoker
    | some padded => invoker.sendReply ⟨flags,padded.view,process.result,totalDBinderBufSize⟩ writes process.alive

end CommunicationIpc.Kernel.ScatterGather
