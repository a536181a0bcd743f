import CommunicationIpc.Kernel.Framing
import CommunicationIpc.Kernel.Transaction

/-! One session from both of its ends: the threads that write packages to it and send what is pending, and `OnBytesReceived` of the
peer. What `SendBytes` takes arrives as it is, and in order. -/
namespace CommunicationIpc.Kernel.SessionChannel
open CommunicationIpc.Library CommunicationIpc.Kernel.Package CommunicationIpc.Kernel.Translate CommunicationIpc.Kernel.Marshal
open CommunicationIpc.Kernel.Framing CommunicationIpc.Kernel.Transaction

/-- The arguments of `ProcessNormalData`. The objects of a parcel lie in its data. -/
structure Message where
  data : MessageParcel
  cookie : UInt64
  seqNum : UInt64
  cmd : Nat
  code : UInt32
  flags : UInt32
  status : Int
  objects : data.data = [] → data.objectOffsets = []
  command : cmd = bcTransaction ∨ cmd = bcReply

def Message.transData (sessionOf : Nat → Nat → Nat → Nat → Option Session) (message : Message) : Option Memory :=
  processNormalData sessionOf message.data message.cookie.toNat message.seqNum.toNat message.cmd message.code.toNat
    message.flags.toNat message.status

/-- `started` and `rawData`: the packages passed to `StartProcessLoop`, and the sequence numbers and sizes to `OnRawDataAvailable`. -/
structure Channel where
  session : SendBuffer.Session
  started : List (List UInt8)
  rawData : List (Nat × Nat)

def Channel.new : Channel := ⟨.new,[],[]⟩

/-- `sessionOf`: what the process knows of its stubs and proxies at that time. -/
inductive Event where
  | processRawData (thread : Nat) (message : Message) (sendBytes : Int)
  | moveTransData2Buffer (thread : Nat) (sessionOf : Nat → Nat → Nat → Nat → Option Session) (message : Message)
    (acquiring expanding : SendBuffer.Allocation)
  | sendData (thread : Nat) (acquiring expanding : SendBuffer.Allocation) (sendBytes : Int)

namespace Channel

def onBytesReceived (channel : Channel) (socket : Int) (bytes : List UInt8) : Channel :=
  match onMessageAvailable (bytes.length+1) socket (some (.ofBytes bytes)) (.ofNat bytes.length) with
  | none => channel
  | some delivery =>
    { channel with
      started := channel.started ++ delivery.started.map (Slice.bytes (.ofBytes bytes))
      rawData := channel.rawData ++ delivery.rawData.toList }

def step (socket : Int) (channel : Channel) : Event → Channel
  | .processRawData _ message sendBytes =>
    if message.data.rawData = [] then channel
    else
      match rawDataPackage message.data message.seqNum.toNat with
      | none => channel
      | some package => if sendBytes = 0 then channel.onBytesReceived socket package else channel
  | .moveTransData2Buffer thread sessionOf message acquiring expanding =>
    match message.transData sessionOf with
    | none => channel
    | some transData =>
      { channel with session := channel.session.step (.moveTransData2Buffer thread (packageOf transData) acquiring expanding) }
  | .sendData thread acquiring expanding sendBytes =>
    let payload := (channel.session.buffer.sendData acquiring expanding sendBytes).2.1
    let sent := { channel with session := channel.session.step (.sendData thread acquiring expanding sendBytes) }
    -- without pending bytes SendBytes is not called
    if payload = [] then sent else sent.onBytesReceived socket payload

end Channel

end CommunicationIpc.Kernel.SessionChannel
