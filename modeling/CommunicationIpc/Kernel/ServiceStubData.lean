import CommunicationIpc.Kernel.Negotiation
import CommunicationIpc.Kernel.NegotiationData
import CommunicationIpc.Kernel.RawData

/-! The negotiation data that a `DBinderServiceStub` keeps from one marshalling to the next, the calls that fill them in, and the
session map they are filled in from. `basis` is not in the source: what the data were last filled in for. -/
namespace CommunicationIpc.Kernel.ServiceStubData
open CommunicationIpc.Library CommunicationIpc.Kernel.Negotiation CommunicationIpc.Kernel.NegotiationData
open CommunicationIpc.Kernel.RawData (toString32)

def errNone : Nat := 0
def ipcStubInvalidDataErr : Nat := 303

/-- `DBinder`, the uid, an underscore and the pid; empty where `DBinderGrantPermission` fails. -/
def createDatabusName (uid pid : Int32) (granted : Bool) : List UInt8 :=
  let sessionName := [68,66,105,110,100,101,114] ++ toString32 uid ++ 95 :: toString32 pid
  if ¬ granted then [] else sessionName

/-- `IPCObjectStub::CreateSessionName`. -/
def createSessionName (uid pid : Int32) (granted : Bool) : List UInt8 :=
  let sessionName := [68,66,105,110,100,101,114] ++ toString32 uid ++ 95 :: toString32 pid
  if ¬ granted then [] else sessionName

structure Basis where
  pid : Int32
  uid : UInt32
  session : Negotiation.SessionInfo

structure ServiceStub where
  registry : Registry
  /-- The stub's address, under which its session is stored. -/
  address : UInt64
  descriptor : List UInt16
  /-- None where the data are not filled in completely. -/
  dbinderData : Option Block
  isInited : Bool
  basis : Option Basis

def ServiceStub.new (registry : Registry) (address : UInt64) (descriptor : List UInt16) : ServiceStub :=
  ⟨registry,address,descriptor,none,false,none⟩

inductive Event where
  | getAndSaveDBinderData (pid : Int32) (uid : UInt32) (granted : Bool)
  | dbinderClearServiceState (localCalling : Bool)
  | makeSessionByReplyMessage (replyMessage : DHandleEntryTxRx)

namespace ServiceStub

def querySessionObject (stub : ServiceStub) : Option Negotiation.SessionInfo := stub.registry.sessionObject.lookup stub.address

def checkSessionObjectValidity (stub : ServiceStub) : Bool :=
  match stub.querySessionObject with
  | none => false
  | some session => session.type = databusType

def saveDBinderData (stub : ServiceStub) (pid : Int32) (uid : UInt32) (localBusName : List UInt8) : ServiceStub × Nat :=
  match stub.querySessionObject with
  | none => (stub,dbinderServiceFillDataErr)
  | some session =>
    match fill session.stubIndex session.deviceIdInfo.tokenId session.serviceName
        (session.deviceIdInfo.toDeviceId.take NegotiationData.deviceidLength)
        (session.deviceIdInfo.fromDeviceId.take NegotiationData.deviceidLength) localBusName stub.descriptor with
    | none => ({ stub with dbinderData := none },dbinderServiceFillDataErr)
    | some data => ({ stub with dbinderData := some data, isInited := true, basis := some ⟨pid,uid,session⟩ },errNone)

def getAndSaveDBinderData (stub : ServiceStub) (pid : Int32) (uid : UInt32) (granted : Bool) : ServiceStub × Nat :=
  if stub.isInited then (stub,errNone)
  -- a `uid_t` is never below 0
  else if uid < 0 ∨ pid < 0 then (stub,dbinderServiceFillDataErr)
  else if ¬ stub.checkSessionObjectValidity then (stub,dbinderServiceFillDataErr)
  else
    let localBusName := createDatabusName uid.toInt32 pid granted
    if localBusName = [] then (stub,dbinderServiceFillDataErr)
    else stub.saveDBinderData pid uid localBusName

def dbinderClearServiceState (stub : ServiceStub) (localCalling : Bool) : ServiceStub × Nat :=
  if ¬ localCalling then (stub,ipcStubInvalidDataErr) else ({ stub with isInited := false },errNone)

def step (stub : ServiceStub) : Event → ServiceStub
  | .getAndSaveDBinderData pid uid granted => (stub.getAndSaveDBinderData pid uid granted).1
  | .dbinderClearServiceState localCalling => (stub.dbinderClearServiceState localCalling).1
  | .makeSessionByReplyMessage replyMessage =>
    { stub with registry := stub.registry.makeSessionByReplyMessage replyMessage }

end ServiceStub

end CommunicationIpc.Kernel.ServiceStubData
