import CommunicationIpc.Library.Table
import CommunicationIpc.Library.Text
import CommunicationIpc.Library.Window

/-! Messages between two `DBinderService`s: how the serving side fills a reply in, and how the
requesting side makes a session of it. A message is copied whole from one device to the other.
What the system ability, the parcels and the process of the ability answer is `Answers`. -/
namespace CommunicationIpc.Kernel.Negotiation
open CommunicationIpc.Library

def deviceidLength : Nat := 64
def servicenameLength : Nat := 200
def rpcTokenidSupportVersion : UInt32 := 2
def databusType : UInt32 := 0

def messageAsInvoker : UInt32 := 1
def messageAsReply : UInt32 := 2
def messageAsRemoteError : UInt32 := 4
def messageAsReplyTokenid : UInt32 := 5

def dbinderSaNotFound : UInt32 := 106
def dbinderSaInvokeFailed : UInt32 := 107
def dbinderDeviceidInvalid : UInt32 := 108
def dbinderSessionNameNotFound : UInt32 := 109
def dbinderWriteParcelFailed : UInt32 := 110
def dbinderInvokeStubThreadFailed : UInt32 := 111
def dbinderSessionNameInvalid : UInt32 := 112
def dbinderSaNotAvailable : UInt32 := 113
def dbinderSaidInvalid : UInt32 := 114
def dbinderSaNotDistrubuted : UInt32 := 115

structure DeviceIdInfo where
  tokenId : UInt32
  fromDeviceId : List UInt8
  toDeviceId : List UInt8
  deriving DecidableEq

structure DHandleEntryTxRx where
  version : UInt32
  transType : UInt32
  dBinderCode : UInt32
  fromPort : UInt16
  toPort : UInt16
  stubIndex : UInt64
  seqNumber : UInt32
  binderObject : UInt64
  deviceIdInfo : DeviceIdInfo
  stub : UInt64
  serviceNameLength : UInt16
  serviceName : List UInt8
  pid : UInt32
  uid : UInt32
  deriving DecidableEq

def toInt32 (value : UInt64) : Int32 := value.toUInt32.toInt32

def checkSystemAbilityId (systemAbilityId : Int32) : Bool := 1 ≤ systemAbilityId && systemAbilityId ≤ 0x00ffffff

def checkAndAmendSaId (message : DHandleEntryTxRx) : Option DHandleEntryTxRx :=
  let stubIndex := toInt32 message.stubIndex
  let binderObject := toInt32 message.binderObject
  match checkSystemAbilityId stubIndex,checkSystemAbilityId binderObject with
  | true,true => if stubIndex ≠ binderObject then some { message with binderObject := message.stubIndex } else some message
  | true,false => some { message with binderObject := message.stubIndex }
  | false,true => some { message with stubIndex := message.binderObject }
  | false,false => none

/-- The message as `SendReplyMessageToRemote` hands it to the listener. -/
def sendReplyMessageToRemote (dBinderCode reason : UInt32) (replyMessage : DHandleEntryTxRx) : DHandleEntryTxRx :=
  let coded := { replyMessage with dBinderCode := dBinderCode }
  -- transType is reused to send back the error code
  if dBinderCode = messageAsRemoteError then { coded with transType := reason } else coded

structure Answers where
  proxyKnown : Bool
  recipientAdded : Bool
  sessionName : List UInt8
  written : Bool
  invoked : Bool
  stubIndex : UInt64
  serverSessionName : List UInt8
  selfTokenId : UInt32

def isDeviceIdIllegal (deviceId : List UInt8) : Bool := deviceId = [] || deviceidLength < deviceId.length

def checkStubIndexAndSessionNameIllegal (stubIndex : UInt64) (serverSessionName : List UInt8) : Bool :=
  stubIndex = 0 || serverSessionName = [] || servicenameLength < serverSessionName.length

def setReplyMessage (replyMessage : DHandleEntryTxRx) (stubIndex : UInt64) (serverSessionName : List UInt8)
    (selfTokenId : UInt32) : DHandleEntryTxRx × Bool :=
  let length := UInt16.ofNat serverSessionName.length
  let filled := { replyMessage with
    dBinderCode := if rpcTokenidSupportVersion ≤ replyMessage.version then messageAsReplyTokenid else messageAsReply,
    version := rpcTokenidSupportVersion,
    stubIndex := stubIndex,
    serviceNameLength := length,
    deviceIdInfo := { replyMessage.deviceIdInfo with tokenId := selfTokenId } }
  if servicenameLength < length.toNat then (filled,false)
  else
    let copied := overwrite replyMessage.serviceName 0 (serverSessionName.take length.toNat)
    ({ filled with serviceName := overwrite copied length.toNat [0] },true)

def onRemoteInvokerDataBusMessage (answers : Answers) (replyMessage : DHandleEntryTxRx) : DHandleEntryTxRx × UInt32 :=
  if isDeviceIdIllegal (cString replyMessage.deviceIdInfo.fromDeviceId) then (replyMessage,dbinderDeviceidInvalid)
  else if answers.sessionName = [] then (replyMessage,dbinderSessionNameNotFound)
  else if ¬ answers.written then (replyMessage,dbinderWriteParcelFailed)
  else if ¬ answers.invoked then (replyMessage,dbinderInvokeStubThreadFailed)
  else if checkStubIndexAndSessionNameIllegal answers.stubIndex answers.serverSessionName then
    (replyMessage,dbinderSessionNameInvalid)
  else
    match setReplyMessage replyMessage answers.stubIndex answers.serverSessionName answers.selfTokenId with
    | (filled,true) => (filled,0)
    | (filled,false) => (filled,dbinderSessionNameInvalid)

/-- One pass of the loop in `LoadSystemAbilityComplete`: the message, and the code and reason
`SendReplyMessageToRemote` is called with. -/
def answerLoaded (remoteObject : Bool) (answers : Answers) (replyMessage : DHandleEntryTxRx) :
    DHandleEntryTxRx × UInt32 × UInt32 :=
  if ¬ remoteObject then (replyMessage,messageAsRemoteError,dbinderSaNotFound)
  else if ¬ answers.proxyKnown ∧ ¬ answers.recipientAdded then (replyMessage,messageAsRemoteError,dbinderSaNotFound)
  else if replyMessage.transType ≠ databusType then (replyMessage,messageAsRemoteError,dbinderSaInvokeFailed)
  else
    let (filled,result) := onRemoteInvokerDataBusMessage answers replyMessage
    if result ≠ 0 then (filled,messageAsRemoteError,result) else (filled,messageAsReply,0)

structure SessionInfo where
  seqNumber : UInt32
  type : UInt32
  toPort : UInt16
  fromPort : UInt16
  stubIndex : UInt64
  socketFd : UInt32
  serviceName : List UInt8
  deviceIdInfo : DeviceIdInfo
  deriving DecidableEq

structure Registry where
  mapDBinderStubRegisters : Table UInt64 UInt64
  dBinderStubRegisted : List UInt64
  sessionObject : Table UInt64 SessionInfo

namespace Registry

def queryStubPtr (registry : Registry) (stubTag : UInt64) : UInt64 :=
  (registry.mapDBinderStubRegisters.lookup stubTag).getD 0

def isInvalidStub (registry : Registry) (replyMessage : DHandleEntryTxRx) : Bool :=
  registry.queryStubPtr replyMessage.stub ∉ registry.dBinderStubRegisted

def attachSessionObject (registry : Registry) (session : SessionInfo) (stub : UInt64) : Registry :=
  -- insert of a std::map keeps an entry that is there
  match registry.sessionObject.lookup stub with
  | some _ => registry
  | none => { registry with sessionObject := registry.sessionObject.insert stub session }

def detachSessionObject (registry : Registry) (stub : UInt64) : Registry :=
  { registry with sessionObject := registry.sessionObject.erase stub }

end Registry

def isValidSessionName (replyMessage : DHandleEntryTxRx) : Bool :=
  let realLen := (cString (replyMessage.serviceName.take (servicenameLength+1))).length
  replyMessage.serviceNameLength.toNat ≤ servicenameLength && realLen ≤ servicenameLength &&
    realLen = replyMessage.serviceNameLength.toNat

def isSameSession (oldSession newSession : SessionInfo) : Bool :=
  oldSession.stubIndex = newSession.stubIndex && oldSession.toPort = newSession.toPort &&
    oldSession.fromPort = newSession.fromPort && oldSession.type = newSession.type &&
    oldSession.serviceName = newSession.serviceName &&
    (cString oldSession.deviceIdInfo.fromDeviceId).take deviceidLength =
      (cString newSession.deviceIdInfo.fromDeviceId).take deviceidLength &&
    (cString oldSession.deviceIdInfo.toDeviceId).take deviceidLength =
      (cString newSession.deviceIdInfo.toDeviceId).take deviceidLength

def initializeSession (replyMessage : DHandleEntryTxRx) : SessionInfo where
  seqNumber := replyMessage.seqNumber
  socketFd := 0
  stubIndex := replyMessage.stubIndex
  toPort := replyMessage.toPort
  fromPort := replyMessage.fromPort
  type := replyMessage.transType
  serviceName := cString replyMessage.serviceName
  -- remote device does not support tokenId, clear random value
  deviceIdInfo := if replyMessage.dBinderCode = messageAsReply then { replyMessage.deviceIdInfo with tokenId := 0 }
    else replyMessage.deviceIdInfo

def Registry.makeSessionByReplyMessage (registry : Registry) (replyMessage : DHandleEntryTxRx) : Registry :=
  if registry.isInvalidStub replyMessage then registry
  else if ¬ isValidSessionName replyMessage then registry
  else
    let session := initializeSession replyMessage
    if session.stubIndex = 0 then registry
    else
      let stub := registry.queryStubPtr replyMessage.stub
      match registry.sessionObject.lookup stub with
      | none => registry.attachSessionObject session stub
      | some oldSession =>
        if isSameSession oldSession session then registry
        else if oldSession.seqNumber ≤ session.seqNumber then
          (registry.detachSessionObject stub).attachSessionObject session stub
        else registry.attachSessionObject session stub

/-- `OnRemoteMessageTask`, as far as it changes sessions. -/
def Registry.onRemoteMessageTask (registry : Registry) (message : DHandleEntryTxRx) : Registry :=
  if message.dBinderCode = messageAsReply ∨ message.dBinderCode = messageAsReplyTokenid then
    registry.makeSessionByReplyMessage message
  else registry

end CommunicationIpc.Kernel.Negotiation
