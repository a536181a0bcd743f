import CommunicationIpc.Kernel.LoadReply
import CommunicationIpc.Kernel.ServiceStubData
import CommunicationIpc.Library.Word

/-! The strings that `DBinderService` reads from the messages of other devices, from `OnBytesReceived` to `ProcessProto`. A `Read` is not
in the source: it names an array that is read, and how far. Calls on the serving side are the steps of `Kernel.LoadReply`. -/
namespace CommunicationIpc.Kernel.MessageStrings
open CommunicationIpc.Library CommunicationIpc.Kernel.Negotiation
open CommunicationIpc.Kernel.ServiceStubData (createDatabusName)

/-- As a string, up to the first zero byte, or with a count of bytes that are not passed. -/
inductive Read where
  | string (chars : List UInt8)
  | bounded (chars : List UInt8) (count : Nat)
  deriving DecidableEq

/-- `sizeof(DHandleEntryTxRx)`. -/
def messageSize : Nat := 408

def decode (bytes : List UInt8) : DHandleEntryTxRx :=
  let memory := Memory.ofBytes bytes
  { version := memory.load UInt32 4
    transType := memory.load UInt32 8
    dBinderCode := memory.load UInt32 12
    fromPort := memory.load UInt16 16
    toPort := memory.load UInt16 18
    stubIndex := memory.load UInt64 24
    seqNumber := memory.load UInt32 32
    binderObject := memory.load UInt64 40
    deviceIdInfo := ⟨memory.load UInt32 48,memory.readBytes 52 (deviceidLength+1),memory.readBytes 117 (deviceidLength+1)⟩
    stub := memory.load UInt64 184
    serviceNameLength := memory.load UInt16 192
    serviceName := memory.readBytes 194 (servicenameLength+1)
    pid := memory.load UInt32 396
    uid := memory.load UInt32 400 }

/-- The message that is queued, if any. -/
def onBytesReceived (bytes : List UInt8) : Option DHandleEntryTxRx :=
  if bytes.length ≠ messageSize then none
  else if (Memory.ofBytes bytes).read 0 4 ≠ messageSize then none
  else some (decode bytes)

section Serving
variable (state : LoadReply.State)

def sendReplyMessageToRemoteReads (replyMessage : DHandleEntryTxRx) : List Read :=
  if state.remoteListener then [.string replyMessage.deviceIdInfo.fromDeviceId] else []

/-- Up to the call of `LoadSystemAbilityFromRemote`. -/
def onRemoteInvokerMessageReads (message : DHandleEntryTxRx) (distributed : Bool) : List Read :=
  match checkAndAmendSaId message with
  | none => sendReplyMessageToRemoteReads state message
  | some amended =>
    if ¬ distributed then sendReplyMessageToRemoteReads state amended else [.string amended.deviceIdInfo.fromDeviceId]

def isSameLoadSaItemReads (systemAbilityId : Int32) (loadSaItem : DHandleEntryTxRx) : List Read :=
  if toInt32 loadSaItem.binderObject = systemAbilityId then [.string loadSaItem.deviceIdInfo.fromDeviceId] else []

/-- The search goes up to the first item that is the same. -/
def popLoadSaItemReads (srcNetworkId : List UInt8) (systemAbilityId : Int32) : List Nat → List Read
  | [] => []
  | id :: ids =>
    isSameLoadSaItemReads systemAbilityId (state.messages id) ++
      if state.isSameLoadSaItem srcNetworkId systemAbilityId id then [] else popLoadSaItemReads srcNetworkId systemAbilityId ids

/-- One pass of the loop in `LoadSystemAbilityComplete`. -/
def answerLoadedReads (remoteObject : Bool) (answers : Answers) (replyMessage : DHandleEntryTxRx) : List Read :=
  (if remoteObject && (answers.proxyKnown || answers.recipientAdded) then [.string replyMessage.deviceIdInfo.fromDeviceId] else []) ++
    sendReplyMessageToRemoteReads state (answerLoaded remoteObject answers replyMessage).1

def servingReads : LoadReply.Event → List Read
  | .popRefused id =>
    if state.phases id = .refused then
      let message := state.messages id
      .string message.deviceIdInfo.fromDeviceId ::
        popLoadSaItemReads state (cString message.deviceIdInfo.fromDeviceId) (toInt32 message.binderObject) state.loadSaReply
    else []
  | .answerRefused id =>
    if state.phases id = .answering then sendReplyMessageToRemoteReads state (state.messages id) else []
  | .completePop thread =>
    match state.completions.lookup thread with
    | some completion =>
      if completion.replyMessage = none then
        popLoadSaItemReads state completion.srcNetworkId completion.systemAbilityId state.loadSaReply
      else []
    | none => []
  | .completeAnswer thread answers =>
    match state.completions.lookup thread with
    | some completion =>
      match completion.replyMessage with
      | some id => answerLoadedReads state completion.remoteObject answers (state.messages id)
      | none => []
    | none => []
  | _ => []

end Serving

section Sessions

/-- `strncmp` is only called once the other fields agree, for the second array once the first agrees. -/
def isSameSessionReads (oldSession newSession : SessionInfo) : List Read :=
  if oldSession.stubIndex ≠ newSession.stubIndex ∨ oldSession.toPort ≠ newSession.toPort ∨ oldSession.fromPort ≠ newSession.fromPort ∨
      oldSession.type ≠ newSession.type ∨ oldSession.serviceName ≠ newSession.serviceName then []
  else
    [.bounded oldSession.deviceIdInfo.fromDeviceId deviceidLength,.bounded newSession.deviceIdInfo.fromDeviceId deviceidLength] ++
      if (cString oldSession.deviceIdInfo.fromDeviceId).take deviceidLength ≠
          (cString newSession.deviceIdInfo.fromDeviceId).take deviceidLength then []
      else [.bounded oldSession.deviceIdInfo.toDeviceId deviceidLength,.bounded newSession.deviceIdInfo.toDeviceId deviceidLength]

def isValidSessionNameReads (replyMessage : DHandleEntryTxRx) : List Read :=
  if servicenameLength < replyMessage.serviceNameLength.toNat then [] else [.bounded replyMessage.serviceName (servicenameLength+1)]

def makeSessionByReplyMessageReads (registry : Registry) (replyMessage : DHandleEntryTxRx) : List Read :=
  if registry.isInvalidStub replyMessage then []
  else
    isValidSessionNameReads replyMessage ++
      if ¬ isValidSessionName replyMessage then []
      else
        let session := initializeSession replyMessage
        .string replyMessage.serviceName ::
          if session.stubIndex = 0 then []
          else
            match registry.sessionObject.lookup (registry.queryStubPtr replyMessage.stub) with
            | none => []
            | some oldSession => isSameSessionReads oldSession session

/-- The caller, whether the permission is granted, and how many of the writes to the reply succeed. -/
structure ProtoAnswers where
  uid : Int32
  pid : Int32
  granted : Bool
  written : Nat

/-- The device ids come fourth and fifth in the reply, and a write that fails ends it. -/
def processProtoReads (registry : Registry) (stub : UInt64) (answers : ProtoAnswers) : List Read :=
  match registry.sessionObject.lookup stub with
  | none => []
  | some session =>
    if answers.uid < 0 ∨ answers.pid < 0 then []
    else if createDatabusName answers.uid answers.pid answers.granted = [] then []
    else if session.type = databusType then
      (if 3 ≤ answers.written then [.string session.deviceIdInfo.toDeviceId] else []) ++
        if 4 ≤ answers.written then [.string session.deviceIdInfo.fromDeviceId] else []
    else []

end Sessions

structure DBinderService where
  serving : LoadReply.State
  registry : Registry

/-- A received message has a name of its own; what follows on the serving side are steps of `Kernel.LoadReply`. -/
inductive Event where
  | onBytesReceived (id : Nat) (bytes : List UInt8) (distributed : Bool)
  | serving (event : LoadReply.Event)
  | processProto (stub : UInt64) (answers : ProtoAnswers)

namespace DBinderService

def new (messages : Nat → DHandleEntryTxRx) (registry : Registry) : DBinderService :=
  ⟨.new messages,{ registry with sessionObject := ∅ }⟩

def serve (service : DBinderService) (event : LoadReply.Event) : DBinderService :=
  { service with serving := (service.serving.step event).getD service.serving }

def onRemoteMessageTask (service : DBinderService) (id : Nat) (message : DHandleEntryTxRx) (distributed : Bool) : DBinderService :=
  if message.dBinderCode = messageAsInvoker then service.serve (.receive id message distributed)
  else { service with registry := service.registry.onRemoteMessageTask message }

def onRemoteMessageTaskReads (service : DBinderService) (id : Nat) (message : DHandleEntryTxRx) (distributed : Bool) : List Read :=
  if message.dBinderCode = messageAsInvoker then
    if service.serving.phases id = .unseen then onRemoteInvokerMessageReads service.serving message distributed else []
  else if message.dBinderCode = messageAsReply ∨ message.dBinderCode = messageAsReplyTokenid then
    makeSessionByReplyMessageReads service.registry message
  else []

/-- Only bytes that are received bring a message. -/
def step (service : DBinderService) : Event → DBinderService
  | .onBytesReceived id bytes distributed =>
    match onBytesReceived bytes with
    | some message => service.onRemoteMessageTask id message distributed
    | none => service
  | .serving (.receive _ _ _) => service
  | .serving event => service.serve event
  | .processProto _ _ => service

def reads (service : DBinderService) : Event → List Read
  | .onBytesReceived id bytes distributed =>
    match onBytesReceived bytes with
    | some message => service.onRemoteMessageTaskReads id message distributed
    | none => []
  | .serving event => servingReads service.serving event
  | .processProto stub answers => processProtoReads service.registry stub answers

end DBinderService

end CommunicationIpc.Kernel.MessageStrings
