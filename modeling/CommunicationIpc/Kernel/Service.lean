import CommunicationIpc.Kernel.Negotiation
import CommunicationIpc.Library.Threads

/-! `DBinderService` on the requesting side: its registry of stubs, tags, sessions and thread
locks, and the calls, replies and notices that work on it at the same time. Each section under
one mutex and each access to an atomic field of a stub is one step. -/
namespace CommunicationIpc.Kernel.Service
open CommunicationIpc.Library CommunicationIpc.Kernel.Negotiation

def retryTimes : Nat := 2
def threadLockRetryTimes : Nat := 10
def dbinderStubRefCount : Nat := 2

inductive NegotiationStatus
  | init
  | doing
  | finished
  deriving DecidableEq

structure DBinderServiceStub where
  serviceName : List UInt16
  deviceID : List UInt8
  binderObject : UInt64
  peerPid : UInt32
  peerUid : UInt32
  seqNum : UInt32
  negoStatus : NegotiationStatus

/-- `attached` is not a field of the source: the key of `threadLockInfo_` the lock was made for. -/
structure ThreadLockInfo where
  ready : Bool
  networkId : List UInt8
  attached : UInt32

/-- What the surroundings of the process fix: `GetLocalDeviceID`, and the number `from_chars` reads in a
service name. -/
structure Host where
  localDeviceID : List UInt8
  subIndex : List UInt16 → Option UInt64

/-- Stubs and locks are objects; the containers hold their addresses. `sent` lists what
`SendDataToRemote` was able to send, with the device it went to. -/
structure Shared where
  registry : Registry
  stubTagNum : UInt64
  seqNumber : UInt32
  stubs : UInt64 → DBinderServiceStub
  threadLockInfo : Table UInt32 Nat
  locks : Nat → ThreadLockInfo
  lockCount : Nat
  deathNotification : Bool
  sent : List (List UInt8 × DHandleEntryTxRx)

namespace Shared

def getSeqNumber (shared : Shared) : Shared × UInt32 :=
  let seqNumber := (if shared.seqNumber = 0xffffffff then 0 else shared.seqNumber)+1
  ({ shared with seqNumber := seqNumber },seqNumber)

/-- The first tag whose value is the stub, in the order of the map. -/
def tagOf (registry : Registry) (stub : UInt64) : Option UInt64 :=
  ((registry.mapDBinderStubRegisters.entries.filter fun entry => entry.2 = stub).map Sigma.fst).min?

def addStubByTag (shared : Shared) (stub : UInt64) : Shared × UInt64 :=
  match tagOf shared.registry stub with
  | some tag => (shared,tag)
  | none =>
    let stubTag := shared.stubTagNum
    let counted := { shared with stubTagNum := stubTag+1 }
    match shared.registry.mapDBinderStubRegisters.lookup stubTag with
    | some _ => (counted,0)
    | none => ({ counted with registry := { shared.registry with
        mapDBinderStubRegisters := shared.registry.mapDBinderStubRegisters.insert stubTag stub } },stubTag)

def hasDBinderStub (shared : Shared) (stub : UInt64) : Bool := stub ∈ shared.registry.dBinderStubRegisted

def isSameStubObject (stub : DBinderServiceStub) (service : List UInt16) (device : List UInt8) (pid uid : UInt32) : Bool :=
  stub.serviceName = service && stub.deviceID = device && stub.peerPid = pid && stub.peerUid = uid

def isServiceOf (stub : DBinderServiceStub) (service : List UInt16) (device : List UInt8) : Bool :=
  stub.serviceName = service && stub.deviceID = device

def findDBinderStub (shared : Shared) (service : List UInt16) (device : List UInt8) : List UInt64 :=
  shared.registry.dBinderStubRegisted.filter fun stub => isServiceOf (shared.stubs stub) service device

/-- Takes one stub out of the list, and its tag out of the map. -/
def eraseStub (registry : Registry) (stub : UInt64) : Registry :=
  let tags := registry.mapDBinderStubRegisters
  { registry with
    dBinderStubRegisted := registry.dBinderStubRegisted.erase stub,
    mapDBinderStubRegisters := match tagOf registry stub with
      | some tag => tags.erase tag
      | none => tags }

def deleteDBinderStub (shared : Shared) (service : List UInt16) (device : List UInt8) (pid uid : UInt32) : Shared :=
  match shared.registry.dBinderStubRegisted.find? fun stub => isSameStubObject (shared.stubs stub) service device pid uid with
  | none => shared
  | some stub => { shared with registry := eraseStub shared.registry stub }

def deleteDBinderStubs (shared : Shared) (service : List UInt16) (device : List UInt8) : Shared :=
  { shared with registry := (shared.findDBinderStub service device).foldl eraseStub shared.registry }

def setNegoStatus (shared : Shared) (stub : UInt64) (status : NegotiationStatus) : Shared :=
  { shared with stubs := fun i => if i = stub then { shared.stubs i with negoStatus := status } else shared.stubs i }

def setSeqNumber (shared : Shared) (stub : UInt64) (seqNum : UInt32) : Shared :=
  { shared with stubs := fun i => if i = stub then { shared.stubs i with seqNum := seqNum } else shared.stubs i }

def detachThreadLockInfo (shared : Shared) (seqNumber : UInt32) : Shared :=
  { shared with threadLockInfo := shared.threadLockInfo.erase seqNumber }

/-- A new lock; `none` when the sequence number has one already. -/
def attachThreadLockInfo (shared : Shared) (seqNumber : UInt32) (networkId : List UInt8) : Option Shared :=
  match shared.threadLockInfo.lookup seqNumber with
  | some _ => none
  | none => some { shared with
      locks := fun i => if i = shared.lockCount then ⟨false,networkId,seqNumber⟩ else shared.locks i,
      lockCount := shared.lockCount+1,
      threadLockInfo := shared.threadLockInfo.insert seqNumber shared.lockCount }

def setReady (shared : Shared) (lock : Nat) (ready : Bool) : Shared :=
  { shared with locks := fun i => if i = lock then { shared.locks i with ready := ready } else shared.locks i }

def detachSessionObject (shared : Shared) (stub : UInt64) : Shared :=
  { shared with registry := shared.registry.detachSessionObject stub }

def attachSessionObject (shared : Shared) (session : SessionInfo) (stub : UInt64) : Shared :=
  { shared with registry := shared.registry.attachSessionObject session stub }

end Shared

/-- The arguments of a `MakeRemoteBinder` call and the token of its caller. -/
structure Call where
  serviceName : List UInt16
  deviceID : List UInt8
  binderObject : UInt64
  pid : UInt32
  uid : UInt32
  tokenId : UInt32

/-- What `InvokerRemoteDBinder` is called with, and how often it has been called before. -/
structure Attempt where
  stub : UInt64
  seqNum : UInt32
  isNew : Bool
  before : Nat

inductive Failure
  | makeThreadlockFailed
  | sendMessageFailed
  | waitReplyTimeout
  | queryReplySessionFailed
  deriving DecidableEq

/-- Where a `MakeRemoteBinder` call stands; the name is that of its next section. -/
inductive MakePc
  | findOrNewDBinderStub
  | nextSeqNumber (stub : UInt64)
  | setSeqNumber (stub : UInt64) (seqNum : UInt32)
  | getSeqNumber (stub : UInt64)
  | getNegoStatus (attempt : Attempt)
  | setDoing (attempt : Attempt)
  | attachThreadLockInfo (attempt : Attempt)
  | createMessage (attempt : Attempt) (lock : Nat)
  | sendDataToRemote (attempt : Attempt) (lock : Nat) (message : DHandleEntryTxRx)
  | sendFailed (attempt : Attempt)
  | detachThreadLockInfo (attempt : Attempt)
  | waitStatus (attempt : Attempt) (count : Nat)
  | waitLock (attempt : Attempt) (count : Nat)
  | waitReply (attempt : Attempt) (lock : Nat)
  | timeoutDetach (attempt : Attempt) (lock : Nat)
  | timeoutReady (attempt : Attempt) (lock : Nat)
  | querySession (attempt : Attempt)
  | setFinished (attempt : Attempt)
  | resetStatus (attempt : Attempt) (failure : Failure)
  | failed (attempt : Attempt) (failure : Failure)
  | deleteDBinderStub (attempt : Attempt)
  | detachSessionObject (attempt : Attempt)

/-- Where a reply stands in `OnRemoteReplyMessage`; each `QueryStubPtr` is a section of its own. -/
inductive ReplyPc
  | checkTag
  | checkStub (stub : UInt64)
  | queryTag
  | querySession (stub : UInt64)
  | detachTag
  | detachSession (stub : UInt64)
  | attachTag
  | attachSession (stub : UInt64)

inductive WakePc
  | query
  | ready (lock : Nat)
  | detach

/-- Where a death notice stands; `services` are the ones still to come. -/
inductive NoticePc
  | lock
  | find
  | detach (service : List UInt16) (stubs : List UInt64)
  | delete (service : List UInt16)

inductive Task
  | idle
  | make (call : Call) (pc : MakePc)
  | returned (result : Option UInt64)
  | reply (message : DHandleEntryTxRx) (pc : ReplyPc)
  | wake (seqNumber : UInt32) (pc : WakePc)
  | noticeDevice (device : List UInt8)
  | notice (device : List UInt8) (services : List (List UInt16)) (pc : NoticePc)
  | clear (locks : List Nat)
  | closed (networkId : List UInt8)
  | finished

/-- What the surroundings choose in a step: the calls that come in, the address a new stub gets, whether a
message can be sent, the end of the waiting time, and the reference count of a stub. -/
inductive Choice
  | makeRemoteBinder (call : Call)
  | onBytesReceived (device : List UInt8) (message : DHandleEntryTxRx)
  | noticeServiceDie (service : List UInt16) (device : List UInt8)
  | noticeDeviceDie (device : List UInt8)
  | processOnSessionClosed (networkId : List UInt8)
  | dBinderClearServiceState (stub : UInt64)
  | go
  | allocate (stub : UInt64)
  | sent (success : Bool)
  | timeout
  | references (count : Nat)

section Steps
variable (host : Host)

def createMessage (shared : Shared) (call : Call) (attempt : Attempt) : Option (Shared × DHandleEntryTxRx) :=
  let stub := shared.stubs attempt.stub
  if isDeviceIdIllegal stub.deviceID || isDeviceIdIllegal host.localDeviceID then none
  else
    match host.subIndex stub.serviceName with
    | none => none
    | some subIndex =>
      let (tagged,tag) := shared.addStubByTag attempt.stub
      some (tagged,{
        version := rpcTokenidSupportVersion
        transType := databusType
        dBinderCode := messageAsInvoker
        fromPort := 0
        toPort := 0
        stubIndex := subIndex
        seqNumber := attempt.seqNum
        binderObject := stub.binderObject
        deviceIdInfo := ⟨call.tokenId,overwrite (List.replicate (deviceidLength+1) 0) 0 host.localDeviceID,
          overwrite (List.replicate (deviceidLength+1) 0) 0 stub.deviceID⟩
        stub := tag
        serviceNameLength := 0
        serviceName := List.replicate (servicenameLength+1) 0
        pid := call.pid
        uid := call.uid })

def advanceMake (shared : Shared) (call : Call) (pc : MakePc) (choice : Choice) : Option (Shared × Task) :=
  match pc,choice with
  | .findOrNewDBinderStub,.allocate address =>
    match shared.registry.dBinderStubRegisted.find? fun stub =>
        Shared.isSameStubObject (shared.stubs stub) call.serviceName call.deviceID call.pid call.uid with
    | some stub => some (shared,.make call (.getSeqNumber stub))
    | none =>
      if address = 0 ∨ address ∈ shared.registry.dBinderStubRegisted then none
      else
        let made : DBinderServiceStub :=
          ⟨call.serviceName,call.deviceID,call.binderObject,call.pid,call.uid,0,.init⟩
        some ({ shared with
          stubs := fun i => if i = address then made else shared.stubs i,
          registry := { shared.registry with dBinderStubRegisted := shared.registry.dBinderStubRegisted ++ [address] } },
          .make call (.nextSeqNumber address))
  | .nextSeqNumber stub,.go =>
    let (counted,seqNum) := shared.getSeqNumber
    some (counted,.make call (.setSeqNumber stub seqNum))
  | .setSeqNumber stub seqNum,.go => some (shared.setSeqNumber stub seqNum,.make call (.getNegoStatus ⟨stub,seqNum,true,0⟩))
  | .getSeqNumber stub,.go => some (shared,.make call (.getNegoStatus ⟨stub,(shared.stubs stub).seqNum,false,0⟩))
  | .getNegoStatus attempt,.go =>
    if attempt.isNew ∨ (shared.stubs attempt.stub).negoStatus = .init then some (shared,.make call (.setDoing attempt))
    else some (shared,.make call (.waitStatus attempt 0))
  | .setDoing attempt,.go => some (shared.setNegoStatus attempt.stub .doing,.make call (.attachThreadLockInfo attempt))
  | .attachThreadLockInfo attempt,.go =>
    match shared.attachThreadLockInfo attempt.seqNum (shared.stubs attempt.stub).deviceID with
    | none => some (shared,.make call (.resetStatus attempt .makeThreadlockFailed))
    | some attached => some (attached,.make call (.createMessage attempt shared.lockCount))
  | .createMessage attempt lock,.go =>
    match createMessage host shared call attempt with
    | none => some (shared,.make call (.sendFailed attempt))
    | some (tagged,message) => some (tagged,.make call (.sendDataToRemote attempt lock message))
  | .sendDataToRemote attempt lock message,.sent success =>
    if success then
      some ({ shared with sent := shared.sent ++ [((shared.stubs attempt.stub).deviceID,message)] },
        .make call (.waitReply attempt lock))
    else some (shared,.make call (.sendFailed attempt))
  | .sendFailed attempt,.go => some (shared.setNegoStatus attempt.stub .init,.make call (.detachThreadLockInfo attempt))
  | .detachThreadLockInfo attempt,.go =>
    some (shared.detachThreadLockInfo attempt.seqNum,.make call (.failed attempt .sendMessageFailed))
  | .waitStatus attempt count,.go =>
    if (shared.stubs attempt.stub).negoStatus = .finished then some (shared,.returned (some attempt.stub))
    else some (shared,.make call (.waitLock attempt count))
  | .waitLock attempt count,.go =>
    match shared.threadLockInfo.lookup attempt.seqNum with
    | some lock => some (shared,.make call (.waitReply attempt lock))
    | none =>
      if count+1 < threadLockRetryTimes then some (shared,.make call (.waitStatus attempt (count+1)))
      else some (shared,.make call (.failed attempt .makeThreadlockFailed))
  | .waitReply attempt lock,.go =>
    if (shared.locks lock).ready then some (shared,.make call (.querySession attempt)) else none
  | .waitReply attempt lock,.timeout =>
    if (shared.locks lock).ready then none
    else some (shared.setNegoStatus attempt.stub .init,.make call (.timeoutDetach attempt lock))
  | .timeoutDetach attempt lock,.go =>
    some (shared.detachThreadLockInfo attempt.seqNum,.make call (.timeoutReady attempt lock))
  | .timeoutReady attempt lock,.go => some (shared.setReady lock false,.make call (.failed attempt .waitReplyTimeout))
  | .querySession attempt,.go =>
    match shared.registry.sessionObject.lookup attempt.stub with
    | none => some (shared,.make call (.resetStatus attempt .queryReplySessionFailed))
    | some _ => some (shared,.make call (.setFinished attempt))
  | .setFinished attempt,.go => some (shared.setNegoStatus attempt.stub .finished,.returned (some attempt.stub))
  | .resetStatus attempt failure,.go => some (shared.setNegoStatus attempt.stub .init,.make call (.failed attempt failure))
  | .failed attempt failure,.references count =>
    if failure = .waitReplyTimeout ∧ attempt.before+1 < retryTimes then
      some (shared,.make call (.getNegoStatus { attempt with before := attempt.before+1 }))
    else if count ≤ dbinderStubRefCount then some (shared,.make call (.deleteDBinderStub attempt))
    else some (shared,.returned none)
  | .deleteDBinderStub attempt,.go =>
    some (shared.deleteDBinderStub call.serviceName call.deviceID call.pid call.uid,.make call (.detachSessionObject attempt))
  | .detachSessionObject attempt,.go => some (shared.detachSessionObject attempt.stub,.returned none)
  | _,_ => none

def advanceReply (shared : Shared) (message : DHandleEntryTxRx) (pc : ReplyPc) : Shared × Task :=
  let session := initializeSession message
  let done : Task := .wake message.seqNumber .query
  match pc with
  | .checkTag => (shared,.reply message (.checkStub (shared.registry.queryStubPtr message.stub)))
  | .checkStub stub =>
    if ¬ shared.hasDBinderStub stub ∨ ¬ isValidSessionName message ∨ session.stubIndex = 0 then (shared,done)
    else (shared,.reply message .queryTag)
  | .queryTag => (shared,.reply message (.querySession (shared.registry.queryStubPtr message.stub)))
  | .querySession stub =>
    match shared.registry.sessionObject.lookup stub with
    | none => (shared,.reply message .attachTag)
    | some oldSession =>
      if isSameSession oldSession session then (shared,done)
      else if oldSession.seqNumber ≤ session.seqNumber then (shared,.reply message .detachTag)
      else (shared,.reply message .attachTag)
  | .detachTag => (shared,.reply message (.detachSession (shared.registry.queryStubPtr message.stub)))
  | .detachSession stub => (shared.detachSessionObject stub,.reply message .attachTag)
  | .attachTag => (shared,.reply message (.attachSession (shared.registry.queryStubPtr message.stub)))
  | .attachSession stub => (shared.attachSessionObject session stub,done)

def advanceWake (shared : Shared) (seqNumber : UInt32) (pc : WakePc) : Shared × Task :=
  match pc with
  | .query =>
    match shared.threadLockInfo.lookup seqNumber with
    | some lock => (shared,.wake seqNumber (.ready lock))
    | none => (shared,.wake seqNumber .detach)
  | .ready lock => (shared.setReady lock true,.wake seqNumber .detach)
  | .detach => (shared.detachThreadLockInfo seqNumber,.finished)

/-- `NoticeCallbackProxy` for one service after the other, under `deathNotificationMutex_`. -/
def advanceNotice (shared : Shared) (device : List UInt8) (services : List (List UInt16)) (pc : NoticePc) :
    Option (Shared × Task) :=
  match pc with
  | .lock =>
    if shared.deathNotification then none
    else some ({ shared with deathNotification := true },.notice device services .find)
  | .find =>
    match services with
    | [] => some ({ shared with deathNotification := false },.finished)
    | service :: services =>
      -- a service without stubs is left alone, also by DeleteDBinderStub
      match shared.findDBinderStub service device with
      | [] => some (shared,.notice device services .find)
      | stubs => some (shared,.notice device services (.detach service stubs))
  | .detach service stubs =>
    match stubs with
    | [] => some (shared,.notice device services (.delete service))
    | stub :: stubs => some (shared.detachSessionObject stub,.notice device services (.detach service stubs))
  | .delete service => some (shared.deleteDBinderStubs service device,.notice device services .find)

def findServicesByDeviceID (shared : Shared) (device : List UInt8) : List (List UInt16) :=
  ((shared.registry.dBinderStubRegisted.filter fun stub => (shared.stubs stub).deviceID = device).map fun stub =>
    (shared.stubs stub).serviceName).dedup.mergeSort

/-- What an idle thread starts: a call, the task of a received message, a notice or a request on a stub. -/
def spawn (shared : Shared) (choice : Choice) : Option (Shared × Task) :=
  match choice with
  | .makeRemoteBinder call =>
    if isDeviceIdIllegal call.deviceID ∨ call.serviceName = [] then some (shared,.returned none)
    else some (shared,.make call .findOrNewDBinderStub)
  | .onBytesReceived _ message =>
    -- the socket, and with it the device, is not handed on
    if message.dBinderCode = messageAsReply ∨ message.dBinderCode = messageAsReplyTokenid then
      some (shared,.reply message .checkTag)
    else if message.dBinderCode = messageAsRemoteError then some (shared,.wake message.seqNumber .query)
    else some (shared,.finished)
  | .noticeServiceDie service device =>
    if service = [] ∨ isDeviceIdIllegal device then some (shared,.finished)
    else some (shared,.notice device [service] .lock)
  | .noticeDeviceDie device =>
    if isDeviceIdIllegal device then some (shared,.finished) else some (shared,.noticeDevice device)
  | .processOnSessionClosed networkId => some (shared,.closed networkId)
  | .dBinderClearServiceState stub => some (shared.setNegoStatus stub .init,.finished)
  | _ => none

/-- A section in which there is nothing to choose. -/
def onGo (choice : Choice) (result : Option (Shared × Task)) : Option (Shared × Task) :=
  match choice with
  | .go => result
  | _ => none

def advance (shared : Shared) (task : Task) (choice : Choice) : Option (Shared × Task) :=
  match task with
  | .idle => spawn shared choice
  | .make call pc => advanceMake host shared call pc choice
  | .reply message pc => onGo choice (some (advanceReply shared message pc))
  | .wake seqNumber pc => onGo choice (some (advanceWake shared seqNumber pc))
  | .noticeDevice device =>
    match findServicesByDeviceID shared device with
    | [] => onGo choice (some (shared,.finished))
    | services => onGo choice (some (shared,.notice device services .lock))
  | .notice device services pc => onGo choice (advanceNotice shared device services pc)
  | .closed networkId =>
    let closing := shared.threadLockInfo.entries.filter fun entry => (shared.locks entry.2).networkId = networkId
    onGo choice (some ({ shared with
      threadLockInfo := closing.foldl (fun table entry => table.erase entry.1) shared.threadLockInfo },
      .clear (closing.map Sigma.snd)))
  | .clear [] => onGo choice (some (shared,.finished))
  | .clear (lock :: locks) => onGo choice (some (shared.setReady lock false,.clear locks))
  | .returned _ => none
  | .finished => none

end Steps

def Shared.empty : Shared where
  registry := ⟨∅,[],∅⟩
  stubTagNum := 1
  seqNumber := 0
  stubs := fun _ => ⟨[],[],0,0,0,0,.init⟩
  threadLockInfo := ∅
  locks := fun _ => ⟨false,[],0⟩
  lockCount := 0
  deathNotification := false
  sent := []

def started : Pool Shared Task := ⟨.empty,fun _ => .idle⟩

end CommunicationIpc.Kernel.Service
