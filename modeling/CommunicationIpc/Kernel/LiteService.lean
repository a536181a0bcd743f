import Mathlib.Data.UInt

/-! The registry of the lite `DBinderService`: `MakeRemoteBinder` with `InvokerRemoteDBinder` and `GetSeqNumber`, and
`OnRemoteReplyMessage`, over the lists of stubs, of waiting threads and of sessions. Calls and replies are numbered in the order they
begin; each section under a mutex is one step, and so is each read outside of one. A call with a null pointer or a wrong length
touches nothing and is not here; what is sent and which waits end is kept beside. -/
namespace CommunicationIpc.Kernel.LiteService

def RETRY_TIMES : Nat := 2
def SERVICENAME_LENGTH : Nat := 200
def DEVICEID_LENGTH : Nat := 64

def MESSAGE_AS_REPLY : UInt32 := 2

/-- `DBinderServiceStub`; `cookie` is the `svc.cookie` of its `SvcIdentity`, the address of its object stub. -/
structure DBinderServiceStub where
  address : UInt64
  serviceName : List UInt8
  deviceID : List UInt8
  binderObject : UInt64
  cookie : UInt64
  deriving DecidableEq, Repr

structure ThreadLockInfo where
  address : UInt64
  seqNumber : UInt32
  deriving DecidableEq, Repr

structure DeviceIdInfo where
  afType : UInt16
  fromDeviceId : List UInt8
  toDeviceId : List UInt8
  deriving DecidableEq, Repr

/-- What `OnRemoteReplyMessage` reads of a `DHandleEntryTxRx`; `serviceName` is the whole array. -/
structure DHandleEntryTxRx where
  transType : UInt32
  dBinderCode : UInt32
  fromPort : UInt16
  toPort : UInt16
  stubIndex : UInt64
  seqNumber : UInt32
  binderObject : UInt64
  deviceIdInfo : DeviceIdInfo
  stub : UInt64
  serviceNameLength : UInt16
  serviceName : List UInt8
  deriving DecidableEq, Repr

structure SessionInfo where
  address : UInt64
  type : UInt32
  toPort : UInt16
  fromPort : UInt16
  stubIndex : UInt64
  socketFd : UInt32
  serviceName : List UInt8
  deviceIdInfo : DeviceIdInfo
  stub : UInt64
  deriving DecidableEq, Repr

/-- What `SendEntryToRemote` writes of the call that sends it. -/
structure Request where
  seqNumber : UInt32
  binderObject : UInt64
  stub : UInt64
  deriving DecidableEq, Repr

/-- Where `InvokerRemoteDBinder` stands, once it has its `ThreadLockInfo`. It holds the mutex of that from `sending` on, but for
`waiting` and `woken`. -/
inductive Stage where
  | attaching
  | locking
  | sending
  | sent
  | waiting
  | woken
  | querying (ret : Bool)
  | detaching (ret : Bool)
  deriving DecidableEq, Repr

/-- Where `MakeRemoteBinder` stands. `counted` is between the unlock in `GetSeqNumber` and its return, with the number that the
call has counted up to. -/
inductive Call where
  | querying (serviceName deviceID : List UInt8) (binderObject : UInt64)
  | making (serviceName deviceID : List UInt8) (binderObject : UInt64)
  | adding (stub : DBinderServiceStub)
  | numbering (stub : DBinderServiceStub) (retryTimes : Nat)
  | counted (stub : DBinderServiceStub) (retryTimes : Nat) (own : UInt32)
  | creating (stub : DBinderServiceStub) (retryTimes : Nat) (seqNumber : UInt32)
  | invoking (stub : DBinderServiceStub) (retryTimes : Nat) (info : ThreadLockInfo) (stage : Stage)
  | searching (stub : DBinderServiceStub)
  | detachingSession (stub : DBinderServiceStub) (session : SessionInfo)
  | deleting (stub : DBinderServiceStub)
  | returned (result : Option DBinderServiceStub)
  deriving DecidableEq, Repr

/-- Where `OnRemoteReplyMessage` stands. -/
inductive Place where
  | validating
  | querying
  | attaching
  | lookingUp
  | signalling (info : ThreadLockInfo)
  | done
  deriving DecidableEq, Repr

structure Reply where
  message : DHandleEntryTxRx
  place : Place
  deriving DecidableEq, Repr

/-- `drawn` counts the calls of `GetSeqNumber`; `wakes` has, for each wait that ended with a signal, the waiter's number and that
of the reply. -/
structure System where
  seqNumber : UInt32
  dBinderStubs : List DBinderServiceStub
  threadLocks : List ThreadLockInfo
  sessionInfos : List SessionInfo
  calls : List Call
  replies : List Reply
  drawn : Nat
  sent : List Request
  wakes : List (UInt32 × UInt32)
  deriving DecidableEq, Repr

def System.new : System := ⟨0,[],[],[],[],[],0,[],[]⟩

/-- What the surroundings choose: the addresses that malloc returns, and whether malloc, the transport and the clock succeed. -/
inductive Event where
  | makeRemoteBinder (serviceName deviceID : List UInt8) (binderObject : UInt64)
  | call (call : Nat) (address cookie : UInt64) (succeeds : Bool)
  | timeout (call : Nat)
  | onRemoteMessageTask (message : DHandleEntryTxRx)
  | reply (reply : Nat) (address : UInt64) (succeeds : Bool)
  deriving DecidableEq, Repr

def isSameStub (serviceName deviceID : List UInt8) (binderObject : UInt64) (stub : DBinderServiceStub) : Bool :=
  decide (stub.serviceName = serviceName ∧ stub.deviceID = deviceID ∧ stub.binderObject = binderObject)

/-- The `ThreadLockInfo` of a call, from its allocation until it is freed. -/
def Call.info? : Call → Option ThreadLockInfo
  | .invoking _ _ info _ => some info
  | _ => none

def Stage.holds : Stage → Bool
  | .sending | .sent | .querying _ | .detaching _ => true
  | _ => false

/-- The call has the mutex of the `ThreadLockInfo` at an address. -/
def Call.locks (address : UInt64) : Call → Bool
  | .invoking _ _ info stage => decide (info.address = address) && stage.holds
  | _ => false

/-- The number of a call that waits on the condition of the `ThreadLockInfo` at an address. -/
def Call.waitsAt (address : UInt64) : Call → Option UInt32
  | .invoking _ _ info .waiting => if info.address = address then some info.seqNumber else none
  | _ => none

def Call.wake (address : UInt64) : Call → Call
  | .invoking stub retryTimes info .waiting =>
    if info.address = address then .invoking stub retryTimes info .woken else .invoking stub retryTimes info .waiting
  | call => call

/-- What `MakeRemoteBinder` does with what `InvokerRemoteDBinder` returns. -/
def Call.ended (stub : DBinderServiceStub) (retryTimes : Nat) (ret : Bool) : Call :=
  if ret then .returned (some stub)
  else if retryTimes+1 < RETRY_TIMES then .numbering stub (retryTimes+1)
  else .searching stub

def realLen (message : DHandleEntryTxRx) : Nat :=
  ((message.serviceName.take (SERVICENAME_LENGTH+1)).takeWhile fun byte => byte ≠ 0).length

def isValidSessionName (message : DHandleEntryTxRx) : Bool :=
  decide (message.serviceNameLength.toNat ≤ SERVICENAME_LENGTH ∧ realLen message ≤ SERVICENAME_LENGTH ∧
    realLen message = message.serviceNameLength.toNat)

def sessionOf (message : DHandleEntryTxRx) (address : UInt64) : SessionInfo :=
  ⟨address,message.transType,message.toPort,message.fromPort,message.stubIndex,0,
    message.serviceName.take message.serviceNameLength.toNat,message.deviceIdInfo,message.stub⟩

namespace System

def queryDBinderStub (system : System) (serviceName deviceID : List UInt8) (binderObject : UInt64) : Option DBinderServiceStub :=
  system.dBinderStubs.find? (isSameStub serviceName deviceID binderObject)

def querySessionObject (system : System) (stub : UInt64) : Option SessionInfo :=
  system.sessionInfos.find? fun session => session.stub = stub

def queryThreadLockInfo (system : System) (seqNumber : UInt32) : Option ThreadLockInfo :=
  system.threadLocks.find? fun info => info.seqNumber = seqNumber

def hasDBinderStub (system : System) (binderObject : UInt64) : Bool :=
  system.dBinderStubs.any fun stub => stub.binderObject = binderObject

/-- Stubs that are allocated: those in the list, and those that are about to be. -/
def allocated (system : System) : List DBinderServiceStub :=
  system.dBinderStubs ++ system.calls.filterMap fun
    | .adding stub => some stub
    | _ => none

def moveCall (system : System) (call : Nat) (place : Call) : System := { system with calls := system.calls.set call place }

def moveReply (system : System) (reply : Nat) (message : DHandleEntryTxRx) (place : Place) : System :=
  { system with replies := system.replies.set reply ⟨message,place⟩ }

/-- `pthread_cond_signal` on the condition at an address; nobody but its owner waits on it. -/
def signal (system : System) (address : UInt64) (seqNumber : UInt32) : System :=
  { system with
    calls := system.calls.map (Call.wake address)
    wakes := (system.calls.filterMap (Call.waitsAt address)).map (fun own => (own,seqNumber)) ++ system.wakes }

def stepInvoker (system : System) (call : Nat) (stub : DBinderServiceStub) (retryTimes : Nat) (info : ThreadLockInfo)
    (succeeds : Bool) : Stage → Option System
  | .attaching =>
    some ({ system with threadLocks := info :: system.threadLocks }.moveCall call (.invoking stub retryTimes info .locking))
  | .locking => some (system.moveCall call (.invoking stub retryTimes info .sending))
  | .sending =>
    if succeeds then
      some ({ system with sent := ⟨info.seqNumber,stub.binderObject,stub.cookie⟩ :: system.sent }.moveCall call
        (.invoking stub retryTimes info .sent))
    else some (system.moveCall call (.invoking stub retryTimes info (.querying false)))
  | .sent =>
    -- GetWaitTime may fail
    if succeeds then some (system.moveCall call (.invoking stub retryTimes info .waiting))
    else some (system.moveCall call (.invoking stub retryTimes info (.detaching false)))
  | .waiting => none
  | .woken => some (system.moveCall call (.invoking stub retryTimes info (.querying true)))
  | .querying ret =>
    some (system.moveCall call (.invoking stub retryTimes info (.detaching (ret && (system.querySessionObject stub.cookie).isSome))))
  | .detaching ret =>
    some ({ system with threadLocks := system.threadLocks.eraseP fun other => other.address = info.address }.moveCall call
      (.ended stub retryTimes ret))

def stepCall (system : System) (call : Nat) (address cookie : UInt64) (succeeds : Bool) : Option System :=
  match system.calls[call]? with
  | none | some (.returned _) => none
  | some (.querying serviceName deviceID binderObject) =>
    match system.queryDBinderStub serviceName deviceID binderObject with
    | some stub => some (system.moveCall call (.numbering stub 0))
    | none => some (system.moveCall call (.making serviceName deviceID binderObject))
  | some (.making serviceName deviceID binderObject) =>
    if succeeds = true ∧ serviceName.length ≤ SERVICENAME_LENGTH ∧ deviceID.length ≤ DEVICEID_LENGTH then
      if system.allocated.any (fun stub => stub.address = address || stub.cookie = cookie) then none
      else some (system.moveCall call (.adding ⟨address,serviceName,deviceID,binderObject,cookie⟩))
    else some (system.moveCall call (.returned none))
  | some (.adding stub) => some ({ system with dBinderStubs := stub :: system.dBinderStubs }.moveCall call (.numbering stub 0))
  | some (.numbering stub retryTimes) =>
    some ({ system with seqNumber := system.seqNumber+1, drawn := system.drawn+1 }.moveCall call
      (.counted stub retryTimes (system.seqNumber+1)))
  | some (.counted stub retryTimes _) => some (system.moveCall call (.creating stub retryTimes system.seqNumber))
  | some (.creating stub retryTimes seqNumber) =>
    if succeeds then
      if (system.calls.filterMap Call.info?).any (fun info => info.address = address) then none
      else some (system.moveCall call (.invoking stub retryTimes ⟨address,seqNumber⟩ .attaching))
    else some (system.moveCall call (.ended stub retryTimes false))
  | some (.invoking stub retryTimes info stage) => system.stepInvoker call stub retryTimes info succeeds stage
  | some (.searching stub) =>
    match system.querySessionObject stub.cookie with
    | some session => some (system.moveCall call (.detachingSession stub session))
    | none => some (system.moveCall call (.deleting stub))
  | some (.detachingSession stub session) =>
    some ({ system with sessionInfos := system.sessionInfos.eraseP fun other => other.address = session.address }.moveCall call
      (.deleting stub))
  | some (.deleting stub) =>
    some ({ system with dBinderStubs := system.dBinderStubs.eraseP fun other => other.address = stub.address }.moveCall call
      (.returned none))

/-- The clock ends a wait; `InvokerRemoteDBinder` has the mutex again and fails. -/
def timeout (system : System) (call : Nat) : Option System :=
  match system.calls[call]? with
  | some (.invoking stub retryTimes info .waiting) => some (system.moveCall call (.invoking stub retryTimes info (.detaching false)))
  | _ => none

def stepReply (system : System) (reply : Nat) (address : UInt64) (succeeds : Bool) : Option System :=
  match system.replies[reply]? with
  | none | some ⟨_,.done⟩ => none
  | some ⟨message,.validating⟩ =>
    if system.hasDBinderStub message.binderObject then some (system.moveReply reply message .querying)
    else some (system.moveReply reply message .lookingUp)
  | some ⟨message,.querying⟩ =>
    if (system.querySessionObject message.stub).isNone && isValidSessionName message then
      some (system.moveReply reply message .attaching)
    else some (system.moveReply reply message .lookingUp)
  | some ⟨message,.attaching⟩ =>
    if succeeds = true ∧ message.stubIndex ≠ 0 then
      if system.sessionInfos.any (fun session => session.address = address) then none
      else some ({ system with sessionInfos := sessionOf message address :: system.sessionInfos }.moveReply reply message .lookingUp)
    else some (system.moveReply reply message .lookingUp)
  | some ⟨message,.lookingUp⟩ =>
    match system.queryThreadLockInfo message.seqNumber with
    | none => some (system.moveReply reply message .done)
    | some info => some (system.moveReply reply message (.signalling info))
  | some ⟨message,.signalling info⟩ =>
    if system.calls.any (Call.locks info.address) then none
    else some ((system.signal info.address message.seqNumber).moveReply reply message .done)

/-- A message with another code than `MESSAGE_AS_REPLY` reaches none of the lists. -/
def onRemoteMessageTask (system : System) (message : DHandleEntryTxRx) : System :=
  if message.dBinderCode = MESSAGE_AS_REPLY then { system with replies := system.replies ++ [⟨message,.validating⟩] } else system

def step (system : System) : Event → Option System
  | .makeRemoteBinder serviceName deviceID binderObject =>
    some { system with calls := system.calls ++ [.querying serviceName deviceID binderObject] }
  | .call call address cookie succeeds => system.stepCall call address cookie succeeds
  | .timeout call => system.timeout call
  | .onRemoteMessageTask message => some (system.onRemoteMessageTask message)
  | .reply reply address succeeds => system.stepReply reply address succeeds

end System

end CommunicationIpc.Kernel.LiteService
