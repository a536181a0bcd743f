import CommunicationIpc.Kernel.Service

/-! Everything a section of a `MakeRemoteBinder` call, of a notice and of an idle thread can do, case by case. -/
namespace CommunicationIpc.ServiceSteps
open CommunicationIpc.Library CommunicationIpc.Kernel.Negotiation CommunicationIpc.Kernel.Service

def sameStub (shared : Shared) (call : Call) : Option UInt64 :=
  shared.registry.dBinderStubRegisted.find? fun stub =>
    Shared.isSameStubObject (shared.stubs stub) call.serviceName call.deviceID call.pid call.uid

def newStub (shared : Shared) (call : Call) (stub : UInt64) : Shared :=
  { shared with
    stubs := fun i => if i = stub then ⟨call.serviceName,call.deviceID,call.binderObject,call.pid,call.uid,0,.init⟩
      else shared.stubs i,
    registry := { shared.registry with dBinderStubRegisted := shared.registry.dBinderStubRegisted ++ [stub] } }

inductive MakeStep (host : Host) (shared : Shared) (call : Call) : MakePc → Choice → Shared × Task → Prop
  | found {address stub : UInt64} (same : sameStub shared call = some stub) :
      MakeStep host shared call .findOrNewDBinderStub (.allocate address) (shared,.make call (.getSeqNumber stub))
  | made {address : UInt64} (missing : sameStub shared call = none) (nonzero : address ≠ 0)
      (fresh : address ∉ shared.registry.dBinderStubRegisted) :
      MakeStep host shared call .findOrNewDBinderStub (.allocate address)
        (newStub shared call address,.make call (.nextSeqNumber address))
  | numbered (stub : UInt64) :
      MakeStep host shared call (.nextSeqNumber stub) .go
        (shared.getSeqNumber.1,.make call (.setSeqNumber stub shared.getSeqNumber.2))
  | stored (stub : UInt64) (seqNum : UInt32) :
      MakeStep host shared call (.setSeqNumber stub seqNum) .go
        (shared.setSeqNumber stub seqNum,.make call (.getNegoStatus ⟨stub,seqNum,true,0⟩))
  | loaded (stub : UInt64) :
      MakeStep host shared call (.getSeqNumber stub) .go
        (shared,.make call (.getNegoStatus ⟨stub,(shared.stubs stub).seqNum,false,0⟩))
  | requests {attempt : Attempt} (first : attempt.isNew = true ∨ (shared.stubs attempt.stub).negoStatus = .init) :
      MakeStep host shared call (.getNegoStatus attempt) .go (shared,.make call (.setDoing attempt))
  | waits {attempt : Attempt} (old : attempt.isNew = false) (begun : (shared.stubs attempt.stub).negoStatus ≠ .init) :
      MakeStep host shared call (.getNegoStatus attempt) .go (shared,.make call (.waitStatus attempt 0))
  | doing (attempt : Attempt) :
      MakeStep host shared call (.setDoing attempt) .go
        (shared.setNegoStatus attempt.stub .doing,.make call (.attachThreadLockInfo attempt))
  | locked {attempt : Attempt} {lock : Nat} (taken : shared.threadLockInfo.lookup attempt.seqNum = some lock) :
      MakeStep host shared call (.attachThreadLockInfo attempt) .go
        (shared,.make call (.resetStatus attempt .makeThreadlockFailed))
  | attached {attempt : Attempt} (free : shared.threadLockInfo.lookup attempt.seqNum = none) :
      MakeStep host shared call (.attachThreadLockInfo attempt) .go
        ({ shared with
          locks := fun i => if i = shared.lockCount then ⟨false,(shared.stubs attempt.stub).deviceID,attempt.seqNum⟩
            else shared.locks i,
          lockCount := shared.lockCount+1,
          threadLockInfo := shared.threadLockInfo.insert attempt.seqNum shared.lockCount },
          .make call (.createMessage attempt shared.lockCount))
  | refused {attempt : Attempt} {lock : Nat} (failed : createMessage host shared call attempt = none) :
      MakeStep host shared call (.createMessage attempt lock) .go (shared,.make call (.sendFailed attempt))
  | created {attempt : Attempt} {lock : Nat} {tagged : Shared} {message : DHandleEntryTxRx}
      (done : createMessage host shared call attempt = some (tagged,message)) :
      MakeStep host shared call (.createMessage attempt lock) .go (tagged,.make call (.sendDataToRemote attempt lock message))
  | sent (attempt : Attempt) (lock : Nat) (message : DHandleEntryTxRx) :
      MakeStep host shared call (.sendDataToRemote attempt lock message) (.sent true)
        ({ shared with sent := shared.sent ++ [((shared.stubs attempt.stub).deviceID,message)] },
          .make call (.waitReply attempt lock))
  | unsent (attempt : Attempt) (lock : Nat) (message : DHandleEntryTxRx) :
      MakeStep host shared call (.sendDataToRemote attempt lock message) (.sent false) (shared,.make call (.sendFailed attempt))
  | reset (attempt : Attempt) :
      MakeStep host shared call (.sendFailed attempt) .go
        (shared.setNegoStatus attempt.stub .init,.make call (.detachThreadLockInfo attempt))
  | unlocked (attempt : Attempt) :
      MakeStep host shared call (.detachThreadLockInfo attempt) .go
        (shared.detachThreadLockInfo attempt.seqNum,.make call (.failed attempt .sendMessageFailed))
  | ended {attempt : Attempt} {count : Nat} (finished : (shared.stubs attempt.stub).negoStatus = .finished) :
      MakeStep host shared call (.waitStatus attempt count) .go (shared,.returned (some attempt.stub))
  | unfinished {attempt : Attempt} {count : Nat} (ongoing : (shared.stubs attempt.stub).negoStatus ≠ .finished) :
      MakeStep host shared call (.waitStatus attempt count) .go (shared,.make call (.waitLock attempt count))
  | joined {attempt : Attempt} {count lock : Nat} (known : shared.threadLockInfo.lookup attempt.seqNum = some lock) :
      MakeStep host shared call (.waitLock attempt count) .go (shared,.make call (.waitReply attempt lock))
  | retried {attempt : Attempt} {count : Nat} (missing : shared.threadLockInfo.lookup attempt.seqNum = none)
      (more : count+1 < threadLockRetryTimes) :
      MakeStep host shared call (.waitLock attempt count) .go (shared,.make call (.waitStatus attempt (count+1)))
  | lockless {attempt : Attempt} {count : Nat} (missing : shared.threadLockInfo.lookup attempt.seqNum = none)
      (last : ¬ count+1 < threadLockRetryTimes) :
      MakeStep host shared call (.waitLock attempt count) .go (shared,.make call (.failed attempt .makeThreadlockFailed))
  | woken {attempt : Attempt} {lock : Nat} (ready : (shared.locks lock).ready = true) :
      MakeStep host shared call (.waitReply attempt lock) .go (shared,.make call (.querySession attempt))
  | expired {attempt : Attempt} {lock : Nat} (silent : (shared.locks lock).ready = false) :
      MakeStep host shared call (.waitReply attempt lock) .timeout
        (shared.setNegoStatus attempt.stub .init,.make call (.timeoutDetach attempt lock))
  | expiredDetached (attempt : Attempt) (lock : Nat) :
      MakeStep host shared call (.timeoutDetach attempt lock) .go
        (shared.detachThreadLockInfo attempt.seqNum,.make call (.timeoutReady attempt lock))
  | expiredReady (attempt : Attempt) (lock : Nat) :
      MakeStep host shared call (.timeoutReady attempt lock) .go
        (shared.setReady lock false,.make call (.failed attempt .waitReplyTimeout))
  | sessionless {attempt : Attempt} (missing : shared.registry.sessionObject.lookup attempt.stub = none) :
      MakeStep host shared call (.querySession attempt) .go
        (shared,.make call (.resetStatus attempt .queryReplySessionFailed))
  | answered {attempt : Attempt} {session : SessionInfo}
      (stored : shared.registry.sessionObject.lookup attempt.stub = some session) :
      MakeStep host shared call (.querySession attempt) .go (shared,.make call (.setFinished attempt))
  | finishes (attempt : Attempt) :
      MakeStep host shared call (.setFinished attempt) .go
        (shared.setNegoStatus attempt.stub .finished,.returned (some attempt.stub))
  | fails (attempt : Attempt) (failure : Failure) :
      MakeStep host shared call (.resetStatus attempt failure) .go
        (shared.setNegoStatus attempt.stub .init,.make call (.failed attempt failure))
  | again {attempt : Attempt} {count : Nat} (more : attempt.before+1 < retryTimes) :
      MakeStep host shared call (.failed attempt .waitReplyTimeout) (.references count)
        (shared,.make call (.getNegoStatus { attempt with before := attempt.before+1 }))
  | cleans {attempt : Attempt} {failure : Failure} {count : Nat} (unshared : count ≤ dbinderStubRefCount) :
      MakeStep host shared call (.failed attempt failure) (.references count) (shared,.make call (.deleteDBinderStub attempt))
  | keeps {attempt : Attempt} {failure : Failure} {count : Nat} :
      MakeStep host shared call (.failed attempt failure) (.references count) (shared,.returned none)
  | deleted (attempt : Attempt) :
      MakeStep host shared call (.deleteDBinderStub attempt) .go
        (shared.deleteDBinderStub call.serviceName call.deviceID call.pid call.uid,.make call (.detachSessionObject attempt))
  | detached (attempt : Attempt) :
      MakeStep host shared call (.detachSessionObject attempt) .go (shared.detachSessionObject attempt.stub,.returned none)

theorem makeStep_of_advance {host : Host} {shared : Shared} {call : Call} {pc : MakePc} {choice : Choice}
    {after : Shared × Task} (advanced : advanceMake host shared call pc choice = some after) :
    MakeStep host shared call pc choice after := by
  unfold advanceMake at advanced
  split at advanced
  · -- FindOrNewDBinderStub
    split at advanced
    · rename_i stub same
      cases advanced
      exact .found same
    · rename_i missing
      split at advanced
      · cases advanced
      · rename_i usable
        cases advanced
        simp only [not_or] at usable
        exact .made missing usable.1 usable.2
  · cases advanced
    exact .numbered _
  · cases advanced
    exact .stored _ _
  · cases advanced
    exact .loaded _
  · -- GetNegoStatusAndTime
    split at advanced
    · rename_i first
      cases advanced
      exact .requests first
    · rename_i later
      cases advanced
      simp only [not_or,Bool.not_eq_true] at later
      exact .waits later.1 later.2
  · cases advanced
    exact .doing _
  · -- AttachThreadLockInfo
    split at advanced
    · rename_i attempt refused
      cases advanced
      unfold Shared.attachThreadLockInfo at refused
      split at refused
      · rename_i lock taken
        exact .locked taken
      · cases refused
    · rename_i attempt attached made
      cases advanced
      unfold Shared.attachThreadLockInfo at made
      split at made
      · cases made
      · rename_i free
        cases made
        exact .attached free
  · -- CreateMessage
    split at advanced
    · rename_i failed
      cases advanced
      exact .refused failed
    · rename_i done
      cases advanced
      exact .created done
  · split at advanced
    · rename_i success
      cases advanced
      rw [success]
      exact .sent _ _ _
    · rename_i failed
      cases advanced
      rw [Bool.not_eq_true] at failed
      rw [failed]
      exact .unsent _ _ _
  · cases advanced
    exact .reset _
  · cases advanced
    exact .unlocked _
  · -- InvokerRemoteDBinderWhenWaitRsp
    split at advanced
    · rename_i finished
      cases advanced
      exact .ended finished
    · rename_i unfinished
      cases advanced
      exact .unfinished unfinished
  · split at advanced
    · rename_i known
      cases advanced
      exact .joined known
    · rename_i missing
      split at advanced
      · rename_i more
        cases advanced
        exact .retried missing more
      · rename_i last
        cases advanced
        exact .lockless missing last
  · split at advanced
    · rename_i ready
      cases advanced
      exact .woken ready
    · cases advanced
  · split at advanced
    · cases advanced
    · rename_i silent
      cases advanced
      rw [Bool.not_eq_true] at silent
      exact .expired silent
  · cases advanced
    exact .expiredDetached _ _
  · cases advanced
    exact .expiredReady _ _
  · split at advanced
    · rename_i missing
      cases advanced
      exact .sessionless missing
    · rename_i stored
      cases advanced
      exact .answered stored
  · cases advanced
    exact .finishes _
  · cases advanced
    exact .fails _ _
  · -- the loop in MakeRemoteBinder
    split at advanced
    · rename_i again
      cases advanced
      rw [again.1]
      exact .again again.2
    · split at advanced
      · rename_i unshared
        cases advanced
        exact .cleans unshared
      · cases advanced
        exact .keeps
  · cases advanced
    exact .deleted _
  · cases advanced
    exact .detached _
  · cases advanced

theorem onGo_eq_some {choice : Choice} {result : Option (Shared × Task)} {after : Shared × Task} :
    onGo choice result = some after ↔ choice = .go ∧ result = some after := by
  cases choice <;> simp [onGo]

theorem createMessage_shared {host : Host} {shared tagged : Shared} {call : Call} {attempt : Attempt}
    {message : DHandleEntryTxRx} (done : createMessage host shared call attempt = some (tagged,message)) :
    tagged = (shared.addStubByTag attempt.stub).1 := by
  simp only [createMessage] at done
  split at done
  · cases done
  · split at done
    · cases done
    · cases done
      rfl

theorem tagOf_some {registry : Registry} {stub tag : UInt64} (found : Shared.tagOf registry stub = some tag) :
    registry.mapDBinderStubRegisters.lookup tag = some stub := by
  obtain ⟨entry,member,key⟩ := List.mem_map.mp (List.min?_mem found)
  obtain ⟨inside,value⟩ := List.mem_filter.mp member
  subst key
  have same : entry.2 = stub := of_decide_eq_true value
  exact AList.mem_lookup_iff.mpr (same ▸ inside)

theorem tagOf_none {registry : Registry} {stub : UInt64} (missing : Shared.tagOf registry stub = none) (tag : UInt64) :
    registry.mapDBinderStubRegisters.lookup tag ≠ some stub := by
  intro found
  have inside : (⟨tag,stub⟩ : Sigma fun _ : UInt64 => UInt64) ∈ registry.mapDBinderStubRegisters.entries :=
    AList.mem_lookup_iff.mp found
  have empty := List.map_eq_nil_iff.mp (List.min?_eq_none_iff.mp missing)
  have member : (⟨tag,stub⟩ : Sigma fun _ : UInt64 => UInt64) ∈
      registry.mapDBinderStubRegisters.entries.filter fun entry => entry.2 = stub :=
    List.mem_filter.mpr ⟨inside,decide_eq_true rfl⟩
  rw [empty] at member
  cases member

theorem addStubByTag_frame (shared : Shared) (stub : UInt64) :
    (shared.addStubByTag stub).1.registry.sessionObject = shared.registry.sessionObject ∧
      (shared.addStubByTag stub).1.registry.dBinderStubRegisted = shared.registry.dBinderStubRegisted := by
  unfold Shared.addStubByTag
  split
  · exact ⟨rfl,rfl⟩
  · dsimp only
    split <;> exact ⟨rfl,rfl⟩

theorem attachSessionObject_frame (registry : Registry) (session : SessionInfo) (stub : UInt64) :
    (registry.attachSessionObject session stub).mapDBinderStubRegisters = registry.mapDBinderStubRegisters ∧
      (registry.attachSessionObject session stub).dBinderStubRegisted = registry.dBinderStubRegisted := by
  unfold Registry.attachSessionObject
  split <;> exact ⟨rfl,rfl⟩

theorem lookup_detachSessionObject (registry : Registry) (stub : UInt64) :
    (registry.detachSessionObject stub).sessionObject.lookup stub = none :=
  AList.lookup_erase stub registry.sessionObject

theorem lookup_attachSessionObject (registry : Registry) (session : SessionInfo) (stub : UInt64) :
    (registry.attachSessionObject session stub).sessionObject.lookup stub =
      some ((registry.sessionObject.lookup stub).getD session) := by
  unfold Registry.attachSessionObject
  split
  · rename_i stored found
    rw [found]
    rfl
  · rename_i found
    rw [found]
    exact AList.lookup_insert registry.sessionObject

theorem advanceWake_registry (shared : Shared) (seqNumber : UInt32) (pc : WakePc) :
    (advanceWake shared seqNumber pc).1.registry = shared.registry := by
  unfold advanceWake
  split
  · split <;> rfl
  · rfl
  · rfl

theorem advanceWake_task (shared : Shared) (seqNumber : UInt32) (pc : WakePc) :
    (∃ later, (advanceWake shared seqNumber pc).2 = .wake seqNumber later) ∨
      (advanceWake shared seqNumber pc).2 = .finished := by
  unfold advanceWake
  split
  · split
    · exact .inl ⟨_,rfl⟩
    · exact .inl ⟨_,rfl⟩
  · exact .inl ⟨_,rfl⟩
  · exact .inr rfl

/-- The sections of a notice that a service or a device is gone. -/
inductive NoticeStep (shared : Shared) (device : List UInt8) (services : List (List UInt16)) : NoticePc → Shared × Task → Prop
  | locks (free : shared.deathNotification = false) :
      NoticeStep shared device services .lock ({ shared with deathNotification := true },.notice device services .find)
  | ends : NoticeStep shared device services .find ({ shared with deathNotification := false },.finished)
  | skips (later : List (List UInt16)) : NoticeStep shared device services .find (shared,.notice device later .find)
  | finds (later : List (List UInt16)) (service : List UInt16) (stubs : List UInt64)
      (found : shared.findDBinderStub service device = stubs) :
      NoticeStep shared device services .find (shared,.notice device later (.detach service stubs))
  | detached (service : List UInt16) :
      NoticeStep shared device services (.detach service []) (shared,.notice device services (.delete service))
  | detaches (service : List UInt16) (stub : UInt64) (stubs : List UInt64) :
      NoticeStep shared device services (.detach service (stub :: stubs))
        (shared.detachSessionObject stub,.notice device services (.detach service stubs))
  | deletes (service : List UInt16) :
      NoticeStep shared device services (.delete service) (shared.deleteDBinderStubs service device,.notice device services .find)

theorem noticeStep_of_advance {shared : Shared} {device : List UInt8} {services : List (List UInt16)} {pc : NoticePc}
    {after : Shared × Task} (advanced : advanceNotice shared device services pc = some after) :
    NoticeStep shared device services pc after := by
  unfold advanceNotice at advanced
  cases pc with
  | lock =>
    dsimp only at advanced
    split at advanced
    · cases advanced
    · rename_i free
      cases advanced
      exact .locks (Bool.eq_false_iff.mpr free)
  | find =>
    dsimp only at advanced
    split at advanced
    · cases advanced
      exact .ends
    · split at advanced
      · cases advanced
        exact .skips _
      · cases advanced
        exact .finds _ _ _ rfl
  | detach service stubs =>
    dsimp only at advanced
    split at advanced
    · cases advanced
      exact .detached service
    · cases advanced
      exact .detaches service _ _
  | delete service =>
    cases advanced
    exact .deletes service

/-- What an idle thread starts. -/
inductive SpawnStep (shared : Shared) : Choice → Shared × Task → Prop
  | refuses (call : Call) : SpawnStep shared (.makeRemoteBinder call) (shared,.returned none)
  | makes (call : Call) : SpawnStep shared (.makeRemoteBinder call) (shared,.make call .findOrNewDBinderStub)
  | replies {device : List UInt8} {message : DHandleEntryTxRx}
      (reply : message.dBinderCode = messageAsReply ∨ message.dBinderCode = messageAsReplyTokenid) :
      SpawnStep shared (.onBytesReceived device message) (shared,.reply message .checkTag)
  | wakes {device : List UInt8} {message : DHandleEntryTxRx} (error : message.dBinderCode = messageAsRemoteError) :
      SpawnStep shared (.onBytesReceived device message) (shared,.wake message.seqNumber .query)
  | ignores (choice : Choice) : SpawnStep shared choice (shared,.finished)
  | notices (choice : Choice) (device : List UInt8) (service : List UInt16) :
      SpawnStep shared choice (shared,.notice device [service] .lock)
  | noticesDevice (device : List UInt8) : SpawnStep shared (.noticeDeviceDie device) (shared,.noticeDevice device)
  | closes (networkId : List UInt8) : SpawnStep shared (.processOnSessionClosed networkId) (shared,.closed networkId)
  | clears (stub : UInt64) : SpawnStep shared (.dBinderClearServiceState stub) (shared.setNegoStatus stub .init,.finished)

theorem spawnStep_of_spawn {shared : Shared} {choice : Choice} {after : Shared × Task} (advanced : spawn shared choice = some after) :
    SpawnStep shared choice after := by
  unfold spawn at advanced
  split at advanced
  · split at advanced
    · cases advanced
      exact .refuses _
    · cases advanced
      exact .makes _
  · split at advanced
    · rename_i reply
      cases advanced
      exact .replies reply
    · split at advanced
      · rename_i error
        cases advanced
        exact .wakes error
      · cases advanced
        exact .ignores _
  · split at advanced
    · cases advanced
      exact .ignores _
    · cases advanced
      exact .notices _ _ _
  · split at advanced
    · cases advanced
      exact .ignores _
    · cases advanced
      exact .noticesDevice _
  · cases advanced
    exact .closes _
  · cases advanced
    exact .clears _
  · cases advanced

def sampleHost : Host := ⟨[65],fun _ => some 1234⟩

def sampleCall : Call := ⟨[49,50,51,52],[66],1234,10,20,300⟩

def sampleReply (seqNumber : UInt32) (stubIndex : UInt64) : DHandleEntryTxRx where
  version := 2
  transType := databusType
  dBinderCode := messageAsReplyTokenid
  fromPort := 0
  toPort := 0
  stubIndex := stubIndex
  seqNumber := seqNumber
  binderObject := 1234
  deviceIdInfo := ⟨300,[65,0],[66,0]⟩
  stub := 1
  serviceNameLength := 2
  serviceName := [68,66,0]
  pid := 10
  uid := 20

/-- One call as far as the request that is sent, for a stub at address 7. -/
def sampleRequest (i : Nat) : List (Pool.Move Choice) :=
  [(i,.makeRemoteBinder sampleCall),(i,.allocate 7),(i,.go),(i,.go),(i,.go),(i,.go),(i,.go),(i,.go),(i,.sent true)]

end CommunicationIpc.ServiceSteps
