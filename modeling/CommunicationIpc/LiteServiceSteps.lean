import CommunicationIpc.Kernel.LiteService

/-! Everything a step of the lite negotiation can do, case by case. -/
namespace CommunicationIpc.LiteServiceSteps
open CommunicationIpc.Kernel.LiteService

inductive InvokerStep (system : System) (call : Nat) (stub : DBinderServiceStub) (retryTimes : Nat) (info : ThreadLockInfo)
    (succeeds : Bool) : Stage → System → Prop
  | attaches : InvokerStep system call stub retryTimes info succeeds .attaching
      ({ system with threadLocks := info :: system.threadLocks }.moveCall call (.invoking stub retryTimes info .locking))
  | locks : InvokerStep system call stub retryTimes info succeeds .locking (system.moveCall call (.invoking stub retryTimes info .sending))
  | sends (sent : succeeds = true) : InvokerStep system call stub retryTimes info succeeds .sending
      ({ system with sent := ⟨info.seqNumber,stub.binderObject,stub.cookie⟩ :: system.sent }.moveCall call
        (.invoking stub retryTimes info .sent))
  | unsent (failed : succeeds = false) : InvokerStep system call stub retryTimes info succeeds .sending
      (system.moveCall call (.invoking stub retryTimes info (.querying false)))
  | waits (timed : succeeds = true) : InvokerStep system call stub retryTimes info succeeds .sent
      (system.moveCall call (.invoking stub retryTimes info .waiting))
  | timeless (failed : succeeds = false) : InvokerStep system call stub retryTimes info succeeds .sent
      (system.moveCall call (.invoking stub retryTimes info (.detaching false)))
  | wakes : InvokerStep system call stub retryTimes info succeeds .woken
      (system.moveCall call (.invoking stub retryTimes info (.querying true)))
  | queries {ret : Bool} : InvokerStep system call stub retryTimes info succeeds (.querying ret)
      (system.moveCall call (.invoking stub retryTimes info (.detaching (ret && (system.querySessionObject stub.cookie).isSome))))
  | detaches {ret : Bool} : InvokerStep system call stub retryTimes info succeeds (.detaching ret)
      ({ system with threadLocks := system.threadLocks.eraseP fun other => other.address = info.address }.moveCall call
        (.ended stub retryTimes ret))

inductive CallStep (system : System) (call : Nat) (address cookie : UInt64) (succeeds : Bool) : Call → System → Prop
  | finds {serviceName deviceID : List UInt8} {binderObject : UInt64} {stub : DBinderServiceStub}
      (found : system.queryDBinderStub serviceName deviceID binderObject = some stub) :
      CallStep system call address cookie succeeds (.querying serviceName deviceID binderObject) (system.moveCall call (.numbering stub 0))
  | misses {serviceName deviceID : List UInt8} {binderObject : UInt64}
      (absent : system.queryDBinderStub serviceName deviceID binderObject = none) :
      CallStep system call address cookie succeeds (.querying serviceName deviceID binderObject)
        (system.moveCall call (.making serviceName deviceID binderObject))
  | makes {serviceName deviceID : List UInt8} {binderObject : UInt64}
      (free : system.allocated.any (fun stub => stub.address = address || stub.cookie = cookie) = false) :
      CallStep system call address cookie succeeds (.making serviceName deviceID binderObject)
        (system.moveCall call (.adding ⟨address,serviceName,deviceID,binderObject,cookie⟩))
  | unmade {serviceName deviceID : List UInt8} {binderObject : UInt64}
      (failed : ¬(succeeds = true ∧ serviceName.length ≤ SERVICENAME_LENGTH ∧ deviceID.length ≤ DEVICEID_LENGTH)) :
      CallStep system call address cookie succeeds (.making serviceName deviceID binderObject) (system.moveCall call (.returned none))
  | adds {stub : DBinderServiceStub} : CallStep system call address cookie succeeds (.adding stub)
      ({ system with dBinderStubs := stub :: system.dBinderStubs }.moveCall call (.numbering stub 0))
  | numbers {stub : DBinderServiceStub} {retryTimes : Nat} : CallStep system call address cookie succeeds (.numbering stub retryTimes)
      ({ system with seqNumber := system.seqNumber+1, drawn := system.drawn+1 }.moveCall call
        (.counted stub retryTimes (system.seqNumber+1)))
  | counts {stub : DBinderServiceStub} {retryTimes : Nat} {own : UInt32} :
      CallStep system call address cookie succeeds (.counted stub retryTimes own)
        (system.moveCall call (.creating stub retryTimes system.seqNumber))
  | creates {stub : DBinderServiceStub} {retryTimes : Nat} {seqNumber : UInt32}
      (free : (system.calls.filterMap Call.info?).any (fun info => info.address = address) = false) :
      CallStep system call address cookie succeeds (.creating stub retryTimes seqNumber)
        (system.moveCall call (.invoking stub retryTimes ⟨address,seqNumber⟩ .attaching))
  | uncreated {stub : DBinderServiceStub} {retryTimes : Nat} {seqNumber : UInt32} (failed : succeeds = false) :
      CallStep system call address cookie succeeds (.creating stub retryTimes seqNumber)
        (system.moveCall call (.ended stub retryTimes false))
  | invokes {stub : DBinderServiceStub} {retryTimes : Nat} {info : ThreadLockInfo} {stage : Stage} {next : System}
      (step : InvokerStep system call stub retryTimes info succeeds stage next) :
      CallStep system call address cookie succeeds (.invoking stub retryTimes info stage) next
  | searches {stub : DBinderServiceStub} {session : SessionInfo} (found : system.querySessionObject stub.cookie = some session) :
      CallStep system call address cookie succeeds (.searching stub) (system.moveCall call (.detachingSession stub session))
  | sessionless {stub : DBinderServiceStub} (absent : system.querySessionObject stub.cookie = none) :
      CallStep system call address cookie succeeds (.searching stub) (system.moveCall call (.deleting stub))
  | detaches {stub : DBinderServiceStub} {session : SessionInfo} :
      CallStep system call address cookie succeeds (.detachingSession stub session)
        ({ system with sessionInfos := system.sessionInfos.eraseP fun other => other.address = session.address }.moveCall call
          (.deleting stub))
  | deletes {stub : DBinderServiceStub} : CallStep system call address cookie succeeds (.deleting stub)
      ({ system with dBinderStubs := system.dBinderStubs.eraseP fun other => other.address = stub.address }.moveCall call
        (.returned none))

inductive ReplyStep (system : System) (reply : Nat) (address : UInt64) (succeeds : Bool) (message : DHandleEntryTxRx) :
    Place → System → Prop
  | validates (known : system.hasDBinderStub message.binderObject = true) :
      ReplyStep system reply address succeeds message .validating (system.moveReply reply message .querying)
  | invalid (unknown : system.hasDBinderStub message.binderObject = false) :
      ReplyStep system reply address succeeds message .validating (system.moveReply reply message .lookingUp)
  | queries (unanswered : ((system.querySessionObject message.stub).isNone && isValidSessionName message) = true) :
      ReplyStep system reply address succeeds message .querying (system.moveReply reply message .attaching)
  | answered (already : ((system.querySessionObject message.stub).isNone && isValidSessionName message) = false) :
      ReplyStep system reply address succeeds message .querying (system.moveReply reply message .lookingUp)
  | attaches (stored : succeeds = true ∧ message.stubIndex ≠ 0)
      (fresh : system.sessionInfos.any (fun session => session.address = address) = false) :
      ReplyStep system reply address succeeds message .attaching
        ({ system with sessionInfos := sessionOf message address :: system.sessionInfos }.moveReply reply message .lookingUp)
  | unattached (failed : ¬(succeeds = true ∧ message.stubIndex ≠ 0)) :
      ReplyStep system reply address succeeds message .attaching (system.moveReply reply message .lookingUp)
  | misses (absent : system.queryThreadLockInfo message.seqNumber = none) :
      ReplyStep system reply address succeeds message .lookingUp (system.moveReply reply message .done)
  | looksUp {info : ThreadLockInfo} (looked : system.queryThreadLockInfo message.seqNumber = some info) :
      ReplyStep system reply address succeeds message .lookingUp (system.moveReply reply message (.signalling info))
  | signals {info : ThreadLockInfo} (free : system.calls.any (Call.locks info.address) = false) :
      ReplyStep system reply address succeeds message (.signalling info)
        ((system.signal info.address message.seqNumber).moveReply reply message .done)

theorem wake_cases (address : UInt64) (call : Call) : call.wake address = call ∨ ∃ stub retryTimes info,
    call = .invoking stub retryTimes info .waiting ∧ call.wake address = .invoking stub retryTimes info .woken := by
  rw [Call.wake.eq_def]
  split
  · split
    · exact .inr ⟨_,_,_,rfl,rfl⟩
    · exact .inl rfl
  · exact .inl rfl

/-- What does not tell a call that waits from one that is woken is the same behind a signal. -/
theorem wake_same {α : Type} {view : Call → α}
    (same : ∀ stub retryTimes info, view (.invoking stub retryTimes info .woken) = view (.invoking stub retryTimes info .waiting))
    (address : UInt64) (call : Call) : view (call.wake address) = view call := by
  rcases wake_cases address call with still | ⟨stub,retryTimes,info,rfl,woken⟩
  · rw [still]
  · rw [woken,same]

section Taken
variable {system next : System} {call reply : Nat} {address cookie : UInt64} {succeeds : Bool}

theorem invokerStep_of_taken {stub : DBinderServiceStub} {retryTimes : Nat} {info : ThreadLockInfo} {stage : Stage}
    (taken : system.stepInvoker call stub retryTimes info succeeds stage = some next) :
    InvokerStep system call stub retryTimes info succeeds stage next := by
  cases stage with
  | sending =>
    rw [System.stepInvoker] at taken
    split at taken
    · rename_i sent
      cases taken
      exact .sends sent
    · rename_i failed
      cases taken
      exact .unsent (Bool.eq_false_iff.mpr failed)
  | sent =>
    rw [System.stepInvoker] at taken
    split at taken
    · rename_i timed
      cases taken
      exact .waits timed
    · rename_i failed
      cases taken
      exact .timeless (Bool.eq_false_iff.mpr failed)
  | waiting => cases taken
  | attaching | locking | woken | querying | detaching =>
    cases taken
    constructor

theorem callStep_of_taken (taken : system.stepCall call address cookie succeeds = some next) :
    ∃ before, system.calls[call]? = some before ∧ CallStep system call address cookie succeeds before next := by
  cases at_ : system.calls[call]? with
  | none =>
    rw [System.stepCall,at_] at taken
    cases taken
  | some before =>
    refine ⟨before,rfl,?_⟩
    simp only [System.stepCall,at_] at taken
    cases before with
    | querying serviceName deviceID binderObject =>
      simp only at taken
      split at taken
      · rename_i found
        cases taken
        exact .finds found
      · rename_i absent
        cases taken
        exact .misses absent
    | making serviceName deviceID binderObject =>
      simp only at taken
      split at taken
      · split at taken
        · cases taken
        · rename_i free
          cases taken
          exact .makes (Bool.eq_false_iff.mpr free)
      · rename_i failed
        cases taken
        exact .unmade failed
    | creating stub retryTimes seqNumber =>
      simp only at taken
      split at taken
      · split at taken
        · cases taken
        · rename_i free
          cases taken
          exact .creates (Bool.eq_false_iff.mpr free)
      · rename_i failed
        cases taken
        exact .uncreated (Bool.eq_false_iff.mpr failed)
    | invoking stub retryTimes info stage => exact .invokes (invokerStep_of_taken taken)
    | searching stub =>
      simp only at taken
      split at taken
      · rename_i found
        cases taken
        exact .searches found
      · rename_i absent
        cases taken
        exact .sessionless absent
    | returned => cases taken
    | adding | numbering | counted | detachingSession | deleting =>
      cases taken
      constructor

theorem replyStep_of_taken (taken : system.stepReply reply address succeeds = some next) :
    ∃ message place, system.replies[reply]? = some ⟨message,place⟩ ∧ ReplyStep system reply address succeeds message place next := by
  cases at_ : system.replies[reply]? with
  | none =>
    rw [System.stepReply,at_] at taken
    cases taken
  | some handler =>
    obtain ⟨message,place⟩ := handler
    refine ⟨message,place,rfl,?_⟩
    simp only [System.stepReply,at_] at taken
    cases place with
    | done => cases taken
    | validating =>
      simp only at taken
      split at taken
      · rename_i known
        cases taken
        exact .validates known
      · rename_i unknown
        cases taken
        exact .invalid (Bool.eq_false_iff.mpr unknown)
    | querying =>
      simp only at taken
      split at taken
      · rename_i unanswered
        cases taken
        exact .queries unanswered
      · rename_i already
        cases taken
        exact .answered (Bool.eq_false_iff.mpr already)
    | attaching =>
      simp only at taken
      split at taken
      · rename_i stored
        split at taken
        · cases taken
        · rename_i fresh
          cases taken
          exact .attaches stored (Bool.eq_false_iff.mpr fresh)
      · rename_i failed
        cases taken
        exact .unattached failed
    | lookingUp =>
      simp only at taken
      split at taken
      · rename_i absent
        cases taken
        exact .misses absent
      · rename_i looked
        cases taken
        exact .looksUp looked
    | signalling info =>
      simp only at taken
      split at taken
      · cases taken
      · rename_i free
        cases taken
        exact .signals (Bool.eq_false_iff.mpr free)

end Taken

end CommunicationIpc.LiteServiceSteps
