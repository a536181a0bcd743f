import CommunicationIpc.Kernel.Transaction
import CommunicationIpc.Marshal
import CommunicationIpc.SendBuffer

/-! Which transactions get their reply, and what a transaction leaves of the thread's invoker. -/
namespace CommunicationIpc.Transaction
open CommunicationIpc.Library CommunicationIpc.Kernel.Package CommunicationIpc.Kernel.Translate CommunicationIpc.Kernel.Marshal
open CommunicationIpc.Kernel.Transaction CommunicationIpc.SendBuffer CommunicationIpc.Marshal CommunicationIpc.Package

section Server
variable (sessionOf : Nat → Nat → Nat → Nat → Option Session) (fresh : Nat → UInt8)

/-- The send buffer takes the package, and the next `SendData` hands it over. -/
def Transmits (connection : Connection) (transData : Memory) : Prop :=
  (packageOf transData).sizeOfSelf ≤ Kernel.SendBuffer.socketBuffSizeUserHuge ∧
    ¬ Stranded connection.session.buffer (packageOf transData).sizeOfSelf (some fresh) (some fresh) ∧
    ¬ Stranded (connection.step (.moveTransData2Buffer 0 (packageOf transData) (some fresh) (some fresh))).session.buffer 0
      (some fresh) (some fresh)

def Delivers (process : Process) (socketId : Int32) (seqNum : UInt64) (reply : MessageParcel) (status : Int)
    (transData : Memory) : Prop :=
  process.skeleton.dbinderSessionObjects.lookup socketId ≠ none ∧ reply.rawData.length ≤ secureMemMaxLen ∧
    processNormalData sessionOf reply 0 seqNum.toNat bcReply 0 0 status = some transData ∧
    Transmits fresh (process.connections socketId) transData

theorem Connection.formed (connection : Connection) : WellFormed connection.session.buffer :=
  connection.reached.elim fun _ run => reached_formed run

theorem step_moveTransData2Buffer (connection : Connection) (thread : Nat) (transData : Kernel.SendBuffer.Package)
    (acquiring expanding : Kernel.SendBuffer.Allocation) :
    (connection.step (.moveTransData2Buffer thread transData acquiring expanding)).session.buffer =
      (connection.session.buffer.moveTransData2Buffer transData acquiring expanding).1 := rfl

theorem processRawData_spec (process : Process) {socketId : Int32} (positive : 0 < socketId) (data : MessageParcel)
    (seqNum : UInt64) :
    ((processRawData process socketId data seqNum).2 = true ↔ data.rawData.length ≤ secureMemMaxLen) ∧
      (processRawData process socketId data seqNum).1.connections = process.connections := by
  have open_ : ¬ socketId ≤ 0 := Int32.not_le.mpr positive
  unfold processRawData
  split
  · rename_i absent
    simp [absent,secureMemMaxLen]
  · unfold rawDataPackage
    by_cases large : secureMemMaxLen < data.rawData.length
    · simp only [large,if_true]
      exact ⟨iff_of_false Bool.false_ne_true (by omega),trivial⟩
    · simp only [large,if_false]
      exact ⟨iff_of_true trivial (by omega),trivial⟩

theorem packageOf_nonempty {sessionOf : Nat → Nat → Nat → Nat → Option Session} {reply : MessageParcel} {cookie seqNum cmd code flags : Nat} {status : Int} {transData : Memory}
    (made : processNormalData sessionOf reply cookie seqNum cmd code flags status = some transData) :
    (packageOf transData).bytes ≠ [] := by
  have size := processNormalData_size made
  intro empty
  have length := transData.readBytes_length 0 (transData.read 0 4)
  have none : transData.readBytes 0 (transData.read 0 4) = [] := empty
  rw [none,List.length_nil] at length
  omega

theorem writeTransaction_spec (process : Process) {socketId : Int32} (positive : 0 < socketId) (seqNum : UInt64)
    (data : MessageParcel) (status : Int) (transData : Memory) :
    ((writeTransaction sessionOf fresh process seqNum 0 socketId data status).2 = some transData ↔
      process.skeleton.dbinderSessionObjects.lookup socketId ≠ none ∧ seqNum ≠ 0 ∧
        data.rawData.length ≤ secureMemMaxLen ∧
        processNormalData sessionOf data 0 seqNum.toNat bcReply 0 0 status = some transData ∧
        ((process.connections socketId).session.buffer.moveTransData2Buffer (packageOf transData) (some fresh)
          (some fresh)).2 = true) ∧
    ((writeTransaction sessionOf fresh process seqNum 0 socketId data status).2 = some transData →
      (writeTransaction sessionOf fresh process seqNum 0 socketId data status).1.connections socketId =
        (process.connections socketId).step (.moveTransData2Buffer 0 (packageOf transData) (some fresh) (some fresh))) := by
  unfold writeTransaction
  cases session : process.skeleton.dbinderSessionObjects.lookup socketId with
  | none => simp
  | some app =>
    by_cases zero : seqNum = 0
    · simp [zero]
    obtain ⟨raw,same⟩ := processRawData_spec process positive data seqNum
    rcases processed : processRawData process socketId data seqNum with ⟨ahead,_ | _⟩
    · have large : ¬ data.rawData.length ≤ secureMemMaxLen := by
        rw [← raw,processed]
        exact Bool.false_ne_true
      simp [zero,large]
    · have small : data.rawData.length ≤ secureMemMaxLen := by
        rw [← raw,processed]
      rw [processed] at same
      simp only at same
      cases made : processNormalData sessionOf data 0 seqNum.toNat bcReply 0 0 status with
      | none => simp [zero]
      | some package =>
        simp only [zero,if_false,moveTransData2Buffer,same]
        cases taken : ((process.connections socketId).session.buffer.moveTransData2Buffer (packageOf package) (some fresh)
          (some fresh)).2 with
        | false =>
          refine ⟨iff_of_false (by simp) ?_,by simp⟩
          intro holds
          obtain ⟨-,-,-,known,done⟩ := holds
          cases known
          rw [taken] at done
          cases done
        | true =>
          constructor
          · simp only [Option.some.injEq]
            constructor
            · intro same
              subst same
              exact ⟨by simp,zero,small,rfl,taken⟩
            · intro holds
              obtain ⟨-,-,-,known,-⟩ := holds
              exact known
          · intro known
            cases known
            exact Function.update_self ..

theorem onSendMessage_spec (process : Process) {socketId : Int32} (positive : 0 < socketId) :
    ((onSendMessage fresh process socketId).2 = 0 ↔
      ¬ Stranded (process.connections socketId).session.buffer 0 (some fresh) (some fresh)) ∧
    (¬ Stranded (process.connections socketId).session.buffer 0 (some fresh) (some fresh) →
      pending (process.connections socketId).session.buffer ≠ [] →
      (onSendMessage fresh process socketId).1.sent =
        process.sent ++ [(socketId,pending (process.connections socketId).session.buffer)]) := by
  have open_ : ¬ socketId ≤ 0 := Int32.not_le.mpr positive
  obtain ⟨code,payload⟩ := sendData_hands_over_iff (Connection.formed (process.connections socketId)) fresh fresh
  simp only [onSendMessage,open_,if_false]
  refine ⟨code,?_⟩
  intro able waiting
  rw [payload able,if_neg waiting]

theorem sendReply_spec (process : Process) (invoker : Invoker) (reply : MessageParcel) (result : Int)
    (positive : 0 < invoker.callerInfo.clientFd) :
    (∃ transData, invoker.seqNumber ≠ 0 ∧
      Delivers sessionOf fresh process invoker.callerInfo.clientFd invoker.seqNumber reply result transData ∧
      (sendReply sessionOf fresh process invoker reply 0 result).2 = [(invoker.callerInfo.clientFd,transData)] ∧
      ∃ earlier before, (sendReply sessionOf fresh process invoker reply 0 result).1.sent =
        earlier ++ [(invoker.callerInfo.clientFd,before ++ (packageOf transData).bytes)]) ∨
    ((¬ ∃ transData, invoker.seqNumber ≠ 0 ∧
      Delivers sessionOf fresh process invoker.callerInfo.clientFd invoker.seqNumber reply result transData) ∧
      (sendReply sessionOf fresh process invoker reply 0 result).2 = []) := by
  have spec := writeTransaction_spec sessionOf fresh process positive invoker.seqNumber reply result
  have formed := Connection.formed (process.connections invoker.callerInfo.clientFd)
  rcases result : writeTransaction sessionOf fresh process invoker.seqNumber 0 invoker.callerInfo.clientFd reply result
    with ⟨written,_ | package⟩
  · refine .inr ⟨?_,by simp only [sendReply,result]⟩
    intro holds
    obtain ⟨transData,nonzero,present,raw,made,small,able,-⟩ := holds
    have taken := (moveTransData2Buffer_appends_iff formed (packageOf transData) fresh fresh).mpr ⟨small,able⟩
    have done := (spec transData).1.mpr ⟨present,nonzero,raw,made,taken⟩
    rw [result] at done
    cases done
  · obtain ⟨present,nonzero,raw,made,taken⟩ := (spec package).1.mp (by rw [result])
    obtain ⟨small,able⟩ := (moveTransData2Buffer_appends_iff formed (packageOf package) fresh fresh).mp taken
    have connection := (spec package).2 (by rw [result])
    obtain ⟨code,handed⟩ := onSendMessage_spec fresh written positive
    rw [result] at connection
    rw [connection] at code handed
    by_cases stuck : Stranded ((process.connections invoker.callerInfo.clientFd).step (.moveTransData2Buffer 0
        (packageOf package) (some fresh) (some fresh))).session.buffer 0 (some fresh) (some fresh)
    · have failed : ¬ (onSendMessage fresh written invoker.callerInfo.clientFd).2 = 0 := fun zero => code.mp zero stuck
      refine .inr ⟨?_,by simp only [sendReply,result,failed,if_false]⟩
      intro holds
      obtain ⟨transData,-,-,-,known,-,-,ready⟩ := holds
      rw [made] at known
      cases known
      exact ready stuck
    · have sent : (onSendMessage fresh written invoker.callerInfo.clientFd).2 = 0 := code.mpr stuck
      have extended : pending ((process.connections invoker.callerInfo.clientFd).step (.moveTransData2Buffer 0
          (packageOf package) (some fresh) (some fresh))).session.buffer =
          pending (process.connections invoker.callerInfo.clientFd).session.buffer ++ (packageOf package).bytes := by
        rw [step_moveTransData2Buffer]
        exact pending_of_appended formed taken
      have waiting := packageOf_nonempty made
      refine .inl ⟨package,nonzero,⟨present,raw,made,small,able,stuck⟩,by simp only [sendReply,result,sent,if_true],
        written.sent,pending (process.connections invoker.callerInfo.clientFd).session.buffer,?_⟩
      simp only [sendReply,result]
      rw [handed stuck (by rw [extended]; exact List.append_ne_nil_of_right_ne_nil _ waiting),extended]

/-- One reply went out, to the socket's session, for this request. -/
def Answered (outcome : Outcome) (listenFd : Int32) (seqNumber : Nat) : Prop :=
  ∃ transData, outcome.replies = [(listenFd,transData)] ∧ (TransactionData.decode transData).cmd = bcReply ∧
    (TransactionData.decode transData).seqNumber = seqNumber ∧
    ∃ earlier before, outcome.process.sent = earlier ++ [(listenFd,before ++ (packageOf transData).bytes)]

def Deliverable (process : Process) (socketId : Int32) (seqNum : UInt64) (reply : MessageParcel) (status : Int) : Prop :=
  ∃ transData, Delivers sessionOf fresh process socketId seqNum reply status transData

theorem sendReplyWithSeqNum_invoker (process : Process) (invoker : Invoker) (seqNum : UInt64) (reply : MessageParcel)
    (flags : Nat) (result : Int) :
    (sendReplyWithSeqNum sessionOf fresh process invoker seqNum reply flags result).invoker = invoker := by
  unfold sendReplyWithSeqNum
  split <;> rfl

theorem sendReply_client {process : Process} {invoker : Invoker} {reply : MessageParcel} {flags : Nat} {result : Int}
    {socketId : Int32} {transData : Memory}
    (replied : (sendReply sessionOf fresh process invoker reply flags result).2 = [(socketId,transData)]) :
    invoker.callerInfo.clientFd = socketId := by
  simp only [sendReply] at replied
  split at replied
  · cases replied
  · simp only at replied
    split at replied
    · cases replied
      rfl
    · cases replied

theorem answered_iff (process : Process) (invoker : Invoker) (seqNum : UInt64) (reply : MessageParcel) {flags : Nat}
    (result : Int) (sync : hasFlag flags tfAsync = false) {listenFd : Int32} (positive : 0 < listenFd) :
    Answered (sendReplyWithSeqNum sessionOf fresh process invoker seqNum reply flags result) listenFd seqNum.toNat ↔
      invoker.callerInfo.clientFd = listenFd ∧ seqNum ≠ 0 ∧
        Deliverable sessionOf fresh process listenFd seqNum reply result := by
  simp only [Answered,sendReplyWithSeqNum,sync,Bool.false_eq_true,if_false]
  by_cases client : invoker.callerInfo.clientFd = listenFd
  · subst client
    rcases sendReply_spec sessionOf fresh process { invoker with seqNumber := seqNum } reply result positive with
      ⟨transData,nonzero,delivers,replied,sent⟩ | ⟨none,silent⟩
    · obtain ⟨command,number⟩ := processNormalData_header delivers.2.2.1
      have whole : bcReply % 256^4 = bcReply := by decide
      refine iff_of_true ⟨transData,replied,?_,?_,sent⟩ ⟨rfl,nonzero,transData,delivers⟩
      · rw [command,whole]
      · rw [number]
        exact Nat.mod_eq_of_lt seqNum.toNat_lt
    · refine iff_of_false ?_ ?_
      · intro holds
        obtain ⟨transData,replied,-⟩ := holds
        rw [silent] at replied
        cases replied
      · intro holds
        obtain ⟨-,nonzero,transData,delivers⟩ := holds
        exact none ⟨transData,nonzero,delivers⟩
  · refine iff_of_false ?_ fun other => client other.1
    intro holds
    obtain ⟨transData,replied,-⟩ := holds
    have same := sendReply_client sessionOf fresh replied
    exact client same

theorem checkAndSetCallerInfo_spec {process : Process} {invoker caller : Invoker} {socketId : Int32} {stubIndex : UInt64}
    (checked : checkAndSetCallerInfo process invoker socketId stubIndex = .ok caller) :
    caller.callerInfo.clientFd = socketId ∧ caller.status = invoker.status ∧ caller.seqNumber = invoker.seqNumber := by
  unfold checkAndSetCallerInfo at checked
  split at checked
  · cases checked
  simp only at checked
  split at checked
  · cases checked
  split at checked
  · cases checked
  cases checked
  exact ⟨rfl,rfl,rfl⟩

theorem actions_spec (actions : List StubAction) {invoker other : Invoker} (same : invoker.seqNumber = other.seqNumber) :
    (actions.foldl Invoker.act invoker).callerInfo.clientFd = invoker.callerInfo.clientFd ∧
      (actions.foldl Invoker.act invoker).seqNumber = (actions.foldl Invoker.act other).seqNumber := by
  induction actions generalizing invoker other with
  | nil => exact ⟨rfl,same⟩
  | cons action actions ih =>
    cases action with
    | sendRequest seqNumber => exact ih rfl
    | setCallingIdentity callerPid callerUid callerTokenID callerDeviceID => exact ih same

/-- How far a transaction gets: its sender is never made the caller, it stops before the stub with an
error for the caller, or the stub is called. -/
inductive Course where
  | unidentified (error : Int)
  | stopped (error : Int)
  | served
  deriving DecidableEq

def courseOf (handleOf : Session → Nat) (memory : Memory) (listenFd : Int32) (process : Process) (invoker : Invoker)
    (allocator : Allocator) : Course :=
  let cookie := UInt64.ofNat (TransactionData.decode memory).cookie
  if (Kernel.Translate.processTransaction handleOf memory).1 = false then .unidentified rpcBaseInvokerTranslateErr
  else
    match checkAndSetCallerInfo process invoker listenFd cookie with
    | .error ret => .unidentified ret
    | .ok _ =>
      match allocator with
      | .missing => .stopped errAllocMemory
      | .refused => .stopped errUnknownReason
      | .ready =>
        match process.skeleton.queryStubByIndex cookie with
        | none => .stopped rpcBaseInvokerStubindexErr
        | some _ => .served

/-- The request has a number, its reply can be delivered on the socket, and the stub leaves the
thread's own sequence number alone. A request whose sender is not identified is answered to the
client the thread served before, which has to be the same socket. -/
def Answerable (handleOf : Session → Nat) (memory : Memory) (listenFd : Int32) (process : Process) (invoker : Invoker)
    (allocator : Allocator) (run : StubRun) : Prop :=
  let seqNum := UInt64.ofNat (TransactionData.decode memory).seqNumber
  seqNum ≠ 0 ∧
    match courseOf handleOf memory listenFd process invoker allocator with
    | .unidentified error =>
      invoker.callerInfo.clientFd = listenFd ∧ Deliverable sessionOf fresh process listenFd seqNum .empty error
    | .stopped error => Deliverable sessionOf fresh process listenFd seqNum .empty error
    | .served => Deliverable sessionOf fresh run.process listenFd seqNum run.reply run.error ∧
      (run.actions.foldl Invoker.act invoker).seqNumber = invoker.seqNumber

theorem answered_any_invoker {outcome : Outcome} {invoker : Invoker} {listenFd : Int32} {seqNumber : Nat} :
    Answered { outcome with invoker := invoker } listenFd seqNumber ↔ Answered outcome listenFd seqNumber := Iff.rfl

theorem restored_eq_iff {invoker : Invoker} {seqNumber : UInt64} :
    (⟨invoker.callerInfo,invoker.status,seqNumber⟩ : Invoker) = invoker ↔ seqNumber = invoker.seqNumber := by
  constructor
  · intro same
    exact congrArg Invoker.seqNumber same
  · intro same
    subst same
    rfl

/-- A synchronous transaction gets exactly one reply, with its number and on its socket, and leaves
the thread's invoker as it was, if and only if it is answerable. -/
theorem transaction_answered_iff (handleOf : Session → Nat) (memory : Memory) {listenFd : Int32} (process : Process)
    (invoker : Invoker) (allocator : Allocator) (run : StubRun) (positive : 0 < listenFd)
    (sync : hasFlag (TransactionData.decode memory).flags tfAsync = false) :
    (Answered (Kernel.Transaction.processTransaction sessionOf handleOf fresh memory listenFd process invoker allocator run) listenFd
        (TransactionData.decode memory).seqNumber ∧
      (Kernel.Transaction.processTransaction sessionOf handleOf fresh memory listenFd process invoker allocator run).invoker =
        invoker) ↔
      Answerable sessionOf fresh handleOf memory listenFd process invoker allocator run := by
  have number : (UInt64.ofNat (TransactionData.decode memory).seqNumber).toNat = (TransactionData.decode memory).seqNumber :=
    UInt64.toNat_ofNat_of_lt (memory.read_lt 32 8)
  rw [← number]
  unfold Answerable courseOf Kernel.Transaction.processTransaction
  dsimp only
  generalize UInt64.ofNat (TransactionData.decode memory).seqNumber = seqNum
  generalize UInt64.ofNat (TransactionData.decode memory).cookie = cookie
  have answered := fun process invoker reply result =>
    answered_iff sessionOf fresh process invoker seqNum reply result sync positive
  cases (Kernel.Translate.processTransaction handleOf memory).1 with
  | false =>
    simp only [if_true,sendReplyWithSeqNum_invoker,and_true]
    rw [answered]
    exact and_left_comm
  | true =>
    simp only [Bool.true_eq_false,if_false]
    cases checked : checkAndSetCallerInfo process invoker listenFd cookie with
    | error ret =>
      simp only [sendReplyWithSeqNum_invoker,and_true]
      rw [answered]
      exact and_left_comm
    | ok caller =>
      obtain ⟨client,status,own⟩ := checkAndSetCallerInfo_spec checked
      have restored : (⟨invoker.callerInfo,caller.status,caller.seqNumber⟩ : Invoker) = invoker := by
        rw [status,own]
      cases allocator with
      | missing =>
        simp only [answered_any_invoker,sendReplyWithSeqNum_invoker,restored,and_true]
        rw [answered,client,eq_self,true_and]
      | refused =>
        simp only [answered_any_invoker,sendReplyWithSeqNum_invoker,restored,and_true]
        rw [answered,client,eq_self,true_and]
      | ready =>
        simp only [targetStubSendRequest]
        cases found : process.skeleton.queryStubByIndex cookie with
        | none =>
          simp only [answered_any_invoker,sendReplyWithSeqNum_invoker]
          rw [answered,own,client,eq_self,true_and,restored_eq_iff,eq_self,and_true]
        | some stub =>
          obtain ⟨kept,left⟩ := actions_spec run.actions
            (show ({ caller with status := activeInvoker } : Invoker).seqNumber = invoker.seqNumber from own)
          simp only [answered_any_invoker,sendReplyWithSeqNum_invoker]
          rw [answered,kept,client,eq_self,true_and,left,restored_eq_iff,and_assoc]

end Server

def samplePeer : Kernel.Auth.App := ⟨[65,66],100,200,300⟩

def sampleProcess : Process where
  skeleton :=
    { appInfoToStubIndex := (∅ : Table (List UInt8) (Table UInt64 Int32)).insert samplePeer.appInfo
        ((∅ : Table UInt64 Int32).insert 7 5),
      commAuth := [⟨1,samplePeer,0⟩],
      stubObjects := (∅ : Table UInt64 Nat).insert 7 1,
      randNum := 8,
      dbinderSessionObjects := (∅ : Table Int32 Kernel.Auth.App).insert 5 samplePeer }
  connections := fun _ => ⟨Kernel.SendBuffer.Session.new,[],.nil⟩
  sent := []

def newInvoker : Invoker := ⟨⟨0,0,0,0,0,[]⟩,0,0⟩

def sampleRun : StubRun := ⟨[.setCallingIdentity 1 2 3 []],sampleProcess,⟨[1,2,3,4],[],[]⟩,0⟩

def sampleRequest : Memory := PackageBounds.samplePackage 72 0 8 0 (toLE 8 0)

def sampleReply : Memory :=
  (processNormalData (fun _ _ _ _ => none) sampleRun.reply 0 1 bcReply 0 0 0).getD fun _ => 0

theorem transaction_answered_iff_sample :
    (hasCompletePackage sampleRequest 72 = 72 ∧ (TransactionData.decode sampleRequest).cmd = bcTransaction) ∧
    Answered (Kernel.Transaction.processTransaction (fun _ _ _ _ => none) (fun _ => 0) (fun _ => 0) sampleRequest 5 sampleProcess
      newInvoker .ready sampleRun) 5 1 ∧
    (Kernel.Transaction.processTransaction (fun _ _ _ _ => none) (fun _ => 0) (fun _ => 0) sampleRequest 5 sampleProcess
      newInvoker .ready sampleRun).invoker = newInvoker := by
  have served : courseOf (fun _ => 0) sampleRequest 5 sampleProcess newInvoker .ready = .served := by decide +kernel
  refine ⟨by decide +kernel,(transaction_answered_iff (fun _ _ _ _ => none) (fun _ => 0) (fun _ => 0) sampleRequest sampleProcess
    newInvoker .ready sampleRun (by decide) (by decide +kernel)).mpr ⟨by decide +kernel,?_⟩⟩
  rw [served]
  refine ⟨⟨sampleReply,by decide +kernel,by decide +kernel,?_,by decide +kernel,?_,?_⟩,rfl⟩
  · exact (Option.some_get (by decide +kernel)).symm
  · intro holds
    obtain ⟨-,-,waiting,-⟩ := holds
    exact absurd waiting (by decide)
  · intro holds
    obtain ⟨-,-,-,short,-⟩ := holds
    revert short
    decide +kernel

def strayRequest : Memory := PackageBounds.samplePackage 384 0 32 8 (toLE 4 binderTypeBinder ++ List.replicate 28 0)

/-- On a thread that has served nothing the refusal is addressed to client 0: no reply goes out. -/
theorem refused_request_unanswered :
    hasCompletePackage strayRequest 384 = 384 ∧ (TransactionData.decode strayRequest).cmd = bcTransaction ∧
      hasFlag (TransactionData.decode strayRequest).flags tfAsync = false ∧
      sampleProcess.skeleton.dbinderSessionObjects.lookup 5 = some samplePeer ∧
      (Kernel.Transaction.processTransaction (fun _ _ _ _ => none) (fun _ => 0) (fun _ => 0) strayRequest 5 sampleProcess
        newInvoker .ready sampleRun).replies = [] ∧
      ¬ Answered (Kernel.Transaction.processTransaction (fun _ _ _ _ => none) (fun _ => 0) (fun _ => 0) strayRequest 5
        sampleProcess newInvoker .ready sampleRun) 5 1 := by
  have silent : (Kernel.Transaction.processTransaction (fun _ _ _ _ => none) (fun _ => 0) (fun _ => 0) strayRequest 5
      sampleProcess newInvoker .ready sampleRun).replies = [] := List.eq_nil_of_length_eq_zero (by decide +kernel)
  refine ⟨by decide +kernel,by decide +kernel,by decide +kernel,by decide +kernel,silent,?_⟩
  intro holds
  obtain ⟨transData,replied,-⟩ := holds
  rw [silent] at replied
  cases replied

end CommunicationIpc.Transaction
