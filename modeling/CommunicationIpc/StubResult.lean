import CommunicationIpc.Kernel.StubResult
import CommunicationIpc.Transaction

/-! What a requester is told of the result of the stub: the status travels in place of a parcel that
is empty, and a parcel with data in place of the status. -/
namespace CommunicationIpc.StubResult
open CommunicationIpc.Library CommunicationIpc.Kernel.Package CommunicationIpc.Kernel.Translate CommunicationIpc.Kernel.Marshal
open CommunicationIpc.Kernel.ReplyWait CommunicationIpc.Kernel.Transaction CommunicationIpc.Kernel.StubResult
open CommunicationIpc.Package CommunicationIpc.Marshal CommunicationIpc.SessionSlots CommunicationIpc.Transaction

/-- Widened to 64 bits with its sign and cut back to 32, a status is what it was. -/
theorem status_back (e : Int32) : (UInt32.ofNat ((e.toInt % 2^64).toNat % 256^8 % 2^32)).toInt32 = e := by
  have range := e.toInt_lt
  have low := e.le_toInt
  rw [UInt32.toInt32_ofNat']
  apply Int32.toInt_inj.mp
  rw [Int32.toInt_ofNat',Int.bmod_def]
  simp only [Int32.size]
  omega

section Requester
variable {package : Memory}

theorem sent_same {x : Nat} (inside : x < package.read 0 4) : Memory.ofBytes (packageOf package).bytes x = package x := by
  rw [packageOf,Memory.ofBytes_readBytes inside,Memory.shift,Nat.zero_add]

theorem receivedReply_of_checked (magic : (TransactionData.decode package).magic = dbinderMagicword)
    (command : (TransactionData.decode package).cmd = bcReply)
    (checked : checkTransactionData (TransactionData.decode package) = true) :
    receivedReply (packageOf package).bytes = some ⟨TransactionData.decode package,
      package.readBytes headerSize ((TransactionData.decode package).sizeOfSelf-headerSize),command⟩ := by
  obtain ⟨limited,positive,-,covered,-⟩ := checkTransactionData_spec checked
  have size : (TransactionData.decode package).sizeOfSelf = package.read 0 4 := rfl
  have header : TransactionData.decode (Memory.ofBytes (packageOf package).bytes) = TransactionData.decode package :=
    decode_congr fun x inside => sent_same (by omega)
  have length : (packageOf package).bytes.length = (TransactionData.decode package).sizeOfSelf :=
    package.readBytes_length 0 (package.read 0 4)
  have body : (Memory.ofBytes (packageOf package).bytes).readBytes headerSize
      ((TransactionData.decode package).sizeOfSelf-headerSize) =
      package.readBytes headerSize ((TransactionData.decode package).sizeOfSelf-headerSize) :=
    Memory.readBytes_congr fun x _ high => sent_same (by omega)
  have complete : hasCompletePackage (Memory.ofBytes (packageOf package).bytes) (packageOf package).bytes.length ≠ 0 := by
    rw [hasCompletePackage,if_neg (by omega)]
    dsimp only
    rw [header,if_pos ⟨magic,by omega,by omega,checked⟩]
    simp only [headerSize] at covered
    omega
  unfold receivedReply
  dsimp only
  rw [if_neg complete]
  simp only [header,command,dite_true,body]

theorem processReply_fields (reply : Reply) (listenFd : Int32) (messageInfo : ThreadMessageInfo) :
    processReply reply listenFd messageInfo = ⟨reply.tr.flags,reply.tr.bufferSize,reply.tr.offsetsSize,reply.tr.offsets,
      listenFd.toUInt32,some reply.body,messageInfo.ready⟩ := rfl

end Requester

section Reply
variable {sessionOf : Nat → Nat → Nat → Nat → Option Session} {reply : MessageParcel} {seqNum : Nat} {package : Memory}

/-- The header of the package for a parcel without data: the status stands for the size of the table. -/
theorem decode_status {status : Int} (empty : reply.data = []) (none : reply.objectOffsets = [])
    (made : processNormalData sessionOf reply 0 seqNum bcReply 0 0 status = some package) :
    TransactionData.decode package = ⟨headerSize+binderSize,dbinderMagicword,supportTokenidVersionNum,bcReply,0,tfStatusCode,0,
      seqNum % 256^8,binderSize,(status % 2^64).toNat % 256^8,binderSize⟩ := by
  simp only [processNormalData,moveMessageParcel2TransData,empty,none,List.length_nil,ne_eq,not_true_eq_false,if_false,
    Option.some.injEq,Nat.lt_irrefl,Nat.zero_mul,Nat.add_zero] at made
  rw [← made]
  simp (disch := decide) only [TransactionData.decode,constructTransData,Memory.read_write_apart,Memory.read_write]
  rfl

theorem sendRequest_status (handleOf : Session → Nat) (socketId listenFd : Int32) (e : Int32) (empty : reply.data = [])
    (none : reply.objectOffsets = [])
    (made : processNormalData sessionOf reply 0 seqNum bcReply 0 0 e.toInt = some package) :
    sendRequest handleOf socketId listenFd (packageOf package).bytes = some e := by
  have header := decode_status empty none made
  have status : hasFlag tfStatusCode tfStatusCode = true := by decide
  have checked : checkTransactionData (TransactionData.decode package) = true := by
    rw [header]
    simp [checkTransactionData,status,headerSize,binderSize,socketMaxBuffSize,wrap64]
  have received := receivedReply_of_checked (by rw [header]) (by rw [header]) checked
  rw [sendRequest,received,Option.map_some,processReply_fields,Kernel.StubResult.handleReply,Kernel.ReplyWait.handleReply]
  simp only [header,status,if_true,status_back]

/-- The copy `ProcessReply` makes of the package holds its bytes behind the header. -/
theorem copy_same {size x : Nat} (behind : headerSize ≤ x) (inside : x < size) :
    Memory.writeBytes (fun _ => 0) headerSize (package.readBytes headerSize (size-headerSize)) x = package x := by
  rw [Memory.writeBytes,if_pos behind,Memory.getElem?_readBytes (by omega),Option.getD_some,Nat.add_sub_cancel' behind]

theorem translated_in_copy (handleOf : Session → Nat) {removed : Memory} {sender : Sender}
    (accepted : checkTransactionData (TransactionData.decode removed) = true)
    (plain : hasFlag (TransactionData.decode removed).flags tfStatusCode = false)
    (sent : iRemoteObjectTranslateWhenSend sessionOf removed (layoutOf (TransactionData.decode removed)) = (true,sender)) :
    (iRemoteObjectTranslateWhenRcv handleOf (Memory.writeBytes (fun _ => 0) headerSize (sender.memory.readBytes headerSize
      ((TransactionData.decode removed).sizeOfSelf-headerSize))) (layoutOf (TransactionData.decode removed))).1 = true := by
  have fits := fits_of_sent accepted sent
  obtain ⟨-,-,-,-,-,whole⟩ := checkTransactionData_spec accepted
  obtain ⟨sessions,count,translated⟩ := sent_of_translated accepted sent
  have size := whole plain
  have table : (layoutOf (TransactionData.decode removed)).flatOffset ≤ (TransactionData.decode removed).sizeOfSelf := by
    rw [fits.flat]
    simp only [layoutOf]
    omega
  have base : (layoutOf (TransactionData.decode removed)).dataBuffer = headerSize := rfl
  have width := fits.flat
  rw [iRemoteObjectTranslateWhenRcv,← count]
  refine (received_loop handleOf fits sessions (fun _ => ⟨rfl,rfl⟩) (Nat.zero_le _) (by omega) ?_).1
  refine chain_congr packed_local fits sessions (fun _ => ⟨rfl,rfl⟩) (Nat.zero_le _) (by omega) ?_ ?_ translated.packed
  · intro x low high
    exact (copy_same (by omega) (by omega)).symm
  · intro x low high
    exact (copy_same (by omega) (by omega)).symm

/-- A parcel with data: what was sent can be translated by the requester, which gets no status. -/
theorem sendRequest_contents (handleOf : Session → Nat) (socketId listenFd : Int32) {status : Int} (filled : reply.data ≠ [])
    (made : processNormalData sessionOf reply 0 seqNum bcReply 0 0 status = some package) :
    sendRequest handleOf socketId listenFd (packageOf package).bytes = some 0 := by
  simp only [processNormalData] at made
  generalize wrap32 _ = sendSize at made
  generalize started : (constructTransData sendSize seqNum bcReply 0 0).write 24 8 0 = memory at made
  have fresh : memory.read 4 4 = dbinderMagicword ∧ memory.read 12 4 = bcReply ∧ memory.read 20 4 = 0 := by
    rw [← started,constructTransData]
    simp (disch := decide) only [Memory.read_write_apart,Memory.read_write]
    decide
  rcases moveMessageParcel2TransData_cases made with ⟨removed,sender,same,accepted,sent,rfl⟩ | ⟨empty,-⟩
  · have header : TransactionData.decode sender.memory = TransactionData.decode removed :=
      decode_congr (header_of_translated accepted sent)
    have magic : (TransactionData.decode removed).magic = dbinderMagicword :=
      (same.read (by decide) (by decide)).trans fresh.1
    have command : (TransactionData.decode removed).cmd = bcReply :=
      (same.read (by decide) (by decide)).trans fresh.2.1
    have flags : (TransactionData.decode removed).flags = 0 :=
      (same.read (by decide) (by decide)).trans fresh.2.2
    have plain : hasFlag (TransactionData.decode removed).flags tfStatusCode = false := by
      rw [flags]
      decide
    have received := receivedReply_of_checked (by rw [header,magic]) (by rw [header,command]) (by rw [header,accepted])
    have translated := translated_in_copy handleOf accepted plain sent
    rw [sendRequest,received,Option.map_some,processReply_fields,Kernel.StubResult.handleReply,Kernel.ReplyWait.handleReply]
    simp only [layoutOf] at translated
    simp only [header,plain,Bool.false_eq_true,if_false,translated,if_true]
  · exact absurd empty filled

end Reply

section Call
variable (sessionOf : Nat → Nat → Nat → Nat → Option Session) (handleOf : Session → Nat) (fresh : Nat → UInt8)

theorem sendRequest_made (requesterHandleOf : Session → Nat) (socketId requesterFd : Int32) {reply : MessageParcel} {seqNum : Nat}
    {package : Memory} (e : Int32) (inside : ∀ offset ∈ reply.objectOffsets, offset < reply.data.length)
    (made : processNormalData sessionOf reply 0 seqNum bcReply 0 0 e.toInt = some package) :
    sendRequest requesterHandleOf socketId requesterFd (packageOf package).bytes =
      some (if reply.data = [] then e else 0) := by
  by_cases empty : reply.data = []
  · have none : reply.objectOffsets = [] := by
      apply List.eq_nil_iff_forall_not_mem.mpr
      intro offset member
      have short := inside offset member
      rw [empty] at short
      exact Nat.not_lt_zero _ short
    rw [if_pos empty]
    exact sendRequest_status requesterHandleOf socketId requesterFd e empty none made
  · rw [if_neg empty]
    exact sendRequest_contents requesterHandleOf socketId requesterFd empty made

/-- The one reply of a transaction that reaches its stub is the one `SendReply` makes of its parcel. -/
theorem replies_of_served {memory : Memory} {listenFd : Int32} {process : Process} {invoker : Invoker} {run : StubRun}
    (sync : hasFlag (TransactionData.decode memory).flags tfAsync = false)
    (served : courseOf handleOf memory listenFd process invoker .ready = .served) :
    ∃ caller : Invoker, caller.callerInfo.clientFd = listenFd ∧
      caller.seqNumber = UInt64.ofNat (TransactionData.decode memory).seqNumber ∧
      (processTransaction sessionOf handleOf fresh memory listenFd process invoker .ready run).replies =
        (sendReply sessionOf fresh run.process caller run.reply 0 run.error).2 := by
  unfold courseOf at served
  dsimp only at served
  split at served
  · cases served
  rename_i translated
  split at served
  · cases served
  rename_i caller checked
  split at served
  · cases served
  rename_i stub found
  obtain ⟨client,-,own⟩ := checkAndSetCallerInfo_spec checked
  refine ⟨{ run.actions.foldl Invoker.act { caller with status := activeInvoker } with
    seqNumber := UInt64.ofNat (TransactionData.decode memory).seqNumber },?_,rfl,?_⟩
  · exact (actions_spec run.actions (show ({ caller with status := activeInvoker } : Invoker).seqNumber = _ from rfl)).1.trans client
  · simp only [Kernel.Transaction.processTransaction,translated,Bool.true_eq_false,if_false,checked,targetStubSendRequest,found,sendReplyWithSeqNum,
      sync,Bool.false_eq_true]

/-- A synchronous transaction whose stub was called and whose reply can be delivered: the
requester's `SendRequest` returns what the stub returned if the stub has put nothing into the reply,
and 0 if it has. -/
theorem stub_result_delivered (requesterHandleOf : Session → Nat) (socketId requesterFd : Int32) (memory : Memory)
    {listenFd : Int32} (process : Process) (invoker : Invoker) (run : StubRun) (e : Int32) (positive : 0 < listenFd)
    (sync : hasFlag (TransactionData.decode memory).flags tfAsync = false)
    (served : courseOf handleOf memory listenFd process invoker .ready = .served)
    (inside : ∀ offset ∈ run.reply.objectOffsets, offset < run.reply.data.length) :
    (∃ transData, (processTransaction sessionOf handleOf fresh memory listenFd process invoker .ready
        { run with error := e.toInt }).replies = [(listenFd,transData)] ∧
      sendRequest requesterHandleOf socketId requesterFd (packageOf transData).bytes =
        some (if run.reply.data = [] then e else 0)) ↔
    UInt64.ofNat (TransactionData.decode memory).seqNumber ≠ 0 ∧
      Deliverable sessionOf fresh run.process listenFd (UInt64.ofNat (TransactionData.decode memory).seqNumber) run.reply
        e.toInt := by
  obtain ⟨caller,client,number,replies⟩ := @replies_of_served sessionOf handleOf fresh memory listenFd process invoker
    { run with error := e.toInt } sync served
  rw [replies,← number]
  subst client
  rcases sendReply_spec sessionOf fresh run.process caller run.reply e.toInt positive with
    ⟨transData,nonzero,delivers,replied,-⟩ | ⟨none,silent⟩
  · refine iff_of_true ⟨transData,replied,?_⟩ ⟨nonzero,transData,delivers⟩
    exact sendRequest_made sessionOf requesterHandleOf socketId requesterFd e inside delivers.2.2.1
  · refine iff_of_false ?_ ?_
    · intro holds
      obtain ⟨transData,replied,-⟩ := holds
      rw [silent] at replied
      cases replied
    · intro holds
      obtain ⟨nonzero,transData,delivers⟩ := holds
      exact none ⟨transData,nonzero,delivers⟩

end Call

def quietRun (reply : MessageParcel) (e : Int32) : StubRun := ⟨[],sampleProcess,reply,e.toInt⟩

def quietReply (reply : MessageParcel) (e : Int32) : Memory :=
  (processNormalData (fun _ _ _ _ => none) reply 0 1 bcReply 0 0 e.toInt).getD fun _ => 0

theorem stub_result_delivered_empty :
    ∃ transData, (processTransaction (fun _ _ _ _ => none) (fun _ => 0) (fun _ => 0) sampleRequest 5 sampleProcess newInvoker .ready
        (quietRun .empty (-7))).replies = [(5,transData)] ∧
      sendRequest (fun _ => 0) 5 5 (packageOf transData).bytes = some (-7) := by
  refine (stub_result_delivered (fun _ _ _ _ => none) (fun _ => 0) (fun _ => 0) (fun _ => 0) 5 5 sampleRequest sampleProcess newInvoker
    (quietRun .empty (-7)) (-7) (by decide) (by decide +kernel) (by decide +kernel) (by decide)).mpr ⟨by decide +kernel,?_⟩
  refine ⟨quietReply .empty (-7),by decide +kernel,by decide +kernel,?_,by decide +kernel,?_,?_⟩
  · exact (Option.some_get (by decide +kernel)).symm
  · intro holds
    obtain ⟨-,-,waiting,-⟩ := holds
    exact absurd waiting (by decide)
  · intro holds
    obtain ⟨-,-,-,short,-⟩ := holds
    revert short
    decide +kernel

/-- A stub that fails with 5 after it has written four bytes into the reply: the requester's
`SendRequest` returns 0. -/
theorem error_behind_data_lost :
    courseOf (fun _ => 0) sampleRequest 5 sampleProcess newInvoker .ready = .served ∧
      (processTransaction (fun _ _ _ _ => none) (fun _ => 0) (fun _ => 0) sampleRequest 5 sampleProcess newInvoker .ready
        (quietRun ⟨[1,2,3,4],[],[]⟩ 5)).replies.map
        (fun answer => sendRequest (fun _ => 0) 5 5 (packageOf answer.2).bytes) = [some 0] ∧
      ¬ ∀ answer ∈ (processTransaction (fun _ _ _ _ => none) (fun _ => 0) (fun _ => 0) sampleRequest 5 sampleProcess newInvoker .ready
        (quietRun ⟨[1,2,3,4],[],[]⟩ 5)).replies, sendRequest (fun _ => 0) 5 5 (packageOf answer.2).bytes = some 5 := by
  have result : (processTransaction (fun _ _ _ _ => none) (fun _ => 0) (fun _ => 0) sampleRequest 5 sampleProcess newInvoker .ready
      (quietRun ⟨[1,2,3,4],[],[]⟩ 5)).replies.map
      (fun answer => sendRequest (fun _ => 0) 5 5 (packageOf answer.2).bytes) = [some 0] := by decide +kernel
  refine ⟨by decide +kernel,result,?_⟩
  intro delivered
  have five : some (0 : Int32) ∈ [some (5 : Int32)] := by
    have member : some (0 : Int32) ∈ [some (0 : Int32)] := by simp
    rw [← result,List.mem_map] at member
    obtain ⟨answer,sent,zero⟩ := member
    rw [← zero,delivered answer sent]
    simp
  exact absurd five (by decide)

end CommunicationIpc.StubResult
