import CommunicationIpc.LitePackage

/-! What a requester of the C invoker is told of the result of the stub's function: the reply that
`SendReply` makes has no place for it. -/
namespace CommunicationIpc.LiteResult
open CommunicationIpc.Library CommunicationIpc.Kernel.LiteInvoker CommunicationIpc.Kernel.Serializer
open CommunicationIpc.Kernel.Package (TransactionData socketMaxBuffSize tfStatusCode tfAsync hasFlag wrap64)
open CommunicationIpc.Kernel.Framing.Lite (headerSize sizeSize bcTransaction bcReply hasCompletePackage)
open CommunicationIpc.Kernel.Translate (wrap32)
open CommunicationIpc.Framing (wrap32_of_lt)
open CommunicationIpc.Package (decode_congr)
open CommunicationIpc.LiteFraming (Accepted)
open CommunicationIpc.LitePackage (sent_of_written receivedIo wrap64_behind_header ample eightBytes)
open CommunicationIpc.SerializerCursor (Region Cursors ValidInit Started Safe any ended safe_writeWord)

/-- `memcpy_s` copies where the destination is neither empty nor too large for it, and there is memory. -/
structure Lawful (platform : Platform) : Prop where
  copies : ∀ count, 0 < count → count ≤ 0x7fffffff → platform.memcpyS count count = .done
  malloc : ∀ size, platform.malloc size = true

section Reply
variable {platform : Platform} {process : Process} {memory : Memory}

/-- A reply with data and without objects is written for every session and sequence number. -/
theorem writeTransaction_reply (lawful : Lawful platform) {session : HandleSession} {sessionId : UInt32} {reply : IpcIo} {result : Int32}
    {address n : Nat} (attached : queryStubSession process sessionId = some session)
    (numbered : getUniqueSeqNumber process bcReply ≠ 0) (used : usedBuffer reply = n) (none : usedOffsets reply = 0) (some : 0 < n)
    (small : n ≤ rpcIpcLength) :
    ∃ package, writeTransaction platform process memory bcReply 0 0 sessionId 0 reply result address =
      .some (session,getUniqueSeqNumber process bcReply,package) := by
  simp only [rpcIpcLength] at small
  have dataSize : wrap32 (wrap32 0+wrap32 n) = n := by
    simp only [wrap32]
    omega
  have sizeOfSelf : wrap32 (headerSize+n) = headerSize+n := wrap32_of_lt (by simp only [headerSize]; omega)
  have rest : wrap64 (headerSize+n+2^64-headerSize) = n := wrap64_behind_header (by simp only [socketMaxBuffSize]; omega)
  have table : wrap32 (wrap64 (headerSize+n+2^65-headerSize-n)) = 0 := by
    rw [show headerSize+n+2^65-headerSize-n = 2^65 by omega]
    rfl
  have copied : platform.memcpyS n n = .done := lawful.copies n some (by omega)
  have header : platform.memcpyS headerSize headerSize = .done := lawful.copies _ (by decide) (by decide)
  have found : getSessionObject process 0 sessionId = .some session := attached
  simp only [writeTransaction,found,numbered,if_false,processNormalData,used,none,dataSize,lawful.malloc,not_true_eq_false,sizeOfSelf,
    if_true,moveIpcToTransData,toTransData,Option.map_some,Option.getD_some,copied,ne_eq,table,moveTransData2Buffer,rest,header]
  exact ⟨_,rfl⟩

theorem processReply_some (lawful : Lawful platform) {tr : TransactionData} {n : Nat} (size : tr.sizeOfSelf = headerSize+n)
    (some : 0 < n) (small : n ≤ rpcIpcLength) :
    processReply platform tr = .some ⟨tr.flags,tr.bufferSize,tr.offsetsSize,tr.offsets⟩ := by
  simp only [rpcIpcLength] at small
  have rest : wrap64 (headerSize+n+2^64-headerSize) = n := wrap64_behind_header (by simp only [socketMaxBuffSize]; omega)
  simp only [processReply,size,rest,lawful.malloc,not_true_eq_false,if_false,lawful.copies n some (by omega),ne_eq]

/-- What the requester stores of a reply that was written without objects: nothing of an empty one. -/
theorem receiveReply_written {requester : Platform} (lawful : Lawful requester) {sessionId : UInt32} {reply : IpcIo} {result : Int32} {address n : Nat}
    {session : HandleSession} {seq : UInt64} {package : List UInt8} (used : usedBuffer reply = n) (none : usedOffsets reply = 0)
    (small : n ≤ rpcIpcLength)
    (written : writeTransaction platform process memory bcReply 0 0 sessionId 0 reply result address = some (session,seq,package)) :
    receiveReply requester package = if 0 < n then some ⟨0,n,0,n⟩ else .none := by
  have limit : n ≤ 128 := small
  have total : usedBuffer reply+usedOffsets reply*sizeSize ≤ socketMaxBuffSize := by
    rw [used,none]
    simp only [socketMaxBuffSize]
    omega
  have sent := sent_of_written total written
  have accepted := sent.accepted_iff (by decide) total
  rw [used,none] at sent accepted
  unfold receiveReply
  dsimp only
  by_cases some : 0 < n
  · rw [if_pos some,if_pos ⟨by rw [sent.length]; omega,accepted.mpr ⟨some,rfl⟩⟩,if_pos sent.cmd,
      processReply_some lawful sent.sizeOfSelf some small,sent.flags,sent.bufferSize,sent.offsetsSize,sent.offsets]
    rfl
  · rw [if_neg some,if_neg]
    rintro ⟨-,found⟩
    exact some (accepted.mp found).1

end Reply

/-! One call, from the request in the server's memory to the end of the requester's wait. -/

section Call
variable {server requester : Platform} {process : Process} {stubs : List (UInt64 × OnRemoteRequest)} {memory : Memory}
  {package : List UInt8} {base replyAlloc address : Nat} {sessionId : UInt32} {option : MessageOption} {reply buffer : Bool}

/-- What the stub's function does with the request. -/
def handledBy (func : OnRemoteRequest) (memory : Memory) (package : List UInt8) (base replyAlloc : Nat) : Handled :=
  func (.ofNat (TransactionData.decode (.ofBytes package)).code) (receivedIo package base)
    (ipcIoInit ⟨0,0,0,0,0,0,false,false⟩ replyAlloc rpcIpcLength 0) (.ofNat (TransactionData.decode (.ofBytes package)).flags) memory

/-- The function of the stub that the request names. -/
def target (stubs : List (UInt64 × OnRemoteRequest)) (package : List UInt8) : Option OnRemoteRequest :=
  if (TransactionData.decode (.ofBytes package)).cookie = 0 then none
  else queryStubByIndex stubs (.ofNat (TransactionData.decode (.ofBytes package)).cookie)

/-- How the requester's call ends, where every package that is sent arrives while it waits. -/
def ending (server requester : Platform) (process : Process) (stubs : List (UInt64 × OnRemoteRequest)) (memory : Memory)
    (base replyAlloc address : Nat) (sessionId : UInt32) (option : MessageOption) (reply buffer : Bool) : Outcome :=
  rpcInvokerSendRequest option reply buffer
    ((onTransaction server process stubs memory base replyAlloc address sessionId).bind fun answer => receiveReply requester answer.2)

/-- The reply is set up over its array and written by serializer calls only, so that its cursors are in order. -/
def Written (replyAlloc : Nat) (reply : IpcIo) : Prop :=
  ∃ valid : ValidInit replyAlloc rpcIpcLength 0, Cursors (.ofBuffer replyAlloc rpcIpcLength 0 valid) reply

theorem Written.used {reply : IpcIo} (written : Written replyAlloc reply) :
    usedBuffer reply ≤ rpcIpcLength ∧ usedOffsets reply = 0 := by
  obtain ⟨valid,cursors⟩ := written
  have base := cursors.base
  have stop := cursors.stop
  have offsetsBase := cursors.offsetsBase
  have offsetsStop := cursors.offsetsStop
  simp only [Region.ofBuffer,rpcIpcLength] at base stop offsetsBase offsetsStop
  have none : reply.offsetsCur-reply.offsetsBase = 0 := by omega
  rw [usedOffsets,none,usedBuffer,rpcIpcLength]
  exact ⟨by omega,rfl⟩

/-- The requester waits for a reply. -/
def Waits (option : MessageOption) (reply : Bool) : Prop := reply = true ∧ option.waitTime ≠ 0

instance : Decidable (Waits option reply) := inferInstanceAs (Decidable (_ ∧ _))

theorem rpcInvokerSendRequest_sync (sync : hasFlag option.flags.toNat tfAsync = false) (stored : Option MessageInfo) :
    rpcInvokerSendRequest option reply buffer stored =
      if Waits option reply then
        match stored with
        | none => .timedOut
        | some messageInfo => .returned (handleReply messageInfo buffer)
      else .returned errNone := by
  have zero : (if option.waitTime.toNat > rpcMaxSendWaitTime then UInt32.ofNat rpcMaxSendWaitTime else option.waitTime) = 0 ↔
      option.waitTime = 0 := by
    split
    · rename_i long
      constructor
      · intro absent
        cases absent
      · intro none
        rw [none] at long
        cases long
    · exact Iff.rfl
  simp only [rpcInvokerSendRequest,sync,Bool.false_eq_true,if_false,waitForReply,zero]
  by_cases waits : Waits option reply
  · rw [if_pos waits]
    exact if_neg (by rintro (absent | none); exacts [absent waits.1,waits.2 none])
  · rw [if_neg waits,if_pos]
    by_contra both
    rw [not_or,not_not] at both
    exact waits both

theorem handleReply_plain (bufferSize offsetsSize offsets : Nat) (buffer : Bool) :
    handleReply ⟨0,bufferSize,offsetsSize,offsets⟩ buffer = if buffer = false then errFailed else errNone := by
  have plain : hasFlag 0 tfStatusCode = false := by decide
  cases buffer with
  | true => simp [handleReply,plain]
  | false => simp [handleReply,plain]

theorem accepted_decode (accepted : Accepted package) (copied : memory.readBytes base package.length = package) :
    TransactionData.decode (memory.shift base) = TransactionData.decode (.ofBytes package) := by
  have long := (LitePackage.accepted_bounds accepted).2.1
  apply decode_congr
  intro x inside
  have within : x < package.length := by
    simp only [Kernel.Package.headerSize] at inside
    simp only [headerSize] at long
    omega
  have byte := @Memory.ofBytes_readBytes memory base package.length x within
  rw [copied] at byte
  exact byte.symm

/-- What reaches the requester of a reply that the server sends over the session it has for the caller. -/
theorem sendReply_stored (serverLawful : Lawful server) (requesterLawful : Lawful requester) {context : ThreadContext} {reply : IpcIo}
    {result : Int32} (current : process.threadContext = some context) (numbered : context.seqNumber ≠ 0)
    (written : Written replyAlloc reply) :
    ((sendReply server process memory reply 0 result address).bind fun answer => receiveReply requester answer.2) =
      if (queryStubSession process context.sessionId).isSome ∧ 0 < usedBuffer reply then
        some ⟨0,usedBuffer reply,0,usedBuffer reply⟩ else none := by
  obtain ⟨small,objects⟩ := written.used
  have caller : getCallerSessionId process = context.sessionId := by
    rw [getCallerSessionId,current]
    rfl
  have number : getUniqueSeqNumber process bcReply = context.seqNumber := by
    rw [getUniqueSeqNumber,if_neg (by decide),if_pos rfl,current]
    rfl
  unfold sendReply
  rw [caller]
  cases made : writeTransaction server process memory bcReply 0 0 context.sessionId 0 reply result address with
  | none =>
    rw [if_neg]
    · rfl
    · rintro ⟨attached,some⟩
      obtain ⟨session,found⟩ := Option.isSome_iff_exists.mp attached
      obtain ⟨package,sent⟩ := writeTransaction_reply serverLawful found (by rwa [number]) rfl objects some small
      rw [made] at sent
      cases sent
  | some answer =>
    obtain ⟨session,seq,package⟩ := answer
    have found : (queryStubSession process context.sessionId).isSome = true := by
      by_contra absent
      rw [Option.not_isSome_iff_eq_none] at absent
      have missing : getSessionObject process 0 context.sessionId = none := absent
      simp only [writeTransaction,missing] at made
      cases made
    simp only [Option.map_some,Option.bind_some,found,true_and]
    exact receiveReply_written requesterLawful rfl objects small made

theorem answered_eq (serverLawful : Lawful server) (requesterLawful : Lawful requester) (accepted : Accepted package)
    (copied : memory.readBytes base package.length = package)
    (request : (TransactionData.decode (.ofBytes package)).cmd = bcTransaction)
    (sync : hasFlag (TransactionData.decode (.ofBytes package)).flags tfAsync = false)
    (numbered : UInt64.ofNat (TransactionData.decode (.ofBytes package)).seqNumber ≠ 0)
    (context : process.threadContext.isSome = true)
    (written : ∀ func, target stubs package = some func → Written replyAlloc (handledBy func memory package base replyAlloc).reply) :
    ((onTransaction server process stubs memory base replyAlloc address sessionId).bind fun answer => receiveReply requester answer.2) =
      match target stubs package with
      | none => none
      | some func =>
        if (queryStubSession process sessionId).isSome ∧ 0 < usedBuffer (handledBy func memory package base replyAlloc).reply then
          some ⟨0,usedBuffer (handledBy func memory package base replyAlloc).reply,0,
            usedBuffer (handledBy func memory package base replyAlloc).reply⟩
        else none := by
  obtain ⟨current,present⟩ := Option.isSome_iff_exists.mp context
  unfold onTransaction
  rw [accepted_decode accepted copied]
  dsimp only
  rw [if_pos request]
  unfold processTransaction
  by_cases zero : (TransactionData.decode (.ofBytes package)).cookie = 0
  · have unknown : target stubs package = none := if_pos zero
    rw [if_pos zero,unknown]
    rfl
  rw [if_neg zero]
  dsimp only
  rw [present]
  have query : target stubs package = queryStubByIndex stubs (.ofNat (TransactionData.decode (.ofBytes package)).cookie) := if_neg zero
  rw [← query]
  cases known : target stubs package with
  | none => rfl
  | some func =>
    dsimp only
    rw [if_neg (by rw [sync]; exact Bool.false_ne_true)]
    exact @sendReply_stored server requester { process with threadContext := some ⟨sessionId,_⟩ } _ replyAlloc address serverLawful
      requesterLawful _ _ _ rfl numbered (written func known)

/-- A call whose request was accepted ends with the result of the stub's function exactly when a reply with
data goes out over a session to the caller, or nothing is waited for, and the result is the one that the
requester returns then: no error, or a failure where it waited and has no place for the data. Where the
stub is not known the call never ends with an error that a reply has brought. -/
theorem result_delivered_iff (serverLawful : Lawful server) (requesterLawful : Lawful requester) (accepted : Accepted package)
    (copied : memory.readBytes base package.length = package)
    (request : (TransactionData.decode (.ofBytes package)).cmd = bcTransaction)
    (flags : (TransactionData.decode (.ofBytes package)).flags = option.flags.toNat)
    (sync : hasFlag option.flags.toNat tfAsync = false)
    (numbered : UInt64.ofNat (TransactionData.decode (.ofBytes package)).seqNumber ≠ 0)
    (context : process.threadContext.isSome = true)
    (written : ∀ func, target stubs package = some func → Written replyAlloc (handledBy func memory package base replyAlloc).reply) :
    (∀ func, target stubs package = some func →
      (ending server requester process stubs memory base replyAlloc address sessionId option reply buffer =
          .returned (handledBy func memory package base replyAlloc).result ↔
        (Waits option reply → (queryStubSession process sessionId).isSome = true ∧
          0 < usedBuffer (handledBy func memory package base replyAlloc).reply) ∧
        (handledBy func memory package base replyAlloc).result =
          if Waits option reply ∧ buffer = false then errFailed else errNone)) ∧
    (target stubs package = none → ∀ result, result ≠ errNone →
      ending server requester process stubs memory base replyAlloc address sessionId option reply buffer ≠ .returned result) := by
  have stored := @answered_eq server requester process stubs memory package base replyAlloc address sessionId serverLawful requesterLawful
    accepted copied request (by rw [flags]; exact sync) numbered context written
  unfold ending
  rw [stored,rpcInvokerSendRequest_sync sync]
  constructor
  · intro func known
    rw [known]
    dsimp only
    by_cases waits : Waits option reply
    · rw [if_pos waits]
      by_cases sent : (queryStubSession process sessionId).isSome ∧ 0 < usedBuffer (handledBy func memory package base replyAlloc).reply
      · rw [if_pos sent]
        simp only [waits,sent,and_self,forall_const,true_and,Outcome.returned.injEq,handleReply_plain]
        exact eq_comm
      · simp only [if_neg sent,waits,forall_const,reduceCtorEq,false_iff,not_and]
        intro both
        exact absurd both sent
    · rw [if_neg waits]
      simp only [waits,false_implies,true_and,false_and,if_false,Outcome.returned.injEq,eq_comm]
  · intro unknown result error
    rw [unknown]
    dsimp only
    split
    · exact fun absent => by cases absent
    · intro same
      cases same
      exact error rfl

end Call

/-- A stub that writes a number, or nothing, and returns a result. -/
def answering (result : Int32) : OnRemoteRequest := fun _ _ reply _ memory =>
  ⟨result,(writeInt32 1 ⟨memory,reply,[]⟩).2.io,(writeInt32 1 ⟨memory,reply,[]⟩).2.memory⟩

def silent (result : Int32) : OnRemoteRequest := fun _ _ reply _ memory => ⟨result,reply,memory⟩

/-- A server with a session for its caller. -/
def serving : Process := ⟨[],[⟨4,4⟩],[],0,some ⟨0,0⟩⟩

theorem result_delivered_none :
    ending ample ample serving [(1,answering 0)] (.ofBytes (eightBytes 0 0)) 0 65536 131072 4 ⟨0,8⟩ true true = .returned 0 := by
  have lawful : Lawful ample := ⟨fun _ _ _ => rfl,fun _ => rfl⟩
  have accepted : Accepted (eightBytes 0 0) := by
    unfold Accepted
    decide +kernel
  have known : target [(1,answering 0)] (eightBytes 0 0) = some (answering 0) := by
    have index : (TransactionData.decode (.ofBytes (eightBytes 0 0))).cookie = 1 := by decide +kernel
    rw [target,index]
    rfl
  have valid : ValidInit 65536 rpcIpcLength 0 := ⟨by decide,by decide,by decide,by decide,by decide⟩
  have written : ∀ func, target [(1,answering 0)] (eightBytes 0 0) = some func →
      Written 65536 (handledBy func (.ofBytes (eightBytes 0 0)) (eightBytes 0 0) 0 65536).reply := by
    intro func same
    rw [known] at same
    cases same
    have start := (Started.ipcIoInit ⟨0,0,0,0,0,0,false,false⟩ 65536 rpcIpcLength 0 valid).cursors
    have safe : Safe (.ofBuffer 65536 rpcIpcLength 0 valid) (fun _ => False) any (writeInt32 1) ended := safe_writeWord _
    exact ⟨valid,safe.cursors start⟩
  have delivered := (@result_delivered_iff ample ample serving _ _ _ 0 65536 131072 4 ⟨0,8⟩ true true lawful lawful accepted
    (Memory.readBytes_ofBytes _) (by decide +kernel) (by decide +kernel) (by decide) (by decide +kernel) rfl written).1 (answering 0) known
  exact delivered.mpr ⟨fun _ => ⟨by decide +kernel,by decide +kernel⟩,by decide +kernel⟩

/-- The result 5 is lost: a reply with data stands for no error, and no reply comes for an empty one. -/
theorem result_five_lost :
    ending ample ample serving [(1,answering 5)] (.ofBytes (eightBytes 0 0)) 0 65536 131072 4 ⟨0,8⟩ true true = .returned 0 ∧
      ending ample ample serving [(1,silent 5)] (.ofBytes (eightBytes 0 0)) 0 65536 131072 4 ⟨0,8⟩ true true = .timedOut ∧
      ending ample ample serving [] (.ofBytes (eightBytes 0 0)) 0 65536 131072 4 ⟨0,8⟩ true true = .timedOut := by
  decide +kernel

end CommunicationIpc.LiteResult
