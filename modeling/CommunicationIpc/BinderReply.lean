import CommunicationIpc.BinderSteps
import CommunicationIpc.Kernel.BinderTransaction

/-! When a delivered transaction is answered as it should be, and its target keeps its references. -/
namespace CommunicationIpc.BinderReply
open CommunicationIpc.Library CommunicationIpc.Kernel.BinderOutput CommunicationIpc.Kernel.BinderInvoker
open CommunicationIpc.Kernel CommunicationIpc.Kernel.BinderTransaction CommunicationIpc.BinderSteps

variable {process : Process} {tr : BinderTransactionData} {stub : Stub} {strong : Nat} {invoker : Invoker}

/-- A complete `BC_REPLY` or `BC_REPLY_SG`. -/
def IsReply (bytes : List UInt8) : Prop :=
  commands.IsFrame bytes ∧ (ofLE (bytes.take 4) = bcReply ∨ ofLE (bytes.take 4) = bcReplySg)

def Synchronous (tr : BinderTransactionData) : Prop := tr.flags &&& tfOneWay = 0

instance (tr : BinderTransactionData) : Decidable (Synchronous tr) := inferInstanceAs (Decidable (_ = _))

/-- One reply is queued for a synchronous transaction and none for another, and the strong references of the target change by
what the target does. -/
structure Settled (tr : BinderTransactionData) (strong : Nat) (served : Served) : Prop where
  reply : Synchronous tr → ∃ bytes, IsReply bytes ∧ served.after.output = served.called.output ++ [⟨none,bytes⟩]
  oneWay : ¬ Synchronous tr → served.after.output = served.called.output
  strong : served.strong = strong+served.own

/-- There are no offsets, or it is known where. -/
def Located (tr : BinderTransactionData) : Prop := 0 < tr.offsetsSize → tr.offsets ≠ 0

/-- The target is acquired and found not to be valid. -/
def Rejected (process : Process) (tr : BinderTransactionData) : Prop :=
  tr.targetPtr ≠ 0 ∧ tr.cookie ≠ 0 ∧ process.acquires = true ∧ process.processSkeleton = true ∧ process.valid = false

/-- `SendRequest` of the target is called. -/
def Reached (process : Process) (tr : BinderTransactionData) : Prop :=
  if tr.targetPtr ≠ 0 then tr.cookie ≠ 0 ∧ process.acquires = true ∧ ¬ Rejected process tr
  else process.ipcProcessSkeleton = true ∧ process.registry = true

def Translates (process : Process) (reply : ReplyParcel) : Prop :=
  process.single = true ∨ translateDBinderStub process reply ≠ none

/-- The offsets of a synchronous transaction can be located; and unless the transaction is dropped for its offsets, its target is
not rejected, and a reply that the target makes to a synchronous one can be translated. -/
def Deliverable (process : Process) (tr : BinderTransactionData) (stub : Stub) : Prop :=
  (Synchronous tr → Located tr) ∧
    (Located tr → ¬ Rejected process tr ∧ (Synchronous tr → Reached process tr → Translates process stub.reply))

theorem flags_oneWay : (traceServerReceive process tr.flags &&& ~~~tfAcceptFds) &&& tfOneWay = tr.flags &&& tfOneWay := by
  unfold traceServerReceive
  split
  · rw [UInt32.and_assoc,UInt32.and_assoc]
    rfl
  · rw [UInt32.and_assoc]
    rfl

theorem isReply_command {code : Nat} {payload : List UInt8} (small : code < 2^32) (size : payload.length = iocSize code)
    (reply : code = bcReply ∨ code = bcReplySg) : IsReply (toLE 4 code ++ payload) := by
  have head : ofLE ((toLE 4 code ++ payload).take 4) = code := by
    rw [List.take_left' (toLE_length 4 code),ofLE_toLE,Nat.mod_eq_of_lt (by omega)]
  refine ⟨isFrame_command small size,?_⟩
  rw [head]
  exact reply

theorem sendReply_queues (reply : Reply) (alive : Bool) : ∃ bytes, IsReply bytes ∧
    (invoker.sendReply reply .succeed alive).output = invoker.output ++ [⟨none,bytes⟩] := by
  have queued (output : Output) : ∃ bytes, IsReply bytes ∧ (writeTransaction output none
      (if 0 < reply.totalDBinderBufSize then bcReplySg else bcReply) reply.flags 0xffffffff 0 reply.parcel (some reply.status)
      reply.totalDBinderBufSize .succeed).1 = output ++ [⟨none,bytes⟩] := by
    refine ⟨_,?_,rfl⟩
    by_cases gathered : 0 < reply.totalDBinderBufSize
    · rw [if_pos gathered,if_pos gathered]
      apply isReply_command (by decide) _ (.inr rfl)
      rw [List.length_append,transactionData_length,toLE_length]
      decide
    · rw [if_neg gathered,if_neg gathered]
      apply isReply_command (by decide) _ (.inl rfl)
      rw [transactionData_length]
      decide
  obtain ⟨bytes,isReply,same⟩ := queued invoker.output
  refine ⟨bytes,isReply,?_⟩
  unfold Invoker.sendReply
  cases alive <;> exact same

theorem sendReply_queues_iff (reply : ReplyParcel) : Translates process reply ↔ ∃ bytes, IsReply bytes ∧
    (sendReply process invoker reply).output = invoker.output ++ [⟨none,bytes⟩] := by
  have outcome : Translates process reply ↔ (if process.single then some 0 else translateDBinderStub process reply) ≠ none := by
    unfold Translates
    cases process.single <;> simp
  rw [outcome]
  unfold sendReply
  cases (if process.single then some 0 else translateDBinderStub process reply) with
  | none =>
    constructor
    · intro some
      exact absurd rfl some
    · intro queued
      obtain ⟨bytes,-,same⟩ := queued
      exact absurd same (by simp)
  | some total =>
    constructor
    · intro some
      exact sendReply_queues _ process.alive
    · intro queued
      exact nofun

theorem translates_empty : Translates process .empty := .inr nofun

/-- A rejected target stays acquired; one that is reached replies as it likes and is released; else nothing happens. -/
theorem targetStubSendRequest_cases :
    (Rejected process tr ∧ ¬ Reached process tr ∧
      targetStubSendRequest process tr stub strong invoker = refuse errDeadObject (strong+1) invoker) ∨
    (¬ Rejected process tr ∧ Reached process tr ∧ targetStubSendRequest process tr stub strong invoker =
      { stub.sendRequest (strong+1) invoker with strong := strong+1+stub.change-1 }) ∨
    (¬ Rejected process tr ∧ ¬ Reached process tr ∧
      ∃ error, targetStubSendRequest process tr stub strong invoker = refuse error strong invoker) := by
  unfold targetStubSendRequest Reached
  by_cases general : tr.targetPtr ≠ 0
  · rw [if_pos general,if_pos general]
    unfold generalServiceSendRequest
    by_cases acquired : tr.targetPtr ≠ 0 ∧ tr.cookie ≠ 0 ∧ process.acquires = true
    · rw [if_pos acquired]
      dsimp only
      by_cases invalid : process.processSkeleton = true ∧ ¬ process.valid = true
      · have rejected : Rejected process tr := ⟨acquired.1,acquired.2.1,acquired.2.2,invalid.1,by simpa using invalid.2⟩
        rw [if_pos invalid]
        exact .inl ⟨rejected,fun reached => reached.2.2 rejected,rfl⟩
      · have accepted : ¬ Rejected process tr := by
          intro rejected
          obtain ⟨-,-,-,skeleton,bad⟩ := rejected
          exact invalid ⟨skeleton,by simp [bad]⟩
        rw [if_neg invalid,if_pos (by omega)]
        exact .inr (.inl ⟨accepted,⟨acquired.2.1,acquired.2.2,accepted⟩,rfl⟩)
    · rw [if_neg acquired]
      refine .inr (.inr ⟨?_,?_,errDeadObject,rfl⟩)
      · intro rejected
        exact acquired ⟨rejected.1,rejected.2.1,rejected.2.2.1⟩
      · intro reached
        exact acquired ⟨general,reached.1,reached.2.1⟩
  · have accepted : ¬ Rejected process tr := fun rejected => general rejected.1
    rw [if_neg general,if_neg general]
    unfold samgrServiceSendRequest
    cases process.ipcProcessSkeleton with
    | false => exact .inr (.inr ⟨accepted,nofun,errNullObject,rfl⟩)
    | true =>
      cases process.registry with
      | false => exact .inr (.inr ⟨accepted,nofun,errDeadObject,rfl⟩)
      | true => exact .inr (.inl ⟨accepted,⟨rfl,rfl⟩,rfl⟩)

theorem called_strong : (targetStubSendRequest process tr stub strong invoker).strong =
    strong+(targetStubSendRequest process tr stub strong invoker).own ↔ ¬ Rejected process tr := by
  rcases @targetStubSendRequest_cases process tr stub strong invoker with ⟨rejected,-,same⟩ | ⟨accepted,-,same⟩ | ⟨accepted,-,error,same⟩
  · rw [same]
    simp [refuse,rejected]
  · rw [same]
    refine iff_of_true ?_ accepted
    simp only [Stub.sendRequest]
    omega
  · rw [same]
    exact iff_of_true (Int.add_zero _).symm accepted

theorem called_translates : Translates process (targetStubSendRequest process tr stub strong invoker).reply ↔
    (Reached process tr → Translates process stub.reply) := by
  rcases @targetStubSendRequest_cases process tr stub strong invoker with ⟨-,missed,same⟩ | ⟨-,reached,same⟩ | ⟨-,missed,error,same⟩
  · rw [same]
    exact iff_of_true translates_empty fun reached => absurd reached missed
  · rw [same]
    exact ⟨fun translates _ => translates,fun translates => translates reached⟩
  · rw [same]
    exact iff_of_true translates_empty fun reached => absurd reached missed

theorem transaction_dropped (lost : ¬ Located tr) : transaction process tr stub strong invoker = ⟨invoker,invoker,strong,0⟩ := by
  unfold Located at lost
  push Not at lost
  exact if_pos lost

theorem transaction_served (located : Located tr) : transaction process tr stub strong invoker =
    let called := targetStubSendRequest process tr stub strong invoker
    ⟨called.invoker,if Synchronous tr then sendReply process called.invoker called.reply else called.invoker,
      called.strong,called.own⟩ := by
  unfold transaction
  rw [if_neg fun lost => located lost.1 lost.2]
  dsimp only
  rw [flags_oneWay]
  rfl

/-- Which transactions are answered once, with the references of the target as they were. -/
theorem transaction_settled_iff :
    Settled tr strong (transaction process tr stub strong invoker) ↔ Deliverable process tr stub := by
  by_cases located : Located tr
  · rw [transaction_served located]
    constructor
    · intro settled
      refine ⟨fun _ => located,fun _ => ⟨called_strong.mp settled.strong,?_⟩⟩
      intro sync
      obtain ⟨bytes,isReply,queued⟩ := settled.reply sync
      dsimp only at queued
      rw [if_pos sync] at queued
      exact called_translates.mp ((sendReply_queues_iff _).mpr ⟨bytes,isReply,queued⟩)
    · intro deliverable
      obtain ⟨accepted,translates⟩ := deliverable.2 located
      refine ⟨?_,?_,called_strong.mpr accepted⟩
      · intro sync
        dsimp only
        rw [if_pos sync]
        exact (sendReply_queues_iff _).mp (called_translates.mpr (translates sync))
      · intro oneWay
        dsimp only
        rw [if_neg oneWay]
  · rw [transaction_dropped located]
    constructor
    · intro settled
      refine ⟨?_,fun found => absurd found located⟩
      intro sync
      obtain ⟨bytes,-,queued⟩ := settled.reply sync
      exact absurd queued (by simp)
    · intro deliverable
      exact ⟨fun sync => absurd (deliverable.1 sync) located,fun _ => rfl,(Int.add_zero _).symm⟩

section Failures

def ordinary : Process := ⟨false,true,true,true,true,true,(7,1000),fun _ _ _ => errNone,false,0,0,true⟩

/-- Negotiation data followed by the object it is for. -/
def dbinderReply : ReplyParcel :=
  ⟨toLE 4 Translate.binderTypePtr ++ toLE 12 0 ++ toLE 8 negotiationDataSize ++ toLE 16 0 ++
    toLE 4 Translate.binderTypeBinder ++ toLE 12 0 ++ toLE 8 32,[0,40],64,128⟩

/-- A reply whose object cannot be translated is never sent, and an acquired target that is not valid is never released. -/
theorem transaction_unsettled :
    ¬ Settled ⟨16,24,0,0,0⟩ 1 (transaction { ordinary with getAndSaveDBinderData := fun _ _ _ => 10 } ⟨16,24,0,0,0⟩
      ⟨errNone,dbinderReply,0,id⟩ 1 .new) ∧
    ¬ Settled ⟨16,24,0,0,0⟩ 1 (transaction { ordinary with valid := false } ⟨16,24,0,0,0⟩ ⟨errNone,.empty,0,id⟩ 1 .new) := by
  constructor
  · intro settled
    obtain ⟨bytes,-,queued⟩ := settled.reply (by decide)
    have nothing : (transaction { ordinary with getAndSaveDBinderData := fun _ _ _ => 10 } ⟨16,24,0,0,0⟩
      ⟨errNone,dbinderReply,0,id⟩ 1 .new).after.output = [] := by decide +kernel
    rw [nothing] at queued
    exact absurd queued (by simp)
  · intro settled
    exact absurd settled.strong (by decide)

end Failures

end CommunicationIpc.BinderReply
