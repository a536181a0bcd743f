import CommunicationIpc.BinderSteps
import CommunicationIpc.Hitrace
import CommunicationIpc.Kernel.ScatterGather

/-! The data size in the scatter-gather commands of `SendRequest` and `SendReply`, and when it is a multiple of 8. -/
namespace CommunicationIpc.ScatterGather
open CommunicationIpc.Library CommunicationIpc.Kernel.BinderOutput CommunicationIpc.Kernel.BinderInvoker
open CommunicationIpc.Kernel.ScatterGather CommunicationIpc.Hitrace CommunicationIpc.BinderSteps
open CommunicationIpc.Kernel.BinderTransaction (Process ReplyParcel translateObjects negotiationDataSize binderAlignBytes)
open CommunicationIpc.Kernel.Hitrace (hitraceIdLen traceClientSend)

/-- A whole command `BC_TRANSACTION_SG` or `BC_REPLY_SG`. -/
def IsScatterGather (bytes : List UInt8) : Prop :=
  (bytes.take 4 = toLE 4 bcTransactionSg ∨ bytes.take 4 = toLE 4 bcReplySg) ∧ bytes.length = 4+72

/-- `data_size` of the command. -/
def dataSize (bytes : List UInt8) : Nat := ofLE ((bytes.drop 36).take 8)

/-- In every scatter-gather command written between the two states the data size is a multiple of 8. -/
def Aligned (before after : Invoker) : Prop :=
  ∀ segment ∈ after.output.drop before.output.length, IsScatterGather segment.bytes → dataSize segment.bytes % binderAlignBytes = 0

theorem aligned_same {before after : Invoker} (same : after.output = before.output) : Aligned before after := by
  intro segment member
  rw [same,List.drop_length] at member
  cases member

section Command
variable {owner : Option Owner} {cmd : Nat} {flags handle code : UInt32} {parcel : ParcelView} {status : Option UInt64} {total : Nat}
  {writes : Writes} {before after : Invoker}

theorem dataSize_command (filled : 0 < parcel.dataSize) (rest : List UInt8) :
    dataSize (toLE 4 cmd ++ (transactionData flags handle code parcel status ++ rest)) = parcel.dataSize % 256^8 := by
  have parts : toLE 4 cmd ++ (transactionData flags handle code parcel status ++ rest) =
      (toLE 4 cmd ++ toLE 8 handle.toNat ++ toLE 8 0 ++ toLE 4 code.toNat ++ toLE 4 (flags ||| tfAcceptFds).toNat ++ toLE 4 0 ++ toLE 4 0) ++
        (toLE 8 parcel.dataSize ++
          (toLE 8 (parcel.offsetsSize*8) ++ toLE 8 parcel.data.toNat ++ toLE 8 parcel.objectOffsets.toNat ++ rest)) := by
    unfold transactionData
    dsimp only
    rw [if_pos filled]
    simp only [List.append_assoc]
  rw [dataSize,parts,List.drop_left' (by simp only [List.length_append,toLE_length]),List.take_left' (toLE_length 8 _),ofLE_toLE]

theorem multiple_command (filled : 0 < parcel.dataSize) (rest : List UInt8) :
    dataSize (toLE 4 cmd ++ (transactionData flags handle code parcel status ++ rest)) % binderAlignBytes = 0 ↔ 8 ∣ parcel.dataSize := by
  rw [dataSize_command filled,binderAlignBytes]
  omega

theorem aligned_other {bytes : List UInt8} (other : bytes.length ≠ 4+72) (written : after.output = before.output ++ [⟨owner,bytes⟩]) :
    Aligned before after := by
  intro segment member kind
  rw [written,List.drop_left] at member
  rw [List.mem_singleton.mp member] at kind
  exact absurd kind.2 other

/-- Of a command for a parcel that needs no buffers, or half of one, nothing is said. -/
theorem writeTransaction_aligned_iff {plain gathered : Nat} (kinds : plain = bcTransaction ∧ gathered = bcTransactionSg ∨
      plain = bcReply ∧ gathered = bcReplySg) (filled : 0 < total → 0 < parcel.dataSize)
    (written : after.output = (writeTransaction before.output owner (if 0 < total then gathered else plain) flags handle code parcel
      status total writes).1) :
    Aligned before after ↔ (0 < total ∧ writes.code = true ∧ writes.fields.headD true = true → 8 ∣ parcel.dataSize) := by
  unfold writeTransaction at written
  by_cases first : writes.code = true
  · by_cases second : writes.fields.headD true = true
    · by_cases buffers : 0 < total
      · simp only [first,second,not_true_eq_false,if_false,if_true,if_pos buffers,filled buffers] at written
        rw [Aligned,written,List.drop_left]
        have kind : IsScatterGather (toLE 4 gathered ++ (transactionData flags handle code parcel status ++ toLE 8 total)) := by
          refine ⟨?_,?_⟩
          · rw [List.take_left' (toLE_length 4 _)]
            rcases kinds with ⟨-,sg⟩ | ⟨-,sg⟩
            · exact .inl (congrArg _ sg)
            · exact .inr (congrArg _ sg)
          · rw [List.length_append,List.length_append,toLE_length,toLE_length,transactionData_length]
        constructor
        · intro aligned _
          exact (multiple_command (filled buffers) _).mp (aligned _ (List.mem_singleton_self _) kind)
        · intro multiple segment member _
          rw [List.mem_singleton.mp member]
          exact (multiple_command (filled buffers) _).mpr (multiple ⟨buffers,first,second⟩)
      · rw [if_neg (not_not_intro first),if_pos second,if_neg buffers,if_neg buffers] at written
        refine iff_of_true (aligned_other ?_ written) fun given => absurd given.1 buffers
        rw [List.length_append,toLE_length,transactionData_length]
        decide
    · rw [if_neg (not_not_intro first),if_neg second] at written
      refine iff_of_true (aligned_other ?_ written) fun given => absurd given.2.2 second
      rw [toLE_length]
      decide
  · rw [if_pos first] at written
    exact iff_of_true (aligned_same written) fun given => absurd given.2.1 first

end Command

section Translation
variable {process : Process}

/-- Buffers are counted only where the parcel has bytes. -/
theorem translateObjects_empty (objects : List Nat) (i total : Nat) :
    translateObjects process (.ofBytes []) 0 i objects total = some total := by
  have zero (offset : Nat) : (Memory.ofBytes []).read offset 4 ≠ Kernel.Translate.binderTypePtr := by
    have nothing : (Memory.ofBytes []).read offset 4 = 0 := rfl
    rw [nothing]
    decide
  induction objects generalizing i with
  | nil => rw [translateObjects]
  | cons offset objects ih =>
    rw [translateObjects,if_neg fun given => zero offset given.1]
    exact ih (i+1)

theorem filled_of_translated {parcel : ReplyParcel} {total : Nat} (buffers : 0 < total)
    (translated : Kernel.BinderTransaction.translateDBinderStub process parcel = some total) : 0 < parcel.bytes.length := by
  rw [Kernel.BinderTransaction.translateDBinderStub] at translated
  cases holds : parcel.bytes with
  | nil =>
    rw [holds,List.length_nil,translateObjects_empty] at translated
    cases translated
    exact absurd buffers (Nat.lt_irrefl 0)
  | cons byte bytes => exact Nat.succ_pos _

end Translation

section Padding
variable {process : Process} {total : Nat} {writeInt8 : Bool} {parcel padded : ReplyParcel}

/-- The padding reaches the next multiple of 8 only from the multiple of 4 in between. -/
theorem padParcel_length (made : padParcel process total writeInt8 parcel = some padded) :
    padded.bytes.length = parcel.bytes.length+(if 0 < total ∧ parcel.bytes.length % 8 ≠ 0 then 4 else 0) := by
  unfold padParcel binderAlignBytes at made
  split at made
  · rename_i odd
    split at made
    · cases made
      rw [if_pos odd,ReplyParcel.writeInt8,List.length_append]
      rfl
    · cases made
  · rename_i even
    cases made
    rw [if_neg even]
    rfl

/-- `Pad size` is what one write of a byte makes of a size that is not a multiple of 8. -/
def pad (size : Nat) : Nat := size+(if size % 8 ≠ 0 then 4 else 0)

theorem pad_of_buffers (buffers : 0 < total) (size : Nat) :
    size+(if 0 < total ∧ size % 8 ≠ 0 then 4 else 0) = pad size := by
  simp only [buffers,true_and,pad]

theorem pad_aligns_iff {size : Nat} : 8 ∣ pad size ↔ 4 ∣ size := by
  unfold pad
  split <;> omega

theorem trailer_misaligns (size : Nat) : ¬ 8 ∣ pad size+20 := by
  unfold pad
  split <;> omega

theorem padParcel_none_iff : padParcel process total writeInt8 parcel = none ↔
    0 < total ∧ parcel.bytes.length % 8 ≠ 0 ∧ writeInt8 = false := by
  unfold padParcel binderAlignBytes
  split
  · rename_i odd
    cases writeInt8 <;> simp [odd.1,odd.2]
  · rename_i even
    constructor
    · intro none_
      cases none_
    · intro given
      exact absurd ⟨given.1,given.2.1⟩ even

end Padding

section Calls
variable {process : Process} {invoker : Invoker}

/-- A parcel with buffers that is translated, padded where it has to be and written whole. -/
def Written (process : Process) (translated : Option Nat) (parcel : ReplyParcel) (writeInt8 : Bool) (writes : Writes) : Prop :=
  process.single = false ∧ (∃ total, 0 < total ∧ translated = some total) ∧ (parcel.bytes.length % 8 ≠ 0 → writeInt8 = true) ∧
    writes.code = true ∧ writes.fields.headD true = true

section Outcome
variable {translated : Option Nat} {parcel padded : ReplyParcel} {writeInt8 : Bool} {writes : Writes} {total : Nat}

theorem not_written_untranslated (none_ : (if process.single then some 0 else translated) = none) :
    ¬ Written process translated parcel writeInt8 writes := by
  rintro ⟨single,⟨total,-,rfl⟩,-⟩
  rw [single] at none_
  cases none_

theorem not_written_unpadded (none_ : padParcel process total writeInt8 parcel = none) : ¬ Written process translated parcel writeInt8 writes := by
  rintro ⟨single,-,pads,-⟩
  obtain ⟨-,odd,failed⟩ := padParcel_none_iff.mp none_
  rw [pads odd] at failed
  cases failed

theorem written_iff (made : (if process.single then some 0 else translated) = some total)
    (padding : padParcel process total writeInt8 parcel = some padded) :
    Written process translated parcel writeInt8 writes ↔ 0 < total ∧ writes.code = true ∧ writes.fields.headD true = true := by
  cases single : process.single with
  | true =>
    rw [single] at made
    cases made
    refine iff_of_false ?_ fun given => absurd given.1 (Nat.lt_irrefl 0)
    rintro ⟨other,-⟩
    rw [single] at other
    cases other
  | false =>
    rw [single] at made
    simp only [Bool.false_eq_true,if_false] at made
    constructor
    · rintro ⟨-,⟨other,buffers,same⟩,-,whole⟩
      rw [made] at same
      cases same
      exact ⟨buffers,whole⟩
    · rintro ⟨buffers,whole⟩
      refine ⟨single,⟨total,buffers,made⟩,?_,whole⟩
      intro odd
      by_contra failed
      rw [padParcel_none_iff.mpr ⟨buffers,odd,by simpa using failed⟩] at padding
      cases padding

theorem translated_of_buffers (made : (if process.single then some 0 else translated) = some total) (buffers : 0 < total) :
    translated = some total := by
  cases single : process.single with
  | true =>
    rw [single] at made
    cases made
    exact absurd buffers (Nat.lt_irrefl 0)
  | false =>
    rw [single] at made
    exact made

end Outcome

theorem sendRequest_output (request : Kernel.BinderInvoker.Request) (writes : Writes) (alive : Bool) :
    (invoker.sendRequest request writes alive).output = (writeTransaction invoker.output (some ⟨invoker.requests,request.sync⟩)
      (if 0 < request.totalDBinderBufSize then bcTransactionSg else bcTransaction) request.flags request.handle request.code
      request.parcel none request.totalDBinderBufSize writes).1 := by
  simp only [Invoker.sendRequest,apply_ite Invoker.output,ite_self]

theorem sendReply_output (reply : Reply) (writes : Writes) (alive : Bool) :
    (invoker.sendReply reply writes alive).output = (writeTransaction invoker.output none
      (if 0 < reply.totalDBinderBufSize then bcReplySg else bcReply) reply.flags 0xffffffff 0 reply.parcel (some reply.status)
      reply.totalDBinderBufSize writes).1 := by
  unfold Invoker.sendReply
  cases alive <;> rfl

theorem traceClientSend_length (handle : Int32) (data : List UInt8) (flags : UInt32) (traceId : Kernel.Hitrace.ThreadTrace)
    (sending : Kernel.Hitrace.Sending) :
    Appends handle flags traceId sending ∧ (traceClientSend handle data flags traceId sending).1.length = data.length+20 ∨
      ¬ Appends handle flags traceId sending ∧ (traceClientSend handle data flags traceId sending).1.length = data.length := by
  by_cases traced : Traced handle flags traceId sending
  · by_cases written : Hitrace.Written sending
    · refine .inl ⟨⟨traced,written⟩,?_⟩
      rw [traceClientSend_appends ⟨traced,written⟩,List.length_append,List.length_append,sending.childId.size,toLE_length,hitraceIdLen]
    · refine .inr ⟨fun appends => written appends.2,?_⟩
      rw [traceClientSend_givesUp traced written]
  · refine .inr ⟨fun appends => traced appends.1,?_⟩
    rw [traceClientSend_untraced traced]

theorem request_aligned_iff (request : Kernel.ScatterGather.Request) :
    Aligned invoker (sendRequest process invoker request) ↔
      (request.translateDBinderProxy = true ∧ Written process
          (translateDBinderStub process request.getDBinderCallingPidUid request.data) request.data request.writeInt8 request.writes →
        4 ∣ request.data.bytes.length ∧ ¬ Appends request.handle request.flags request.traceId request.sending) := by
  unfold sendRequest
  by_cases proxy : request.translateDBinderProxy = true
  · rw [if_neg (not_not_intro proxy)]
    split
    · rename_i untranslated
      exact iff_of_true (aligned_same rfl) fun given => absurd given.2 (not_written_untranslated untranslated)
    · rename_i total made
      split
      · rename_i unpadded
        exact iff_of_true (aligned_same rfl) fun given => absurd given.2 (not_written_unpadded unpadded)
      · rename_i padded padding
        have length := padParcel_length padding
        have sent := traceClientSend_length request.handle padded.bytes request.flags request.traceId request.sending
        have filled (buffers : 0 < total) : 0 < padded.bytes.length := by
          have some_ := filled_of_translated buffers (translated_of_buffers made buffers)
          omega
        rw [written_iff made padding]
        refine (writeTransaction_aligned_iff (.inl ⟨rfl,rfl⟩) ?_ (sendRequest_output _ _ _)).trans ?_
        · intro buffers
          have some_ := filled buffers
          change 0 < (traceClientSend _ _ _ _ _).1.length
          omega
        · change (_ → 8 ∣ (traceClientSend _ _ _ _ _).1.length) ↔ _
          constructor
          · rintro multiple ⟨-,buffers,whole⟩
            have whole_ := multiple ⟨buffers,whole⟩
            rcases sent with ⟨-,sent⟩ | ⟨kept,sent⟩
            · rw [sent,length,pad_of_buffers buffers] at whole_
              exact absurd whole_ (trailer_misaligns _)
            · rw [sent,length,pad_of_buffers buffers] at whole_
              exact ⟨pad_aligns_iff.mp whole_,kept⟩
          · rintro good ⟨buffers,whole⟩
            obtain ⟨words,kept⟩ := good ⟨proxy,buffers,whole⟩
            rcases sent with ⟨appends,-⟩ | ⟨-,sent⟩
            · exact absurd appends kept
            · rw [sent,length,pad_of_buffers buffers]
              exact pad_aligns_iff.mpr words
  · rw [if_pos proxy]
    exact iff_of_true (aligned_same rfl) fun given => absurd given.1 proxy

theorem reply_aligned_iff (reply : ReplyParcel) (flags : UInt32) (writeInt8 : Bool) (writes : Writes) :
    Aligned invoker (sendReply process invoker reply flags writeInt8 writes) ↔
      (Written process (Kernel.BinderTransaction.translateDBinderStub process reply) reply writeInt8 writes → 4 ∣ reply.bytes.length) := by
  unfold sendReply
  split
  · rename_i untranslated
    exact iff_of_true (aligned_same rfl) fun given => absurd given (not_written_untranslated untranslated)
  · rename_i total made
    split
    · rename_i unpadded
      exact iff_of_true (aligned_same rfl) fun given => absurd given (not_written_unpadded unpadded)
    · rename_i padded padding
      have length := padParcel_length padding
      rw [written_iff made padding]
      refine (writeTransaction_aligned_iff (.inr ⟨rfl,rfl⟩) ?_ (sendReply_output _ _ _)).trans ?_
      · intro buffers
        have some_ := filled_of_translated buffers (translated_of_buffers made buffers)
        change 0 < padded.bytes.length
        omega
      · change (_ → 8 ∣ padded.bytes.length) ↔ _
        apply forall_congr'
        rintro ⟨buffers,-⟩
        rw [length,pad_of_buffers buffers]
        exact pad_aligns_iff

/-- A request is misaligned by its trace identifier, whatever its size, and both by a size that is no multiple of 4. -/
theorem scatter_gather_aligned_iff (request : Kernel.ScatterGather.Request) (reply : ReplyParcel) (flags : UInt32) (writeInt8 : Bool)
    (writes : Writes) :
    (Aligned invoker (sendRequest process invoker request) ↔
      (request.translateDBinderProxy = true ∧ Written process
          (translateDBinderStub process request.getDBinderCallingPidUid request.data) request.data request.writeInt8 request.writes →
        4 ∣ request.data.bytes.length ∧ ¬ Appends request.handle request.flags request.traceId request.sending)) ∧
    (Aligned invoker (sendReply process invoker reply flags writeInt8 writes) ↔
      (Written process (Kernel.BinderTransaction.translateDBinderStub process reply) reply writeInt8 writes →
        4 ∣ reply.bytes.length)) :=
  ⟨request_aligned_iff request,reply_aligned_iff reply flags writeInt8 writes⟩

/-- Where all writes succeed, this is the reply of a transaction that was served. -/
theorem sendReply_succeed (reply : ReplyParcel) :
    sendReply process invoker reply 0 true .succeed = Kernel.BinderTransaction.sendReply process invoker reply := by
  unfold sendReply Kernel.BinderTransaction.sendReply
  generalize (if process.single = true then some 0 else Kernel.BinderTransaction.translateDBinderStub process reply) = translated
  cases translated with
  | none => rfl
  | some total =>
    by_cases odd : 0 < total ∧ reply.bytes.length % binderAlignBytes ≠ 0
    · simp only [padParcel,if_pos odd,if_true]
    · simp only [padParcel,if_neg odd]

end Calls

/-- A buffer for negotiation data and the object it is for: 40 and 24 bytes. -/
def databusObject : ReplyParcel :=
  ⟨toLE 4 Kernel.Translate.binderTypePtr ++ toLE 4 0 ++ toLE 8 0 ++ toLE 8 negotiationDataSize ++ toLE 8 0 ++ toLE 8 0 ++
    (toLE 4 Kernel.Translate.binderTypeBinder ++ toLE 4 0 ++ toLE 8 1 ++ toLE 8 1),[0,40],0,0⟩

def tracedProcess : Process := ⟨false,true,true,true,true,true,(1,1),fun _ _ _ => 0,false,0,0,true⟩

def tracedRequest : Kernel.ScatterGather.Request :=
  ⟨1,1,0,databusObject,true,true,true,⟨true,false⟩,⟨true,⟨List.replicate 16 1,rfl⟩,16,true,true⟩,0,.succeed⟩

/-- The 64 bytes are aligned; the identifier of 20 bytes behind them is not, and nothing is padded after it. -/
theorem traced_request_misaligned : ¬ Aligned .new (sendRequest tracedProcess .new tracedRequest) := by
  intro aligned
  have written : Written tracedProcess (translateDBinderStub tracedProcess true databusObject) databusObject true .succeed :=
    ⟨rfl,⟨416,by decide,by decide +kernel⟩,fun _ => rfl,rfl,rfl⟩
  exact ((request_aligned_iff tracedRequest).mp aligned ⟨rfl,written⟩).2 ⟨⟨by decide,rfl⟩,rfl,rfl,rfl⟩

end CommunicationIpc.ScatterGather
