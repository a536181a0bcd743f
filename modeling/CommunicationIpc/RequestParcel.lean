import CommunicationIpc.ScatterGather

/-! The data parcel that `SendRequest` leaves to its caller. The position it goes back to is remembered behind the padding, so that
the trace identifier is taken off again and the padding is not. -/
namespace CommunicationIpc.RequestParcel
open CommunicationIpc.Library CommunicationIpc.Kernel.BinderInvoker CommunicationIpc.Kernel.ScatterGather CommunicationIpc.ScatterGather
open CommunicationIpc.Kernel.BinderTransaction (Process ReplyParcel)
open CommunicationIpc.Kernel.Hitrace (ThreadTrace Sending traceClientSend)
open CommunicationIpc.Kernel.CommandStream (Parcel.rewindWrite)

/-- The bytes up to the write position and the objects among them. -/
structure Kept (before after : ReplyParcel) : Prop where
  bytes : after.bytes = before.bytes
  objects : after.objects = before.objects

/-- A parcel with a buffer for negotiation data whose size is no multiple of 8, and which is padded. -/
structure Padded (process : Process) (request : Kernel.ScatterGather.Request) : Prop where
  proxies : request.translateDBinderProxy = true
  rpc : process.single = false
  buffers : ∃ total, 0 < total ∧ translateDBinderStub process request.getDBinderCallingPidUid request.data = some total
  size : request.data.bytes.length % 8 ≠ 0
  written : request.writeInt8 = true

section Parts
variable {process : Process} {invoker : Invoker} {request : Kernel.ScatterGather.Request}

/-- The identifier is appended to the data, or they are as they were. -/
theorem traceClientSend_front (handle : Int32) (data : List UInt8) (flags : UInt32) (traceId : ThreadTrace) (sending : Sending) :
    Parcel.rewindWrite (traceClientSend handle data flags traceId sending).1 data.length = data := by
  unfold Parcel.rewindWrite
  by_cases traced : Hitrace.Traced handle flags traceId sending
  · by_cases written : Hitrace.Written sending
    · rw [Hitrace.traceClientSend_appends ⟨traced,written⟩,List.take_left]
    · rw [Hitrace.traceClientSend_givesUp traced written,List.take_length]
  · rw [Hitrace.traceClientSend_untraced traced,List.take_length]

theorem sendRequestParcel_invoker : (sendRequestParcel process invoker request).1 = sendRequest process invoker request := by
  unfold sendRequestParcel sendRequest
  split
  · rfl
  · split
    · rfl
    · split
      · rfl
      · rfl

theorem sendRequestParcel_kept (invoker : Invoker) {total : Nat} {padded : ReplyParcel} (proxies : request.translateDBinderProxy = true)
    (translated : (if process.single then some 0 else translateDBinderStub process request.getDBinderCallingPidUid request.data) =
      some total)
    (padding : padParcel process total request.writeInt8 request.data = some padded) :
    Kept padded (sendRequestParcel process invoker request).2 := by
  unfold sendRequestParcel
  rw [if_neg (not_not_intro proxies),translated]
  dsimp only
  rw [padding]
  exact ⟨traceClientSend_front _ _ _ _ _,rfl⟩

theorem not_padded_of_none (translated : (if process.single then some 0
      else translateDBinderStub process request.getDBinderCallingPidUid request.data) = none) : ¬ Padded process request := by
  intro padded
  obtain ⟨total,-,found⟩ := padded.buffers
  rw [padded.rpc,found] at translated
  cases translated

theorem padded_iff {total : Nat} (proxies : request.translateDBinderProxy = true)
    (translated : (if process.single then some 0 else translateDBinderStub process request.getDBinderCallingPidUid request.data) =
      some total) :
    Padded process request ↔ (0 < total ∧ request.data.bytes.length % 8 ≠ 0) ∧ request.writeInt8 = true := by
  constructor
  · intro padded
    obtain ⟨other,buffers,found⟩ := padded.buffers
    rw [padded.rpc,found] at translated
    cases translated
    exact ⟨⟨buffers,padded.size⟩,padded.written⟩
  · rintro ⟨⟨buffers,size⟩,written⟩
    cases single : process.single with
    | true =>
      rw [single] at translated
      cases translated
      exact absurd buffers (Nat.lt_irrefl 0)
    | false =>
      rw [single] at translated
      exact ⟨proxies,single,⟨total,buffers,translated⟩,size,written⟩

end Parts

/-- The parcel has the bytes and objects it had before the call, if it was not padded. -/
theorem request_parcel_kept_iff (process : Process) (invoker : Invoker) (request : Kernel.ScatterGather.Request) :
    Kept request.data (sendRequestParcel process invoker request).2 ↔ ¬ Padded process request := by
  by_cases proxies : request.translateDBinderProxy = true
  · cases translated : if process.single then some 0 else translateDBinderStub process request.getDBinderCallingPidUid request.data with
    | none =>
      have same : (sendRequestParcel process invoker request).2 = request.data := by
        unfold sendRequestParcel
        rw [if_neg (not_not_intro proxies),translated]
      rw [same]
      exact iff_of_true ⟨rfl,rfl⟩ (not_padded_of_none translated)
    | some total =>
      rw [padded_iff proxies translated]
      cases padding : padParcel process total request.writeInt8 request.data with
      | none =>
        have same : (sendRequestParcel process invoker request).2 = request.data := by
          unfold sendRequestParcel
          rw [if_neg (not_not_intro proxies),translated]
          dsimp only
          rw [padding]
        rw [same]
        refine iff_of_true ⟨rfl,rfl⟩ fun given => ?_
        have failed := (padParcel_none_iff.mp padding).2.2
        rw [given.2] at failed
        cases failed
      | some padded =>
        have kept := sendRequestParcel_kept invoker proxies translated padding
        have length := padParcel_length padding
        by_cases odd : 0 < total ∧ request.data.bytes.length % 8 ≠ 0
        · rw [if_pos odd] at length
          have written : request.writeInt8 = true := by
            by_contra failed
            rw [padParcel_none_iff.mpr ⟨odd.1,odd.2,Bool.eq_false_iff.mpr failed⟩] at padding
            cases padding
          refine iff_of_false ?_ fun unpadded => unpadded ⟨odd,written⟩
          intro same
          rw [← kept.bytes,same.bytes] at length
          omega
        · rw [padParcel,Kernel.BinderTransaction.binderAlignBytes,if_neg odd] at padding
          cases padding
          exact iff_of_true kept fun given => odd given.1
  · have same : (sendRequestParcel process invoker request).2 = request.data := by
      unfold sendRequestParcel
      rw [if_pos proxies]
    rw [same]
    exact iff_of_true ⟨rfl,rfl⟩ fun padded => proxies padded.proxies

/-- A buffer for negotiation data and its object, and a word behind them: 68 bytes. -/
def wordBehindObject : ReplyParcel := { databusObject with bytes := databusObject.bytes ++ [7,0,0,0] }

/-- A request without a trace identifier. -/
def wordRequest : Kernel.ScatterGather.Request := { tracedRequest with data := wordBehindObject, traceId := ⟨false,false⟩ }

/-- The caller finds four bytes more than it sent. -/
theorem padding_left : (sendRequestParcel tracedProcess .new wordRequest).2.bytes = wordBehindObject.bytes ++ [0,0,0,0] := by
  decide +kernel

end CommunicationIpc.RequestParcel
