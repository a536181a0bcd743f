import CommunicationIpc.Kernel.Marshal
import CommunicationIpc.SessionSlots

/-! What marshalling a parcel leaves of the header it started from. -/
namespace CommunicationIpc.Marshal
open CommunicationIpc.Library CommunicationIpc.Kernel.Package CommunicationIpc.Kernel.Translate CommunicationIpc.Kernel.Marshal
open CommunicationIpc.SessionSlots CommunicationIpc.Package

/-- Same magic, version, command, code, flags, cookie and sequence number. -/
def SameKind (memory other : Memory) : Prop := ∀ x, 4 ≤ x → x < 40 → other x = memory x

theorem SameKind.trans {first second third : Memory} (left : SameKind first second) (right : SameKind second third) :
    SameKind first third := fun x low high => (right x low high).trans (left x low high)

theorem SameKind.read {memory other : Memory} (same : SameKind memory other) {address width : Nat} (low : 4 ≤ address)
    (high : address+width ≤ 40) : other.read address width = memory.read address width :=
  Memory.read_congr fun x above below => same x (by omega) (by omega)

theorem SameKind.refl (memory : Memory) : SameKind memory memory := fun _ _ _ => rfl

theorem SameKind.write {memory other : Memory} (same : SameKind memory other) {address width value : Nat}
    (apart : address+width ≤ 4 ∨ 40 ≤ address) : SameKind memory (other.write address width value) := by
  intro x low high
  rw [Memory.write_outside (by omega)]
  exact same x low high

theorem SameKind.writeBytes {memory other : Memory} (same : SameKind memory other) {address : Nat} {bytes : List UInt8}
    (behind : headerSize ≤ address) : SameKind memory (other.writeBytes address bytes) := by
  intro x low high
  simp only [headerSize] at behind
  rw [Memory.writeBytes_outside (by omega)]
  exact same x low high

theorem sameKind_shiftOffsets {base : Nat} (behind : 40 ≤ base) (count j : Nat) (memory : Memory) :
    SameKind memory (shiftOffsets base count j memory) := by
  induction count generalizing j memory with
  | zero => exact SameKind.refl memory
  | succ count ih => exact ((SameKind.refl memory).write (.inr (by omega))).trans (ih (j+1) _)

theorem sameKind_removePtr {objCount i : Nat} {memory after : Memory} (removed : removePtr objCount i memory = some after) :
    SameKind memory after := by
  simp only [removePtr] at removed
  split at removed
  · cases removed
    exact SameKind.refl memory
  split at removed
  · cases removed
  cases removed
  have behind : 40 ≤ headerSize+(TransactionData.decode memory).bufferSize := by
    simp only [headerSize]
    omega
  have shifted := sameKind_shiftOffsets behind (objCount-1-i) i memory
  refine SameKind.write ?_ (.inl (by decide))
  refine SameKind.writeBytes ?_ (by omega)
  refine SameKind.write ?_ (.inr (by decide))
  refine SameKind.write ?_ (.inr (by decide))
  refine SameKind.writeBytes ?_ (by omega)
  exact shifted.write (.inr (by decide))

theorem sameKind_removeDBinderPtrData {memory after : Memory} (removed : removeDBinderPtrData memory = some after) :
    SameKind memory after := by
  unfold removeDBinderPtrData at removed
  generalize (TransactionData.decode memory).offsetsSize/binderSize = objCount at removed
  have loop (turns : List Nat) {before : Memory}
      (result : turns.foldlM (fun memory i => removePtr objCount i memory) before = some after) : SameKind before after := by
    induction turns generalizing before with
    | nil =>
      cases result
      exact SameKind.refl after
    | cons turn turns ih =>
      rw [List.foldlM_cons] at result
      obtain ⟨middle,first,rest⟩ := Option.bind_eq_some_iff.mp result
      exact (sameKind_removePtr first).trans (ih rest)
  exact loop _ removed

/-- The two ways a parcel becomes a package: its data, translated, or its status. -/
theorem moveMessageParcel2TransData_cases {sessionOf : Nat → Nat → Nat → Nat → Option Session} {data : MessageParcel}
    {memory after : Memory} {status : Int} (moved : moveMessageParcel2TransData sessionOf data memory status = some after) :
    (∃ removed sender, SameKind memory removed ∧ checkTransactionData (TransactionData.decode removed) = true ∧
      iRemoteObjectTranslateWhenSend sessionOf removed (layoutOf (TransactionData.decode removed)) = (true,sender) ∧
      after = sender.memory) ∨
    (data.data = [] ∧ after = (((memory.write 20 4 ((TransactionData.decode memory).flags ||| tfStatusCode)).write 40 8
      binderSize).write 48 8 (status % 2^64).toNat).write 56 8 binderSize) := by
  simp only [moveMessageParcel2TransData] at moved
  split at moved
  · split at moved
    · cases moved
    split at moved
    · cases moved
    rename_i removed kept
    split at moved
    · cases moved
    rename_i accepted
    split at moved
    · cases moved
    rename_i sender sent
    cases moved
    rw [not_not] at accepted
    refine .inl ⟨removed,sender,?_,accepted,sent,rfl⟩
    refine SameKind.trans ?_ (sameKind_removeDBinderPtrData kept)
    refine SameKind.write ?_ (.inr (by decide))
    refine SameKind.write ?_ (.inr (by decide))
    refine SameKind.writeBytes ?_ (by omega)
    refine SameKind.writeBytes ?_ (by omega)
    exact (SameKind.refl memory).write (.inr (by decide))
  · rename_i empty
    cases moved
    exact .inr ⟨not_not.mp empty,rfl⟩

theorem processNormalData_header {sessionOf : Nat → Nat → Nat → Nat → Option Session} {data : MessageParcel}
    {cookie seqNum cmd code flags : Nat} {status : Int} {package : Memory}
    (made : processNormalData sessionOf data cookie seqNum cmd code flags status = some package) :
    (TransactionData.decode package).cmd = cmd % 256^4 ∧ (TransactionData.decode package).seqNumber = seqNum % 256^8 := by
  simp only [processNormalData] at made
  generalize wrap32 _ = sendSize at made
  generalize started : (constructTransData sendSize seqNum cmd code flags).write 24 8 cookie = memory at made
  have command : memory.read 12 4 = cmd % 256^4 := by
    rw [← started,constructTransData]
    simp (disch := decide) only [Memory.read_write_apart]
    exact Memory.read_write _ _ _ _
  have number : memory.read 32 8 = seqNum % 256^8 := by
    rw [← started,constructTransData]
    simp (disch := decide) only [Memory.read_write_apart]
    exact Memory.read_write _ _ _ _
  rw [← command,← number]
  simp only [TransactionData.decode]
  rcases moveMessageParcel2TransData_cases made with ⟨removed,sender,filled,accepted,sent,rfl⟩ | ⟨-,rfl⟩
  · have translated : SameKind removed sender.memory := by
      intro x _ high
      apply header_of_translated accepted sent
      simp only [headerSize]
      omega
    have same := filled.trans translated
    exact ⟨same.read (by decide) (by decide),same.read (by decide) (by decide)⟩
  · constructor
    · simp (disch := decide) only [Memory.read_write_apart]
    · simp (disch := decide) only [Memory.read_write_apart]

theorem processNormalData_size {sessionOf : Nat → Nat → Nat → Nat → Option Session} {data : MessageParcel}
    {cookie seqNum cmd code flags : Nat} {status : Int} {package : Memory}
    (made : processNormalData sessionOf data cookie seqNum cmd code flags status = some package) : 0 < package.read 0 4 := by
  simp only [processNormalData] at made
  rcases moveMessageParcel2TransData_cases made with ⟨removed,sender,-,accepted,sent,rfl⟩ | ⟨empty,rfl⟩
  · have same : sender.memory.read 0 4 = (TransactionData.decode removed).sizeOfSelf := by
      apply Memory.read_congr
      intro x _ high
      apply header_of_translated accepted sent
      simp only [headerSize]
      omega
    have covered := (checkTransactionData_spec accepted).2.2.2.1
    simp only [headerSize] at covered
    omega
  · simp (disch := decide) only [Memory.read_write_apart,constructTransData]
    rw [Memory.read_write]
    simp only [empty,List.length_nil,Nat.lt_irrefl,if_false,wrap32,headerSize,binderSize,flatSessionLen]
    omega

end CommunicationIpc.Marshal
