import CommunicationIpc.Kernel.Translate
import CommunicationIpc.Package

/-! Where the translation of a received package reads and writes. -/
namespace CommunicationIpc.PackageBounds
open CommunicationIpc.Library CommunicationIpc.Kernel.Package CommunicationIpc.Kernel.Translate CommunicationIpc.Package

def Inside (limit : Nat) (accesses : List (Nat × Nat)) : Prop := ∀ access ∈ accesses, access.1+access.2 ≤ limit

theorem inside_snoc {limit address width : Nat} {accesses : List (Nat × Nat)} (inside : Inside limit accesses)
    (room : address+width ≤ limit) : Inside limit (accesses ++ [(address,width)]) := by
  intro access member
  rcases List.mem_append.mp member with old | new
  · exact inside access old
  · rw [List.mem_singleton] at new
    rw [new]
    exact room

theorem isOffsetInOrder_spec {bufferSize offset offsetIdx preOffset preObjectSize : Nat} (small : bufferSize ≤ socketMaxBuffSize)
    (inOrder : isOffsetInOrder bufferSize offset offsetIdx preOffset preObjectSize = true) :
    offset+objectHeaderSize < bufferSize := by
  simp only [isOffsetInOrder,decide_eq_true_eq,not_or,Nat.not_le] at inOrder
  obtain ⟨before,header,-⟩ := inOrder
  simp only [socketMaxBuffSize] at small
  rwa [wrap64_of_lt (by simp only [objectHeaderSize]; omega)] at header

theorem getRemoteObjectSize_le (objType : Nat) : getRemoteObjectSize objType ≤ 40 := by
  unfold getRemoteObjectSize
  split
  · decide
  · split <;> decide

theorem isValidRemoteObjectOffset_spec {memory : Memory} {layout : Layout}
    {offset offsetIdx preOffset preObjectSize size : Nat} (small : layout.bufferSize ≤ socketMaxBuffSize)
    (valid : isValidRemoteObjectOffset memory layout offset offsetIdx preOffset preObjectSize = some size) :
    isOffsetInOrder layout.bufferSize offset offsetIdx preOffset preObjectSize = true ∧
      size = getRemoteObjectSize (memory.read (layout.dataBuffer+offset) 4) ∧ 0 < size ∧
      offset+size ≤ layout.bufferSize := by
  unfold isValidRemoteObjectOffset at valid
  split at valid
  · cases valid
  rename_i inOrder
  simp only [Decidable.not_not] at inOrder
  have header := isOffsetInOrder_spec small inOrder
  have size_le := getRemoteObjectSize_le (memory.read (layout.dataBuffer+offset) 4)
  simp only at valid
  split at valid
  · cases valid
  rename_i fits
  cases valid
  simp only [not_or,Nat.not_lt] at fits
  simp only [socketMaxBuffSize] at small
  rw [wrap64_of_lt (by omega)] at fits
  exact ⟨inOrder,rfl,by omega,fits.2⟩

theorem isValidRemoteObjectOffset_narrow {layout : Layout} (narrow : layout.bufferSize < flatBinderObjectSize) (memory : Memory)
    (offset offsetIdx preOffset preObjectSize : Nat) :
    isValidRemoteObjectOffset memory layout offset offsetIdx preOffset preObjectSize = none := by
  have small : layout.bufferSize ≤ socketMaxBuffSize := by
    simp only [flatBinderObjectSize,socketMaxBuffSize] at narrow ⊢
    omega
  cases valid : isValidRemoteObjectOffset memory layout offset offsetIdx preOffset preObjectSize with
  | none => rfl
  | some size =>
    obtain ⟨-,known,positive,room⟩ := isValidRemoteObjectOffset_spec small valid
    have large : flatBinderObjectSize ≤ size := by
      rw [known] at positive ⊢
      unfold getRemoteObjectSize at positive ⊢
      split at positive
      · rename_i flat
        rw [if_pos flat]
      · rename_i other
        rw [if_neg other]
        split at positive
        · rename_i pointer
          rw [if_pos pointer]
          decide
        · cases positive
    omega

/-- The package covers the buffer, the offset table and a slot for each object. -/
structure Covers (layout : Layout) (limit : Nat) : Prop where
  small : layout.bufferSize ≤ socketMaxBuffSize
  buffer : layout.dataBuffer+layout.bufferSize ≤ limit
  table : ∀ i < layout.objCount, layout.entryAddress i+binderSize ≤ limit
  slots : ∀ i < layout.objCount, layout.flatOffset+i*flatSessionLen+flatSessionLen ≤ limit

section Loop
variable {layout : Layout} {limit : Nat} (handleOf : Session → Nat)

theorem inside_translateRemoteHandleType {receiver : Receiver} (inside : Inside limit receiver.accesses) (i object : Nat)
    {slot : Nat} (room : slot+flatSessionLen ≤ limit) :
    Inside limit (receiver.translateRemoteHandleType handleOf i object slot).accesses := by
  have touched := inside_snoc inside room
  simp only [Receiver.translateRemoteHandleType]
  split
  · split <;> exact touched
  · exact inside

theorem getRemoteObjectSize_flat {objType : Nat} (flat : objType = binderTypeBinder ∨ objType = binderTypeHandle ∨
    objType = binderTypeFd ∨ objType = binderTypeRemoteHandle ∨ objType = binderTypeFdr) :
    getRemoteObjectSize objType = flatBinderObjectSize := by
  rw [getRemoteObjectSize,if_pos flat]

theorem inside_receiveObject (covers : Covers layout limit) {receiver : Receiver} (inside : Inside limit receiver.accesses)
    {i offset : Nat} (counted : i < layout.objCount)
    (room : offset+getRemoteObjectSize (receiver.memory.read (layout.dataBuffer+offset) 4) ≤ layout.bufferSize)
    (header : offset+objectHeaderSize < layout.bufferSize) :
    Inside limit (receiver.receiveObject handleOf layout i (layout.dataBuffer+offset)).2.accesses := by
  have buffer := covers.buffer
  have slot := covers.slots i counted
  generalize known : receiver.memory.read (layout.dataBuffer+offset) 4 = objType at room
  have opened (flat : objType = binderTypeBinder ∨ objType = binderTypeHandle ∨ objType = binderTypeFd ∨
      objType = binderTypeRemoteHandle ∨ objType = binderTypeFdr) :
      Inside limit (receiver.touch (layout.dataBuffer+offset) flatBinderObjectSize).accesses := by
    rw [getRemoteObjectSize_flat flat] at room
    exact inside_snoc inside (by omega)
  simp only [Receiver.receiveObject,known]
  split
  · rename_i binder
    exact opened (.inl binder)
  split
  · rename_i handle
    exact opened (.inr (.inl handle))
  split
  · rename_i remote
    have touched := opened (.inr (.inr (.inr (.inl remote))))
    dsimp only
    exact inside_translateRemoteHandleType handleOf touched i (layout.dataBuffer+offset) slot
  split
  · rename_i fd
    exact opened (.inr (.inr (.inl fd)))
  split
  · rename_i fdr
    exact opened (.inr (.inr (.inr (.inr fdr))))
  · exact inside_snoc inside (by omega)

theorem inside_loop (covers : Covers layout limit) (count : Nat) {i preOffset preObjectSize : Nat} {receiver : Receiver}
    (counted : i+count = layout.objCount) (inside : Inside limit receiver.accesses) :
    Inside limit (Receiver.loop handleOf layout count i preOffset preObjectSize receiver).2.accesses := by
  induction count generalizing i preOffset preObjectSize receiver with
  | zero => exact inside
  | succ count ih =>
    have buffer := covers.buffer
    have fetched : Inside limit (receiver.touch (layout.entryAddress i) binderSize).accesses :=
      inside_snoc inside (covers.table i (by omega))
    simp only [Receiver.loop]
    generalize receiver.memory.read (layout.entryAddress i) binderSize = offset
    cases inOrder : isOffsetInOrder layout.bufferSize offset i preOffset preObjectSize with
    | false =>
      have refused : isValidRemoteObjectOffset receiver.memory layout offset i preOffset preObjectSize = none := by
        simp only [isValidRemoteObjectOffset,inOrder,Bool.false_eq_true,not_false_eq_true,if_true]
      rw [refused]
      exact fetched
    | true =>
      have header := isOffsetInOrder_spec covers.small inOrder
      have looked : Inside limit ((receiver.touch (layout.entryAddress i) binderSize).touch (layout.dataBuffer+offset)
          objectHeaderSize).accesses :=
        inside_snoc fetched (by omega)
      cases valid : isValidRemoteObjectOffset receiver.memory layout offset i preOffset preObjectSize with
      | none => exact looked
      | some size =>
        obtain ⟨-,known,-,room⟩ := isValidRemoteObjectOffset_spec covers.small valid
        rw [known] at room
        have received := inside_receiveObject handleOf covers looked (show i < layout.objCount by omega) room header
        simp only [if_true]
        split
        · rename_i stopped result
          rw [result] at received
          exact received
        · rename_i next result
          rw [result] at received
          exact ih (by omega) received

end Loop

theorem covers_of_plain {tr : TransactionData} (accepted : checkTransactionData tr = true)
    (plain : hasFlag tr.flags tfStatusCode = false) : Covers (layoutOf tr) tr.sizeOfSelf := by
  obtain ⟨limited,-,start,covered,-,sizes⟩ := checkTransactionData_spec accepted
  have whole := sizes plain
  have flat : (layoutOf tr).flatOffset = headerSize+(tr.bufferSize+tr.offsetsSize) := by
    simp only [Layout.flatOffset,layoutOf,wrap32]
    rw [Nat.mod_eq_of_lt]
    simp only [socketMaxBuffSize] at limited
    omega
  refine ⟨?_,covered,?_,?_⟩
  · simp only [layoutOf,headerSize] at covered ⊢
    omega
  · intro i counted
    simp only [Layout.objCount,Layout.entryAddress,layoutOf,binderSize] at counted ⊢
    omega
  · intro i counted
    rw [flat]
    simp only [Layout.objCount,layoutOf,binderSize,flatSessionLen] at counted ⊢
    omega

theorem status_accesses (handleOf : Session → Nat) {tr : TransactionData} (accepted : checkTransactionData tr = true)
    (status : hasFlag tr.flags tfStatusCode = true) (memory : Memory) (entries : binderSize ≤ tr.offsetsSize) :
    ∃ rest, (iRemoteObjectTranslateWhenRcv handleOf memory (layoutOf tr)).2.accesses =
        (headerSize+binderSize,binderSize) :: rest ∧ Inside (headerSize+binderSize) rest := by
  obtain ⟨limited,-,start,-,eight,-⟩ := checkTransactionData_spec accepted
  have width := eight status
  have small : (layoutOf tr).bufferSize ≤ socketMaxBuffSize := by
    simp only [layoutOf,width]
    decide
  have entry : (layoutOf tr).entryAddress 0 = headerSize+binderSize := by
    simp only [Layout.entryAddress,layoutOf,start,width,Nat.zero_mul,Nat.add_zero]
  obtain ⟨count,counted⟩ : ∃ count, (layoutOf tr).objCount = count+1 := by
    refine ⟨(layoutOf tr).objCount-1,?_⟩
    simp only [Layout.objCount,layoutOf,binderSize] at entries ⊢
    omega
  rw [iRemoteObjectTranslateWhenRcv,counted]
  simp only [Receiver.loop]
  generalize memory.read ((layoutOf tr).entryAddress 0) binderSize = offset
  have refused : isValidRemoteObjectOffset memory (layoutOf tr) offset 0 0 0 = none := by
    apply isValidRemoteObjectOffset_narrow
    simp only [layoutOf,width]
    decide
  rw [refused,entry]
  cases inOrder : isOffsetInOrder (layoutOf tr).bufferSize offset 0 0 0 with
  | false => exact ⟨[],rfl,fun _ member => by cases member⟩
  | true =>
    have header := isOffsetInOrder_spec small inOrder
    refine ⟨[(headerSize+offset,objectHeaderSize)],rfl,?_⟩
    intro access member
    rw [List.mem_singleton] at member
    subst member
    simp only [layoutOf,width] at header ⊢
    omega

def translationAccesses (handleOf : Session → Nat) (memory : Memory) : List (Nat × Nat) :=
  if (TransactionData.decode memory).cmd = bcTransaction then (processTransaction handleOf memory).2.accesses
  else (handleReply handleOf memory).2.accesses

/-- A transaction that claims a status code and an offset table, and is too short for its first entry. -/
def Truncated (tr : TransactionData) : Prop :=
  tr.cmd = bcTransaction ∧ hasFlag tr.flags tfStatusCode = true ∧ binderSize ≤ tr.offsetsSize ∧
    tr.sizeOfSelf < headerSize+2*binderSize

theorem hasCompletePackage_spec {memory : Memory} {received : Nat} (complete : hasCompletePackage memory received ≠ 0) :
    checkTransactionData (TransactionData.decode memory) = true ∧ (TransactionData.decode memory).sizeOfSelf ≤ received := by
  unfold hasCompletePackage at complete
  split at complete
  · exact absurd rfl complete
  simp only at complete
  split at complete
  · rename_i checks
    exact ⟨checks.2.2.2,checks.2.2.1⟩
  · exact absurd rfl complete

/-- Every byte touched while an accepted package is translated lies in the package, except when
the package is a transaction with a status code that is too short for the entry it is read for. -/
theorem translation_inside_iff (handleOf : Session → Nat) {memory : Memory} {received : Nat}
    (complete : hasCompletePackage memory received ≠ 0)
    (command : (TransactionData.decode memory).cmd = bcTransaction ∨ (TransactionData.decode memory).cmd = bcReply) :
    Inside (TransactionData.decode memory).sizeOfSelf (translationAccesses handleOf memory) ↔
      ¬ Truncated (TransactionData.decode memory) := by
  obtain ⟨accepted,-⟩ := hasCompletePackage_spec complete
  obtain ⟨-,positive,-,covered,eight,-⟩ := checkTransactionData_spec accepted
  unfold translationAccesses processTransaction handleReply
  generalize TransactionData.decode memory = tr at *
  have filled : tr.bufferSize ≠ 0 := by omega
  simp only [filled,if_false]
  cases status : hasFlag tr.flags tfStatusCode with
  | false =>
    have covers := covers_of_plain accepted status
    have inside : Inside tr.sizeOfSelf (iRemoteObjectTranslateWhenRcv handleOf memory (layoutOf tr)).2.accesses :=
      inside_loop handleOf covers _ (Nat.zero_add _) (fun _ member => by cases member)
    have regular : ¬ Truncated tr := fun truncated => by simp [Truncated,status] at truncated
    simp only [Bool.false_eq_true,if_false,ite_self,regular,not_false_eq_true,iff_true]
    exact inside
  | true =>
    rcases command with transaction | answer
    · rw [if_pos transaction]
      by_cases entries : binderSize ≤ tr.offsetsSize
      · obtain ⟨rest,accesses,behind⟩ := status_accesses handleOf accepted status memory entries
        have width := eight status
        simp only [Truncated,transaction,status,entries,true_and,Nat.not_lt]
        rw [accesses]
        constructor
        · intro inside
          have first := inside _ (List.mem_cons_self ..)
          simp only [headerSize,binderSize] at first ⊢
          omega
        · intro long access member
          rcases List.mem_cons.mp member with rfl | later
          · simp only [headerSize,binderSize] at long ⊢
            omega
          · have before := behind access later
            omega
      · have none : (layoutOf tr).objCount = 0 := by
          simp only [Layout.objCount,layoutOf,binderSize] at entries ⊢
          omega
        have regular : ¬ Truncated tr := fun truncated => entries truncated.2.2.1
        simp only [iRemoteObjectTranslateWhenRcv,none,Receiver.loop,regular,not_false_eq_true,iff_true]
        exact fun _ member => by cases member
    · have other : tr.cmd ≠ bcTransaction := by
        rw [answer]
        decide
      have regular : ¬ Truncated tr := fun truncated => other truncated.1
      simp only [other,if_false,if_true,regular,not_false_eq_true,iff_true]
      exact fun _ member => by cases member

def samplePackage (sizeOfSelf flags bufferSize offsetsSize : Nat) (body : List UInt8) : Memory := fun i =>
  (toLE 4 sizeOfSelf ++ toLE 4 dbinderMagicword ++ toLE 4 2 ++ toLE 4 bcTransaction ++ toLE 4 1 ++ toLE 4 flags ++
    toLE 8 7 ++ toLE 8 1 ++ toLE 8 bufferSize ++ toLE 8 offsetsSize ++ toLE 8 bufferSize ++ body).getD i 0

def sampleFd : Memory := samplePackage 384 0 32 8 (toLE 4 binderTypeFdr ++ List.replicate 28 0)

theorem translation_inside_iff_sample :
    translationAccesses (fun _ => 0) sampleFd = [(96,8),(64,4),(64,24)] ∧
      Inside (TransactionData.decode sampleFd).sizeOfSelf (translationAccesses (fun _ => 0) sampleFd) := by
  refine ⟨by decide +kernel,(translation_inside_iff (fun _ => 0) (show hasCompletePackage sampleFd 384 ≠ 0 by decide +kernel)
    (.inl (by decide +kernel))).mpr ?_⟩
  intro holds
  obtain ⟨-,status,-⟩ := holds
  exact absurd status (by decide +kernel)

/-- A package of 72 bytes with a status code: the entry at 72 is read behind its end. -/
theorem status_package_overread :
    hasCompletePackage (samplePackage 72 tfStatusCode 8 8 (toLE 8 0)) 72 = 72 ∧
      (TransactionData.decode (samplePackage 72 tfStatusCode 8 8 (toLE 8 0))).cmd = bcTransaction ∧
      (72,8) ∈ translationAccesses (fun _ => 0) (samplePackage 72 tfStatusCode 8 8 (toLE 8 0)) ∧
      ¬ Inside 72 (translationAccesses (fun _ => 0) (samplePackage 72 tfStatusCode 8 8 (toLE 8 0))) := by
  have read : (72,8) ∈ translationAccesses (fun _ => 0) (samplePackage 72 tfStatusCode 8 8 (toLE 8 0)) := by decide +kernel
  exact ⟨by decide +kernel,by decide +kernel,read,fun inside => absurd (inside _ read) (by decide)⟩

end CommunicationIpc.PackageBounds
