import CommunicationIpc.Kernel.ReceiveBuffer
import CommunicationIpc.SendBuffer

/-! Growth of both halves of `BufferObject`: when a buffer that can hold the pending bytes and
`userDataSize` more is found. The receive half is carried over to the send half field by field. -/
namespace CommunicationIpc.BufferGrowth
open CommunicationIpc.Kernel.SendBuffer CommunicationIpc.Kernel.ReceiveBuffer CommunicationIpc.SendBuffer

def sendHalf (buffer : ReceiveHalf) : BufferObject :=
  ⟨buffer.receiveBuffer,buffer.recvBuffSize,buffer.recvBufferCursorW,buffer.recvBufferCursorR⟩

theorem sendHalf_moveReceiveBuffer (buffer : ReceiveHalf) :
    buffer.moveReceiveBuffer.map sendHalf id = (sendHalf buffer).moveSendBuffer := by
  obtain ⟨held,size,write,read⟩ := buffer
  cases held with
  | none => rfl
  | some bytes =>
    simp only [ReceiveHalf.moveReceiveBuffer,BufferObject.moveSendBuffer,sendHalf]
    cases memcpyS bytes 0 (write-read).toNat (bytes.drop read.toNat) (write-read).toNat with
    | none => rfl
    | some moved => rfl

theorem sendHalf_tryMemmoveReceiveBuffer (buffer : ReceiveHalf) :
    buffer.tryMemmoveReceiveBuffer.map sendHalf id = (sendHalf buffer).tryMemmoveSendBuffer := by
  have moved := sendHalf_moveReceiveBuffer buffer
  simp only [ReceiveHalf.tryMemmoveReceiveBuffer,BufferObject.tryMemmoveSendBuffer,← moved]
  by_cases compacting : buffer.recvBuffSize-buffer.recvBufferCursorW < socketBuffReservedSize ∧
      buffer.recvBufferCursorW-buffer.recvBufferCursorR < buffer.recvBufferCursorR ∧
      0 < buffer.recvBufferCursorW-buffer.recvBufferCursorR
  · rw [if_pos compacting,if_pos (by exact compacting)]
  · rw [if_neg compacting,if_neg (by exact compacting)]
    rfl

theorem sendHalf_memmoveReceiveBufferIfInsufficient (buffer : ReceiveHalf) (userDataSize : Nat) :
    (buffer.memmoveReceiveBufferIfInsufficient userDataSize).map sendHalf id =
      (sendHalf buffer).memmoveSendBufferIfInsufficient userDataSize := by
  have moved := sendHalf_moveReceiveBuffer buffer
  simp only [ReceiveHalf.memmoveReceiveBufferIfInsufficient,BufferObject.memmoveSendBufferIfInsufficient]
  have size : (sendHalf buffer).sendBuffSize-(sendHalf buffer).sendBufferCursorW =
      buffer.recvBuffSize-buffer.recvBufferCursorW := rfl
  rw [size]
  by_cases short : buffer.recvBuffSize-buffer.recvBufferCursorW ≤ userDataSize
  · simp only [short,if_true,← moved]
    obtain ⟨after,done⟩ := buffer.moveReceiveBuffer
    cases done with
    | false => rfl
    | true =>
      simp only [Prod.map,id,sendHalf]
      split <;> rfl
  · simp only [short,if_false,size]
    rfl

/-- On a size step both halves grow alike; a failure leaves the receive half with its cursors at 0. -/
theorem sendHalf_expandReceiveBuffer {buffer : ReceiveHalf} (formed : WellFormed (sendHalf buffer)) {level : Nat}
    (member : level ∈ bufferLevels) (allocation : Allocation) :
    (buffer.expandReceiveBuffer level allocation).2 = ((sendHalf buffer).expandSendBuffer level allocation).2 ∧
      sendHalf (buffer.expandReceiveBuffer level allocation).1 =
        if (buffer.expandReceiveBuffer level allocation).2 then ((sendHalf buffer).expandSendBuffer level allocation).1
        else ((sendHalf buffer).expandSendBuffer level allocation).1.resetSendCursors := by
  obtain ⟨fixed,limited,least⟩ := bufferLevels_spec member
  have positive : level ≠ 0 := by
    have : 0 < socketBuffSizeUserS := by decide
    omega
  have sized : 0 ≤ (sendHalf buffer).sendBuffSize := by rw [formed.backed]; omega
  have cast := toUInt32_of_small _ sized formed.limited
  have size : (sendHalf buffer).sendBuffSize = buffer.recvBuffSize := rfl
  by_cases fits : (level : Int) ≤ buffer.recvBuffSize
  · have small : ¬ level > toUInt32 (sendHalf buffer).sendBuffSize := by omega
    simp only [ReceiveHalf.expandReceiveBuffer,BufferObject.expandSendBuffer,fixed,positive,fits,small,if_true,if_false,and_self]
  · have grows : level > toUInt32 (sendHalf buffer).sendBuffSize := by omega
    simp only [ReceiveHalf.expandReceiveBuffer,BufferObject.expandSendBuffer,fixed,positive,fits,grows,if_true,if_false]
    cases newBuffer allocation level with
    | none => exact ⟨rfl,rfl⟩
    | some fresh =>
      obtain ⟨held,recvBuffSize,write,read⟩ := buffer
      cases held with
      | none => exact ⟨rfl,rfl⟩
      | some bytes =>
        simp only [sendHalf]
        by_cases filled : 0 < recvBuffSize
        · simp only [filled,if_true]
          cases memcpyS fresh 0 level bytes recvBuffSize.toNat with
          | none => exact ⟨rfl,rfl⟩
          | some copied => exact ⟨rfl,rfl⟩
        · simp only [filled,if_false,if_true,and_self]

/-- The size is one of the steps, bytes are pending, and they fit the largest step with `userDataSize` more. -/
structure Ready (buffer : BufferObject) (userDataSize : Nat) : Prop where
  formed : WellFormed buffer
  step : ∃ level ∈ bufferLevels, buffer.sendBuffSize = (level : Int)
  waiting : buffer.sendBufferCursorR < buffer.sendBufferCursorW
  needed : buffer.sendBufferCursorW-buffer.sendBufferCursorR+userDataSize+socketBuffReservedSize ≤ socketBuffSizeUserHuge

theorem firstLevel_mem {fits : Nat → Bool} (some_ : (bufferLevels.find? fits).getD 0 ≠ 0) :
    (bufferLevels.find? fits).getD 0 ∈ bufferLevels := by
  cases found : bufferLevels.find? fits with
  | none =>
    rw [found] at some_
    exact absurd rfl some_
  | some level => exact List.mem_of_find?_eq_some found

theorem getProgressiveBufferSize_mem (size : Nat) (grows : getProgressiveBufferSize size ≠ 0) :
    getProgressiveBufferSize size ∈ bufferLevels := by
  rw [getProgressiveBufferSize_eq] at grows ⊢
  exact firstLevel_mem grows

theorem getNeedBufferSize_mem (size : Nat) (within : getNeedBufferSize size ≠ 0) : getNeedBufferSize size ∈ bufferLevels := by
  rw [getNeedBufferSize_eq] at within ⊢
  exact firstLevel_mem within

/-- No smaller step would do. -/
theorem getNeedBufferSize_le {size step : Nat} (member : step ∈ bufferLevels) (enough : size ≤ step) : getNeedBufferSize size ≤ step := by
  have ascending : bufferLevels.Pairwise (· < ·) := by decide
  rw [getNeedBufferSize_eq]
  cases found : bufferLevels.find? (size ≤ ·) with
  | none => exact Nat.zero_le step
  | some level =>
    obtain ⟨-,front,back,split_,before⟩ := List.find?_eq_some_iff_append.mp found
    rw [split_] at member ascending
    rcases List.mem_append.mp member with early | late
    · have short := before step early
      simp only [enough,decide_true,Bool.not_true,Bool.false_eq_true] at short
    · rcases List.mem_cons.mp late with rfl | behind
      · exact le_rfl
      · exact le_of_lt ((List.pairwise_cons.mp (List.pairwise_append.mp ascending).2.1).1 step behind)

theorem getExpandedBufferSize_mem {current total : Nat} (level : current ∈ bufferLevels)
    (found : getExpandedBufferSize current total ≠ 0) : getExpandedBufferSize current total ∈ bufferLevels := by
  revert found
  simp only [getExpandedBufferSize]
  split_ifs with none larger equal
  · exact fun found => absurd rfl found
  · exact fun _ => getNeedBufferSize_mem total none
  · exact getProgressiveBufferSize_mem current
  · exact fun _ => level

/-- No larger step is left exactly when the largest one is in use and would be needed anyway. -/
theorem getExpandedBufferSize_eq_zero_iff {current total : Nat} (level : current ∈ bufferLevels)
    (within : total ≤ socketBuffSizeUserHuge) :
    getExpandedBufferSize current total = 0 ↔ current = socketBuffSizeUserHuge ∧ socketBuffSizeUser3L < total := by
  have last : getProgressiveBufferSize current = 0 ↔ current = socketBuffSizeUserHuge := by
    revert current
    decide
  have positive : 0 < socketBuffSizeUserS := by decide
  have some_ : getNeedBufferSize total ≠ 0 := by
    intro zero
    rcases getNeedBufferSize_spec total with ⟨-,beyond⟩ | ⟨-,-,enough,-⟩
    · omega
    · omega
  have highest : getNeedBufferSize total = socketBuffSizeUserHuge ↔ socketBuffSizeUser3L < total := by
    constructor
    · intro huge
      by_contra small
      have lower := getNeedBufferSize_le (by decide : socketBuffSizeUser3L ∈ bufferLevels) (not_lt.mp small)
      rw [huge] at lower
      exact absurd lower (by decide)
    · intro large
      have enough := (getNeedBufferSize_bounds some_).1
      have top : ∀ step ∈ bufferLevels, socketBuffSizeUser3L < step → step = socketBuffSizeUserHuge := by decide
      exact top _ (getNeedBufferSize_mem total some_) (by omega)
  have limited := (bufferLevels_spec level).2.1
  simp only [getExpandedBufferSize,some_,if_false]
  split_ifs with larger equal
  · exact iff_of_false some_ fun both => by
      have := (getNeedBufferSize_bounds some_).2.1
      omega
  · rw [last,← highest,equal,and_self]
  · refine iff_of_false (by omega) fun both => equal ?_
    rw [highest.mpr both.2,both.1]

theorem sendHalf_tryExpandReceiveBufferLocked {buffer : ReceiveHalf} {userDataSize : Nat}
    (ready : Ready (sendHalf buffer) userDataSize) (allocation : Allocation) :
    (buffer.tryExpandReceiveBufferLocked userDataSize allocation).map sendHalf id =
      (sendHalf buffer).tryExpandSendBufferLocked userDataSize allocation := by
  obtain ⟨formed,⟨level,member,size⟩,waiting,needed⟩ := ready
  have limited := formed.limited
  have current : toUInt32 buffer.recvBuffSize = level := by
    have same : buffer.recvBuffSize = (level : Int) := size
    have cast := toUInt32_of_small buffer.recvBuffSize (by omega) limited
    omega
  have width : (sendHalf buffer).sendBufferCursorW-(sendHalf buffer).sendBufferCursorR =
      buffer.recvBufferCursorW-buffer.recvBufferCursorR := rfl
  have sameSize : (sendHalf buffer).sendBuffSize = buffer.recvBuffSize := rfl
  rw [width] at needed
  have used : ¬ buffer.recvBufferCursorW-buffer.recvBufferCursorR < 0 := by omega
  have small : ¬ buffer.recvBufferCursorW-buffer.recvBufferCursorR >
      (socketBuffSizeUserHuge : Int)-userDataSize-socketBuffReservedSize := by omega
  have reserve : 0 < socketBuffReservedSize := by decide
  have inside : ¬ (buffer.recvBufferCursorW-buffer.recvBufferCursorR+userDataSize+socketBuffReservedSize ≤ 0 ∨
      buffer.recvBufferCursorW-buffer.recvBufferCursorR+userDataSize+socketBuffReservedSize > socketBuffSizeUserHuge) := by omega
  simp only [ReceiveHalf.tryExpandReceiveBufferLocked,BufferObject.tryExpandSendBufferLocked,width,sameSize,used,small,inside,if_false,
    current]
  generalize next : getExpandedBufferSize level
    (toUInt32 (buffer.recvBufferCursorW-buffer.recvBufferCursorR+userDataSize+socketBuffReservedSize)) = nextSize
  by_cases zero : nextSize = 0
  · simp only [zero,if_true]
    rfl
  · have found : nextSize ∈ bufferLevels := by
      rw [← next] at zero ⊢
      exact getExpandedBufferSize_mem member zero
    obtain ⟨same,after⟩ := sendHalf_expandReceiveBuffer formed found allocation
    simp only [zero,if_false]
    revert same after
    obtain ⟨received,grown⟩ := buffer.expandReceiveBuffer nextSize allocation
    obtain ⟨sent,done⟩ := (sendHalf buffer).expandSendBuffer nextSize allocation
    rintro rfl after
    cases grown with
    | false =>
      simp only [Bool.false_eq_true,if_false] at after
      have cleared : sendHalf received.resetReceiveCursors = (sendHalf received).resetSendCursors := rfl
      simp only [Prod.map,id,cleared,after]
      rfl
    | true =>
      simp only [if_true] at after
      rw [sendHalf_memmoveReceiveBufferIfInsufficient,after]

theorem sendHalf_updateReceiveBufferLocked {buffer : ReceiveHalf} {userDataSize : Nat}
    (ready : Ready (sendHalf buffer) userDataSize) (allocation : Allocation) :
    (buffer.updateReceiveBufferLocked userDataSize allocation).map sendHalf id =
      (sendHalf buffer).updateSendBufferLocked userDataSize allocation := by
  have expanded := sendHalf_tryExpandReceiveBufferLocked ready allocation
  have waiting : ¬ buffer.recvBufferCursorW ≤ buffer.recvBufferCursorR := not_le.mpr ready.waiting
  have waitingToo : ¬ (sendHalf buffer).sendBufferCursorW ≤ (sendHalf buffer).sendBufferCursorR := waiting
  have size : (sendHalf buffer).sendBuffSize-(sendHalf buffer).sendBufferCursorW =
      buffer.recvBuffSize-buffer.recvBufferCursorW := rfl
  simp only [ReceiveHalf.updateReceiveBufferLocked,BufferObject.updateSendBufferLocked,waiting,waitingToo,if_false,size]
  by_cases short : buffer.recvBuffSize-buffer.recvBufferCursorW ≤ userDataSize
  · simp only [short,if_true,← expanded]
    obtain ⟨after,done⟩ := buffer.tryExpandReceiveBufferLocked userDataSize allocation
    cases done with
    | false => rfl
    | true =>
      simp only [Prod.map_apply,id_eq,← sendHalf_tryMemmoveReceiveBuffer after]
      obtain ⟨moved,done⟩ := after.tryMemmoveReceiveBuffer
      cases done <;> rfl
  · simp only [short,if_false,← sendHalf_tryMemmoveReceiveBuffer buffer]
    obtain ⟨moved,done⟩ := buffer.tryMemmoveReceiveBuffer
    cases done <;> rfl

/-- What growth is for: a buffer with the same pending bytes and more than `userDataSize` bytes behind them. -/
structure Sufficient (before : BufferObject) (userDataSize : Nat) (result : BufferObject × Option (List UInt8)) : Prop where
  nonNull : result.2.isSome = true
  pointer : result.2 = result.1.sendBuffer
  same : pending result.1 = pending before
  readStart : 0 ≤ result.1.sendBufferCursorR
  ordered : result.1.sendBufferCursorR ≤ result.1.sendBufferCursorW
  inside : result.1.sendBufferCursorW ≤ result.1.sendBuffSize
  backed : result.1.sendBuffSize = ((result.1.sendBuffer.getD []).length : Int)
  room : userDataSize < result.1.sendBuffSize-result.1.sendBufferCursorW

/-- The largest step is in use, has no room behind the write cursor, and no smaller step would hold what is needed. -/
def AtLargestStep (buffer : BufferObject) (userDataSize : Nat) : Prop :=
  buffer.sendBuffSize = socketBuffSizeUserHuge ∧ buffer.sendBuffSize-buffer.sendBufferCursorW ≤ userDataSize ∧
    socketBuffSizeUser3L < buffer.sendBufferCursorW-buffer.sendBufferCursorR+userDataSize+socketBuffReservedSize

theorem exhausted_iff {buffer : BufferObject} {userDataSize : Nat} (ready : Ready buffer userDataSize) (bytes : Nat → UInt8) :
    Exhausted (buffer.sendBufferCursorW-buffer.sendBufferCursorR) buffer.sendBuffSize userDataSize (some bytes) ↔
      buffer.sendBuffSize = socketBuffSizeUserHuge ∧
        socketBuffSizeUser3L < buffer.sendBufferCursorW-buffer.sendBufferCursorR+userDataSize+socketBuffReservedSize := by
  obtain ⟨formed,⟨level,member,size⟩,waiting,needed⟩ := ready
  have current : buffer.sendBuffSize.toNat = level := by omega
  have within : (buffer.sendBufferCursorW-buffer.sendBufferCursorR+userDataSize+socketBuffReservedSize).toNat ≤
      socketBuffSizeUserHuge := by omega
  have stuck := getExpandedBufferSize_eq_zero_iff member within
  simp only [Exhausted,current]
  constructor
  · rintro (beyond | zero | ⟨-,denied⟩)
    · omega
    · have := stuck.mp zero
      omega
    · cases denied
  · intro top
    exact .inr (.inl (stuck.mpr (by omega)))

theorem updateSendBufferLocked_sufficient_iff {buffer : BufferObject} {userDataSize : Nat} (ready : Ready buffer userDataSize)
    (bytes : Nat → UInt8) :
    Sufficient buffer userDataSize (buffer.updateSendBufferLocked userDataSize (some bytes)) ↔
      ¬ AtLargestStep buffer userDataSize := by
  have full := exhausted_iff ready bytes
  obtain ⟨formed,-,waiting,-⟩ := ready
  have start := formed.readStart
  have inside := formed.inside
  rcases updateSendBufferLocked_spec formed (by omega) userDataSize (some bytes) with
    ⟨-,short,exhausted,result⟩ | ⟨able,updated,found,result,held,keeps,room⟩
  · obtain ⟨top,large⟩ := full.mp exhausted
    refine iff_of_false ?_ (not_not_intro ⟨top,short,large⟩)
    intro sufficient
    have nonNull := sufficient.nonNull
    rw [result] at nonNull
    cases nonNull
  · refine iff_of_true ?_ fun largest => able ⟨waiting,largest.2.1,full.mpr ⟨largest.1,largest.2.2⟩⟩
    rw [result]
    have behind : userDataSize < updated.sendBuffSize-updated.sendBufferCursorW := by
      rcases room with behind | ⟨emptied,-⟩
      · exact behind
      · have before := formed.pending_length
        have after := keeps.formed.pending_length
        have readStart := keeps.formed.readStart
        rw [keeps.same] at after
        omega
    exact ⟨rfl,held.symm,keeps.same,keeps.formed.readStart,keeps.formed.ordered,keeps.formed.inside,keeps.formed.backed,behind⟩

theorem updateReceiveBufferLocked_sufficient_iff {buffer : ReceiveHalf} {userDataSize : Nat}
    (ready : Ready (sendHalf buffer) userDataSize) (bytes : Nat → UInt8) :
    Sufficient (sendHalf buffer) userDataSize ((buffer.updateReceiveBufferLocked userDataSize (some bytes)).map sendHalf id) ↔
      ¬ AtLargestStep (sendHalf buffer) userDataSize := by
  rw [sendHalf_updateReceiveBufferLocked ready]
  exact updateSendBufferLocked_sufficient_iff ready bytes

/-- Growth of either half is sufficient exactly when the half is not at the largest step, without room behind its write
cursor and in need of more than the step below. -/
theorem growth_sufficient_iff (sending : BufferObject) (receiving : ReceiveHalf) (userDataSize : Nat) (bytes : Nat → UInt8)
    (sendReady : Ready sending userDataSize) (receiveReady : Ready (sendHalf receiving) userDataSize) :
    (Sufficient sending userDataSize (sending.updateSendBufferLocked userDataSize (some bytes)) ↔
      ¬ AtLargestStep sending userDataSize) ∧
    (Sufficient (sendHalf receiving) userDataSize
        ((receiving.updateReceiveBufferLocked userDataSize (some bytes)).map sendHalf id) ↔
      ¬ AtLargestStep (sendHalf receiving) userDataSize) :=
  ⟨updateSendBufferLocked_sufficient_iff sendReady bytes,updateReceiveBufferLocked_sufficient_iff receiveReady bytes⟩

def filledHalf (size : Nat) (write read : Int) : ReceiveHalf := ⟨some (List.replicate size 1),size,write,read⟩

theorem filledHalf_ready {size userDataSize : Nat} {write read : Int} (level : size ∈ bufferLevels) (start : 0 ≤ read)
    (waiting : read < write) (inside : write ≤ size)
    (needed : write-read+userDataSize+socketBuffReservedSize ≤ socketBuffSizeUserHuge) :
    Ready (sendHalf (filledHalf size write read)) userDataSize :=
  ⟨⟨by simp [sendHalf,filledHalf],start,le_of_lt waiting,inside,by
      have := (bufferLevels_spec level).2.1
      simp only [sendHalf,filledHalf]
      omega⟩,⟨size,level,rfl⟩,waiting,needed⟩

theorem growth_sufficient_filled :
    Sufficient (sendHalf (filledHalf 4096 4000 100)) 5000
        ((sendHalf (filledHalf 4096 4000 100)).updateSendBufferLocked 5000 (some fun _ => 0)) ∧
      Sufficient (sendHalf (filledHalf 4096 4000 100)) 5000
        (((filledHalf 4096 4000 100).updateReceiveBufferLocked 5000 (some fun _ => 0)).map sendHalf id) := by
  have ready : Ready (sendHalf (filledHalf 4096 4000 100)) 5000 :=
    filledHalf_ready (by decide) (by decide) (by decide) (by decide) (by decide)
  have both := growth_sufficient_iff _ _ 5000 (fun _ => 0) ready ready
  exact ⟨both.1.mpr fun largest => absurd largest.1 (by decide),both.2.mpr fun largest => absurd largest.1 (by decide)⟩

/-- A full buffer of the largest size whose first 400 KiB are read: 624 KiB are pending, moving them to the front would
leave 400 KiB for the 1000 bytes, and both halves return null and drop what is pending. -/
theorem largest_step_drops :
    Ready (sendHalf (filledHalf (1024*1024) (1024*1024) (400*1024))) 1000 ∧
      ¬ Sufficient (sendHalf (filledHalf (1024*1024) (1024*1024) (400*1024))) 1000
        ((sendHalf (filledHalf (1024*1024) (1024*1024) (400*1024))).updateSendBufferLocked 1000 (some fun _ => 0)) ∧
      ¬ Sufficient (sendHalf (filledHalf (1024*1024) (1024*1024) (400*1024))) 1000
        (((filledHalf (1024*1024) (1024*1024) (400*1024)).updateReceiveBufferLocked 1000 (some fun _ => 0)).map sendHalf id) := by
  have ready : Ready (sendHalf (filledHalf (1024*1024) (1024*1024) (400*1024))) 1000 :=
    filledHalf_ready (by decide) (by decide) (by decide) (by decide) (by decide)
  have largest : AtLargestStep (sendHalf (filledHalf (1024*1024) (1024*1024) (400*1024))) 1000 := by
    refine ⟨rfl,?_,?_⟩ <;> decide
  refine ⟨ready,?_,?_⟩
  · intro sufficient
    exact (updateSendBufferLocked_sufficient_iff ready _).mp sufficient largest
  · intro sufficient
    exact (updateReceiveBufferLocked_sufficient_iff ready _).mp sufficient largest

end CommunicationIpc.BufferGrowth
