import CommunicationIpc.Kernel.SendBuffer
import CommunicationIpc.Library.Run
import CommunicationIpc.Semantics.SendStream
import Mathlib.Tactic.SplitIfs

/-! The shared send buffer against the byte stream it implements. Each function of
`BufferObject` gets one specification over the pending bytes; a critical section is
then a step of the stream unless the buffer must grow and cannot. -/
namespace CommunicationIpc.SendBuffer
open CommunicationIpc.Library CommunicationIpc.Kernel.SendBuffer CommunicationIpc.Semantics

def pending (buffer : BufferObject) : List UInt8 :=
  window (buffer.sendBuffer.getD []) buffer.sendBufferCursorR.toNat buffer.sendBufferCursorW.toNat

structure WellFormed (buffer : BufferObject) : Prop where
  backed : buffer.sendBuffSize = ((buffer.sendBuffer.getD []).length : Int)
  readStart : 0 ≤ buffer.sendBufferCursorR
  ordered : buffer.sendBufferCursorR ≤ buffer.sendBufferCursorW
  inside : buffer.sendBufferCursorW ≤ buffer.sendBuffSize
  limited : buffer.sendBuffSize ≤ socketBuffSizeUserHuge

theorem wellFormed_new : WellFormed BufferObject.new := by
  constructor <;> simp [BufferObject.new]

/-- The sizes a send buffer can have. -/
def bufferLevels : List Nat :=
  [socketBuffSizeUserS,socketBuffSizeUserSM,socketBuffSizeUserM,socketBuffSizeUserML,socketBuffSizeUserL,
    socketBuffSizeUserXL,socketBuffSizeUser2L,socketBuffSizeUser3L,socketBuffSizeUserHuge]

private theorem firstLevel_cons (fits : Nat → Prop) [DecidablePred fits] (level : Nat) (rest : List Nat) :
    ((level :: rest).find? (fits ·)).getD 0 = if fits level then level else (rest.find? (fits ·)).getD 0 := by
  by_cases here : fits level
  · simp [here]
  · simp [here]

theorem getNeedBufferSize_eq (size : Nat) :
    getNeedBufferSize size = (bufferLevels.find? (size ≤ ·)).getD 0 := by
  simp only [bufferLevels,firstLevel_cons]
  rfl

theorem getProgressiveBufferSize_eq (size : Nat) :
    getProgressiveBufferSize size = (bufferLevels.find? (size < ·)).getD 0 := by
  simp only [bufferLevels,firstLevel_cons]
  rfl

theorem bufferLevels_spec {level : Nat} (member : level ∈ bufferLevels) :
    getNeedBufferSize level = level ∧ level ≤ socketBuffSizeUserHuge ∧ socketBuffSizeUserS ≤ level := by
  revert level
  decide

theorem getNeedBufferSize_spec (size : Nat) :
    (getNeedBufferSize size = 0 ∧ socketBuffSizeUserHuge < size) ∨
      (size ≤ getNeedBufferSize size ∧ getNeedBufferSize size ≤ socketBuffSizeUserHuge ∧
        socketBuffSizeUserS ≤ getNeedBufferSize size ∧
        getNeedBufferSize (getNeedBufferSize size) = getNeedBufferSize size) := by
  rw [getNeedBufferSize_eq size]
  cases found : bufferLevels.find? (size ≤ ·) with
  | none =>
    have excess := List.find?_eq_none.1 found socketBuffSizeUserHuge (by decide)
    exact .inl ⟨rfl,by simpa using excess⟩
  | some level =>
    obtain ⟨fixed,limited,least⟩ := bufferLevels_spec (List.mem_of_find?_eq_some found)
    exact .inr ⟨by simpa using List.find?_some found,limited,least,fixed⟩

theorem getNeedBufferSize_bounds {size : Nat} (nonzero : getNeedBufferSize size ≠ 0) :
    size ≤ getNeedBufferSize size ∧ getNeedBufferSize size ≤ socketBuffSizeUserHuge ∧
      socketBuffSizeUserS ≤ getNeedBufferSize size := by
  rcases getNeedBufferSize_spec size with excess | level
  · exact absurd excess.1 nonzero
  · exact ⟨level.1,level.2.1,level.2.2.1⟩

theorem getNeedBufferSize_idem {size : Nat} (nonzero : getNeedBufferSize size ≠ 0) :
    getNeedBufferSize (getNeedBufferSize size) = getNeedBufferSize size := by
  rcases getNeedBufferSize_spec size with excess | level
  · exact absurd excess.1 nonzero
  · exact level.2.2.2

theorem getProgressiveBufferSize_grows {size : Nat} (nonzero : getProgressiveBufferSize size ≠ 0) :
    size < getProgressiveBufferSize size ∧ getProgressiveBufferSize size ≤ socketBuffSizeUserHuge := by
  rw [getProgressiveBufferSize_eq] at nonzero ⊢
  cases found : bufferLevels.find? (size < ·) with
  | none => exact absurd (congrArg (Option.getD · 0) found) nonzero
  | some level =>
    obtain ⟨-,limited,-⟩ := bufferLevels_spec (List.mem_of_find?_eq_some found)
    exact ⟨by simpa using List.find?_some found,limited⟩

theorem getExpandedBufferSize_bounds {current total : Nat} (limited : current ≤ socketBuffSizeUserHuge)
    (nonzero : getExpandedBufferSize current total ≠ 0) :
    total ≤ getExpandedBufferSize current total ∧ current ≤ getExpandedBufferSize current total ∧
      getExpandedBufferSize current total ≤ socketBuffSizeUserHuge := by
  revert nonzero
  simp only [getExpandedBufferSize]
  split_ifs with none larger equal
  · intro nonzero
    exact absurd rfl nonzero
  · intro nonzero
    have bounds := getNeedBufferSize_bounds nonzero
    omega
  · intro nonzero
    have bounds := getNeedBufferSize_bounds none
    have grows := getProgressiveBufferSize_grows nonzero
    omega
  · intro nonzero
    have bounds := getNeedBufferSize_bounds none
    omega

theorem toUInt32_of_small (value : Int) (positive : 0 ≤ value) (small : value ≤ socketBuffSizeUserHuge) :
    (toUInt32 value : Int) = value := by
  simp only [toUInt32,socketBuffSizeUserHuge] at *
  omega

structure Keeps (before after : BufferObject) : Prop where
  formed : WellFormed after
  same : pending after = pending before

theorem Keeps.refl {buffer : BufferObject} (formed : WellFormed buffer) : Keeps buffer buffer := ⟨formed,rfl⟩

theorem Keeps.trans {first second third : BufferObject} (left : Keeps first second) (right : Keeps second third) :
    Keeps first third := ⟨right.formed,right.same.trans left.same⟩

theorem pending_resetSendCursors (buffer : BufferObject) : pending buffer.resetSendCursors = [] := by
  simp [pending,BufferObject.resetSendCursors]

theorem WellFormed.resetSendCursors {buffer : BufferObject} (formed : WellFormed buffer) :
    WellFormed buffer.resetSendCursors := by
  have sized : 0 ≤ buffer.sendBuffSize := by rw [formed.backed]; omega
  exact ⟨formed.backed,le_refl _,le_refl _,sized,formed.limited⟩

theorem WellFormed.pending_length {buffer : BufferObject} (formed : WellFormed buffer) :
    ((pending buffer).length : Int) = buffer.sendBufferCursorW-buffer.sendBufferCursorR := by
  obtain ⟨backed,readStart,ordered,inside,-⟩ := formed
  have bound : buffer.sendBufferCursorW.toNat ≤ (buffer.sendBuffer.getD []).length := by omega
  rw [pending,window_length _ bound]
  omega

private theorem keeps_copied {buffer : BufferObject} (formed : WellFormed buffer) (fresh : List UInt8)
    (larger : buffer.sendBuffSize ≤ fresh.length) (limited : fresh.length ≤ socketBuffSizeUserHuge) :
    Keeps buffer { buffer with sendBuffer := some (overwrite fresh 0 (buffer.sendBuffer.getD [])),
                               sendBuffSize := fresh.length } := by
  obtain ⟨backed,readStart,ordered,inside,-⟩ := formed
  have room : 0+(buffer.sendBuffer.getD []).length ≤ fresh.length := by omega
  refine ⟨⟨?_,readStart,ordered,by simp only; omega,by simp only; omega⟩,?_⟩
  · simp only [Option.getD_some,overwrite_length room]
  · have bound : buffer.sendBufferCursorW.toNat ≤ (buffer.sendBuffer.getD []).length := by omega
    simp only [pending,Option.getD_some,overwrite,List.take_zero,List.nil_append]
    exact window_of_prefix bound

theorem expandSendBuffer_spec {buffer : BufferObject} (formed : WellFormed buffer) (size : Nat)
    (allocation : Allocation) :
    (buffer.expandSendBuffer size allocation = (buffer,false) ∧
      buffer.sendBuffSize < getNeedBufferSize size ∧ allocation = none) ∨
    (∃ expanded, buffer.expandSendBuffer size allocation = (expanded,true) ∧ Keeps buffer expanded ∧
      expanded.sendBufferCursorW = buffer.sendBufferCursorW ∧ expanded.sendBufferCursorR = buffer.sendBufferCursorR ∧
      expanded.sendBuffSize = max buffer.sendBuffSize (getNeedBufferSize size) ∧
      (getNeedBufferSize size ≤ buffer.sendBuffSize ∨ allocation ≠ none)) := by
  have sized : 0 ≤ buffer.sendBuffSize := by rw [formed.backed]; omega
  have cast := toUInt32_of_small _ sized formed.limited
  by_cases fits : getNeedBufferSize size ≤ buffer.sendBuffSize
  · refine .inr ⟨buffer,?_,Keeps.refl formed,rfl,rfl,(max_eq_left fits).symm,.inl fits⟩
    unfold BufferObject.expandSendBuffer
    have small : ¬ getNeedBufferSize size > toUInt32 buffer.sendBuffSize := by omega
    simp only [small,if_false,ite_self]
  · have grows : getNeedBufferSize size > toUInt32 buffer.sendBuffSize := by omega
    have nonzero : getNeedBufferSize size ≠ 0 := by omega
    cases allocation with
    | none =>
      refine .inl ⟨?_,by omega,rfl⟩
      simp only [BufferObject.expandSendBuffer,nonzero,grows,if_true,if_false,newBuffer,Option.map_none]
    | some bytes =>
      have copied := keeps_copied formed ((List.range (getNeedBufferSize size)).map bytes)
        (by simp only [List.length_map,List.length_range]; omega)
        (by simpa only [List.length_map,List.length_range] using (getNeedBufferSize_bounds nonzero).2.1)
      simp only [List.length_map,List.length_range] at copied
      have width : (getNeedBufferSize size : Int) = max buffer.sendBuffSize (getNeedBufferSize size) := by
        rw [max_eq_right (by omega)]
      refine .inr ⟨_,?_,copied,rfl,rfl,width,.inr (by simp)⟩
      simp only [BufferObject.expandSendBuffer,nonzero,grows,if_true,if_false,newBuffer,Option.map_some]
      cases held : buffer.sendBuffer with
      | none => simp [overwrite]
      | some old =>
        have length : buffer.sendBuffSize = (old.length : Int) := by simpa [held] using formed.backed
        by_cases filled : 0 < buffer.sendBuffSize
        · have enough : buffer.sendBuffSize.toNat ≤ getNeedBufferSize size := by omega
          have whole : old.take buffer.sendBuffSize.toNat = old := List.take_of_length_le (by omega)
          simp only [filled,if_true,memcpyS,enough,whole,Option.getD_some]
        · have empty : old = [] := List.eq_nil_of_length_eq_zero (by omega)
          simp [filled,empty,overwrite]

theorem acquireSendBuffer_spec {buffer : BufferObject} (formed : WellFormed buffer) (size : Nat)
    (allocation : Allocation) :
    (buffer.acquireSendBuffer size allocation = (buffer,false) ∧
      (getNeedBufferSize size = 0 ∨ (buffer.sendBuffSize < getNeedBufferSize size ∧ allocation = none))) ∨
    (∃ acquired, buffer.acquireSendBuffer size allocation = (acquired,true) ∧ Keeps buffer acquired ∧
      acquired.sendBufferCursorW = buffer.sendBufferCursorW ∧ acquired.sendBufferCursorR = buffer.sendBufferCursorR ∧
      acquired.sendBuffSize = max buffer.sendBuffSize (getNeedBufferSize size) ∧ getNeedBufferSize size ≠ 0 ∧
      (getNeedBufferSize size ≤ buffer.sendBuffSize ∨ allocation ≠ none)) := by
  by_cases zero : getNeedBufferSize size = 0
  · refine .inl ⟨?_,.inl zero⟩
    simp only [BufferObject.acquireSendBuffer,zero,if_true]
  · have level := getNeedBufferSize_idem zero
    rcases expandSendBuffer_spec formed (getNeedBufferSize size) allocation with
      ⟨failed,short,denied⟩ | ⟨expanded,grown,keeps,write,read,width,enough⟩
    · rw [level] at short
      refine .inl ⟨?_,.inr ⟨short,denied⟩⟩
      simp only [BufferObject.acquireSendBuffer,zero,if_false,failed]
    · rw [level] at width enough
      refine .inr ⟨expanded,?_,keeps,write,read,width,zero,enough⟩
      have present : expanded.sendBuffer.isSome = true := by
        cases held : expanded.sendBuffer with
        | some bytes => rfl
        | none =>
          have empty : expanded.sendBuffSize = 0 := by simpa [held] using keeps.formed.backed
          omega
      simp only [BufferObject.acquireSendBuffer,zero,if_false,grown,present]

theorem moveSendBuffer_spec {buffer : BufferObject} (formed : WellFormed buffer)
    (waiting : buffer.sendBufferCursorR < buffer.sendBufferCursorW) :
    ∃ moved, buffer.moveSendBuffer = (moved,true) ∧ Keeps buffer moved ∧
      moved.sendBufferCursorW = buffer.sendBufferCursorW-buffer.sendBufferCursorR ∧
      moved.sendBuffSize = buffer.sendBuffSize := by
  obtain ⟨backed,readStart,ordered,inside,limited⟩ := formed
  cases held : buffer.sendBuffer with
  | none =>
    have empty : buffer.sendBuffSize = 0 := by simpa [held] using backed
    omega
  | some bytes =>
    have length : buffer.sendBuffSize = (bytes.length : Int) := by simpa [held] using backed
    have bound : buffer.sendBufferCursorW.toNat ≤ bytes.length := by omega
    have width : (buffer.sendBufferCursorW-buffer.sendBufferCursorR).toNat =
        buffer.sendBufferCursorW.toNat-buffer.sendBufferCursorR.toNat := by omega
    have room : 0+(window bytes buffer.sendBufferCursorR.toNat buffer.sendBufferCursorW.toNat).length ≤
        bytes.length := by
      rw [window_length _ bound]
      omega
    refine ⟨{ buffer with
        sendBuffer := some (overwrite bytes 0 (window bytes buffer.sendBufferCursorR.toNat buffer.sendBufferCursorW.toNat)),
        sendBufferCursorW := buffer.sendBufferCursorW-buffer.sendBufferCursorR, sendBufferCursorR := 0 },?_,⟨?_,?_⟩,rfl,rfl⟩
    · simp only [BufferObject.moveSendBuffer,held,memcpyS,width,le_refl,if_true,window]
    · refine ⟨?_,le_refl _,by simp only; omega,by simp only; omega,limited⟩
      simp only [Option.getD_some,overwrite_length room,length]
    · simp only [pending,Option.getD_some,held,width,Int.toNat_zero]
      exact window_overwrite_front bytes _ _ bound

theorem memmoveSendBufferIfInsufficient_spec {buffer : BufferObject} (formed : WellFormed buffer)
    (waiting : buffer.sendBufferCursorR < buffer.sendBufferCursorW) (userDataSize : Nat)
    (room : buffer.sendBufferCursorW-buffer.sendBufferCursorR+userDataSize < buffer.sendBuffSize) :
    ∃ moved, buffer.memmoveSendBufferIfInsufficient userDataSize = (moved,true) ∧ Keeps buffer moved ∧
      userDataSize < moved.sendBuffSize-moved.sendBufferCursorW := by
  by_cases short : buffer.sendBuffSize-buffer.sendBufferCursorW ≤ userDataSize
  · obtain ⟨moved,same,keeps,write,width⟩ := moveSendBuffer_spec formed waiting
    have behind : ¬ moved.sendBuffSize-moved.sendBufferCursorW ≤ userDataSize := by omega
    refine ⟨moved,?_,keeps,by omega⟩
    simp only [BufferObject.memmoveSendBufferIfInsufficient,short,if_true,same,behind,if_false]
  · refine ⟨buffer,?_,Keeps.refl formed,by omega⟩
    simp only [BufferObject.memmoveSendBufferIfInsufficient,short,if_false]

theorem tryMemmoveSendBuffer_spec {buffer : BufferObject} (formed : WellFormed buffer) :
    ∃ moved, buffer.tryMemmoveSendBuffer = (moved,true) ∧ Keeps buffer moved ∧
      moved.sendBufferCursorW ≤ buffer.sendBufferCursorW ∧ moved.sendBuffSize = buffer.sendBuffSize := by
  simp only [BufferObject.tryMemmoveSendBuffer]
  split
  · rename_i compacting
    obtain ⟨moved,same,keeps,write,width⟩ := moveSendBuffer_spec formed (by omega)
    have start := formed.readStart
    exact ⟨moved,same,keeps,by omega,width⟩
  · exact ⟨buffer,rfl,Keeps.refl formed,le_refl _,rfl⟩

/-- No buffer that holds `usedSpace` pending bytes and `userDataSize` more can be had. -/
def Exhausted (usedSpace sendBuffSize : Int) (userDataSize : Nat) (allocation : Allocation) : Prop :=
  let total := usedSpace+userDataSize+socketBuffReservedSize
  let nextSize := getExpandedBufferSize sendBuffSize.toNat total.toNat
  socketBuffSizeUserHuge < total ∨ nextSize = 0 ∨
    (sendBuffSize < getNeedBufferSize nextSize ∧ allocation = none)

private theorem toUInt32_eq_toNat (value : Int) (positive : 0 ≤ value) (small : value ≤ socketBuffSizeUserHuge) :
    toUInt32 value = value.toNat := by
  have same := toUInt32_of_small value positive small
  omega

theorem tryExpandSendBufferLocked_spec {buffer : BufferObject} (formed : WellFormed buffer)
    (waiting : buffer.sendBufferCursorR < buffer.sendBufferCursorW) (userDataSize : Nat) (allocation : Allocation) :
    (Exhausted (buffer.sendBufferCursorW-buffer.sendBufferCursorR) buffer.sendBuffSize userDataSize allocation ∧
      buffer.tryExpandSendBufferLocked userDataSize allocation = (buffer.resetSendCursors,false)) ∨
    (¬ Exhausted (buffer.sendBufferCursorW-buffer.sendBufferCursorR) buffer.sendBuffSize userDataSize allocation ∧
      ∃ expanded, buffer.tryExpandSendBufferLocked userDataSize allocation = (expanded,true) ∧
        Keeps buffer expanded ∧ userDataSize < expanded.sendBuffSize-expanded.sendBufferCursorW) := by
  have sized : 0 ≤ buffer.sendBuffSize := by rw [formed.backed]; omega
  have used : ¬ buffer.sendBufferCursorW-buffer.sendBufferCursorR < 0 := by omega
  have current := toUInt32_eq_toNat _ sized formed.limited
  unfold BufferObject.tryExpandSendBufferLocked Exhausted
  by_cases excess : (socketBuffSizeUserHuge : Int) <
      buffer.sendBufferCursorW-buffer.sendBufferCursorR+userDataSize+socketBuffReservedSize
  · have stop : buffer.sendBufferCursorW-buffer.sendBufferCursorR >
        (socketBuffSizeUserHuge : Int)-userDataSize-socketBuffReservedSize := by omega
    exact .inl ⟨.inl excess,by simp only [used,stop,if_true,if_false]⟩
  · have go : ¬ buffer.sendBufferCursorW-buffer.sendBufferCursorR >
        (socketBuffSizeUserHuge : Int)-userDataSize-socketBuffReservedSize := by omega
    have total := toUInt32_eq_toNat (buffer.sendBufferCursorW-buffer.sendBufferCursorR+userDataSize+
      socketBuffReservedSize) (by omega) (by omega)
    have positive : ¬ buffer.sendBufferCursorW-buffer.sendBufferCursorR+userDataSize+socketBuffReservedSize ≤ 0 := by
      omega
    simp only [used,go,positive,gt_iff_lt,excess,or_self,if_false,current,total,false_or]
    set nextSize := getExpandedBufferSize buffer.sendBuffSize.toNat
      (buffer.sendBufferCursorW-buffer.sendBufferCursorR+userDataSize+socketBuffReservedSize).toNat with next
    by_cases zero : nextSize = 0
    · exact .inl ⟨.inl zero,by simp only [zero,if_true]⟩
    · have limited : buffer.sendBuffSize.toNat ≤ socketBuffSizeUserHuge := by have := formed.limited; omega
      obtain ⟨holds,larger,capped⟩ := getExpandedBufferSize_bounds limited zero
      have rounded : nextSize ≤ getNeedBufferSize nextSize := by
        rcases getNeedBufferSize_spec nextSize with beyond | level
        · omega
        · exact level.1
      simp only [zero,if_false,false_or]
      rcases expandSendBuffer_spec formed nextSize allocation with
        ⟨failed,short,denied⟩ | ⟨expanded,grown,keeps,write,read,width,enough⟩
      · exact .inl ⟨⟨short,denied⟩,by simp only [failed]⟩
      · have reserve : 0 < socketBuffReservedSize := by decide
        obtain ⟨moved,same,kept,behind⟩ := memmoveSendBufferIfInsufficient_spec keeps.formed
          (by omega) userDataSize (by omega)
        refine .inr ⟨?_,moved,by simp only [grown,same],keeps.trans kept,behind⟩
        intro holds
        obtain ⟨short,denied⟩ := holds
        rcases enough with fits | given
        · omega
        · exact given denied

theorem updateSendBufferLocked_spec {buffer : BufferObject} (formed : WellFormed buffer)
    (sized : 0 < buffer.sendBuffSize) (userDataSize : Nat) (allocation : Allocation) :
    (buffer.sendBufferCursorR < buffer.sendBufferCursorW ∧
      buffer.sendBuffSize-buffer.sendBufferCursorW ≤ userDataSize ∧
      Exhausted (buffer.sendBufferCursorW-buffer.sendBufferCursorR) buffer.sendBuffSize userDataSize allocation ∧
      buffer.updateSendBufferLocked userDataSize allocation = (buffer.resetSendCursors,none)) ∨
    (¬ (buffer.sendBufferCursorR < buffer.sendBufferCursorW ∧
        buffer.sendBuffSize-buffer.sendBufferCursorW ≤ userDataSize ∧
        Exhausted (buffer.sendBufferCursorW-buffer.sendBufferCursorR) buffer.sendBuffSize userDataSize allocation) ∧
      ∃ updated bytes, buffer.updateSendBufferLocked userDataSize allocation = (updated,some bytes) ∧
        updated.sendBuffer = some bytes ∧ Keeps buffer updated ∧
        (userDataSize < updated.sendBuffSize-updated.sendBufferCursorW ∨
          (updated.sendBufferCursorW = 0 ∧ updated.sendBuffSize = buffer.sendBuffSize))) := by
  have pointer {object : BufferObject} (keeps : Keeps buffer object) (positive : 0 < object.sendBuffSize) :
      ∃ bytes, object.sendBuffer = some bytes := by
    cases held : object.sendBuffer with
    | some bytes => exact ⟨bytes,rfl⟩
    | none =>
      have empty : object.sendBuffSize = 0 := by simpa [held] using keeps.formed.backed
      omega
  have start := formed.readStart
  by_cases idle : buffer.sendBufferCursorW ≤ buffer.sendBufferCursorR
  · obtain ⟨bytes,held⟩ := pointer (Keeps.refl formed) sized
    have empty : pending buffer = [] := by
      apply List.eq_nil_of_length_eq_zero
      have length := formed.pending_length
      omega
    refine .inr ⟨by omega,buffer.resetSendCursors,bytes,?_,held,
      ⟨formed.resetSendCursors,by rw [pending_resetSendCursors,empty]⟩,.inr ⟨rfl,rfl⟩⟩
    simp only [BufferObject.updateSendBufferLocked,idle,if_true,held]
  · have waiting : buffer.sendBufferCursorR < buffer.sendBufferCursorW := by omega
    by_cases short : buffer.sendBuffSize-buffer.sendBufferCursorW ≤ userDataSize
    · rcases tryExpandSendBufferLocked_spec formed waiting userDataSize allocation with
        ⟨exhausted,dropped⟩ | ⟨able,expanded,grown,keeps,behind⟩
      · refine .inl ⟨waiting,short,exhausted,?_⟩
        simp only [BufferObject.updateSendBufferLocked,idle,short,if_true,if_false,dropped]
      · obtain ⟨moved,same,kept,write,width⟩ := tryMemmoveSendBuffer_spec keeps.formed
        have inside := kept.formed.ordered
        have behindRead := kept.formed.readStart
        obtain ⟨bytes,held⟩ := pointer (keeps.trans kept) (by omega)
        refine .inr ⟨fun stuck => able stuck.2.2,moved,bytes,?_,held,keeps.trans kept,.inl (by omega)⟩
        simp only [BufferObject.updateSendBufferLocked,idle,short,if_true,if_false,grown,same,held]
    · obtain ⟨moved,same,kept,write,width⟩ := tryMemmoveSendBuffer_spec formed
      obtain ⟨bytes,held⟩ := pointer kept (by omega)
      refine .inr ⟨fun stuck => short stuck.2.1,moved,bytes,?_,held,kept,.inl (by omega)⟩
      simp only [BufferObject.updateSendBufferLocked,idle,short,if_false,same,held]

/-- The section gets its buffer, finds pending bytes with no room for `userDataSize` more
behind them, and no larger buffer can be had. -/
def Stranded (buffer : BufferObject) (userDataSize : Nat) (acquiring expanding : Allocation) : Prop :=
  let acquiredSize := max buffer.sendBuffSize (getNeedBufferSize userDataSize)
  getNeedBufferSize userDataSize ≠ 0 ∧ (getNeedBufferSize userDataSize ≤ buffer.sendBuffSize ∨ acquiring ≠ none) ∧
    buffer.sendBufferCursorR < buffer.sendBufferCursorW ∧ acquiredSize-buffer.sendBufferCursorW ≤ userDataSize ∧
    Exhausted (buffer.sendBufferCursorW-buffer.sendBufferCursorR) acquiredSize userDataSize expanding

private theorem prepare_spec {buffer : BufferObject} (formed : WellFormed buffer) (size userDataSize : Nat)
    (level : getNeedBufferSize size = getNeedBufferSize userDataSize) (acquiring expanding : Allocation) :
    (∃ refused, buffer.acquireSendBuffer size acquiring = (refused,false) ∧ Keeps buffer refused ∧
      ¬ Stranded buffer userDataSize acquiring expanding ∧ (getNeedBufferSize userDataSize = 0 ∨ acquiring = none)) ∨
    (∃ acquired, buffer.acquireSendBuffer size acquiring = (acquired,true) ∧
      ((Stranded buffer userDataSize acquiring expanding ∧
        ∃ dropped, acquired.updateSendBufferLocked userDataSize expanding = (dropped,none) ∧
          WellFormed dropped ∧ pending dropped = []) ∨
      (¬ Stranded buffer userDataSize acquiring expanding ∧
        ∃ updated bytes, acquired.updateSendBufferLocked userDataSize expanding = (updated,some bytes) ∧
          updated.sendBuffer = some bytes ∧ Keeps buffer updated ∧
          userDataSize ≤ updated.sendBuffSize-updated.sendBufferCursorW))) := by
  rcases acquireSendBuffer_spec formed size acquiring with
    ⟨refused,why⟩ | ⟨acquired,granted,keeps,write,read,width,nonzero,enough⟩
  · rw [level] at why
    refine .inl ⟨buffer,refused,Keeps.refl formed,?_,why.imp_right And.right⟩
    intro holds
    obtain ⟨nonzero,enough,-⟩ := holds
    rcases why with zero | ⟨short,denied⟩
    · exact nonzero zero
    · rcases enough with fits | given
      · omega
      · exact given denied
  · rw [level] at width nonzero enough
    have bounds := getNeedBufferSize_bounds nonzero
    have least : 0 < socketBuffSizeUserS := by decide
    have sized : 0 < acquired.sendBuffSize := by omega
    refine .inr ⟨acquired,granted,?_⟩
    rcases updateSendBufferLocked_spec keeps.formed sized userDataSize expanding with
      ⟨waiting,short,exhausted,dropped⟩ | ⟨able,updated,bytes,done,held,kept,room⟩
    · rw [write,read] at waiting
      rw [write,width] at short
      rw [write,read,width] at exhausted
      exact .inl ⟨⟨nonzero,enough,waiting,short,exhausted⟩,_,dropped,keeps.formed.resetSendCursors,
        pending_resetSendCursors acquired⟩
    · rw [write,read,width] at able
      refine .inr ⟨fun stuck => able stuck.2.2,updated,bytes,done,held,keeps.trans kept,?_⟩
      rcases room with behind | ⟨zero,unchanged⟩ <;> omega

private theorem appended_keeps {updated : BufferObject} {bytes block : List UInt8} (formed : WellFormed updated)
    (held : updated.sendBuffer = some bytes) (room : block.length ≤ updated.sendBuffSize-updated.sendBufferCursorW) :
    let written := { updated with sendBuffer := some (overwrite bytes updated.sendBufferCursorW.toNat block),
                                  sendBufferCursorW := updated.sendBufferCursorW+block.length }
    WellFormed written ∧ pending written = pending updated ++ block := by
  obtain ⟨backed,readStart,ordered,inside,limited⟩ := formed
  have length : updated.sendBuffSize = (bytes.length : Int) := by simpa [held] using backed
  have space : updated.sendBufferCursorW.toNat+block.length ≤ bytes.length := by omega
  have cursor : (updated.sendBufferCursorW+block.length).toNat = updated.sendBufferCursorW.toNat+block.length := by omega
  refine ⟨⟨?_,readStart,by simp only; omega,by simp only; omega,limited⟩,?_⟩
  · simp only [Option.getD_some,overwrite_length space,length]
  · simp only [pending,Option.getD_some,held,cursor]
    exact window_overwrite_end (by omega) (by omega)

theorem moveTransData2Buffer_spec {buffer : BufferObject} (formed : WellFormed buffer) (transData : Package)
    (acquiring expanding : Allocation) :
    (Stranded buffer transData.sizeOfSelf acquiring expanding ∧
      ∃ dropped, buffer.moveTransData2Buffer transData acquiring expanding = (dropped,false) ∧
        WellFormed dropped ∧ pending dropped = []) ∨
    (¬ Stranded buffer transData.sizeOfSelf acquiring expanding ∧
      ((∃ refused, buffer.moveTransData2Buffer transData acquiring expanding = (refused,false) ∧ Keeps buffer refused ∧
        (getNeedBufferSize transData.sizeOfSelf = 0 ∨ acquiring = none)) ∨
      (∃ appended, buffer.moveTransData2Buffer transData acquiring expanding = (appended,true) ∧
        WellFormed appended ∧ pending appended = pending buffer ++ transData.bytes))) := by
  rcases prepare_spec formed _ transData.sizeOfSelf rfl acquiring expanding with
    ⟨refused,failed,keeps,able,why⟩ | ⟨acquired,granted,⟨stuck,dropped,update,dead,empty⟩ |
      ⟨able,updated,bytes,update,held,keeps,room⟩⟩
  · exact .inr ⟨able,.inl ⟨refused,by simp only [BufferObject.moveTransData2Buffer,failed],keeps,why⟩⟩
  · exact .inl ⟨stuck,dropped,by simp only [BufferObject.moveTransData2Buffer,granted,update],dead,empty⟩
  · obtain ⟨written,extended⟩ := appended_keeps keeps.formed held room
    refine .inr ⟨able,.inr ⟨_,?_,written,by rw [extended,keeps.same]⟩⟩
    obtain ⟨-,readStart,ordered,inside,limited⟩ := keeps.formed
    have free := toUInt32_of_small (updated.sendBuffSize-updated.sendBufferCursorW) (by omega) (by omega)
    have fits : ¬ (updated.sendBufferCursorW < 0 ∨ updated.sendBufferCursorR < 0 ∨
        updated.sendBufferCursorW > updated.sendBuffSize ∨
        transData.sizeOfSelf > toUInt32 (updated.sendBuffSize-updated.sendBufferCursorW)) := by omega
    have copied : transData.sizeOfSelf ≤ (updated.sendBuffSize-updated.sendBufferCursorW).toNat := by omega
    have whole : transData.bytes.take transData.sizeOfSelf = transData.bytes := List.take_length
    have size : transData.sizeOfSelf = transData.bytes.length := rfl
    have low : ¬ updated.sendBufferCursorW+(transData.bytes.length : Int) < 0 := by omega
    have high : ¬ (0 < updated.sendBuffSize ∧
        updated.sendBufferCursorW+(transData.bytes.length : Int) > updated.sendBuffSize) := by omega
    have readLow : ¬ updated.sendBufferCursorR < 0 := by omega
    have readHigh : ¬ (0 < updated.sendBuffSize ∧ updated.sendBufferCursorR > updated.sendBuffSize) := by omega
    simp only [BufferObject.moveTransData2Buffer,granted,update,fits,if_false,memcpyS,copied,if_true,whole]
    simp only [BufferObject.setSendBufferWriteCursorEx,BufferObject.setSendBufferReadCursorEx,size,low,high,readLow,
      readHigh,if_false]

theorem sendData_spec {buffer : BufferObject} (formed : WellFormed buffer) (acquiring expanding : Allocation)
    (sendBytes : Int) :
    (Stranded buffer 0 acquiring expanding ∧
      ∃ dropped, buffer.sendData acquiring expanding sendBytes = (dropped,[],-rpcDatabusInvokerInvalidDataErr) ∧
        WellFormed dropped ∧ pending dropped = []) ∨
    (¬ Stranded buffer 0 acquiring expanding ∧
      ∃ after payload code, buffer.sendData acquiring expanding sendBytes = (after,payload,code) ∧ WellFormed after ∧
        ((payload = [] ∧ pending after = pending buffer ∧
            (acquiring = none ∨ sendBytes ≠ 0 ∨ (pending buffer = [] ∧ code = errNone))) ∨
          (payload = pending buffer ∧ pending after = [] ∧ code = sendBytes))) := by
  rcases prepare_spec formed socketDefaultBuffSize 0 (by decide) acquiring expanding with
    ⟨refused,failed,keeps,able,why⟩ | ⟨acquired,granted,⟨stuck,dropped,update,dead,empty⟩ |
      ⟨able,updated,bytes,update,held,keeps,room⟩⟩
  · have denied : acquiring = none := why.resolve_left (by decide)
    exact .inr ⟨able,refused,[],-rpcDatabusInvokerInvalidDataErr,by simp only [BufferObject.sendData,failed],
      keeps.formed,.inl ⟨rfl,keeps.same,.inl denied⟩⟩
  · exact .inl ⟨stuck,dropped,by simp only [BufferObject.sendData,granted,update],dead,empty⟩
  · have ordered := keeps.formed.ordered
    have readStart := keeps.formed.readStart
    have inside := keeps.formed.inside
    have sane : ¬ (updated.sendBufferCursorR < 0 ∨ updated.sendBufferCursorW < 0 ∨
        updated.sendBufferCursorR > updated.sendBuffSize ∨
        updated.sendBufferCursorW < updated.sendBufferCursorR) := by omega
    refine .inr ⟨able,?_⟩
    by_cases idle : updated.sendBufferCursorW = updated.sendBufferCursorR
    · have length := keeps.formed.pending_length
      have empty : pending buffer = [] := by
        rw [← keeps.same]
        exact List.eq_nil_of_length_eq_zero (by omega)
      refine ⟨updated,[],errNone,?_,keeps.formed,.inl ⟨rfl,keeps.same,.inr (.inr ⟨empty,rfl⟩)⟩⟩
      simp only [BufferObject.sendData,granted,update,sane,if_false]
      rw [if_pos idle]
    · by_cases handed : sendBytes = 0
      · have target : updated.sendBufferCursorR+(updated.sendBufferCursorW-updated.sendBufferCursorR) =
            updated.sendBufferCursorW := by omega
        have low : ¬ updated.sendBufferCursorW < 0 := by omega
        have high : ¬ (0 < updated.sendBuffSize ∧ updated.sendBufferCursorW > updated.sendBuffSize) := by omega
        have width : (updated.sendBufferCursorW-updated.sendBufferCursorR).toNat =
            updated.sendBufferCursorW.toNat-updated.sendBufferCursorR.toNat := by omega
        refine ⟨{ updated with sendBufferCursorR := updated.sendBufferCursorW },pending buffer,sendBytes,?_,?_,
          .inr ⟨rfl,by simp [pending],rfl⟩⟩
        · rw [← keeps.same]
          simp only [BufferObject.sendData,granted,update,sane,idle,if_false,handed,ne_eq,not_true_eq_false,target]
          simp only [BufferObject.setSendBufferReadCursorEx,low,high,if_false,pending,held,Option.getD_some,window,width]
        · obtain ⟨backed,-,-,-,limited⟩ := keeps.formed
          exact ⟨backed,by simp only; omega,le_refl _,inside,limited⟩
      · refine ⟨updated,[],sendBytes,?_,keeps.formed,.inl ⟨rfl,keeps.same,.inr (.inl handed)⟩⟩
        simp only [BufferObject.sendData,granted,update,sane,idle,if_false,ne_eq,handed,not_false_eq_true,if_true]

theorem step_formed {session : Session} (formed : WellFormed session.buffer) (section_ : Section) :
    WellFormed (session.step section_).buffer := by
  cases section_ with
  | moveTransData2Buffer thread transData acquiring expanding =>
    rcases moveTransData2Buffer_spec formed transData acquiring expanding with
      ⟨-,dropped,result,dead,-⟩ | ⟨-,⟨refused,result,keeps,-⟩ | ⟨appended,result,written,-⟩⟩
    · simpa only [Session.step,result] using dead
    · simpa only [Session.step,result] using keeps.formed
    · simpa only [Session.step,result] using written
  | sendData thread acquiring expanding sendBytes =>
    rcases sendData_spec formed acquiring expanding sendBytes with
      ⟨-,dropped,result,dead,-⟩ | ⟨-,after,payload,code,result,written,-⟩
    · simpa only [Session.step,result] using dead
    · simpa only [Session.step,result] using written

theorem reached_formed {sections : List Section} {session : Session}
    (run : Reaches (does Session.step) Session.new sections session) : WellFormed session.buffer := by
  apply run.invariant (fun session => WellFormed session.buffer) wellFormed_new
  rintro before section_ _ formed rfl
  exact step_formed formed section_

theorem moveTransData2Buffer_appends_iff {buffer : BufferObject} (formed : WellFormed buffer) (transData : Package)
    (acquiring expanding : Nat → UInt8) :
    (buffer.moveTransData2Buffer transData (some acquiring) (some expanding)).2 = true ↔
      transData.sizeOfSelf ≤ socketBuffSizeUserHuge ∧
        ¬ Stranded buffer transData.sizeOfSelf (some acquiring) (some expanding) := by
  have level := getNeedBufferSize_spec transData.sizeOfSelf
  rcases moveTransData2Buffer_spec formed transData (some acquiring) (some expanding) with
    ⟨stuck,dropped,result,-⟩ | ⟨able,⟨refused,result,-,why⟩ | ⟨appended,result,-⟩⟩
  · rw [result]
    exact iff_of_false Bool.false_ne_true fun both => both.2 stuck
  · have excess : getNeedBufferSize transData.sizeOfSelf = 0 := why.resolve_right (by simp)
    rw [result]
    refine iff_of_false Bool.false_ne_true ?_
    intro holds
    obtain ⟨within,-⟩ := holds
    simp only [socketBuffSizeUserS] at level
    omega
  · rw [result]
    refine iff_of_true rfl ⟨?_,able⟩
    by_contra excess
    have zero : getNeedBufferSize transData.sizeOfSelf = 0 := by
      rcases level with beyond | ⟨enough,limited,-⟩
      · exact beyond.1
      · omega
    simp only [BufferObject.moveTransData2Buffer,BufferObject.acquireSendBuffer,zero,if_true,Prod.mk.injEq,
      Bool.false_eq_true,and_false] at result

theorem pending_of_appended {buffer : BufferObject} (formed : WellFormed buffer) {transData : Package}
    {acquiring expanding : Allocation} (done : (buffer.moveTransData2Buffer transData acquiring expanding).2 = true) :
    pending (buffer.moveTransData2Buffer transData acquiring expanding).1 = pending buffer ++ transData.bytes := by
  rcases moveTransData2Buffer_spec formed transData acquiring expanding with
    ⟨-,dropped,result,-⟩ | ⟨-,⟨refused,result,-⟩ | ⟨appended,result,-,extended⟩⟩
  · rw [result] at done
    cases done
  · rw [result] at done
    cases done
  · rw [result]
    exact extended

theorem sendData_hands_over_iff {buffer : BufferObject} (formed : WellFormed buffer) (acquiring expanding : Nat → UInt8) :
    ((buffer.sendData (some acquiring) (some expanding) 0).2.2 = 0 ↔
        ¬ Stranded buffer 0 (some acquiring) (some expanding)) ∧
      (¬ Stranded buffer 0 (some acquiring) (some expanding) →
        (buffer.sendData (some acquiring) (some expanding) 0).2.1 = pending buffer) := by
  rcases sendData_spec formed (some acquiring) (some expanding) 0 with
    ⟨stuck,dropped,result,-⟩ | ⟨able,after,payload,code,result,-,⟨rfl,-,why⟩ | ⟨rfl,-,rfl⟩⟩
  · rw [result]
    have failed : ¬ -rpcDatabusInvokerInvalidDataErr = 0 := by decide
    exact ⟨iff_of_false failed (not_not_intro stuck),fun able => absurd stuck able⟩
  · obtain ⟨empty,rfl⟩ : pending buffer = [] ∧ code = errNone := by
      rcases why with denied | failed | idle
      · cases denied
      · exact absurd rfl failed
      · exact idle
    rw [result]
    exact ⟨iff_of_true rfl able,fun _ => empty.symm⟩
  · rw [result]
    exact ⟨iff_of_true rfl able,fun _ => rfl⟩

def stream (session : Session) : SendStream UInt8 := ⟨session.sent,pending session.buffer,session.appended⟩

def roomy (session : Session) : Section → Prop
  | .moveTransData2Buffer _ transData acquiring expanding =>
    ¬ Stranded session.buffer transData.sizeOfSelf acquiring expanding
  | .sendData _ acquiring expanding _ => ¬ Stranded session.buffer 0 acquiring expanding

theorem step_simulates {session : Session} (formed : WellFormed session.buffer) (section_ : Section)
    (room : roomy session section_) :
    (stream session).Step (stream (session.step section_)) := by
  cases section_ with
  | moveTransData2Buffer thread transData acquiring expanding =>
    rcases moveTransData2Buffer_spec formed transData acquiring expanding with
      ⟨stuck,-⟩ | ⟨-,⟨refused,result,keeps,-⟩ | ⟨appended,result,written,extended⟩⟩
    · exact absurd stuck room
    · simp only [Session.step,result,stream,keeps.same]
      exact .idle
    · simp only [Session.step,result,stream,extended,if_true]
      exact .accept transData.bytes
  | sendData thread acquiring expanding sendBytes =>
    rcases sendData_spec formed acquiring expanding sendBytes with
      ⟨stuck,-⟩ | ⟨-,after,payload,code,result,written,⟨rfl,kept,-⟩ | ⟨rfl,emptied,-⟩⟩
    · exact absurd stuck room
    · simp only [Session.step,result,stream,kept,List.append_nil]
      exact .idle
    · simp only [Session.step,result,stream,emptied]
      exact .flush

/-- In every run whose sections are never stranded, what was handed to the socket followed by
what is pending is the concatenation, in append order, of the packages reported appended; and an
append that is then refused leaves the pending bytes alone. -/
theorem sent_pending_exact {sections : List Section} {session : Session}
    (run : Reaches (guarded (does Session.step) roomy) Session.new sections session) :
    session.sent ++ pending session.buffer = session.appended.flatten ∧
      ∀ transData acquiring expanding, ¬ Stranded session.buffer transData.sizeOfSelf acquiring expanding →
        (session.buffer.moveTransData2Buffer transData acquiring expanding).2 = false →
        pending (session.buffer.moveTransData2Buffer transData acquiring expanding).1 = pending session.buffer := by
  have both : WellFormed session.buffer ∧ (stream session).Exact := by
    apply run.invariant (fun session => WellFormed session.buffer ∧ (stream session).Exact)
    · exact ⟨wellFormed_new,by simp [SendStream.Exact,stream,Session.new,BufferObject.new,pending,window]⟩
    · rintro before section_ _ ⟨formed,exact⟩ ⟨room,rfl⟩
      exact ⟨step_formed formed section_,(step_simulates formed section_ room).exact exact⟩
  refine ⟨both.2,?_⟩
  intro transData acquiring expanding able failed
  rcases moveTransData2Buffer_spec both.1 transData acquiring expanding with
    ⟨stuck,-⟩ | ⟨-,⟨refused,result,keeps,-⟩ | ⟨appended,result,-⟩⟩
  · exact absurd stuck able
  · rw [result]
    exact keeps.same
  · rw [result] at failed
    cases failed

def filledPackage (count : Nat) (byte : UInt8) (fits : count < 2^32) : Package :=
  ⟨List.replicate count byte,by rwa [List.length_replicate]⟩

theorem sent_pending_exact_small :
    let session := (Session.new.step (.moveTransData2Buffer 1 (filledPackage 3 7 (by decide)) (some fun _ => 0) none)).step
      (.sendData 2 none none 0)
    session.sent ++ pending session.buffer = session.appended.flatten ∧ session.sent = [7,7,7] := by
  refine ⟨(sent_pending_exact (.snoc _ (.snoc _ .nil ⟨?_,rfl⟩) ⟨?_,rfl⟩)).1,by decide +kernel⟩
  · intro holds
    obtain ⟨-,-,waiting,-⟩ := holds
    exact absurd waiting (by decide)
  · intro holds
    obtain ⟨-,-,-,short,-⟩ := holds
    revert short
    decide +kernel

/-- Thread 2's append of 200 bytes needs a larger buffer; the allocation fails, and the package
of thread 1, reported appended and not yet sent, is gone. -/
theorem refused_append_drops :
    let session := (Session.new.step (.moveTransData2Buffer 1 (filledPackage 4000 1 (by decide)) (some fun _ => 0) none)).step
      (.moveTransData2Buffer 2 (filledPackage 200 2 (by decide)) none none)
    Reaches (does Session.step) Session.new
      [.moveTransData2Buffer 1 (filledPackage 4000 1 (by decide)) (some fun _ => 0) none,
        .moveTransData2Buffer 2 (filledPackage 200 2 (by decide)) none none] session ∧
      session.appended = [List.replicate 4000 1] ∧ session.sent ++ pending session.buffer ≠ session.appended.flatten :=
  ⟨.snoc _ (.snoc _ .nil rfl) rfl,by decide +kernel,by decide +kernel⟩

/-- The condition is exact: a stranded section empties a buffer that had bytes pending,
reports no package appended and hands nothing over. -/
theorem stranded_drops {session : Session} (formed : WellFormed session.buffer) (section_ : Section)
    (stuck : ¬ roomy session section_) :
    pending session.buffer ≠ [] ∧ pending (session.step section_).buffer = [] ∧
      (session.step section_).sent = session.sent ∧ (session.step section_).appended = session.appended := by
  have waits {userDataSize : Nat} {acquiring expanding : Allocation}
      (stranded : Stranded session.buffer userDataSize acquiring expanding) : pending session.buffer ≠ [] := by
    have length := formed.pending_length
    have waiting := stranded.2.2.1
    intro empty
    simp only [empty,List.length_nil] at length
    omega
  cases section_ with
  | moveTransData2Buffer thread transData acquiring expanding =>
    rcases moveTransData2Buffer_spec formed transData acquiring expanding with
      ⟨stranded,dropped,result,-,empty⟩ | ⟨able,-⟩
    · simp only [Session.step,result]
      exact ⟨waits stranded,empty,trivial,rfl⟩
    · exact absurd able stuck
  | sendData thread acquiring expanding sendBytes =>
    rcases sendData_spec formed acquiring expanding sendBytes with ⟨stranded,dropped,result,-,empty⟩ | ⟨able,-⟩
    · simp only [Session.step,result]
      exact ⟨waits stranded,empty,List.append_nil _,trivial⟩
    · exact absurd able stuck

end CommunicationIpc.SendBuffer
