import CommunicationIpc.Kernel.FailedSends
import CommunicationIpc.SendBuffer

/-! What is handed over after a failed send: the packages between the cursors are those of the waiting messages, and a call whose
`SendBytes` fails leaves its own among them. -/
namespace CommunicationIpc.FailedSends
open CommunicationIpc.Library CommunicationIpc.Kernel.SendBuffer CommunicationIpc.Kernel.FailedSends CommunicationIpc.SendBuffer

theorem moveSendBuffer_size (buffer : BufferObject) : buffer.moveSendBuffer.1.sendBuffSize = buffer.sendBuffSize := by
  unfold BufferObject.moveSendBuffer
  cases buffer.sendBuffer with
  | none => rfl
  | some bytes =>
    simp only
    split <;> rfl

theorem memmoveSendBufferIfInsufficient_size (buffer : BufferObject) (userDataSize : Nat) :
    (buffer.memmoveSendBufferIfInsufficient userDataSize).1.sendBuffSize = buffer.sendBuffSize := by
  have moved := moveSendBuffer_size buffer
  simp only [BufferObject.memmoveSendBufferIfInsufficient]
  split
  · rename_i after failed
    split at failed
    · rw [failed] at moved
      exact moved
    · cases failed
  · rename_i after done
    have same : after.sendBuffSize = buffer.sendBuffSize := by
      split at done
      · rw [done] at moved
        exact moved
      · cases done
        rfl
    split <;> exact same

theorem tryMemmoveSendBuffer_size (buffer : BufferObject) : buffer.tryMemmoveSendBuffer.1.sendBuffSize = buffer.sendBuffSize := by
  simp only [BufferObject.tryMemmoveSendBuffer]
  split
  · exact moveSendBuffer_size buffer
  · rfl

theorem tryExpandSendBufferLocked_size {buffer : BufferObject} (formed : WellFormed buffer) (userDataSize : Nat)
    (allocation : Allocation) :
    buffer.sendBuffSize ≤ (buffer.tryExpandSendBufferLocked userDataSize allocation).1.sendBuffSize := by
  simp only [BufferObject.tryExpandSendBufferLocked]
  split_ifs
  · exact le_refl _
  · exact le_refl _
  · exact le_refl _
  · exact le_refl _
  · generalize getExpandedBufferSize _ _ = nextSize
    rcases expandSendBuffer_spec formed nextSize allocation with ⟨failed,-⟩ | ⟨expanded,grown,-,-,-,width,-⟩
    · rw [failed]
      exact le_refl _
    · rw [grown]
      simp only [memmoveSendBufferIfInsufficient_size,width]
      exact le_max_left _ _

theorem updateSendBufferLocked_size {buffer : BufferObject} (formed : WellFormed buffer) (userDataSize : Nat)
    (allocation : Allocation) : buffer.sendBuffSize ≤ (buffer.updateSendBufferLocked userDataSize allocation).1.sendBuffSize := by
  have grown := tryExpandSendBufferLocked_size formed userDataSize allocation
  simp only [BufferObject.updateSendBufferLocked]
  split
  · exact le_refl _
  · split
    · rename_i after failed
      split at failed
      · rw [failed] at grown
        exact grown
      · cases failed
    · rename_i after done
      have larger : buffer.sendBuffSize ≤ after.sendBuffSize := by
        split at done
        · rw [done] at grown
          exact grown
        · cases done
          exact le_refl _
      have moved := tryMemmoveSendBuffer_size after
      split <;> simp_all only

theorem setSendBufferWriteCursorEx_size (buffer : BufferObject) (cursor : Int) :
    (buffer.setSendBufferWriteCursorEx cursor).1.sendBuffSize = buffer.sendBuffSize := by
  unfold BufferObject.setSendBufferWriteCursorEx
  split_ifs <;> rfl

theorem setSendBufferReadCursorEx_size (buffer : BufferObject) (cursor : Int) :
    (buffer.setSendBufferReadCursorEx cursor).1.sendBuffSize = buffer.sendBuffSize := by
  unfold BufferObject.setSendBufferReadCursorEx
  split_ifs <;> rfl

theorem moveTransData2Buffer_size {buffer : BufferObject} (formed : WellFormed buffer) (transData : Package)
    (acquiring expanding : Allocation) :
    let moved := buffer.moveTransData2Buffer transData acquiring expanding
    buffer.sendBuffSize ≤ moved.1.sendBuffSize ∧ (moved.2 = true → socketBuffSizeUserS ≤ moved.1.sendBuffSize) := by
  simp only [BufferObject.moveTransData2Buffer]
  rcases acquireSendBuffer_spec formed transData.sizeOfSelf acquiring with
    ⟨refused,-⟩ | ⟨acquired,granted,keeps,-,-,width,nonzero,-⟩
  · rw [refused]
    exact ⟨le_refl _,fun failed => absurd failed Bool.false_ne_true⟩
  · have least := (getNeedBufferSize_bounds nonzero).2.2
    have grown := updateSendBufferLocked_size keeps.formed transData.sizeOfSelf expanding
    rw [granted]
    simp only
    revert grown
    obtain ⟨updated,pointer⟩ := acquired.updateSendBufferLocked transData.sizeOfSelf expanding
    intro grown
    simp only at grown
    have both : buffer.sendBuffSize ≤ updated.sendBuffSize ∧ socketBuffSizeUserS ≤ updated.sendBuffSize := by omega
    cases pointer with
    | none => exact ⟨both.1,fun _ => both.2⟩
    | some bytes =>
      simp only
      split_ifs
      · exact ⟨both.1,fun _ => both.2⟩
      · split
        · exact ⟨both.1,fun _ => both.2⟩
        · simp only [setSendBufferReadCursorEx_size,setSendBufferWriteCursorEx_size]
          exact ⟨both.1,fun _ => both.2⟩

theorem sendData_size {buffer : BufferObject} (formed : WellFormed buffer) (acquiring expanding : Allocation) (sendBytes : Int) :
    buffer.sendBuffSize ≤ (buffer.sendData acquiring expanding sendBytes).1.sendBuffSize := by
  simp only [BufferObject.sendData]
  rcases acquireSendBuffer_spec formed socketDefaultBuffSize acquiring with ⟨refused,-⟩ | ⟨acquired,granted,keeps,-,-,width,-⟩
  · rw [refused]
  · have grown := updateSendBufferLocked_size keeps.formed 0 expanding
    rw [granted]
    simp only
    revert grown
    obtain ⟨updated,pointer⟩ := acquired.updateSendBufferLocked 0 expanding
    intro grown
    simp only at grown
    have larger : buffer.sendBuffSize ≤ updated.sendBuffSize := by omega
    cases pointer with
    | none => exact larger
    | some bytes =>
      simp only
      split_ifs
      · exact larger
      · exact larger
      · exact larger
      · have advanced := setSendBufferReadCursorEx_size updated
          (updated.sendBufferCursorR+(updated.sendBufferCursorW-updated.sendBufferCursorR))
        revert advanced
        obtain ⟨after,done⟩ := updated.setSendBufferReadCursorEx
          (updated.sendBufferCursorR+(updated.sendBufferCursorW-updated.sendBufferCursorR))
        intro same
        simp only at same
        cases done <;> exact same ▸ larger

/-- A buffer that has its least size needs no allocation to be acquired. -/
theorem acquireSendBuffer_sized {buffer : BufferObject} (formed : WellFormed buffer) (sized : socketBuffSizeUserS ≤ buffer.sendBuffSize)
    (acquiring : Allocation) :
    buffer.acquireSendBuffer socketDefaultBuffSize acquiring = (buffer,true) := by
  have need : getNeedBufferSize socketDefaultBuffSize = socketBuffSizeUserS := by decide
  have again : getNeedBufferSize socketBuffSizeUserS = socketBuffSizeUserS := by decide
  have least : 0 < socketBuffSizeUserS := by decide
  have nonzero : ¬ socketBuffSizeUserS = 0 := by decide
  have cast := toUInt32_of_small buffer.sendBuffSize (by omega) formed.limited
  have fits : ¬ socketBuffSizeUserS > toUInt32 buffer.sendBuffSize := by omega
  have held : buffer.sendBuffer.isSome = true := by
    cases pointer : buffer.sendBuffer with
    | some bytes => rfl
    | none =>
      have empty : buffer.sendBuffSize = 0 := by simpa [pointer] using formed.backed
      omega
  simp only [BufferObject.acquireSendBuffer,BufferObject.expandSendBuffer,need,again,nonzero,fits,if_false,held]

theorem sendData_sized {buffer : BufferObject} (formed : WellFormed buffer) (sized : socketBuffSizeUserS ≤ buffer.sendBuffSize)
    (acquiring other expanding : Allocation) (sendBytes : Int) :
    buffer.sendData acquiring expanding sendBytes = buffer.sendData other expanding sendBytes := by
  simp only [BufferObject.sendData,acquireSendBuffer_sized formed sized]

theorem stranded_sized {buffer : BufferObject} (sized : socketBuffSizeUserS ≤ buffer.sendBuffSize)
    (acquiring other expanding : Allocation) : Stranded buffer 0 acquiring expanding ↔ Stranded buffer 0 other expanding := by
  have need : getNeedBufferSize 0 = socketBuffSizeUserS := by decide
  have fits : (getNeedBufferSize 0 : Int) ≤ buffer.sendBuffSize := by rw [need]; exact sized
  simp only [Stranded,fits,true_or,true_and]

/-- What one `SendData` on a buffer of its least size or more does: it drops everything, keeps everything, or hands over everything. -/
theorem sendData_outcome {buffer : BufferObject} (formed : WellFormed buffer) (sized : socketBuffSizeUserS ≤ buffer.sendBuffSize)
    (acquiring expanding : Allocation) (sendBytes : Int) :
    (Stranded buffer 0 acquiring expanding ∧
      ∃ dropped, buffer.sendData acquiring expanding sendBytes = (dropped,[],-rpcDatabusInvokerInvalidDataErr) ∧
        pending dropped = []) ∨
    (¬ Stranded buffer 0 acquiring expanding ∧
      ∃ after payload code, buffer.sendData acquiring expanding sendBytes = (after,payload,code) ∧
        ((payload = [] ∧ pending after = pending buffer ∧ (sendBytes ≠ 0 ∨ (pending buffer = [] ∧ code = errNone))) ∨
          (payload = pending buffer ∧ pending after = [] ∧ code = sendBytes))) := by
  rw [sendData_sized formed sized acquiring (some fun _ => 0),stranded_sized sized acquiring (some fun _ => 0)]
  rcases sendData_spec formed (some fun _ => 0) expanding sendBytes with
    ⟨stuck,dropped,result,-,empty⟩ | ⟨able,after,payload,code,result,-,⟨none_,kept,why⟩ | handed⟩
  · exact .inl ⟨stuck,dropped,result,empty⟩
  · exact .inr ⟨able,after,payload,code,result,.inl ⟨none_,kept,why.resolve_left (by simp)⟩⟩
  · exact .inr ⟨able,after,payload,code,result,.inr handed⟩

def packages (waiting : List (Nat × Message)) : List UInt8 :=
  (waiting.map fun entry => entry.2.transData.bytes).flatten

theorem packages_eq_nil_iff (waiting : List (Nat × Message)) : packages waiting = [] ↔ waiting = [] := by
  cases waiting with
  | nil => simp [packages]
  | cons entry rest => simp [packages,entry.2.nonempty]

structure Sound (channel : Channel) : Prop where
  formed : WellFormed channel.buffer
  between : pending channel.buffer = packages channel.waiting
  sized : channel.waiting ≠ [] → socketBuffSizeUserS ≤ channel.buffer.sendBuffSize
  failures : ∀ call ∈ channel.failed, call < channel.written
  callers : ∀ entry ∈ channel.calling, entry.1 < channel.written

/-- Nothing of a failed call was handed over, or waits on an open session to be handed over. -/
structure Clean (channel : Channel) : Prop where
  resent : channel.resent = []
  waiting : 0 < channel.socketId → ∀ entry ∈ channel.waiting, entry.1 ∉ channel.failed

theorem sound_new (socketId : Int) : Sound (Channel.new socketId) := by
  refine ⟨wellFormed_new,?_,?_,?_,?_⟩
  · simp [Channel.new,BufferObject.new,pending,packages]
  · exact fun waits => absurd rfl waits
  · simp [Channel.new]
  · simp [Channel.new]

theorem clean_new (socketId : Int) : Clean (Channel.new socketId) := by
  refine ⟨rfl,?_⟩
  simp [Channel.new]

theorem pending_eq_nil_iff {buffer : BufferObject} (formed : WellFormed buffer) :
    pending buffer = [] ↔ buffer.sendBufferCursorW ≤ buffer.sendBufferCursorR := by
  have length := formed.pending_length
  rw [← List.length_eq_zero_iff]
  have ordered := formed.ordered
  omega

theorem leave_waiting_of_empty (channel : Channel) {buffer : BufferObject} (formed : WellFormed buffer) (empty : pending buffer = []) :
    (channel.leave buffer).waiting = [] := by
  simp only [Channel.leave,(pending_eq_nil_iff formed).mp empty,if_true]

theorem leave_waiting_of_kept {channel : Channel} (sound : Sound channel) {buffer : BufferObject} (formed : WellFormed buffer)
    (kept : pending buffer = pending channel.buffer) : (channel.leave buffer).waiting = channel.waiting := by
  simp only [Channel.leave]
  split
  · rename_i empty
    rw [← pending_eq_nil_iff formed,kept,sound.between,packages_eq_nil_iff] at empty
    exact empty.symm
  · rfl

theorem leave_sound {channel : Channel} (sound : Sound channel) {buffer : BufferObject} (formed : WellFormed buffer)
    (larger : channel.buffer.sendBuffSize ≤ buffer.sendBuffSize)
    (left : pending buffer = [] ∨ pending buffer = pending channel.buffer) : Sound (channel.leave buffer) := by
  have between : pending buffer = packages (channel.leave buffer).waiting := by
    rcases left with empty | kept
    · rw [leave_waiting_of_empty channel formed empty,empty]
      rfl
    · rw [leave_waiting_of_kept sound formed kept,kept,sound.between]
  refine ⟨formed,between,?_,sound.failures,sound.callers⟩
  intro waits
  have waited : channel.waiting ≠ [] := by
    intro idle
    simp only [Channel.leave,idle,ite_self,ne_eq,not_true_eq_false] at waits
  exact le_trans (sound.sized waited) larger

theorem sendData_leaves {channel : Channel} (sound : Sound channel) (attempt : Attempt) :
    let sent := onSendMessage channel.buffer channel.socketId attempt
    WellFormed sent.1 ∧ channel.buffer.sendBuffSize ≤ sent.1.sendBuffSize ∧
      (pending sent.1 = [] ∨ pending sent.1 = pending channel.buffer) := by
  simp only [onSendMessage]
  split
  · exact ⟨sound.formed,le_refl _,.inr rfl⟩
  · have larger := sendData_size sound.formed attempt.acquiring attempt.expanding attempt.sendBytes
    rcases sendData_spec sound.formed attempt.acquiring attempt.expanding attempt.sendBytes with
      ⟨-,dropped,result,formed,empty⟩ | ⟨-,after,payload,code,result,formed,⟨-,kept,-⟩ | ⟨-,emptied,-⟩⟩
    · rw [result] at larger ⊢
      exact ⟨formed,larger,.inl empty⟩
    · rw [result] at larger ⊢
      exact ⟨formed,larger,.inr kept⟩
    · rw [result] at larger ⊢
      exact ⟨formed,larger,.inl emptied⟩

theorem sent_sound {channel : Channel} (sound : Sound channel) (attempt : Attempt) :
    let sent := onSendMessage channel.buffer channel.socketId attempt
    Sound (channel.sent sent.1 sent.2.1) := by
  obtain ⟨formed,larger,left⟩ := sendData_leaves sound attempt
  obtain ⟨formed,between,sized,failures,callers⟩ := leave_sound sound formed larger left
  exact ⟨formed,between,sized,failures,callers⟩

theorem complete_sound {channel : Channel} (sound : Sound channel) {call : Nat} (known : call < channel.written)
    (completion : Completion) : Sound (channel.complete call completion) := by
  refine ⟨sound.formed,sound.between,sound.sized,?_,?_⟩
  · intro other listed
    cases completion with
    | noSeqNumber => exact sound.failures other listed
    | waited result => exact sound.failures other listed
    | notSent error =>
      rcases List.mem_append.mp listed with earlier | now
      · exact sound.failures other earlier
      · rw [List.mem_singleton.mp now]
        exact known
  · intro entry listed
    exact sound.callers entry (List.mem_of_mem_filter listed)

theorem mem_of_lookup {calls : List (Nat × Message)} {call : Nat} {message : Message}
    (found : calls.lookup call = some message) : (call,message) ∈ calls := by
  induction calls with
  | nil => cases found
  | cons entry rest ih =>
    obtain ⟨other,held⟩ := entry
    simp only [List.lookup_cons] at found
    split at found
    · rename_i same
      rw [beq_iff_eq] at same
      cases found
      rw [same]
      exact List.mem_cons_self
    · exact List.mem_cons_of_mem _ (ih found)

theorem sendOrWaitForCompletion_eq (buffer : BufferObject) (socketId : Int) {seqNumber : Nat} (numbered : seqNumber ≠ 0)
    (attempt : Attempt) (waitForReply : Int) :
    sendOrWaitForCompletion buffer socketId seqNumber attempt waitForReply =
      ((onSendMessage buffer socketId attempt).1,(onSendMessage buffer socketId attempt).2.1,
        if (onSendMessage buffer socketId attempt).2.2 ≠ 0 then .notSent (onSendMessage buffer socketId attempt).2.2
        else .waited waitForReply) := by
  simp only [sendOrWaitForCompletion,numbered,if_false]

theorem step_sound {channel : Channel} (sound : Sound channel) (event : Event) : Sound (channel.step event) := by
  cases event with
  | writeTransaction message acquiring expanding =>
    have size := moveTransData2Buffer_size sound.formed message.transData acquiring expanding
    simp only [Channel.step]
    rcases moveTransData2Buffer_spec sound.formed message.transData acquiring expanding with
      ⟨-,dropped,result,formed,empty⟩ | ⟨-,⟨refused,result,keeps,-⟩ | ⟨appended,result,formed,extended⟩⟩
    · rw [result] at size ⊢
      exact leave_sound sound formed size.1 (.inl empty)
    · rw [result] at size ⊢
      exact leave_sound sound keeps.formed size.1 (.inr keeps.same)
    · rw [result] at size ⊢
      refine ⟨formed,?_,fun _ => size.2 rfl,?_,?_⟩
      · rw [extended,sound.between]
        simp [packages]
      · intro call listed
        exact Nat.lt_succ_of_lt (sound.failures call listed)
      · intro entry listed
        rcases List.mem_append.mp listed with earlier | now
        · exact Nat.lt_succ_of_lt (sound.callers entry earlier)
        · rw [List.mem_singleton.mp now]
          exact Nat.lt_succ_self _
  | sendOrWaitForCompletion call attempt waitForReply =>
    simp only [Channel.step]
    cases found : channel.calling.lookup call with
    | none => exact sound
    | some message =>
      have known := sound.callers _ (mem_of_lookup found)
      by_cases numbered : message.seqNumber = 0
      · simp only [sendOrWaitForCompletion,numbered,if_true]
        have unsent : Sound (channel.sent channel.buffer []) := by
          obtain ⟨formed,between,sized,failures,callers⟩ := leave_sound sound sound.formed (le_refl _) (.inr rfl)
          exact ⟨formed,between,sized,failures,callers⟩
        exact complete_sound unsent known _
      · simp only [sendOrWaitForCompletion_eq _ _ numbered]
        exact complete_sound (sent_sound sound attempt) known _
  | flushCommands attempt => exact sent_sound sound attempt
  | closeDatabusSession => exact ⟨sound.formed,sound.between,sound.sized,sound.failures,sound.callers⟩

/-- The call's own package is still pending when its `SendBytes` fails. -/
def LeavesItsPackage (channel : Channel) : Event → Prop
  | .sendOrWaitForCompletion call attempt _ =>
    (∃ message, channel.calling.lookup call = some message ∧ message.seqNumber ≠ 0) ∧ call ∈ channel.waiting.map Prod.fst ∧
      0 < channel.socketId ∧ attempt.sendBytes ≠ 0 ∧ ¬ Stranded channel.buffer 0 attempt.acquiring attempt.expanding
  | _ => False

theorem not_leavesItsPackage_of_sent (channel : Channel) (call : Nat) {attempt : Attempt} (taken : attempt.sendBytes = 0)
    (waitForReply : Int) : ¬ LeavesItsPackage channel (.sendOrWaitForCompletion call attempt waitForReply) :=
  fun left => left.2.2.2.1 taken

theorem leave_waiting_subset (channel : Channel) (buffer : BufferObject) : (channel.leave buffer).waiting ⊆ channel.waiting := by
  simp only [Channel.leave]
  split
  · exact List.nil_subset _
  · exact List.Subset.refl _

theorem sent_clean {channel : Channel} (clean : Clean channel) (attempt : Attempt) :
    let sent := onSendMessage channel.buffer channel.socketId attempt
    Clean (channel.sent sent.1 sent.2.1) := by
  intro sent
  refine ⟨?_,?_⟩
  · simp only [Channel.sent,clean.resent,List.nil_append]
    split
    · rfl
    · rename_i handed
      rw [List.filter_eq_nil_iff]
      intro call listed
      obtain ⟨entry,waits,rfl⟩ := List.mem_map.mp listed
      have open_ : 0 < channel.socketId := by
        by_contra closed
        apply handed
        simp only [sent,onSendMessage,not_lt.mp closed,if_true]
      simpa using clean.waiting open_ entry waits
  · intro open_ entry waits
    exact clean.waiting open_ entry (leave_waiting_subset channel sent.1 waits)

/-- A send that fails leaves the call's own package only where its `SendBytes` failed. -/
theorem emptied_of_failed {channel : Channel} (sound : Sound channel) {call : Nat} (waits : call ∈ channel.waiting.map Prod.fst)
    (open_ : 0 < channel.socketId) {attempt : Attempt}
    (able : ¬ (attempt.sendBytes ≠ 0 ∧ ¬ Stranded channel.buffer 0 attempt.acquiring attempt.expanding)) :
    pending (onSendMessage channel.buffer channel.socketId attempt).1 = [] := by
  have present : channel.waiting ≠ [] := by
    intro idle
    rw [idle] at waits
    cases waits
  have filled : pending channel.buffer ≠ [] := by
    rw [sound.between]
    exact fun empty => present ((packages_eq_nil_iff _).mp empty)
  simp only [onSendMessage,not_le.mpr open_,if_false]
  rcases sendData_outcome sound.formed (sound.sized present) attempt.acquiring attempt.expanding attempt.sendBytes with
    ⟨-,dropped,result,empty⟩ | ⟨roomy,after,payload,code,result,⟨-,-,why⟩ | ⟨-,emptied,-⟩⟩
  · rw [result]
    exact empty
  · rcases why with refused | ⟨idle,-⟩
    · exact absurd ⟨refused,roomy⟩ able
    · exact absurd idle filled
  · rw [result]
    exact emptied

theorem step_clean {channel : Channel} (sound : Sound channel) (clean : Clean channel) {event : Event}
    (met : ¬ LeavesItsPackage channel event) : Clean (channel.step event) := by
  cases event with
  | writeTransaction message acquiring expanding =>
    simp only [Channel.step]
    split
    · refine ⟨clean.resent,?_⟩
      intro open_ entry waits
      rcases List.mem_append.mp waits with earlier | now
      · exact clean.waiting open_ entry earlier
      · rw [List.mem_singleton.mp now]
        exact fun listed => lt_irrefl _ (sound.failures _ listed)
    · exact ⟨clean.resent,fun open_ entry waits => clean.waiting open_ entry (leave_waiting_subset _ _ waits)⟩
  | sendOrWaitForCompletion call attempt waitForReply =>
    simp only [Channel.step]
    cases found : channel.calling.lookup call with
    | none => exact clean
    | some message =>
      by_cases numbered : message.seqNumber = 0
      · simp only [sendOrWaitForCompletion,numbered,if_true]
        refine ⟨?_,fun open_ entry waits => clean.waiting open_ entry (leave_waiting_subset _ _ waits)⟩
        simp only [Channel.complete,Channel.sent,clean.resent,if_true,List.append_nil]
      · simp only [sendOrWaitForCompletion_eq _ _ numbered]
        have after := sent_clean clean attempt
        refine ⟨after.resent,?_⟩
        intro open_ entry waits
        have before := after.waiting open_ entry waits
        simp only [Channel.complete]
        split
        · intro listed
          rcases List.mem_append.mp listed with earlier | now
          · exact before earlier
          · have own : call ∈ channel.waiting.map Prod.fst := by
              rw [← List.mem_singleton.mp now]
              exact List.mem_map_of_mem (leave_waiting_subset _ _ waits)
            have empty := emptied_of_failed sound own open_
              (fun both => met ⟨⟨message,found,numbered⟩,own,open_,both⟩)
            have none_ := leave_waiting_of_empty channel (sendData_leaves sound attempt).1 empty
            have waits : entry ∈ (channel.leave (onSendMessage channel.buffer channel.socketId attempt).1).waiting := waits
            rw [none_] at waits
            cases waits
        · exact before
  | flushCommands attempt => exact sent_clean clean attempt
  | closeDatabusSession => exact ⟨clean.resent,fun open_ => absurd open_ (lt_irrefl _)⟩

/-- In a run in which no call's `SendBytes` fails while its own package is pending, nothing of a call that was told that sending
failed is handed over later, and the next `SendData` hands over nothing or the packages of calls that were not told so. -/
theorem failed_not_handed_over {socketId : Int} {events : List Event} {channel : Channel}
    (run : Reaches (guarded (does Channel.step) fun channel event => ¬ LeavesItsPackage channel event)
      (Channel.new socketId) events channel) :
    channel.resent = [] ∧ ∀ attempt, let sent := onSendMessage channel.buffer channel.socketId attempt
      sent.2.1 = [] ∨ (sent.2.1 = packages channel.waiting ∧ ∀ entry ∈ channel.waiting, entry.1 ∉ channel.failed) := by
  have both : Sound channel ∧ Clean channel := by
    apply run.invariant (fun channel => Sound channel ∧ Clean channel) ⟨sound_new socketId,clean_new socketId⟩
    rintro before event _ ⟨sound,clean⟩ ⟨met,rfl⟩
    exact ⟨step_sound sound event,step_clean sound clean met⟩
  obtain ⟨sound,clean⟩ := both
  refine ⟨clean.resent,?_⟩
  intro attempt
  simp only [onSendMessage]
  split
  · exact .inl rfl
  · rename_i open_
    rcases sendData_spec sound.formed attempt.acquiring attempt.expanding attempt.sendBytes with
      ⟨-,dropped,result,-⟩ | ⟨-,after,payload,code,result,-,⟨none_,-⟩ | ⟨handed,-⟩⟩
    · rw [result]
      exact .inl rfl
    · rw [result]
      exact .inl none_
    · rw [result]
      exact .inr ⟨handed.trans sound.between,clean.waiting (not_le.mp open_)⟩

def shortMessage (seqNumber : Nat) (byte : UInt8) : Message := ⟨seqNumber,⟨[byte,byte,byte],by simp⟩,by simp⟩

/-- The driver's allocations succeed and `SendBytes` returns `sendBytes`. -/
def attemptOf (sendBytes : Int) : Attempt := ⟨some fun _ => 0,some fun _ => 0,sendBytes⟩

theorem failed_not_handed_over_short :
    let events : List Event := [.writeTransaction (shortMessage 1 7) (some fun _ => 0) none,
      .sendOrWaitForCompletion 0 (attemptOf 0) 0]
    let channel := events.foldl Channel.step (Channel.new 5)
    channel.resent = [] ∧ channel.failed = [] ∧ channel.waiting.length = 0 := by
  intro events channel
  have first : Reaches (guarded (does Channel.step) fun channel event => ¬ LeavesItsPackage channel event) (Channel.new 5)
      [.writeTransaction (shortMessage 1 7) (some fun _ => 0) none]
      ((Channel.new 5).step (.writeTransaction (shortMessage 1 7) (some fun _ => 0) none)) :=
    .single ⟨fun left => left,rfl⟩
  have run := first.snoc (Event.sendOrWaitForCompletion 0 (attemptOf 0) 0) ⟨not_leavesItsPackage_of_sent _ 0 rfl 0,rfl⟩
  exact ⟨(failed_not_handed_over run).1,by decide +kernel,by decide +kernel⟩

/-- The first call is told that sending failed; the second call's `SendData` hands over both packages. -/
theorem failed_call_resent :
    let first := ([.writeTransaction (shortMessage 1 7) (some fun _ => 0) none,
      .sendOrWaitForCompletion 0 (attemptOf (-1)) 0] : List Event).foldl Channel.step (Channel.new 5)
    let second := first.step (.writeTransaction (shortMessage 2 8) none none)
    first.failed = [0] ∧ (Completion.notSent (-1)).code = rpcBaseInvokerInvalidDataErr ∧
      (onSendMessage second.buffer second.socketId (attemptOf 0)).2.1 = [7,7,7,8,8,8] ∧
      (second.step (.sendOrWaitForCompletion 1 (attemptOf 0) 0)).resent = [0] := by
  decide +kernel

/-- A send that `SendBytes` refuses leaves room behind the write cursor, so that the next one is not stranded. -/
theorem sendData_refused_room {buffer : BufferObject} (formed : WellFormed buffer) (sized : socketBuffSizeUserS ≤ buffer.sendBuffSize)
    (filled : pending buffer ≠ []) (acquiring : Allocation) {expanding : Allocation} {sendBytes : Int} (refused : sendBytes ≠ 0)
    (able : ¬ Stranded buffer 0 acquiring expanding) :
    ∃ after, buffer.sendData acquiring expanding sendBytes = (after,[],sendBytes) ∧ Keeps buffer after ∧
      after.sendBufferCursorW < after.sendBuffSize ∧ buffer.sendBuffSize ≤ after.sendBuffSize := by
  have need : getNeedBufferSize 0 = socketBuffSizeUserS := by decide
  have least : 0 < socketBuffSizeUserS := by decide
  have waiting : ¬ buffer.sendBufferCursorW ≤ buffer.sendBufferCursorR := fun idle => filled ((pending_eq_nil_iff formed).mpr idle)
  have width : max buffer.sendBuffSize (getNeedBufferSize 0 : Int) = buffer.sendBuffSize := max_eq_left (by rw [need]; exact sized)
  have larger := updateSendBufferLocked_size formed 0 expanding
  rcases updateSendBufferLocked_spec formed (by omega) 0 expanding with
    ⟨short,tight,exhausted,-⟩ | ⟨-,updated,bytes,update,held,keeps,room⟩
  · refine absurd ⟨by rw [need]; exact Nat.ne_of_gt least,.inl (by rw [need]; exact sized),short,?_,?_⟩ able
    · rw [width]
      exact tight
    · rw [width]
      exact exhausted
  · rw [update] at larger
    have behind : updated.sendBufferCursorW < updated.sendBuffSize := by
      rcases room with behind | ⟨emptied,same⟩ <;> omega
    have start := keeps.formed.readStart
    have ordered := keeps.formed.ordered
    have sane : ¬ (updated.sendBufferCursorR < 0 ∨ updated.sendBufferCursorW < 0 ∨
        updated.sendBufferCursorR > updated.sendBuffSize ∨ updated.sendBufferCursorW < updated.sendBufferCursorR) := by omega
    have some_ : ¬ updated.sendBufferCursorW = updated.sendBufferCursorR := by
      intro idle
      apply filled
      rw [← keeps.same,pending_eq_nil_iff keeps.formed]
      omega
    refine ⟨updated,?_,keeps,behind,larger⟩
    simp only [BufferObject.sendData,acquireSendBuffer_sized formed sized,update,sane,if_false]
    rw [if_neg some_,if_pos refused]

/-- The condition is exact: where a step misses it, the next send that `SendBytes` takes hands over the package of the failed call. -/
theorem left_package_resent {channel : Channel} (sound : Sound channel) {call : Nat} {attempt : Attempt} {waitForReply : Int}
    (left : LeavesItsPackage channel (.sendOrWaitForCompletion call attempt waitForReply)) :
    let after := channel.step (.sendOrWaitForCompletion call attempt waitForReply)
    call ∈ after.failed ∧ call ∈ (after.step (.flushCommands ⟨none,none,0⟩)).resent := by
  obtain ⟨⟨message,found,numbered⟩,own,open_,refused,able⟩ := left
  have present : channel.waiting ≠ [] := by
    intro idle
    rw [idle] at own
    cases own
  have sized := sound.sized present
  have filled : pending channel.buffer ≠ [] := by
    rw [sound.between]
    exact fun empty => present ((packages_eq_nil_iff _).mp empty)
  obtain ⟨after,result,keeps,behind,larger⟩ := sendData_refused_room sound.formed sized filled attempt.acquiring refused able
  have sent : onSendMessage channel.buffer channel.socketId attempt = (after,[],attempt.sendBytes) := by
    simp only [onSendMessage,not_le.mpr open_,if_false,result]
  have waits : (channel.leave after).waiting = channel.waiting := leave_waiting_of_kept sound keeps.formed keeps.same
  have stepped : channel.step (.sendOrWaitForCompletion call attempt waitForReply) =
      (channel.sent after []).complete call (.notSent attempt.sendBytes) := by
    simp only [Channel.step,found,sendOrWaitForCompletion_eq _ _ numbered,sent,refused,ne_eq,not_false_eq_true,if_true]
  intro next
  have failed : call ∈ next.failed := by
    simp only [next,stepped,Channel.complete]
    exact List.mem_append_right _ List.mem_cons_self
  refine ⟨failed,?_⟩
  have roomy : ¬ Stranded after 0 none none := by
    intro stuck
    have tight := stuck.2.2.2.1
    omega
  have handed : (onSendMessage next.buffer next.socketId ⟨none,none,0⟩).2.1 ≠ [] := by
    have buffer : next.buffer = after := by simp only [next,stepped,Channel.complete,Channel.sent,Channel.leave]
    have socket : next.socketId = channel.socketId := by simp only [next,stepped,Channel.complete,Channel.sent,Channel.leave]
    simp only [onSendMessage,buffer,socket,not_le.mpr open_,if_false]
    rcases sendData_outcome keeps.formed (le_trans sized larger) none none 0 with
      ⟨stuck,-⟩ | ⟨-,last,payload,code,final,⟨-,-,why⟩ | ⟨whole,-,-⟩⟩
    · exact absurd stuck roomy
    · rcases why with nonzero | ⟨idle,-⟩
      · exact absurd rfl nonzero
      · rw [keeps.same] at idle
        exact absurd idle filled
    · rw [final]
      rw [whole,keeps.same]
      exact filled
  have waiting : next.waiting = channel.waiting := by
    simp only [next,stepped,Channel.complete,Channel.sent]
    exact waits
  simp only [Channel.step,Channel.sent,handed,if_false,waiting]
  refine List.mem_append_right _ (List.mem_filter.mpr ⟨own,?_⟩)
  exact decide_eq_true failed

end CommunicationIpc.FailedSends
