import CommunicationIpc.Kernel.BinderInvoker
import CommunicationIpc.Library.Run

/-! What the writers, the driver and the wait loop of a `BinderInvoker` each make of its state. -/
namespace CommunicationIpc.BinderSteps
open CommunicationIpc.Library CommunicationIpc.Kernel.BinderOutput CommunicationIpc.Kernel.BinderInvoker

section Commands

theorem commandSize_eq {bytes : List UInt8} (found : 0 < commandSize bytes) :
    4 ≤ bytes.length ∧ commandSize bytes = 4+iocSize (ofLE (bytes.take 4)) ∧ commandSize bytes ≤ bytes.length := by
  unfold commandSize at found ⊢
  dsimp only at found ⊢
  split at found
  · rename_i enough
    rw [if_pos enough]
    exact ⟨enough.1,rfl,enough.2⟩
  · omega

theorem commandSize_of_head {bytes : List UInt8} {size : Nat} (long : 4 ≤ bytes.length)
    (header : 4+iocSize (ofLE (bytes.take 4)) = size) (enough : size ≤ bytes.length) : commandSize bytes = size := by
  unfold commandSize
  dsimp only
  rw [header,if_pos ⟨long,enough⟩]

/-- Commands carry the size of what follows in their code. -/
def commands : Framer UInt8 where
  size := commandSize
  size_le := by
    intro stream
    unfold commandSize
    dsimp only
    split
    · rename_i enough
      exact enough.2
    · exact Nat.zero_le _
  alone := by
    intro stream found
    obtain ⟨long,header,enough⟩ := commandSize_eq found
    have width : (stream.take (commandSize stream)).length = commandSize stream := List.length_take_of_le enough
    apply commandSize_of_head
    · omega
    · rw [List.take_take,Nat.min_eq_left (by omega)]
      exact header.symm
    · exact width.ge
  extend := by
    intro frame more found
    obtain ⟨long,header,enough⟩ := commandSize_eq found
    apply commandSize_of_head
    · rw [List.length_append]
      omega
    · rw [List.take_append_of_le_length long]
      exact header.symm
    · rw [List.length_append]
      omega

/-- A sequence of complete commands. -/
def Complete (bytes : List UInt8) : Prop :=
  ∃ parts : List (List UInt8), (∀ part ∈ parts, commands.IsFrame part) ∧ parts.flatten = bytes

/-- Each segment is one complete command. -/
def Framed (output : Output) : Prop := ∀ segment ∈ output, commands.IsFrame segment.bytes

theorem Framed.complete {output : Output} (framed : Framed output) : Complete output.bytes := by
  refine ⟨output.map Segment.bytes,?_,List.flatMap_def.symm⟩
  intro part member
  obtain ⟨segment,inside,same⟩ := List.mem_map.mp member
  rw [← same]
  exact framed segment inside

theorem framed_nil : Framed [] := nofun

theorem Framed.append {output : Output} (framed : Framed output) {segment : Segment} (frame : commands.IsFrame segment.bytes) :
    Framed (output ++ [segment]) := by
  intro other member
  rcases List.mem_append.mp member with before | last
  · exact framed other before
  · rw [List.mem_singleton.mp last]
    exact frame

theorem Framed.tail {segment : Segment} {output : Output} (framed : Framed (segment :: output)) : Framed output :=
  fun other member => framed other (List.mem_cons_of_mem segment member)

theorem Framed.of_suffix {front back : Output} (framed : Framed (front ++ back)) : Framed back :=
  fun segment member => framed segment (List.mem_append_right front member)

theorem isFrame_command {code : Nat} {payload : List UInt8} (small : code < 2^32) (size : payload.length = iocSize code) :
    commands.IsFrame (toLE 4 code ++ payload) := by
  have head : (toLE 4 code ++ payload).take 4 = toLE 4 code := List.take_left' (toLE_length 4 code)
  have width : (toLE 4 code ++ payload).length = 4+iocSize code := by
    rw [List.length_append,toLE_length,size]
  have same : commandSize (toLE 4 code ++ payload) = 4+iocSize code := by
    apply commandSize_of_head
    · omega
    · rw [head,ofLE_toLE,Nat.mod_eq_of_lt (by omega)]
    · exact width.ge
  exact ⟨by change 0 < commandSize _; omega,same.trans width.symm⟩

theorem isFrame_pos {part : List UInt8} (frame : commands.IsFrame part) : 0 < part.length := frame.2 ▸ frame.1

theorem consume_zero {output : Output} (framed : Framed output) : consume 0 output = ([],output) := by
  cases output with
  | nil => rfl
  | cons segment rest =>
    have positive := isFrame_pos (framed segment List.mem_cons_self)
    simp only [consume]
    rw [if_neg (by omega)]
    rfl

theorem consume_length (output : Output) : consume output.bytes.length output = (output,[]) := by
  induction output with
  | nil => rfl
  | cons segment rest ih =>
    have width : Output.bytes (segment :: rest) = segment.bytes ++ Output.bytes rest := rfl
    rw [width,List.length_append,consume,if_pos (Nat.le_add_right _ _),Nat.add_sub_cancel_left,ih]

theorem bytes_append (front back : Output) : Output.bytes (front ++ back) = Output.bytes front ++ Output.bytes back :=
  List.flatMap_append

theorem eq_nil_of_bytes {output : Output} (framed : Framed output) (empty : output.bytes = []) : output = [] := by
  cases output with
  | nil => rfl
  | cons segment rest =>
    have positive := isFrame_pos (framed segment List.mem_cons_self)
    have width := congrArg List.length empty
    simp only [Output.bytes,List.flatMap_cons,List.length_append,List.length_nil] at width
    omega

theorem consume_split {output : Output} (framed : Framed output) (taken : Taken) :
    ∃ front back, output = front ++ back ∧ writeConsumed output.bytes taken = (Output.bytes front).length ∧
      consume (writeConsumed output.bytes taken) output = (front,back) := by
  cases taken with
  | all => exact ⟨output,[],(List.append_nil output).symm,rfl,consume_length output⟩
  | first count =>
    change ∃ front back, output = front ++ back ∧ commandsSize count output.bytes = _ ∧
      consume (commandsSize count output.bytes) output = (front,back)
    induction count generalizing output with
    | zero => exact ⟨[],output,rfl,rfl,consume_zero framed⟩
    | succ count ih =>
      cases output with
      | nil => exact ⟨[],[],rfl,rfl,rfl⟩
      | cons segment rest =>
        obtain ⟨front,back,same,length,split⟩ := ih framed.tail
        have frame := framed segment List.mem_cons_self
        have positive := isFrame_pos frame
        have size : commandSize (segment.bytes ++ Output.bytes rest) = segment.bytes.length :=
          Framer.size_of_prefix frame (List.prefix_append segment.bytes (Output.bytes rest))
        have total : commandsSize (count+1) (Output.bytes (segment :: rest)) =
            segment.bytes.length+commandsSize count (Output.bytes rest) := by
          change commandsSize (count+1) (segment.bytes ++ Output.bytes rest) = _
          simp only [commandsSize,size]
          rw [if_neg (by omega),List.drop_left]
        refine ⟨segment :: front,back,by rw [same]; rfl,?_,?_⟩
        · rw [total,length,← List.length_append]
          rfl
        · rw [total,consume,if_pos (Nat.le_add_right _ _),Nat.add_sub_cancel_left,split]

end Commands

section Writers
variable {output : Output} {writes : Writes}

/-- Every write of the command succeeds. -/
def Sound (writes : Writes) : Prop := writes.code = true ∧ ∀ outcome ∈ writes.fields, outcome = true

/-- `FlushBuffer` does not have to undo the command. -/
def Kept (writes : Writes) : Prop := Sound writes ∨ writes.rewind = true

/-- What a writer other than `WriteTransaction` makes of `output_`. -/
inductive Written (output : Output) (writes : Writes) : Output → Prop
  | same : Written output writes output
  | flushed (lost : ¬ Kept writes) : Written output writes []
  | appended {bytes : List UInt8} (frame : commands.IsFrame bytes) : Written output writes (output ++ [⟨none,bytes⟩])

theorem writeFields_eq {written bytes : List UInt8} {fields : List (List UInt8)} {outcomes : List Bool}
    (done : writeFields written fields outcomes = some bytes) : bytes = written ++ fields.flatten := by
  induction fields generalizing written outcomes with
  | nil =>
    cases done
    simp
  | cons field fields ih =>
    simp only [writeFields] at done
    split at done
    · rw [ih done,List.flatten_cons,List.append_assoc]
    · cases done

theorem writeFields_sound {written : List UInt8} {fields : List (List UInt8)} {outcomes : List Bool}
    (sound : ∀ outcome ∈ outcomes, outcome = true) : writeFields written fields outcomes ≠ none := by
  induction fields generalizing written outcomes with
  | nil => exact nofun
  | cons field fields ih =>
    have head : outcomes.headD true = true := by
      cases outcomes with
      | nil => rfl
      | cons outcome outcomes => exact sound outcome List.mem_cons_self
    simp only [writeFields,head,if_true]
    apply ih
    intro outcome member
    exact sound outcome (List.mem_of_mem_tail member)

theorem written_rewind (failed : ¬ Sound writes) : Written output writes (rewind output writes) := by
  unfold rewind
  split
  · exact .same
  · rename_i cleared
    exact .flushed fun kept => kept.elim failed cleared

theorem writeCommand_written {code : Nat} {fields : List (List UInt8)} (small : code < 2^32)
    (size : fields.flatten.length = iocSize code) : Written output writes (writeCommand output code fields writes).1 := by
  unfold writeCommand
  split
  · exact .same
  · split
    · rename_i bytes done
      rw [writeFields_eq done]
      exact .appended (isFrame_command small size)
    · rename_i failed
      apply written_rewind
      intro sound
      exact writeFields_sound sound.2 failed

theorem fields_length (widths : List Nat) (values : List Nat) (same : widths.length = values.length) :
    (List.zipWith toLE widths values).flatten.length = widths.sum := by
  induction widths generalizing values with
  | nil => simp
  | cons width widths ih =>
    cases values with
    | nil => cases same
    | cons value values =>
      rw [List.zipWith_cons_cons,List.flatten_cons,List.length_append,toLE_length,ih values (by simpa using same),List.sum_cons]

theorem acquireHandle_written (handle : UInt32) : Written output writes (acquireHandle output handle writes).1 :=
  writeCommand_written (by decide) (fields_length [4] [handle.toNat] rfl)

theorem releaseHandle_written (handle : UInt32) : Written output writes (releaseHandle output handle writes).1 :=
  writeCommand_written (by decide) (fields_length [4] [handle.toNat] rfl)

theorem addRecipient_written (handle : UInt32) (cookie : UInt64) (recipient : Recipient) :
    Written output writes (addRecipient output handle cookie writes recipient).1 := by
  cases recipient <;> exact writeCommand_written (by decide) (fields_length [4,8] [handle.toNat,cookie.toNat] rfl)

theorem removeRecipient_written (handle : UInt32) (cookie : UInt64) (recipient : Recipient) :
    Written output writes (removeRecipient output handle cookie writes recipient).1 := by
  cases recipient <;> exact writeCommand_written (by decide) (fields_length [4,8] [handle.toNat,cookie.toNat] rfl)

theorem freeBuffer_written (data : UInt64) : Written output writes (freeBuffer output writes data).1 :=
  writeCommand_written (by decide) (fields_length [8] [data.toNat] rfl)

theorem onBinderDied_written (cookie : UInt64) : Written output writes (onBinderDied output cookie writes) := by
  unfold onBinderDied
  split
  · exact .same
  · exact writeCommand_written (by decide) (fields_length [8] [cookie.toNat] rfl)

theorem onBinderRefreshed_written (cookie : UInt64) : Written output writes (onBinderRefreshed output cookie writes) := by
  unfold onBinderRefreshed
  split
  · exact .same
  · exact writeCommand_written (by decide) (fields_length [8] [cookie.toNat] rfl)

theorem onAcquireObject_written (acquire : Bool) (refs object : UInt64) :
    Written output writes (onAcquireObject output writes acquire refs object) := by
  unfold onAcquireObject
  dsimp only
  split
  · rename_i failed
    exact written_rewind fun sound => failed sound.1
  · cases acquire <;> exact writeCommand_written (by decide) (fields_length [8,8] [refs.toNat,object.toNat] rfl)

theorem onAttemptAcquire_written (success : Bool) : Written output writes (onAttemptAcquire output writes success) :=
  writeCommand_written (by decide) (fields_length [4] [success.toNat] rfl)

theorem writeLooper_written {code : Nat} (small : code < 2^32) (size : iocSize code = 0) :
    Written output writes (writeLooper output writes code) :=
  writeCommand_written small size.symm

theorem Written.framed {result : Output} (written : Written output writes result) (framed : Framed output) : Framed result := by
  cases written with
  | same => exact framed
  | flushed lost => exact framed_nil
  | appended frame => exact framed.append frame

theorem transactionData_length (flags handle code : UInt32) (parcel : ParcelView) (status : Option UInt64) :
    (transactionData flags handle code parcel status).length = 64 := by
  unfold transactionData
  dsimp only
  split
  · simp only [List.length_append,toLE_length]
  · split <;> simp only [List.length_append,toLE_length]

/-- A transaction is written whole, or not at all, unless its second write fails. -/
theorem writeTransaction_cases {owner : Option Owner} {plain gathered : Nat} {flags handle code : UInt32} {parcel : ParcelView}
    {status : Option UInt64} {total : Nat} (smallPlain : plain < 2^32) (smallGathered : gathered < 2^32)
    (sizePlain : iocSize plain = 64) (sizeGathered : iocSize gathered = 72) (result : Output × Bool)
    (made : writeTransaction output owner (if 0 < total then gathered else plain) flags handle code parcel status total writes = result)
    (second : writes.code = true → writes.fields.headD true = true) :
    result = (output,false) ∧ writes.code = false ∨
      writes.code = true ∧ ∃ bytes, commands.IsFrame bytes ∧ result = (output ++ [⟨owner,bytes⟩],true) := by
  subst made
  unfold writeTransaction
  dsimp only
  by_cases first : writes.code = true
  · right
    rw [if_neg (by simp [first]),if_pos (second first)]
    refine ⟨first,_,?_,rfl⟩
    by_cases positive : 0 < total
    · rw [if_pos positive,if_pos positive]
      apply isFrame_command smallGathered
      rw [List.length_append,transactionData_length,toLE_length,sizeGathered]
    · rw [if_neg positive,if_neg positive]
      apply isFrame_command smallPlain
      rw [transactionData_length,sizePlain]
  · left
    rw [if_pos first]
    exact ⟨rfl,by simpa using first⟩

end Writers

section Driver
variable {invoker : Invoker} {ioctl : Ioctl}

/-- What handing over `output_`, reading and queueing leave of an invoker. When nothing is lost, what the driver took is
what was written first. -/
structure Works (lossless : Prop) (before after : Invoker) : Prop where
  framed : Framed after.output
  owned : ∀ segment ∈ after.output, segment.owner ≠ none → segment ∈ before.output
  handed : lossless → ∃ front, synchronous before.output = front ++ synchronous after.output ∧
    after.driver.outstanding = front.reverse ++ before.driver.outstanding
  unread : after.input ++ after.driver.todo = before.input ++ before.driver.todo
  frames : after.frames = before.frames
  results : after.results = before.results
  requests : after.requests = before.requests
  answers : after.driver.answers = before.driver.answers

theorem Works.same {lossless : Prop} (framed : Framed invoker.output) : Works lossless invoker invoker where
  framed := framed
  owned := fun _ member _ => member
  handed := fun _ => ⟨[],rfl,rfl⟩
  unread := rfl
  frames := rfl
  results := rfl
  requests := rfl
  answers := rfl

theorem Works.trans {lossless : Prop} {middle after : Invoker} (first : Works lossless invoker middle)
    (second : Works lossless middle after) : Works lossless invoker after where
  framed := second.framed
  owned := fun segment member some => first.owned segment (second.owned segment member some) some
  handed := by
    intro kept
    obtain ⟨front,output,outstanding⟩ := first.handed kept
    obtain ⟨more,rest,later⟩ := second.handed kept
    refine ⟨front ++ more,?_,?_⟩
    · rw [output,rest,List.append_assoc]
    · rw [later,outstanding,List.reverse_append,List.append_assoc]
  unread := second.unread.trans first.unread
  frames := second.frames.trans first.frames
  results := second.results.trans first.results
  requests := second.requests.trans first.requests
  answers := second.answers.trans first.answers

theorem Works.mono {weak strong : Prop} {after : Invoker} (less : strong → weak) (works : Works weak invoker after) :
    Works strong invoker after :=
  { works with handed := fun kept => works.handed (less kept) }

theorem synchronous_append (front back : Output) : synchronous (front ++ back) = synchronous front ++ synchronous back :=
  List.filterMap_append

/-- A command that belongs to no request is queued, or lost together with the others. -/
theorem Written.works {writes : Writes} {output : Output} (written : Written invoker.output writes output)
    (framed : Framed invoker.output) : Works (Kept writes) invoker { invoker with output := output } where
  framed := written.framed framed
  owned := by
    intro segment member some
    cases written with
    | same => exact member
    | flushed lost => cases member
    | appended frame =>
      rcases List.mem_append.mp member with before | last
      · exact before
      · rw [List.mem_singleton.mp last] at some
        exact absurd rfl some
  handed := by
    intro kept
    refine ⟨[],?_,rfl⟩
    cases written with
    | same => rfl
    | flushed lost => exact absurd kept lost
    | appended frame =>
      change synchronous invoker.output = synchronous (invoker.output ++ _)
      rw [synchronous_append]
      exact (List.append_nil _).symm
  unread := rfl
  frames := rfl
  results := rfl
  requests := rfl
  answers := rfl

theorem dropConsumed_works (framed : Framed invoker.output) (taken : Taken) (moved : Bool) :
    Works (moved = true) invoker (invoker.dropConsumed (writeConsumed invoker.output.bytes taken) moved) := by
  obtain ⟨front,back,same,length,split⟩ := consume_split framed taken
  have suffix : Framed back := (same ▸ framed : Framed (front ++ back)).of_suffix
  unfold Invoker.dropConsumed
  simp only [split]
  split
  · exact .same framed
  · rename_i consumed
    -- What is left is the unread rest, unless it is lost on its way to the front.
    have rest : (if writeConsumed invoker.output.bytes taken < invoker.output.bytes.length then (if moved then back else []) else []) = back ∨
        ¬ moved = true ∧ (if writeConsumed invoker.output.bytes taken < invoker.output.bytes.length then (if moved then back else []) else []) = [] := by
      split
      · cases moved with
        | true => exact .inl rfl
        | false => exact .inr ⟨nofun,rfl⟩
      · left
        have total := congrArg List.length (congrArg Output.bytes same)
        rw [bytes_append,List.length_append] at total
        exact (eq_nil_of_bytes suffix (List.length_eq_zero_iff.mp (by omega))).symm
    generalize (if writeConsumed invoker.output.bytes taken < invoker.output.bytes.length then (if moved then back else []) else []) = output at rest ⊢
    refine ⟨?_,?_,?_,rfl,rfl,rfl,rfl,rfl⟩
    · rcases rest with left | ⟨-,lost⟩
      · exact left ▸ suffix
      · exact lost ▸ framed_nil
    · intro segment member some
      rcases rest with left | ⟨-,lost⟩
      · rw [same]
        exact List.mem_append_right front (left ▸ member)
      · exact absurd (lost ▸ member) List.not_mem_nil
    · intro kept
      refine ⟨synchronous front,?_,rfl⟩
      rw [same,synchronous_append,rest.resolve_right fun lost => lost.1 kept]

theorem fillInput_works {read : Nat} (framed : Framed invoker.output) (asked : read = 0 ∨ invoker.input = []) :
    Works True invoker (invoker.fillInput read) := by
  unfold Invoker.fillInput
  split
  · exact .same framed
  · rename_i some
    refine ⟨framed,fun _ member _ => member,fun _ => ⟨[],rfl,rfl⟩,?_,rfl,rfl,rfl,rfl⟩
    rw [asked.resolve_left fun none => some (.inl none)]
    exact List.take_append_drop read invoker.driver.todo

theorem dropConsumed_nil (invoker : Invoker) (taken : Taken) (moved : Bool) :
    invoker.dropConsumed (writeConsumed [] taken) moved = invoker := by
  have none : writeConsumed [] taken = 0 := by
    cases taken with
    | all => rfl
    | first count => cases count <;> rfl
  unfold Invoker.dropConsumed
  simp only [none,if_true]

theorem dropConsumed_input (invoker : Invoker) (consumed : Nat) (moved : Bool) :
    (invoker.dropConsumed consumed moved).input = invoker.input := by
  unfold Invoker.dropConsumed
  dsimp only
  split <;> rfl

theorem transactWithDriver_works (framed : Framed invoker.output) (doRead : Bool) (ioctl : Ioctl) :
    Works (ioctl.moved = true) invoker (invoker.transactWithDriver doRead ioctl).1 := by
  unfold Invoker.transactWithDriver
  by_cases alive : ioctl.alive = true
  · rw [if_neg (by simp [alive])]
    dsimp only
    generalize available : (if ¬ doRead = true ∨ invoker.input.isEmpty = true then invoker.output.bytes else []) = outAvail
    by_cases idle : outAvail = [] ∧ ¬ (doRead = true ∧ invoker.input.isEmpty = true)
    · rw [if_pos idle]
      exact .same framed
    · rw [if_neg idle]
      have asked : (if doRead = true ∧ invoker.input.isEmpty = true then ioctl.read else 0) = 0 ∨ invoker.input = [] := by
        by_cases reads : doRead = true ∧ invoker.input.isEmpty = true
        · exact .inr (List.isEmpty_iff.mp reads.2)
        · exact .inl (if_neg reads)
      unfold Invoker.updateConsumedData
      dsimp only
      by_cases nothing : outAvail = []
      · rw [nothing,dropConsumed_nil]
        exact (fillInput_works framed asked).mono fun _ => trivial
      · have whole : outAvail = invoker.output.bytes := by
          by_cases open_ : ¬ doRead = true ∨ invoker.input.isEmpty = true
          · rw [if_pos open_] at available
            exact available.symm
          · rw [if_neg open_] at available
            exact absurd available.symm nothing
        rw [whole]
        have dropped := dropConsumed_works framed ioctl.taken ioctl.moved
        refine dropped.trans ((fillInput_works dropped.framed ?_).mono fun _ => trivial)
        rw [dropConsumed_input]
        exact asked
  · rw [if_pos alive]
    exact .same framed

end Driver

section Operations
variable {invoker : Invoker}

/-- No rest of `output_` is lost. -/
def Moved (flush : Flush) : Prop := flush.first.moved = true ∧ flush.second.moved = true

theorem flushCommands_works (framed : Framed invoker.output) (flush : Flush) :
    Works (Moved flush) invoker (invoker.flushCommands flush) := by
  unfold Invoker.flushCommands
  split
  · exact .same framed
  · have once := transactWithDriver_works framed false flush.first
    dsimp only
    split
    · have twice := transactWithDriver_works once.framed false flush.second
      exact (once.mono And.left).trans (twice.mono And.right)
    · exact once.mono And.left

theorem writeAndFlush_works {writes : Writes} {written : Output × Bool} (change : Written invoker.output writes written.1)
    (framed : Framed invoker.output) (flush : Flush) :
    Works (Kept writes ∧ Moved flush) invoker (invoker.writeAndFlush written flush) := by
  have queued := change.works framed
  unfold Invoker.writeAndFlush
  dsimp only
  split
  · exact (queued.mono And.left).trans ((flushCommands_works queued.framed flush).mono And.right)
  · exact queued.mono And.left

theorem freeBuffer_works (framed : Framed invoker.output) (data : UInt64) (writes : Writes) (flush : Flush) :
    Works (Kept writes ∧ Moved flush) invoker (invoker.freeBuffer data writes flush) := by
  have queued := @Written.works invoker writes _ (freeBuffer_written data) framed
  unfold Invoker.freeBuffer
  dsimp only
  split
  · exact (queued.mono And.left).trans ((flushCommands_works queued.framed flush).mono And.right)
  · exact queued.mono And.left

/-- The second write of a transaction does not fail after the first. -/
def Whole : Event → Prop
  | .sendRequest _ writes _ | .sendReply _ writes _ => writes.code = true → writes.fields.headD true = true
  | _ => True

/-- No part of `output_` is cleared before the driver has taken it. -/
def Lossless : Event → Prop
  | .acquireHandle _ writes flush | .releaseHandle _ writes flush | .addRecipient _ _ _ writes flush
  | .removeRecipient _ _ _ writes flush | .freeBuffer _ writes flush => Kept writes ∧ Moved flush
  | .onBinderDied _ writes | .onBinderRefreshed _ writes | .onAcquireObject _ _ _ writes | .onAttemptAcquire _ writes
  | .enterLooper writes | .registerLooper writes | .exitLooper writes => Kept writes
  | .turn turn => turn.ioctl.moved = true ∧ Kept turn.free ∧ Moved turn.flush
  | .workLoop ioctl _ => ioctl.moved = true
  | .sendRequest _ _ _ | .sendReply _ _ _ | .answer _ _ | .returns _ => True

theorem operate_cases {event : Event} {after : Invoker} (framed : Framed invoker.output) (done : invoker.operate event = some after) :
    Works (Lossless event) invoker after ∨
      (∃ request writes alive, event = .sendRequest request writes alive ∧ after = invoker.sendRequest request writes alive) ∨
      (∃ reply writes alive, event = .sendReply reply writes alive ∧ after = invoker.sendReply reply writes alive) := by
  cases event with
  | acquireHandle handle writes flush =>
    left
    simp only [Invoker.operate] at done
    split at done <;> cases done
    · exact ((acquireHandle_written handle).works framed).mono And.left
    · exact writeAndFlush_works (acquireHandle_written handle) framed flush
  | releaseHandle handle writes flush =>
    cases done
    exact .inl (writeAndFlush_works (releaseHandle_written handle) framed flush)
  | addRecipient recipient handle cookie writes flush =>
    cases done
    exact .inl (writeAndFlush_works (addRecipient_written handle cookie recipient) framed flush)
  | removeRecipient recipient handle cookie writes flush =>
    cases done
    exact .inl (writeAndFlush_works (removeRecipient_written handle cookie recipient) framed flush)
  | freeBuffer data writes flush =>
    cases done
    exact .inl (freeBuffer_works framed data writes flush)
  | onBinderDied cookie writes =>
    cases done
    exact .inl ((onBinderDied_written cookie).works framed)
  | onBinderRefreshed cookie writes =>
    cases done
    exact .inl ((onBinderRefreshed_written cookie).works framed)
  | onAcquireObject acquire refs object writes =>
    cases done
    exact .inl ((onAcquireObject_written acquire refs object).works framed)
  | onAttemptAcquire success writes =>
    cases done
    exact .inl ((onAttemptAcquire_written success).works framed)
  | enterLooper writes | registerLooper writes | exitLooper writes =>
    cases done
    exact .inl ((writeLooper_written (by decide) (by decide)).works framed)
  | sendRequest request writes alive =>
    cases done
    exact .inr (.inl ⟨request,writes,alive,rfl,rfl⟩)
  | sendReply reply writes alive =>
    cases done
    exact .inr (.inr ⟨reply,writes,alive,rfl,rfl⟩)
  | turn turn => cases done
  | workLoop ioctl garbled => cases done
  | answer request answer => cases done
  | returns cmd => cases done

theorem step_cases {event : Event} {after : Invoker} (framed : Framed invoker.output) (taken : invoker.step event = some after) :
    Works (Lossless event) invoker after ∨
      (∃ request writes alive, event = .sendRequest request writes alive ∧ after = invoker.sendRequest request writes alive) ∨
      (∃ reply writes alive, event = .sendReply reply writes alive ∧ after = invoker.sendReply reply writes alive) ∨
      (∃ turn frame frames, event = .turn turn ∧ invoker.frames = frame :: frames ∧ after = invoker.turn frame.sync turn) ∨
      (∃ ioctl garbled, event = .workLoop ioctl garbled ∧ invoker.frames = [] ∧ after = invoker.workLoop ioctl garbled) ∨
      (∃ request answer, event = .answer request answer ∧ after = { invoker with driver := {
        outstanding := invoker.driver.outstanding.erase request,
        todo := invoker.driver.todo ++ [.answer request answer],
        answers := invoker.driver.answers ++ [(request,answer)] } }) ∨
      (∃ cmd, event = .returns cmd ∧ (∀ request answer, cmd ≠ .answer request answer) ∧
        after = { invoker with driver := { invoker.driver with todo := invoker.driver.todo ++ [cmd] } }) := by
  cases event with
  | turn turn =>
    simp only [Invoker.step] at taken
    split at taken
    · cases taken
    · rename_i frame frames waiting
      cases taken
      exact .inr (.inr (.inr (.inl ⟨turn,frame,frames,rfl,waiting,rfl⟩)))
  | workLoop ioctl garbled =>
    simp only [Invoker.step] at taken
    split at taken
    · rename_i idle
      cases taken
      exact .inr (.inr (.inr (.inr (.inl ⟨ioctl,garbled,rfl,List.isEmpty_iff.mp idle,rfl⟩))))
    · cases taken
  | answer request answer =>
    cases taken
    exact .inr (.inr (.inr (.inr (.inr (.inl ⟨request,answer,rfl,rfl⟩)))))
  | returns cmd =>
    simp only [Invoker.step] at taken
    split at taken
    · cases taken
    · rename_i other
      cases taken
      exact .inr (.inr (.inr (.inr (.inr (.inr ⟨cmd,rfl,fun request answer same => other request answer same,rfl⟩)))))
  | _ =>
    simp only [Invoker.step] at taken
    split at taken
    · rcases operate_cases framed taken with works | request | reply
      · exact .inl works
      · exact .inr (.inl request)
      · exact .inr (.inr (.inl reply))
    · cases taken

end Operations

section Waits
variable {invoker : Invoker} {ioctl : Ioctl}

/-- The return commands that end a wait. -/
def ends (sync : Bool) : Return → Bool
  | .complete => !sync
  | .answer _ (.failed _) => true
  | .answer _ _ => sync
  | .failed _ | .broken | .unknown => true
  | .transaction | .handled => false
  | .error code => code ≠ errNone

/-- The command that the next turn reads. -/
def next (invoker : Invoker) (ioctl : Ioctl) : Option Return :=
  match invoker.input with
  | cmd :: _ => some cmd
  | [] => if ioctl.alive ∧ 0 < ioctl.read then invoker.driver.todo.head? else none

theorem transactWithDriver_dead (dead : ioctl.alive = false) (doRead : Bool) :
    invoker.transactWithDriver doRead ioctl = (invoker,ipcInvokerConnectErr) := by
  unfold Invoker.transactWithDriver
  rw [if_pos (by simp [dead])]

/-- With commands still to be read the driver is not used. -/
theorem transactWithDriver_pending {cmd : Return} {unread : List Return} (pending : invoker.input = cmd :: unread) :
    (invoker.transactWithDriver true ioctl).1 = invoker ∧ 0 ≤ (invoker.transactWithDriver true ioctl).2 := by
  cases alive : ioctl.alive with
  | false =>
    rw [transactWithDriver_dead alive]
    exact ⟨rfl,(by decide : 0 ≤ ipcInvokerConnectErr)⟩
  | true =>
    unfold Invoker.transactWithDriver
    simp [alive,pending,errNone]

theorem transactWithDriver_asks (alive : ioctl.alive = true) (empty : invoker.input = []) :
    invoker.transactWithDriver true ioctl =
      (invoker.updateConsumedData (writeConsumed invoker.output.bytes ioctl.taken) ioctl.read ioctl.moved,ioctl.error) := by
  unfold Invoker.transactWithDriver
  simp [alive,empty]

theorem updateConsumedData_input (consumed read : Nat) (moved : Bool) (empty : invoker.input = []) :
    (invoker.updateConsumedData consumed read moved).input = invoker.driver.todo.take read := by
  have same : (invoker.dropConsumed consumed moved).driver.todo = invoker.driver.todo := by
    unfold Invoker.dropConsumed
    dsimp only
    split <;> rfl
  unfold Invoker.updateConsumedData Invoker.fillInput
  rw [same]
  split
  · rename_i none
    rw [dropConsumed_input,empty]
    rcases none with zero | nil
    · rw [zero]
      rfl
    · rw [nil,List.take_nil]
  · rfl

theorem next_of_turn {cmd : Return} {unread : List Return}
    (reads : (invoker.transactWithDriver true ioctl).1.input = cmd :: unread) : next invoker ioctl = some cmd := by
  unfold next
  cases pending : invoker.input with
  | cons head tail =>
    rw [(transactWithDriver_pending pending).1,pending] at reads
    cases reads
    rfl
  | nil =>
    cases alive : ioctl.alive with
    | false =>
      rw [transactWithDriver_dead alive,pending] at reads
      cases reads
    | true =>
      rw [transactWithDriver_asks alive pending,updateConsumedData_input _ _ _ pending] at reads
      cases width : ioctl.read with
      | zero =>
        rw [width] at reads
        cases reads
      | succ read =>
        cases todo : invoker.driver.todo with
        | nil =>
          rw [todo,List.take_nil] at reads
          cases reads
        | cons first rest =>
          rw [width,todo,List.take_succ_cons] at reads
          cases reads
          simp

theorem error_of_turn (failed : (invoker.transactWithDriver true ioctl).2 < errNone) :
    ioctl.alive = true ∧ invoker.input = [] ∧ ioctl.error < errNone := by
  cases alive : ioctl.alive with
  | false =>
    rw [transactWithDriver_dead alive] at failed
    exact absurd failed (by decide : ¬ ipcInvokerConnectErr < errNone)
  | true =>
    cases pending : invoker.input with
    | cons head tail =>
      have good := (@transactWithDriver_pending invoker ioctl head tail pending).2
      exact absurd failed (Int.not_lt.mpr good)
    | nil =>
      rw [transactWithDriver_asks alive pending] at failed
      exact ⟨rfl,rfl,failed⟩

theorem dealWithCmd_cases (framed : Framed invoker.output) (sync : Bool) (cmd : Return) (turn : Turn) :
    (ends sync cmd = true ∧ ∃ input middle result, Works (Kept turn.free ∧ Moved turn.flush) { invoker with input := input } middle ∧
      invoker.dealWithCmd sync cmd turn = middle.leave result) ∨
    (ends sync cmd = false ∧ ∃ middle handling, Works (Kept turn.free ∧ Moved turn.flush) invoker middle ∧
      invoker.dealWithCmd sync cmd turn = middle.goOn handling) := by
  have freed := freeBuffer_works framed turn.buffer turn.free turn.flush
  cases cmd with
  | complete =>
    cases sync with
    | true => exact .inr ⟨rfl,invoker,false,.same framed,rfl⟩
    | false => exact .inl ⟨rfl,invoker.input,invoker,_,.same framed,rfl⟩
  | answer request answer =>
    cases answer with
    | failed code => exact .inl ⟨rfl,invoker.input,invoker,_,.same framed,by cases sync <;> rfl⟩
    | status code =>
      cases sync with
      | true => exact .inl ⟨rfl,invoker.input,_,_,freed,rfl⟩
      | false => exact .inr ⟨rfl,_,false,freed,rfl⟩
    | contents bytes =>
      cases sync with
      | true =>
        left
        refine ⟨rfl,invoker.input,?_⟩
        change ∃ middle result, _ ∧ (if turn.accepted then _ else _) = _
        split
        · exact ⟨invoker,_,.same framed,rfl⟩
        · exact ⟨_,_,freed,rfl⟩
      | false => exact .inr ⟨rfl,_,false,freed,rfl⟩
  | failed code => exact .inl ⟨rfl,invoker.input,invoker,_,.same framed,rfl⟩
  | transaction => exact .inr ⟨rfl,invoker,true,.same framed,rfl⟩
  | handled => exact .inr ⟨rfl,invoker,true,.same framed,rfl⟩
  | error code =>
    by_cases none : code = errNone
    · exact .inr ⟨by simp [ends,none],invoker,false,.same framed,if_pos none⟩
    · exact .inl ⟨by simp [ends,none],invoker.input,invoker,_,.same framed,if_neg none⟩
  | broken => exact .inl ⟨rfl,invoker.input,invoker,_,.same framed,rfl⟩
  | unknown => exact .inl ⟨rfl,turn.garbled,_,_,.same framed,rfl⟩

theorem leave_output (result : Result) : (invoker.leave result).output = invoker.output := by
  unfold Invoker.leave
  split <;> rfl

theorem goOn_output (handling : Bool) : (invoker.goOn handling).output = invoker.output := by
  unfold Invoker.goOn
  split <;> rfl

theorem workLoop_output (ioctl : Ioctl) (garbled : List Return) :
    (invoker.workLoop ioctl garbled).output = (invoker.transactWithDriver true ioctl).1.output := by
  unfold Invoker.workLoop
  dsimp only
  split
  · rfl
  · split <;> rfl

/-- A request is queued whole and waits, or it is not queued and has failed, unless the driver is gone. -/
theorem sendRequest_cases (request : Request) (writes : Writes) (alive : Bool)
    (second : writes.code = true → writes.fields.headD true = true) :
    invoker.sendRequest request writes alive = { invoker with
      requests := invoker.requests+1, results := invoker.results ++ [(invoker.requests,.error ipcInvokerWriteTransErr)] } ∨
    ∃ bytes, commands.IsFrame bytes ∧ writes.code = true ∧ invoker.sendRequest request writes alive = { invoker with
      output := invoker.output ++ [⟨some ⟨invoker.requests,request.sync⟩,bytes⟩],
      requests := invoker.requests+1,
      frames := if alive then ⟨some invoker.requests,request.sync,false⟩ :: invoker.frames else invoker.frames,
      results := if alive then invoker.results else invoker.results ++ [(invoker.requests,.error ipcInvokerConnectErr)] } := by
  unfold Invoker.sendRequest
  dsimp only
  generalize made : writeTransaction _ _ _ _ _ _ _ _ _ _ = result
  rcases writeTransaction_cases (by decide : bcTransaction < 2^32) (by decide : bcTransactionSg < 2^32) (by decide) (by decide)
    result made second with ⟨rfl,-⟩ | ⟨first,bytes,frame,rfl⟩
  · left
    exact if_pos nofun
  · right
    refine ⟨bytes,frame,first,?_⟩
    cases alive <;> rfl

theorem sendReply_cases (reply : Reply) (writes : Writes) (alive : Bool)
    (second : writes.code = true → writes.fields.headD true = true) : ∃ output,
    (output = invoker.output ∨ ∃ bytes, commands.IsFrame bytes ∧ output = invoker.output ++ [⟨none,bytes⟩]) ∧
    invoker.sendReply reply writes alive = { invoker with
      output := output, frames := if alive then ⟨none,false,false⟩ :: invoker.frames else invoker.frames } := by
  unfold Invoker.sendReply
  dsimp only
  generalize made : writeTransaction _ _ _ _ _ _ _ _ _ _ = result
  rcases writeTransaction_cases (by decide : bcReply < 2^32) (by decide : bcReplySg < 2^32) (by decide) (by decide)
    result made second with ⟨rfl,-⟩ | ⟨-,bytes,frame,rfl⟩
  · refine ⟨invoker.output,.inl rfl,?_⟩
    cases alive <;> rfl
  · refine ⟨_,.inr ⟨bytes,frame,rfl⟩,?_⟩
    cases alive <;> rfl

end Waits

section Runs

instance : (event : Event) → Decidable (Whole event)
  | .sendRequest _ writes _ | .sendReply _ writes _ => inferInstanceAs (Decidable (writes.code = true → writes.fields.headD true = true))
  | .acquireHandle .. | .releaseHandle .. | .addRecipient .. | .removeRecipient .. | .freeBuffer .. | .onBinderDied ..
  | .onBinderRefreshed .. | .onAcquireObject .. | .onAttemptAcquire .. | .enterLooper _ | .registerLooper _ | .exitLooper _
  | .turn _ | .workLoop .. | .answer .. | .returns _ => isTrue trivial

/-- The handler of a transaction, which came while a request waits, sends a request of its own and then the reply. -/
def nestedRequests : List Event :=
  [.sendRequest ⟨0,1,7,⟨0,0,0,0⟩,0⟩ .succeed true,.turn (.succeed 0),
    .returns .complete,.returns .transaction,.turn (.succeed 2),.turn (.succeed 2),
    .acquireHandle 3 ⟨true,[false],true⟩ .succeed,
    .sendRequest ⟨0,3,8,⟨0,0,0,0⟩,0⟩ .succeed true,.turn (.succeed 0),
    .answer 1 (.contents [5]),.turn (.succeed 1),
    .sendReply ⟨0,⟨0,0,0,0⟩,0,0⟩ .succeed true,.returns .complete,.turn (.succeed 1),
    .answer 0 (.status 29),.turn (.succeed 1)]

end Runs

end CommunicationIpc.BinderSteps
