import CommunicationIpc.Kernel.BinderInvoker
import CommunicationIpc.Kernel.CommandStream
import CommunicationIpc.Library.Run
import CommunicationIpc.Semantics.SendStream

/-! The commands of an invoker as a stream: what the driver has consumed and what is left in `output_` are the bytes written. -/
namespace CommunicationIpc.CommandStream
open CommunicationIpc.Library CommunicationIpc.Kernel.CommandStream CommunicationIpc.Semantics

/-- What a parcel of its own would hold of the command. -/
def bytesOf (command : Command) : List UInt8 := command.write []

theorem padSize_aligned {length : Nat} (aligned : 4 ∣ length) : padSize length = 0 := by
  rw [padSize]
  omega

theorem writeBuffer_aligned (parcel : Parcel) {bytes : List UInt8} (aligned : 4 ∣ bytes.length) :
    parcel.writeBuffer bytes = parcel ++ bytes := by
  rw [Parcel.writeBuffer,padSize_aligned aligned,List.replicate_zero,List.append_nil]

/-- A write appends whole words, whatever the parcel holds. -/
theorem field_write (parcel : Parcel) (field : Field) : field.write parcel = parcel ++ field.write [] ∧ 4 ∣ (field.write []).length := by
  cases field with
  | word value => exact ⟨rfl,by simp [Field.write,toLE_length]⟩
  | pointer value =>
    refine ⟨rfl,?_⟩
    simp only [Field.write,List.nil_append,toLE_length]
    decide
  | buffer bytes =>
    refine ⟨rfl,?_⟩
    simp only [Field.write,Parcel.writeBuffer,List.nil_append,List.length_append,List.length_replicate,padSize]
    omega

theorem fields_write (fields : List Field) (parcel : Parcel) :
    fields.foldl Field.write parcel = parcel ++ fields.flatMap (Field.write []) := by
  induction fields generalizing parcel with
  | nil => exact (List.append_nil parcel).symm
  | cons field fields ih => rw [List.foldl_cons,ih,(field_write parcel field).1,List.flatMap_cons,List.append_assoc]

theorem command_write (parcel : Parcel) (command : Command) : command.write parcel = parcel ++ bytesOf command := by
  simp only [Command.write,bytesOf,fields_write,List.nil_append,List.append_assoc]

theorem bytesOf_aligned (command : Command) : 4 ∣ (bytesOf command).length := by
  have fields : ∀ fields : List Field, 4 ∣ (fields.flatMap (Field.write [])).length := by
    intro fields
    induction fields with
    | nil => exact Nat.dvd_zero 4
    | cons field fields ih =>
      rw [List.flatMap_cons,List.length_append]
      exact Nat.dvd_add (field_write [] field).2 ih
  have all := fields command.fields
  simp only [bytesOf,Command.write,fields_write,List.nil_append,List.length_append,toLE_length]
  omega

theorem command_abandon (parcel : Parcel) (command : Command) (count : Nat) : command.abandon parcel count = parcel := by
  rw [Command.abandon,fields_write,List.append_assoc,Parcel.rewindWrite,List.take_left]

section Driver
variable {invoker next : BinderInvoker} {doRead : Bool} {ioctl : Ioctl} {result : Int} {taken : List UInt8}

theorem updateConsumedData_output (bwr : WriteRead) (aligned : 4 ∣ invoker.output.length) (whole : 4 ∣ bwr.writeConsumed) :
    (invoker.updateConsumedData bwr).output = invoker.output.drop bwr.writeConsumed := by
  have moved : 4 ∣ (invoker.output.drop bwr.writeConsumed).length := by
    rw [List.length_drop]
    omega
  simp only [BinderInvoker.updateConsumedData,apply_ite BinderInvoker.output,ite_self]
  split
  · split
    · rw [writeBuffer_aligned [] moved,List.nil_append,writeBuffer_aligned [] moved,List.nil_append]
    · exact (List.drop_eq_nil_of_le (Nat.le_of_not_lt ‹_›)).symm
  · have none_ : bwr.writeConsumed = 0 := by omega
    rw [none_,List.drop_zero]

theorem transactWithDriver_splits (aligned : 4 ∣ invoker.output.length)
    (transacted : invoker.transactWithDriver doRead ioctl = some (next,result,taken)) :
    taken ++ next.output = invoker.output ∧ 4 ∣ taken.length := by
  have offered : (if ¬ doRead = true ∨ decide (invoker.inputReadable = 0) = true then invoker.output.length else 0) ≤ invoker.output.length := by
    split
    · exact Nat.le_refl _
    · exact Nat.zero_le _
  simp only [BinderInvoker.transactWithDriver] at transacted
  generalize (if ¬ doRead = true ∨ decide (invoker.inputReadable = 0) = true then invoker.output.length else 0) = outAvail at offered transacted
  generalize (if doRead = true ∧ decide (invoker.inputReadable = 0) = true then invoker.inputCapacity else 0) = readSize at transacted
  split at transacted
  · cases transacted
    exact ⟨rfl,Nat.dvd_zero 4⟩
  · split at transacted
    · cases transacted
      exact ⟨rfl,Nat.dvd_zero 4⟩
    · split at transacted
      · rename_i _ _ consumed
        cases transacted
        have bound := Nat.le_trans consumed.1 offered
        rw [updateConsumedData_output _ aligned consumed.2.1,List.take_append_drop,List.length_take,Nat.min_eq_left bound]
        exact ⟨rfl,consumed.2.1⟩
      · cases transacted

theorem consume_bytes (count : Nat) (output : Kernel.BinderOutput.Output) :
    Kernel.BinderOutput.Output.bytes (Kernel.BinderInvoker.consume count output).2 = output.bytes.drop count := by
  induction output generalizing count with
  | nil => exact List.drop_nil.symm
  | cons segment rest ih =>
    simp only [Kernel.BinderInvoker.consume]
    split
    · rename_i whole
      have later := ih (count-segment.bytes.length)
      simp only [Kernel.BinderOutput.Output.bytes,List.flatMap_cons] at later ⊢
      rw [List.drop_append,List.drop_eq_nil_of_le whole,List.nil_append,later]
    · rename_i partial_
      simp only [Kernel.BinderOutput.Output.bytes,List.flatMap_cons]
      rw [List.drop_append_of_le_length (by omega)]

/-- The invoker that knows which command each byte belongs to keeps the same bytes. -/
theorem dropConsumed_bytes (commands : Kernel.BinderInvoker.Invoker) (same : invoker.output = commands.output.bytes)
    (aligned : 4 ∣ invoker.output.length) (bwr : WriteRead) (whole : 4 ∣ bwr.writeConsumed) :
    (invoker.updateConsumedData bwr).output = Kernel.BinderOutput.Output.bytes (commands.dropConsumed bwr.writeConsumed true).output := by
  rw [updateConsumedData_output bwr aligned whole,same]
  simp only [Kernel.BinderInvoker.Invoker.dropConsumed]
  split
  · rename_i none_
    rw [none_,List.drop_zero]
  · split
    · exact (consume_bytes _ _).symm
    · exact List.drop_eq_nil_of_le (Nat.le_of_not_lt ‹_›)

end Driver

/-- The commands as a stream of bytes. -/
def stream (system : System) : SendStream UInt8 := ⟨system.consumed,system.invoker.output,system.commands.map bytesOf⟩

structure Kept (system : System) : Prop where
  exact_ : (stream system).Exact
  aligned : 4 ∣ system.invoker.output.length

theorem kept_new (inputCapacity : Nat) : Kept (System.new inputCapacity) := by
  refine ⟨?_,Nat.dvd_zero 4⟩
  simp only [SendStream.Exact,stream,System.new,List.map_nil,List.flatten_nil,List.append_nil]

theorem step_kept {system next : System} {event : Event} (kept : Kept system) (taken : fires System.step system event next) : Kept next := by
  have exact_ := kept.exact_
  simp only [SendStream.Exact,stream] at exact_
  cases event with
  | write command =>
    cases taken
    refine ⟨?_,?_⟩
    · simp only [SendStream.Exact,stream,command_write,List.map_append,List.map_singleton,List.flatten_append,List.flatten_singleton]
      rw [← exact_,List.append_assoc]
    · simp only [command_write,List.length_append]
      exact Nat.dvd_add kept.aligned (bytesOf_aligned command)
  | abandon command count =>
    cases taken
    refine ⟨?_,?_⟩
    · simp only [SendStream.Exact,stream,command_abandon]
      exact exact_
    · simp only [command_abandon]
      exact kept.aligned
  | transactWithDriver doRead ioctl =>
    simp only [fires,System.step,Option.bind_eq_bind,Option.bind_eq_some_iff] at taken
    obtain ⟨⟨invoker,result,consumed⟩,transacted,made⟩ := taken
    cases made
    obtain ⟨splits,whole⟩ := transactWithDriver_splits kept.aligned transacted
    refine ⟨?_,?_⟩
    · simp only [SendStream.Exact,stream]
      rw [List.append_assoc,splits,exact_]
    · have all := kept.aligned
      rw [← splits,List.length_append] at all
      exact (Nat.dvd_add_right whole).mp all
  | readInput bytes =>
    cases taken
    exact ⟨exact_,kept.aligned⟩

/-- What the driver has consumed is the front of what was written, and `output_` holds the rest. -/
theorem commands_in_order {inputCapacity : Nat} {events : List Event} {system : System}
    (run : Reaches (fires System.step) (System.new inputCapacity) events system) :
    system.consumed <+: (system.commands.map bytesOf).flatten ∧
      system.invoker.output = (system.commands.map bytesOf).flatten.drop system.consumed.length ∧
      system.consumed ++ system.invoker.output = (system.commands.map bytesOf).flatten := by
  have kept := run.invariant Kept (kept_new inputCapacity) fun _ _ _ => step_kept
  have exact_ := kept.exact_
  simp only [SendStream.Exact,stream] at exact_
  rw [← exact_,List.drop_left]
  exact ⟨List.prefix_append _ _,rfl,rfl⟩

/-- A transaction of which the driver takes a part and fails, a command behind the rest, and a use that takes all. -/
def partly : List Event :=
  [.write ⟨1078485762,[.buffer [1,2,3,4,5,6]]⟩,.transactWithDriver false ⟨true,8,0,-14⟩,.abandon ⟨1074029317,[.word 7]⟩ 1,
    .write ⟨1074029317,[.word 9]⟩,.transactWithDriver true ⟨true,4,32,0⟩,.transactWithDriver true ⟨true,4,0,0⟩,.readInput 32,
    .transactWithDriver true ⟨true,8,0,0⟩]

theorem commands_in_order_partly :
    ∃ system, Reaches (fires System.step) (System.new 256) partly system ∧ system.invoker.output = [] ∧
      system.consumed = (system.commands.map bytesOf).flatten := by
  obtain ⟨system,run,reached⟩ := Reaches.exists_of_foldlM System.step (System.new 256) partly
    (fun system => decide (system.invoker.output = [])) (by decide +kernel)
  have empty := of_decide_eq_true reached
  have whole := (commands_in_order run).2.2
  rw [empty,List.append_nil] at whole
  exact ⟨system,run,empty,whole⟩

end CommunicationIpc.CommandStream
