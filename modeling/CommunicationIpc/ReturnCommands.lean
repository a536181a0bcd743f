import CommunicationIpc.Kernel.ReturnCommands
import CommunicationIpc.Library.Run

/-! The loops of a thread take the driver's commands out of one buffer, however they are nested. They stay in step with the driver as long
as each handler reads the whole of its command, and the references that a release gives back are dropped where the thread serves
nothing. -/
namespace CommunicationIpc.ReturnCommands
open CommunicationIpc.Library CommunicationIpc.Kernel.ReturnCommands
open CommunicationIpc.Kernel.ReturnCommands.Invoker (holds mayCall)

theorem find_code (br : Br) : Br.find br.code = some br := by
  cases br <;> decide

theorem code_of_find {cmd : Nat} {br : Br} (found : Br.find cmd = some br) : cmd = br.code := by
  have same := List.find?_some found
  exact (of_decide_eq_true same).symm

theorem code_lt (br : Br) : br.code < 256^4 := by
  cases br <;> decide

section Fields
variable {widths : List Nat}

theorem readFields_append {data : List UInt8} (rest : List UInt8) (whole : widths.sum = data.length) :
    readFields widths (data ++ rest) = (data,rest) := by
  induction widths generalizing data with
  | nil =>
    have none : data = [] := List.length_eq_zero_iff.mp whole.symm
    rw [none]
    rfl
  | cons width widths ih =>
    rw [List.sum_cons] at whole
    have room : width ≤ data.length := by omega
    have behind : widths.sum = (data.drop width).length := by
      rw [List.length_drop]
      omega
    rw [readFields,if_pos (by rw [List.length_append]; omega),List.drop_append_of_le_length room,ih behind,
      List.take_append_of_le_length room]
    exact Prod.ext (List.take_append_drop width data) rfl

theorem readFields_length (widths : List Nat) (input : List UInt8) : (readFields widths input).1.length ≤ widths.sum := by
  induction widths generalizing input with
  | nil => exact Nat.le_refl 0
  | cons width widths ih =>
    rw [readFields,List.sum_cons]
    split
    · have rest := ih (input.drop width)
      simp only [List.length_append,List.length_take]
      omega
    · exact Nat.le_trans (ih input) (Nat.le_add_left _ _)

end Fields

def reads (waits : Bool) (cmd : Nat) : List Nat := ((Br.find cmd).map (Br.fields waits)).getD []

/-- The loop that gets the command reads the whole of it. -/
def Fitting (handled : Handled) : Prop :=
  handled.cmd ≠ Br.attemptAcquire.code ∧ (handled.cmd = Br.reply.code → handled.waits = true)

theorem sum_fields (waits : Bool) (br : Br) (attempt : br ≠ .attemptAcquire) (reply : br = .reply → waits = true) :
    (br.fields waits).sum = br.width := by
  cases br with
  | attemptAcquire => exact absurd rfl attempt
  | reply =>
    rw [reply rfl]
    rfl
  | _ => rfl

theorem fitting_of_width {handled : Handled} {br : Br} (named : handled.cmd = br.code) (wide : br.width ≤ (br.fields handled.waits).sum) :
    Fitting handled := by
  rw [Fitting,named]
  constructor
  · intro same
    have attempt : br = .attemptAcquire := Option.some.inj ((find_code br).symm.trans ((congrArg Br.find same).trans (find_code _)))
    rw [attempt] at wide
    have short : ∀ waits, ¬ Br.attemptAcquire.width ≤ (Br.attemptAcquire.fields waits).sum := by decide
    exact short _ wide
  · intro same
    have reply : br = .reply := Option.some.inj ((find_code br).symm.trans ((congrArg Br.find same).trans (find_code _)))
    rw [reply] at wide
    cases waits : handled.waits with
    | true => rfl
    | false =>
      rw [waits] at wide
      exact absurd wide (by decide)

theorem readUint32_encode (command : Command) (rest : List UInt8) :
    readUint32 (command.encode ++ rest) = (command.br.code,command.data ++ rest) := by
  have room : 4 ≤ (command.encode ++ rest).length := by
    rw [Command.encode,List.length_append,List.length_append,toLE_length]
    omega
  rw [readUint32,if_pos room,Command.encode,List.append_assoc,List.take_left' (toLE_length 4 _),List.drop_left' (toLE_length 4 _),
    ofLE_toLE,Nat.mod_eq_of_lt (code_lt command.br)]

theorem readCommand_encode {waits : Bool} {command : Command} {rest : List UInt8}
    (fits : Fitting (readCommand waits (command.encode ++ rest)).1) :
    readCommand waits (command.encode ++ rest) = (⟨waits,command.br.code,command.data⟩,rest) := by
  have word := readUint32_encode command rest
  have named : (readCommand waits (command.encode ++ rest)).1.cmd = command.br.code := congrArg Prod.fst word
  rw [Fitting,named] at fits
  have sum : (command.br.fields waits).sum = command.data.length := by
    rw [command.whole]
    apply sum_fields waits command.br
    · intro attempt
      exact fits.1 (congrArg Br.code attempt)
    · intro reply
      exact fits.2 (congrArg Br.code reply)
  rw [readCommand,word]
  simp only [find_code,Option.map_some,Option.getD_some,readFields_append rest sum]

theorem readCommand_length (waits : Bool) (input : List UInt8) :
    (readCommand waits input).1.data.length ≤ (reads (readCommand waits input).1.waits (readCommand waits input).1.cmd).sum :=
  readFields_length _ _

/-! What the driver has delivered, what was taken out of it and what is still to be read. -/

def stream (invoker : Invoker) : List UInt8 × List Command × List Handled := (invoker.input,invoker.delivered,invoker.handled)

theorem setReferences_stream (invoker : Invoker) (strong : Bool) (references : References) :
    stream (invoker.setReferences strong references) = stream invoker := by
  cases strong <;> rfl

theorem setReferences_stack (invoker : Invoker) (strong : Bool) (references : References) :
    (invoker.setReferences strong references).stack = invoker.stack := by
  cases strong <;> rfl

section Release
variable (invoker : Invoker) (strong : Bool) (data : List UInt8)

theorem onReleaseObject_stream : stream (invoker.onReleaseObject strong data) = stream invoker := by
  unfold Invoker.onReleaseObject
  split
  · rfl
  · split
    · rfl
    · exact setReferences_stream _ _ _

theorem onReleaseObject_stack : (invoker.onReleaseObject strong data).stack = invoker.stack := by
  unfold Invoker.onReleaseObject
  split
  · rfl
  · split
    · rfl
    · exact setReferences_stack _ _ _

end Release

section Take
variable (invoker : Invoker) (waits : Bool)

theorem take_stream : stream (invoker.take waits).1 =
    ((readCommand waits invoker.input).2,invoker.delivered,invoker.handled ++ [(readCommand waits invoker.input).1]) := by
  unfold Invoker.take
  dsimp only
  split
  · exact onReleaseObject_stream _ _ _
  · exact onReleaseObject_stream _ _ _
  · rfl

theorem take_stack : (invoker.take waits).1.stack = invoker.stack := by
  unfold Invoker.take
  dsimp only
  split
  · exact onReleaseObject_stack _ _ _
  · exact onReleaseObject_stack _ _ _
  · rfl

end Take

/-- A turn does with the invoker what `take` does, and then goes on, leaves its loop, or runs a handler. -/
theorem workTurn_eq (timedOut : Int) (invoker : Invoker) (rest : List Frame) :
    ∃ stack ∈ [.handler :: .handled :: rest,rest,.handled :: rest],
      invoker.workTurn timedOut rest = { (invoker.take false).1 with stack := stack } := by
  unfold Invoker.workTurn
  dsimp only
  split
  · exact ⟨_,by simp,rfl⟩
  · split
    · exact ⟨_,by simp,rfl⟩
    · exact ⟨_,by simp,rfl⟩

theorem waitTurn_eq (timedOut : Int) (invoker : Invoker) (reply : Bool) (rest : List Frame) :
    ∃ stack ∈ [.handler :: .wait reply :: rest,rest,.wait reply :: rest],
      invoker.waitTurn timedOut reply rest = { (invoker.take true).1 with stack := stack } := by
  unfold Invoker.waitTurn
  dsimp only
  split
  · split <;> exact ⟨_,by simp,rfl⟩
  · split <;> exact ⟨_,by simp,rfl⟩
  · exact ⟨_,by simp,rfl⟩
  · exact ⟨_,by simp,rfl⟩
  · exact ⟨_,by simp,rfl⟩
  · split <;> exact ⟨_,by simp,rfl⟩
  · split
    · exact ⟨_,by simp,rfl⟩
    · split <;> exact ⟨_,by simp,rfl⟩

/-! What a step can do. -/

/-- Which loop a frame is. -/
def loop : Frame → Option Bool
  | .work => some false
  | .wait _ => some true
  | _ => none

/-- The frame that is left when the handler of a command has returned. -/
def resumed : Frame → Frame
  | .work => .handled
  | frame => frame

section Step
variable (invoker : Invoker)

/-- The steps that only change what the thread is doing. -/
inductive Moves : Event → List Frame → Prop
  | join {initiative : Bool} (idle : invoker.stack = []) : Moves (.joinThread initiative) [.work]
  | call {reply : Bool} (may : mayCall invoker.stack = true) : Moves (.waitForCompletion reply) (.wait reply :: invoker.stack)
  | back {rest : List Frame} (top : invoker.stack = .handler :: rest) : Moves .back rest
  | tidy {rest : List Frame} (top : invoker.stack = .handled :: rest) (empty : invoker.input = []) :
      Moves .procDeferredDecRefs (.dropping false 0 :: .work :: rest)
  | more {rest : List Frame} (top : invoker.stack = .handled :: rest) : Moves .procDeferredDecRefs (.work :: rest)
  | leave {frame : Frame} {rest : List Frame} (top : invoker.stack = frame :: rest) (runs : (loop frame).isSome) : Moves .leave rest
  | tidyLast (idle : invoker.stack = []) (empty : invoker.input = []) : Moves .destroy [.dropping false 0]
  | last (idle : invoker.stack = []) : Moves .destroy []

inductive Steps : Event → Invoker → Prop
  | moves {event : Event} {stack : List Frame} {main alive : Bool} (moved : Moves invoker event stack) :
      Steps event { invoker with stack := stack, isMainWorkThread := main, alive := alive }
  | nothing {commands : List Command} {frame : Frame} {rest : List Frame} {waits : Bool} {next : Invoker}
      (top : invoker.stack = frame :: rest) (runs : loop frame = some waits) (read : invoker.transactWithDriver commands = some next) :
      Steps (.turn commands) next
  | turn {commands : List Command} {frame : Frame} {rest stack : List Frame} {waits : Bool} {next : Invoker}
      (top : invoker.stack = frame :: rest) (runs : loop frame = some waits) (read : invoker.transactWithDriver commands = some next)
      (more : next.input ≠ []) (left : stack ∈ [.handler :: resumed frame :: rest,rest,resumed frame :: rest]) :
      Steps (.turn commands) { (next.take waits).1 with stack := stack }
  | pass {strong valid : Bool} {index reference : Nat} {rest : List Frame} (top : invoker.stack = .dropping strong index :: rest)
      (there : (invoker.references strong).queued[index]? = some reference) :
      Steps (.drop valid) { invoker.setReferences strong { invoker.references strong with
        passed := (invoker.references strong).passed ++ [(reference,valid || !strong)] } with
          stack := .dropping strong (index+1) :: rest }
  | clear {strong valid : Bool} {index : Nat} {rest : List Frame} (top : invoker.stack = .dropping strong index :: rest)
      (done : (invoker.references strong).queued[index]? = none) :
      Steps (.drop valid) { invoker.setReferences strong { invoker.references strong with queued := [] } with
        stack := if strong then rest else .dropping true 0 :: rest }

variable {invoker}

theorem step_turn {timedOut : Int} {commands : List Command} {next : Invoker} (unblocked : ¬ invoker.blocked.isSome = true)
    (taken : invoker.step timedOut (.turn commands) = some next) : Steps invoker (.turn commands) next := by
  simp only [Invoker.step,if_neg unblocked] at taken
  split at taken
  · rename_i rest top
    obtain ⟨read,reads,taken⟩ := Option.bind_eq_some_iff.mp taken
    split at taken
    · cases taken
      exact .nothing top rfl reads
    · rename_i more
      cases taken
      obtain ⟨stack,left,same⟩ := workTurn_eq timedOut read rest
      rw [same]
      exact .turn top rfl reads more left
  · rename_i reply rest top
    obtain ⟨read,reads,taken⟩ := Option.bind_eq_some_iff.mp taken
    split at taken
    · cases taken
      exact .nothing top rfl reads
    · rename_i more
      cases taken
      obtain ⟨stack,left,same⟩ := waitTurn_eq timedOut read reply rest
      rw [same]
      exact .turn top rfl reads more left
  · cases taken

theorem step_drop {timedOut : Int} {valid : Bool} {next : Invoker} (unblocked : ¬ invoker.blocked.isSome = true)
    (taken : invoker.step timedOut (.drop valid) = some next) : Steps invoker (.drop valid) next := by
  simp only [Invoker.step,if_neg unblocked] at taken
  split at taken
  · rename_i strong index rest top
    split at taken
    · rename_i reference there
      cases taken
      exact .pass top there
    · rename_i done
      cases taken
      exact .clear top done
  · cases taken

theorem step_cases {timedOut : Int} {event : Event} {next : Invoker} (taken : invoker.step timedOut event = some next) :
    invoker.blocked = none ∧ Steps invoker event next := by
  have free : invoker.blocked = none := by
    cases held : invoker.blocked with
    | none => rfl
    | some reference =>
      simp only [Invoker.step,held,Option.isSome_some,if_true] at taken
      cases taken
  refine ⟨free,?_⟩
  have unblocked : ¬ invoker.blocked.isSome = true := by
    rw [free]
    exact Bool.false_ne_true
  cases event with
  | turn commands => exact step_turn unblocked taken
  | drop valid => exact step_drop unblocked taken
  | joinThread initiative =>
    simp only [Invoker.step,if_neg unblocked,Option.ite_none_right_eq_some] at taken
    obtain ⟨⟨idle,-⟩,same⟩ := taken
    cases same
    exact .moves (.join idle)
  | waitForCompletion reply =>
    simp only [Invoker.step,if_neg unblocked,Option.ite_none_right_eq_some] at taken
    obtain ⟨⟨may,-⟩,same⟩ := taken
    cases same
    exact .moves (.call may)
  | back =>
    simp only [Invoker.step,if_neg unblocked] at taken
    split at taken
    · rename_i rest top
      cases taken
      exact .moves (.back top)
    · cases taken
  | procDeferredDecRefs =>
    simp only [Invoker.step,if_neg unblocked] at taken
    split at taken
    · rename_i rest top
      split at taken
      · rename_i empty
        cases taken
        exact .moves (.tidy top empty)
      · cases taken
        exact .moves (.more top)
    · cases taken
  | leave =>
    simp only [Invoker.step,if_neg unblocked] at taken
    split at taken
    · rename_i rest top
      cases taken
      exact .moves (.leave top rfl)
    · rename_i reply rest top
      cases taken
      exact .moves (.leave top rfl)
    · cases taken
  | destroy =>
    simp only [Invoker.step,if_neg unblocked,Option.ite_none_right_eq_some] at taken
    obtain ⟨⟨idle,-⟩,same⟩ := taken
    split at same
    · rename_i empty
      cases same
      exact .moves (.tidyLast idle empty)
    · cases same
      exact .moves (.last idle)

end Step

def said (command : Command) : Nat × List UInt8 := (command.br.code,command.data)
def heard (handled : Handled) : Nat × List UInt8 := (handled.cmd,handled.data)

/-- The loops have taken out the commands that the driver has put in, in this order, each with its own data, and the next one is at the
cursor. -/
def InStep (invoker : Invoker) : Prop :=
  ∃ pending : List Command, invoker.handled.map heard ++ pending.map said = invoker.delivered.map said ∧
    invoker.input = (pending.map Command.encode).flatten

theorem inStep_congr {invoker next : Invoker} (same : stream next = stream invoker) (inStep : InStep invoker) : InStep next := by
  obtain ⟨input,delivered,handled⟩ : next.input = invoker.input ∧ next.delivered = invoker.delivered ∧ next.handled = invoker.handled := by
    simpa only [stream,Prod.mk.injEq] using same
  rw [InStep,input,delivered,handled]
  exact inStep

theorem encode_ne_nil (command : Command) : command.encode ≠ [] := by
  intro none
  have length := congrArg List.length none
  rw [Command.encode,List.length_append,toLE_length] at length
  simp at length

section Read
variable {invoker next : Invoker} {commands : List Command}

theorem read_handled (read : invoker.transactWithDriver commands = some next) : next.handled = invoker.handled := by
  unfold Invoker.transactWithDriver at read
  split at read
  · cases read
    rfl
  · split at read <;> cases read
    rfl

theorem read_inStep (read : invoker.transactWithDriver commands = some next) (inStep : InStep invoker) : InStep next := by
  unfold Invoker.transactWithDriver at read
  split at read
  · rename_i empty
    cases read
    obtain ⟨pending,taken,left⟩ := inStep
    refine ⟨commands,?_,rfl⟩
    have none : pending = [] := by
      cases pending with
      | nil => rfl
      | cons command pending =>
        rw [empty,List.map_cons,List.flatten_cons] at left
        exact absurd (List.append_eq_nil_iff.mp left.symm).1 (encode_ne_nil command)
    rw [none,List.map_nil,List.append_nil] at taken
    rw [List.map_append,taken]
  · split at read <;> cases read
    exact inStep

theorem take_inStep {waits : Bool} (more : invoker.input ≠ []) (fits : ∀ handled ∈ (invoker.take waits).1.handled, Fitting handled)
    (inStep : InStep invoker) : InStep (invoker.take waits).1 := by
  obtain ⟨pending,taken,left⟩ := inStep
  have after := take_stream invoker waits
  simp only [stream,Prod.mk.injEq] at after
  obtain ⟨input,delivered,handled⟩ := after
  rw [handled] at fits
  cases pending with
  | nil => exact absurd left more
  | cons command pending =>
    rw [List.map_cons,List.flatten_cons] at left
    have fitting := fits _ (List.mem_append_right _ List.mem_cons_self)
    rw [left] at fitting input handled
    rw [readCommand_encode fitting] at input handled
    refine ⟨pending,?_,input⟩
    rw [delivered,handled,← taken,List.map_append,List.append_assoc]
    rfl

end Read

theorem step_handled {timedOut : Int} {invoker next : Invoker} {event : Event} (taken : invoker.step timedOut event = some next) :
    ∃ more, next.handled = invoker.handled ++ more ∧ ∀ handled ∈ more, handled.data.length ≤ (reads handled.waits handled.cmd).sum := by
  have keep (same : next.handled = invoker.handled) :
      ∃ more, next.handled = invoker.handled ++ more ∧ ∀ handled ∈ more, handled.data.length ≤ (reads handled.waits handled.cmd).sum := by
    refine ⟨[],by rw [same,List.append_nil],?_⟩
    intro handled member
    cases member
  obtain ⟨-,steps⟩ := step_cases taken
  cases steps with
  | moves moved => exact keep rfl
  | nothing top runs read => exact keep (read_handled read)
  | turn top runs read more left =>
    rename_i waits middle
    have after := take_stream middle waits
    simp only [stream,Prod.mk.injEq] at after
    refine ⟨[(readCommand waits middle.input).1],?_,?_⟩
    · rw [← read_handled read]
      exact after.2.2
    · intro handled member
      rw [List.mem_singleton.mp member]
      exact readCommand_length waits middle.input
  | pass top there =>
    apply keep
    exact congrArg (fun stream => stream.2.2) (setReferences_stream _ _ _)
  | clear top done =>
    apply keep
    exact congrArg (fun stream => stream.2.2) (setReferences_stream _ _ _)

theorem step_inStep {timedOut : Int} {invoker next : Invoker} {event : Event} (taken : invoker.step timedOut event = some next)
    (fits : ∀ handled ∈ next.handled, Fitting handled) (inStep : InStep invoker) : InStep next := by
  obtain ⟨-,steps⟩ := step_cases taken
  cases steps with
  | moves moved => exact inStep_congr rfl inStep
  | nothing top runs read => exact read_inStep read inStep
  | turn top runs read more left => exact inStep_congr rfl (take_inStep more fits (read_inStep read inStep))
  | pass top there => exact inStep_congr (setReferences_stream _ _ _) inStep
  | clear top done => exact inStep_congr (setReferences_stream _ _ _) inStep

theorem fitting_of_inStep {invoker : Invoker} (inStep : InStep invoker)
    (short : ∀ handled ∈ invoker.handled, handled.data.length ≤ (reads handled.waits handled.cmd).sum) :
    ∀ handled ∈ invoker.handled, Fitting handled := by
  intro handled member
  obtain ⟨pending,taken,-⟩ := inStep
  have among : heard handled ∈ invoker.delivered.map said := by
    rw [← taken]
    exact List.mem_append_left _ (List.mem_map_of_mem member)
  obtain ⟨command,-,same⟩ := List.mem_map.mp among
  simp only [said,heard,Prod.mk.injEq] at same
  have room := short handled member
  rw [← same.1,← same.2,command.whole,reads,find_code,Option.map_some,Option.getD_some] at room
  exact fitting_of_width same.1.symm room

/-- Whatever loops run inside each other: the commands of the driver come out of `input_` in order, each once and with its own data,
exactly if no `BR_ATTEMPT_ACQUIRE` is among those taken out, whose priority nobody reads, and no `BR_REPLY` outside a wait. -/
theorem commands_in_step {timedOut : Int} {events : List Event} {invoker : Invoker}
    (run : Reaches (fires (Invoker.step timedOut)) .new events invoker) :
    InStep invoker ↔ ∀ handled ∈ invoker.handled,
      handled.cmd ≠ Br.attemptAcquire.code ∧ (handled.cmd = Br.reply.code → handled.waits = true) := by
  have both : (∀ handled ∈ invoker.handled, handled.data.length ≤ (reads handled.waits handled.cmd).sum) ∧
      ((∀ handled ∈ invoker.handled, Fitting handled) → InStep invoker) := by
    refine run.invariant (fun invoker =>
      (∀ handled ∈ invoker.handled, handled.data.length ≤ (reads handled.waits handled.cmd).sum) ∧
        ((∀ handled ∈ invoker.handled, Fitting handled) → InStep invoker)) ⟨by simp [Invoker.new],fun _ => ⟨[],rfl,rfl⟩⟩ ?_
    rintro before event after ⟨short,kept⟩ taken
    obtain ⟨more,handled,bounded⟩ := step_handled taken
    constructor
    · rw [handled]
      intro one member
      rcases List.mem_append.mp member with early | late
      · exact short one early
      · exact bounded one late
    · intro fits
      apply step_inStep taken fits
      apply kept
      intro one member
      apply fits
      rw [handled]
      exact List.mem_append_left more member
  exact ⟨fun inStep => fitting_of_inStep inStep both.1,both.2⟩

def releaseCommand (refs obj : Nat) : Command :=
  ⟨.release,toLE 8 refs ++ toLE 8 obj,by rw [List.length_append,toLE_length,toLE_length]; rfl⟩

def noopCommand : Command := ⟨.noop,[],rfl⟩

def putOff : List Event :=
  [.joinThread true,.turn [releaseCommand 1 2,noopCommand],.procDeferredDecRefs,.turn [],.procDeferredDecRefs,.drop true,.drop true]

/-- Two commands in one buffer, the first of them a release. -/
theorem commands_in_step_release :
    ∃ invoker, Reaches (fires (Invoker.step 110)) .new putOff invoker ∧ invoker.handled.length = 2 ∧ InStep invoker := by
  obtain ⟨invoker,run,test⟩ := Reaches.exists_of_foldlM (Invoker.step 110) .new putOff
    (fun invoker => decide (invoker.handled.length = 2 ∧ ∀ handled ∈ invoker.handled,
      handled.cmd ≠ Br.attemptAcquire.code ∧ (handled.cmd = Br.reply.code → handled.waits = true))) (by decide +kernel)
  obtain ⟨length,fits⟩ := of_decide_eq_true test
  exact ⟨invoker,run,length,(commands_in_step run).mpr fits⟩

/-! The references that a release gives back. -/

/-- `StartWorkLoop` and `ProcDeferredDecRefs` run inside nothing else. -/
def Based : List Frame → Prop
  | [] => True
  | .wait _ :: rest => Based rest
  | .handler :: rest => Based rest
  | .work :: rest => rest = []
  | .handled :: rest => rest = []
  | .dropping _ _ :: rest => rest = [] ∨ rest = [.work]

/-- How many of the queued references `ProcDeferredDecRefs` has behind it. -/
def progress (strong : Bool) : List Frame → Nat
  | [] => 0
  | .dropping other index :: rest => if other = strong then index else progress strong rest
  | _ :: rest => progress strong rest

/-- The reference that a command gives back. -/
def givenBack (strong : Bool) (handled : Handled) : Option Nat :=
  if handled.cmd = (if strong then Br.release else Br.decrefs).code then Invoker.reference strong handled.data else none

def stuck (strong : Bool) (invoker : Invoker) : List Nat :=
  match invoker.blocked with
  | some (other,reference) => if other = strong then [reference] else []
  | none => []

/-- The references that are done with, those still to be dropped, and the one that the thread is stuck with. -/
def account (strong : Bool) (invoker : Invoker) : List Nat :=
  (invoker.references strong).passed.map Prod.fst ++
    ((invoker.references strong).queued.drop (progress strong invoker.stack) ++ stuck strong invoker)

def Accounts (invoker : Invoker) : Prop := ∀ strong, account strong invoker = invoker.handled.filterMap (givenBack strong)

theorem progress_loop {strong : Bool} {frame : Frame} {rest : List Frame} {waits : Bool} (runs : loop frame = some waits) :
    progress strong (frame :: rest) = progress strong rest := by
  cases frame with
  | work => rfl
  | wait reply => rfl
  | _ => cases runs

theorem progress_left {strong : Bool} {frame : Frame} {rest stack : List Frame} {waits : Bool} (runs : loop frame = some waits)
    (left : stack ∈ [.handler :: resumed frame :: rest,rest,resumed frame :: rest]) :
    progress strong stack = progress strong (frame :: rest) := by
  rw [progress_loop runs]
  simp only [List.mem_cons,List.not_mem_nil,or_false] at left
  cases frame with
  | work => rcases left with rfl | rfl | rfl <;> rfl
  | wait reply => rcases left with rfl | rfl | rfl <;> rfl
  | _ => cases runs

theorem based_left {frame : Frame} {rest stack : List Frame} {waits : Bool} (runs : loop frame = some waits) (based : Based (frame :: rest))
    (left : stack ∈ [.handler :: resumed frame :: rest,rest,resumed frame :: rest]) : Based stack := by
  simp only [List.mem_cons,List.not_mem_nil,or_false] at left
  cases frame with
  | work =>
    have none : rest = [] := based
    rw [none] at left
    rcases left with rfl | rfl | rfl
    · exact rfl
    · exact trivial
    · exact rfl
  | wait reply => rcases left with rfl | rfl | rfl <;> exact based
  | _ => cases runs

theorem progress_of_not_holds {strong : Bool} {stack : List Frame} (free : ¬ stack.any (holds strong) = true) :
    progress strong stack = 0 := by
  induction stack with
  | nil => rfl
  | cons frame stack ih =>
    rw [List.any_cons,Bool.or_eq_true,not_or] at free
    have rest := ih free.2
    cases frame with
    | dropping other index =>
      have apart : other ≠ strong := fun same => free.1 (decide_eq_true same)
      rw [progress,if_neg apart]
      exact rest
    | _ => exact rest

theorem progress_base {strong : Bool} {rest : List Frame} (base : rest = [] ∨ rest = [.work]) : progress strong rest = 0 := by
  rcases base with rfl | rfl <;> rfl

section References
variable (invoker : Invoker)

theorem references_set (strong : Bool) (references : References) :
    (invoker.setReferences strong references).references strong = references := by
  cases strong <;> rfl

theorem references_set_other {strong other : Bool} (apart : other ≠ strong) (references : References) :
    (invoker.setReferences strong references).references other = invoker.references other := by
  cases strong <;> cases other <;> first | rfl | exact absurd rfl apart

theorem setReferences_blocked (strong : Bool) (references : References) :
    (invoker.setReferences strong references).blocked = invoker.blocked := by
  cases strong <;> rfl

theorem account_congr {strong : Bool} {next : Invoker} (references : next.references strong = invoker.references strong)
    (moved : progress strong next.stack = progress strong invoker.stack) (blocked : next.blocked = invoker.blocked) :
    account strong next = account strong invoker := by
  rw [account,account,references,moved,stuck,stuck,blocked]

variable {invoker}

theorem stuck_free {strong : Bool} (free : invoker.blocked = none) : stuck strong invoker = [] := by
  rw [stuck,free]

/-- A reference is put off, or stops the thread for good: either way it is accounted for. -/
theorem account_onReleaseObject (strong : Bool) (data : List UInt8) (free : invoker.blocked = none) :
    account strong (invoker.onReleaseObject strong data) = account strong invoker ++ (Invoker.reference strong data).toList := by
  unfold Invoker.onReleaseObject
  cases given : Invoker.reference strong data with
  | none =>
    rw [Option.toList_none,List.append_nil]
  | some reference =>
    dsimp only [Option.toList_some]
    split
    · rename_i held
      rw [account,account,stuck_free free,List.append_nil,List.append_assoc]
      have stopped : stuck strong { invoker with blocked := some (strong,reference) } = [reference] := if_pos rfl
      rw [stopped]
      rfl
    · rename_i released
      have start := progress_of_not_holds released
      rw [account,account,references_set,setReferences_stack,start,List.drop_zero,List.drop_zero,stuck_free free,
        stuck_free ((setReferences_blocked _ _ _).trans free),List.append_nil,List.append_nil,List.append_assoc]

theorem account_onReleaseObject_other {strong other : Bool} (apart : other ≠ strong) (data : List UInt8) (free : invoker.blocked = none) :
    account other (invoker.onReleaseObject strong data) = account other invoker := by
  unfold Invoker.onReleaseObject
  split
  · rfl
  · split
    · rw [account,account,stuck_free free]
      have other_stuck : ∀ reference, stuck other { invoker with blocked := some (strong,reference) } = [] :=
        fun reference => if_neg (Ne.symm apart)
      rw [other_stuck]
      rfl
    · apply account_congr
      · exact references_set_other invoker apart _
      · rw [setReferences_stack]
      · exact setReferences_blocked _ _ _

end References

def giving (strong : Bool) : Br := if strong then .release else .decrefs

theorem givenBack_of_find {strong : Bool} {handled : Handled} (found : Br.find handled.cmd = some (giving strong)) :
    givenBack strong handled = Invoker.reference strong handled.data :=
  if_pos (code_of_find found)

theorem givenBack_none {strong : Bool} {handled : Handled} (other : Br.find handled.cmd ≠ some (giving strong)) :
    givenBack strong handled = none := by
  apply if_neg
  intro named
  rw [named] at other
  exact other (find_code _)

theorem account_take {invoker : Invoker} (strong waits : Bool) (free : invoker.blocked = none) :
    account strong (invoker.take waits).1 =
      account strong invoker ++ (givenBack strong (readCommand waits invoker.input).1).toList := by
  have gives {kind : Bool} (found : Br.find (readCommand waits invoker.input).1.cmd = some (giving kind)) (taken : Invoker)
      (same : account strong taken = account strong invoker) (open_ : taken.blocked = none) :
      account strong (taken.onReleaseObject kind (readCommand waits invoker.input).1.data) =
        account strong invoker ++ (givenBack strong (readCommand waits invoker.input).1).toList := by
    by_cases mine : strong = kind
    · rw [mine] at same ⊢
      rw [account_onReleaseObject kind _ open_,givenBack_of_find found,same]
    · have none : givenBack strong (readCommand waits invoker.input).1 = none := by
        apply givenBack_none
        rw [found]
        cases strong <;> cases kind <;> first | exact absurd rfl mine | decide
      rw [account_onReleaseObject_other mine _ open_,none,same,Option.toList_none,List.append_nil]
  unfold Invoker.take
  dsimp only
  split
  · rename_i found
    exact @gives true found _ rfl free
  · rename_i found
    exact @gives false found _ rfl free
  · rename_i release decrefs
    have none : givenBack strong (readCommand waits invoker.input).1 = none := by
      apply givenBack_none
      cases strong with
      | true => exact release
      | false => exact decrefs
    rw [none,Option.toList_none,List.append_nil]
    rfl

section Kept
variable {invoker next : Invoker}

theorem based_moves {event : Event} {stack : List Frame} (moved : Moves invoker event stack) (based : Based invoker.stack) :
    Based stack := by
  cases moved with
  | join idle => exact rfl
  | call may => exact based
  | back top =>
    rw [top] at based
    exact based
  | tidy top empty =>
    rw [top] at based
    have none := based
    rw [Based] at none
    rw [none]
    exact .inr rfl
  | more top =>
    rw [top] at based
    exact based
  | leave top runs =>
    rename_i frame
    rw [top] at based
    cases frame with
    | work =>
      have none := based
      rw [Based] at none
      rw [none]
      trivial
    | wait reply => exact based
    | _ => cases runs
  | tidyLast idle empty => exact .inl rfl
  | last idle => trivial

theorem progress_moves {strong : Bool} {event : Event} {stack : List Frame} (moved : Moves invoker event stack)
    (based : Based invoker.stack) : progress strong stack = progress strong invoker.stack := by
  cases moved with
  | join idle =>
    rw [idle]
    rfl
  | call may => rfl
  | back top =>
    rw [top]
    rfl
  | tidy top empty =>
    rw [top] at based ⊢
    have none := based
    rw [Based] at none
    rw [none]
    cases strong <;> rfl
  | more top =>
    rw [top]
    rfl
  | leave top runs =>
    obtain ⟨waits,runs⟩ := Option.isSome_iff_exists.mp runs
    rw [top,progress_loop runs]
  | tidyLast idle empty =>
    rw [idle]
    cases strong <;> rfl
  | last idle => rw [idle]

theorem read_references {commands : List Command} (read : invoker.transactWithDriver commands = some next) :
    next.stack = invoker.stack ∧ next.blocked = invoker.blocked ∧ next.weak = invoker.weak ∧ next.strong = invoker.strong := by
  unfold Invoker.transactWithDriver at read
  split at read
  · cases read
    exact ⟨rfl,rfl,rfl,rfl⟩
  · split at read <;> cases read
    exact ⟨rfl,rfl,rfl,rfl⟩

theorem account_read {strong : Bool} {commands : List Command} (read : invoker.transactWithDriver commands = some next) :
    account strong next = account strong invoker := by
  obtain ⟨stack,blocked,weak,strong_⟩ := read_references read
  apply account_congr
  · rw [Invoker.references,Invoker.references,weak,strong_]
  · rw [stack]
  · exact blocked

theorem step_based {timedOut : Int} {event : Event} (taken : invoker.step timedOut event = some next) (based : Based invoker.stack) :
    Based next.stack := by
  obtain ⟨-,steps⟩ := step_cases taken
  cases steps with
  | moves moved => exact based_moves moved based
  | nothing top runs read =>
    rw [(read_references read).1]
    exact based
  | turn top runs read more left =>
    rw [top] at based
    exact based_left runs based left
  | pass top there =>
    rw [top] at based
    exact based
  | clear top done =>
    rename_i strong _ _ _
    rw [top] at based
    cases strong with
    | true =>
      rcases based with none | outermost
      · rw [if_pos rfl,none]
        trivial
      · rw [if_pos rfl,outermost]
        rfl
    | false => exact based

theorem drop_other {strong other : Bool} {index : Nat} {rest : List Frame} (apart : other ≠ strong)
    (based : Based (.dropping strong index :: rest)) : progress other (.dropping strong index :: rest) = 0 := by
  rw [progress,if_neg (Ne.symm apart)]
  exact progress_base based

theorem account_set (strong : Bool) (references : References) (stack : List Frame) :
    account strong { invoker.setReferences strong references with stack := stack } =
      references.passed.map Prod.fst ++ (references.queued.drop (progress strong stack) ++ stuck strong invoker) := by
  cases strong <;> rfl

theorem account_set_other {strong other : Bool} (apart : other ≠ strong) (references : References) {stack : List Frame}
    (moved : progress other stack = progress other invoker.stack) :
    account other { invoker.setReferences strong references with stack := stack } = account other invoker := by
  apply account_congr
  · exact references_set_other invoker apart references
  · exact moved
  · exact setReferences_blocked invoker strong references

section Drop
variable {strong : Bool} {index : Nat} {rest : List Frame}

theorem account_pass {valid : Bool} {reference : Nat} (top : invoker.stack = .dropping strong index :: rest)
    (there : (invoker.references strong).queued[index]? = some reference) (based : Based invoker.stack) (kind : Bool) :
    account kind { invoker.setReferences strong { invoker.references strong with
      passed := (invoker.references strong).passed ++ [(reference,valid || !strong)] } with
        stack := .dropping strong (index+1) :: rest } = account kind invoker := by
  by_cases mine : kind = strong
  · subst mine
    obtain ⟨room,found⟩ := List.getElem?_eq_some_iff.mp there
    have advanced := List.drop_eq_getElem_cons room
    rw [found] at advanced
    have before : progress kind invoker.stack = index := by
      rw [top]
      exact if_pos rfl
    have after : progress kind (.dropping kind (index+1) :: rest) = index+1 := if_pos rfl
    rw [account_set,account,before,after,advanced,List.map_append,List.append_assoc]
    rfl
  · apply account_set_other mine
    rw [top] at based ⊢
    rw [drop_other mine based]
    exact drop_other mine based

theorem account_clear (top : invoker.stack = .dropping strong index :: rest)
    (done : (invoker.references strong).queued[index]? = none) (based : Based invoker.stack) (kind : Bool) :
    account kind { invoker.setReferences strong { invoker.references strong with queued := [] } with
      stack := if strong then rest else .dropping true 0 :: rest } = account kind invoker := by
  by_cases mine : kind = strong
  · subst mine
    have before : progress kind invoker.stack = index := by
      rw [top]
      exact if_pos rfl
    have dropped : (invoker.references kind).queued.drop index = [] := List.drop_eq_nil_of_le (List.getElem?_eq_none_iff.mp done)
    rw [account_set,account,before,dropped,List.drop_nil]
  · apply account_set_other mine
    rw [top] at based ⊢
    rw [drop_other mine based]
    cases strong with
    | true => exact progress_base based
    | false =>
      cases kind with
      | true => rfl
      | false => exact absurd rfl mine

end Drop

theorem step_accounts {timedOut : Int} {event : Event} (taken : invoker.step timedOut event = some next) (based : Based invoker.stack)
    (accounts : Accounts invoker) : Accounts next := by
  obtain ⟨free,steps⟩ := step_cases taken
  intro kind
  have mine := accounts kind
  cases steps with
  | moves moved =>
    rename_i stack main alive
    have same : account kind { invoker with stack := stack, isMainWorkThread := main, alive := alive } = account kind invoker :=
      account_congr invoker rfl (progress_moves moved based) rfl
    exact same.trans mine
  | nothing top runs read =>
    rw [account_read read,read_handled read]
    exact mine
  | turn top runs read more left =>
    rename_i frame rest stack waits middle
    obtain ⟨same,blocked,-,-⟩ := read_references read
    have stays : progress kind stack = progress kind (middle.take waits).1.stack := by
      rw [take_stack,same,top]
      exact progress_left runs left
    have handled : (middle.take waits).1.handled = middle.handled ++ [(readCommand waits middle.input).1] :=
      congrArg (fun stream => stream.2.2) (take_stream middle waits)
    have added := account_take kind waits (blocked.trans free)
    rw [account_read read,mine,← read_handled read] at added
    have whole : account kind { (middle.take waits).1 with stack := stack } = account kind (middle.take waits).1 :=
      account_congr _ rfl stays rfl
    have last : [(readCommand waits middle.input).1].filterMap (givenBack kind) =
        (givenBack kind (readCommand waits middle.input).1).toList := by
      cases given : givenBack kind (readCommand waits middle.input).1 <;> simp [given]
    rw [whole,added]
    dsimp only
    rw [handled,List.filterMap_append,last]
  | pass top there =>
    rw [account_pass top there based kind,mine]
    exact congrArg (fun stream => stream.2.2.filterMap (givenBack kind)) (setReferences_stream invoker _ _).symm
  | clear top done =>
    rw [account_clear top done based kind,mine]
    exact congrArg (fun stream => stream.2.2.filterMap (givenBack kind)) (setReferences_stream invoker _ _).symm

end Kept

/-! A thread that makes no call while it drops references. -/

def Quiet (invoker : Invoker) (event : Event) : Prop :=
  ∀ strong index rest reply, invoker.stack = .dropping strong index :: rest → event ≠ .waitForCompletion reply

def isDropping : Frame → Bool
  | .dropping _ _ => true
  | _ => false

/-- It has read all there is to read, and nothing runs inside. -/
def Calm (invoker : Invoker) : Prop :=
  invoker.blocked = none ∧ (invoker.stack.any isDropping = true → invoker.input = [] ∧ invoker.stack.head?.any isDropping = true)

section Calm
variable {invoker : Invoker} {frame : Frame} {rest : List Frame}

theorem Calm.stack_free (calm : Calm invoker) (top : invoker.stack = frame :: rest) (other : isDropping frame = false) :
    invoker.stack.any isDropping = false := by
  cases inside : invoker.stack.any isDropping with
  | false => rfl
  | true =>
    have head := (calm.2 inside).2
    rw [top] at head
    exact absurd (other.symm.trans head) Bool.false_ne_true

theorem Calm.rest_free (calm : Calm invoker) (top : invoker.stack = frame :: rest) (other : isDropping frame = false) :
    rest.any isDropping = false := by
  have free := calm.stack_free top other
  rw [top,List.any_cons,Bool.or_eq_false_iff] at free
  exact free.2

theorem left_free {waits : Bool} {stack : List Frame} (runs : loop frame = some waits) (free : rest.any isDropping = false)
    (left : stack ∈ [.handler :: resumed frame :: rest,rest,resumed frame :: rest]) : stack.any isDropping = false := by
  simp only [List.mem_cons,List.not_mem_nil,or_false] at left
  cases frame with
  | work => rcases left with rfl | rfl | rfl <;> exact free
  | wait reply => rcases left with rfl | rfl | rfl <;> exact free
  | _ => cases runs

theorem loop_not_dropping {waits : Bool} (runs : loop frame = some waits) : isDropping frame = false := by
  cases frame <;> first | rfl | cases runs

theorem not_holds {strong : Bool} {stack : List Frame} (none : stack.any isDropping = false) : stack.any (holds strong) = false := by
  rw [List.any_eq_false] at none ⊢
  intro frame member
  have other := none frame member
  cases frame <;> first | exact Bool.false_ne_true | exact absurd rfl other

theorem onReleaseObject_blocked {strong : Bool} {data : List UInt8} (free : invoker.blocked = none)
    (none_ : invoker.stack.any isDropping = false) : (invoker.onReleaseObject strong data).blocked = none := by
  unfold Invoker.onReleaseObject
  split
  · exact free
  · rw [not_holds none_]
    exact (setReferences_blocked _ _ _).trans free

theorem take_blocked {waits : Bool} (free : invoker.blocked = none) (none_ : invoker.stack.any isDropping = false) :
    (invoker.take waits).1.blocked = none := by
  unfold Invoker.take
  dsimp only
  split
  · exact onReleaseObject_blocked free none_
  · exact onReleaseObject_blocked free none_
  · exact free

theorem moves_calm {event : Event} {stack : List Frame} (moved : Moves invoker event stack) (quiet : Quiet invoker event)
    (calm : Calm invoker) : stack.any isDropping = true → invoker.input = [] ∧ stack.head?.any isDropping = true := by
  have quiet_of (none : stack.any isDropping = false) (some : stack.any isDropping = true) :
      invoker.input = [] ∧ stack.head?.any isDropping = true := by
    rw [none] at some
    cases some
  cases moved with
  | join idle => exact quiet_of rfl
  | call may =>
    rename_i reply
    apply quiet_of
    cases top : invoker.stack with
    | nil => rfl
    | cons frame rest =>
      cases frame with
      | dropping strong index => exact absurd rfl (quiet strong index rest reply top)
      | _ =>
        have free := calm.rest_free top
        exact free rfl
  | back top =>
    have free := calm.rest_free top
    exact quiet_of (free rfl)
  | tidy top empty => exact fun _ => ⟨empty,rfl⟩
  | more top =>
    have free := calm.rest_free top
    exact quiet_of (free rfl)
  | leave top runs =>
    obtain ⟨waits,runs⟩ := Option.isSome_iff_exists.mp runs
    exact quiet_of (calm.rest_free top (loop_not_dropping runs))
  | tidyLast idle empty => exact fun _ => ⟨empty,rfl⟩
  | last idle => exact quiet_of rfl

theorem step_calm {timedOut : Int} {next : Invoker} {event : Event} (taken : invoker.step timedOut event = some next)
    (based : Based invoker.stack) (quiet : Quiet invoker event) (calm : Calm invoker) : Calm next := by
  obtain ⟨free,steps⟩ := step_cases taken
  cases steps with
  | moves moved =>
    have kept := moves_calm moved quiet calm
    exact ⟨free,kept⟩
  | nothing top runs read =>
    obtain ⟨same,blocked,-,-⟩ := read_references read
    refine ⟨blocked.trans free,?_⟩
    intro some
    rw [same,calm.stack_free top (loop_not_dropping runs)] at some
    cases some
  | turn top runs read more left =>
    rename_i stack waits middle
    obtain ⟨same,blocked,-,-⟩ := read_references read
    have before : middle.stack.any isDropping = false := by
      rw [same]
      exact calm.stack_free top (loop_not_dropping runs)
    refine ⟨take_blocked (blocked.trans free) before,?_⟩
    intro (some : stack.any isDropping = true)
    rw [left_free runs (calm.rest_free top (loop_not_dropping runs)) left] at some
    cases some
  | pass top there =>
    rename_i strong valid index reference rest
    have some : invoker.stack.any isDropping = true := by
      rw [top]
      rfl
    refine ⟨(setReferences_blocked _ _ _).trans free,fun _ => ⟨?_,rfl⟩⟩
    exact (congrArg Prod.fst (setReferences_stream _ _ _)).trans (calm.2 some).1
  | clear top done =>
    rename_i strong valid index rest
    have some : invoker.stack.any isDropping = true := by
      rw [top]
      rfl
    rw [top] at based
    refine ⟨(setReferences_blocked _ _ _).trans free,?_⟩
    intro still
    refine ⟨(congrArg Prod.fst (setReferences_stream _ _ _)).trans (calm.2 some).1,?_⟩
    cases strong with
    | true => rcases based with rfl | rfl <;> cases still
    | false => rfl

end Calm

/-- Every reference that the driver gives back is dropped once, in order, or still to be dropped, and this while the thread serves nothing.
A thread that makes no calls while it drops references has then read all that the driver has put in, and does not get stuck. -/
theorem deferred_references {timedOut : Int} {events : List Event} {invoker : Invoker}
    (run : Reaches (fires (Invoker.step timedOut)) .new events invoker) :
    (∀ strong, account strong invoker = invoker.handled.filterMap (givenBack strong)) ∧
      (∀ strong index rest, invoker.stack = .dropping strong index :: rest → rest = [] ∨ rest = [.work]) ∧
      (Reaches (guarded (fires (Invoker.step timedOut)) Quiet) .new events invoker →
        invoker.blocked = none ∧ ∀ strong index rest, invoker.stack = .dropping strong index :: rest → invoker.input = []) := by
  have start : Based Invoker.new.stack := trivial
  have kept : Based invoker.stack ∧ Accounts invoker := by
    refine run.invariant (fun invoker => Based invoker.stack ∧ Accounts invoker) ⟨start,fun strong => by cases strong <;> rfl⟩ ?_
    rintro before event after ⟨based,accounts⟩ taken
    exact ⟨step_based taken based,step_accounts taken based accounts⟩
  refine ⟨kept.2,?_,?_⟩
  · intro strong index rest top
    have based := kept.1
    rw [top] at based
    exact based
  · intro quiet
    have calm : Based invoker.stack ∧ Calm invoker := by
      refine quiet.invariant (fun invoker => Based invoker.stack ∧ Calm invoker) ⟨start,rfl,fun some => by cases some⟩ ?_
      rintro before event after ⟨based,calm⟩ ⟨still,taken⟩
      exact ⟨step_based taken based,step_calm taken based still calm⟩
    refine ⟨calm.2.1,?_⟩
    intro strong index rest top
    have some : invoker.stack.any isDropping = true := by
      rw [top]
      rfl
    exact (calm.2.2 some).1

def callWhileDropping : List Event :=
  [.joinThread true,.turn [releaseCommand 1 2],.procDeferredDecRefs,.drop true,.drop true,.waitForCompletion true,
    .turn [releaseCommand 3 4]]

/-- The destructor of a stub sends a request, and a release comes in front of the reply: the thread waits for the mutex that it holds. -/
theorem deferred_references_blocked :
    ∃ invoker, Reaches (fires (Invoker.step 110)) .new callWhileDropping invoker ∧ invoker.blocked = some (true,4) ∧
      account true invoker = [2,4] := by
  obtain ⟨invoker,run,test⟩ := Reaches.exists_of_foldlM (Invoker.step 110) .new callWhileDropping
    (fun invoker => decide (invoker.blocked = some (true,4) ∧ invoker.handled.filterMap (givenBack true) = [2,4])) (by decide +kernel)
  obtain ⟨blocked,given⟩ := of_decide_eq_true test
  exact ⟨invoker,run,blocked,((deferred_references run).1 true).trans given⟩

end CommunicationIpc.ReturnCommands
