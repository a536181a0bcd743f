import CommunicationIpc.Kernel.IpcInvoker
import CommunicationIpc.Kernel.MessageLoops
import CommunicationIpc.Library.Entries
import CommunicationIpc.Library.Run

/-! Which messages the loops of the LiteOS-A invoker answer and give back to the driver. A message is held by one thread at a time, and
is lost when that thread lets go of it without the call that settles it. -/
namespace CommunicationIpc.MessageLoops
open CommunicationIpc.Library CommunicationIpc.Kernel.MessageLoops
open CommunicationIpc.Kernel.Serializer (IpcIo)
open CommunicationIpc.Kernel.LiteInvoker (errNone)
open CommunicationIpc.Kernel.IpcInvoker (tempIo)

/-- The message that a thread works on. -/
def holds : Thread → Option Nat
  | .dispatched buffer | .prepared buffer | .failed buffer | .created buffer | .calling buffer | .joined buffer | .serving buffer => some buffer
  | .dispatching | .undefined | .ended | .joining => none

def held (system : System) : List Nat := system.threads.flatMap fun thread => (holds thread).toList

def frees (calls : List IpcContent) (buffer : Nat) : Nat := calls.countP fun call => call.buffToFree = buffer

def answers (calls : List IpcContent) (buffer : Nat) : Nat :=
  calls.countP fun call => call.buffToFree = buffer ∧ call.outMsg.any fun out => out.type = .reply ∨ out.type = .failedReply

/-- The buffer is given back once, and a request answered once if it is synchronous and not if it is asynchronous. -/
def Accounted (calls : List IpcContent) (buffer : Nat) (ipcMsg : IpcMsg) : Prop :=
  frees calls buffer = 1 ∧ (ipcMsg.type = .request → answers calls buffer = if ipcMsg.async then 0 else 1)

/-- What each step of a thread needs to settle its message. -/
def Settles (messages : List IpcMsg) : Thread → Choice → Prop
  | .dispatched _,.malloc done => done = true
  | .failed buffer,.proceed =>
    ∀ ipcMsg, messages[buffer]? = some ipcMsg → ipcMsg.type = .request → ipcMsg.flag = tfOpSync ∨ ipcMsg.async = true
  | .created _,.context there | .joined _,.context there => there = true
  | .created _,.proceed => False
  | .calling buffer,.callback reply | .serving buffer,.callback reply =>
    ∀ ipcMsg, messages[buffer]? = some ipcMsg → ipcMsg.async = true ∨ checkIpcIo reply = errNone
  | _,_ => True

def Met (system : System) : Event → Prop
  | .thread index choice => ∀ thread, system.threads[index]? = some thread → Settles system.messages thread choice
  | .register _ | .join => True

section Calls
variable {calls : List IpcContent} {buffer : Nat} {ipcMsg : IpcMsg}

theorem frees_append (calls more : List IpcContent) (buffer : Nat) : frees (calls ++ more) buffer = frees calls buffer+frees more buffer :=
  List.countP_append

theorem answers_append (calls more : List IpcContent) (buffer : Nat) :
    answers (calls ++ more) buffer = answers calls buffer+answers more buffer :=
  List.countP_append

theorem frees_other (other : ∀ call ∈ calls, call.buffToFree ≠ buffer) : frees calls buffer = 0 :=
  List.countP_eq_zero.mpr fun call member => by simpa using other call member

theorem answers_other (other : ∀ call ∈ calls, call.buffToFree ≠ buffer) : answers calls buffer = 0 :=
  List.countP_eq_zero.mpr fun call member => by simpa using fun same => absurd same (other call member)

theorem accounted_append_other {more : List IpcContent} (other : ∀ call ∈ more, call.buffToFree ≠ buffer) :
    Accounted (calls ++ more) buffer ipcMsg ↔ Accounted calls buffer ipcMsg := by
  rw [Accounted,Accounted,frees_append,answers_append,frees_other other,answers_other other,Nat.add_zero,Nat.add_zero]

theorem accounted_append_first {more : List IpcContent} (first : ∀ call ∈ calls, call.buffToFree ≠ buffer) :
    Accounted (calls ++ more) buffer ipcMsg ↔ Accounted more buffer ipcMsg := by
  rw [Accounted,Accounted,frees_append,answers_append,frees_other first,answers_other first,Nat.zero_add,Nat.zero_add]

theorem not_accounted_nil : ¬Accounted [] buffer ipcMsg := fun accounted => by cases accounted.1

theorem accounted_free : Accounted [ipcFreeBuffer buffer] buffer ipcMsg ↔ (ipcMsg.type = .request → ipcMsg.async = true) := by
  have one : frees [ipcFreeBuffer buffer] buffer = 1 := by simp [frees,ipcFreeBuffer]
  have none_ : answers [ipcFreeBuffer buffer] buffer = 0 := by simp [answers,ipcFreeBuffer]
  rw [Accounted,one,none_]
  refine (and_iff_right rfl).trans (forall_congr' fun _ => ?_)
  cases ipcMsg.async <;> decide

/-- A reply and a failed reply settle a message alike. -/
theorem accounted_sent {out : Out} (sent : out.type = .reply ∨ out.type = .failedReply) :
    Accounted [⟨some out,buffer⟩] buffer ipcMsg ↔ (ipcMsg.type = .request → ipcMsg.async = false) := by
  have one : frees [⟨some out,buffer⟩] buffer = 1 := by simp [frees]
  have once : answers [⟨some out,buffer⟩] buffer = 1 := by simp [answers,sent]
  rw [Accounted,one,once]
  refine (and_iff_right rfl).trans (forall_congr' fun _ => ?_)
  cases ipcMsg.async <;> decide

theorem accounted_answer {reply : IpcIo} :
    Accounted (answer buffer ipcMsg reply).toList buffer ipcMsg ↔ ipcMsg.async = true ∨ checkIpcIo reply = errNone := by
  rw [answer]
  split
  · rename_i sync
    rw [sendReply]
    split
    · rename_i refused
      exact iff_of_false not_accounted_nil fun either => either.elim sync refused
    · rename_i passed
      refine iff_of_true ?_ (.inr (not_not.mp passed))
      exact (accounted_sent (.inl rfl)).mpr fun _ => Bool.eq_false_iff.mpr sync
  · rename_i async
    rw [not_not] at async
    exact iff_of_true (accounted_free.mpr fun _ => async) (.inl async)

theorem accounted_refuse : Accounted (some (refuse buffer ipcMsg)).toList buffer ipcMsg ↔
    (ipcMsg.type = .request → ipcMsg.flag = tfOpSync ∨ ipcMsg.async = true) := by
  rw [Option.toList_some,refuse]
  split
  · rename_i sync
    have plain : ipcMsg.async = false := by
      rw [IpcMsg.async,sync.2]
      rfl
    exact iff_of_true ((accounted_sent (.inr rfl)).mpr fun _ => plain) fun _ => .inl sync.2
  · rename_i other
    rw [accounted_free]
    refine forall_congr' fun request => ?_
    rw [or_iff_right fun sync => other ⟨request,sync⟩]

theorem answer_buffer {reply : IpcIo} {call : IpcContent} (member : call ∈ (answer buffer ipcMsg reply).toList) : call.buffToFree = buffer := by
  rw [answer,sendReply] at member
  split at member
  · split at member
    · cases member
    · rw [Option.toList_some,List.mem_singleton] at member
      rw [member]
  · rw [Option.toList_some,List.mem_singleton] at member
    rw [member]
    rfl

theorem refuse_buffer {call : IpcContent} (member : call ∈ (some (refuse buffer ipcMsg)).toList) : call.buffToFree = buffer := by
  rw [Option.toList_some,List.mem_singleton] at member
  rw [member,refuse]
  split <;> rfl

end Calls

section Steps
variable {messages : List IpcMsg} {apis : List UInt32} {thread : Thread} {choice : Choice} {outcome : Outcome}

theorem holds_dispatch (apis : List UInt32) (buffer : Nat) (ipcMsg : IpcMsg) : holds (dispatch apis buffer ipcMsg) = some buffer := by
  rw [dispatch]
  split
  · rfl
  · split <;> rfl
  · rfl

/-- What a step of a thread is: it receives a message, keeps the one it has or has none, hands it to a new thread, or lets go of it. -/
inductive Turn (messages : List IpcMsg) (thread : Thread) (choice : Choice) : Outcome → Prop
  | receives {next : Thread} (inMsg : IpcMsg) (idle : holds thread = none) (takes : holds next = some messages.length)
      (settles : Settles messages thread choice) : Turn messages thread choice ⟨next,some inMsg,none,none⟩
  | keeps {next : Thread} (same : holds next = holds thread) (settles : Settles messages thread choice) :
      Turn messages thread choice (.stay next)
  | hands {next : Thread} (buffer : Nat) (had : holds thread = some buffer) (idle : holds next = none)
      (settles : Settles messages thread choice) : Turn messages thread choice ⟨next,none,some buffer,none⟩
  | leaves {next : Thread} {call : Option IpcContent} (buffer : Nat) (had : holds thread = some buffer) (idle : holds next = none)
      (about : ∀ used ∈ call.toList, used.buffToFree = buffer)
      (settled : ∀ ipcMsg, messages[buffer]? = some ipcMsg → (Accounted call.toList buffer ipcMsg ↔ Settles messages thread choice)) :
      Turn messages thread choice ⟨next,none,none,call⟩

theorem drops {next : Thread} {buffer : Nat} (had : holds thread = some buffer) (idle : holds next = none)
    (missed : ¬Settles messages thread choice) : Turn messages thread choice (.stay next) :=
  .leaves buffer had idle (fun _ never => absurd never List.not_mem_nil) fun _ _ => iff_of_false not_accounted_nil missed

/-- Whether a thread lets go of its message as it should is read off the message. -/
theorem lets_go {next : Thread} {call : Option IpcContent} {buffer : Nat} {ipcMsg : IpcMsg} {settled : IpcMsg → Prop}
    (had : holds thread = some buffer) (idle : holds next = none) (about : ∀ used ∈ call.toList, used.buffToFree = buffer)
    (there : messages[buffer]? = some ipcMsg) (accounted : Accounted call.toList buffer ipcMsg ↔ settled ipcMsg)
    (settles : Settles messages thread choice ↔ ∀ ipcMsg, messages[buffer]? = some ipcMsg → settled ipcMsg) :
    Turn messages thread choice ⟨next,none,none,call⟩ := by
  refine .leaves buffer had idle about ?_
  intro other same
  rw [there] at same
  cases same
  rw [accounted,settles]
  constructor
  · intro settled other same
    rw [there] at same
    cases same
    exact settled
  · intro all
    exact all ipcMsg there

theorem turn_of_advance (advanced : advance messages apis thread choice = some outcome) : Turn messages thread choice outcome := by
  rw [advance.eq_def] at advanced
  split at advanced
  · cases advanced
    exact .receives _ rfl rfl trivial
  · rename_i buffer done
    split at advanced
    · rename_i made
      obtain ⟨ipcMsg,-,rfl⟩ := Option.map_eq_some_iff.mp advanced
      exact .keeps (holds_dispatch _ _ _) made
    · rename_i failed
      cases advanced
      exact drops rfl rfl failed
  · rename_i buffer done
    split at advanced
    · cases advanced
      exact .hands buffer rfl rfl trivial
    · cases advanced
      exact .keeps rfl trivial
  · rename_i buffer
    obtain ⟨ipcMsg,there,rfl⟩ := Option.map_eq_some_iff.mp advanced
    exact lets_go rfl rfl (fun _ => refuse_buffer) there accounted_refuse Iff.rfl
  · rename_i buffer context
    obtain ⟨ipcMsg,-,more⟩ := Option.bind_eq_some_iff.mp advanced
    split at more
    · cases more
      cases context with
      | true => exact .keeps rfl rfl
      | false => exact drops rfl rfl Bool.false_ne_true
    · cases more
  · rename_i buffer
    obtain ⟨ipcMsg,-,more⟩ := Option.bind_eq_some_iff.mp advanced
    split at more
    · cases more
    · cases more
      exact drops rfl rfl id
  · rename_i buffer reply
    obtain ⟨ipcMsg,there,rfl⟩ := Option.map_eq_some_iff.mp advanced
    exact lets_go rfl rfl (fun _ => answer_buffer) there accounted_answer Iff.rfl
  · cases advanced
    exact .receives _ rfl rfl trivial
  · rename_i buffer context
    cases advanced
    cases context with
    | true => exact .keeps rfl rfl
    | false => exact drops rfl rfl Bool.false_ne_true
  · rename_i buffer reply
    obtain ⟨ipcMsg,there,rfl⟩ := Option.map_eq_some_iff.mp advanced
    exact lets_go rfl rfl (fun _ => answer_buffer) there accounted_answer Iff.rfl
  · cases advanced

end Steps

section Runs
variable {system next : System} {event : Event} {met : Prop}

/-- What a step of the system does to the messages that are held: one more is received and held, the held ones stay, or one is let go
of. -/
inductive Change (system : System) (met : Prop) (next : System) : Prop
  | receives (inMsg : IpcMsg) (same : (held next).Perm (system.messages.length :: held system))
      (messages : next.messages = system.messages ++ [inMsg]) (calls : next.calls = system.calls) (settles : met)
  | keeps (same : (held next).Perm (held system)) (messages : next.messages = system.messages) (calls : next.calls = system.calls)
      (settles : met)
  | leaves (buffer : Nat) (call : Option IpcContent) (same : (held system).Perm (buffer :: held next))
      (messages : next.messages = system.messages) (calls : next.calls = system.calls ++ call.toList)
      (about : ∀ used ∈ call.toList, used.buffToFree = buffer)
      (settled : ∀ ipcMsg, system.messages[buffer]? = some ipcMsg → (Accounted call.toList buffer ipcMsg ↔ met))

theorem change_of_turn {thread : Thread} {index : Nat} {choice : Choice} {outcome : Outcome} (there : system.threads[index]? = some thread)
    (turn : Turn system.messages thread choice outcome) :
    Change system (Settles system.messages thread choice)
      ⟨system.messages ++ outcome.received.toList,system.apis,
        system.threads.set index outcome.thread ++ (outcome.created.map Thread.created).toList,system.calls ++ outcome.call.toList⟩ := by
  obtain ⟨rest,before,after⟩ := Entries.flatMap_set (fun thread => (holds thread).toList) there
  cases turn with
  | @receives nextThread inMsg idle takes settles =>
    refine .receives inMsg ?_ rfl (List.append_nil _) settles
    rw [idle] at before
    have now := after nextThread
    rw [takes] at now
    simpa [held] using now.trans (before.symm.cons _)
  | @keeps nextThread same settles =>
    refine .keeps ?_ (List.append_nil _) (List.append_nil _) settles
    have now := after nextThread
    rw [same] at now
    simpa [held,Outcome.stay] using now.trans before.symm
  | @hands nextThread buffer had idle settles =>
    refine .keeps ?_ (List.append_nil _) (List.append_nil _) settles
    have now := after nextThread
    rw [idle] at now
    rw [had] at before
    have moved := (now.append_right [buffer]).trans (List.perm_append_singleton buffer rest)
    simpa [held,holds] using moved.trans before.symm
  | @leaves nextThread call buffer had idle about settled =>
    refine .leaves buffer call ?_ (List.append_nil _) rfl about settled
    have now := after nextThread
    rw [idle] at now
    rw [had] at before
    simpa [held] using before.trans (now.symm.cons buffer)

theorem change_of_step (taken : system.step event = some next) : Change system (Met system event) next := by
  cases event with
  | thread index choice =>
    obtain ⟨thread,there,more⟩ := Option.bind_eq_some_iff.mp taken
    obtain ⟨outcome,advanced,rest⟩ := Option.bind_eq_some_iff.mp more
    cases rest
    have same : Met system (.thread index choice) ↔ Settles system.messages thread choice := by
      refine ⟨fun met => met thread there,?_⟩
      intro settles other also
      rw [there] at also
      cases also
      exact settles
    rw [same]
    exact change_of_turn there (turn_of_advance advanced)
  | register apis =>
    cases taken
    exact .keeps (.refl _) rfl rfl trivial
  | join =>
    cases taken
    refine .keeps ?_ rfl rfl trivial
    simp [held,holds]

/-- Each message that is held is held once, has been received, and has not been given back. -/
structure Sound (system : System) : Prop where
  once : (held system).Nodup
  received : ∀ buffer ∈ held system, buffer < system.messages.length
  known : ∀ call ∈ system.calls, call.buffToFree < system.messages.length
  fresh : ∀ buffer ∈ held system, ∀ call ∈ system.calls, call.buffToFree ≠ buffer

/-- A message that no thread works on any more and that is not settled. -/
def Lost (system : System) : Prop :=
  ∃ buffer ipcMsg, system.messages[buffer]? = some ipcMsg ∧ buffer ∉ held system ∧ ¬Accounted system.calls buffer ipcMsg

theorem sound_start : Sound System.start where
  once := .nil
  received := fun _ never => absurd never List.not_mem_nil
  known := fun _ never => absurd never List.not_mem_nil
  fresh := fun _ never => absurd never List.not_mem_nil

theorem not_lost_start : ¬Lost System.start := by
  rintro ⟨buffer,ipcMsg,there,-⟩
  cases there

theorem Sound.change (sound : Sound system) (change : Change system met next) : Sound next := by
  obtain ⟨once,received,known,fresh⟩ := sound
  cases change with
  | receives inMsg same messages calls _ =>
    have more : next.messages.length = system.messages.length+1 := by simp [messages]
    refine ⟨same.nodup_iff.mpr (List.nodup_cons.mpr ⟨fun old => Nat.lt_irrefl _ (received _ old),once⟩),?_,?_,?_⟩
    · intro buffer member
      rcases List.mem_cons.mp (same.mem_iff.mp member) with rfl | old
      · omega
      · exact more ▸ Nat.lt_succ_of_lt (received buffer old)
    · intro call member
      rw [calls] at member
      exact more ▸ Nat.lt_succ_of_lt (known call member)
    · intro buffer member call used
      rw [calls] at used
      rcases List.mem_cons.mp (same.mem_iff.mp member) with rfl | old
      · exact Nat.ne_of_lt (known call used)
      · exact fresh buffer old call used
  | keeps same messages calls _ =>
    refine ⟨same.nodup_iff.mpr once,?_,?_,?_⟩
    · intro buffer member
      exact messages ▸ received buffer (same.mem_iff.mp member)
    · intro call member
      rw [calls] at member
      exact messages ▸ known call member
    · intro buffer member call used
      rw [calls] at used
      exact fresh buffer (same.mem_iff.mp member) call used
  | leaves buffer call same messages calls about _ =>
    obtain ⟨gone,rest⟩ := List.nodup_cons.mp (same.nodup_iff.mp once)
    have had : buffer ∈ held system := same.mem_iff.mpr List.mem_cons_self
    have old : ∀ other ∈ held next, other ∈ held system := fun other member => same.mem_iff.mpr (List.mem_cons_of_mem _ member)
    refine ⟨rest,?_,?_,?_⟩
    · intro other member
      exact messages ▸ received other (old other member)
    · intro used member
      rw [calls] at member
      rcases List.mem_append.mp member with earlier | now
      · exact messages ▸ known used earlier
      · rw [messages,about used now]
        exact received buffer had
    · intro other member used isUsed same
      rw [calls] at isUsed
      rcases List.mem_append.mp isUsed with earlier | now
      · exact fresh other (old other member) used earlier same
      · rw [about used now] at same
        rw [same] at gone
        exact gone member

theorem Lost.change (lost : Lost system) (change : Change system met next) : Lost next := by
  obtain ⟨buffer,ipcMsg,there,free,missed⟩ := lost
  cases change with
  | receives inMsg same messages calls _ =>
    have old : buffer < system.messages.length := (List.getElem?_eq_some_iff.mp there).1
    refine ⟨buffer,ipcMsg,?_,?_,calls ▸ missed⟩
    · rw [messages,List.getElem?_append_left old,there]
    · intro member
      rcases List.mem_cons.mp (same.mem_iff.mp member) with new | member
      · omega
      · exact free member
  | keeps same messages calls _ => exact ⟨buffer,ipcMsg,messages ▸ there,fun member => free (same.mem_iff.mp member),calls ▸ missed⟩
  | leaves other call same messages calls about _ =>
    refine ⟨buffer,ipcMsg,messages ▸ there,fun member => free (same.mem_iff.mpr (List.mem_cons_of_mem _ member)),?_⟩
    have apart : ∀ used ∈ call.toList, used.buffToFree ≠ buffer := by
      intro used member same_
      rw [about used member] at same_
      exact free (same.mem_iff.mpr (same_ ▸ List.mem_cons_self))
    rw [calls,accounted_append_other apart]
    exact missed

/-- A step loses a message exactly if it does not do what settles its own. -/
theorem lost_iff (sound : Sound system) (none_ : ¬Lost system) (change : Change system met next) : Lost next ↔ ¬met := by
  cases change with
  | receives inMsg same messages calls settles =>
    refine iff_of_false ?_ (not_not.mpr settles)
    rintro ⟨buffer,ipcMsg,there,free,missed⟩
    rw [messages] at there
    rw [calls] at missed
    have other : buffer ≠ system.messages.length := by
      rintro rfl
      exact free (same.mem_iff.mpr List.mem_cons_self)
    have bound := (List.getElem?_eq_some_iff.mp there).1
    rw [List.length_append,List.length_singleton] at bound
    rw [List.getElem?_append_left (by omega)] at there
    exact none_ ⟨buffer,ipcMsg,there,fun member => free (same.mem_iff.mpr (List.mem_cons_of_mem _ member)),missed⟩
  | keeps same messages calls settles =>
    refine iff_of_false ?_ (not_not.mpr settles)
    rintro ⟨buffer,ipcMsg,there,free,missed⟩
    rw [messages] at there
    rw [calls] at missed
    exact none_ ⟨buffer,ipcMsg,there,fun member => free (same.mem_iff.mpr member),missed⟩
  | leaves buffer call same messages calls about settled =>
    obtain ⟨gone,-⟩ := List.nodup_cons.mp (same.nodup_iff.mp sound.once)
    have had : buffer ∈ held system := same.mem_iff.mpr List.mem_cons_self
    have first : ∀ used ∈ system.calls, used.buffToFree ≠ buffer := sound.fresh buffer had
    constructor
    · rintro ⟨other,ipcMsg,there,free,missed⟩ settles
      rw [messages] at there
      rw [calls] at missed
      by_cases own : other = buffer
      · subst own
        exact missed ((accounted_append_first first).mpr ((settled ipcMsg there).mpr settles))
      · refine none_ ⟨other,ipcMsg,there,?_,?_⟩
        · intro member
          rcases List.mem_cons.mp (same.mem_iff.mp member) with here | member
          · exact own here
          · exact free member
        · intro accounted
          refine missed ((accounted_append_other ?_).mpr accounted)
          intro used member
          rw [about used member]
          exact Ne.symm own
    · intro missed
      obtain ⟨ipcMsg,there⟩ : ∃ ipcMsg, system.messages[buffer]? = some ipcMsg :=
        ⟨_,List.getElem?_eq_getElem (sound.received buffer had)⟩
      refine ⟨buffer,ipcMsg,messages ▸ there,gone,?_⟩
      rw [calls,accounted_append_first first,settled ipcMsg there]
      exact missed

theorem Sound.of_run {events : List Event} (run : Reaches (fires System.step) System.start events system) : Sound system :=
  run.invariant Sound sound_start fun _ _ _ sound taken => sound.change (change_of_step taken)

/-- Every message that no thread works on any more is answered and given back as it should be exactly if every step of the run does
what settles its message. -/
theorem messages_accounted_iff_met {events : List Event} (run : Reaches (fires System.step) System.start events system) :
    (∀ buffer ipcMsg, system.messages[buffer]? = some ipcMsg → buffer ∉ held system → Accounted system.calls buffer ipcMsg) ↔
      Reaches (guarded (fires System.step) Met) System.start events system := by
  have settled : ¬Lost system ↔ Reaches (guarded (fires System.step) Met) System.start events system := by
    refine Reaches.guarded_iff_of_spoiled Sound Lost sound_start not_lost_start ?_ ?_ ?_ run
    · intro before event after sound taken
      exact sound.change (change_of_step taken)
    · intro before event after _ taken lost
      exact lost.change (change_of_step taken)
    · intro before event after sound taken none_
      exact lost_iff sound none_ (change_of_step taken)
  rw [← settled]
  constructor
  · rintro all ⟨buffer,ipcMsg,there,free,missed⟩
    exact missed (all buffer ipcMsg there free)
  · intro none_ buffer ipcMsg there free
    by_contra missed
    exact none_ ⟨buffer,ipcMsg,there,free,missed⟩

/-- A reply that nothing was written to. -/
def emptyReply : IpcIo := tempIo 4096

def knownRequest : IpcMsg := ⟨.request,7,1,tfOpSync,0,40⟩
def unknownRequest : IpcMsg := ⟨.request,8,1,tfOpSync,0,41⟩
def asyncRequest : IpcMsg := ⟨.request,0,1,tfOpAsync,0,42⟩

/-- A request to a callback, one that nobody takes, and one to a thread that joined. -/
def requests : List Event :=
  [.register [7],.thread 0 (.receive knownRequest),.thread 0 (.malloc true),.thread 0 (.create true),.thread 1 (.context true),
    .thread 0 (.receive unknownRequest),.thread 0 (.malloc true),.thread 1 (.callback emptyReply),.thread 0 .proceed,.join,
    .thread 2 (.receive asyncRequest),.thread 2 (.context true),.thread 2 (.callback emptyReply)]

def requestCalls : List IpcContent :=
  [⟨some ⟨.reply,40,1,0,0,0,0⟩,0⟩,⟨some ⟨.failedReply,41,1,0,0,0,0⟩,1⟩,⟨none,2⟩]

theorem messages_accounted_iff_met_requests :
    ∃ system, Reaches (guarded (fires System.step) Met) System.start requests system ∧ held system = [] ∧ system.calls = requestCalls := by
  obtain ⟨system,run,test⟩ := Reaches.exists_of_foldlM System.step System.start requests
    (fun system => decide (system.messages = [knownRequest,unknownRequest,asyncRequest] ∧ held system = [] ∧ system.calls = requestCalls))
    (by decide +kernel)
  obtain ⟨messages,free,calls⟩ := of_decide_eq_true test
  refine ⟨system,(messages_accounted_iff_met run).mp ?_,free,calls⟩
  intro buffer ipcMsg there _
  rw [messages] at there
  rw [calls]
  match buffer,there with
  | 0,rfl => exact ⟨rfl,fun _ => rfl⟩
  | 1,rfl => exact ⟨rfl,fun _ => rfl⟩
  | 2,rfl => exact ⟨rfl,fun _ => rfl⟩

/-- A handler writes a string to its reply that does not fit. -/
def overflown : List Event :=
  [.register [7],.thread 0 (.receive knownRequest),.thread 0 (.malloc true),.thread 0 (.create true),.thread 1 (.context true),
    .thread 1 (.callback {emptyReply with overflow := true})]

/-- Its caller gets no reply, and its buffer is not given back. -/
theorem overflown_lost :
    ∃ system, Reaches (fires System.step) System.start overflown system ∧ system.messages = [knownRequest] ∧ held system = [] ∧
      ¬Accounted system.calls 0 knownRequest := by
  obtain ⟨system,run,test⟩ := Reaches.exists_of_foldlM System.step System.start overflown
    (fun system => decide (system.messages = [knownRequest] ∧ held system = [] ∧ system.calls = [])) (by decide +kernel)
  obtain ⟨messages,free,calls⟩ := of_decide_eq_true test
  exact ⟨system,run,messages,free,calls ▸ not_accounted_nil⟩

end Runs

section Progress
variable {system : System}

/-- How many steps a thread and those it makes can take for its message. -/
def work : Thread → Nat
  | .dispatched _ => 4
  | .prepared _ => 3
  | .created _ | .joined _ => 2
  | .failed _ | .calling _ | .serving _ => 1
  | .dispatching | .undefined | .ended | .joining => 0

def load (system : System) : Nat := (system.threads.map work).sum

theorem work_dispatch (apis : List UInt32) (buffer : Nat) (ipcMsg : IpcMsg) : work (dispatch apis buffer ipcMsg) < 4 := by
  rw [dispatch]
  split
  · exact Nat.lt_succ_self 3
  · split <;> simp [work]
  · simp [work]

/-- A thread that holds a message can go on, and gets nearer to its end with it. -/
theorem advance_of_holds {messages : List IpcMsg} (apis : List UInt32) {thread : Thread} {buffer : Nat} (had : holds thread = some buffer)
    (received : buffer < messages.length) :
    ∃ choice outcome, advance messages apis thread choice = some outcome ∧ outcome.created = none ∧ work outcome.thread < work thread := by
  have there := List.getElem?_eq_getElem received
  cases thread with
  | dispatched buffer =>
    cases had
    refine ⟨.malloc true,.stay (dispatch apis buffer messages[buffer]),?_,rfl,work_dispatch apis buffer _⟩
    simp [advance,there]
  | prepared buffer => exact ⟨.create false,_,rfl,rfl,by simp [work,Outcome.stay]⟩
  | failed buffer =>
    cases had
    refine ⟨.proceed,⟨.dispatching,none,none,some (refuse buffer messages[buffer])⟩,?_,rfl,by simp [work]⟩
    simp [advance,there]
  | created buffer =>
    cases had
    by_cases request : messages[buffer].type = .request
    · refine ⟨.context true,.stay (.calling buffer),?_,rfl,by simp [work,Outcome.stay]⟩
      simp [advance,there,request]
    · refine ⟨.proceed,.stay .ended,?_,rfl,by simp [work,Outcome.stay]⟩
      simp [advance,there,request]
  | calling buffer =>
    cases had
    let reply : IpcIo := ⟨0,0,0,0,0,0,false,false⟩
    refine ⟨.callback reply,⟨.ended,none,none,answer buffer messages[buffer] reply⟩,?_,rfl,by simp [work]⟩
    simp [advance,there]
  | joined buffer => exact ⟨.context true,_,rfl,rfl,by simp [work,Outcome.stay]⟩
  | serving buffer =>
    cases had
    let reply : IpcIo := ⟨0,0,0,0,0,0,false,false⟩
    refine ⟨.callback reply,⟨.joining,none,none,answer buffer messages[buffer] reply⟩,?_,rfl,by simp [work]⟩
    simp [advance,there]
  | dispatching | undefined | ended | joining => cases had

theorem step_of_held (sound : Sound system) {buffer : Nat} (member : buffer ∈ held system) :
    ∃ event next, system.step event = some next ∧ load next < load system := by
  obtain ⟨thread,isThread,here⟩ := List.mem_flatMap.mp member
  obtain ⟨index,there⟩ := List.mem_iff_getElem?.mp isThread
  obtain ⟨choice,outcome,advanced,alone,less⟩ :=
    advance_of_holds system.apis (Option.mem_toList.mp here) (sound.received buffer member)
  refine ⟨.thread index choice,
    ⟨system.messages ++ outcome.received.toList,system.apis,
      system.threads.set index outcome.thread ++ (outcome.created.map Thread.created).toList,system.calls ++ outcome.call.toList⟩,?_,?_⟩
  · simp [System.step,there,advanced]
  · have moved := @Entries.sum_set _ _ _ _ outcome.thread work there
    simp only [load,alone,Option.map_none,Option.toList_none,List.append_nil]
    omega

/-- From wherever a run is, the threads can let go of all messages: those that the theorem above leaves out are not stuck. -/
theorem held_until {events : List Event} (run : Reaches (fires System.step) System.start events system) :
    ∃ more next, Reaches (fires System.step) System.start (events ++ more) next ∧ held next = [] := by
  induction measure : load system using Nat.strong_induction_on generalizing events system with
  | _ left ih =>
    cases working : held system with
    | nil => exact ⟨[],system,(List.append_nil events).symm ▸ run,working⟩
    | cons buffer rest =>
      have member : buffer ∈ held system := working ▸ List.mem_cons_self
      obtain ⟨event,after,taken,less⟩ := step_of_held (.of_run run) member
      obtain ⟨more,next,reached,ended⟩ := ih (load after) (measure ▸ less) (.snoc event run taken) rfl
      refine ⟨event :: more,next,?_,ended⟩
      rw [← List.append_cons] at reached
      exact reached

end Progress

end CommunicationIpc.MessageLoops
