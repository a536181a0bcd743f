import CommunicationIpc.Kernel.RemoteCalls
import CommunicationIpc.Library.Entries
import CommunicationIpc.ReplyWait

/-! A call to a peer ends with the reply the peer gave to it. The record of a call names the data thread that has its reply and the thread
that waits for it; how far the one has come fixes what the other can have seen, and the numbers keep the calls apart. -/
namespace CommunicationIpc.RemoteCalls
open CommunicationIpc.Library CommunicationIpc.Kernel.Package CommunicationIpc.Kernel.RemoteCalls
open CommunicationIpc.Kernel.ReplyWait hiding Event
open CommunicationIpc.ReplyWait (completion?)

/-- The object of a waiting thread with all of a reply in it. -/
def complete (reply : Reply) (socketId : Int32) : ThreadMessageInfo :=
  ⟨reply.tr.flags,reply.tr.bufferSize,reply.tr.offsetsSize,reply.tr.offsets,socketId.toUInt32,some reply.body,false⟩

def earlier : Field → List Field
  | .buffer => []
  | .flags => [.buffer]
  | .bufferSize => [.buffer,.flags]
  | .offsetsSize => [.buffer,.flags,.bufferSize]
  | .offsets => [.buffer,.flags,.bufferSize,.offsetsSize]
  | .socketId => [.buffer,.flags,.bufferSize,.offsetsSize,.offsets]

def partly (reply : Reply) (socketId : Int32) (field : Field) : ThreadMessageInfo :=
  (earlier field).foldl (Field.store reply socketId) (makeThreadMessageInfo socketId)

def isOpen : Stage → Bool
  | .made => true
  | .waiting => true
  | .rejected => true
  | .returned none => true
  | _ => false

def arrivedReply (call : Call) : Option Reply :=
  match call.travel with
  | .arrived reply _ => some reply
  | _ => none

/-- The data thread with this number once came to copy the body of its reply, and could not. -/
def CopyFailed (events : List Event) (position : Nat) : Prop :=
  ∃ before after system delivery thread, events = before ++ .delivery position false :: after ∧
    Reaches (fires System.step) .new before system ∧ system.client.deliveries[position]? = some delivery ∧
    delivery.progress = .storing thread .buffer

def Uncopied (events : List Event) (call : Call) : Prop :=
  ∃ reply position, call.travel = .arrived reply position ∧ CopyFailed events position

/-- All of the reply, or nothing where its body could not be copied. -/
def Delivered (events : List Event) (call : Call) (messageInfo : ThreadMessageInfo) : Prop :=
  ∃ reply, arrivedReply call = some reply ∧
    ({ messageInfo with ready := false } = complete reply call.socketId ∨
      Uncopied events call ∧ { messageInfo with ready := false } = makeThreadMessageInfo call.socketId)

def Settled (events : List Event) (call : Call) (messageInfo : ThreadMessageInfo) : Stage → Prop
  | .woken => Delivered events call messageInfo
  | .handled completion => ∃ filled, Delivered events call filled ∧ completion = handleReply filled
  | .returned (some completion) => ∃ filled, Delivered events call filled ∧ completion = handleReply filled
  | _ => messageInfo.ready = true → Delivered events call messageInfo

/-- What the waiting thread of a call can be like, by how far the data thread with the reply has come. -/
def Shows (events : List Event) (call : Call) (thread : Nat) (waiter : Waiter) : Progress → Prop
  | .querying _ => waiter.messageInfo = makeThreadMessageInfo call.socketId ∧ isOpen waiter.stage = true
  | .storing aim field => aim = thread ∧ isOpen waiter.stage = true ∧
      ∃ reply, arrivedReply call = some reply ∧ waiter.messageInfo = partly reply call.socketId field
  | .waking => Delivered events call waiter.messageInfo ∧ waiter.messageInfo.ready = false ∧ isOpen waiter.stage = true
  | .notifying aim =>
    aim = thread ∧ Delivered events call waiter.messageInfo ∧ waiter.messageInfo.ready = false ∧ isOpen waiter.stage = true
  | .finished => Settled events call waiter.messageInfo waiter.stage

def isIdle : Progress → Bool
  | .querying _ => true
  | .finished => true
  | _ => false

def progressOf (deliveries : List Delivery) (call : Call) : Progress :=
  match call.travel with
  | .arrived _ delivery => (deliveries[delivery]?.map Delivery.progress).getD (.querying 0)
  | _ => .querying 0

structure Link (events : List Event) (client : State) (index : Nat) (call : Call) : Prop where
  number : call.seqNumber.toNat = index+1
  answer : ∀ reply, call.travel = .answered reply ∨ arrivedReply call = some reply →
    ∃ tr body, reply = replyTo call tr body ∧ Event.sendReply index tr body ∈ events
  delivery : ∀ reply position, call.travel = .arrived reply position →
    ∃ delivery, client.deliveries[position]? = some delivery ∧ delivery.reply = reply ∧ delivery.listenFd = call.socketId
  waits : ∀ thread, call.thread = some thread →
    ∃ waiter, client.waiters[thread]? = some waiter ∧ waiter.seqNumber = index+1 ∧ waiter.socketId = call.socketId ∧
      Shows events call thread waiter (progressOf client.deliveries call)
  idle : call.thread = none → isIdle (progressOf client.deliveries call) = true

structure Linked (events : List Event) (system : System) : Prop where
  last : system.seqNumber.toNat = system.calls.length
  linked : ∀ (index : Nat) (call : Call), system.calls[index]? = some call → Link events system.client index call
  waiters : ∀ thread < system.client.waiters.length,
    ∃ (index : Nat) (call : Call), system.calls[index]? = some call ∧ call.thread = some thread
  deliveries : ∀ position < system.client.deliveries.length,
    ∃ (index : Nat) (call : Call) (reply : Reply), system.calls[index]? = some call ∧ call.travel = .arrived reply position
  listed : ∀ seqNumber thread, system.client.threads seqNumber = some thread →
    ∃ waiter, system.client.waiters[thread]? = some waiter ∧ waiter.seqNumber = seqNumber

section Copies
variable {events later : List Event} {call : Call}

theorem CopyFailed.grow {position : Nat} (failed : CopyFailed events position) (grown : events <+: later) :
    CopyFailed later position := by
  obtain ⟨before,after,system,delivery,thread,rfl,copying⟩ := failed
  obtain ⟨rest,rfl⟩ := grown
  exact ⟨before,after ++ rest,system,delivery,thread,by simp,copying⟩

theorem Delivered.grow {messageInfo : ThreadMessageInfo} (delivered : Delivered events call messageInfo)
    (grown : events <+: later) : Delivered later call messageInfo := by
  obtain ⟨reply,arrived,whole | ⟨⟨answer,position,travel,failed⟩,nothing⟩⟩ := delivered
  · exact ⟨reply,arrived,.inl whole⟩
  · exact ⟨reply,arrived,.inr ⟨⟨answer,position,travel,failed.grow grown⟩,nothing⟩⟩

theorem Settled.grow {messageInfo : ThreadMessageInfo} {stage : Stage} (settled : Settled events call messageInfo stage)
    (grown : events <+: later) : Settled later call messageInfo stage := by
  cases stage with
  | woken => exact Delivered.grow settled grown
  | handled completion =>
    obtain ⟨filled,delivered,result⟩ := settled
    exact ⟨filled,delivered.grow grown,result⟩
  | returned result =>
    cases result with
    | none => exact fun ready => (settled ready).grow grown
    | some completion =>
      obtain ⟨filled,delivered,result⟩ := settled
      exact ⟨filled,delivered.grow grown,result⟩
  | made => exact fun ready => (settled ready).grow grown
  | waiting => exact fun ready => (settled ready).grow grown
  | rejected => exact fun ready => (settled ready).grow grown

theorem Shows.grow {thread : Nat} {waiter : Waiter} {progress : Progress} (shows_ : Shows events call thread waiter progress)
    (grown : events <+: later) : Shows later call thread waiter progress := by
  cases progress with
  | querying retryCount => exact shows_
  | storing aim field => exact shows_
  | waking => exact ⟨shows_.1.grow grown,shows_.2⟩
  | notifying aim => exact ⟨shows_.1,shows_.2.1.grow grown,shows_.2.2⟩
  | finished => exact Settled.grow shows_ grown

end Copies

section Waiter
variable {events : List Event} {call : Call} {thread : Nat} {threads after : Threads} {waiter moved : Waiter} {step : WaitStep}

theorem delivered_ready {messageInfo : ThreadMessageInfo} (ready : Bool) :
    Delivered events call { messageInfo with ready := ready } ↔ Delivered events call messageInfo := Iff.rfl

/-- What a waiting thread does to its own record, and to the table. -/
theorem waiterStep_cases (taken : waiter.step threads thread step = some (after,moved)) :
    moved.seqNumber = waiter.seqNumber ∧ moved.socketId = waiter.socketId ∧
      (∀ seqNumber found, after seqNumber = some found →
        threads seqNumber = some found ∨ seqNumber = waiter.seqNumber ∧ found = thread) ∧
      ((moved.messageInfo = waiter.messageInfo ∧ isOpen waiter.stage = true ∧ isOpen moved.stage = true) ∨
        (waiter.messageInfo.ready = true ∧ isOpen waiter.stage = true ∧
          moved.messageInfo = { waiter.messageInfo with ready := false } ∧ moved.stage = .woken) ∨
        (waiter.stage = .woken ∧ moved.stage = .handled (handleReply waiter.messageInfo)) ∨
        ∃ completion, waiter.stage = .handled completion ∧ moved.stage = .returned (some completion)) := by
  have erased (seqNumber found : Nat) (listed : eraseThreadBySeqNumber threads waiter.seqNumber seqNumber = some found) :
      threads seqNumber = some found ∨ seqNumber = waiter.seqNumber ∧ found = thread := by
    by_cases own : seqNumber = waiter.seqNumber
    · simp [eraseThreadBySeqNumber,own] at listed
    · exact .inl (by simpa [eraseThreadBySeqNumber,own] using listed)
  cases step with
  | addSendThreadInWait =>
    simp only [Waiter.step,addThreadBySeqNumber] at taken
    split at taken
    · rename_i made
      cases absent : threads waiter.seqNumber with
      | none =>
        simp only [absent,Option.some.injEq,Prod.mk.injEq] at taken
        obtain ⟨rfl,rfl⟩ := taken
        refine ⟨rfl,rfl,?_,.inl ⟨rfl,by rw [made]; rfl,rfl⟩⟩
        intro seqNumber found listed
        by_cases own : seqNumber = waiter.seqNumber
        · subst own
          simp only [Function.update_self,Option.some.injEq] at listed
          exact .inr ⟨rfl,listed.symm⟩
        · rw [Function.update_of_ne own] at listed
          exact .inl listed
      | some other =>
        simp only [absent,Option.some.injEq,Prod.mk.injEq] at taken
        obtain ⟨rfl,rfl⟩ := taken
        exact ⟨rfl,rfl,fun _ _ => .inl,.inl ⟨rfl,by rw [made]; rfl,rfl⟩⟩
    · cases taken
  | wakeUp =>
    simp only [Waiter.step,Option.ite_none_right_eq_some,Option.some.injEq,Prod.mk.injEq] at taken
    obtain ⟨⟨waiting,raised⟩,rfl,rfl⟩ := taken
    exact ⟨rfl,rfl,fun _ _ => .inl,.inr (.inl ⟨raised,by rw [waiting]; rfl,rfl,rfl⟩)⟩
  | timeOut =>
    simp only [Waiter.step,Option.ite_none_right_eq_some,Option.some.injEq,Prod.mk.injEq] at taken
    obtain ⟨⟨waiting,notYet⟩,rfl,rfl⟩ := taken
    exact ⟨rfl,rfl,fun _ _ => .inl,.inl ⟨by rw [← notYet],by rw [waiting]; rfl,rfl⟩⟩
  | handleReply =>
    simp only [Waiter.step] at taken
    split at taken
    · rename_i woken
      simp only [Option.some.injEq,Prod.mk.injEq] at taken
      obtain ⟨rfl,rfl⟩ := taken
      exact ⟨rfl,rfl,fun _ _ => .inl,.inr (.inr (.inl ⟨woken,rfl⟩))⟩
    · cases taken
  | eraseThread =>
    simp only [Waiter.step] at taken
    split at taken
    · rename_i rejected
      simp only [Option.some.injEq,Prod.mk.injEq] at taken
      obtain ⟨rfl,rfl⟩ := taken
      exact ⟨rfl,rfl,erased,.inl ⟨rfl,by rw [rejected]; rfl,rfl⟩⟩
    · rename_i completion handled
      simp only [Option.some.injEq,Prod.mk.injEq] at taken
      obtain ⟨rfl,rfl⟩ := taken
      exact ⟨rfl,rfl,erased,.inr (.inr (.inr ⟨completion,handled,rfl⟩))⟩
    · cases taken

/-- While the stage is open, what is settled is settled by the object alone. -/
theorem settled_open {messageInfo : ThreadMessageInfo} {stage : Stage} (open_ : isOpen stage = true) :
    Settled events call messageInfo stage ↔ (messageInfo.ready = true → Delivered events call messageInfo) := by
  cases stage with
  | returned result =>
    cases result with
    | none => rfl
    | some completion => cases open_
  | woken => cases open_
  | handled completion => cases open_
  | made => rfl
  | waiting => rfl
  | rejected => rfl

theorem shows_open {progress : Progress} (shows_ : Shows events call thread waiter progress) :
    isOpen waiter.stage = true ∧ waiter.messageInfo.ready = false ∨ progress = .finished := by
  cases progress with
  | querying retryCount => exact .inl ⟨shows_.2,by rw [shows_.1]; rfl⟩
  | storing aim field =>
    obtain ⟨-,open_,reply,-,info⟩ := shows_
    exact .inl ⟨open_,by rw [info]; cases field <;> rfl⟩
  | waking => exact .inl ⟨shows_.2.2,shows_.2.1⟩
  | notifying aim => exact .inl ⟨shows_.2.2.2,shows_.2.2.1⟩
  | finished => exact .inr rfl

theorem shows_moved {progress : Progress} (taken : waiter.step threads thread step = some (after,moved))
    (shows_ : Shows events call thread waiter progress) : Shows events call thread moved progress := by
  obtain ⟨-,-,-,same | raised | handled | returned⟩ := waiterStep_cases taken
  · obtain ⟨info,open_,stays⟩ := same
    cases progress with
    | querying retryCount => exact ⟨info.trans shows_.1,stays⟩
    | storing aim field =>
      obtain ⟨own,-,reply,here,filled⟩ := shows_
      exact ⟨own,stays,reply,here,info.trans filled⟩
    | waking =>
      obtain ⟨delivered,notYet,-⟩ := shows_
      exact ⟨info ▸ delivered,info ▸ notYet,stays⟩
    | notifying aim =>
      obtain ⟨own,delivered,notYet,-⟩ := shows_
      exact ⟨own,info ▸ delivered,info ▸ notYet,stays⟩
    | finished => exact (settled_open stays).mpr (info ▸ (settled_open open_).mp shows_)
  · obtain ⟨ready,open_,info,woken⟩ := raised
    rcases shows_open shows_ with ⟨-,notYet⟩ | rfl
    · rw [ready] at notYet
      cases notYet
    · have delivered := (settled_open open_).mp shows_ ready
      change Settled events call moved.messageInfo moved.stage
      rw [woken,info]
      exact (delivered_ready false).mpr delivered
  · obtain ⟨woken,handled⟩ := handled
    rcases shows_open shows_ with ⟨open_,-⟩ | rfl
    · rw [woken] at open_
      cases open_
    · change Settled events call waiter.messageInfo waiter.stage at shows_
      rw [woken] at shows_
      change Settled events call moved.messageInfo moved.stage
      rw [handled]
      exact ⟨_,shows_,rfl⟩
  · obtain ⟨completion,handled,returned⟩ := returned
    rcases shows_open shows_ with ⟨open_,-⟩ | rfl
    · rw [handled] at open_
      cases open_
    · change Settled events call waiter.messageInfo waiter.stage at shows_
      rw [handled] at shows_
      change Settled events call moved.messageInfo moved.stage
      rw [returned]
      exact shows_

end Waiter

section Delivery
variable {events : List Event} {threads : Threads} {infoOf : Nat → Option ThreadMessageInfo} {delivery moved : Delivery} {copied : Bool}
  {written : Option (Nat × ThreadMessageInfo)}

/-- How a data thread goes on with a reply, and what it writes. -/
inductive Moves (threads : Threads) (infoOf : Nat → Option ThreadMessageInfo) (reply : Reply) (listenFd : Int32) (copied : Bool) :
    Progress → Progress → Option (Nat × ThreadMessageInfo) → Prop
  | found (retryCount : Nat) {thread : Nat} (listed : threads reply.tr.seqNumber = some thread) :
      Moves threads infoOf reply listenFd copied (.querying retryCount) (.storing thread .buffer) none
  | again (retryCount : Nat) : Moves threads infoOf reply listenFd copied (.querying retryCount) (.querying (retryCount+1)) none
  | gaveUp (retryCount : Nat) : Moves threads infoOf reply listenFd copied (.querying retryCount) .finished none
  | stored {thread : Nat} (field : Field) {messageInfo : ThreadMessageInfo} (held : infoOf thread = some messageInfo) :
      Moves threads infoOf reply listenFd copied (.storing thread field) (field.next thread) (some (thread,field.store reply listenFd messageInfo))
  | failed {thread : Nat} {messageInfo : ThreadMessageInfo} (held : infoOf thread = some messageInfo) (uncopied : copied = false) :
      Moves threads infoOf reply listenFd copied (.storing thread .buffer) .waking (some (thread,{ messageInfo with buffer := none }))
  | lost : Moves threads infoOf reply listenFd copied .waking .finished none
  | matches_ {thread : Nat} (listed : threads reply.tr.seqNumber = some thread) :
      Moves threads infoOf reply listenFd copied .waking (.notifying thread) none
  | notified {thread : Nat} {messageInfo : ThreadMessageInfo} (held : infoOf thread = some messageInfo) :
      Moves threads infoOf reply listenFd copied (.notifying thread) .finished (some (thread,{ messageInfo with ready := true }))

theorem deliveryStep_cases (taken : delivery.step threads infoOf copied = some (moved,written)) :
    moved.reply = delivery.reply ∧ moved.listenFd = delivery.listenFd ∧
      Moves threads infoOf delivery.reply delivery.listenFd copied delivery.progress moved.progress written := by
  cases progress : delivery.progress with
  | querying retryCount =>
    simp only [Delivery.step,progress,queryThreadBySeqNumber] at taken
    split at taken
    · rename_i thread listed
      simp only [Option.some.injEq,Prod.mk.injEq] at taken
      obtain ⟨rfl,rfl⟩ := taken
      exact ⟨rfl,rfl,.found retryCount listed⟩
    · split at taken <;>
      · simp only [Option.some.injEq,Prod.mk.injEq] at taken
        obtain ⟨rfl,rfl⟩ := taken
        first
        | exact ⟨rfl,rfl,.gaveUp retryCount⟩
        | exact ⟨rfl,rfl,.again retryCount⟩
  | storing thread field =>
    simp only [Delivery.step,progress] at taken
    cases held : infoOf thread with
    | none => simp only [held] at taken; cases taken
    | some messageInfo =>
      simp only [held] at taken
      split at taken <;> rename_i failed <;> simp only [Option.some.injEq,Prod.mk.injEq] at taken <;> obtain ⟨rfl,rfl⟩ := taken
      · obtain ⟨rfl,uncopied⟩ := failed
        exact ⟨rfl,rfl,.failed held uncopied⟩
      · exact ⟨rfl,rfl,.stored field held⟩
  | waking =>
    simp only [Delivery.step,progress,queryThreadBySeqNumber] at taken
    split at taken
    · simp only [Option.some.injEq,Prod.mk.injEq] at taken
      obtain ⟨rfl,rfl⟩ := taken
      exact ⟨rfl,rfl,.lost⟩
    · rename_i thread listed
      cases held : infoOf thread with
      | none => simp only [held] at taken; cases taken
      | some messageInfo =>
        simp only [held] at taken
        split at taken <;> simp only [Option.some.injEq,Prod.mk.injEq] at taken <;> obtain ⟨rfl,rfl⟩ := taken
        · exact ⟨rfl,rfl,.lost⟩
        · exact ⟨rfl,rfl,.matches_ listed⟩
  | notifying thread =>
    simp only [Delivery.step,progress] at taken
    cases held : infoOf thread with
    | none => simp only [held] at taken; cases taken
    | some messageInfo =>
      simp only [held,Option.some.injEq,Prod.mk.injEq] at taken
      obtain ⟨rfl,rfl⟩ := taken
      exact ⟨rfl,rfl,.notified held⟩
  | finished =>
    simp only [Delivery.step,progress] at taken
    cases taken

theorem putInfo_length (waiters : List Waiter) : (State.putInfo waiters written).length = waiters.length := by
  cases written with
  | none => rfl
  | some pair => exact List.length_modify _ _ _

theorem putInfo_other {waiters : List Waiter} {thread other : Nat} (messageInfo : ThreadMessageInfo) (different : thread ≠ other) :
    (State.putInfo waiters (some (thread,messageInfo)))[other]? = waiters[other]? := by
  simp [State.putInfo,different]

theorem putInfo_own {waiters : List Waiter} {thread : Nat} {waiter : Waiter} (messageInfo : ThreadMessageInfo)
    (here : waiters[thread]? = some waiter) :
    (State.putInfo waiters (some (thread,messageInfo)))[thread]? = some { waiter with messageInfo := messageInfo } := by
  simp [State.putInfo,here]

theorem putInfo_seqNumber {waiters : List Waiter} {thread : Nat} {waiter : Waiter} (here : waiters[thread]? = some waiter) :
    ∃ after, (State.putInfo waiters written)[thread]? = some after ∧ after.seqNumber = waiter.seqNumber := by
  cases written with
  | none => exact ⟨waiter,here,rfl⟩
  | some pair =>
    by_cases same : pair.1 = thread
    · subst same
      exact ⟨_,putInfo_own pair.2 here,rfl⟩
    · exact ⟨waiter,(putInfo_other pair.2 same).trans here,rfl⟩

/-- A record is written by the data thread with the reply to its call, and then shows how far that one has come. -/
theorem shows_moves {call : Call} {thread : Nat} {waiter : Waiter} {waiters : List Waiter} {reply : Reply} {progress next : Progress}
    (here : waiters[thread]? = some waiter) (answered : arrivedReply call = some reply)
    (infoOf_eq : ∀ position, infoOf position = waiters[position]?.map Waiter.messageInfo)
    (only : ∀ other, threads reply.tr.seqNumber = some other → other = thread)
    (failing : copied = false → (∃ aim, progress = .storing aim .buffer) → Uncopied events call)
    (shows_ : Shows events call thread waiter progress)
    (moves : Moves threads infoOf reply call.socketId copied progress next written) :
    ∃ after, (State.putInfo waiters written)[thread]? = some after ∧ after.seqNumber = waiter.seqNumber ∧
      after.socketId = waiter.socketId ∧ Shows events call thread after next := by
  have own {messageInfo : ThreadMessageInfo} (held : infoOf thread = some messageInfo) : messageInfo = waiter.messageInfo := by
    rw [infoOf_eq,here] at held
    exact (Option.some.inj held).symm
  cases moves with
  | found retryCount listed =>
    exact ⟨waiter,here,rfl,rfl,only _ listed,shows_.2,reply,answered,shows_.1⟩
  | again retryCount => exact ⟨waiter,here,rfl,rfl,shows_⟩
  | gaveUp retryCount =>
    refine ⟨waiter,here,rfl,rfl,(settled_open shows_.2).mpr fun raised => ?_⟩
    rw [shows_.1] at raised
    cases raised
  | stored field held =>
    obtain ⟨rfl,open_,source,same,filled⟩ := shows_
    rw [answered,Option.some.injEq] at same
    subst same
    refine ⟨_,putInfo_own _ here,rfl,rfl,?_⟩
    rw [own held,filled]
    cases field with
    | socketId => exact ⟨⟨reply,answered,.inl rfl⟩,rfl,open_⟩
    | buffer => exact ⟨rfl,open_,reply,answered,rfl⟩
    | flags => exact ⟨rfl,open_,reply,answered,rfl⟩
    | bufferSize => exact ⟨rfl,open_,reply,answered,rfl⟩
    | offsetsSize => exact ⟨rfl,open_,reply,answered,rfl⟩
    | offsets => exact ⟨rfl,open_,reply,answered,rfl⟩
  | failed held uncopied =>
    obtain ⟨rfl,open_,_,-,filled⟩ := shows_
    refine ⟨_,putInfo_own _ here,rfl,rfl,?_⟩
    rw [own held,filled]
    exact ⟨⟨reply,answered,.inr ⟨failing uncopied ⟨_,rfl⟩,rfl⟩⟩,rfl,open_⟩
  | lost =>
    obtain ⟨delivered,-,open_⟩ := shows_
    exact ⟨waiter,here,rfl,rfl,(settled_open open_).mpr fun _ => delivered⟩
  | matches_ listed =>
    exact ⟨waiter,here,rfl,rfl,only _ listed,shows_⟩
  | notified held =>
    obtain ⟨rfl,delivered,-,open_⟩ := shows_
    refine ⟨_,putInfo_own _ here,rfl,rfl,(settled_open open_).mpr fun _ => ?_⟩
    rw [own held]
    exact (delivered_ready true).mpr delivered

/-- What a data thread writes belongs to the thread that waits for the call. -/
theorem moves_written {call : Call} {thread : Nat} {waiter : Waiter} {reply : Reply} {listenFd : Int32} {progress next : Progress}
    (shows_ : Shows events call thread waiter progress) (moves : Moves threads infoOf reply listenFd copied progress next written) :
    written = none ∨ ∃ messageInfo, written = some (thread,messageInfo) := by
  cases moves with
  | found retryCount listed => exact .inl rfl
  | again retryCount => exact .inl rfl
  | gaveUp retryCount => exact .inl rfl
  | stored field held => exact .inr ⟨_,by rw [shows_.1]⟩
  | failed held uncopied => exact .inr ⟨_,by rw [shows_.1]⟩
  | lost => exact .inl rfl
  | matches_ listed => exact .inl rfl
  | notified held => exact .inr ⟨_,by rw [shows_.1]⟩

theorem moves_idle {reply : Reply} {listenFd : Int32} {progress next : Progress} (idle : isIdle progress = true)
    (nobody : threads reply.tr.seqNumber = none) (moves : Moves threads infoOf reply listenFd copied progress next written) :
    written = none ∧ isIdle next = true := by
  cases moves with
  | found retryCount listed =>
    rw [nobody] at listed
    cases listed
  | again retryCount => exact ⟨rfl,rfl⟩
  | gaveUp retryCount => exact ⟨rfl,rfl⟩
  | stored field held => cases idle
  | failed held uncopied => cases idle
  | lost => cases idle
  | matches_ listed => cases idle
  | notified held => cases idle

end Delivery

section Links
variable {events later : List Event} {client after : State} {index other : Nat} {call found moved : Call}

theorem progressOf_congr {deliveries more : List Delivery}
    (same : ∀ reply position, call.travel = .arrived reply position → more[position]? = deliveries[position]?) :
    progressOf more call = progressOf deliveries call := by
  unfold progressOf
  split
  · rename_i reply position travel
    rw [same reply position travel]
  · rfl

theorem Link.frame (link : Link events client index call) (grown : events <+: later)
    (waiters : ∀ thread, call.thread = some thread → after.waiters[thread]? = client.waiters[thread]?)
    (deliveries : ∀ reply position, call.travel = .arrived reply position →
      after.deliveries[position]? = client.deliveries[position]?) : Link later after index call where
  number := link.number
  answer := by
    intro reply answered
    obtain ⟨tr,body,same,member⟩ := link.answer reply answered
    exact ⟨tr,body,same,grown.subset member⟩
  delivery := by
    intro reply position travel
    rw [deliveries reply position travel]
    exact link.delivery reply position travel
  waits := by
    intro thread here
    rw [waiters thread here,progressOf_congr deliveries]
    obtain ⟨waiter,lookup,number,socket,shows_⟩ := link.waits thread here
    exact ⟨waiter,lookup,number,socket,shows_.grow grown⟩
  idle := by
    rw [progressOf_congr deliveries]
    exact link.idle

theorem Link.answer_number (link : Link events client index call) {reply : Reply} (answered : arrivedReply call = some reply) :
    reply.tr.seqNumber = index+1 := by
  obtain ⟨tr,body,rfl,-⟩ := link.answer reply (.inr answered)
  exact link.number

theorem arrived_reply {reply : Reply} {position : Nat} (travel : call.travel = .arrived reply position) :
    arrivedReply call = some reply := by
  unfold arrivedReply
  rw [travel]

/-- A thread waits for one call. -/
theorem thread_unique (link : Link events client index call) (also : Link events client other found) {thread : Nat}
    (here : call.thread = some thread) (there : found.thread = some thread) : index = other := by
  obtain ⟨waiter,lookup,number,-⟩ := link.waits thread here
  obtain ⟨same,again,also_number,-⟩ := also.waits thread there
  rw [lookup,Option.some.injEq] at again
  subst again
  omega

/-- A data thread has the reply to one call. -/
theorem position_unique (link : Link events client index call) (also : Link events client other found) {reply answer : Reply}
    {position : Nat} (here : call.travel = .arrived reply position) (there : found.travel = .arrived answer position) : index = other := by
  obtain ⟨delivery,lookup,rfl,-⟩ := link.delivery reply position here
  obtain ⟨same,again,rfl,-⟩ := also.delivery answer position there
  rw [lookup,Option.some.injEq] at again
  subst again
  have first := link.answer_number (arrived_reply here)
  have second := also.answer_number (arrived_reply there)
  omega

end Links

section Step
variable {events : List Event} {system next : System} {event : Event}

theorem linked_new : Linked [] System.new where
  last := rfl
  linked := fun index call here => by cases here
  waiters := fun thread bound => absurd bound (Nat.not_lt_zero thread)
  deliveries := fun position bound => absurd bound (Nat.not_lt_zero position)
  listed := fun seqNumber thread here => by cases here

theorem getSeqNumber_toNat {seqNumber : UInt64} (few : seqNumber.toNat+1 < 2^64) :
    (getSeqNumber seqNumber).toNat = seqNumber.toNat+1 := by
  have room : seqNumber ≠ -1 := by
    rintro rfl
    exact absurd few (by decide)
  rw [getSeqNumber,if_neg room,UInt64.toNat_add]
  exact Nat.mod_eq_of_lt few

/-- The record of one call changes, and the threads here with it. -/
theorem Linked.put {later : List Event} {index : Nat} {call moved : Call} {client : State} (linked : Linked events system)
    (here : system.calls[index]? = some call) (own : Link later client index moved)
    (others : ∀ (other : Nat) (found : Call), other ≠ index → system.calls[other]? = some found → Link later client other found)
    (waiters : ∀ thread < client.waiters.length,
      moved.thread = some thread ∨ thread < system.client.waiters.length ∧ call.thread ≠ some thread)
    (deliveries : ∀ position < client.deliveries.length,
      (∃ reply, moved.travel = .arrived reply position) ∨
        position < system.client.deliveries.length ∧ ∀ reply, call.travel ≠ .arrived reply position)
    (listed : ∀ seqNumber thread, client.threads seqNumber = some thread →
      ∃ waiter, client.waiters[thread]? = some waiter ∧ waiter.seqNumber = seqNumber) :
    Linked later { system with client := client, calls := system.calls.set index moved } := by
  have bound : index < system.calls.length := (List.getElem?_eq_some_iff.mp here).1
  have self : (system.calls.set index moved)[index]? = some moved := List.getElem?_set_self bound
  have rest {other : Nat} (different : other ≠ index) : (system.calls.set index moved)[other]? = system.calls[other]? :=
    List.getElem?_set_ne (Ne.symm different)
  refine ⟨?_,?_,?_,?_,listed⟩
  · rw [List.length_set]
    exact linked.last
  · intro other found lookup
    by_cases same : other = index
    · subst same
      rw [self,Option.some.injEq] at lookup
      exact lookup ▸ own
    · rw [rest same] at lookup
      exact others other found same lookup
  · intro thread inside
    rcases waiters thread inside with mine | ⟨old,foreign⟩
    · exact ⟨index,moved,self,mine⟩
    · obtain ⟨other,found,lookup,theirs⟩ := linked.waiters thread old
      have different : other ≠ index := by
        rintro rfl
        rw [here,Option.some.injEq] at lookup
        exact foreign (lookup ▸ theirs)
      exact ⟨other,found,(rest different).trans lookup,theirs⟩
  · intro position inside
    rcases deliveries position inside with ⟨reply,mine⟩ | ⟨old,foreign⟩
    · exact ⟨index,moved,reply,self,mine⟩
    · obtain ⟨other,found,reply,lookup,theirs⟩ := linked.deliveries position old
      have different : other ≠ index := by
        rintro rfl
        rw [here,Option.some.injEq] at lookup
        exact foreign reply (lookup ▸ theirs)
      exact ⟨other,found,reply,(rest different).trans lookup,theirs⟩

theorem Linked.snoc (linked : Linked events system) (event : Event) : Linked (events ++ [event]) system where
  last := linked.last
  linked := fun index call here =>
    (linked.linked index call here).frame (List.prefix_append events [event]) (fun _ _ => rfl) fun _ _ _ => rfl
  waiters := linked.waiters
  deliveries := linked.deliveries
  listed := linked.listed

theorem Linked.sockets (linked : Linked events system) (sockets : List Int32) :
    Linked events { system with client := { system.client with serverSockets := sockets } } where
  last := linked.last
  linked := fun index call here => (linked.linked index call here).frame List.prefix_rfl (fun _ _ => rfl) fun _ _ _ => rfl
  waiters := linked.waiters
  deliveries := linked.deliveries
  listed := linked.listed

/-- A call that has no reply here yet moves on at the peer. -/
theorem Linked.travel {index : Nat} {call : Call} {travel : Travel} (linked : Linked events system)
    (here : system.calls[index]? = some call) (before : ∀ reply position, call.travel ≠ .arrived reply position)
    (after : ∀ reply position, travel ≠ .arrived reply position)
    (answer : ∀ reply, travel = .answered reply → ∃ tr body, reply = replyTo call tr body ∧ Event.sendReply index tr body ∈ events) :
    Linked events { system with calls := system.calls.set index { call with travel := travel } } := by
  have link := linked.linked index call here
  have absent : arrivedReply { call with travel := travel } = none := by
    unfold arrivedReply
    split
    · rename_i reply position arrived
      exact absurd arrived (after reply position)
    · rfl
  have still {made : Call} (there : ∀ reply position, made.travel ≠ .arrived reply position) :
      progressOf system.client.deliveries made = .querying 0 := by
    unfold progressOf
    split
    · rename_i reply position arrived
      exact absurd arrived (there reply position)
    · rfl
  refine @Linked.put events system events index call { call with travel := travel } system.client linked here
    ⟨link.number,?_,?_,?_,?_⟩ ?_ ?_ ?_ linked.listed
  · intro reply answered
    rcases answered with answered | arrived
    · exact answer reply answered
    · rw [absent] at arrived
      cases arrived
  · exact fun reply position arrived => absurd arrived (after reply position)
  · intro thread waits
    obtain ⟨waiter,lookup,number,socket,shows_⟩ := link.waits thread waits
    rw [still before] at shows_
    rw [still after]
    exact ⟨waiter,lookup,number,socket,shows_⟩
  · intro nobody
    rw [still after]
    rfl
  · exact fun other found different lookup => linked.linked other found lookup
  · intro thread bound
    by_cases mine : call.thread = some thread
    · exact .inl mine
    · exact .inr ⟨bound,mine⟩
  · exact fun position bound => .inr ⟨bound,fun reply => before reply position⟩

/-- The records of the calls stay as they are. -/
theorem Linked.keep {later : List Event} {index : Nat} {call : Call} {client : State} (linked : Linked events system)
    (here : system.calls[index]? = some call) (own : Link later client index call)
    (others : ∀ (other : Nat) (found : Call), other ≠ index → system.calls[other]? = some found → Link later client other found)
    (waiters : client.waiters.length = system.client.waiters.length)
    (deliveries : client.deliveries.length = system.client.deliveries.length)
    (listed : ∀ seqNumber thread, client.threads seqNumber = some thread →
      ∃ waiter, client.waiters[thread]? = some waiter ∧ waiter.seqNumber = seqNumber) :
    Linked later { system with client := client } := by
  have same : system.calls.set index call = system.calls := by
    obtain ⟨bound,rfl⟩ := List.getElem?_eq_some_iff.mp here
    exact List.set_getElem_self bound
  have put := linked.put here own others
    (fun thread bound => by
      by_cases mine : call.thread = some thread
      · exact .inl mine
      · exact .inr ⟨waiters ▸ bound,mine⟩)
    (fun position bound => by
      by_cases mine : ∃ reply, call.travel = .arrived reply position
      · exact .inl mine
      · exact .inr ⟨deliveries ▸ bound,not_exists.mp mine⟩) listed
  rwa [same] at put

/-- The reply to a call finds the thread that waits for it, and no other. -/
theorem Linked.listed_thread {index : Nat} {call : Call} {reply : Reply} {thread : Nat} (linked : Linked events system)
    (here : system.calls[index]? = some call) (answered : arrivedReply call = some reply)
    (listed : system.client.threads reply.tr.seqNumber = some thread) : call.thread = some thread := by
  obtain ⟨waiter,lookup,number⟩ := linked.listed _ thread listed
  obtain ⟨other,found,there,waits⟩ := linked.waiters thread (List.getElem?_eq_some_iff.mp lookup).1
  obtain ⟨same,again,theirs,-⟩ := (linked.linked other found there).waits thread waits
  rw [lookup,Option.some.injEq] at again
  subst again
  have own := (linked.linked index call here).answer_number answered
  have equal : other = index := by omega
  subst equal
  rw [here,Option.some.injEq] at there
  exact there ▸ waits

theorem linked_sendRequest (linked : Linked events system) (few : system.calls.length+1 < 2^64) (socketId : Int32) (request : List UInt8) :
    Linked events { system with
      seqNumber := getSeqNumber system.seqNumber
      calls := system.calls ++ [⟨getSeqNumber system.seqNumber,socketId,request,.sent,none⟩] } := by
  have number : (getSeqNumber system.seqNumber).toNat = system.calls.length+1 := by
    rw [getSeqNumber_toNat (by rw [linked.last]; exact few),linked.last]
  refine ⟨?_,?_,?_,?_,linked.listed⟩
  · rw [number,List.length_append]
    rfl
  · intro index call here
    rcases Entries.at_concat_last here with before | ⟨rfl,rfl⟩
    · exact linked.linked index call before
    · refine ⟨number,?_,?_,?_,fun _ => rfl⟩
      · rintro reply (answered | arrived)
        · cases answered
        · cases arrived
      · intro reply position arrived
        cases arrived
      · intro thread waits
        cases waits
  · intro thread bound
    obtain ⟨index,call,here,waits⟩ := linked.waiters thread bound
    exact ⟨index,call,Entries.at_concat_of here,waits⟩
  · intro position bound
    obtain ⟨index,call,reply,here,arrived⟩ := linked.deliveries position bound
    exact ⟨index,call,reply,Entries.at_concat_of here,arrived⟩

theorem linked_startProcessLoop {index : Nat} {call : Call} {reply : Reply} (linked : Linked events system)
    (here : system.calls[index]? = some call) (answered : call.travel = .answered reply) :
    Linked events { system with
      client := { system.client with deliveries := system.client.deliveries ++ [⟨reply,call.socketId,.querying 0⟩] }
      calls := system.calls.set index { call with travel := .arrived reply system.client.deliveries.length } } := by
  have link := linked.linked index call here
  have before : progressOf system.client.deliveries call = .querying 0 := by
    unfold progressOf
    rw [answered]
  have after : progressOf (system.client.deliveries ++ [⟨reply,call.socketId,.querying 0⟩])
      { call with travel := .arrived reply system.client.deliveries.length } = .querying 0 := by
    simp [progressOf]
  refine @Linked.put events system events index call { call with travel := .arrived reply system.client.deliveries.length }
    { system.client with deliveries := system.client.deliveries ++ [⟨reply,call.socketId,.querying 0⟩] } linked here
    ⟨link.number,?_,?_,?_,?_⟩ ?_ ?_ ?_ linked.listed
  · rintro other (impossible | arrived)
    · cases impossible
    · cases arrived
      exact link.answer reply (.inl answered)
  · intro other position arrived
    cases arrived
    exact ⟨_,List.getElem?_concat_length,rfl,rfl⟩
  · intro thread waits
    obtain ⟨waiter,lookup,number,socket,shows_⟩ := link.waits thread waits
    rw [before] at shows_
    rw [after]
    exact ⟨waiter,lookup,number,socket,shows_⟩
  · intro nobody
    rw [after]
    rfl
  · intro other found different lookup
    have theirs := linked.linked other found lookup
    refine theirs.frame List.prefix_rfl (fun _ _ => rfl) fun answer position arrived => ?_
    obtain ⟨delivery,held,-⟩ := theirs.delivery answer position arrived
    exact (Entries.at_concat_of held).trans held.symm
  · intro thread bound
    by_cases mine : call.thread = some thread
    · exact .inl mine
    · exact .inr ⟨bound,mine⟩
  · intro position bound
    rw [List.length_append,List.length_singleton] at bound
    by_cases last : position = system.client.deliveries.length
    · exact .inl ⟨reply,by rw [last]⟩
    · refine .inr ⟨by omega,fun other arrived => ?_⟩
      rw [answered] at arrived
      cases arrived

theorem linked_waitForReply {index : Nat} {call : Call} (linked : Linked events system) (here : system.calls[index]? = some call)
    (nobody : call.thread = none) :
    Linked events { system with
      client := { system.client with
        waiters := system.client.waiters ++ [⟨call.seqNumber.toNat,call.socketId,makeThreadMessageInfo call.socketId,.made⟩] }
      calls := system.calls.set index { call with thread := some system.client.waiters.length } } := by
  have link := linked.linked index call here
  refine @Linked.put events system events index call { call with thread := some system.client.waiters.length }
    { system.client with
      waiters := system.client.waiters ++ [⟨call.seqNumber.toNat,call.socketId,makeThreadMessageInfo call.socketId,.made⟩] } linked here
    ⟨link.number,link.answer,link.delivery,?_,?_⟩ ?_ ?_ ?_ ?_
  · intro thread waits
    cases waits
    refine ⟨_,List.getElem?_concat_length,link.number,rfl,?_⟩
    have idle := link.idle nobody
    change Shows _ _ _ _ (progressOf system.client.deliveries call)
    cases progress : progressOf system.client.deliveries call with
    | querying retryCount => exact ⟨rfl,rfl⟩
    | finished => exact fun raised => by cases raised
    | storing aim field => rw [progress] at idle; cases idle
    | waking => rw [progress] at idle; cases idle
    | notifying aim => rw [progress] at idle; cases idle
  · intro impossible
    cases impossible
  · intro other found different lookup
    have theirs := linked.linked other found lookup
    refine theirs.frame List.prefix_rfl (fun thread waits => ?_) fun _ _ _ => rfl
    obtain ⟨waiter,held,-⟩ := theirs.waits thread waits
    exact (Entries.at_concat_of held).trans held.symm
  · intro thread bound
    rw [List.length_append,List.length_singleton] at bound
    by_cases last : thread = system.client.waiters.length
    · exact .inl (by rw [last])
    · refine .inr ⟨by omega,?_⟩
      rw [nobody]
      exact nofun
  · intro position bound
    by_cases mine : ∃ reply, call.travel = .arrived reply position
    · exact .inl mine
    · exact .inr ⟨bound,not_exists.mp mine⟩
  · intro seqNumber thread listed
    obtain ⟨waiter,held,number⟩ := linked.listed seqNumber thread listed
    exact ⟨waiter,Entries.at_concat_of held,number⟩

theorem linked_waiter {thread : Nat} {waiter moved : Waiter} {threads : Threads} {step : WaitStep} (linked : Linked events system)
    (here : system.client.waiters[thread]? = some waiter) (taken : waiter.step system.client.threads thread step = some (threads,moved)) :
    Linked events { system with
      client := { system.client with threads := threads, waiters := system.client.waiters.set thread moved } } := by
  obtain ⟨index,call,there,waits⟩ := linked.waiters thread (List.getElem?_eq_some_iff.mp here).1
  have link := linked.linked index call there
  obtain ⟨same,again,number,socket,shows_⟩ := link.waits thread waits
  rw [here,Option.some.injEq] at again
  subst again
  obtain ⟨keptNumber,keptSocket,table,-⟩ := waiterStep_cases taken
  refine linked.keep there ⟨link.number,link.answer,link.delivery,?_,link.idle⟩ ?_ (List.length_set ..) rfl ?_
  · intro other theirs
    rw [waits,Option.some.injEq] at theirs
    subst theirs
    exact ⟨moved,Entries.at_set_self here,keptNumber.trans number,keptSocket.trans socket,shows_moved taken shows_⟩
  · intro other found different lookup
    have theirs := linked.linked other found lookup
    refine theirs.frame List.prefix_rfl (fun foreign waits' => Entries.at_set_other ?_) fun _ _ _ => rfl
    rintro rfl
    exact different (thread_unique theirs link waits' waits)
  · intro seqNumber found listed
    have kept {position : Nat} {old : Waiter} (held : system.client.waiters[position]? = some old) :
        ∃ new, (system.client.waiters.set thread moved)[position]? = some new ∧ new.seqNumber = old.seqNumber := by
      by_cases own : position = thread
      · subst own
        rw [here,Option.some.injEq] at held
        subst held
        exact ⟨moved,Entries.at_set_self here,keptNumber⟩
      · exact ⟨old,(Entries.at_set_other own).trans held,rfl⟩
    rcases table seqNumber found listed with before | ⟨rfl,rfl⟩
    · obtain ⟨old,held,rfl⟩ := linked.listed seqNumber found before
      exact kept held
    · exact kept here

theorem linked_delivery {position : Nat} {delivery moved : Delivery} {written : Option (Nat × ThreadMessageInfo)} {copied : Bool}
    (linked : Linked events system)
    (failing : copied = false → (∃ aim, delivery.progress = .storing aim .buffer) → CopyFailed events position)
    (here : system.client.deliveries[position]? = some delivery)
    (taken : delivery.step system.client.threads system.client.infoOf copied = some (moved,written)) :
    Linked events { system with
      client := { system.client with
        deliveries := system.client.deliveries.set position moved, waiters := State.putInfo system.client.waiters written } } := by
  obtain ⟨index,call,reply,there,arrived⟩ := linked.deliveries position (List.getElem?_eq_some_iff.mp here).1
  have link := linked.linked index call there
  have answered := arrived_reply arrived
  obtain ⟨same,again,rfl,socket⟩ := link.delivery reply position arrived
  rw [here,Option.some.injEq] at again
  subst again
  obtain ⟨sameReply,sameSocket,moves⟩ := deliveryStep_cases taken
  rw [socket] at moves
  have before : progressOf system.client.deliveries call = delivery.progress := by
    simp [progressOf,arrived,here]
  have after : progressOf (system.client.deliveries.set position moved) call = moved.progress := by
    simp only [progressOf,arrived,Entries.at_set_self here,Option.map_some,Option.getD_some]
  have only (thread : Nat) (listed : system.client.threads delivery.reply.tr.seqNumber = some thread) : call.thread = some thread :=
    linked.listed_thread there answered listed
  have nobody_listed (nobody : call.thread = none) : system.client.threads delivery.reply.tr.seqNumber = none := by
    cases listed : system.client.threads delivery.reply.tr.seqNumber with
    | none => rfl
    | some thread =>
      rw [only thread listed] at nobody
      cases nobody
  have idle (nobody : call.thread = none) : written = none ∧ isIdle moved.progress = true :=
    moves_idle (before ▸ link.idle nobody) (nobody_listed nobody) moves
  have target : written = none ∨ ∃ thread messageInfo, call.thread = some thread ∧ written = some (thread,messageInfo) := by
    cases waits : call.thread with
    | none => exact .inl (idle waits).1
    | some thread =>
      obtain ⟨waiter,held,-,-,shows_⟩ := link.waits thread waits
      rw [before] at shows_
      exact (moves_written shows_ moves).imp_right fun ⟨messageInfo,put⟩ => ⟨thread,messageInfo,rfl,put⟩
  refine linked.keep there ⟨link.number,link.answer,?_,?_,?_⟩ ?_ (putInfo_length _) (List.length_set ..) ?_
  · intro other place arrived'
    rw [arrived,Travel.arrived.injEq] at arrived'
    obtain ⟨rfl,rfl⟩ := arrived'
    exact ⟨moved,Entries.at_set_self here,sameReply,sameSocket.trans socket⟩
  · intro thread waits
    obtain ⟨waiter,held,number,onSocket,shows_⟩ := link.waits thread waits
    rw [before] at shows_
    rw [after]
    obtain ⟨later,put,keptNumber,keptSocket,shown⟩ := shows_moves held answered (fun _ => rfl)
      (fun other listed => Option.some.inj ((only other listed).symm.trans waits))
      (fun uncopied copying => ⟨_,position,arrived,failing uncopied copying⟩) shows_ moves
    exact ⟨later,put,keptNumber.trans number,keptSocket.trans onSocket,shown⟩
  · intro nobody
    rw [after]
    exact (idle nobody).2
  · intro other found different lookup
    have theirs := linked.linked other found lookup
    refine theirs.frame List.prefix_rfl (fun thread waits => ?_) fun answer place arrived' => Entries.at_set_other ?_
    · rcases target with rfl | ⟨own,messageInfo,mine,rfl⟩
      · rfl
      · refine putInfo_other messageInfo ?_
        rintro rfl
        exact different (thread_unique theirs link waits mine)
    · rintro rfl
      exact different (position_unique theirs link arrived' arrived)
  · intro seqNumber thread listed
    obtain ⟨waiter,held,rfl⟩ := linked.listed seqNumber thread listed
    exact putInfo_seqNumber held

theorem linked_step (run : Reaches (fires System.step) .new events system) (linked : Linked events system)
    (taken : system.step event = some next) (few : next.calls.length < 2^64) :
    Linked (events ++ [event]) next := by
  have before := linked.snoc event
  cases event with
  | sendRequest socketId request =>
    cases taken
    rw [List.length_append,List.length_singleton] at few
    exact linked_sendRequest before few socketId request
  | processTransaction call =>
    simp only [System.step] at taken
    split at taken
    · cases taken
    · rename_i found here
      split at taken
      · rename_i sent
        cases taken
        exact before.travel here (fun _ _ arrived => by rw [sent] at arrived; cases arrived) (fun _ _ => nofun) fun _ => nofun
      · cases taken
  | sendReply call tr body =>
    simp only [System.step] at taken
    split at taken
    · cases taken
    · rename_i found here
      split at taken
      · rename_i serving
        cases taken
        refine before.travel here (fun _ _ arrived => by rw [serving] at arrived; cases arrived) (fun _ _ => nofun) ?_
        rintro _ ⟨⟩
        exact ⟨tr,body,rfl,List.mem_append_right _ (List.mem_singleton_self _)⟩
      · cases taken
  | startProcessLoop call =>
    simp only [System.step] at taken
    split at taken
    · cases taken
    · rename_i found here
      split at taken
      · rename_i reply answered
        obtain ⟨client,moves,rfl⟩ := Option.map_eq_some_iff.mp taken
        simp only [State.step,Option.ite_none_right_eq_some,Option.some.injEq] at moves
        obtain ⟨-,rfl⟩ := moves
        exact linked_startProcessLoop before here answered
      · cases taken
  | waitForReply call =>
    simp only [System.step] at taken
    split at taken
    · cases taken
    · rename_i found here
      split at taken
      · rename_i nobody
        cases taken
        exact linked_waitForReply before here nobody
      · cases taken
  | waiter thread step =>
    obtain ⟨client,moves,rfl⟩ := Option.map_eq_some_iff.mp taken
    simp only [State.step] at moves
    split at moves
    · cases moves
    · rename_i waiter here
      split at moves
      · cases moves
      · rename_i threads moved stepped
        cases moves
        exact linked_waiter before here stepped
  | delivery index copied =>
    obtain ⟨client,moves,rfl⟩ := Option.map_eq_some_iff.mp taken
    simp only [State.step] at moves
    split at moves
    · cases moves
    · rename_i delivery here
      split at moves
      · cases moves
      · rename_i moved written stepped
        cases moves
        refine linked_delivery before ?_ here stepped
        rintro rfl ⟨aim,copying⟩
        exact ⟨events,[],system,delivery,aim,rfl,run,here,copying⟩
  | openServerSession socketId =>
    cases taken
    exact before.sockets _
  | closeServerSession socketId =>
    cases taken
    exact before.sockets _

theorem calls_grow (taken : system.step event = some next) : system.calls.length ≤ next.calls.length := by
  cases event with
  | sendRequest socketId request =>
    cases taken
    rw [List.length_append]
    exact Nat.le_add_right _ _
  | processTransaction call =>
    simp only [System.step] at taken
    split at taken
    · cases taken
    · split at taken <;> cases taken
      rw [List.length_set]
  | sendReply call tr body =>
    simp only [System.step] at taken
    split at taken
    · cases taken
    · split at taken <;> cases taken
      rw [List.length_set]
  | startProcessLoop call =>
    simp only [System.step] at taken
    split at taken
    · cases taken
    · split at taken
      · obtain ⟨client,moves,rfl⟩ := Option.map_eq_some_iff.mp taken
        rw [List.length_set]
      · cases taken
  | waitForReply call =>
    simp only [System.step] at taken
    split at taken
    · cases taken
    · split at taken
      · obtain ⟨client,moves,rfl⟩ := Option.map_eq_some_iff.mp taken
        rw [List.length_set]
      · cases taken
  | waiter thread step =>
    obtain ⟨client,moves,rfl⟩ := Option.map_eq_some_iff.mp taken
    exact le_rfl
  | delivery index copied =>
    obtain ⟨client,moves,rfl⟩ := Option.map_eq_some_iff.mp taken
    exact le_rfl
  | openServerSession socketId =>
    cases taken
    exact le_rfl
  | closeServerSession socketId =>
    cases taken
    exact le_rfl

theorem linked_run (run : Reaches (fires System.step) .new events system) (few : system.calls.length < 2^64) : Linked events system := by
  induction run with
  | nil => exact linked_new
  | snoc event run taken ih => exact linked_step run (ih (Nat.lt_of_le_of_lt (calls_grow taken) few)) taken few

end Step

theorem handleReply_ready (messageInfo : ThreadMessageInfo) (ready : Bool) :
    handleReply { messageInfo with ready := ready } = handleReply messageInfo := rfl

theorem handleReply_make (socketId : Int32) : handleReply (makeThreadMessageInfo socketId) = .invalidReply rpcBaseInvokerInvalidReplyErr :=
  if_neg (by decide : ¬ hasFlag 0 tfStatusCode = true)

theorem handleReply_contents {reply : Reply} {socketId : Int32} {buffer : List UInt8} {bufferSize offsets offsetsSize : Nat}
    {handle : UInt32} (same : .contents buffer bufferSize offsets offsetsSize handle = handleReply (complete reply socketId)) :
    buffer = reply.body := by
  unfold handleReply at same
  split at same
  · cases same
  · exact (Completion.contents.inj same).1

theorem settled_completion {events : List Event} {call : Call} {messageInfo : ThreadMessageInfo} {stage : Stage} {completion : Completion}
    (settled : Settled events call messageInfo stage) (done : completion? stage = some completion) :
    ∃ filled, Delivered events call filled ∧ completion = handleReply filled := by
  cases stage with
  | handled result => cases done; exact settled
  | returned result => cases done; exact settled
  | made => cases done
  | waiting => cases done
  | woken => cases done
  | rejected => cases done

theorem open_completion {stage : Stage} {completion : Completion} (done : completion? stage = some completion) : isOpen stage = false := by
  cases stage with
  | handled result => rfl
  | returned result => cases done; rfl
  | made => cases done
  | waiting => cases done
  | woken => cases done
  | rejected => cases done

/-- Whatever the order of requests, replies, time-outs and data threads, and as long as the numbers have not come round: a thread that
comes back with a reply made one call, and the reply is the one the peer gave to that call, all of it, or an error where the data
thread that has it failed to copy its body. -/
theorem call_gets_its_reply {events : List Event} {system : System} (run : Reaches (fires System.step) .new events system)
    (few : system.calls.length < 2^64) {thread : Nat} {waiter : Waiter} {completion : Completion}
    (here : system.client.waiters[thread]? = some waiter) (done : completion? waiter.stage = some completion) :
    ∃ (index : Nat) (call : Call), system.calls[index]? = some call ∧ call.thread = some thread ∧
      (∀ (other : Nat) (found : Call), system.calls[other]? = some found → found.thread = some thread → other = index) ∧
      ∃ tr body position, Event.sendReply index tr body ∈ events ∧ call.travel = .arrived (replyTo call tr body) position ∧
        (completion = handleReply (complete (replyTo call tr body) call.socketId) ∨
          CopyFailed events position ∧ completion = .invalidReply rpcBaseInvokerInvalidReplyErr) := by
  have linked := linked_run run few
  obtain ⟨index,call,there,waits⟩ := linked.waiters thread (List.getElem?_eq_some_iff.mp here).1
  have link := linked.linked index call there
  obtain ⟨same,again,-,-,shows_⟩ := link.waits thread waits
  rw [here,Option.some.injEq] at again
  subst again
  have finished : Settled events call waiter.messageInfo waiter.stage := by
    rcases shows_open shows_ with ⟨open_,-⟩ | progress
    · rw [open_completion done] at open_
      cases open_
    · rwa [progress] at shows_
  obtain ⟨filled,⟨reply,answered,contents⟩,rfl⟩ := settled_completion finished done
  obtain ⟨tr,body,rfl,sent⟩ := link.answer reply (.inr answered)
  have arrived : ∃ position, call.travel = .arrived (replyTo call tr body) position := by
    unfold arrivedReply at answered
    split at answered
    · rename_i found position travel
      cases answered
      exact ⟨position,travel⟩
    · cases answered
  obtain ⟨position,travel⟩ := arrived
  refine ⟨index,call,there,waits,?_,tr,body,position,sent,travel,?_⟩
  · exact fun other found lookup theirs => thread_unique (linked.linked other found lookup) link theirs waits
  · rw [← handleReply_ready filled false]
    rcases contents with whole | ⟨⟨answer,place,arrived,failed⟩,nothing⟩
    · exact .inl (congrArg handleReply whole)
    · rw [travel,Travel.arrived.injEq] at arrived
      obtain ⟨-,rfl⟩ := arrived
      exact .inr ⟨failed,by rw [nothing,handleReply_make]⟩

/-- Two calls on one session; the second is answered first. -/
def twoCalls : List Event :=
  [.openServerSession 5,.sendRequest 5 [1],.sendRequest 5 [2],.waitForReply 0,.waitForReply 1,.waiter 0 .addSendThreadInWait,
    .processTransaction 0,.processTransaction 1,.sendReply 1 ⟨68,dbinderMagicword,1,bcReply,0,0,0,0,4,0,4⟩ [2,2,2,2],.startProcessLoop 1,
    .delivery 0 true,.waiter 1 .addSendThreadInWait,.sendReply 0 ⟨68,dbinderMagicword,1,bcReply,0,0,0,0,4,0,4⟩ [1,1,1,1],
    .startProcessLoop 0] ++
    List.replicate 9 (.delivery 1 true) ++ List.replicate 9 (.delivery 0 true) ++
    [.waiter 1 .wakeUp,.waiter 1 .handleReply,.waiter 0 .wakeUp,.waiter 0 .handleReply]

theorem call_gets_its_reply_crossed : ∃ system, Reaches (fires System.step) .new twoCalls system ∧
    ∃ (call : Call) (tr : TransactionData) (position : Nat), system.calls[1]? = some call ∧ Event.sendReply 1 tr [2,2,2,2] ∈ twoCalls ∧
      call.travel = .arrived (replyTo call tr [2,2,2,2]) position := by
  obtain ⟨system,run,test⟩ := Reaches.exists_of_foldlM System.step System.new twoCalls
    (fun system => system.calls.length = 2 ∧ system.calls[1]?.map Call.thread = some (some 1) ∧
      (system.client.waiters[1]?.bind fun waiter => completion? waiter.stage) = some (.contents [2,2,2,2] 4 4 0 5))
    (by decide +kernel)
  obtain ⟨two,mine,test⟩ := of_decide_eq_true test
  obtain ⟨found,lookup,waits⟩ := Option.map_eq_some_iff.mp mine
  obtain ⟨waiter,here,done⟩ := Option.bind_eq_some_iff.mp test
  obtain ⟨index,call,there,_,only,tr,body,position,sent,travel,same | ⟨-,failed⟩⟩ := call_gets_its_reply run (by rw [two]; decide) here done
  · obtain rfl := only 1 found lookup waits
    have content := handleReply_contents same
    change [2,2,2,2] = body at content
    subst content
    exact ⟨system,run,call,tr,position,there,sent,travel⟩
  · cases failed

end CommunicationIpc.RemoteCalls
