import CommunicationIpc.Kernel.ReplyWait
import CommunicationIpc.Library.Run

/-! Which replies may complete a waiting thread. Each store into a `ThreadMessageInfo` is
traced to the package it came from; the trace is kept by every step as long as the lookup of
`ProcessReply` only finds threads that wait on the socket the reply arrived on. -/
namespace CommunicationIpc.ReplyWait
open CommunicationIpc.Library CommunicationIpc.Kernel.Package CommunicationIpc.Kernel.ReplyWait

def Arrived (events : List Event) (seqNumber : Nat) (socketId : Int32) (reply : Reply) : Prop :=
  reply.tr.seqNumber = seqNumber ∧ Event.startProcessLoop reply socketId ∈ events

/-- Every field still holds its first value or was copied from a reply in `sender`. -/
structure Sourced (sender : Reply → Prop) (socketId : Int32) (messageInfo : ThreadMessageInfo) : Prop where
  flags : messageInfo.flags = 0 ∨ ∃ reply, sender reply ∧ messageInfo.flags = reply.tr.flags
  bufferSize : messageInfo.bufferSize = 0 ∨ ∃ reply, sender reply ∧ messageInfo.bufferSize = reply.tr.bufferSize
  offsetsSize : messageInfo.offsetsSize = 0 ∨ ∃ reply, sender reply ∧ messageInfo.offsetsSize = reply.tr.offsetsSize
  offsets : messageInfo.offsets = 0 ∨ ∃ reply, sender reply ∧ messageInfo.offsets = reply.tr.offsets
  socket : messageInfo.socketId = socketId.toUInt32
  buffer : messageInfo.buffer = none ∨ ∃ reply, sender reply ∧ messageInfo.buffer = some reply.body
  ready : messageInfo.ready = true → ∃ reply, sender reply

def CompletedBy (sender : Reply → Prop) (socketId : Int32) (completion : Completion) : Prop :=
  ∃ messageInfo, Sourced sender socketId messageInfo ∧ completion = handleReply messageInfo

def Staged (sender : Reply → Prop) (socketId : Int32) : Stage → Prop
  | .woken => ∃ reply, sender reply
  | .handled completion => (∃ reply, sender reply) ∧ CompletedBy sender socketId completion
  | .returned (some completion) => (∃ reply, sender reply) ∧ CompletedBy sender socketId completion
  | _ => True

structure WaiterSourced (sender : Reply → Prop) (waiter : Waiter) : Prop where
  info : Sourced sender waiter.socketId waiter.messageInfo
  stage : Staged sender waiter.socketId waiter.stage

def Writes (reply : Reply) (listenFd : Int32) (before after : ThreadMessageInfo) : Prop :=
  after = { before with buffer := none } ∨ (∃ field : Field, after = field.store reply listenFd before) ∨
    after = { before with ready := true }

section Sourced
variable {sender wider : Reply → Prop} {socketId : Int32} {messageInfo : ThreadMessageInfo}

theorem sourced_make (sender : Reply → Prop) (socketId : Int32) :
    Sourced sender socketId (makeThreadMessageInfo socketId) :=
  ⟨.inl rfl,.inl rfl,.inl rfl,.inl rfl,rfl,.inl rfl,by intro raised; cases raised⟩

private theorem widen {α : Type} {first value : α} (field : Reply → α) (more : ∀ reply, sender reply → wider reply)
    (held : value = first ∨ ∃ reply, sender reply ∧ value = field reply) :
    value = first ∨ ∃ reply, wider reply ∧ value = field reply :=
  held.imp_right fun ⟨reply,member,same⟩ => ⟨reply,more reply member,same⟩

theorem Sourced.mono (sourced : Sourced sender socketId messageInfo) (more : ∀ reply, sender reply → wider reply) :
    Sourced wider socketId messageInfo where
  flags := widen (fun reply => reply.tr.flags) more sourced.flags
  bufferSize := widen (fun reply => reply.tr.bufferSize) more sourced.bufferSize
  offsetsSize := widen (fun reply => reply.tr.offsetsSize) more sourced.offsetsSize
  offsets := widen (fun reply => reply.tr.offsets) more sourced.offsets
  socket := sourced.socket
  buffer := widen (fun reply => some reply.body) more sourced.buffer
  ready := fun raised => (sourced.ready raised).imp more

theorem Staged.mono {stage : Stage} (staged : Staged sender socketId stage)
    (more : ∀ reply, sender reply → wider reply) : Staged wider socketId stage := by
  have completed {completion : Completion}
      (held : (∃ reply, sender reply) ∧ CompletedBy sender socketId completion) :
      (∃ reply, wider reply) ∧ CompletedBy wider socketId completion :=
    ⟨held.1.imp more,held.2.imp fun _ both => ⟨both.1.mono more,both.2⟩⟩
  cases stage with
  | woken => exact staged.imp more
  | handled completion => exact completed staged
  | returned result =>
    cases result with
    | none => trivial
    | some completion => exact completed staged
  | made => trivial
  | waiting => trivial
  | rejected => trivial

theorem Sourced.writes {reply : Reply} {after : ThreadMessageInfo} (sourced : Sourced sender socketId messageInfo)
    (member : sender reply) (written : Writes reply socketId messageInfo after) : Sourced sender socketId after := by
  rcases written with rfl | ⟨field,rfl⟩ | rfl
  · exact { sourced with buffer := .inl rfl }
  · cases field with
    | buffer => exact { sourced with buffer := .inr ⟨reply,member,rfl⟩ }
    | flags => exact { sourced with flags := .inr ⟨reply,member,rfl⟩ }
    | bufferSize => exact { sourced with bufferSize := .inr ⟨reply,member,rfl⟩ }
    | offsetsSize => exact { sourced with offsetsSize := .inr ⟨reply,member,rfl⟩ }
    | offsets => exact { sourced with offsets := .inr ⟨reply,member,rfl⟩ }
    | socketId => exact { sourced with socket := rfl }
  · exact { sourced with ready := fun _ => ⟨reply,member⟩ }

end Sourced

theorem waiterStep_spec {sender : Reply → Prop} {threads after : Threads} {thread : Nat} {waiter moved : Waiter}
    {event : WaitStep} (sourced : WaiterSourced sender waiter)
    (taken : waiter.step threads thread event = some (after,moved)) :
    moved.seqNumber = waiter.seqNumber ∧ moved.socketId = waiter.socketId ∧ WaiterSourced sender moved ∧
      ∀ seqNumber found, after seqNumber = some found →
        threads seqNumber = some found ∨ (seqNumber = waiter.seqNumber ∧ found = thread) := by
  have erased {seqNumber found : Nat}
      (listed : eraseThreadBySeqNumber threads waiter.seqNumber seqNumber = some found) :
      threads seqNumber = some found := by
    by_cases own : seqNumber = waiter.seqNumber
    · simp [eraseThreadBySeqNumber,own] at listed
    · simpa [eraseThreadBySeqNumber,own] using listed
  obtain ⟨info,stage⟩ := sourced
  cases event with
  | addSendThreadInWait =>
    simp only [Waiter.step,addThreadBySeqNumber] at taken
    split at taken
    · cases absent : threads waiter.seqNumber with
      | none =>
        simp only [absent,Option.some.injEq,Prod.mk.injEq] at taken
        obtain ⟨rfl,rfl⟩ := taken
        refine ⟨rfl,rfl,⟨info,trivial⟩,?_⟩
        intro seqNumber found listed
        by_cases own : seqNumber = waiter.seqNumber
        · subst own
          simp only [Function.update_self,Option.some.injEq] at listed
          exact .inr ⟨rfl,listed.symm⟩
        · rw [Function.update_of_ne own] at listed
          exact .inl listed
      | some other =>
        simp only [absent,Option.some.injEq,Prod.mk.injEq] at taken
        obtain ⟨rfl,rfl⟩ := taken
        exact ⟨rfl,rfl,⟨info,trivial⟩,fun _ _ => .inl⟩
    · cases taken
  | wakeUp =>
    simp only [Waiter.step] at taken
    split at taken
    · rename_i raised
      simp only [Option.some.injEq,Prod.mk.injEq] at taken
      obtain ⟨rfl,rfl⟩ := taken
      refine ⟨rfl,rfl,⟨{ info with ready := ?_ },info.ready raised.2⟩,fun _ _ => .inl⟩
      intro impossible
      cases impossible
    · cases taken
  | timeOut =>
    simp only [Waiter.step] at taken
    split at taken
    · simp only [Option.some.injEq,Prod.mk.injEq] at taken
      obtain ⟨rfl,rfl⟩ := taken
      refine ⟨rfl,rfl,⟨{ info with ready := ?_ },trivial⟩,fun _ _ => .inl⟩
      intro impossible
      cases impossible
    · cases taken
  | handleReply =>
    simp only [Waiter.step] at taken
    split at taken
    · rename_i woken
      simp only [Option.some.injEq,Prod.mk.injEq] at taken
      obtain ⟨rfl,rfl⟩ := taken
      rw [woken] at stage
      exact ⟨rfl,rfl,⟨info,stage,_,info,rfl⟩,fun _ _ => .inl⟩
    · cases taken
  | eraseThread =>
    simp only [Waiter.step] at taken
    split at taken
    · simp only [Option.some.injEq,Prod.mk.injEq] at taken
      obtain ⟨rfl,rfl⟩ := taken
      exact ⟨rfl,rfl,⟨info,trivial⟩,fun _ _ listed => .inl (erased listed)⟩
    · rename_i completion handled
      simp only [Option.some.injEq,Prod.mk.injEq] at taken
      obtain ⟨rfl,rfl⟩ := taken
      rw [handled] at stage
      refine ⟨rfl,rfl,⟨{ info with buffer := .inl rfl, ready := ?_ },stage⟩,fun _ _ listed => .inl (erased listed)⟩
      intro impossible
      cases impossible
    · cases taken

def target (delivery : Delivery) : Option Nat :=
  match delivery.progress with
  | .storing thread _ => some thread
  | .notifying thread => some thread
  | _ => none

/-- A data thread writes only to its target; it takes a target from the table, at the first
lookup or after comparing sockets. -/
theorem deliveryStep_spec {threads : Threads} {infoOf : Nat → Option ThreadMessageInfo} {delivery moved : Delivery}
    {copied : Bool} {written : Option (Nat × ThreadMessageInfo)}
    (taken : delivery.step threads infoOf copied = some (moved,written)) :
    moved.reply = delivery.reply ∧ moved.listenFd = delivery.listenFd ∧
      (∀ thread, target moved = some thread → target delivery = some thread ∨
        (threads delivery.reply.tr.seqNumber = some thread ∧
          ((∃ retryCount, delivery.progress = .querying retryCount) ∨
            ∃ messageInfo, infoOf thread = some messageInfo ∧ delivery.listenFd.toUInt32 = messageInfo.socketId))) ∧
      (written = none ∨ ∃ thread before after, target delivery = some thread ∧ infoOf thread = some before ∧
        written = some (thread,after) ∧ Writes delivery.reply delivery.listenFd before after) := by
  cases progress : delivery.progress with
  | querying retryCount =>
    simp only [Delivery.step,progress,queryThreadBySeqNumber] at taken
    split at taken
    · rename_i thread found
      simp only [Option.some.injEq,Prod.mk.injEq] at taken
      obtain ⟨rfl,rfl⟩ := taken
      refine ⟨rfl,rfl,?_,.inl rfl⟩
      intro aimed same
      simp only [target,Option.some.injEq] at same
      subst same
      exact .inr ⟨found,.inl ⟨retryCount,rfl⟩⟩
    · split at taken <;>
      · simp only [Option.some.injEq,Prod.mk.injEq] at taken
        obtain ⟨rfl,rfl⟩ := taken
        exact ⟨rfl,rfl,fun _ impossible => (by cases impossible),.inl rfl⟩
  | storing thread field =>
    have own : target delivery = some thread := by simp only [target,progress]
    simp only [Delivery.step,progress] at taken
    cases held : infoOf thread with
    | none => simp only [held] at taken; cases taken
    | some before =>
      simp only [held] at taken
      split at taken
      · simp only [Option.some.injEq,Prod.mk.injEq] at taken
        obtain ⟨rfl,rfl⟩ := taken
        exact ⟨rfl,rfl,fun _ impossible => (by cases impossible),.inr ⟨thread,before,_,own,held,rfl,.inl rfl⟩⟩
      · simp only [Option.some.injEq,Prod.mk.injEq] at taken
        obtain ⟨rfl,rfl⟩ := taken
        refine ⟨rfl,rfl,?_,.inr ⟨thread,before,_,own,held,rfl,.inr (.inl ⟨field,rfl⟩)⟩⟩
        intro aimed same
        cases field <;> simp only [target,Field.next,Option.some.injEq] at same
        case socketId => cases same
        all_goals exact .inl (own.trans (congrArg some same))
  | waking =>
    simp only [Delivery.step,progress,queryThreadBySeqNumber] at taken
    split at taken
    · simp only [Option.some.injEq,Prod.mk.injEq] at taken
      obtain ⟨rfl,rfl⟩ := taken
      exact ⟨rfl,rfl,fun _ impossible => (by cases impossible),.inl rfl⟩
    · rename_i thread found
      cases held : infoOf thread with
      | none => simp only [held] at taken; cases taken
      | some messageInfo =>
        simp only [held] at taken
        split at taken <;> rename_i compared
        · simp only [Option.some.injEq,Prod.mk.injEq] at taken
          obtain ⟨rfl,rfl⟩ := taken
          exact ⟨rfl,rfl,fun _ impossible => (by cases impossible),.inl rfl⟩
        · simp only [Option.some.injEq,Prod.mk.injEq] at taken
          obtain ⟨rfl,rfl⟩ := taken
          refine ⟨rfl,rfl,?_,.inl rfl⟩
          intro aimed same
          simp only [target,Option.some.injEq] at same
          subst same
          exact .inr ⟨found,.inr ⟨messageInfo,held,Decidable.not_not.mp compared⟩⟩
  | notifying thread =>
    have own : target delivery = some thread := by simp only [target,progress]
    simp only [Delivery.step,progress] at taken
    cases held : infoOf thread with
    | none => simp only [held] at taken; cases taken
    | some before =>
      simp only [held,Option.some.injEq,Prod.mk.injEq] at taken
      obtain ⟨rfl,rfl⟩ := taken
      exact ⟨rfl,rfl,fun _ impossible => (by cases impossible),
        .inr ⟨thread,before,_,own,held,rfl,.inr (.inr rfl)⟩⟩
  | finished =>
    simp only [Delivery.step,progress] at taken
    cases taken

def Calls (waiters : List Waiter) (thread seqNumber : Nat) (socketId : Int32) : Prop :=
  ∃ waiter, waiters[thread]? = some waiter ∧ waiter.seqNumber = seqNumber ∧ waiter.socketId = socketId

structure Invariant (events : List Event) (state : State) : Prop where
  sourced : ∀ waiter ∈ state.waiters, WaiterSourced (Arrived events waiter.seqNumber waiter.socketId) waiter
  listed : ∀ seqNumber thread, state.threads seqNumber = some thread →
    ∃ socketId, Calls state.waiters thread seqNumber socketId
  arrived : ∀ delivery ∈ state.deliveries, Event.startProcessLoop delivery.reply delivery.listenFd ∈ events
  aimed : ∀ delivery ∈ state.deliveries, ∀ thread, target delivery = some thread →
    Calls state.waiters thread delivery.reply.tr.seqNumber delivery.listenFd

def isQuerying (delivery : Delivery) : Bool :=
  match delivery.progress with
  | .querying _ => true
  | _ => false

/-- The lookup of `ProcessReply` finds, if any, a thread that waits on the reply's own socket. -/
def matched (state : State) : Event → Prop
  | .delivery index _ => ∀ delivery ∈ state.deliveries[index]?, isQuerying delivery = true →
      ∀ thread ∈ state.threads delivery.reply.tr.seqNumber, ∀ waiter ∈ state.waiters[thread]?,
        waiter.socketId = delivery.listenFd
  | _ => True

instance (state : State) (event : Event) : Decidable (matched state event) :=
  match event with
  | .delivery index _ => inferInstanceAs (Decidable (∀ delivery ∈ state.deliveries[index]?, _))
  | .waitForReply _ _ => .isTrue trivial
  | .waiter _ _ => .isTrue trivial
  | .startProcessLoop _ _ => .isTrue trivial
  | .openServerSession _ => .isTrue trivial
  | .closeServerSession _ => .isTrue trivial

theorem invariant_new : Invariant [] State.new where
  sourced := fun _ member => by cases member
  listed := fun _ _ found => by cases found
  arrived := fun _ member => by cases member
  aimed := fun _ member => by cases member

private theorem arrived_snoc {events : List Event} (event : Event) {seqNumber : Nat} {socketId : Int32} (reply : Reply)
    (before : Arrived events seqNumber socketId reply) : Arrived (events ++ [event]) seqNumber socketId reply :=
  ⟨before.1,List.mem_append_left _ before.2⟩

private theorem sourced_snoc {events : List Event} (event : Event) {waiter : Waiter}
    (before : WaiterSourced (Arrived events waiter.seqNumber waiter.socketId) waiter) :
    WaiterSourced (Arrived (events ++ [event]) waiter.seqNumber waiter.socketId) waiter :=
  ⟨before.info.mono (arrived_snoc event),before.stage.mono (arrived_snoc event)⟩

theorem Invariant.snoc {events : List Event} {state : State} (event : Event) (inv : Invariant events state) :
    Invariant (events ++ [event]) state where
  sourced := fun waiter member => sourced_snoc event (inv.sourced waiter member)
  listed := inv.listed
  arrived := fun delivery member => List.mem_append_left _ (inv.arrived delivery member)
  aimed := inv.aimed

private theorem calls_append {waiters more : List Waiter} {thread seqNumber : Nat} {socketId : Int32}
    (before : Calls waiters thread seqNumber socketId) : Calls (waiters ++ more) thread seqNumber socketId := by
  obtain ⟨waiter,found,same⟩ := before
  have bound := (List.getElem?_eq_some_iff.mp found).1
  exact ⟨waiter,by rw [List.getElem?_append_left bound,found],same⟩

private theorem calls_set {waiters : List Waiter} {position : Nat} {waiter moved : Waiter}
    (here : waiters[position]? = some waiter) (seqNumberSame : moved.seqNumber = waiter.seqNumber)
    (socketSame : moved.socketId = waiter.socketId) {thread seqNumber : Nat} {socketId : Int32}
    (before : Calls waiters thread seqNumber socketId) : Calls (waiters.set position moved) thread seqNumber socketId := by
  obtain ⟨found,lookup,rfl,rfl⟩ := before
  by_cases same : position = thread
  · subst same
    have bound := (List.getElem?_eq_some_iff.mp here).1
    rw [here,Option.some.injEq] at lookup
    subst lookup
    exact ⟨moved,by simp [bound],seqNumberSame,socketSame⟩
  · exact ⟨found,by rw [List.getElem?_set_ne same,lookup],rfl,rfl⟩

private theorem invariant_set {events : List Event} {state : State} (inv : Invariant events state) {position : Nat}
    {waiter moved : Waiter} (here : state.waiters[position]? = some waiter) (threads : Threads)
    (seqNumberSame : moved.seqNumber = waiter.seqNumber) (socketSame : moved.socketId = waiter.socketId)
    (sourced : WaiterSourced (Arrived events moved.seqNumber moved.socketId) moved)
    (table : ∀ seqNumber found, threads seqNumber = some found →
      state.threads seqNumber = some found ∨ (seqNumber = waiter.seqNumber ∧ found = position)) :
    Invariant events { state with threads := threads, waiters := state.waiters.set position moved } where
  sourced := by
    intro other member
    rcases List.mem_or_eq_of_mem_set member with old | rfl
    · exact inv.sourced other old
    · exact sourced
  listed := by
    intro seqNumber thread found
    rcases table seqNumber thread found with old | ⟨rfl,rfl⟩
    · obtain ⟨socketId,calls⟩ := inv.listed seqNumber thread old
      exact ⟨socketId,calls_set here seqNumberSame socketSame calls⟩
    · exact ⟨waiter.socketId,calls_set here seqNumberSame socketSame ⟨waiter,here,rfl,rfl⟩⟩
  arrived := inv.arrived
  aimed := fun delivery member thread same => calls_set here seqNumberSame socketSame (inv.aimed delivery member thread same)

private theorem putInfo_eq_set {waiters : List Waiter} {thread : Nat} {waiter : Waiter} (messageInfo : ThreadMessageInfo)
    (here : waiters[thread]? = some waiter) :
    State.putInfo waiters (some (thread,messageInfo)) =
      waiters.set thread { waiter with messageInfo := messageInfo } := by
  apply List.ext_getElem?
  intro i
  simp only [State.putInfo,List.getElem?_modify,List.getElem?_set]
  by_cases same : thread = i
  · subst same
    have bound := (List.getElem?_eq_some_iff.mp here).1
    simp only [here,bound,if_true,Option.map_some,Option.map_eq_map]
  · simp only [same,if_false,Option.map_id_fun',Option.map_eq_map,id_eq]

private theorem toUInt32_injective {left right : Int32} (same : left.toUInt32 = right.toUInt32) : left = right := by
  cases left
  cases right
  cases same
  rfl

private theorem invariant_delivery {events : List Event} {state : State} (inv : Invariant events state) {index : Nat}
    {copied : Bool} {delivery moved : Delivery} {written : Option (Nat × ThreadMessageInfo)}
    (agrees : matched state (.delivery index copied)) (here : state.deliveries[index]? = some delivery)
    (taken : delivery.step state.threads state.infoOf copied = some (moved,written)) :
    Invariant events { state with deliveries := state.deliveries.set index moved,
                                  waiters := State.putInfo state.waiters written } := by
  obtain ⟨sameReply,sameSocket,aims,writes⟩ := deliveryStep_spec taken
  have member : delivery ∈ state.deliveries := List.mem_of_getElem? here
  have aim {thread : Nat} (aimed : target moved = some thread) :
      Calls state.waiters thread delivery.reply.tr.seqNumber delivery.listenFd := by
    rcases aims thread aimed with old | ⟨found,why⟩
    · exact inv.aimed delivery member thread old
    · obtain ⟨socketId,waiter,lookup,sameSeq,rfl⟩ := inv.listed _ _ found
      refine ⟨waiter,lookup,sameSeq,?_⟩
      rcases why with ⟨retryCount,querying⟩ | ⟨messageInfo,held,compared⟩
      · exact agrees delivery here (by simp only [isQuerying,querying]) thread found waiter lookup
      · have own : messageInfo = waiter.messageInfo := by
          simpa [State.infoOf,lookup] using held.symm
        have traced := (inv.sourced waiter (List.mem_of_getElem? lookup)).info.socket
        rw [own,traced] at compared
        exact (toUInt32_injective compared).symm
  -- the deliveries first: the waiters change only below
  have progressed : Invariant events { state with deliveries := state.deliveries.set index moved } := by
    refine ⟨inv.sourced,inv.listed,?_,?_⟩
    · intro other among
      rcases List.mem_or_eq_of_mem_set among with old | rfl
      · exact inv.arrived other old
      · rw [sameReply,sameSocket]
        exact inv.arrived delivery member
    · intro other among thread aimed
      rcases List.mem_or_eq_of_mem_set among with old | rfl
      · exact inv.aimed other old thread aimed
      · rw [sameReply,sameSocket]
        exact aim aimed
  rcases writes with rfl | ⟨thread,before,after,aimed,held,rfl,written⟩
  · exact progressed
  · obtain ⟨waiter,lookup,sameSeq,onSocket⟩ := inv.aimed delivery member thread aimed
    have own : before = waiter.messageInfo := by
      simpa [State.infoOf,lookup] using held.symm
    have sourced := inv.sourced waiter (List.mem_of_getElem? lookup)
    have sender : Arrived events waiter.seqNumber waiter.socketId delivery.reply :=
      ⟨sameSeq.symm,onSocket ▸ inv.arrived delivery member⟩
    rw [own,← onSocket] at written
    rw [putInfo_eq_set after lookup]
    exact invariant_set progressed lookup state.threads rfl rfl
      ⟨sourced.info.writes sender written,sourced.stage⟩ (fun _ _ => .inl)

theorem invariant_step {events : List Event} {state next : State} {event : Event} (inv : Invariant events state)
    (agrees : matched state event) (taken : state.step event = some next) : Invariant (events ++ [event]) next := by
  cases event with
  | waitForReply seqNumber socketId =>
    simp only [State.step,Option.some.injEq] at taken
    subst taken
    have before := inv.snoc (.waitForReply seqNumber socketId)
    refine ⟨?_,?_,before.arrived,?_⟩
    · intro waiter member
      rcases List.mem_append.mp member with old | new
      · exact before.sourced waiter old
      · rw [List.mem_singleton] at new
        subst new
        exact ⟨sourced_make _ socketId,trivial⟩
    · intro seqNumber thread found
      obtain ⟨socket,calls⟩ := before.listed seqNumber thread found
      exact ⟨socket,calls_append calls⟩
    · exact fun delivery member thread aimed => calls_append (before.aimed delivery member thread aimed)
  | waiter thread event =>
    simp only [State.step] at taken
    cases here : state.waiters[thread]? with
    | none => simp only [here] at taken; cases taken
    | some waiter =>
      simp only [here] at taken
      cases moves : waiter.step state.threads thread event with
      | none => simp only [moves] at taken; cases taken
      | some result =>
        obtain ⟨threads,moved⟩ := result
        simp only [moves,Option.some.injEq] at taken
        subst taken
        have before := inv.snoc (.waiter thread event)
        obtain ⟨sameSeq,sameSocket,sourced,table⟩ :=
          waiterStep_spec (before.sourced waiter (List.mem_of_getElem? here)) moves
        rw [← sameSeq,← sameSocket] at sourced
        exact invariant_set before here threads sameSeq sameSocket sourced table
  | startProcessLoop reply listenFd =>
    simp only [State.step] at taken
    split at taken
    · simp only [Option.some.injEq] at taken
      subst taken
      have before := inv.snoc (.startProcessLoop reply listenFd)
      refine ⟨before.sourced,before.listed,?_,?_⟩
      · intro delivery member
        rcases List.mem_append.mp member with old | new
        · exact before.arrived delivery old
        · rw [List.mem_singleton] at new
          subst new
          exact List.mem_append_right _ (List.mem_singleton.mpr rfl)
      · intro delivery member thread aimed
        rcases List.mem_append.mp member with old | new
        · exact before.aimed delivery old thread aimed
        · rw [List.mem_singleton] at new
          subst new
          cases aimed
    · cases taken
  | delivery index copied =>
    simp only [State.step] at taken
    cases here : state.deliveries[index]? with
    | none => simp only [here] at taken; cases taken
    | some delivery =>
      simp only [here] at taken
      cases moves : delivery.step state.threads state.infoOf copied with
      | none => simp only [moves] at taken; cases taken
      | some result =>
        obtain ⟨moved,written⟩ := result
        simp only [moves,Option.some.injEq] at taken
        subst taken
        exact invariant_delivery (inv.snoc (.delivery index copied)) agrees here moves
  | openServerSession socketId =>
    simp only [State.step,Option.some.injEq] at taken
    subst taken
    have before := inv.snoc (.openServerSession socketId)
    exact ⟨before.sourced,before.listed,before.arrived,before.aimed⟩
  | closeServerSession socketId =>
    simp only [State.step,Option.some.injEq] at taken
    subst taken
    have before := inv.snoc (.closeServerSession socketId)
    exact ⟨before.sourced,before.listed,before.arrived,before.aimed⟩

theorem delivery_leaves_others {events : List Event} {state next : State} (inv : Invariant events state) {index : Nat}
    {copied : Bool} {delivery : Delivery} {thread : Nat} {waiter : Waiter}
    (taken : state.step (.delivery index copied) = some next) (here : state.deliveries[index]? = some delivery)
    (lookup : state.waiters[thread]? = some waiter)
    (other : ¬ (waiter.seqNumber = delivery.reply.tr.seqNumber ∧ waiter.socketId = delivery.listenFd)) :
    next.waiters[thread]? = some waiter := by
  simp only [State.step,here] at taken
  cases moves : delivery.step state.threads state.infoOf copied with
  | none => simp only [moves] at taken; cases taken
  | some result =>
    obtain ⟨moved,written⟩ := result
    simp only [moves,Option.some.injEq] at taken
    subst taken
    obtain ⟨-,-,-,rfl | ⟨aimed,before,after,isTarget,-,rfl,-⟩⟩ := deliveryStep_spec moves
    · exact lookup
    · obtain ⟨found,there,sameSeq,onSocket⟩ := inv.aimed delivery (List.mem_of_getElem? here) aimed isTarget
      have apart : aimed ≠ thread := by
        intro same
        subst same
        rw [lookup,Option.some.injEq] at there
        subst there
        exact other ⟨sameSeq,onSocket⟩
      simpa [State.putInfo,List.getElem?_modify,apart] using lookup

def isCompleted : Stage → Bool
  | .woken => true
  | .handled _ => true
  | .returned (some _) => true
  | _ => false

def completion? : Stage → Option Completion
  | .handled completion => some completion
  | .returned completion => completion
  | _ => none

/-- In every run where the lookups of `ProcessReply` are matched, a thread waiting for `q` on `s`
is woken, and its object filled, by replies with `q` that arrived on `s` only; any other reply
being processed leaves the thread's record as it is. -/
theorem reply_completes_only_its_waiter {events : List Event} {state : State}
    (run : Reaches (guarded (fires State.step) matched) State.new events state) :
    (∀ waiter ∈ state.waiters, isCompleted waiter.stage = true →
      ∃ reply, Arrived events waiter.seqNumber waiter.socketId reply) ∧
    (∀ waiter ∈ state.waiters, ∀ completion ∈ completion? waiter.stage,
      CompletedBy (Arrived events waiter.seqNumber waiter.socketId) waiter.socketId completion) ∧
    (∀ (index : Nat) (copied : Bool) (next : State) (delivery : Delivery) (thread : Nat) (waiter : Waiter),
      state.step (.delivery index copied) = some next →
      state.deliveries[index]? = some delivery → state.waiters[thread]? = some waiter →
      ¬ (waiter.seqNumber = delivery.reply.tr.seqNumber ∧ waiter.socketId = delivery.listenFd) →
      next.waiters[thread]? = some waiter) := by
  have inv : Invariant events state :=
    run.trace_invariant Invariant invariant_new fun _ _ _ _ before taken => invariant_step before taken.1 taken.2
  refine ⟨?_,?_,?_⟩
  · intro waiter member completed
    have staged := (inv.sourced waiter member).stage
    cases stage : waiter.stage with
    | woken => rw [stage] at staged; exact staged
    | handled completion => rw [stage] at staged; exact staged.1
    | returned result =>
      cases result with
      | none => simp only [stage,isCompleted] at completed; cases completed
      | some completion => rw [stage] at staged; exact staged.1
    | made => simp only [stage,isCompleted] at completed; cases completed
    | waiting => simp only [stage,isCompleted] at completed; cases completed
    | rejected => simp only [stage,isCompleted] at completed; cases completed
  · intro waiter member completion found
    have staged := (inv.sourced waiter member).stage
    cases stage : waiter.stage with
    | handled result =>
      simp only [stage,completion?,Option.mem_def,Option.some.injEq] at found
      subst found
      rw [stage] at staged
      exact staged.2
    | returned result =>
      simp only [stage,completion?,Option.mem_def] at found
      subst found
      rw [stage] at staged
      exact staged.2
    | made => simp only [stage,completion?] at found; cases found
    | waiting => simp only [stage,completion?] at found; cases found
    | woken => simp only [stage,completion?] at found; cases found
    | rejected => simp only [stage,completion?] at found; cases found
  · intro index copied next delivery thread waiter taken here lookup other
    exact delivery_leaves_others inv taken here lookup other

def sampleReply (seqNumber : Nat) (body : List UInt8) : Reply :=
  ⟨⟨64+body.length,dbinderMagicword,1,bcReply,0,0,0,seqNumber,body.length,0,body.length⟩,body,rfl⟩

def sampleRun (listenFd : Int32) : List Event :=
  [.openServerSession 5,.openServerSession 6,.waitForReply 1 5,.waiter 0 .addSendThreadInWait,
    .startProcessLoop (sampleReply 1 [1,2,3,4,5,6,7,8]) listenFd] ++
    List.replicate 9 (.delivery 0 true) ++ [.waiter 0 .wakeUp,.waiter 0 .handleReply]

def sampleEnd (listenFd : Int32) : State := ((sampleRun listenFd).foldlM State.step State.new).getD State.new

theorem reply_completes_only_its_waiter_sample :
    (sampleEnd 5).waiters.map Waiter.stage = [.handled (.contents [1,2,3,4,5,6,7,8] 8 8 0 5)] ∧
      ∀ waiter ∈ (sampleEnd 5).waiters, isCompleted waiter.stage = true →
        ∃ reply, Arrived (sampleRun 5) waiter.seqNumber waiter.socketId reply :=
  ⟨by decide +kernel,(reply_completes_only_its_waiter (Reaches.of_foldlM_guarded (sampleRun 5) rfl)).1⟩

/-- The reply from the other open server session completes the thread with its own contents:
`ProcessReply` has stored its own socket before `WakeUpThreadBySeqNumber` compares it. -/
theorem foreign_reply_completes :
    Reaches (fires State.step) State.new (sampleRun 6) (sampleEnd 6) ∧
      (sampleEnd 6).waiters.map (fun waiter => (waiter.seqNumber,waiter.socketId,waiter.stage)) =
        [(1,5,.handled (.contents [1,2,3,4,5,6,7,8] 8 8 0 6))] ∧
      ∀ reply, ¬ Arrived (sampleRun 6) 1 5 reply := by
  refine ⟨Reaches.of_foldlM (sampleRun 6) rfl,by decide +kernel,?_⟩
  rintro reply ⟨-,member⟩
  simp [sampleRun,List.replicate] at member

end CommunicationIpc.ReplyWait
