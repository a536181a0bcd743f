import CommunicationIpc.Kernel.LoadReply
import CommunicationIpc.Library.Run

/-! Every invocation is answered once. A message is at every moment in one place: waiting in
`loadSaReply_`, held by the thread that owes its reply, or answered. -/
namespace CommunicationIpc.LoadReply
open CommunicationIpc.Library CommunicationIpc.Kernel.Negotiation CommunicationIpc.Kernel.LoadReply

def Same (message other : DHandleEntryTxRx) : Prop :=
  other.seqNumber = message.seqNumber ∧ other.stub = message.stub ∧
    other.deviceIdInfo.fromDeviceId = message.deviceIdInfo.fromDeviceId

theorem Same.refl (message : DHandleEntryTxRx) : Same message message := ⟨rfl,rfl,rfl⟩

theorem Same.trans {first second third : DHandleEntryTxRx} (left : Same first second) (right : Same second third) :
    Same first third :=
  ⟨right.1.trans left.1,right.2.1.trans left.2.1,right.2.2.trans left.2.2⟩

theorem Same.symm {first second : DHandleEntryTxRx} (same : Same first second) : Same second first :=
  ⟨same.1.symm,same.2.1.symm,same.2.2.symm⟩

theorem checkAndAmendSaId_same {message amended : DHandleEntryTxRx} (checked : checkAndAmendSaId message = some amended) :
    Same message amended := by
  unfold checkAndAmendSaId at checked
  simp only at checked
  split at checked
  · split at checked <;> cases checked <;> exact ⟨rfl,rfl,rfl⟩
  · cases checked
    exact ⟨rfl,rfl,rfl⟩
  · cases checked
    exact ⟨rfl,rfl,rfl⟩
  · cases checked

theorem sendReplyMessageToRemote_same (dBinderCode reason : UInt32) (message : DHandleEntryTxRx) :
    Same message (sendReplyMessageToRemote dBinderCode reason message) := by
  unfold sendReplyMessageToRemote
  simp only
  split <;> exact ⟨rfl,rfl,rfl⟩

theorem sendReplyMessageToRemote_code (dBinderCode reason : UInt32) (message : DHandleEntryTxRx) :
    (sendReplyMessageToRemote dBinderCode reason message).dBinderCode = dBinderCode := by
  unfold sendReplyMessageToRemote
  simp only
  split <;> rfl

theorem onRemoteInvokerDataBusMessage_same (answers : Answers) (message : DHandleEntryTxRx) :
    Same message (onRemoteInvokerDataBusMessage answers message).1 := by
  have filled : Same message
      (setReplyMessage message answers.stubIndex answers.serverSessionName answers.selfTokenId).1 := by
    unfold setReplyMessage
    simp only
    split <;> exact ⟨rfl,rfl,rfl⟩
  unfold onRemoteInvokerDataBusMessage
  repeat' split
  any_goals exact Same.refl message
  all_goals
    rename_i result
    rw [result] at filled
    exact filled

theorem answerLoaded_spec (remoteObject : Bool) (answers : Answers) (message : DHandleEntryTxRx) :
    Same message (answerLoaded remoteObject answers message).1 ∧
      ((answerLoaded remoteObject answers message).2.1 = messageAsReply ∨
        (answerLoaded remoteObject answers message).2.1 = messageAsRemoteError) := by
  have same := onRemoteInvokerDataBusMessage_same answers message
  rcases handled : onRemoteInvokerDataBusMessage answers message with ⟨filled,result⟩
  rw [handled] at same
  unfold answerLoaded
  simp only [handled]
  repeat' split
  · exact ⟨Same.refl message,.inr rfl⟩
  · exact ⟨Same.refl message,.inr rfl⟩
  · exact ⟨Same.refl message,.inr rfl⟩
  · exact ⟨same,.inr rfl⟩
  · exact ⟨same,.inl rfl⟩

def answered (state : State) (id : Nat) : Nat := state.replies.countP fun reply => reply.1 = id

def held (state : State) (id : Nat) : Nat :=
  Table.tally (fun completion => completion.replyMessage = some id) state.completions

/-- The places a message is in: its replies, the waiting list, and the threads that owe a reply. -/
def places (state : State) (id : Nat) : Nat :=
  answered state id+state.loadSaReply.count id+(if state.phases id = .answering then 1 else 0)+held state id

structure Accounted (state : State) : Prop where
  once : ∀ id, places state id = if state.phases id = .unseen then 0 else 1
  expected : ∀ id ∈ state.loadSaReply, id ∈ state.awaiting ∨ state.phases id = .refused

theorem accounted_new (messages : Nat → DHandleEntryTxRx) : Accounted (State.new messages) where
  once := fun _ => rfl
  expected := fun _ member => by cases member

section Parts
variable (state : State)

@[simp] theorem enter_phases (id : Nat) (phase : Phase) :
    (state.enter id phase).phases = Function.update state.phases id phase := rfl

@[simp] theorem reply_phases (id : Nat) (dBinderCode reason : UInt32) (message : DHandleEntryTxRx) :
    (state.reply id dBinderCode reason message).phases = state.phases := by
  unfold State.reply
  split <;> rfl

@[simp] theorem reply_loadSaReply (id : Nat) (dBinderCode reason : UInt32) (message : DHandleEntryTxRx) :
    (state.reply id dBinderCode reason message).loadSaReply = state.loadSaReply := by
  unfold State.reply
  split <;> rfl

@[simp] theorem reply_completions (id : Nat) (dBinderCode reason : UInt32) (message : DHandleEntryTxRx) :
    (state.reply id dBinderCode reason message).completions = state.completions := by
  unfold State.reply
  split <;> rfl

@[simp] theorem reply_awaiting (id : Nat) (dBinderCode reason : UInt32) (message : DHandleEntryTxRx) :
    (state.reply id dBinderCode reason message).awaiting = state.awaiting := by
  unfold State.reply
  split <;> rfl

theorem answered_reply (listening : state.remoteListener = true) (id other : Nat) (dBinderCode reason : UInt32)
    (message : DHandleEntryTxRx) :
    answered (state.reply id dBinderCode reason message) other = answered state other+if id = other then 1 else 0 := by
  simp [answered,State.reply,listening,List.countP_cons]

theorem places_reply (listening : state.remoteListener = true) (id other : Nat) (dBinderCode reason : UInt32)
    (message : DHandleEntryTxRx) :
    places (state.reply id dBinderCode reason message) other = places state other+if id = other then 1 else 0 := by
  simp only [places,answered_reply state listening,held,reply_loadSaReply,reply_phases,reply_completions]
  omega

theorem places_enter (id other : Nat) (phase : Phase) :
    places (state.enter id phase) other+(if id = other ∧ state.phases id = .answering then 1 else 0) =
      places state other+if id = other ∧ phase = .answering then 1 else 0 := by
  by_cases same : id = other
  · subst same
    simp only [places,answered,held,State.enter,Function.update_self,true_and]
    omega
  · simp only [places,answered,held,State.enter,Function.update_of_ne (Ne.symm same),same,false_and,if_false]

end Parts

private theorem eraseP_of_find {test : Nat → Bool} {items : List Nat} {id : Nat} (found : items.find? test = some id) :
    items.eraseP test = items.erase id := by
  induction items with
  | nil => cases found
  | cons item items ih =>
    by_cases hit : test item = true
    · rw [List.find?_cons_of_pos hit,Option.some.injEq] at found
      rw [List.eraseP_cons_of_pos hit,found,List.erase_cons_head]
    · rw [List.find?_cons_of_neg hit] at found
      have other : item ≠ id := by
        intro same
        subst same
        exact hit (List.find?_some found)
      rw [List.eraseP_cons_of_neg hit,ih found,List.erase_cons_tail (by simpa using other)]

private theorem count_popped {test : Nat → Bool} {items : List Nat} {id : Nat} (found : items.find? test = some id)
    (other : Nat) : (items.eraseP test).count other+(if id = other then 1 else 0) = items.count other := by
  rw [eraseP_of_find found]
  by_cases same : id = other
  · subst same
    have present : 0 < items.count id := List.count_pos_iff.mpr (List.mem_of_find?_eq_some found)
    rw [List.count_erase_self,if_pos rfl]
    omega
  · rw [List.count_erase_of_ne (Ne.symm same),if_neg same]
    rfl

inductive Takes (state : State) : Event → State → Prop
  | receive {id : Nat} (message : DHandleEntryTxRx) (distributed : Bool) (unseen : state.phases id = .unseen) :
      Takes state (.receive id message distributed) (state.receive id message distributed)
  | loadReturned {id : Nat} (available : Bool) (loading : state.phases id = .loading) :
      Takes state (.loadReturned id available) (state.loadReturned id available)
  | popRefused {id : Nat} (refused : state.phases id = .refused) : Takes state (.popRefused id) (state.popRefused id)
  | answerRefused {id : Nat} (answering : state.phases id = .answering) :
      Takes state (.answerRefused id) (state.answerRefused id)
  | completeCalled {thread : Nat} (srcNetworkId : List UInt8) (systemAbilityId : Int32) (remoteObject : Bool)
      (free : state.completions.lookup thread = none) :
      Takes state (.completeCalled thread srcNetworkId systemAbilityId remoteObject)
        { state with
          completions := state.completions.insert thread ⟨srcNetworkId,systemAbilityId,remoteObject,none,state.awaiting⟩ }
  | completePop {thread : Nat} {completion : Completion} (running : state.completions.lookup thread = some completion)
      (empty : completion.replyMessage = none) :
      Takes state (.completePop thread) (state.completePop thread completion)
  | completeAnswer {thread id : Nat} {completion : Completion} (answers : Answers)
      (running : state.completions.lookup thread = some completion) (holding : completion.replyMessage = some id) :
      Takes state (.completeAnswer thread answers) (state.completeAnswer thread completion id answers)
  | startRemoteListener : Takes state .startRemoteListener { state with remoteListener := true }
  | stopRemoteListener : Takes state .stopRemoteListener { state with remoteListener := false }

theorem step_takes {state next : State} {event : Event} (fired : state.step event = some next) : Takes state event next := by
  cases event with
  | receive id message distributed =>
    simp only [State.step] at fired
    split at fired <;> cases fired
    exact .receive message distributed ‹_›
  | loadReturned id available =>
    simp only [State.step] at fired
    split at fired <;> cases fired
    exact .loadReturned available ‹_›
  | popRefused id =>
    simp only [State.step] at fired
    split at fired <;> cases fired
    exact .popRefused ‹_›
  | answerRefused id =>
    simp only [State.step] at fired
    split at fired <;> cases fired
    exact .answerRefused ‹_›
  | completeCalled thread srcNetworkId systemAbilityId remoteObject =>
    simp only [State.step] at fired
    split at fired <;> cases fired
    exact .completeCalled srcNetworkId systemAbilityId remoteObject ‹_›
  | completePop thread =>
    simp only [State.step] at fired
    split at fired
    · split at fired <;> cases fired
      exact .completePop ‹_› ‹_›
    · cases fired
  | completeAnswer thread answers =>
    simp only [State.step] at fired
    split at fired
    · obtain ⟨id,holding,rfl⟩ := Option.map_eq_some_iff.mp fired
      exact .completeAnswer answers ‹_› holding
    · cases fired
  | startRemoteListener =>
    cases fired
    exact .startRemoteListener
  | stopRemoteListener =>
    cases fired
    exact .stopRemoteListener

/-- A refused load takes its own message out of the list, and every reply finds the listener. -/
def faithful (state : State) : Event → Prop
  | .receive _ message distributed =>
    state.remoteListener = true ∨ (checkAndAmendSaId message).isSome = true ∧ distributed = true
  | .popRefused id => state.firstSame id = some id
  | .answerRefused _ => state.remoteListener = true
  | .completeAnswer _ _ => state.remoteListener = true
  | _ => True

instance (state : State) (event : Event) : Decidable (faithful state event) :=
  match event with
  | .receive _ message distributed => inferInstanceAs
      (Decidable (state.remoteListener = true ∨ (checkAndAmendSaId message).isSome = true ∧ distributed = true))
  | .loadReturned _ _ => .isTrue trivial
  | .popRefused id => inferInstanceAs (Decidable (state.firstSame id = some id))
  | .answerRefused _ => inferInstanceAs (Decidable (state.remoteListener = true))
  | .completeCalled _ _ _ _ => .isTrue trivial
  | .completePop _ => .isTrue trivial
  | .completeAnswer _ _ => inferInstanceAs (Decidable (state.remoteListener = true))
  | .startRemoteListener => .isTrue trivial
  | .stopRemoteListener => .isTrue trivial

section Steps
variable {state : State}

private theorem accounted_answer (accounted : Accounted state) (listening : state.remoteListener = true) {id : Nat}
    (dBinderCode reason : UInt32) (message : DHandleEntryTxRx)
    (due : state.phases id = .unseen ∨ state.phases id = .answering) :
    Accounted ((state.reply id dBinderCode reason message).enter id .returned) := by
  constructor
  · intro other
    have before := accounted.once other
    have left := places_enter (state.reply id dBinderCode reason message) id other .returned
    rw [places_reply state listening,reply_phases] at left
    simp only [enter_phases,reply_phases]
    by_cases same : id = other
    · subst same
      rw [Function.update_self]
      rcases due with unseen | owing
      · simp [unseen] at before left ⊢
        omega
      · simp [owing] at before left ⊢
        omega
    · rw [Function.update_of_ne (Ne.symm same)]
      simp only [same,false_and,if_false,Nat.add_zero] at left
      rw [left,before]
  · intro other member
    simp only [State.enter,reply_loadSaReply] at member
    have waiting : id ≠ other := by
      intro same
      subst same
      have before := accounted.once id
      have present : 0 < state.loadSaReply.count id := List.count_pos_iff.mpr member
      rcases due with unseen | owing
      · simp only [places,unseen,if_true] at before
        omega
      · simp [places,owing] at before
        omega
    simp only [State.enter,reply_awaiting,reply_phases,Function.update_of_ne (Ne.symm waiting)]
    exact accounted.expected other member

theorem accounted_receive (accounted : Accounted state) {id : Nat} {message : DHandleEntryTxRx} {distributed : Bool}
    (unseen : state.phases id = .unseen) (guard : faithful state (.receive id message distributed)) :
    Accounted (state.receive id message distributed) := by
  unfold State.receive
  cases checked : checkAndAmendSaId message with
  | none =>
    have listening : state.remoteListener = true := guard.resolve_right fun both => by simp [checked] at both
    exact accounted_answer accounted listening _ _ _ (.inl unseen)
  | some amended =>
    simp only
    split
    · rename_i refused
      have listening : state.remoteListener = true := guard.resolve_right fun both => refused both.2
      exact accounted_answer accounted listening _ _ _ (.inl unseen)
    · constructor
      · intro other
        have before := accounted.once other
        change answered state other+(state.loadSaReply ++ [id]).count other+
          (if Function.update state.phases id .loading other = .answering then 1 else 0)+held state other =
            if Function.update state.phases id .loading other = .unseen then 0 else 1
        simp only [places] at before
        rw [List.count_append]
        by_cases same : id = other
        · subst same
          rw [if_pos unseen] at before
          rw [Function.update_self,if_neg (by decide),if_neg (by decide),List.count_singleton_self]
          omega
        · rw [Function.update_of_ne (Ne.symm same),← before,List.count_singleton,if_neg (by simpa using same),Nat.add_zero]
      · intro other member
        rcases List.mem_append.mp member with old | new
        · have apart : id ≠ other := by
            intro same
            subst same
            have before := accounted.once id
            have present : 0 < state.loadSaReply.count id := List.count_pos_iff.mpr old
            simp only [places,unseen,if_true] at before
            omega
          rcases accounted.expected other old with waiting | refused
          · exact .inl (List.mem_append_left _ waiting)
          · exact .inr (by simp only [State.enter,Function.update_of_ne (Ne.symm apart),refused])
        · exact .inl (List.mem_append_right _ new)

theorem accounted_loadReturned (accounted : Accounted state) {id : Nat} (available : Bool)
    (loading : state.phases id = .loading) : Accounted (state.loadReturned id available) := by
  have idle (phase : Phase) (seen : phase ≠ .unseen) (quiet : phase ≠ .answering) (other : Nat) :
      places (state.enter id phase) other = if (state.enter id phase).phases other = .unseen then 0 else 1 := by
    have before := accounted.once other
    have moved := places_enter state id other phase
    simp only [loading,quiet,and_false,if_false,Nat.add_zero,reduceCtorEq] at moved
    rw [moved,before,enter_phases]
    by_cases same : id = other
    · subst same
      simp [loading,seen]
    · rw [Function.update_of_ne (Ne.symm same)]
  unfold State.loadReturned
  split
  · constructor
    · exact idle .returned (by decide) (by decide)
    · intro other member
      rcases accounted.expected other member with waiting | refused
      · exact .inl waiting
      · have apart : other ≠ id := by
          intro same
          subst same
          rw [loading] at refused
          cases refused
        exact .inr (by simp only [State.enter,Function.update_of_ne apart,refused])
  · constructor
    · exact idle .refused (by decide) (by decide)
    · intro other member
      by_cases same : other = id
      · subst same
        exact .inr (by simp only [State.enter,Function.update_self])
      · rcases accounted.expected other member with waiting | refused
        · exact .inl (List.mem_filter.mpr ⟨waiting,by simpa using same⟩)
        · exact .inr (by simp only [State.enter,Function.update_of_ne same,refused])

theorem accounted_popRefused (accounted : Accounted state) {id : Nat} (refused : state.phases id = .refused)
    (own : state.firstSame id = some id) : Accounted (state.popRefused id) := by
  have popped := count_popped own
  have next : state.popRefused id = { state.enter id .answering with
      loadSaReply := state.loadSaReply.eraseP (state.isSameLoadSaItem
        (cString (state.messages id).deviceIdInfo.fromDeviceId) (toInt32 (state.messages id).binderObject)) } := by
    have found := own
    unfold State.firstSame at found
    simp only [State.popRefused,State.popLoadSaItem,found]
    rfl
  rw [next]
  constructor
  · intro other
    have before := accounted.once other
    have counted := popped other
    change answered state other+(state.loadSaReply.eraseP _).count other+
      (if Function.update state.phases id .answering other = .answering then 1 else 0)+held state other =
        if Function.update state.phases id .answering other = .unseen then 0 else 1
    simp only [places] at before
    by_cases same : id = other
    · subst same
      rw [refused,if_neg (by decide),if_neg (by decide)] at before
      rw [if_pos rfl] at counted
      rw [Function.update_self,if_pos rfl,if_neg (by decide)]
      omega
    · rw [Function.update_of_ne (Ne.symm same),← before]
      simp only [same,if_false,Nat.add_zero] at counted
      rw [counted]
  · intro other member
    have once := accounted.once id
    have apart : other ≠ id := by
      intro same
      subst same
      have counted := popped other
      have present : 0 < (state.loadSaReply.eraseP _).count other := List.count_pos_iff.mpr member
      simp [places,refused] at once
      simp only [if_true] at counted
      omega
    rcases accounted.expected other (List.mem_of_mem_eraseP member) with waiting | still
    · exact .inl waiting
    · exact .inr (by simp only [State.enter,Function.update_of_ne apart,still])

theorem accounted_completeCalled (accounted : Accounted state) {thread : Nat} (free : state.completions.lookup thread = none)
    (srcNetworkId : List UInt8) (systemAbilityId : Int32) (remoteObject : Bool) :
    Accounted { state with completions :=
      state.completions.insert thread ⟨srcNetworkId,systemAbilityId,remoteObject,none,state.awaiting⟩ } := by
  refine ⟨?_,accounted.expected⟩
  intro other
  have inserted := Table.tally_insert (fun completion : Completion => completion.replyMessage = some other) thread
    ⟨srcNetworkId,systemAbilityId,remoteObject,none,state.awaiting⟩ state.completions
  simp only [Table.weight,free,Option.any_none,Option.any_some,reduceCtorEq,decide_false,Bool.false_eq_true,if_false,
    Nat.add_zero] at inserted
  simpa only [places,answered,held,inserted] using accounted.once other

theorem accounted_completePop (accounted : Accounted state) {thread : Nat} {completion : Completion}
    (running : state.completions.lookup thread = some completion) (empty : completion.replyMessage = none) :
    Accounted (state.completePop thread completion) := by
  cases found : state.loadSaReply.find?
      (state.isSameLoadSaItem completion.srcNetworkId completion.systemAbilityId) with
  | none =>
    simp only [State.completePop,State.popLoadSaItem,found]
    constructor
    · intro other
      have erased := Table.tally_erase (fun completion : Completion => completion.replyMessage = some other) thread
        state.completions
      simp only [Table.weight,running,Option.any_some,empty,reduceCtorEq,decide_false,Bool.false_eq_true,if_false,
        Nat.add_zero] at erased
      simpa only [places,answered,held,erased] using accounted.once other
    · -- the loop ends when nothing for its ability is left, so no message it counts for is still waiting
      intro other member
      rcases accounted.expected other member with waiting | refused
      · have unlike := List.find?_eq_none.mp found other member
        exact .inl (List.mem_filter.mpr ⟨waiting,by simp [unlike]⟩)
      · exact .inr refused
  | some id =>
    simp only [State.completePop,State.popLoadSaItem,found]
    constructor
    · intro other
      have before := accounted.once other
      have counted := count_popped found other
      have inserted := Table.tally_insert (fun completion : Completion => completion.replyMessage = some other) thread
        { completion with replyMessage := some id } state.completions
      simp only [Table.weight,running,Option.any_some,empty,reduceCtorEq,decide_false,Bool.false_eq_true,if_false,
        Nat.add_zero,Option.some.injEq,decide_eq_true_eq] at inserted
      rw [← before]
      simp only [places,answered,held]
      omega
    · intro other member
      exact accounted.expected other (List.mem_of_mem_eraseP member)

theorem accounted_completeAnswer (accounted : Accounted state) (listening : state.remoteListener = true) {thread id : Nat}
    {completion : Completion} (running : state.completions.lookup thread = some completion)
    (holding : completion.replyMessage = some id) (answers : Answers) :
    Accounted (state.completeAnswer thread completion id answers) := by
  unfold State.completeAnswer
  rcases answerLoaded completion.remoteObject answers (state.messages id) with ⟨filled,dBinderCode,reason⟩
  simp only
  refine ⟨?_,?_⟩
  · intro other
    have before := accounted.once other
    have inserted := Table.tally_insert (fun completion : Completion => completion.replyMessage = some other) thread
      { completion with replyMessage := none } state.completions
    simp only [Table.weight,running,Option.any_some,holding,reduceCtorEq,decide_false,Bool.false_eq_true,if_false,
      Nat.add_zero,Option.some.injEq,decide_eq_true_eq] at inserted
    have sent := answered_reply state listening id other dBinderCode reason filled
    simp only [places,held,reply_loadSaReply,reply_phases] at before ⊢
    rw [← before]
    simp only [answered] at sent ⊢
    omega
  · intro other member
    simp only [reply_loadSaReply,reply_awaiting,reply_phases] at member ⊢
    exact accounted.expected other member

theorem accounted_step (accounted : Accounted state) {event : Event} {next : State} (guard : faithful state event)
    (fired : state.step event = some next) : Accounted next := by
  cases step_takes fired with
  | receive message distributed unseen => exact accounted_receive accounted unseen guard
  | loadReturned available loading => exact accounted_loadReturned accounted available loading
  | popRefused refused => exact accounted_popRefused accounted refused guard
  | answerRefused answering => exact accounted_answer accounted guard _ _ _ (.inr answering)
  | completeCalled srcNetworkId systemAbilityId remoteObject free =>
    exact accounted_completeCalled accounted free srcNetworkId systemAbilityId remoteObject
  | completePop running empty => exact accounted_completePop accounted running empty
  | completeAnswer answers running holding => exact accounted_completeAnswer accounted guard running holding answers
  | startRemoteListener => exact ⟨accounted.once,accounted.expected⟩
  | stopRemoteListener => exact ⟨accounted.once,accounted.expected⟩

end Steps

def IsReply (message : DHandleEntryTxRx) : Prop :=
  message.dBinderCode = messageAsReply ∨ message.dBinderCode = messageAsReplyTokenid ∨
    message.dBinderCode = messageAsRemoteError

def Touches (state next : State) (id : Nat) (message : DHandleEntryTxRx) : Prop :=
  ∃ sent, Same message sent ∧ next.messages = Function.update state.messages id sent ∧
    (next.replies = state.replies ∨ next.replies = state.replies ++ [(id,sent)] ∧ IsReply sent)

private theorem reply_touches (state : State) (id : Nat) {dBinderCode : UInt32} (reason : UInt32) (message : DHandleEntryTxRx)
    (code : dBinderCode = messageAsReply ∨ dBinderCode = messageAsRemoteError) :
    Touches state (state.reply id dBinderCode reason message) id message := by
  unfold State.reply
  split
  · refine ⟨_,sendReplyMessageToRemote_same dBinderCode reason message,rfl,.inr ⟨rfl,?_⟩⟩
    rw [IsReply,sendReplyMessageToRemote_code]
    exact code.elim .inl fun error => .inr (.inr error)
  · exact ⟨message,Same.refl message,rfl,.inl rfl⟩

private theorem Touches.of_same {state next : State} {id : Nat} {message other : DHandleEntryTxRx}
    (touches : Touches state next id other) (same : Same message other) : Touches state next id message := by
  obtain ⟨sent,kept,messages,replies⟩ := touches
  exact ⟨sent,same.trans kept,messages,replies⟩

theorem receive_touches (state : State) (id : Nat) (message : DHandleEntryTxRx) (distributed : Bool) :
    Touches state (state.receive id message distributed) id message ∧
      (state.receive id message distributed).phases id ≠ .unseen := by
  unfold State.receive
  cases checked : checkAndAmendSaId message with
  | none => exact ⟨reply_touches state id _ message (.inr rfl),by simp⟩
  | some amended =>
    have same := checkAndAmendSaId_same checked
    simp only
    split
    · exact ⟨(reply_touches state id _ amended (.inr rfl)).of_same same,by simp⟩
    · exact ⟨⟨amended,same,rfl,.inl rfl⟩,by simp⟩

theorem popLoadSaItem_rest (state : State) (srcNetworkId : List UInt8) (systemAbilityId : Int32) :
    (state.popLoadSaItem srcNetworkId systemAbilityId).2.messages = state.messages ∧
      (state.popLoadSaItem srcNetworkId systemAbilityId).2.replies = state.replies ∧
      (state.popLoadSaItem srcNetworkId systemAbilityId).2.phases = state.phases := by
  unfold State.popLoadSaItem
  split <;> exact ⟨rfl,rfl,rfl⟩

theorem completePop_rest (state : State) (thread : Nat) (completion : Completion) :
    (state.completePop thread completion).messages = state.messages ∧
      (state.completePop thread completion).replies = state.replies ∧
      (state.completePop thread completion).phases = state.phases := by
  have rest := popLoadSaItem_rest state completion.srcNetworkId completion.systemAbilityId
  unfold State.completePop
  split <;> rename_i popped <;> rw [popped] at rest <;> exact rest

theorem step_touches {state next : State} {event : Event} (fired : state.step event = some next) :
    (next.messages = state.messages ∧ next.replies = state.replies) ∨
      ∃ id message, Touches state next id message ∧
        (message = state.messages id ∨ state.phases id = .unseen ∧ ∃ distributed, event = .receive id message distributed) := by
  cases step_takes fired with
  | @receive id message distributed unseen =>
    exact .inr ⟨id,message,(receive_touches state id message distributed).1,.inr ⟨unseen,distributed,rfl⟩⟩
  | loadReturned available loading =>
    unfold State.loadReturned
    split <;> exact .inl ⟨rfl,rfl⟩
  | popRefused refused =>
    obtain ⟨messages,replies,-⟩ := popLoadSaItem_rest state _ _
    exact .inl ⟨messages,replies⟩
  | @answerRefused id answering =>
    exact .inr ⟨id,state.messages id,reply_touches state id _ _ (.inr rfl),.inl rfl⟩
  | completeCalled srcNetworkId systemAbilityId remoteObject free => exact .inl ⟨rfl,rfl⟩
  | completePop running empty =>
    obtain ⟨messages,replies,-⟩ := completePop_rest state _ _
    exact .inl ⟨messages,replies⟩
  | @completeAnswer thread id completion answers running holding =>
    obtain ⟨same,code⟩ := answerLoaded_spec completion.remoteObject answers (state.messages id)
    exact .inr ⟨id,state.messages id,(reply_touches state id _ _ code).of_same same,.inl rfl⟩
  | startRemoteListener => exact .inl ⟨rfl,rfl⟩
  | stopRemoteListener => exact .inl ⟨rfl,rfl⟩

theorem step_seen {state next : State} {event : Event} (fired : state.step event = some next) {id : Nat}
    (seen : state.phases id ≠ .unseen) : next.phases id ≠ .unseen := by
  have enters {other : Nat} {phase : Phase} (different : phase ≠ .unseen) :
      Function.update state.phases other phase id ≠ .unseen := by
    by_cases same : id = other
    · rw [same,Function.update_self]
      exact different
    · rwa [Function.update_of_ne same]
  cases step_takes fired with
  | receive message distributed unseen =>
    simp only [State.receive]
    split
    · simpa using enters (by decide)
    · split
      · simpa using enters (by decide)
      · exact enters (by decide)
  | loadReturned available loading =>
    unfold State.loadReturned
    split <;> exact enters (by decide)
  | popRefused refused =>
    simp only [State.popRefused,enter_phases,(popLoadSaItem_rest state _ _).2.2]
    exact enters (by decide)
  | answerRefused answering =>
    simp only [State.answerRefused,enter_phases,reply_phases]
    exact enters (by decide)
  | completeCalled srcNetworkId systemAbilityId remoteObject free => exact seen
  | completePop running empty => rwa [(completePop_rest state _ _).2.2]
  | completeAnswer answers running holding =>
    simp only [State.completeAnswer,reply_phases]
    exact seen
  | startRemoteListener => exact seen
  | stopRemoteListener => exact seen

/-- Received messages are kept, and what was sent for a message is that message. -/
structure Echoed (events : List Event) (state : State) : Prop where
  kept : ∀ id message distributed, Event.receive id message distributed ∈ events →
    state.phases id ≠ .unseen ∧ Same message (state.messages id)
  echoed : ∀ reply ∈ state.replies, Same (state.messages reply.1) reply.2 ∧ IsReply reply.2

theorem Accounted.unanswered {state : State} (accounted : Accounted state) {id : Nat} (unseen : state.phases id = .unseen)
    {sent : DHandleEntryTxRx} : (id,sent) ∉ state.replies := by
  intro member
  have none := accounted.once id
  have some : 0 < answered state id := List.countP_pos_iff.mpr ⟨_,member,by simp⟩
  simp only [places,unseen,if_true] at none
  omega

theorem echoed_step {events : List Event} {state next : State} {event : Event} (accounted : Accounted state)
    (echoed : Echoed events state) (fired : state.step event = some next) : Echoed (events ++ [event]) next := by
  -- a message that was received before, or sent, is not the one a step receives
  have carried : ∀ id, (state.phases id ≠ .unseen ∨ ∃ sent, (id,sent) ∈ state.replies) →
      Same (state.messages id) (next.messages id) := by
    intro id present
    rcases step_touches fired with ⟨messages,-⟩ | ⟨touched,message,⟨sent,same,messages,-⟩,origin⟩
    · rw [messages]
      exact Same.refl _
    · rw [messages]
      by_cases here : id = touched
      · subst here
        rw [Function.update_self]
        rcases origin with rfl | ⟨unseen,-⟩
        · exact same
        · rcases present with seen | ⟨earlier,member⟩
          · exact absurd unseen seen
          · exact absurd member (accounted.unanswered unseen)
      · rw [Function.update_of_ne here]
        exact Same.refl _
  constructor
  · intro id message distributed member
    rcases List.mem_append.mp member with old | new
    · obtain ⟨seen,same⟩ := echoed.kept id message distributed old
      exact ⟨step_seen fired seen,same.trans (carried id (.inl seen))⟩
    · rw [List.mem_singleton] at new
      subst new
      cases step_takes fired with
      | receive _ _ unseen =>
        obtain ⟨⟨sent,same,messages,-⟩,seen⟩ := receive_touches state id message distributed
        refine ⟨seen,?_⟩
        rw [messages,Function.update_self]
        exact same
  · have old : ∀ reply ∈ state.replies, Same (next.messages reply.1) reply.2 ∧ IsReply reply.2 := by
      intro reply member
      obtain ⟨same,code⟩ := echoed.echoed reply member
      exact ⟨(carried reply.1 (.inr ⟨reply.2,member⟩)).symm.trans same,code⟩
    intro reply member
    rcases step_touches fired with ⟨-,replies⟩ | ⟨id,message,⟨sent,-,messages,replies | ⟨replies,code⟩⟩,-⟩
    · rw [replies] at member
      exact old reply member
    · rw [replies] at member
      exact old reply member
    · rw [replies] at member
      rcases List.mem_append.mp member with before | new
      · exact old reply before
      · rw [List.mem_singleton] at new
        subst new
        rw [messages,Function.update_self]
        exact ⟨Same.refl sent,code⟩

def AnswersTo (message reply : DHandleEntryTxRx) : Prop := Same message reply ∧ IsReply reply

def Owed (state : State) (id : Nat) : Prop :=
  id ∈ state.loadSaReply ∨ state.phases id = .answering ∨
    ∃ thread completion, state.completions.lookup thread = some completion ∧ completion.replyMessage = some id

/-- No thread is at work, and every accepted load was completed after it was asked for. -/
def Idle (state : State) : Prop :=
  state.awaiting = [] ∧ (∀ id, state.phases id = .unseen ∨ state.phases id = .returned) ∧ state.completions = ∅

private theorem held_pos {state : State} {id : Nat} (holding : 0 < held state id) :
    ∃ thread completion, state.completions.lookup thread = some completion ∧ completion.replyMessage = some id := by
  obtain ⟨entry,member,holds⟩ := List.countP_pos_iff.mp holding
  exact ⟨entry.1,entry.2,AList.mem_lookup_iff.mpr member,by simpa using holds⟩

theorem Accounted.owed {state : State} (accounted : Accounted state) {id : Nat} (seen : state.phases id ≠ .unseen)
    (open_ : answered state id = 0) : Owed state id := by
  have once := accounted.once id
  simp only [places,open_,seen,if_false] at once
  by_cases waiting : id ∈ state.loadSaReply
  · exact .inl waiting
  by_cases answering : state.phases id = .answering
  · exact .inr (.inl answering)
  · rw [List.count_eq_zero.mpr waiting,if_neg answering] at once
    exact .inr (.inr (held_pos (by omega)))

theorem Accounted.idle {state : State} (accounted : Accounted state) (idle : Idle state) {id : Nat}
    (seen : state.phases id ≠ .unseen) : answered state id = 1 := by
  obtain ⟨completed,phases,threads⟩ := idle
  have returned := (phases id).resolve_left seen
  have absent : id ∉ state.loadSaReply := by
    intro member
    rcases accounted.expected id member with waiting | refused
    · rw [completed] at waiting
      cases waiting
    · rw [returned] at refused
      cases refused
  have once := accounted.once id
  have free : held state id = 0 := by rw [held,threads]; rfl
  rw [places,List.count_eq_zero.mpr absent,returned,free,if_neg (by decide),if_neg (by decide)] at once
  exact once

/-- In every run whose steps are `faithful`, a message that was received is answered at most once,
with its own numbers, is owed an answer until then, and is answered exactly once when all is done. -/
theorem each_message_answered_once {messages : Nat → DHandleEntryTxRx} {events : List Event} {state : State}
    (run : Reaches (guarded (fires State.step) faithful) (State.new messages) events state) {id : Nat}
    {message : DHandleEntryTxRx} {distributed : Bool} (received : Event.receive id message distributed ∈ events) :
    answered state id ≤ 1 ∧ (answered state id = 0 → Owed state id) ∧
      (∀ reply, (id,reply) ∈ state.replies → AnswersTo message reply) ∧
      (Idle state → ∃ reply, state.replies.filter (fun reply => reply.1 = id) = [(id,reply)] ∧ AnswersTo message reply) := by
  obtain ⟨accounted,echoed⟩ : Accounted state ∧ Echoed events state := by
    apply run.trace_invariant fun events state => Accounted state ∧ Echoed events state
    · exact ⟨accounted_new messages,⟨by simp,by simp [State.new]⟩⟩
    · rintro before current event next ⟨accounted,echoed⟩ ⟨guard,fired⟩
      exact ⟨accounted_step accounted guard fired,echoed_step accounted echoed fired⟩
  obtain ⟨seen,same⟩ := echoed.kept id message distributed received
  have answers : ∀ reply, (id,reply) ∈ state.replies → AnswersTo message reply := by
    intro reply member
    obtain ⟨sent,code⟩ := echoed.echoed _ member
    exact ⟨same.trans sent,code⟩
  refine ⟨?_,accounted.owed seen,answers,?_⟩
  · have once := accounted.once id
    simp only [places,seen,if_false] at once
    omega
  · intro idle
    have one := accounted.idle idle seen
    rw [answered,List.countP_eq_length_filter] at one
    obtain ⟨⟨first,reply⟩,only⟩ := List.length_eq_one_iff.mp one
    obtain ⟨member,own⟩ := List.mem_filter.mp (only ▸ List.mem_singleton_self (first,reply))
    have here : first = id := by simpa using own
    subst here
    exact ⟨reply,only,answers reply member⟩

def sampleMessage (seqNumber : UInt32) : DHandleEntryTxRx where
  version := 2
  transType := databusType
  dBinderCode := messageAsInvoker
  fromPort := 0
  toPort := 0
  stubIndex := 1234
  seqNumber := seqNumber
  binderObject := 1234
  deviceIdInfo := ⟨300,[65,66,0],[67,68,0]⟩
  stub := 5
  serviceNameLength := 0
  serviceName := List.replicate (servicenameLength+1) 0
  pid := 100
  uid := 200

def sampleAnswers : Answers := ⟨false,true,[68],true,true,7,[68,66],300⟩

def answeredRun : List Event :=
  [.receive 1 (sampleMessage 11) true,.loadReturned 1 true,.completeCalled 0 [65,66] 1234 true,.completePop 0,
    .completeAnswer 0 sampleAnswers,.completePop 0]

private theorem idle_of_computed {computed : Option State} {state : State} {phases : Nat → Phase}
    (reached : computed = some state)
    (quiet : computed.map (fun state => (state.awaiting,state.completions.entries.length)) = some ([],0))
    (settled : computed.map State.phases = some phases) (done : ∀ id, phases id = .unseen ∨ phases id = .returned) :
    Idle state := by
  rw [reached,Option.map_some,Option.some.injEq] at quiet settled
  obtain ⟨awaiting,threads⟩ := Prod.mk.inj quiet
  rw [← settled] at done
  exact ⟨awaiting,done,AList.ext (List.length_eq_zero_iff.mp threads)⟩

theorem each_message_answered_once_sample :
    ∃ state, Reaches (guarded (fires State.step) faithful) (State.new fun _ => sampleMessage 0) answeredRun state ∧
      Idle state ∧
      ∃ reply, state.replies.filter (fun reply => reply.1 = 1) = [(1,reply)] ∧ AnswersTo (sampleMessage 11) reply := by
  have computed : (answeredRun.foldlM (fun state event => if faithful state event then state.step event else none)
      (State.new fun _ => sampleMessage 0)).isSome = true := by decide +kernel
  obtain ⟨state,reached⟩ := Option.isSome_iff_exists.mp computed
  have run := Reaches.of_foldlM_guarded answeredRun reached
  have idle : Idle state := by
    apply idle_of_computed reached (by decide +kernel)
      (show _ = some (Function.update (Function.update (fun _ => .unseen) 1 .loading) 1 .returned) from rfl)
    intro id
    by_cases first : id = 1 <;> simp [first]
  exact ⟨state,run,idle,(each_message_answered_once run (List.mem_cons_self ..)).2.2.2 idle⟩

/-- Two messages of one device for one ability. The load of the second is refused, and its thread
pops the first. -/
def refusedRun : List Event :=
  [.receive 1 (sampleMessage 11) true,.receive 2 (sampleMessage 12) true,.loadReturned 1 true,.loadReturned 2 false,
    .popRefused 2,.answerRefused 2,.completeCalled 0 [65,66] 1234 true,.completePop 0,.completeAnswer 0 sampleAnswers,
    .completePop 0]

theorem refused_load_answers_twice :
    ∃ state, Reaches (fires State.step) (State.new fun _ => sampleMessage 0) refusedRun state ∧ Idle state ∧
      answered state 1 = 0 ∧ answered state 2 = 2 := by
  have computed : (refusedRun.foldlM State.step (State.new fun _ => sampleMessage 0)).isSome = true := by decide +kernel
  obtain ⟨state,reached⟩ := Option.isSome_iff_exists.mp computed
  have idle : Idle state := by
    apply idle_of_computed reached (by decide +kernel)
      (show _ = some (Function.update (Function.update (Function.update (Function.update (Function.update (Function.update
        (fun _ => .unseen) 1 .loading) 2 .loading) 1 .returned) 2 .refused) 2 .answering) 2 .returned) from rfl)
    intro id
    by_cases second : id = 2
    · simp [second]
    · by_cases first : id = 1 <;> simp [first,second]
  have counts : (refusedRun.foldlM State.step (State.new fun _ => sampleMessage 0)).map
      (fun state => (answered state 1,answered state 2)) = some (0,2) := by decide +kernel
  rw [reached,Option.map_some,Option.some.injEq] at counts
  obtain ⟨first,second⟩ := Prod.mk.inj counts
  exact ⟨state,Reaches.of_foldlM refusedRun reached,idle,first,second⟩

/-- A refused load that pops another message leaves that message without a place to be answered from. -/
theorem foreign_pop_drops {state : State} (accounted : Accounted state) {id other : Nat}
    (foreign : state.firstSame id = some other) (apart : other ≠ id) :
    places (state.popRefused id) other = 0 := by
  have found := foreign
  unfold State.firstSame at found
  have counted := count_popped found other
  have before := accounted.once other
  have present : 0 < state.loadSaReply.count other := List.count_pos_iff.mpr (List.mem_of_find?_eq_some found)
  have next : places (state.popRefused id) other = answered state other+(state.loadSaReply.eraseP (state.isSameLoadSaItem
      (cString (state.messages id).deviceIdInfo.fromDeviceId) (toInt32 (state.messages id).binderObject))).count other+
        (if state.phases other = .answering then 1 else 0)+held state other := by
    simp only [State.popRefused,State.popLoadSaItem,found,places,answered,held,State.enter,Function.update_of_ne apart]
  rw [if_pos rfl] at counted
  rw [next]
  have most : (if state.phases other = .unseen then 0 else 1) ≤ 1 := by split <;> omega
  simp only [places] at before
  omega

end CommunicationIpc.LoadReply
