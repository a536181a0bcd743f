import CommunicationIpc.Kernel.MessageStrings
import CommunicationIpc.LoadReply

/-! When the strings that `DBinderService` reads from a message end inside their own arrays. The session name is looked through before
it is read; the two device ids are read as they come, and are kept as they come in the session that `ProcessProto` reads. -/
namespace CommunicationIpc.MessageStrings
open CommunicationIpc.Library CommunicationIpc.Kernel.Negotiation CommunicationIpc.Kernel.MessageStrings
open CommunicationIpc.LoadReply (Same Takes step_takes answerLoaded_spec sendReplyMessageToRemote_same checkAndAmendSaId_same)

section Specification

/-- The read ends inside its own array. -/
def Inside : Read → Prop
  | .string chars => 0 ∈ chars
  | .bounded chars count => 0 ∈ chars.take count ∨ count ≤ chars.length

def Bounded (service : DBinderService) (event : Event) : Prop := ∀ read ∈ service.reads event, Inside read

/-- So would be the reads of `ProcessProto` now, for any stub. -/
def ProtoBounded (service : DBinderService) : Prop := ∀ stub answers, Bounded service (.processProto stub answers)

/-- The reply makes a session and the session is stored. -/
def Attaches (registry : Registry) (message : DHandleEntryTxRx) : Prop :=
  registry.isInvalidStub message = false ∧ isValidSessionName message = true ∧ message.stubIndex ≠ 0 ∧
    ∀ oldSession, registry.sessionObject.lookup (registry.queryStubPtr message.stub) = some oldSession →
      isSameSession oldSession (initializeSession message) = false ∧ oldSession.seqNumber ≤ message.seqNumber

/-- The sender's device id of an invocation has a zero byte, unless the invocation is refused while nobody can be answered; both device
ids of a reply have one if they are stored in a session that `ProcessProto` answers with. -/
def Met (service : DBinderService) : Event → Prop
  | .onBytesReceived id bytes distributed => ∀ message, onBytesReceived bytes = some message →
    (message.dBinderCode = messageAsInvoker → service.serving.phases id = .unseen →
      service.serving.remoteListener = false ∧ (checkAndAmendSaId message = none ∨ distributed = false) ∨
        0 ∈ message.deviceIdInfo.fromDeviceId) ∧
    (message.dBinderCode = messageAsReply ∨ message.dBinderCode = messageAsReplyTokenid → Attaches service.registry message →
      message.transType = databusType → 0 ∈ message.deviceIdInfo.toDeviceId ∧ 0 ∈ message.deviceIdInfo.fromDeviceId)
  | _ => True

end Specification

section Message
variable {bytes : List UInt8} {message : DHandleEntryTxRx}

structure Sized (message : DHandleEntryTxRx) : Prop where
  fromDeviceId : message.deviceIdInfo.fromDeviceId.length = deviceidLength+1
  toDeviceId : message.deviceIdInfo.toDeviceId.length = deviceidLength+1
  serviceName : message.serviceName.length = servicenameLength+1

theorem received_sized (received : onBytesReceived bytes = some message) : Sized message := by
  unfold onBytesReceived at received
  split at received
  · cases received
  split at received
  · cases received
  cases received
  exact ⟨Memory.readBytes_length _ _ _,Memory.readBytes_length _ _ _,Memory.readBytes_length _ _ _⟩

theorem initializeSession_ids (message : DHandleEntryTxRx) :
    (initializeSession message).deviceIdInfo.fromDeviceId = message.deviceIdInfo.fromDeviceId ∧
      (initializeSession message).deviceIdInfo.toDeviceId = message.deviceIdInfo.toDeviceId := by
  unfold initializeSession
  dsimp only
  split
  · exact ⟨rfl,rfl⟩
  · exact ⟨rfl,rfl⟩

theorem valid_name_ends (sized : Sized message) (valid : isValidSessionName message = true) : 0 ∈ message.serviceName := by
  by_contra absent
  have whole : cString (message.serviceName.take (servicenameLength+1)) = message.serviceName := by
    rw [List.take_of_length_le (Nat.le_of_eq sized.serviceName),cString_eq_self_iff]
    exact absent
  simp only [isValidSessionName,whole,sized.serviceName,Bool.and_eq_true,decide_eq_true_eq] at valid
  omega

end Message

section Replies
variable {registry : Registry} {message : DHandleEntryTxRx}

/-- The arrays of the stored sessions have their sizes. -/
def SessionsSized (registry : Registry) : Prop :=
  ∀ stub session, registry.sessionObject.lookup stub = some session →
    session.deviceIdInfo.fromDeviceId.length = deviceidLength+1 ∧ session.deviceIdInfo.toDeviceId.length = deviceidLength+1

theorem inside_of_length {chars : List UInt8} (size : chars.length = deviceidLength+1) : Inside (.bounded chars deviceidLength) :=
  .inr (size ▸ Nat.le_succ _)

theorem isSameSession_inside {oldSession newSession : SessionInfo}
    (oldSized : oldSession.deviceIdInfo.fromDeviceId.length = deviceidLength+1 ∧
      oldSession.deviceIdInfo.toDeviceId.length = deviceidLength+1)
    (newSized : newSession.deviceIdInfo.fromDeviceId.length = deviceidLength+1 ∧
      newSession.deviceIdInfo.toDeviceId.length = deviceidLength+1) :
    ∀ read ∈ isSameSessionReads oldSession newSession, Inside read := by
  unfold isSameSessionReads
  split
  · intro read member
    cases member
  · have first : ∀ read ∈ [Read.bounded oldSession.deviceIdInfo.fromDeviceId deviceidLength,
        .bounded newSession.deviceIdInfo.fromDeviceId deviceidLength], Inside read := by
      intro read member
      rcases List.mem_pair.mp member with rfl | rfl
      · exact inside_of_length oldSized.1
      · exact inside_of_length newSized.1
    intro read member
    rcases List.mem_append.mp member with early | late
    · exact first read early
    split at late
    · cases late
    · rcases List.mem_pair.mp late with rfl | rfl
      · exact inside_of_length oldSized.2
      · exact inside_of_length newSized.2

theorem makeSession_inside (sized : Sized message) (sessions : SessionsSized registry) :
    ∀ read ∈ makeSessionByReplyMessageReads registry message, Inside read := by
  unfold makeSessionByReplyMessageReads
  split
  · intro read member
    cases member
  intro read member
  rcases List.mem_append.mp member with checked | member
  · unfold isValidSessionNameReads at checked
    split at checked
    · cases checked
    · rw [List.mem_singleton.mp checked]
      exact .inr (Nat.le_of_eq sized.serviceName.symm)
  split at member
  · cases member
  rename_i valid
  rcases List.mem_cons.mp member with rfl | member
  · exact valid_name_ends sized (by simpa using valid)
  split at member
  · cases member
  split at member
  · cases member
  · rename_i oldSession found
    obtain ⟨fromSame,toSame⟩ := initializeSession_ids message
    exact isSameSession_inside (sessions _ oldSession found) ⟨fromSame ▸ sized.fromDeviceId,toSame ▸ sized.toDeviceId⟩ read member

theorem attach_new {session : SessionInfo} {stub : UInt64} (none_ : registry.sessionObject.lookup stub = none) :
    registry.attachSessionObject session stub = { registry with sessionObject := registry.sessionObject.insert stub session } := by
  rw [Registry.attachSessionObject,none_]

theorem attach_known {session oldSession : SessionInfo} {stub : UInt64} (found : registry.sessionObject.lookup stub = some oldSession) :
    registry.attachSessionObject session stub = registry := by
  rw [Registry.attachSessionObject,found]

theorem makeSession_lookup (registry : Registry) (message : DHandleEntryTxRx) (stub : UInt64) :
    (Attaches registry message → (registry.makeSessionByReplyMessage message).sessionObject.lookup stub =
      if stub = registry.queryStubPtr message.stub then some (initializeSession message) else registry.sessionObject.lookup stub) ∧
    (¬ Attaches registry message →
      (registry.makeSessionByReplyMessage message).sessionObject.lookup stub = registry.sessionObject.lookup stub) := by
  have inserted (table : Table UInt64 SessionInfo) (same : ∀ other, other ≠ registry.queryStubPtr message.stub →
      table.lookup other = registry.sessionObject.lookup other) :
      (table.insert (registry.queryStubPtr message.stub) (initializeSession message)).lookup stub =
        if stub = registry.queryStubPtr message.stub then some (initializeSession message)
        else registry.sessionObject.lookup stub := by
    split
    · rename_i here
      rw [here,AList.lookup_insert]
    · rename_i elsewhere
      rw [AList.lookup_insert_ne elsewhere,same stub elsewhere]
  unfold Registry.makeSessionByReplyMessage
  by_cases invalid : registry.isInvalidStub message = true
  · rw [if_pos invalid]
    exact ⟨fun attaches => absurd invalid (Bool.eq_false_iff.mp attaches.1),fun _ => rfl⟩
  rw [if_neg invalid]
  by_cases valid : isValidSessionName message = true
  · rw [if_neg (not_not.mpr valid)]
    dsimp only
    by_cases zero : (initializeSession message).stubIndex = 0
    · rw [if_pos zero]
      exact ⟨fun attaches => absurd zero attaches.2.2.1,fun _ => rfl⟩
    · rw [if_neg zero]
      cases found : registry.sessionObject.lookup (registry.queryStubPtr message.stub) with
      | none =>
        dsimp only
        rw [attach_new found]
        refine ⟨fun _ => inserted _ fun _ _ => rfl,fun refused => absurd ?_ refused⟩
        refine ⟨Bool.eq_false_iff.mpr invalid,valid,zero,fun oldSession there => ?_⟩
        rw [found] at there
        cases there
      | some oldSession =>
        dsimp only
        by_cases same : isSameSession oldSession (initializeSession message) = true
        · rw [if_pos same]
          exact ⟨fun attaches => absurd same (Bool.eq_false_iff.mp (attaches.2.2.2 oldSession found).1),fun _ => rfl⟩
        · rw [if_neg same]
          by_cases newer : oldSession.seqNumber ≤ (initializeSession message).seqNumber
          · rw [if_pos newer,attach_new (AList.lookup_erase _ _)]
            refine ⟨fun _ => inserted _ fun other apart => AList.lookup_erase_ne apart,fun refused => absurd ?_ refused⟩
            refine ⟨Bool.eq_false_iff.mpr invalid,valid,zero,fun other there => ?_⟩
            cases found.symm.trans there
            exact ⟨Bool.eq_false_iff.mpr same,newer⟩
          · rw [if_neg newer,attach_known found]
            exact ⟨fun attaches => absurd (attaches.2.2.2 oldSession found).2 newer,fun _ => rfl⟩
  · rw [if_pos valid]
    exact ⟨fun attaches => absurd attaches.2.1 valid,fun _ => rfl⟩

/-- What `ProcessProto` would read ends in time exactly if the device ids in the sessions it answers with do. -/
theorem protoBounded_iff (service : DBinderService) : ProtoBounded service ↔
    ∀ stub session, service.registry.sessionObject.lookup stub = some session → session.type = databusType →
      0 ∈ session.deviceIdInfo.toDeviceId ∧ 0 ∈ session.deviceIdInfo.fromDeviceId := by
  constructor
  · intro bounded stub session found databus
    have all : service.reads (.processProto stub ⟨0,0,true,4⟩) =
        [.string session.deviceIdInfo.toDeviceId,.string session.deviceIdInfo.fromDeviceId] := by
      unfold DBinderService.reads
      dsimp only
      rw [processProtoReads,found]
      dsimp only
      rw [if_neg (by decide),if_neg (by decide),if_pos databus]
      rfl
    have inside := bounded stub ⟨0,0,true,4⟩
    rw [Bounded,all] at inside
    exact ⟨inside _ List.mem_cons_self,inside _ (List.mem_cons_of_mem _ List.mem_cons_self)⟩
  · intro ends stub answers read member
    unfold DBinderService.reads at member
    dsimp only at member
    unfold processProtoReads at member
    split at member
    · cases member
    rename_i session found
    split at member
    · cases member
    split at member
    · cases member
    split at member
    · rename_i databus
      obtain ⟨toEnds,fromEnds⟩ := ends stub session found databus
      rcases List.mem_append.mp member with first | second
      · split at first
        · rw [List.mem_singleton.mp first]
          exact toEnds
        · cases first
      · split at second
        · rw [List.mem_singleton.mp second]
          exact fromEnds
        · cases second
    · cases member

/-- A reply that was read keeps the sessions as they should be exactly if it has two strings where it makes a session for
`ProcessProto`. -/
theorem reply_exact {service : DBinderService} (bounded : ProtoBounded service) (message : DHandleEntryTxRx) :
    ProtoBounded { service with registry := service.registry.makeSessionByReplyMessage message } ↔
      (Attaches service.registry message → message.transType = databusType →
        0 ∈ message.deviceIdInfo.toDeviceId ∧ 0 ∈ message.deviceIdInfo.fromDeviceId) := by
  rw [protoBounded_iff] at bounded ⊢
  obtain ⟨fromSame,toSame⟩ := initializeSession_ids message
  constructor
  · intro ends attaches databus
    have made := (makeSession_lookup service.registry message (service.registry.queryStubPtr message.stub)).1 attaches
    rw [if_pos rfl] at made
    rw [← fromSame,← toSame]
    exact ends _ _ made databus
  · intro ends stub session found databus
    have lookups := makeSession_lookup service.registry message stub
    by_cases attaches : Attaches service.registry message
    · have found := (lookups.1 attaches).symm.trans found
      split at found
      · cases found
        rw [fromSame,toSame]
        exact ends attaches databus
      · exact bounded stub session found databus
    · exact bounded stub session ((lookups.2 attaches).symm.trans found) databus

theorem sessions_reply (sessions : SessionsSized registry) (sized : Sized message) :
    SessionsSized (registry.makeSessionByReplyMessage message) := by
  intro stub session found
  have lookups := makeSession_lookup registry message stub
  by_cases attaches : Attaches registry message
  · have found := (lookups.1 attaches).symm.trans found
    split at found
    · cases found
      obtain ⟨fromSame,toSame⟩ := initializeSession_ids message
      exact ⟨fromSame ▸ sized.fromDeviceId,toSame ▸ sized.toDeviceId⟩
    · exact sessions stub session found
  · exact sessions stub session ((lookups.2 attaches).symm.trans found)

end Replies

section Serving
variable {state next : Kernel.LoadReply.State} {event : Kernel.LoadReply.Event}

/-- The message may still be read. -/
def Live (state : Kernel.LoadReply.State) (id : Nat) : Prop :=
  id ∈ state.loadSaReply ∨ state.phases id = .loading ∨ state.phases id = .refused ∨ state.phases id = .answering ∨
    ∃ thread completion, state.completions.lookup thread = some completion ∧ completion.replyMessage = some id

/-- A message that may still be read has been received. -/
def Fresh (state : Kernel.LoadReply.State) : Prop := ∀ id, Live state id → state.phases id ≠ .unseen

/-- The sender's device id in a message that may still be read ends in its array. -/
def Held (state : Kernel.LoadReply.State) : Prop := ∀ id, Live state id → 0 ∈ (state.messages id).deviceIdInfo.fromDeviceId

theorem reply_messages (state : Kernel.LoadReply.State) (id : Nat) (dBinderCode reason : UInt32) {message : DHandleEntryTxRx}
    (same : Same (state.messages id) message) (other : Nat) :
    ((state.reply id dBinderCode reason message).messages other).deviceIdInfo.fromDeviceId =
      (state.messages other).deviceIdInfo.fromDeviceId := by
  unfold Kernel.LoadReply.State.reply
  split
  · dsimp only
    by_cases own : other = id
    · rw [own,Function.update_self]
      exact (same.trans (sendReplyMessageToRemote_same dBinderCode reason message)).2.2
    · rw [Function.update_of_ne own]
  · dsimp only
    by_cases own : other = id
    · rw [own,Function.update_self]
      exact same.2.2
    · rw [Function.update_of_ne own]

/-- What is left of a message after a step that brings none: it is not read again unless it could be before. -/
structure Left (state next : Kernel.LoadReply.State) (id : Nat) : Prop where
  live : Live next id → Live state id
  unseen : next.phases id = .unseen → state.phases id = .unseen
  fromDeviceId : (next.messages id).deviceIdInfo.fromDeviceId = (state.messages id).deviceIdInfo.fromDeviceId

theorem popLoadSaItem_spec (state : Kernel.LoadReply.State) (srcNetworkId : List UInt8) (systemAbilityId : Int32) :
    ∃ left : List Nat, left.Sublist state.loadSaReply ∧
      (state.popLoadSaItem srcNetworkId systemAbilityId).2 = { state with loadSaReply := left } ∧
      ∀ id, (state.popLoadSaItem srcNetworkId systemAbilityId).1 = some id → id ∈ state.loadSaReply := by
  unfold Kernel.LoadReply.State.popLoadSaItem
  split
  · refine ⟨state.loadSaReply,.refl _,rfl,fun id popped => ?_⟩
    cases popped
  · rename_i id found
    refine ⟨_,List.eraseP_sublist,rfl,fun other popped => ?_⟩
    cases popped
    exact List.mem_of_find?_eq_some found

theorem Left.trans {first second third : Kernel.LoadReply.State} {id : Nat} (left : Left first second id) (after : Left second third id) :
    Left first third id :=
  ⟨fun live => left.live (after.live live),fun unseen => left.unseen (after.unseen unseen),after.fromDeviceId.trans left.fromDeviceId⟩

theorem left_enter {id : Nat} {phase : Kernel.LoadReply.Phase} (seen : phase ≠ .unseen) (live : phase = .returned ∨ Live state id)
    (other : Nat) : Left state (state.enter id phase) other := by
  by_cases own : other = id
  · subst own
    have here : (state.enter other phase).phases other = phase := Function.update_self ..
    refine ⟨fun after => ?_,fun unseen => absurd (here.symm.trans unseen) seen,rfl⟩
    rcases live with returned | live
    · rw [returned] at here
      unfold Live at after
      rw [returned,here] at after
      rcases after with waiting | loading | refused | answering | held
      · exact .inl waiting
      · cases loading
      · cases refused
      · cases answering
      · exact .inr (.inr (.inr (.inr held)))
    · exact live
  · have there : (state.enter id phase).phases other = state.phases other := Function.update_of_ne own ..
    refine ⟨fun after => ?_,fun unseen => there.symm.trans unseen,rfl⟩
    unfold Live at after ⊢
    rw [there] at after
    exact after

/-- No message has moved but out of the list, or to a thread that may hold it. -/
theorem left_parts (messages : ∀ id, (next.messages id).deviceIdInfo.fromDeviceId = (state.messages id).deviceIdInfo.fromDeviceId)
    (phases : next.phases = state.phases) (waiting : ∀ id ∈ next.loadSaReply, id ∈ state.loadSaReply)
    (held : ∀ thread completion id, next.completions.lookup thread = some completion → completion.replyMessage = some id → Live state id)
    (id : Nat) : Left state next id := by
  refine ⟨fun after => ?_,fun unseen => phases ▸ unseen,messages id⟩
  unfold Live at after
  rw [phases] at after
  rcases after with waits | loading | refused | answering | ⟨thread,completion,found,holding⟩
  · exact .inl (waiting id waits)
  · exact .inr (.inl loading)
  · exact .inr (.inr (.inl refused))
  · exact .inr (.inr (.inr (.inl answering)))
  · exact held thread completion id found holding

theorem live_of_holding {thread id : Nat} {completion : Kernel.LoadReply.Completion}
    (found : state.completions.lookup thread = some completion) (holding : completion.replyMessage = some id) : Live state id :=
  .inr (.inr (.inr (.inr ⟨thread,completion,found,holding⟩)))

theorem held_insert {thread other id : Nat} {completion found : Kernel.LoadReply.Completion}
    (own : ∀ id, completion.replyMessage = some id → Live state id)
    (there : (state.completions.insert thread completion).lookup other = some found) (holding : found.replyMessage = some id) :
    Live state id := by
  by_cases same : other = thread
  · rw [same,AList.lookup_insert] at there
    cases there
    exact own id holding
  · rw [AList.lookup_insert_ne same] at there
    exact live_of_holding there holding

theorem held_erase {thread other id : Nat} {found : Kernel.LoadReply.Completion}
    (there : (state.completions.erase thread).lookup other = some found) (holding : found.replyMessage = some id) : Live state id := by
  by_cases same : other = thread
  · rw [same,AList.lookup_erase] at there
    cases there
  · rw [AList.lookup_erase_ne same] at there
    exact live_of_holding there holding

theorem left_reply (state : Kernel.LoadReply.State) (id : Nat) (dBinderCode reason : UInt32) {message : DHandleEntryTxRx}
    (same : Same (state.messages id) message) (other : Nat) : Left state (state.reply id dBinderCode reason message) other := by
  refine left_parts (reply_messages state id dBinderCode reason same) (LoadReply.reply_phases ..) ?_ ?_ other
  · intro waits member
    rwa [LoadReply.reply_loadSaReply] at member
  · intro thread completion held found holding
    rw [LoadReply.reply_completions] at found
    exact live_of_holding found holding

theorem left_completePop (state : Kernel.LoadReply.State) (thread : Nat) (completion : Kernel.LoadReply.Completion) (id : Nat) :
    Left state (state.completePop thread completion) id := by
  obtain ⟨left,fewer,rest,taken⟩ := popLoadSaItem_spec state completion.srcNetworkId completion.systemAbilityId
  unfold Kernel.LoadReply.State.completePop
  split
  · rename_i popped after same
    rw [same] at rest taken
    dsimp only at rest
    subst rest
    apply left_parts
    · exact fun _ => rfl
    · rfl
    · exact fun other member => fewer.subset member
    · exact fun other found held there holding => held_insert (fun owed holds => .inl (taken owed holds)) there holding
  · rename_i after same
    rw [same] at rest
    dsimp only at rest
    subst rest
    apply left_parts
    · exact fun _ => rfl
    · rfl
    · exact fun other member => fewer.subset member
    · exact fun other found held there holding => held_erase there holding

theorem left_completeAnswer (thread : Nat) (completion : Kernel.LoadReply.Completion) (id : Nat) (answers : Answers) (other : Nat) :
    Left state (state.completeAnswer thread completion id answers) other := by
  have answered := (answerLoaded_spec completion.remoteObject answers (state.messages id)).1
  unfold Kernel.LoadReply.State.completeAnswer
  generalize answerLoaded completion.remoteObject answers (state.messages id) = result at answered ⊢
  obtain ⟨filled,dBinderCode,reason⟩ := result
  apply left_parts
  · exact reply_messages state id dBinderCode reason answered
  · exact LoadReply.reply_phases ..
  · intro waits member
    change waits ∈ (state.reply id dBinderCode reason filled).loadSaReply at member
    rwa [LoadReply.reply_loadSaReply] at member
  · intro place found held there holding
    refine held_insert (fun owed holds => ?_) there holding
    cases holds

theorem left_takes (taken : Takes state event next) (quiet : ∀ id message distributed, event ≠ .receive id message distributed)
    (id : Nat) : Left state next id := by
  cases taken with
  | receive message distributed unseen => exact absurd rfl (quiet _ message distributed)
  | @loadReturned own available loading =>
    unfold Kernel.LoadReply.State.loadReturned
    split
    · exact left_enter Kernel.LoadReply.Phase.noConfusion (.inl rfl) id
    · have entered : Left state (state.enter own .refused) id :=
        left_enter Kernel.LoadReply.Phase.noConfusion (.inr (.inr (.inl loading))) id
      exact ⟨entered.live,entered.unseen,entered.fromDeviceId⟩
  | @popRefused own refused =>
    obtain ⟨left,fewer,rest,-⟩ := popLoadSaItem_spec state (cString (state.messages own).deviceIdInfo.fromDeviceId)
      (toInt32 (state.messages own).binderObject)
    have popped : Left state { state with loadSaReply := left } id := by
      apply left_parts
      · exact fun _ => rfl
      · rfl
      · exact fun other member => fewer.subset member
      · exact fun other found held there holding => live_of_holding there holding
    have live : Live { state with loadSaReply := left } own := .inr (.inr (.inl refused))
    unfold Kernel.LoadReply.State.popRefused
    dsimp only
    rw [rest]
    exact popped.trans (left_enter Kernel.LoadReply.Phase.noConfusion (.inr live) id)
  | @answerRefused own answering =>
    exact (left_reply state own messageAsRemoteError dbinderSaNotAvailable (Same.refl _) id).trans
      (left_enter Kernel.LoadReply.Phase.noConfusion (.inl rfl) id)
  | completeCalled srcNetworkId systemAbilityId remoteObject free =>
    apply left_parts
    · exact fun _ => rfl
    · rfl
    · exact fun other member => member
    · intro other found held there holding
      refine held_insert (fun owed holds => ?_) there holding
      cases holds
  | completePop running empty => exact left_completePop state _ _ id
  | completeAnswer answers running holding => exact left_completeAnswer _ _ _ answers id
  | startRemoteListener =>
    exact ⟨fun live => live,fun unseen => unseen,rfl⟩
  | stopRemoteListener =>
    exact ⟨fun live => live,fun unseen => unseen,rfl⟩

theorem fresh_left (fresh : Fresh state) (left : ∀ id, Left state next id) : Fresh next :=
  fun id live unseen => fresh id ((left id).live live) ((left id).unseen unseen)

theorem held_left (held : Held state) (left : ∀ id, Left state next id) : Held next := by
  intro id live
  rw [(left id).fromDeviceId]
  exact held id ((left id).live live)

/-- An invocation that is refused at once is not read again. -/
theorem refuse_spec (fresh : Fresh state) {id : Nat} (unseen : state.phases id = .unseen) (dBinderCode reason : UInt32)
    (message : DHandleEntryTxRx) :
    Fresh ((state.reply id dBinderCode reason message).enter id .returned) ∧
      (Held state → Held ((state.reply id dBinderCode reason message).enter id .returned)) := by
  have back (other : Nat) (live : Live ((state.reply id dBinderCode reason message).enter id .returned) other) :
      other ≠ id ∧ Live state other := by
    have before : Live (state.reply id dBinderCode reason message) other :=
      (left_enter Kernel.LoadReply.Phase.noConfusion (.inl rfl) other).live live
    unfold Live at before
    rw [LoadReply.reply_loadSaReply,LoadReply.reply_phases,LoadReply.reply_completions] at before
    refine ⟨?_,before⟩
    rintro rfl
    exact fresh other before unseen
  constructor
  · intro other live seen
    obtain ⟨apart,before⟩ := back other live
    change Function.update (state.reply id dBinderCode reason message).phases id .returned other = .unseen at seen
    rw [Function.update_of_ne apart,LoadReply.reply_phases] at seen
    exact fresh other before seen
  · intro held other live
    obtain ⟨apart,before⟩ := back other live
    have same : (state.reply id dBinderCode reason message).messages other = state.messages other := by
      unfold Kernel.LoadReply.State.reply
      split
      · exact Function.update_of_ne apart ..
      · exact Function.update_of_ne apart ..
    change 0 ∈ ((state.reply id dBinderCode reason message).messages other).deviceIdInfo.fromDeviceId
    rw [same]
    exact held other before

theorem receive_spec (fresh : Fresh state) {id : Nat} (unseen : state.phases id = .unseen) (message : DHandleEntryTxRx)
    (distributed : Bool) :
    Fresh (state.receive id message distributed) ∧
      (Held state → (checkAndAmendSaId message = none ∨ distributed = false) ∨ 0 ∈ message.deviceIdInfo.fromDeviceId →
        Held (state.receive id message distributed)) := by
  unfold Kernel.LoadReply.State.receive
  cases checked : checkAndAmendSaId message with
  | none =>
    obtain ⟨kept,held⟩ := refuse_spec fresh unseen messageAsRemoteError dbinderSaidInvalid message
    exact ⟨kept,fun all _ => held all⟩
  | some amended =>
    dsimp only
    split
    · obtain ⟨kept,held⟩ := refuse_spec fresh unseen messageAsRemoteError dbinderSaNotDistrubuted amended
      exact ⟨kept,fun all _ => held all⟩
    · rename_i accepted
      have back (other : Nat) (apart : other ≠ id) (live : Live { state.enter id .loading with
          messages := Function.update state.messages id amended,
          loadSaReply := state.loadSaReply ++ [id],
          awaiting := state.awaiting ++ [id] } other) : Live state other := by
        have phase : Function.update state.phases id .loading other = state.phases other := Function.update_of_ne apart ..
        rcases live with waiting | rest
        · rcases List.mem_append.mp waiting with old | new_
          · exact .inl old
          · exact absurd (List.mem_singleton.mp new_) apart
        · change Function.update state.phases id .loading other = _ ∨ Function.update state.phases id .loading other = _ ∨
            Function.update state.phases id .loading other = _ ∨ _ at rest
          rw [phase] at rest
          exact .inr rest
      constructor
      · intro other live seen
        change Function.update state.phases id .loading other = .unseen at seen
        by_cases own : other = id
        · rw [own,Function.update_self] at seen
          cases seen
        · rw [Function.update_of_ne own] at seen
          exact fresh other (back other own live) seen
      · intro held ends other live
        change 0 ∈ (Function.update state.messages id amended other).deviceIdInfo.fromDeviceId
        by_cases own : other = id
        · rw [own,Function.update_self,(checkAndAmendSaId_same checked).2.2]
          rcases ends with (refused | refused) | ends
          · cases refused
          · exact absurd (by simpa using refused) accepted
          · exact ends
        · rw [Function.update_of_ne own]
          exact held other (back other own live)

theorem sendReply_inside (state : Kernel.LoadReply.State) {message : DHandleEntryTxRx} (ends : 0 ∈ message.deviceIdInfo.fromDeviceId) :
    ∀ read ∈ sendReplyMessageToRemoteReads state message, Inside read := by
  unfold sendReplyMessageToRemoteReads
  intro read member
  split at member
  · rw [List.mem_singleton.mp member]
    exact ends
  · cases member

theorem popLoadSaItem_inside (srcNetworkId : List UInt8) (systemAbilityId : Int32) {ids : List Nat}
    (ends : ∀ id ∈ ids, 0 ∈ (state.messages id).deviceIdInfo.fromDeviceId) :
    ∀ read ∈ popLoadSaItemReads state srcNetworkId systemAbilityId ids, Inside read := by
  induction ids with
  | nil =>
    intro read member
    cases member
  | cons id ids ih =>
    intro read member
    rw [popLoadSaItemReads] at member
    rcases List.mem_append.mp member with own | rest
    · unfold isSameLoadSaItemReads at own
      split at own
      · rw [List.mem_singleton.mp own]
        exact ends id List.mem_cons_self
      · cases own
    · split at rest
      · cases rest
      · exact ih (fun other inside => ends other (List.mem_cons_of_mem _ inside)) read rest

theorem serving_inside (held : Held state) (event : Kernel.LoadReply.Event) : ∀ read ∈ servingReads state event, Inside read := by
  have waiting : ∀ id ∈ state.loadSaReply, 0 ∈ (state.messages id).deviceIdInfo.fromDeviceId := fun id member => held id (.inl member)
  intro read member
  unfold servingReads at member
  split at member
  · split at member
    · rename_i id refused
      rcases List.mem_cons.mp member with rfl | rest
      · exact held id (.inr (.inr (.inl refused)))
      · exact popLoadSaItem_inside _ _ waiting read rest
    · cases member
  · split at member
    · rename_i id answering
      exact sendReply_inside state (held id (.inr (.inr (.inr (.inl answering))))) read member
    · cases member
  · split at member
    · split at member
      · exact popLoadSaItem_inside _ _ waiting read member
      · cases member
    · cases member
  · split at member
    · rename_i thread answers _ completion found
      split at member
      · rename_i id holding
        have ends := held id (live_of_holding found holding)
        unfold answerLoadedReads at member
        rcases List.mem_append.mp member with device | replied
        · split at device
          · rw [List.mem_singleton.mp device]
            exact ends
          · cases device
        · refine sendReply_inside state ?_ read replied
          rw [(answerLoaded_spec completion.remoteObject answers (state.messages id)).1.2.2]
          exact ends
      · cases member
    · cases member
  · cases member

theorem invoker_exact (state : Kernel.LoadReply.State) (message : DHandleEntryTxRx) (distributed : Bool) :
    (∀ read ∈ onRemoteInvokerMessageReads state message distributed, Inside read) ↔
      state.remoteListener = false ∧ (checkAndAmendSaId message = none ∨ distributed = false) ∨
        0 ∈ message.deviceIdInfo.fromDeviceId := by
  have answered (sent : DHandleEntryTxRx) : (∀ read ∈ sendReplyMessageToRemoteReads state sent, Inside read) ↔
      state.remoteListener = false ∨ 0 ∈ sent.deviceIdInfo.fromDeviceId := by
    unfold sendReplyMessageToRemoteReads
    cases state.remoteListener with
    | false => exact iff_of_true (List.forall_mem_nil _) (.inl rfl)
    | true =>
      rw [if_pos rfl,List.forall_mem_singleton,or_iff_right Bool.true_eq_false.mp]
      rfl
  unfold onRemoteInvokerMessageReads
  cases checked : checkAndAmendSaId message with
  | none =>
    dsimp only
    rw [answered message,and_iff_left (.inl rfl)]
  | some amended =>
    have same := (checkAndAmendSaId_same checked).2.2
    dsimp only
    cases distributed with
    | false =>
      rw [if_pos Bool.false_ne_true,answered amended,same,and_iff_left (.inr rfl)]
    | true =>
      rw [if_neg (not_not.mpr rfl),List.forall_mem_singleton,or_iff_right]
      · change 0 ∈ amended.deviceIdInfo.fromDeviceId ↔ _
        rw [same]
      · rintro ⟨-,none_ | refused⟩
        · cases none_
        · cases refused

end Serving

section Steps
variable {service : DBinderService}

structure Sound (service : DBinderService) : Prop where
  sessions : SessionsSized service.registry
  fresh : Fresh service.serving

theorem serve_left (service : DBinderService) {event : Kernel.LoadReply.Event}
    (quiet : ∀ id message distributed, event ≠ .receive id message distributed) (id : Nat) :
    Left service.serving (service.serve event).serving id := by
  unfold DBinderService.serve
  dsimp only
  cases fired : service.serving.step event with
  | none => exact ⟨fun live => live,fun unseen => unseen,rfl⟩
  | some next => exact left_takes (step_takes fired) quiet id

theorem step_serving (service : DBinderService) (event : Kernel.LoadReply.Event) :
    (service.step (.serving event)).registry = service.registry ∧
      ∀ id, Left service.serving (service.step (.serving event)).serving id := by
  cases event with
  | receive id message distributed => exact ⟨rfl,fun _ => ⟨fun live => live,fun unseen => unseen,rfl⟩⟩
  | _ => exact ⟨rfl,fun id => serve_left service (fun _ _ _ => Kernel.LoadReply.Event.noConfusion) id⟩

theorem serve_receive (service : DBinderService) (id : Nat) (message : DHandleEntryTxRx) (distributed : Bool) :
    (service.serve (.receive id message distributed)).serving =
      if service.serving.phases id = .unseen then service.serving.receive id message distributed else service.serving := by
  unfold DBinderService.serve
  dsimp only [Kernel.LoadReply.State.step]
  split
  · rfl
  · rfl

theorem step_received {bytes : List UInt8} {message : DHandleEntryTxRx} (received : onBytesReceived bytes = some message) (id : Nat)
    (distributed : Bool) :
    service.step (.onBytesReceived id bytes distributed) = service.onRemoteMessageTask id message distributed ∧
      service.reads (.onBytesReceived id bytes distributed) = service.onRemoteMessageTaskReads id message distributed := by
  unfold DBinderService.step DBinderService.reads
  dsimp only
  rw [received]
  exact ⟨rfl,rfl⟩

theorem step_ignored {bytes : List UInt8} (ignored : onBytesReceived bytes = none) (id : Nat) (distributed : Bool) :
    service.step (.onBytesReceived id bytes distributed) = service ∧ service.reads (.onBytesReceived id bytes distributed) = [] := by
  unfold DBinderService.step DBinderService.reads
  dsimp only
  rw [ignored]
  exact ⟨rfl,rfl⟩

theorem sound_task (sound : Sound service) {message : DHandleEntryTxRx} (sized : Sized message) (id : Nat) (distributed : Bool) :
    Sound (service.onRemoteMessageTask id message distributed) := by
  unfold DBinderService.onRemoteMessageTask
  split
  · refine ⟨sound.sessions,?_⟩
    rw [serve_receive]
    split
    · rename_i unseen
      exact (receive_spec sound.fresh unseen message distributed).1
    · exact sound.fresh
  · refine ⟨?_,sound.fresh⟩
    unfold Registry.onRemoteMessageTask
    dsimp only
    split
    · exact sessions_reply sound.sessions sized
    · exact sound.sessions

theorem sound_step (service : DBinderService) (event : Event) (sound : Sound service) : Sound (service.step event) := by
  cases event with
  | onBytesReceived id bytes distributed =>
    cases received : onBytesReceived bytes with
    | none => rwa [(step_ignored received id distributed).1]
    | some message =>
      rw [(step_received received id distributed).1]
      exact sound_task sound (received_sized received) id distributed
  | serving event =>
    obtain ⟨registry,left⟩ := step_serving service event
    exact ⟨registry ▸ sound.sessions,fresh_left sound.fresh left⟩
  | processProto stub answers => exact sound

theorem held_step (service : DBinderService) (event : Event) (sound : Sound service) (held : Held service.serving)
    (met : Met service event) : Held (service.step event).serving := by
  cases event with
  | onBytesReceived id bytes distributed =>
    cases received : onBytesReceived bytes with
    | none => rwa [(step_ignored received id distributed).1]
    | some message =>
      rw [(step_received received id distributed).1]
      unfold DBinderService.onRemoteMessageTask
      split
      · rename_i invoker
        rw [serve_receive]
        split
        · rename_i unseen
          refine (receive_spec sound.fresh unseen message distributed).2 held ?_
          exact ((met message received).1 invoker unseen).imp_left And.right
        · exact held
      · exact held
  | serving event => exact held_left held (step_serving service event).2
  | processProto stub answers => exact held

theorem protoBounded_congr {after : DBinderService} (same : after.registry = service.registry) (bounded : ProtoBounded service) :
    ProtoBounded after := by
  rw [protoBounded_iff] at bounded ⊢
  rwa [same]

theorem task_exact (sound : Sound service) (bounded : ProtoBounded service) {bytes : List UInt8} {message : DHandleEntryTxRx}
    (received : onBytesReceived bytes = some message) (id : Nat) (distributed : Bool) :
    ((∀ read ∈ service.onRemoteMessageTaskReads id message distributed, Inside read) ∧
        ProtoBounded (service.onRemoteMessageTask id message distributed)) ↔
      Met service (.onBytesReceived id bytes distributed) := by
  have only : Met service (.onBytesReceived id bytes distributed) ↔
      (message.dBinderCode = messageAsInvoker → service.serving.phases id = .unseen →
        service.serving.remoteListener = false ∧ (checkAndAmendSaId message = none ∨ distributed = false) ∨
          0 ∈ message.deviceIdInfo.fromDeviceId) ∧
      (message.dBinderCode = messageAsReply ∨ message.dBinderCode = messageAsReplyTokenid → Attaches service.registry message →
        message.transType = databusType → 0 ∈ message.deviceIdInfo.toDeviceId ∧ 0 ∈ message.deviceIdInfo.fromDeviceId) := by
    unfold Met
    dsimp only
    refine ⟨fun met => met message received,fun met other same => ?_⟩
    cases received.symm.trans same
    exact met
  rw [only]
  unfold DBinderService.onRemoteMessageTask DBinderService.onRemoteMessageTaskReads
  by_cases invoker : message.dBinderCode = messageAsInvoker
  · rw [if_pos invoker,if_pos invoker,forall_prop_of_true invoker]
    have unchanged : ProtoBounded (service.serve (.receive id message distributed)) := protoBounded_congr rfl bounded
    have other : ¬ (message.dBinderCode = messageAsReply ∨ message.dBinderCode = messageAsReplyTokenid) := by
      rw [invoker]
      decide
    rw [and_iff_left unchanged,and_iff_left fun reply => absurd reply other]
    by_cases unseen : service.serving.phases id = .unseen
    · rw [if_pos unseen,forall_prop_of_true unseen]
      exact invoker_exact service.serving message distributed
    · rw [if_neg unseen]
      exact iff_of_true (List.forall_mem_nil _) fun seen => absurd seen unseen
  · rw [if_neg invoker,if_neg invoker,and_iff_right fun here => absurd here invoker]
    unfold Registry.onRemoteMessageTask
    by_cases reply : message.dBinderCode = messageAsReply ∨ message.dBinderCode = messageAsReplyTokenid
    · rw [if_pos reply,if_pos reply,forall_prop_of_true reply,
        and_iff_right (makeSession_inside (received_sized received) sound.sessions)]
      exact reply_exact bounded message
    · rw [if_neg reply,if_neg reply]
      exact iff_of_true ⟨List.forall_mem_nil _,bounded⟩ fun here => absurd here reply

theorem step_exact (service : DBinderService) (event : Event) (sound : Sound service) (held : Held service.serving)
    (bounded : ProtoBounded service) : Bounded service event ∧ ProtoBounded (service.step event) ↔ Met service event := by
  cases event with
  | onBytesReceived id bytes distributed =>
    unfold Bounded
    cases received : onBytesReceived bytes with
    | none =>
      obtain ⟨same,nothing⟩ := @step_ignored service _ received id distributed
      rw [same,nothing]
      refine iff_of_true ⟨List.forall_mem_nil _,bounded⟩ fun message there => ?_
      cases received.symm.trans there
    | some message =>
      obtain ⟨same,read⟩ := @step_received service _ _ received id distributed
      rw [same,read]
      exact task_exact sound bounded received id distributed
  | serving event =>
    exact iff_of_true ⟨serving_inside held event,protoBounded_congr (step_serving service event).1 bounded⟩ trivial
  | processProto stub answers => exact iff_of_true ⟨bounded stub answers,bounded⟩ trivial

end Steps

section Strings

theorem sound_new (messages : Nat → DHandleEntryTxRx) (registry : Registry) : Sound (.new messages registry) := by
  refine ⟨fun stub session found => ?_,fun id live => ?_⟩
  · cases found
  rcases live with waiting | loading | refused | answering | ⟨thread,completion,found,-⟩
  · cases waiting
  · cases loading
  · cases refused
  · cases answering
  · cases found

theorem held_new (messages : Nat → DHandleEntryTxRx) (registry : Registry) :
    Held (DBinderService.new messages registry).serving :=
  fun id live => absurd rfl ((sound_new messages registry).fresh id live)

theorem protoBounded_new (messages : Nat → DHandleEntryTxRx) (registry : Registry) : ProtoBounded (.new messages registry) :=
  (protoBounded_iff _).mpr fun stub session found => by cases found

/-- In a run every string that is read from a message ends inside its own array, and those that `ProcessProto` would read from the
sessions do, exactly if every message meets its condition. -/
theorem message_strings_bounded_iff (messages : Nat → DHandleEntryTxRx) (registry : Registry) (events : List Event) :
    (∀ front event, front ++ [event] <+: events →
      Bounded (front.foldl DBinderService.step (.new messages registry)) event ∧
        ProtoBounded ((front.foldl DBinderService.step (.new messages registry)).step event)) ↔
      Reaches (guarded (does DBinderService.step) Met) (.new messages registry) events
        (events.foldl DBinderService.step (.new messages registry)) :=
  @Reaches.guarded_iff_shown_kept_within _ _ DBinderService.step Met Bounded Sound (fun service => Held service.serving) ProtoBounded _
    (sound_new messages registry) (held_new messages registry) (protoBounded_new messages registry) sound_step held_step step_exact events

/-- A message whose device ids fill their arrays. -/
def sampleBytes (dBinderCode : UInt8) : List UInt8 :=
  [152,1,0,0,2,0,0,0,0,0,0,0,dBinderCode,0,0,0,0,0,0,0,0,0,0,0,1,0,0,0,0,0,0,0,3,0,0,0,0,0,0,0,1,0,0,0,0,0,0,0,0,0,0,0] ++
    List.replicate 65 97 ++ List.replicate 65 98 ++ [0,0,5,0,0,0,0,0,0,0,1,0,97] ++ List.replicate 213 0

def sampleService : DBinderService := .new (fun _ => decode []) ⟨(∅ : Table UInt64 UInt64).insert 5 7,[7],∅⟩

/-- The sender's device id of an invocation, and the device ids in the session made of a reply, have no end in their arrays. -/
theorem ids_without_end :
    sampleService.reads (.onBytesReceived 0 (sampleBytes 1) true) = [.string (List.replicate 65 97)] ∧
      (sampleService.step (.onBytesReceived 0 (sampleBytes 2) true)).reads (.processProto 7 ⟨1000,100,true,4⟩) =
        [.string (List.replicate 65 98),.string (List.replicate 65 97)] ∧
      (0 : UInt8) ∉ List.replicate 65 97 ∧ (0 : UInt8) ∉ List.replicate 65 98 := by
  refine ⟨?_,?_,?_,?_⟩
  · decide +kernel
  · decide +kernel
  · decide
  · decide

end Strings

end CommunicationIpc.MessageStrings
