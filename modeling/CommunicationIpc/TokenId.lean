import CommunicationIpc.Kernel.Negotiation

/-! The token of a serving stub on its way to the session of the requesting service. -/
namespace CommunicationIpc.TokenId
open CommunicationIpc.Library CommunicationIpc.Kernel.Negotiation

def servedReply (remoteObject : Bool) (answers : Answers) (message : DHandleEntryTxRx) : DHandleEntryTxRx :=
  let (filled,dBinderCode,reason) := answerLoaded remoteObject answers message
  sendReplyMessageToRemote dBinderCode reason filled

def Succeeds (remoteObject : Bool) (answers : Answers) (message : DHandleEntryTxRx) : Prop :=
  (answerLoaded remoteObject answers message).2.1 = messageAsReply

instance (remoteObject : Bool) (answers : Answers) (message : DHandleEntryTxRx) :
    Decidable (Succeeds remoteObject answers message) :=
  inferInstanceAs (Decidable (_ = _))

def Stores (registry : Registry) (reply : DHandleEntryTxRx) (session : SessionInfo) : Prop :=
  (registry.onRemoteMessageTask reply).sessionObject.lookup (registry.queryStubPtr reply.stub) = some session ∧
    registry.sessionObject.lookup (registry.queryStubPtr reply.stub) ≠ some session

theorem setReplyMessage_spec (message : DHandleEntryTxRx) (stubIndex : UInt64) {name : List UInt8} (selfTokenId : UInt32)
    (short : name.length ≤ servicenameLength) {filled : DHandleEntryTxRx} {copied : Bool}
    (set : setReplyMessage message stubIndex name selfTokenId = (filled,copied)) :
    copied = true ∧ filled.stubIndex = stubIndex ∧ filled.stub = message.stub ∧
      filled.serviceNameLength.toNat = name.length ∧ ∃ rest, filled.serviceName = name ++ 0 :: rest := by
  have length : (UInt16.ofNat name.length).toNat = name.length := by
    simp only [UInt16.toNat_ofNat',servicenameLength] at short ⊢
    omega
  have fits : ¬ servicenameLength < (UInt16.ofNat name.length).toNat := by omega
  unfold setReplyMessage at set
  simp only [fits,if_false] at set
  cases set
  refine ⟨rfl,rfl,rfl,length,(overwrite message.serviceName 0 name).drop (name.length+1),?_⟩
  simp only [length,List.take_length]
  simp [overwrite]

theorem succeeds_spec {remoteObject : Bool} {answers : Answers} {message : DHandleEntryTxRx}
    (succeeds : Succeeds remoteObject answers message) :
    ∃ rest, (servedReply remoteObject answers message).dBinderCode = messageAsReply ∧
      (servedReply remoteObject answers message).stubIndex = answers.stubIndex ∧
      (servedReply remoteObject answers message).stub = message.stub ∧
      (servedReply remoteObject answers message).serviceNameLength.toNat = answers.serverSessionName.length ∧
      answers.serverSessionName.length ≤ servicenameLength ∧
      (servedReply remoteObject answers message).serviceName = answers.serverSessionName ++ 0 :: rest := by
  have different : messageAsRemoteError ≠ messageAsReply := by decide
  unfold Succeeds at succeeds
  unfold servedReply
  rcases handled : onRemoteInvokerDataBusMessage answers message with ⟨filled,result⟩
  simp only [answerLoaded,handled] at succeeds ⊢
  split at succeeds
  · exact absurd succeeds different
  split at succeeds
  · exact absurd succeeds different
  split at succeeds
  · exact absurd succeeds different
  split at succeeds
  · exact absurd succeeds different
  rename_i present proxied databus answered
  simp only [present,proxied,databus,answered,if_false]
  have zero : result = 0 := Decidable.not_not.mp answered
  subst zero
  unfold onRemoteInvokerDataBusMessage at handled
  split at handled
  · cases handled
  split at handled
  · cases handled
  split at handled
  · cases handled
  split at handled
  · cases handled
  split at handled
  · cases handled
  rename_i legal
  have short : answers.serverSessionName.length ≤ servicenameLength := by
    simp only [checkStubIndexAndSessionNameIllegal,Bool.or_eq_true,decide_eq_true_eq,not_or] at legal
    omega
  split at handled
  · rename_i set
    cases handled
    obtain ⟨-,index,stub,length,rest,name⟩ := setReplyMessage_spec message answers.stubIndex answers.selfTokenId short set
    exact ⟨rest,rfl,index,stub,length,short,name⟩
  · cases handled

theorem stores_spec {registry : Registry} {reply : DHandleEntryTxRx} {session : SessionInfo}
    (stores : Stores registry reply session) : session = initializeSession reply ∧ isValidSessionName reply = true := by
  obtain ⟨after,before⟩ := stores
  have attached (kept : Registry) (stub : UInt64) (same : kept.sessionObject.lookup stub ≠ some session)
      (held : (kept.attachSessionObject (initializeSession reply) stub).sessionObject.lookup stub = some session) :
      session = initializeSession reply := by
    unfold Registry.attachSessionObject at held
    split at held
    · exact absurd held same
    · simp only [AList.lookup_insert,Option.some.injEq] at held
      exact held.symm
  unfold Registry.onRemoteMessageTask at after
  split at after
  · unfold Registry.makeSessionByReplyMessage at after
    split at after
    · exact absurd after before
    split at after
    · exact absurd after before
    rename_i valid
    refine ⟨?_,by simpa using valid⟩
    simp only at after
    split at after
    · exact absurd after before
    split at after
    · exact attached registry _ before after
    split at after
    · exact absurd after before
    split at after
    · refine attached (registry.detachSessionObject _) _ ?_ after
      rw [Registry.detachSessionObject,AList.lookup_erase]
      simp
    · exact attached registry _ before after
  · exact absurd after before

/-- The stored session carries the token of the serving stub, where the requester understands
tokens, with the stub's index and session name. -/
def Carries (message : DHandleEntryTxRx) (answers : Answers) (session : SessionInfo) : Prop :=
  session.deviceIdInfo.tokenId = (if rpcTokenidSupportVersion ≤ message.version then answers.selfTokenId else 0) ∧
    session.stubIndex = answers.stubIndex ∧ session.serviceName = answers.serverSessionName

/-- Index and name always arrive. The token arrives as 0, since the reply is sent as
`MESSAGE_AS_REPLY` whatever `SetReplyMessage` chose. -/
theorem token_carried_iff {remoteObject : Bool} {answers : Answers} {message : DHandleEntryTxRx} {registry : Registry}
    {session : SessionInfo} (succeeds : Succeeds remoteObject answers message)
    (stores : Stores registry (servedReply remoteObject answers message) session) :
    Carries message answers session ↔ (rpcTokenidSupportVersion ≤ message.version → answers.selfTokenId = 0) := by
  obtain ⟨rest,code,index,-,length,short,name⟩ := succeeds_spec succeeds
  obtain ⟨rfl,valid⟩ := stores_spec stores
  have whole : cString answers.serverSessionName = answers.serverSessionName := by
    have front : (answers.serverSessionName ++ 0 :: rest).take (servicenameLength+1) =
        answers.serverSessionName ++ 0 :: rest.take (servicenameLength-answers.serverSessionName.length) := by
      rw [List.take_append,List.take_of_length_le (by omega),Nat.sub_add_comm short,List.take_succ_cons]
    simp only [isValidSessionName,name,front,cString_append_zero,length,Bool.and_eq_true,decide_eq_true_eq] at valid
    exact cString_eq_self valid.2
  have token : (initializeSession (servedReply remoteObject answers message)).deviceIdInfo.tokenId = 0 := by
    simp only [initializeSession,code,if_true]
  have sessionName : (initializeSession (servedReply remoteObject answers message)).serviceName = answers.serverSessionName := by
    simp only [initializeSession,name,cString_append_zero,whole]
  rw [Carries,token,sessionName]
  constructor
  · rintro ⟨same,-⟩ understood
    rw [if_pos understood] at same
    exact same.symm
  · intro none
    refine ⟨?_,index,rfl⟩
    split
    · rename_i understood
      exact (none understood).symm
    · rfl

theorem stores_first {registry : Registry} {reply : DHandleEntryTxRx} (code : reply.dBinderCode = messageAsReply)
    (registered : registry.queryStubPtr reply.stub ∈ registry.dBinderStubRegisted)
    (valid : isValidSessionName reply = true) (nonzero : reply.stubIndex ≠ 0)
    (first : registry.sessionObject.lookup (registry.queryStubPtr reply.stub) = none) :
    Stores registry reply (initializeSession reply) := by
  have made : registry.onRemoteMessageTask reply =
      { registry with
        sessionObject := registry.sessionObject.insert (registry.queryStubPtr reply.stub) (initializeSession reply) } := by
    have known : registry.isInvalidStub reply = false := by simpa [Registry.isInvalidStub] using registered
    have index : (initializeSession reply).stubIndex ≠ 0 := nonzero
    simp only [Registry.onRemoteMessageTask,Registry.makeSessionByReplyMessage,code,known,valid,index,first,
      Registry.attachSessionObject,true_or,if_true,Bool.false_eq_true,if_false,not_true_eq_false]
  rw [Stores,made,first,AList.lookup_insert]
  exact ⟨rfl,by simp⟩

def sampleRequest (version : UInt32) : DHandleEntryTxRx where
  version := version
  transType := databusType
  dBinderCode := messageAsInvoker
  fromPort := 0
  toPort := 0
  stubIndex := 1234
  seqNumber := 11
  binderObject := 1234
  deviceIdInfo := ⟨77,[65,66,0],[67,68,0]⟩
  stub := 5
  serviceNameLength := 0
  serviceName := List.replicate (servicenameLength+1) 0
  pid := 100
  uid := 200

def sampleAnswers : Answers := ⟨false,true,[68],true,true,7,[68,66],300⟩

def sampleRegistry : Registry := ⟨(∅ : Table UInt64 UInt64).insert 5 80,[80],∅⟩

private theorem sample_stores (version : UInt32) (succeeds : Succeeds true sampleAnswers (sampleRequest version))
    (valid : isValidSessionName (servedReply true sampleAnswers (sampleRequest version)) = true) :
    Stores sampleRegistry (servedReply true sampleAnswers (sampleRequest version))
      (initializeSession (servedReply true sampleAnswers (sampleRequest version))) := by
  obtain ⟨rest,code,index,stub,-⟩ := succeeds_spec succeeds
  apply stores_first code _ valid
  · rw [index]
    decide
  · rw [stub]
    rfl
  · rw [stub]
    change sampleRegistry.queryStubPtr 5 ∈ sampleRegistry.dBinderStubRegisted
    decide +kernel

theorem token_carried_iff_sample :
    Carries (sampleRequest 1) sampleAnswers (initializeSession (servedReply true sampleAnswers (sampleRequest 1))) :=
  (token_carried_iff (by decide +kernel) (sample_stores 1 (by decide +kernel) (by decide +kernel))).mpr (by decide)

/-- A requester that understands tokens stores 0 for a stub whose token is 300. -/
theorem token_lost :
    Succeeds true sampleAnswers (sampleRequest 2) ∧
      Stores sampleRegistry (servedReply true sampleAnswers (sampleRequest 2))
        (initializeSession (servedReply true sampleAnswers (sampleRequest 2))) ∧
      (initializeSession (servedReply true sampleAnswers (sampleRequest 2))).deviceIdInfo.tokenId = 0 ∧
      ¬ Carries (sampleRequest 2) sampleAnswers (initializeSession (servedReply true sampleAnswers (sampleRequest 2))) := by
  refine ⟨by decide +kernel,sample_stores 2 (by decide +kernel) (by decide +kernel),by decide +kernel,?_⟩
  intro holds
  obtain ⟨token,-⟩ := holds
  exact absurd token (by decide +kernel)

end CommunicationIpc.TokenId
