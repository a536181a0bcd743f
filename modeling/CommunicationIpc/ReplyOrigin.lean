import CommunicationIpc.ServiceSteps

/-! What a message has to name before it stores a session or wakes a waiting call. -/
namespace CommunicationIpc.ReplyOrigin
open CommunicationIpc.Library CommunicationIpc.Kernel.Negotiation CommunicationIpc.Kernel.Service CommunicationIpc.ServiceSteps

def IsReply (message : DHandleEntryTxRx) : Prop :=
  message.dBinderCode = messageAsReply ∨ message.dBinderCode = messageAsReplyTokenid

section Trace
variable (host : Host) (moves : List (Pool.Move Choice))

/-- The message arrived, on whatever socket. -/
def Received (message : DHandleEntryTxRx) : Prop := ∃ i device, (i,Choice.onBytesReceived device message) ∈ moves

/-- A reply or an error with this sequence number arrived. -/
def Answered (seqNumber : UInt32) : Prop :=
  ∃ message, Received moves message ∧ (IsReply message ∨ message.dBinderCode = messageAsRemoteError) ∧
    message.seqNumber = seqNumber

/-- The reply looked its tag up, as it does just before it attaches its session, and the tag stood for the stub then. -/
def LookedUp (message : DHandleEntryTxRx) (stub : UInt64) : Prop :=
  ∃ before i after pool, moves = before ++ (i,.go) :: after ∧
    Reaches (fires (Pool.step (advance host))) started before pool ∧ pool.tasks i = .reply message .attachTag ∧
    pool.shared.registry.mapDBinderStubRegisters.lookup message.stub = some stub

/-- The session comes from a reply that arrived and found the stub under the tag it names. -/
def Stored (stub : UInt64) (session : SessionInfo) : Prop :=
  ∃ message, Received moves message ∧ IsReply message ∧ session = initializeSession message ∧
    isValidSessionName message = true ∧ message.stubIndex ≠ 0 ∧ LookedUp host moves message stub

end Trace

section Growth
variable {host : Host} {moves : List (Pool.Move Choice)}

theorem Received.snoc {message : DHandleEntryTxRx} (received : Received moves message) (move : Pool.Move Choice) :
    Received (moves ++ [move]) message := by
  obtain ⟨i,device,member⟩ := received
  exact ⟨i,device,List.mem_append_left _ member⟩

theorem Answered.snoc {seqNumber : UInt32} (answered : Answered moves seqNumber) (move : Pool.Move Choice) :
    Answered (moves ++ [move]) seqNumber := by
  obtain ⟨message,received,kind,number⟩ := answered
  exact ⟨message,received.snoc move,kind,number⟩

theorem LookedUp.snoc {message : DHandleEntryTxRx} {stub : UInt64} (found : LookedUp host moves message stub)
    (move : Pool.Move Choice) : LookedUp host (moves ++ [move]) message stub := by
  obtain ⟨before,i,after,pool,rfl,run,looking,known⟩ := found
  exact ⟨before,i,after ++ [move],pool,by simp,run,looking,known⟩

theorem Stored.snoc {stub : UInt64} {session : SessionInfo} (stored : Stored host moves stub session)
    (move : Pool.Move Choice) : Stored host (moves ++ [move]) stub session := by
  obtain ⟨message,received,reply,made,name,index,found⟩ := stored
  exact ⟨message,received.snoc move,reply,made,name,index,found.snoc move⟩

end Growth

/-- The lock was made for this sequence number. -/
def Held (shared : Shared) (lock : Nat) (seqNumber : UInt32) : Prop :=
  lock < shared.lockCount ∧ (shared.locks lock).attached = seqNumber

/-- What the shared state owes to the messages that have arrived. -/
structure Founded (host : Host) (moves : List (Pool.Move Choice)) (shared : Shared) : Prop where
  nonzero : (0 : UInt64) ∉ shared.registry.dBinderStubRegisted
  table : ∀ seqNumber lock, shared.threadLockInfo.lookup seqNumber = some lock → Held shared lock seqNumber
  ready : ∀ lock, (shared.locks lock).ready = true → Answered moves (shared.locks lock).attached
  sessions : ∀ stub session, stub ≠ 0 → shared.registry.sessionObject.lookup stub = some session →
    Stored host moves stub session

/-- What a reply has found out so far. -/
def Checked (host : Host) (moves : List (Pool.Move Choice)) (message : DHandleEntryTxRx) : ReplyPc → Prop
  | .checkTag | .checkStub _ => True
  | .attachSession stub => isValidSessionName message = true ∧ message.stubIndex ≠ 0 ∧
      (stub ≠ 0 → LookedUp host moves message stub)
  | _ => isValidSessionName message = true ∧ message.stubIndex ≠ 0

def Justified (host : Host) (moves : List (Pool.Move Choice)) (shared : Shared) : Task → Prop
  | .make _ (.createMessage attempt lock) | .make _ (.sendDataToRemote attempt lock _) | .make _ (.waitReply attempt lock) =>
    Held shared lock attempt.seqNum
  | .reply message pc => Received moves message ∧ IsReply message ∧ Checked host moves message pc
  | .wake seqNumber (.ready lock) => Answered moves seqNumber ∧ Held shared lock seqNumber
  | .wake seqNumber _ => Answered moves seqNumber
  | _ => True

section Steps
variable {host : Host} {moves : List (Pool.Move Choice)} {shared after : Shared}

theorem Founded.snoc (founded : Founded host moves shared) (move : Pool.Move Choice) : Founded host (moves ++ [move]) shared where
  nonzero := founded.nonzero
  table := founded.table
  ready := fun lock ready => (founded.ready lock ready).snoc move
  sessions := fun stub session nonzero found => (founded.sessions stub session nonzero found).snoc move

theorem Checked.snoc {message : DHandleEntryTxRx} {pc : ReplyPc} (checked : Checked host moves message pc)
    (move : Pool.Move Choice) : Checked host (moves ++ [move]) message pc := by
  cases pc with
  | attachSession stub => exact ⟨checked.1,checked.2.1,fun nonzero => (checked.2.2 nonzero).snoc move⟩
  | _ => exact checked

/-- Assertions about other tasks only need that locks keep their number. -/
theorem Justified.snoc {task : Task} (justified : Justified host moves shared task)
    (locks : ∀ lock seqNumber, Held shared lock seqNumber → Held after lock seqNumber) (move : Pool.Move Choice) :
    Justified host (moves ++ [move]) after task := by
  cases task with
  | make call pc =>
    cases pc with
    | createMessage attempt lock => exact locks lock attempt.seqNum justified
    | sendDataToRemote attempt lock message => exact locks lock attempt.seqNum justified
    | waitReply attempt lock => exact locks lock attempt.seqNum justified
    | _ => trivial
  | reply message pc =>
    obtain ⟨received,reply,checked⟩ := justified
    exact ⟨received.snoc move,reply,checked.snoc move⟩
  | wake seqNumber pc =>
    cases pc with
    | ready lock =>
      obtain ⟨answered,held⟩ := justified
      exact ⟨answered.snoc move,locks lock seqNumber held⟩
    | query => exact Answered.snoc justified move
    | detach => exact Answered.snoc justified move
  | _ => trivial

theorem Founded.detachThreadLockInfo (founded : Founded host moves shared) (seqNumber : UInt32) :
    Founded host moves (shared.detachThreadLockInfo seqNumber) where
  nonzero := founded.nonzero
  table := by
    intro other lock found
    refine founded.table other lock ?_
    change (shared.threadLockInfo.erase seqNumber).lookup other = some lock at found
    by_cases same : other = seqNumber
    · rw [same,AList.lookup_erase] at found
      cases found
    · rwa [AList.lookup_erase_ne same] at found
  ready := founded.ready
  sessions := founded.sessions

theorem held_setReady {lock other : Nat} {ready : Bool} {seqNumber : UInt32} (held : Held shared other seqNumber) :
    Held (shared.setReady lock ready) other seqNumber := by
  refine ⟨held.1,?_⟩
  simp only [Shared.setReady]
  split <;> exact held.2

theorem Founded.setReady (founded : Founded host moves shared) {lock : Nat} {ready : Bool}
    (reason : ready = true → Answered moves (shared.locks lock).attached) :
    Founded host moves (shared.setReady lock ready) where
  nonzero := founded.nonzero
  table := fun seqNumber other found => held_setReady (founded.table seqNumber other found)
  ready := by
    intro other woken
    simp only [Shared.setReady] at woken ⊢
    split at woken
    · rename_i same
      rw [if_pos same,same]
      exact reason woken
    · rename_i apart
      rw [if_neg apart]
      exact founded.ready other woken
  sessions := founded.sessions

theorem Founded.detachSessionObject (founded : Founded host moves shared) (stub : UInt64) :
    Founded host moves (shared.detachSessionObject stub) where
  nonzero := founded.nonzero
  table := founded.table
  ready := founded.ready
  sessions := by
    intro other session nonzero found
    refine founded.sessions other session nonzero ?_
    change (shared.registry.sessionObject.erase stub).lookup other = some session at found
    by_cases same : other = stub
    · rw [same,AList.lookup_erase] at found
      cases found
    · rwa [AList.lookup_erase_ne same] at found

theorem Founded.attachSessionObject (founded : Founded host moves shared) {session : SessionInfo} {stub : UInt64}
    (reason : stub ≠ 0 → Stored host moves stub session) : Founded host moves (shared.attachSessionObject session stub) := by
  unfold Shared.attachSessionObject Registry.attachSessionObject
  split
  · exact ⟨founded.nonzero,founded.table,founded.ready,founded.sessions⟩
  · refine ⟨founded.nonzero,founded.table,founded.ready,?_⟩
    intro other stored nonzero found
    dsimp only at found
    by_cases same : other = stub
    · subst same
      rw [AList.lookup_insert] at found
      cases found
      exact reason nonzero
    · rw [AList.lookup_insert_ne same] at found
      exact founded.sessions other stored nonzero found

/-- The registry may lose stubs and get tags; the rest stays. -/
theorem Founded.of_registry (founded : Founded host moves shared) {registry : Registry} {stubTagNum : UInt64}
    (fewer : ∀ stub ∈ registry.dBinderStubRegisted, stub ∈ shared.registry.dBinderStubRegisted)
    (same : registry.sessionObject = shared.registry.sessionObject) :
    Founded host moves { shared with registry := registry, stubTagNum := stubTagNum } where
  nonzero := fun member => founded.nonzero (fewer 0 member)
  table := founded.table
  ready := founded.ready
  sessions := by
    intro stub session nonzero found
    rw [same] at found
    exact founded.sessions stub session nonzero found

theorem Founded.addStubByTag (founded : Founded host moves shared) (stub : UInt64) :
    Founded host moves (shared.addStubByTag stub).1 ∧
      ∀ lock seqNumber, Held shared lock seqNumber → Held (shared.addStubByTag stub).1 lock seqNumber := by
  unfold Shared.addStubByTag
  split
  · exact ⟨founded,fun _ _ held => held⟩
  · dsimp only
    split
    · exact ⟨founded.of_registry (fun _ member => member) rfl,fun _ _ held => held⟩
    · exact ⟨founded.of_registry (fun _ member => member) rfl,fun _ _ held => held⟩

theorem foldl_eraseStub_subset (registry : Registry) (stubs : List UInt64) :
    (∀ stub ∈ (stubs.foldl Shared.eraseStub registry).dBinderStubRegisted, stub ∈ registry.dBinderStubRegisted) ∧
      (stubs.foldl Shared.eraseStub registry).sessionObject = registry.sessionObject := by
  induction stubs generalizing registry with
  | nil => exact ⟨fun _ member => member,rfl⟩
  | cons stub stubs ih =>
    obtain ⟨subset,same⟩ := ih (Shared.eraseStub registry stub)
    exact ⟨fun other member => List.mem_of_mem_erase (subset other member),same⟩

theorem Founded.attachThreadLockInfo (founded : Founded host moves shared) {attempt : Attempt} {networkId : List UInt8} :
    Founded host moves { shared with
      locks := fun i => if i = shared.lockCount then ⟨false,networkId,attempt.seqNum⟩ else shared.locks i,
      lockCount := shared.lockCount+1,
      threadLockInfo := shared.threadLockInfo.insert attempt.seqNum shared.lockCount } where
  nonzero := founded.nonzero
  table := by
    intro seqNumber lock found
    dsimp only [Held] at found ⊢
    by_cases same : seqNumber = attempt.seqNum
    · subst same
      rw [AList.lookup_insert] at found
      cases found
      exact ⟨Nat.lt_succ_self _,by rw [if_pos rfl]⟩
    · rw [AList.lookup_insert_ne same] at found
      obtain ⟨bound,number⟩ := founded.table seqNumber lock found
      exact ⟨Nat.lt_succ_of_lt bound,by rw [if_neg (Nat.ne_of_lt bound)]; exact number⟩
  ready := by
    intro lock woken
    dsimp only at woken ⊢
    split at woken
    · cases woken
    · rename_i old
      rw [if_neg old]
      exact founded.ready lock woken
  sessions := founded.sessions

/-- A step keeps what is founded, justifies its own task and leaves the numbers of locks alone. -/
structure Kept (host : Host) (moves : List (Pool.Move Choice)) (shared : Shared) (result : Shared × Task) : Prop where
  founded : Founded host moves result.1
  justified : Justified host moves result.1 result.2
  locks : ∀ lock seqNumber, Held shared lock seqNumber → Held result.1 lock seqNumber

theorem kept_of_makeStep {call : Call} {pc : MakePc} {choice : Choice} {result : Shared × Task}
    (founded : Founded host moves shared) (justified : Justified host moves shared (.make call pc))
    (step : MakeStep host shared call pc choice result) : Kept host moves shared result := by
  have quiet : ∀ lock seqNumber, Held shared lock seqNumber → Held shared lock seqNumber := fun _ _ held => held
  cases step with
  | made missing nonzero fresh =>
    refine ⟨⟨?_,founded.table,founded.ready,founded.sessions⟩,trivial,quiet⟩
    intro member
    rcases List.mem_append.mp member with old | new
    · exact founded.nonzero old
    · exact nonzero (List.mem_singleton.mp new).symm
  | attached free =>
    refine ⟨founded.attachThreadLockInfo,⟨Nat.lt_succ_self _,?_⟩,?_⟩
    · dsimp only
      rw [if_pos rfl]
    · intro lock seqNumber held
      exact ⟨Nat.lt_succ_of_lt held.1,by dsimp only; rw [if_neg (Nat.ne_of_lt held.1)]; exact held.2⟩
  | @created attempt lock tagged message done =>
    have same := createMessage_shared done
    obtain ⟨kept,locks⟩ := founded.addStubByTag attempt.stub
    rw [← same] at kept locks
    exact ⟨kept,locks lock attempt.seqNum justified,locks⟩
  | sent attempt lock message =>
    exact ⟨⟨founded.nonzero,founded.table,founded.ready,founded.sessions⟩,justified,quiet⟩
  | unlocked attempt => exact ⟨founded.detachThreadLockInfo attempt.seqNum,trivial,quiet⟩
  | @joined attempt count lock known => exact ⟨founded,founded.table attempt.seqNum lock known,quiet⟩
  | expiredDetached attempt lock => exact ⟨founded.detachThreadLockInfo attempt.seqNum,trivial,quiet⟩
  | expiredReady attempt lock =>
    exact ⟨founded.setReady (fun impossible => nomatch impossible),trivial,fun _ _ held => held_setReady held⟩
  | deleted attempt =>
    refine ⟨?_,trivial,?_⟩
    · simp only [Shared.deleteDBinderStub]
      split
      · exact founded
      · exact founded.of_registry (fun _ member => List.mem_of_mem_erase member) rfl
    · simp only [Shared.deleteDBinderStub]
      split <;> exact quiet
  | detached attempt => exact ⟨founded.detachSessionObject attempt.stub,trivial,quiet⟩
  | _ => exact ⟨⟨founded.nonzero,founded.table,founded.ready,founded.sessions⟩,trivial,quiet⟩

theorem kept_of_advanceReply {message : DHandleEntryTxRx} {pc : ReplyPc} (founded : Founded host moves shared)
    (justified : Justified host moves shared (.reply message pc))
    (current : pc = .attachTag → ∀ stub, stub ≠ 0 → shared.registry.queryStubPtr message.stub = stub →
      LookedUp host moves message stub) :
    Kept host moves shared (advanceReply shared message pc) := by
  obtain ⟨received,reply,checked⟩ := justified
  have answered : Answered moves message.seqNumber := ⟨message,received,.inl reply,rfl⟩
  have quiet : ∀ lock seqNumber, Held shared lock seqNumber → Held shared lock seqNumber := fun _ _ held => held
  cases pc with
  | checkTag => exact ⟨founded,⟨received,reply,trivial⟩,quiet⟩
  | checkStub stub =>
    simp only [advanceReply]
    split
    · exact ⟨founded,answered,quiet⟩
    · rename_i passes
      simp only [not_or,Decidable.not_not] at passes
      exact ⟨founded,⟨received,reply,passes.2⟩,quiet⟩
  | queryTag => exact ⟨founded,⟨received,reply,checked⟩,quiet⟩
  | querySession stub =>
    simp only [advanceReply]
    split
    · exact ⟨founded,⟨received,reply,checked⟩,quiet⟩
    · split
      · exact ⟨founded,answered,quiet⟩
      · split
        · exact ⟨founded,⟨received,reply,checked⟩,quiet⟩
        · exact ⟨founded,⟨received,reply,checked⟩,quiet⟩
  | detachTag => exact ⟨founded,⟨received,reply,checked⟩,quiet⟩
  | detachSession stub => exact ⟨founded.detachSessionObject stub,⟨received,reply,checked⟩,quiet⟩
  | attachTag => exact ⟨founded,⟨received,reply,checked.1,checked.2,fun nonzero => current rfl _ nonzero rfl⟩,quiet⟩
  | attachSession stub =>
    obtain ⟨name,index,found⟩ := checked
    refine ⟨founded.attachSessionObject ?_,answered,quiet⟩
    intro nonzero
    exact ⟨message,received,reply,rfl,name,index,found nonzero⟩

theorem kept_of_advanceWake {seqNumber : UInt32} {pc : WakePc} (founded : Founded host moves shared)
    (justified : Justified host moves shared (.wake seqNumber pc)) :
    Kept host moves shared (advanceWake shared seqNumber pc) := by
  cases pc with
  | query =>
    simp only [advanceWake]
    split
    · rename_i lock found
      exact ⟨founded,⟨justified,founded.table seqNumber lock found⟩,fun _ _ held => held⟩
    · exact ⟨founded,justified,fun _ _ held => held⟩
  | ready lock =>
    obtain ⟨answered,held⟩ := justified
    exact ⟨founded.setReady (fun _ => held.2 ▸ answered),answered,fun _ _ other => held_setReady other⟩
  | detach => exact ⟨founded.detachThreadLockInfo seqNumber,trivial,fun _ _ held => held⟩

theorem kept_of_noticeStep {device : List UInt8} {services : List (List UInt16)} {pc : NoticePc} {result : Shared × Task}
    (founded : Founded host moves shared) (step : NoticeStep shared device services pc result) : Kept host moves shared result := by
  have quiet : ∀ lock seqNumber, Held shared lock seqNumber → Held shared lock seqNumber := fun _ _ held => held
  cases step with
  | locks | ends => exact ⟨⟨founded.nonzero,founded.table,founded.ready,founded.sessions⟩,trivial,quiet⟩
  | skips | finds | detached => exact ⟨founded,trivial,quiet⟩
  | detaches => exact ⟨founded.detachSessionObject _,trivial,quiet⟩
  | deletes service =>
    obtain ⟨subset,same⟩ := foldl_eraseStub_subset shared.registry (shared.findDBinderStub service device)
    exact ⟨founded.of_registry subset same,trivial,quiet⟩

theorem kept_of_spawnStep {i : Nat} {choice : Choice} {result : Shared × Task} (founded : Founded host moves shared)
    (step : SpawnStep shared choice result) (member : (i,choice) ∈ moves) : Kept host moves shared result := by
  have quiet : ∀ lock seqNumber, Held shared lock seqNumber → Held shared lock seqNumber := fun _ _ held => held
  cases step with
  | @replies device message reply => exact ⟨founded,⟨⟨i,device,member⟩,reply,trivial⟩,quiet⟩
  | @wakes device message error => exact ⟨founded,⟨message,⟨i,device,member⟩,.inr error,rfl⟩,quiet⟩
  | clears => exact ⟨⟨founded.nonzero,founded.table,founded.ready,founded.sessions⟩,trivial,quiet⟩
  | refuses | makes | ignores | notices | noticesDevice | closes => exact ⟨founded,trivial,quiet⟩

theorem lookup_foldl_erase (entries : List (Sigma fun _ : UInt32 => Nat)) (table : Table UInt32 Nat) {seqNumber : UInt32}
    {lock : Nat} (found : (entries.foldl (fun table entry => table.erase entry.1) table).lookup seqNumber = some lock) :
    table.lookup seqNumber = some lock := by
  induction entries generalizing table with
  | nil => exact found
  | cons entry entries ih =>
    have later := ih (table.erase entry.1) found
    by_cases same : seqNumber = entry.1
    · rw [same,AList.lookup_erase] at later
      cases later
    · rwa [AList.lookup_erase_ne same] at later

theorem kept_of_advance {pool : Pool Shared Task} {move : Pool.Move Choice} {result : Shared × Task}
    (run : Reaches (fires (Pool.step (advance host))) started moves pool) (founded : Founded host moves pool.shared)
    (each : ∀ i, Justified host moves pool.shared (pool.tasks i))
    (advanced : advance host pool.shared (pool.tasks move.1) move.2 = some result) :
    Kept host (moves ++ [move]) pool.shared result := by
  have grown := founded.snoc move
  have justified := (each move.1).snoc (fun _ _ held => held) move
  have quiet : ∀ lock seqNumber, Held pool.shared lock seqNumber → Held pool.shared lock seqNumber := fun _ _ held => held
  generalize own : pool.tasks move.1 = task at advanced justified
  cases task with
  | idle => exact kept_of_spawnStep grown (spawnStep_of_spawn advanced) (List.mem_append_right _ (List.mem_singleton_self move))
  | make call pc => exact kept_of_makeStep grown justified (makeStep_of_advance advanced)
  | reply message pc =>
    simp only [advance,onGo_eq_some,Option.some.injEq] at advanced
    obtain ⟨go,advanced⟩ := advanced
    rw [← advanced]
    refine kept_of_advanceReply grown justified ?_
    intro here stub nonzero query
    subst here
    have taken : move = (move.1,.go) := Prod.ext rfl go
    refine ⟨moves,move.1,[],pool,by rw [← taken],run,own,?_⟩
    unfold Registry.queryStubPtr at query
    cases known : pool.shared.registry.mapDBinderStubRegisters.lookup message.stub with
    | none =>
      rw [known] at query
      exact absurd query.symm nonzero
    | some target =>
      rw [known] at query
      rw [← query]
      rfl
  | wake seqNumber pc =>
    simp only [advance,onGo_eq_some,Option.some.injEq] at advanced
    obtain ⟨-,advanced⟩ := advanced
    rw [← advanced]
    exact kept_of_advanceWake grown justified
  | noticeDevice device =>
    simp only [advance] at advanced
    split at advanced <;> obtain ⟨-,made⟩ := onGo_eq_some.mp advanced <;> cases made <;> exact ⟨grown,trivial,quiet⟩
  | notice device services pc => exact kept_of_noticeStep grown (noticeStep_of_advance (onGo_eq_some.mp advanced).2)
  | closed networkId =>
    obtain ⟨-,made⟩ := onGo_eq_some.mp advanced
    cases made
    refine ⟨⟨grown.nonzero,?_,grown.ready,grown.sessions⟩,trivial,quiet⟩
    intro seqNumber lock found
    exact grown.table seqNumber lock (lookup_foldl_erase _ _ found)
  | clear locks =>
    cases locks with
    | nil =>
      obtain ⟨-,made⟩ := onGo_eq_some.mp advanced
      cases made
      exact ⟨grown,trivial,quiet⟩
    | cons lock locks =>
      obtain ⟨-,made⟩ := onGo_eq_some.mp advanced
      cases made
      exact ⟨grown.setReady (fun impossible => nomatch impossible),trivial,fun _ _ held => held_setReady held⟩
  | returned result => cases advanced
  | finished => cases advanced

theorem founded_of_run {pool : Pool Shared Task} (run : Reaches (fires (Pool.step (advance host))) started moves pool) :
    Founded host moves pool.shared ∧ ∀ i, Justified host moves pool.shared (pool.tasks i) := by
  induction run with
  | nil =>
    refine ⟨⟨List.not_mem_nil,?_,?_,?_⟩,fun _ => trivial⟩
    · intro seqNumber lock found
      cases found
    · intro lock ready
      cases ready
    · intro stub session _ found
      cases found
  | @snoc moves before later move run taken ih =>
    obtain ⟨result,advanced,shared,own,others⟩ := Pool.step_cases taken
    have kept := kept_of_advance run ih.1 ih.2 advanced
    rw [shared]
    refine ⟨kept.founded,?_⟩
    intro i
    by_cases same : i = move.1
    · rw [same,own]
      exact kept.justified
    · rw [others i same]
      exact (ih.2 i).snoc kept.locks move

end Steps

/-- A session of a registered stub comes from a reply that found it under the tag it names, and a call is woken as answered
by a reply or an error that named its sequence number. No device is compared with another. -/
theorem session_and_wake_origin (host : Host) {moves : List (Pool.Move Choice)} {pool : Pool Shared Task}
    (run : Reaches (fires (Pool.step (advance host))) started moves pool) :
    (∀ stub session, stub ∈ pool.shared.registry.dBinderStubRegisted →
      pool.shared.registry.sessionObject.lookup stub = some session → Stored host moves stub session) ∧
    ∀ i call attempt lock, pool.tasks i = .make call (.waitReply attempt lock) → (pool.shared.locks lock).ready = true →
      Answered moves attempt.seqNum := by
  obtain ⟨founded,each⟩ := founded_of_run run
  refine ⟨?_,?_⟩
  · intro stub session registered found
    refine founded.sessions stub session ?_ found
    intro zero
    exact founded.nonzero (zero ▸ registered)
  · intro i call attempt lock task ready
    have held := each i
    rw [task] at held
    exact held.2 ▸ founded.ready lock ready

/-- The call of `sampleRequest 0` still waits, and has been woken. -/
def woken (pool : Pool Shared Task) : Bool :=
  match pool.tasks 0 with
  | .make _ (.waitReply attempt lock) => attempt.seqNum = 1 && (pool.shared.locks lock).ready
  | _ => false

def messageRun (device : List UInt8) (message : DHandleEntryTxRx) (sections : Nat) : List (Pool.Move Choice) :=
  sampleRequest 0 ++ (1,.onBytesReceived device message) :: List.replicate sections (1,.go)

theorem session_and_wake_origin_sample :
    ∃ pool, Reaches (fires (Pool.step (advance sampleHost))) started (messageRun [66] (sampleReply 1 40) 9) pool ∧
      (pool.shared.registry.sessionObject.lookup 7).isSome ∧
      Stored sampleHost (messageRun [66] (sampleReply 1 40) 9) 7 (initializeSession (sampleReply 1 40)) := by
  obtain ⟨pool,run,final⟩ := Reaches.exists_of_foldlM (Pool.step (advance sampleHost)) started
    (messageRun [66] (sampleReply 1 40) 9) (fun pool => decide (7 ∈ pool.shared.registry.dBinderStubRegisted) &&
      decide (pool.shared.registry.sessionObject.lookup 7 = some (initializeSession (sampleReply 1 40)))) (by decide +kernel)
  simp only [Bool.and_eq_true,decide_eq_true_eq] at final
  refine ⟨pool,run,?_,(session_and_wake_origin sampleHost run).1 7 _ final.1 final.2⟩
  rw [final.2]
  rfl

/-- The stub is one of device B and its request has number 1 and tag 1. A reply from device C stores a session
and wakes the call, so does a reply with another number store one, and a reply with another tag wakes the call. -/
theorem foreign_reply_accepted :
    (∃ pool, Reaches (fires (Pool.step (advance sampleHost))) started (messageRun [67] (sampleReply 1 40) 9) pool ∧
      (pool.shared.stubs 7).deviceID = [66] ∧ woken pool = true ∧
      pool.shared.registry.sessionObject.lookup 7 = some (initializeSession (sampleReply 1 40))) ∧
    (∃ pool, Reaches (fires (Pool.step (advance sampleHost))) started (messageRun [66] (sampleReply 9 40) 8) pool ∧
      pool.shared.registry.sessionObject.lookup 7 = some (initializeSession (sampleReply 9 40))) ∧
    ∃ pool, Reaches (fires (Pool.step (advance sampleHost))) started
      (messageRun [66] { sampleReply 1 40 with stub := 5 } 5) pool ∧ woken pool = true := by
  refine ⟨?_,?_,?_⟩
  · obtain ⟨pool,run,final⟩ := Reaches.exists_of_foldlM (Pool.step (advance sampleHost)) started
      (messageRun [67] (sampleReply 1 40) 9) (fun pool => decide ((pool.shared.stubs 7).deviceID = [66]) && woken pool &&
        decide (pool.shared.registry.sessionObject.lookup 7 = some (initializeSession (sampleReply 1 40)))) (by decide +kernel)
    simp only [Bool.and_eq_true,decide_eq_true_eq] at final
    exact ⟨pool,run,final.1.1,final.1.2,final.2⟩
  · obtain ⟨pool,run,final⟩ := Reaches.exists_of_foldlM (Pool.step (advance sampleHost)) started
      (messageRun [66] (sampleReply 9 40) 8)
      (fun pool => decide (pool.shared.registry.sessionObject.lookup 7 = some (initializeSession (sampleReply 9 40))))
      (by decide +kernel)
    exact ⟨pool,run,of_decide_eq_true final⟩
  · exact Reaches.exists_of_foldlM (Pool.step (advance sampleHost)) started
      (messageRun [66] { sampleReply 1 40 with stub := 5 } 5) woken (by decide +kernel)

end CommunicationIpc.ReplyOrigin
