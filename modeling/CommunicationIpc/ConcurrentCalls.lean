import CommunicationIpc.ReplyOrigin

/-! When `MakeRemoteBinder` calls for one stub that run at the same time return the same stub. -/
namespace CommunicationIpc.ConcurrentCalls
open CommunicationIpc.Library CommunicationIpc.Kernel.Negotiation CommunicationIpc.Kernel.Service
open CommunicationIpc.ServiceSteps CommunicationIpc.ReplyOrigin

/-- The call asks for the same stub. -/
def Fits (target call : Call) : Prop :=
  call.serviceName = target.serviceName ∧ call.deviceID = target.deviceID ∧ call.pid = target.pid ∧ call.uid = target.uid

/-- A successful reply to the request. -/
def Answers (request message : DHandleEntryTxRx) : Prop :=
  IsReply message ∧ message.stub = request.stub ∧ message.seqNumber = request.seqNumber ∧
    isValidSessionName message = true ∧ message.stubIndex ≠ 0

/-- Only these calls come in, every message that arrives answers a request, requests can be sent, and none times out. -/
def Peaceful (target : Call) (shared : Shared) (task : Task) (choice : Choice) : Prop :=
  match task,choice with
  | .idle,.makeRemoteBinder call => Fits target call
  | .idle,.onBytesReceived _ message => ∃ request ∈ shared.sent, Answers request.2 message
  | .idle,.processOnSessionClosed _ => True
  | .idle,_ => False
  | .make _ (.sendDataToRemote _ _ _),.sent success => success = true
  | .make _ (.waitReply _ _),.timeout => False
  | _,_ => True

/-- A call that found its stub looks at the status after the first call has set it. Where the status is not yet NEGO_FINISHED as
its last look begins, the lock is there; and no session closes under a waiting call. -/
def Timely (shared : Shared) (task : Task) : Prop :=
  match task with
  | .make _ (.getNegoStatus attempt) => attempt.isNew = true ∨ (shared.stubs attempt.stub).negoStatus ≠ .init
  | .make _ (.waitStatus attempt count) => count+1 < threadLockRetryTimes ∨ (shared.stubs attempt.stub).negoStatus = .finished ∨
      (shared.threadLockInfo.lookup attempt.seqNum).isSome
  | .closed networkId => ∀ entry ∈ shared.threadLockInfo.entries, (shared.locks entry.2).networkId ≠ networkId
  | _ => True

/-- The sequence number whose lock the next section of a task detaches. -/
def detaches? : Task → Option UInt32
  | .wake seqNumber .detach => some seqNumber
  | .make _ (.detachThreadLockInfo attempt) | .make _ (.timeoutDetach attempt _) => some attempt.seqNum
  | _ => none

/-- A lock is detached between the last look at the status and the last look for that lock. -/
def cuts (_ : Shared) (task other : Task) : Bool :=
  match other with
  | .make _ (.waitLock attempt count) => !decide (count+1 < threadLockRetryTimes) && decide (detaches? task = some attempt.seqNum)
  | _ => false

def received (moves : List (Pool.Move Choice)) : List DHandleEntryTxRx :=
  moves.filterMap fun move => match move.2 with
    | .onBytesReceived _ message => some message
    | _ => none

def IsCall : Task → Prop
  | .make _ _ | .returned _ => True
  | _ => False

/-- Nothing that has begun can go on, unless a waiting time ends. -/
def Complete (host : Host) (pool : Pool Shared Task) : Prop :=
  ∀ i choice, pool.tasks i ≠ .idle → choice ≠ .timeout → advance host pool.shared (pool.tasks i) choice = none

/-- A state in which nothing is under way and the stub is not there yet. -/
structure Quiet (target : Call) (shared : Shared) : Prop where
  missing : sameStub shared target = none
  unlocked : shared.threadLockInfo = ∅
  fresh : shared.registry.mapDBinderStubRegisters.lookup shared.stubTagNum = none
  unsent : shared.sent = []
  room : ∃ address, address ≠ 0 ∧ address ∉ shared.registry.dBinderStubRegisted

/-- The arguments of the call are legal and its request can be made. -/
structure Able (host : Host) (target : Call) : Prop where
  device : isDeviceIdIllegal target.deviceID = false
  service : target.serviceName ≠ []
  local_device : isDeviceIdIllegal host.localDeviceID = false
  index : (host.subIndex target.serviceName).isSome

section Work

/-- How many sections a call, or the task of a message, can still have before it. -/
def work : Task → Nat
  | .idle => 122
  | .make _ pc => match pc with
    | .findOrNewDBinderStub => 121
    | .nextSeqNumber _ => 120
    | .setSeqNumber _ _ => 119
    | .getSeqNumber _ => 119
    | .getNegoStatus attempt => 40*(2-attempt.before)+38
    | .setDoing attempt => 40*(2-attempt.before)+37
    | .attachThreadLockInfo attempt => 40*(2-attempt.before)+36
    | .createMessage attempt _ => 40*(2-attempt.before)+35
    | .sendDataToRemote attempt _ _ => 40*(2-attempt.before)+34
    | .waitStatus attempt count => 40*(2-attempt.before)+12+2*(10-count)
    | .waitLock attempt count => 40*(2-attempt.before)+11+2*(10-count)
    | .waitReply attempt _ => 40*(2-attempt.before)+10
    | .timeoutDetach attempt _ => 40*(2-attempt.before)+9
    | .timeoutReady attempt _ => 40*(2-attempt.before)+8
    | .querySession attempt => 40*(2-attempt.before)+9
    | .setFinished attempt => 40*(2-attempt.before)+8
    | .resetStatus attempt _ => 40*(2-attempt.before)+8
    | .sendFailed attempt => 40*(2-attempt.before)+9
    | .detachThreadLockInfo attempt => 40*(2-attempt.before)+8
    | .failed attempt _ => 40*(2-attempt.before)+7
    | .deleteDBinderStub attempt => 40*(2-attempt.before)+6
    | .detachSessionObject attempt => 40*(2-attempt.before)+5
  | _ => 0

theorem work_of_makeStep {host : Host} {shared : Shared} {call : Call} {pc : MakePc} {choice : Choice}
    {after : Shared × Task} (taken : MakeStep host shared call pc choice after) : work after.2 < work (.make call pc) := by
  cases taken with
  | retried missing more =>
    simp only [work,threadLockRetryTimes] at *
    omega
  | again more =>
    simp only [work,retryTimes] at *
    omega
  | _ =>
    simp only [work]
    omega

def Calling : Task → Prop
  | .idle | .make _ _ | .returned _ => True
  | _ => False

theorem not_calling_reply (shared : Shared) (message : DHandleEntryTxRx) (pc : ReplyPc) :
    ¬ Calling (advanceReply shared message pc).2 := by
  cases pc with
  | checkStub stub =>
    simp only [advanceReply]
    split <;> exact id
  | querySession stub =>
    simp only [advanceReply]
    split
    · exact id
    · split
      · exact id
      · split <;> exact id
  | _ => exact id

theorem not_calling_wake (shared : Shared) (seqNumber : UInt32) (pc : WakePc) :
    ¬ Calling (advanceWake shared seqNumber pc).2 := by
  obtain ⟨later,same⟩ | same := advanceWake_task shared seqNumber pc
  · rw [same]
    exact id
  · rw [same]
    exact id

theorem not_calling_notice {shared : Shared} {device : List UInt8} {services : List (List UInt16)} {pc : NoticePc}
    {after : Shared × Task} (step : NoticeStep shared device services pc after) : ¬ Calling after.2 := by
  cases step <;> exact id

theorem work_of_spawnStep {shared : Shared} {choice : Choice} {after : Shared × Task} (step : SpawnStep shared choice after) :
    work after.2 < work .idle := by
  cases step <;> simp [work]

theorem work_of_advance {host : Host} {shared : Shared} {task : Task} {choice : Choice} {after : Shared × Task}
    (advanced : advance host shared task choice = some after) (calling : Calling after.2) :
    Calling task ∧ work after.2 < work task := by
  cases task with
  | idle => exact ⟨trivial,work_of_spawnStep (spawnStep_of_spawn advanced)⟩
  | make call pc => exact ⟨trivial,work_of_makeStep (makeStep_of_advance advanced)⟩
  | reply message pc =>
    obtain ⟨-,made⟩ := onGo_eq_some.mp advanced
    cases made
    exact absurd calling (not_calling_reply shared message pc)
  | wake seqNumber pc =>
    obtain ⟨-,made⟩ := onGo_eq_some.mp advanced
    cases made
    exact absurd calling (not_calling_wake shared seqNumber pc)
  | noticeDevice device =>
    simp only [advance] at advanced
    split at advanced <;> obtain ⟨-,made⟩ := onGo_eq_some.mp advanced <;> cases made <;> exact calling.elim
  | notice device services pc => exact absurd calling (not_calling_notice (noticeStep_of_advance (onGo_eq_some.mp advanced).2))
  | closed networkId =>
    obtain ⟨-,made⟩ := onGo_eq_some.mp advanced
    cases made
    exact calling.elim
  | clear locks =>
    cases locks <;> obtain ⟨-,made⟩ := onGo_eq_some.mp advanced <;> cases made <;> exact calling.elim
  | returned result => cases advanced
  | finished => cases advanced

/-- However the others interleave, a call is over after 122 sections. -/
theorem call_bounded {host : Host} {shared : Shared} {moves : List (Pool.Move Choice)} {pool : Pool Shared Task}
    (run : Reaches (fires (Pool.step (advance host))) ⟨shared,fun _ => .idle⟩ moves pool) {i : Nat}
    (call : IsCall (pool.tasks i)) : moves.countP (fun move => move.1 = i) ≤ 122 := by
  have calling : Calling (pool.tasks i) := by
    cases task : pool.tasks i with
    | make _ _ => trivial
    | returned _ => trivial
    | _ =>
      rw [task] at call
      exact call.elim
  have bounded := Pool.sections_bounded Calling work (fun _ _ _ _ => work_of_advance) run calling
  change _ ≤ 122 at bounded
  omega

end Work

/-- What is known of the stub and of the one lock; `joined`: the lock is there, `done`: it has been made ready. -/
structure Base (target : Call) (stub : UInt64) (lock : Nat) (joined done : Bool) (shared : Shared) : Prop where
  nonzero : stub ≠ 0
  known : sameStub shared target = some stub
  table : ∀ seqNumber other, shared.threadLockInfo.lookup seqNumber = some other → joined = true ∧ other = lock
  ready : joined = true → (shared.locks lock).ready = done
  session : done = true → (shared.registry.sessionObject.lookup stub).isSome

/-- Where a task can stand that neither negotiates nor handles a reply. -/
def Calm (target : Call) (stub : UInt64) (lock : Nat) (joined done : Bool) : Task → Prop
  | .idle | .finished | .closed _ | .clear [] => True
  | .returned result => result = some stub
  | .wake _ .detach => done = true
  | .make call pc => Fits target call ∧ match pc with
    | .findOrNewDBinderStub => True
    | .getSeqNumber found => found = stub
    | .getNegoStatus attempt => attempt.stub = stub ∧ attempt.isNew = false
    | .waitStatus attempt _ | .waitLock attempt _ => attempt.stub = stub
    | .waitReply attempt held => attempt.stub = stub ∧ held = lock ∧ joined = true
    | .querySession attempt | .setFinished attempt => attempt.stub = stub ∧ done = true
    | _ => False
  | _ => False

/-- The last look of a call for the lock finds it. -/
def Seen (shared : Shared) : Task → Prop
  | .make _ (.waitLock attempt count) => count+1 < threadLockRetryTimes ∨ (shared.threadLockInfo.lookup attempt.seqNum).isSome
  | _ => True

section Calm
variable {host : Host} {target : Call} {stub : UInt64} {lock : Nat} {joined done : Bool} {shared : Shared}

theorem sameStub_of_fits {call : Call} (fits : Fits target call) : sameStub shared call = sameStub shared target := by
  obtain ⟨service,device,pid,uid⟩ := fits
  unfold sameStub
  rw [service,device,pid,uid]

theorem sameStub_congr {other : Shared} (registered : other.registry.dBinderStubRegisted = shared.registry.dBinderStubRegisted)
    (identity : ∀ i, Shared.isSameStubObject (other.stubs i) target.serviceName target.deviceID target.pid target.uid =
      Shared.isSameStubObject (shared.stubs i) target.serviceName target.deviceID target.pid target.uid) :
    sameStub other target = sameStub shared target := by
  unfold sameStub
  rw [registered]
  congr 1
  funext i
  exact identity i

theorem sameStub_setNegoStatus (i : UInt64) (status : NegotiationStatus) :
    sameStub (shared.setNegoStatus i status) target = sameStub shared target := by
  refine sameStub_congr rfl ?_
  intro other
  simp only [Shared.setNegoStatus]
  split <;> rfl

theorem sameStub_setSeqNumber (i : UInt64) (seqNum : UInt32) :
    sameStub (shared.setSeqNumber i seqNum) target = sameStub shared target := by
  refine sameStub_congr rfl ?_
  intro other
  simp only [Shared.setSeqNumber]
  split <;> rfl

theorem Base.setNegoStatus (base : Base target stub lock joined done shared) (i : UInt64) (status : NegotiationStatus) :
    Base target stub lock joined done (shared.setNegoStatus i status) where
  nonzero := base.nonzero
  known := (sameStub_setNegoStatus i status).trans base.known
  table := base.table
  ready := base.ready
  session := base.session

theorem Base.detachThreadLockInfo (base : Base target stub lock joined done shared) (seqNumber : UInt32) :
    Base target stub lock joined done (shared.detachThreadLockInfo seqNumber) where
  nonzero := base.nonzero
  known := base.known
  table := by
    intro other held found
    apply base.table other held
    change (shared.threadLockInfo.erase seqNumber).lookup other = some held at found
    by_cases same : other = seqNumber
    · rw [same,AList.lookup_erase] at found
      cases found
    · rwa [AList.lookup_erase_ne same] at found
  ready := base.ready
  session := base.session

theorem Calm.mono {task : Task} {later : Nat} {joined' done' : Bool} (calm : Calm target stub lock joined done task)
    (same : joined = true → later = lock ∧ joined' = true) (ended : done = true → done' = true) :
    Calm target stub later joined' done' task := by
  cases task with
  | make call pc =>
    refine ⟨calm.1,?_⟩
    cases pc with
    | waitReply attempt held =>
      obtain ⟨-,found,equal,joins⟩ := calm
      exact ⟨found,equal.trans (same joins).1.symm,(same joins).2⟩
    | querySession attempt => exact ⟨calm.2.1,ended calm.2.2⟩
    | setFinished attempt => exact ⟨calm.2.1,ended calm.2.2⟩
    | _ => exact calm.2
  | wake seqNumber pc =>
    cases pc with
    | detach => exact ended calm
    | _ => exact calm
  | clear locks => cases locks <;> exact calm
  | _ => exact calm

/-- What a calm section leaves of the shared state. -/
def Kept (stub : UInt64) (done : Bool) (shared after : Shared) : Prop :=
  after = shared ∨ done = true ∧ (after = shared.setNegoStatus stub .finished ∨ ∃ seqNumber, after = shared.detachThreadLockInfo seqNumber)

theorem calm_makeStep {call : Call} {pc : MakePc} {choice : Choice} {after : Shared × Task}
    (base : Base target stub lock joined done shared) (calm : Calm target stub lock joined done (.make call pc))
    (peaceful : Peaceful target shared (.make call pc) choice) (timely : Timely shared (.make call pc)) (seen : Seen shared (.make call pc))
    (taken : MakeStep host shared call pc choice after) :
    Calm target stub lock joined done after.2 ∧ Kept stub done shared after.1 := by
  obtain ⟨fits,stands⟩ := calm
  cases taken with
  | found same =>
    rw [sameStub_of_fits fits,base.known] at same
    cases same
    exact ⟨⟨fits,rfl⟩,.inl rfl⟩
  | made missing nonzero fresh =>
    rw [sameStub_of_fits fits,base.known] at missing
    cases missing
  | loaded found => exact ⟨⟨fits,stands,rfl⟩,.inl rfl⟩
  | requests first =>
    obtain new | begun := timely
    · rw [stands.2] at new
      cases new
    · obtain new | starts := first
      · rw [stands.2] at new
        cases new
      · exact absurd starts begun
  | waits old begun => exact ⟨⟨fits,stands.1⟩,.inl rfl⟩
  | ended finished =>
    refine ⟨?_,.inl rfl⟩
    exact congrArg some stands
  | unfinished ongoing => exact ⟨⟨fits,stands⟩,.inl rfl⟩
  | joined known =>
    obtain ⟨joins,same⟩ := base.table _ _ known
    exact ⟨⟨fits,stands,same,joins⟩,.inl rfl⟩
  | retried missing more => exact ⟨⟨fits,stands⟩,.inl rfl⟩
  | lockless missing last =>
    obtain more | known := seen
    · exact absurd more last
    · rw [missing] at known
      cases known
  | woken ready =>
    obtain ⟨same,held,joins⟩ := stands
    rw [held,base.ready joins] at ready
    exact ⟨⟨fits,same,ready⟩,.inl rfl⟩
  | expired silent => exact peaceful.elim
  | sessionless missing =>
    have stored := base.session stands.2
    rw [← stands.1,missing] at stored
    cases stored
  | answered stored => exact ⟨⟨fits,stands⟩,.inl rfl⟩
  | finishes attempt =>
    obtain ⟨same,ended⟩ := stands
    rw [same]
    exact ⟨rfl,.inr ⟨ended,.inl rfl⟩⟩
  | _ => exact stands.elim

theorem calm_spawn {choice : Choice} {after : Shared × Task} (able : Able host target)
    (peaceful : Peaceful target shared .idle choice) (silent : ∀ device message, choice ≠ .onBytesReceived device message)
    (advanced : spawn shared choice = some after) :
    Calm target stub lock joined done after.2 ∧ Kept stub done shared after.1 := by
  cases choice with
  | makeRemoteBinder call =>
    have fits : Fits target call := peaceful
    simp only [spawn,fits.1,fits.2.1,able.device,able.service,Bool.false_eq_true,or_self,if_false] at advanced
    cases advanced
    exact ⟨⟨fits,trivial⟩,.inl rfl⟩
  | processOnSessionClosed networkId =>
    cases advanced
    exact ⟨trivial,.inl rfl⟩
  | onBytesReceived device message => exact absurd rfl (silent device message)
  | _ => exact peaceful.elim

theorem closing_nil {networkId : List UInt8} (timely : Timely shared (.closed networkId)) :
    (shared.threadLockInfo.entries.filter fun entry => (shared.locks entry.2).networkId = networkId) = [] := by
  apply List.filter_eq_nil_iff.mpr
  intro entry member
  simpa using timely entry member

theorem calm_advance {task : Task} {choice : Choice} {after : Shared × Task} (able : Able host target)
    (base : Base target stub lock joined done shared) (calm : Calm target stub lock joined done task)
    (peaceful : Peaceful target shared task choice) (timely : Timely shared task) (seen : Seen shared task)
    (silent : task = .idle → ∀ device message, choice ≠ .onBytesReceived device message)
    (advanced : advance host shared task choice = some after) :
    Calm target stub lock joined done after.2 ∧ Kept stub done shared after.1 := by
  cases task with
  | idle => exact calm_spawn able peaceful (silent rfl) advanced
  | make call pc => exact calm_makeStep base calm peaceful timely seen (makeStep_of_advance advanced)
  | wake seqNumber pc =>
    cases pc with
    | detach =>
      obtain ⟨-,made⟩ := onGo_eq_some.mp advanced
      cases made
      exact ⟨trivial,.inr ⟨calm,.inr ⟨seqNumber,rfl⟩⟩⟩
    | _ => exact calm.elim
  | closed networkId =>
    obtain ⟨-,made⟩ := onGo_eq_some.mp advanced
    simp only [closing_nil timely,List.foldl_nil,List.map_nil] at made
    cases made
    exact ⟨trivial,.inl rfl⟩
  | clear locks =>
    cases locks with
    | nil =>
      obtain ⟨-,made⟩ := onGo_eq_some.mp advanced
      cases made
      exact ⟨trivial,.inl rfl⟩
    | cons lock locks => exact calm.elim
  | returned result => cases advanced
  | finished => cases advanced
  | _ => exact calm.elim

theorem Base.kept {after : Shared} (base : Base target stub lock joined done shared) (kept : Kept stub done shared after) :
    Base target stub lock joined done after := by
  obtain same | ⟨-,same | ⟨seqNumber,same⟩⟩ := kept
  · rw [same]
    exact base
  · rw [same]
    exact base.setNegoStatus stub .finished
  · rw [same]
    exact base.detachThreadLockInfo seqNumber

theorem go_ne_timeout : Choice.go ≠ .timeout := by
  intro same
  cases same

/-- A calm task that is not over can go on; one that waits can do so when its lock is ready. -/
theorem calm_goes_on (host : Host) {task : Task} (base : Base target stub lock true true shared) (calm : Calm target stub lock true true task)
    (calls : IsCall task) : task = .returned (some stub) ∨ ∃ choice, choice ≠ .timeout ∧ (advance host shared task choice).isSome := by
  cases task with
  | returned result => exact .inl (congrArg Task.returned calm)
  | make call pc =>
    obtain ⟨fits,stands⟩ := calm
    right
    cases pc with
    | findOrNewDBinderStub =>
      have known : sameStub shared call = some stub := (sameStub_of_fits fits).trans base.known
      refine ⟨.allocate 0,(fun same => by cases same),?_⟩
      unfold sameStub at known
      simp only [advance,advanceMake,known,Option.isSome_some]
    | getSeqNumber found => exact ⟨.go,go_ne_timeout,rfl⟩
    | getNegoStatus attempt =>
      refine ⟨.go,go_ne_timeout,?_⟩
      simp only [advance,advanceMake]
      split <;> rfl
    | waitStatus attempt count =>
      refine ⟨.go,go_ne_timeout,?_⟩
      simp only [advance,advanceMake]
      split <;> rfl
    | waitLock attempt count =>
      refine ⟨.go,go_ne_timeout,?_⟩
      simp only [advance,advanceMake]
      split
      · rfl
      · split <;> rfl
    | waitReply attempt held =>
      refine ⟨.go,go_ne_timeout,?_⟩
      simp only [advance,advanceMake,stands.2.1,base.ready rfl,if_true,Option.isSome_some]
    | querySession attempt =>
      refine ⟨.go,go_ne_timeout,?_⟩
      simp only [advance,advanceMake]
      split <;> rfl
    | setFinished attempt => exact ⟨.go,go_ne_timeout,rfl⟩
    | _ => exact stands.elim
  | _ => exact calls.elim

end Calm

/-- Where a task can stand before there is a stub. -/
def Starting (target : Call) : Task → Prop
  | .idle | .finished | .closed _ | .clear [] => True
  | .make call pc => Fits target call ∧ pc = .findOrNewDBinderStub
  | _ => False

/-- Where the first call stands before it has the lock. -/
def Early (stub : UInt64) : MakePc → Prop
  | .nextSeqNumber made | .setSeqNumber made _ => made = stub
  | .getNegoStatus attempt => attempt.stub = stub ∧ attempt.isNew = true
  | .setDoing attempt | .attachThreadLockInfo attempt => attempt.stub = stub
  | _ => False

/-- Where a reply stands that found the tag of the stub. -/
def Replies (stub : UInt64) : ReplyPc → Prop
  | .checkStub found | .querySession found | .detachSession found | .attachSession found => found = stub
  | _ => True

/-- The one task that is not calm: the first call, or the task of the reply. -/
inductive Leading (target : Call) (stub : UInt64) (lock : Nat) (shared : Shared) : Bool → Task → Prop
  | creating {call : Call} {pc : MakePc} (fits : Fits target call) (early : Early stub pc)
      (fresh : shared.registry.mapDBinderStubRegisters.lookup shared.stubTagNum = none) (unsent : shared.sent = []) :
      Leading target stub lock shared false (.make call pc)
  | locking {call : Call} {attempt : Attempt} (fits : Fits target call) (same : attempt.stub = stub)
      (held : shared.threadLockInfo.lookup attempt.seqNum = some lock)
      (fresh : shared.registry.mapDBinderStubRegisters.lookup shared.stubTagNum = none) (unsent : shared.sent = []) :
      Leading target stub lock shared true (.make call (.createMessage attempt lock))
  | sending {call : Call} {attempt : Attempt} {message : DHandleEntryTxRx} (fits : Fits target call) (same : attempt.stub = stub)
      (held : shared.threadLockInfo.lookup message.seqNumber = some lock)
      (tag : shared.registry.mapDBinderStubRegisters.lookup message.stub = some stub) (unsent : shared.sent = []) :
      Leading target stub lock shared true (.make call (.sendDataToRemote attempt lock message))
  | answering {message : DHandleEntryTxRx} {pc : ReplyPc} (held : shared.threadLockInfo.lookup message.seqNumber = some lock)
      (tag : shared.registry.mapDBinderStubRegisters.lookup message.stub = some stub)
      (name : isValidSessionName message = true) (index : message.stubIndex ≠ 0) (replies : Replies stub pc) :
      Leading target stub lock shared true (.reply message pc)
  | waking {seqNumber : UInt32} {pc : WakePc} (held : shared.threadLockInfo.lookup seqNumber = some lock)
      (session : (shared.registry.sessionObject.lookup stub).isSome) (pending : pc = .query ∨ pc = .ready lock) :
      Leading target stub lock shared true (.wake seqNumber pc)

/-- Every request that was sent has its reply. -/
def Accounted (messages : List DHandleEntryTxRx) (shared : Shared) : Prop :=
  messages.map DHandleEntryTxRx.seqNumber = shared.sent.map fun request => request.2.seqNumber

theorem unexpected {messages : List DHandleEntryTxRx} {shared : Shared} {message : DHandleEntryTxRx}
    (accounted : Accounted messages shared) (answers : ∃ request ∈ shared.sent, Answers request.2 message) :
    ¬ ((messages ++ [message]).map DHandleEntryTxRx.seqNumber).Nodup := by
  obtain ⟨request,member,answer⟩ := answers
  have before : message.seqNumber ∈ messages.map DHandleEntryTxRx.seqNumber := by
    rw [accounted,answer.2.2.1]
    exact List.mem_map_of_mem member
  intro distinct
  rw [List.map_append,List.nodup_append] at distinct
  exact distinct.2.2 message.seqNumber before message.seqNumber (by simp) rfl

/-- How far the calls have come together. -/
inductive Phase (target : Call) (messages : List DHandleEntryTxRx) (pool : Pool Shared Task) : Prop
  | missing (quiet : Quiet target pool.shared) (starting : ∀ i, Starting target (pool.tasks i))
      (accounted : Accounted messages pool.shared)
  | led {stub : UInt64} {lock : Nat} {joined : Bool} (leader : Nat) (base : Base target stub lock joined false pool.shared)
      (others : ∀ i, i ≠ leader → Calm target stub lock joined false (pool.tasks i))
      (own : Leading target stub lock pool.shared joined (pool.tasks leader)) (accounted : Accounted messages pool.shared)
  | asked {stub : UInt64} {lock : Nat} {request : List UInt8 × DHandleEntryTxRx} (base : Base target stub lock true false pool.shared)
      (calm : ∀ i, Calm target stub lock true false (pool.tasks i)) (sent : pool.shared.sent = [request])
      (held : pool.shared.threadLockInfo.lookup request.2.seqNumber = some lock)
      (tag : pool.shared.registry.mapDBinderStubRegisters.lookup request.2.stub = some stub) (silent : messages = [])
  | answered {stub : UInt64} {lock : Nat} (base : Base target stub lock true true pool.shared)
      (calm : ∀ i, Calm target stub lock true true (pool.tasks i)) (accounted : Accounted messages pool.shared)

theorem Starting.calm {target : Call} {task : Task} (starting : Starting target task) (stub : UInt64) (lock : Nat)
    (joined done : Bool) : Calm target stub lock joined done task := by
  cases task with
  | make call pc =>
    obtain ⟨fits,same⟩ := starting
    subst same
    exact ⟨fits,trivial⟩
  | clear locks => cases locks <;> exact starting
  | _ => first | exact starting | exact starting.elim

/-- What the next section of the leading task comes to. -/
inductive Outcome (target : Call) (stub : UInt64) (lock : Nat) (joined : Bool) (shared : Shared) (after : Shared × Task) : Prop
  | leads {held : Nat} {joins : Bool} (same : joined = true → held = lock ∧ joins = true)
      (base : Base target stub held joins false after.1) (own : Leading target stub held after.1 joins after.2)
      (sent : after.1.sent = shared.sent)
  | asks {request : List UInt8 × DHandleEntryTxRx} (joins : joined = true) (base : Base target stub lock true false after.1)
      (calm : Calm target stub lock true false after.2) (unsent : shared.sent = []) (sent : after.1.sent = [request])
      (held : after.1.threadLockInfo.lookup request.2.seqNumber = some lock)
      (tag : after.1.registry.mapDBinderStubRegisters.lookup request.2.stub = some stub)
  | answers (joins : joined = true) (base : Base target stub lock true true after.1)
      (calm : Calm target stub lock true true after.2) (sent : after.1.sent = shared.sent)

section Leader
variable {host : Host} {target : Call} {shared : Shared} {stub : UInt64} {lock : Nat} {joined : Bool} {after : Shared × Task}

theorem Base.setSeqNumber (base : Base target stub lock joined false shared) (seqNum : UInt32) :
    Base target stub lock joined false (shared.setSeqNumber stub seqNum) where
  nonzero := base.nonzero
  known := (sameStub_setSeqNumber stub seqNum).trans base.known
  table := base.table
  ready := base.ready
  session := base.session

theorem creating_step {call : Call} {pc : MakePc} {choice : Choice} (base : Base target stub lock false false shared)
    (fits : Fits target call) (early : Early stub pc)
    (fresh : shared.registry.mapDBinderStubRegisters.lookup shared.stubTagNum = none) (unsent : shared.sent = [])
    (taken : MakeStep host shared call pc choice after) : Outcome target stub lock false shared after := by
  have free : ∀ seqNumber, shared.threadLockInfo.lookup seqNumber = none := by
    intro seqNumber
    cases found : shared.threadLockInfo.lookup seqNumber with
    | none => rfl
    | some held => exact absurd (base.table seqNumber held found).1 nofun
  cases taken with
  | numbered made => exact .leads nofun ⟨base.nonzero,base.known,base.table,nofun,nofun⟩ (.creating fits early fresh unsent) rfl
  | stored made seqNum =>
    have same : made = stub := early
    subst same
    exact .leads nofun (base.setSeqNumber seqNum) (.creating fits ⟨rfl,rfl⟩ fresh unsent) rfl
  | requests first => exact .leads nofun base (.creating fits early.1 fresh unsent) rfl
  | waits old begun =>
    rw [early.2] at old
    cases old
  | doing attempt => exact .leads nofun (base.setNegoStatus attempt.stub .doing) (.creating fits early fresh unsent) rfl
  | locked taken =>
    rw [free] at taken
    cases taken
  | attached =>
    rename_i attempt _
    refine .leads nofun ⟨base.nonzero,base.known,?_,?_,nofun⟩ (.locking fits early ?_ fresh unsent) rfl
    · intro seqNumber other found
      dsimp only at found
      by_cases same : seqNumber = attempt.seqNum
      · rw [same,AList.lookup_insert] at found
        cases found
        exact ⟨rfl,rfl⟩
      · rw [AList.lookup_insert_ne same,free] at found
        cases found
    · intro joins
      exact congrArg ThreadLockInfo.ready (if_pos rfl)
    · exact AList.lookup_insert _
  | _ => exact early.elim

theorem identity_of_known (known : sameStub shared target = some stub) :
    (shared.stubs stub).serviceName = target.serviceName ∧ (shared.stubs stub).deviceID = target.deviceID := by
  have same := List.find?_some known
  simp only [Shared.isSameStubObject,Bool.and_eq_true,decide_eq_true_eq] at same
  exact ⟨same.1.1.1,same.1.1.2⟩

/-- The request of the first call names the stub by a tag of its own. -/
theorem addStubByTag_tag (fresh : shared.registry.mapDBinderStubRegisters.lookup shared.stubTagNum = none) :
    (shared.addStubByTag stub).1.registry.mapDBinderStubRegisters.lookup (shared.addStubByTag stub).2 = some stub := by
  unfold Shared.addStubByTag
  split
  · rename_i tag found
    exact tagOf_some found
  · dsimp only
    split
    · rename_i taken
      rw [fresh] at taken
      cases taken
    · exact AList.lookup_insert shared.registry.mapDBinderStubRegisters

theorem addStubByTag_rest (shared : Shared) (stub : UInt64) : (shared.addStubByTag stub).1.stubs = shared.stubs ∧
    (shared.addStubByTag stub).1.threadLockInfo = shared.threadLockInfo ∧
    (shared.addStubByTag stub).1.locks = shared.locks ∧ (shared.addStubByTag stub).1.sent = shared.sent := by
  unfold Shared.addStubByTag
  split
  · exact ⟨rfl,rfl,rfl,rfl⟩
  · dsimp only
    split <;> exact ⟨rfl,rfl,rfl,rfl⟩

theorem Base.addStubByTag {done : Bool} (base : Base target stub lock joined done shared) :
    Base target stub lock joined done (shared.addStubByTag stub).1 := by
  obtain ⟨sessions,registered⟩ := addStubByTag_frame shared stub
  obtain ⟨stubs,table,locks,-⟩ := addStubByTag_rest shared stub
  refine ⟨base.nonzero,?_,?_,?_,?_⟩
  · rw [← base.known]
    apply sameStub_congr registered
    intro i
    rw [stubs]
  · rw [table]
    exact base.table
  · rw [locks]
    exact base.ready
  · rw [sessions]
    exact base.session

theorem locking_step {call : Call} {attempt : Attempt} {choice : Choice} (able : Able host target)
    (base : Base target stub lock true false shared) (fits : Fits target call) (same : attempt.stub = stub)
    (held : shared.threadLockInfo.lookup attempt.seqNum = some lock)
    (fresh : shared.registry.mapDBinderStubRegisters.lookup shared.stubTagNum = none) (unsent : shared.sent = [])
    (taken : MakeStep host shared call (.createMessage attempt lock) choice after) :
    Outcome target stub lock true shared after := by
  obtain ⟨service,device⟩ := identity_of_known base.known
  obtain ⟨-,table,-,sent⟩ := addStubByTag_rest shared stub
  obtain ⟨subIndex,number⟩ := Option.isSome_iff_exists.mp able.index
  subst same
  cases taken with
  | refused failed =>
    simp only [createMessage,service,device,able.device,able.local_device,number,Bool.or_self,Bool.false_eq_true,if_false] at failed
    cases failed
  | created done =>
    simp only [createMessage,service,device,able.device,able.local_device,number,Bool.or_self,Bool.false_eq_true,if_false] at done
    cases done
    refine .leads (fun _ => ⟨rfl,rfl⟩) base.addStubByTag (.sending fits rfl ?_ (addStubByTag_tag fresh) (sent.trans unsent)) sent
    rw [table]
    exact held

theorem sending_step {call : Call} {attempt : Attempt} {message : DHandleEntryTxRx} {choice : Choice}
    (base : Base target stub lock true false shared) (fits : Fits target call) (same : attempt.stub = stub)
    (held : shared.threadLockInfo.lookup message.seqNumber = some lock)
    (tag : shared.registry.mapDBinderStubRegisters.lookup message.stub = some stub) (unsent : shared.sent = [])
    (peaceful : Peaceful target shared (.make call (.sendDataToRemote attempt lock message)) choice)
    (taken : MakeStep host shared call (.sendDataToRemote attempt lock message) choice after) :
    Outcome target stub lock true shared after := by
  cases taken with
  | sent =>
    have asked : Base target stub lock true false { shared with sent := shared.sent ++ [((shared.stubs attempt.stub).deviceID,message)] } :=
      ⟨base.nonzero,base.known,base.table,base.ready,nofun⟩
    have only : shared.sent ++ [((shared.stubs attempt.stub).deviceID,message)] = [((shared.stubs attempt.stub).deviceID,message)] := by
      rw [unsent,List.nil_append]
    exact .asks rfl asked ⟨fits,same,rfl,rfl⟩ unsent only held tag
  | unsent => cases peaceful

theorem Base.of_registry {registry : Registry} {done : Bool} (base : Base target stub lock joined done shared)
    (registered : registry.dBinderStubRegisted = shared.registry.dBinderStubRegisted)
    (session : done = true → (registry.sessionObject.lookup stub).isSome) :
    Base target stub lock joined done { shared with registry := registry } where
  nonzero := base.nonzero
  known := by
    rw [← base.known]
    exact sameStub_congr registered fun _ => rfl
  table := base.table
  ready := base.ready
  session := session

theorem answering_step {message : DHandleEntryTxRx} {pc : ReplyPc} (base : Base target stub lock true false shared)
    (held : shared.threadLockInfo.lookup message.seqNumber = some lock)
    (tag : shared.registry.mapDBinderStubRegisters.lookup message.stub = some stub)
    (name : isValidSessionName message = true) (index : message.stubIndex ≠ 0) (replies : Replies stub pc) :
    Outcome target stub lock true shared (advanceReply shared message pc) := by
  have pointer : shared.registry.queryStubPtr message.stub = stub := by
    unfold Registry.queryStubPtr
    rw [tag]
    rfl
  have registered : shared.hasDBinderStub stub = true := by
    exact decide_eq_true (List.mem_of_find?_eq_some base.known)
  have stays : ∀ later, Replies stub later → Outcome target stub lock true shared (shared,.reply message later) :=
    fun later next => .leads (fun _ => ⟨rfl,rfl⟩) base (.answering held tag name index next) rfl
  cases pc with
  | checkTag => exact stays _ pointer
  | checkStub found =>
    have same : found = stub := replies
    have nonzero : (initializeSession message).stubIndex ≠ 0 := index
    simp only [advanceReply,same,registered,name,nonzero,not_true_eq_false,or_self,if_false]
    exact stays _ trivial
  | queryTag => exact stays _ pointer
  | querySession found =>
    have same : found = stub := replies
    simp only [advanceReply]
    split
    · exact stays _ trivial
    · rename_i session stored
      split
      · refine .leads (fun _ => ⟨rfl,rfl⟩) base (.waking held ?_ (.inl rfl)) rfl
        rw [← same,stored]
        rfl
      · split <;> exact stays _ trivial
  | detachTag => exact stays _ pointer
  | detachSession found =>
    exact .leads (fun _ => ⟨rfl,rfl⟩) (base.of_registry rfl fun never => by cases never) (.answering held tag name index trivial) rfl
  | attachTag => exact stays _ pointer
  | attachSession found =>
    have same : found = stub := replies
    obtain ⟨tags,stubs⟩ := attachSessionObject_frame shared.registry (initializeSession message) found
    refine .leads (fun _ => ⟨rfl,rfl⟩) (base.of_registry stubs fun never => by cases never) (.waking held ?_ (.inl rfl)) rfl
    change ((shared.registry.attachSessionObject (initializeSession message) found).sessionObject.lookup stub).isSome
    rw [same,lookup_attachSessionObject]
    rfl

theorem waking_step {seqNumber : UInt32} {pc : WakePc} (base : Base target stub lock true false shared)
    (held : shared.threadLockInfo.lookup seqNumber = some lock)
    (session : (shared.registry.sessionObject.lookup stub).isSome) (pending : pc = .query ∨ pc = .ready lock) :
    Outcome target stub lock true shared (advanceWake shared seqNumber pc) := by
  obtain same | same := pending
  · subst same
    simp only [advanceWake,held]
    exact .leads (fun _ => ⟨rfl,rfl⟩) base (.waking held session (.inr rfl)) rfl
  · subst same
    refine .answers rfl ⟨base.nonzero,base.known,base.table,?_,fun _ => session⟩ rfl rfl
    intro joins
    simp only [advanceWake,Shared.setReady,if_true]

theorem leading_step {task : Task} {choice : Choice} (able : Able host target)
    (base : Base target stub lock joined false shared) (leading : Leading target stub lock shared joined task)
    (peaceful : Peaceful target shared task choice) (advanced : advance host shared task choice = some after) :
    Outcome target stub lock joined shared after := by
  cases leading with
  | creating fits early fresh unsent => exact creating_step base fits early fresh unsent (makeStep_of_advance advanced)
  | locking fits same held fresh unsent => exact locking_step able base fits same held fresh unsent (makeStep_of_advance advanced)
  | sending fits same held tag unsent =>
    exact sending_step base fits same held tag unsent peaceful (makeStep_of_advance advanced)
  | answering held tag name index replies =>
    obtain ⟨-,made⟩ := onGo_eq_some.mp advanced
    cases made
    exact answering_step base held tag name index replies
  | waking held session pending =>
    obtain ⟨-,made⟩ := onGo_eq_some.mp advanced
    cases made
    exact waking_step base held session pending

end Leader

section Seen
variable {host : Host} {shared : Shared} {task : Task} {choice : Choice} {after : Shared × Task}

theorem advanceReply_threadLockInfo (shared : Shared) (message : DHandleEntryTxRx) (pc : ReplyPc) :
    (advanceReply shared message pc).1.threadLockInfo = shared.threadLockInfo := by
  cases pc with
  | checkStub stub =>
    simp only [advanceReply]
    split <;> rfl
  | querySession stub =>
    simp only [advanceReply]
    split
    · rfl
    · split
      · rfl
      · split <;> rfl
  | _ => rfl

theorem lookup_detachThreadLockInfo {seqNumber other : UInt32} (apart : some seqNumber ≠ some other) :
    (shared.detachThreadLockInfo seqNumber).threadLockInfo.lookup other = shared.threadLockInfo.lookup other :=
  AList.lookup_erase_ne fun same => apart (congrArg some same.symm)

theorem makeStep_keeps_lock {call : Call} {pc : MakePc} {seqNumber : UInt32} (taken : MakeStep host shared call pc choice after)
    (apart : detaches? (.make call pc) ≠ some seqNumber) (known : (shared.threadLockInfo.lookup seqNumber).isSome) :
    (after.1.threadLockInfo.lookup seqNumber).isSome := by
  cases taken with
  | @attached attempt free =>
    by_cases same : seqNumber = attempt.seqNum
    · rw [same]
      exact Option.isSome_iff_exists.mpr ⟨_,AList.lookup_insert shared.threadLockInfo⟩
    · exact (AList.lookup_insert_ne same).symm ▸ known
  | created done =>
    rw [createMessage_shared done,(addStubByTag_rest shared _).2.1]
    exact known
  | unlocked attempt | expiredDetached attempt => exact (lookup_detachThreadLockInfo apart).symm ▸ known
  | deleted attempt =>
    dsimp only
    unfold Shared.deleteDBinderStub
    split <;> exact known
  | _ => exact known

/-- A lock stays in the table, but for the sections that detach it. -/
theorem advance_keeps_lock {seqNumber : UInt32} (timely : Timely shared task) (apart : detaches? task ≠ some seqNumber)
    (known : (shared.threadLockInfo.lookup seqNumber).isSome) (advanced : advance host shared task choice = some after) :
    (after.1.threadLockInfo.lookup seqNumber).isSome := by
  cases task with
  | idle => cases spawnStep_of_spawn advanced <;> exact known
  | make call pc => exact makeStep_keeps_lock (makeStep_of_advance advanced) apart known
  | reply message pc =>
    obtain ⟨-,made⟩ := onGo_eq_some.mp advanced
    rw [← Option.some.inj made,advanceReply_threadLockInfo]
    exact known
  | wake waking pc =>
    obtain ⟨-,made⟩ := onGo_eq_some.mp advanced
    rw [← Option.some.inj made]
    cases pc with
    | query =>
      simp only [advanceWake]
      split <;> exact known
    | ready lock => exact known
    | detach => exact (lookup_detachThreadLockInfo apart).symm ▸ known
  | noticeDevice device =>
    simp only [advance] at advanced
    split at advanced <;> obtain ⟨-,made⟩ := onGo_eq_some.mp advanced <;> cases made <;> exact known
  | notice device services pc => cases noticeStep_of_advance (onGo_eq_some.mp advanced).2 <;> exact known
  | closed networkId =>
    obtain ⟨-,made⟩ := onGo_eq_some.mp advanced
    simp only [closing_nil timely,List.foldl_nil,List.map_nil] at made
    cases made
    exact known
  | clear locks => cases locks <;> obtain ⟨-,made⟩ := onGo_eq_some.mp advanced <;> cases made <;> exact known
  | returned result => cases advanced
  | finished => cases advanced

/-- A call looks for the lock when the status it has just seen is not NEGO_FINISHED. -/
theorem seen_advance (timely : Timely shared task) (advanced : advance host shared task choice = some after) : Seen after.1 after.2 := by
  cases task with
  | idle => cases spawnStep_of_spawn advanced <;> trivial
  | make call pc =>
    cases makeStep_of_advance advanced with
    | unfinished ongoing => exact timely.imp_right fun last => last.resolve_left ongoing
    | _ => trivial
  | reply message pc =>
    obtain ⟨-,made⟩ := onGo_eq_some.mp advanced
    cases made
    have other := not_calling_reply shared message pc
    cases later : (advanceReply shared message pc).2 with
    | make =>
      rw [later] at other
      exact absurd trivial other
    | _ => trivial
  | wake seqNumber pc =>
    obtain ⟨-,made⟩ := onGo_eq_some.mp advanced
    rw [← Option.some.inj made]
    obtain ⟨later,same⟩ | same := advanceWake_task shared seqNumber pc
    · rw [same]
      trivial
    · rw [same]
      trivial
  | noticeDevice device =>
    simp only [advance] at advanced
    split at advanced <;> obtain ⟨-,made⟩ := onGo_eq_some.mp advanced <;> cases made <;> trivial
  | notice device services pc => cases noticeStep_of_advance (onGo_eq_some.mp advanced).2 <;> trivial
  | closed networkId =>
    obtain ⟨-,made⟩ := onGo_eq_some.mp advanced
    cases made
    trivial
  | clear locks => cases locks <;> obtain ⟨-,made⟩ := onGo_eq_some.mp advanced <;> cases made <;> trivial
  | returned result => cases advanced
  | finished => cases advanced

theorem seen_step {pool next : Pool Shared Task} {move : Pool.Move Choice} (seen : ∀ i, Seen pool.shared (pool.tasks i))
    (undisturbed : Pool.Undisturbed cuts pool move) (timely : Timely pool.shared (pool.tasks move.1))
    (taken : fires (Pool.step (advance host)) pool move next) (i : Nat) : Seen next.shared (next.tasks i) := by
  obtain ⟨after,advanced,shared,task,others⟩ := Pool.step_cases taken
  rw [shared]
  by_cases same : i = move.1
  · rw [same,task]
    exact seen_advance timely advanced
  · rw [others i same]
    have before := seen i
    have uncut := undisturbed i same
    generalize pool.tasks i = other at before uncut
    unfold Seen at before ⊢
    split
    · rename_i attempt count
      refine or_iff_not_imp_left.mpr fun last => ?_
      simp only [cuts,last,decide_false,Bool.not_false,Bool.true_and,decide_eq_false_iff_not] at uncut
      exact advance_keeps_lock timely uncut (before.resolve_left last) advanced
    · trivial

end Seen

section Run
variable {host : Host} {target : Call} {shared : Shared}

theorem sameStub_newStub {call : Call} {address : UInt64} (fits : Fits target call) (missing : sameStub shared target = none)
    (fresh : address ∉ shared.registry.dBinderStubRegisted) : sameStub (newStub shared call address) target = some address := by
  obtain ⟨service,device,pid,uid⟩ := fits
  have others : shared.registry.dBinderStubRegisted.find? (fun stub => Shared.isSameStubObject
      ((newStub shared call address).stubs stub) target.serviceName target.deviceID target.pid target.uid) = none := by
    apply List.find?_eq_none.mpr
    intro stub member
    have apart : stub ≠ address := fun same => fresh (same ▸ member)
    simp only [newStub,if_neg apart]
    exact List.find?_eq_none.mp missing stub member
  change (shared.registry.dBinderStubRegisted ++ [address]).find? _ = some address
  rw [List.find?_append,others]
  simp [newStub,Shared.isSameStubObject,service,device,pid,uid]

theorem starting_advance {task : Task} {choice : Choice} {after : Shared × Task} (able : Able host target)
    (quiet : Quiet target shared) (starting : Starting target task) (peaceful : Peaceful target shared task choice)
    (timely : Timely shared task) (silent : task = .idle → ∀ device message, choice ≠ .onBytesReceived device message)
    (advanced : advance host shared task choice = some after) :
    after.1 = shared ∧ Starting target after.2 ∨
      ∃ stub, Base target stub 0 false false after.1 ∧ Leading target stub 0 after.1 false after.2 ∧ after.1.sent = shared.sent := by
  cases task with
  | idle =>
    left
    change spawn shared choice = some after at advanced
    cases choice with
    | makeRemoteBinder call =>
      have fits : Fits target call := peaceful
      simp only [spawn,fits.1,fits.2.1,able.device,able.service,Bool.false_eq_true,or_self,if_false] at advanced
      cases advanced
      exact ⟨rfl,fits,rfl⟩
    | processOnSessionClosed networkId =>
      cases advanced
      exact ⟨rfl,trivial⟩
    | onBytesReceived device message => exact absurd rfl (silent rfl device message)
    | _ => exact peaceful.elim
  | make call pc =>
    obtain ⟨fits,same⟩ := starting
    subst same
    have missing := (sameStub_of_fits fits).trans quiet.missing
    cases makeStep_of_advance advanced with
    | found same =>
      rw [missing] at same
      cases same
    | made _ nonzero fresh =>
      right
      refine ⟨_,⟨nonzero,sameStub_newStub fits quiet.missing fresh,?_,nofun,nofun⟩,.creating fits rfl quiet.fresh quiet.unsent,rfl⟩
      intro seqNumber other found
      change shared.threadLockInfo.lookup seqNumber = some other at found
      rw [quiet.unlocked,AList.lookup_empty] at found
      cases found
  | closed networkId =>
    left
    obtain ⟨-,made⟩ := onGo_eq_some.mp advanced
    simp only [closing_nil timely,List.foldl_nil,List.map_nil] at made
    cases made
    exact ⟨rfl,trivial⟩
  | clear locks =>
    left
    cases locks with
    | nil =>
      obtain ⟨-,made⟩ := onGo_eq_some.mp advanced
      cases made
      exact ⟨rfl,trivial⟩
    | cons lock locks => exact starting.elim
  | returned result => cases advanced
  | finished => cases advanced
  | _ => exact starting.elim

variable {pool next : Pool Shared Task} {move : Pool.Move Choice} {messages : List DHandleEntryTxRx}

theorem everyone {own : Task → Prop} (others : ∀ i, i ≠ move.1 → next.tasks i = pool.tasks i)
    (mover : own (next.tasks move.1)) (rest : ∀ i, i ≠ move.1 → own (pool.tasks i)) (i : Nat) : own (next.tasks i) := by
  by_cases same : i = move.1
  · rw [same]
    exact mover
  · rw [others i same]
    exact rest i same

theorem Accounted.of_sent {other : Shared} (accounted : Accounted messages shared) (sent : other.sent = shared.sent) :
    Accounted messages other := by
  unfold Accounted
  rw [sent]
  exact accounted

theorem Phase.of_outcome {stub : UInt64} {lock : Nat} {joined : Bool}
    (outcome : Outcome target stub lock joined pool.shared (next.shared,next.tasks move.1))
    (calm : ∀ i, i ≠ move.1 → Calm target stub lock joined false (pool.tasks i))
    (accounted : Accounted messages pool.shared) (others : ∀ i, i ≠ move.1 → next.tasks i = pool.tasks i) :
    Phase target messages next := by
  cases outcome with
  | leads same base own sent =>
    refine .led move.1 base ?_ own (accounted.of_sent sent)
    intro i other
    rw [others i other]
    exact (calm i other).mono same nofun
  | asks joins base calmed unsent sent held tag =>
    refine .asked base ?_ sent held tag ?_
    · apply everyone others calmed
      intro i other
      exact (calm i other).mono (fun _ => ⟨rfl,rfl⟩) nofun
    · unfold Accounted at accounted
      rw [unsent] at accounted
      exact List.map_eq_nil_iff.mp accounted
  | answers joins base calmed sent =>
    refine .answered base ?_ (accounted.of_sent sent)
    apply everyone others calmed
    intro i other
    exact (calm i other).mono (fun _ => ⟨rfl,rfl⟩) nofun

theorem Kept.before_done {stub : UInt64} {after : Shared} (kept : Kept stub false shared after) : after = shared := by
  obtain same | ⟨ended,-⟩ := kept
  · exact same
  · cases ended

theorem Kept.sent {stub : UInt64} {done : Bool} {after : Shared} (kept : Kept stub done shared after) : after.sent = shared.sent := by
  obtain same | ⟨-,same | ⟨seqNumber,same⟩⟩ := kept
  · rw [same]
  · rw [same]
    rfl
  · rw [same]
    rfl

theorem Phase.silent_step (able : Able host target) (phase : Phase target messages pool)
    (peaceful : Peaceful target pool.shared (pool.tasks move.1) move.2) (timely : Timely pool.shared (pool.tasks move.1))
    (seen : Seen pool.shared (pool.tasks move.1)) (silent : ∀ device message, move.2 ≠ .onBytesReceived device message)
    (taken : fires (Pool.step (advance host)) pool move next) : Phase target messages next := by
  obtain ⟨after,advanced,shared,task,others⟩ := Pool.step_cases taken
  cases phase with
  | missing quiet starting accounted =>
    obtain ⟨same,starts⟩ | ⟨stub,base,leading,sent⟩ :=
      starting_advance able quiet (starting move.1) peaceful timely (fun _ => silent) advanced
    · rw [same] at shared
      refine .missing (shared ▸ quiet) ?_ (shared ▸ accounted)
      rw [← task] at starts
      exact everyone others starts fun i _ => starting i
    · rw [← shared] at base leading sent
      rw [← task] at leading
      refine .led move.1 base ?_ leading (accounted.of_sent sent)
      intro i mover
      rw [others i mover]
      exact (starting i).calm stub 0 false false
  | led leader base calm own accounted =>
    by_cases mover : move.1 = leader
    · subst mover
      rw [← Prod.eta after,← shared,← task] at advanced
      exact .of_outcome (leading_step able base own peaceful advanced) calm accounted others
    · -- the leader stays where it is, and so does what it relies on
      obtain ⟨calmed,kept⟩ := calm_advance able base (calm move.1 mover) peaceful timely seen (fun _ => silent) advanced
      rw [kept.before_done] at shared
      rw [← task] at calmed
      rw [← shared] at base own accounted
      refine .led leader base ?_ ?_ accounted
      · intro i other
        by_cases same : i = move.1
        · rw [same]
          exact calmed
        · rw [others i same]
          exact calm i other
      · rw [others leader fun same => mover same.symm]
        exact own
  | asked base calm sent held tag silence =>
    obtain ⟨calmed,kept⟩ := calm_advance able base (calm move.1) peaceful timely seen (fun _ => silent) advanced
    rw [kept.before_done] at shared
    rw [← task] at calmed
    rw [← shared] at base sent held tag
    exact .asked base (everyone others calmed fun i _ => calm i) sent held tag silence
  | answered base calm accounted =>
    obtain ⟨calmed,kept⟩ := calm_advance able base (calm move.1) peaceful timely seen (fun _ => silent) advanced
    rw [← task] at calmed
    rw [← shared] at kept
    exact .answered (base.kept kept) (everyone others calmed fun i _ => calm i) (accounted.of_sent kept.sent)

/-- The reply to the one request that is open; any other message would be the second one to its request. -/
theorem Phase.message_step (device : List UInt8) {message : DHandleEntryTxRx} (phase : Phase target messages pool)
    (answers : ∃ request ∈ pool.shared.sent, Answers request.2 message)
    (once : ((messages ++ [message]).map DHandleEntryTxRx.seqNumber).Nodup)
    (advanced : spawn pool.shared (.onBytesReceived device message) = some (next.shared,next.tasks move.1))
    (others : ∀ i, i ≠ move.1 → next.tasks i = pool.tasks i) : Phase target (messages ++ [message]) next := by
  cases phase with
  | missing quiet starting accounted => exact absurd once (unexpected accounted answers)
  | led leader base calm own accounted => exact absurd once (unexpected accounted answers)
  | answered base calm accounted => exact absurd once (unexpected accounted answers)
  | asked base calm sent held tag silence =>
    obtain ⟨request,member,reply,tagged,number,name,index⟩ := answers
    rw [sent,List.mem_singleton] at member
    subst member
    have became : some (pool.shared,Task.reply message .checkTag) = some (next.shared,next.tasks move.1) :=
      (if_pos reply).symm.trans advanced
    obtain ⟨shared,task⟩ := Prod.mk.inj (Option.some.inj became)
    rw [shared] at base sent held tag
    refine .led move.1 base ?_ ?_ ?_
    · intro i other
      rw [others i other]
      exact calm i
    · rw [← task]
      exact .answering (number ▸ held) (tagged ▸ tag) name index trivial
    · unfold Accounted
      rw [silence,sent]
      exact congrArg (· :: []) number

theorem idle_of_message {task : Task} {device : List UInt8} {message : DHandleEntryTxRx} {after : Shared × Task}
    (advanced : advance host shared task (.onBytesReceived device message) = some after) : task = .idle := by
  cases task with
  | idle => rfl
  | make call pc => cases pc <;> cases advanced
  | noticeDevice device =>
    simp only [advance] at advanced
    split at advanced <;> cases advanced
  | clear locks => cases locks <;> cases advanced
  | _ => cases advanced

theorem Phase.step (able : Able host target) (phase : Phase target messages pool)
    (peaceful : Peaceful target pool.shared (pool.tasks move.1) move.2) (timely : Timely pool.shared (pool.tasks move.1))
    (seen : Seen pool.shared (pool.tasks move.1)) (once : ((messages ++ received [move]).map DHandleEntryTxRx.seqNumber).Nodup)
    (taken : fires (Pool.step (advance host)) pool move next) : Phase target (messages ++ received [move]) next := by
  obtain ⟨i,choice⟩ := move
  cases choice with
  | onBytesReceived device message =>
    obtain ⟨after,advanced,shared,task,others⟩ := Pool.step_cases taken
    have idle := idle_of_message advanced
    rw [idle] at advanced peaceful
    rw [← Prod.eta after,← shared,← task] at advanced
    exact Phase.message_step device phase peaceful once advanced others
  | _ =>
    have same := phase.silent_step able peaceful timely seen nofun taken
    change Phase target (messages ++ []) next
    rwa [List.append_nil]

theorem received_append (moves later : List (Pool.Move Choice)) : received (moves ++ later) = received moves ++ received later :=
  List.filterMap_append

theorem phase_of_run (able : Able host target) (quiet : Quiet target shared) {moves : List (Pool.Move Choice)}
    (run : Reaches (guarded (fires (Pool.step (advance host))) fun pool move => Pool.Undisturbed cuts pool move ∧
      Peaceful target pool.shared (pool.tasks move.1) move.2 ∧ Timely pool.shared (pool.tasks move.1))
      ⟨shared,fun _ => .idle⟩ moves pool)
    (once : ((received moves).map DHandleEntryTxRx.seqNumber).Nodup) :
    Phase target (received moves) pool ∧ ∀ i, Seen pool.shared (pool.tasks i) := by
  induction run with
  | nil =>
    refine ⟨.missing quiet (fun _ => trivial) ?_,fun _ => trivial⟩
    unfold Accounted
    rw [quiet.unsent]
    rfl
  | snoc move _ taken ih =>
    rw [received_append] at once ⊢
    have before := once
    rw [List.map_append] at before
    obtain ⟨phase,seen⟩ := ih (List.Nodup.of_append_left before)
    obtain ⟨⟨undisturbed,peaceful,timely⟩,fired⟩ := taken
    exact ⟨phase.step able peaceful timely (seen move.1) once fired,seen_step seen undisturbed timely fired⟩

theorem Leading.goes_on (host : Host) {stub : UInt64} {lock : Nat} {joined : Bool} {task : Task}
    (leading : Leading target stub lock shared joined task) :
    task ≠ .idle ∧ ∃ choice, choice ≠ .timeout ∧ (advance host shared task choice).isSome := by
  cases leading with
  | creating fits early fresh unsent =>
    refine ⟨(fun same => by cases same),.go,go_ne_timeout,?_⟩
    rename_i call pc
    cases pc with
    | nextSeqNumber _ => rfl
    | setSeqNumber _ _ => rfl
    | getNegoStatus attempt =>
      simp only [advance,advanceMake]
      split <;> rfl
    | setDoing attempt => rfl
    | attachThreadLockInfo attempt =>
      simp only [advance,advanceMake]
      split <;> rfl
    | _ => exact early.elim
  | locking fits same held fresh unsent =>
    refine ⟨(fun same => by cases same),.go,go_ne_timeout,?_⟩
    simp only [advance,advanceMake]
    split <;> rfl
  | sending fits same held tag unsent => exact ⟨(fun same => by cases same),.sent true,(fun same => by cases same),rfl⟩
  | answering held tag name index replies => exact ⟨(fun same => by cases same),.go,go_ne_timeout,rfl⟩
  | waking held session pending => exact ⟨(fun same => by cases same),.go,go_ne_timeout,rfl⟩

theorem Complete.stuck {task : Task} {i : Nat} (complete : Complete host pool) (here : pool.tasks i = task) (begun : task ≠ .idle) :
    ¬ ∃ choice, choice ≠ .timeout ∧ (advance host pool.shared task choice).isSome := by
  intro moves
  obtain ⟨choice,other,goes⟩ := moves
  rw [← here,complete i choice (here ▸ begun) other] at goes
  cases goes

/-- No call fails: what it returned so far is the stub, and once nothing can go on all have returned it. -/
theorem Phase.agrees (phase : Phase target messages pool) : ∃ stub, stub ≠ 0 ∧
    (∀ i result, pool.tasks i = .returned result → result = some stub) ∧
    (Complete host pool → (∀ request ∈ pool.shared.sent, ∃ message ∈ messages, Answers request.2 message) →
      ∀ i, IsCall (pool.tasks i) → pool.tasks i = .returned (some stub)) := by
  cases phase with
  | missing quiet starting accounted =>
    refine ⟨1,nofun,?_,?_⟩
    · intro i result returned
      have starts := starting i
      rw [returned] at starts
      exact starts.elim
    · intro complete answered i call
      have starts := starting i
      cases task : pool.tasks i with
      | make called pc =>
        rw [task] at starts
        obtain ⟨fits,same⟩ := starts
        subst same
        have missing := (sameStub_of_fits fits).trans quiet.missing
        unfold sameStub at missing
        obtain ⟨address,nonzero,free⟩ := quiet.room
        refine absurd ⟨.allocate address,nofun,?_⟩ (complete.stuck task nofun)
        simp only [advance,advanceMake,missing,nonzero,free,or_self,if_false,Option.isSome_some]
      | returned result =>
        rw [task] at starts
        exact starts.elim
      | _ =>
        rw [task] at call
        exact call.elim
  | led leader base calm own accounted =>
    rename_i stub lock joined
    refine ⟨stub,base.nonzero,?_,?_⟩
    · intro i result returned
      by_cases same : i = leader
      · rw [← same,returned] at own
        cases own
      · have stands := calm i same
        rw [returned] at stands
        exact stands
    · intro complete answered i call
      obtain ⟨begun,goes⟩ := own.goes_on host
      exact absurd goes (complete.stuck rfl begun)
  | asked base calm sent held tag silence =>
    rename_i stub lock request
    refine ⟨stub,base.nonzero,?_,?_⟩
    · intro i result returned
      have stands := calm i
      rw [returned] at stands
      exact stands
    · intro complete answered
      obtain ⟨message,member,-⟩ := answered request (by rw [sent]; exact List.mem_singleton_self request)
      rw [silence] at member
      cases member
  | answered base calm accounted =>
    rename_i stub lock
    refine ⟨stub,base.nonzero,?_,?_⟩
    · intro i result returned
      have stands := calm i
      rw [returned] at stands
      exact stands
    · intro complete answered i call
      obtain ended | goes := calm_goes_on host base (calm i) call
      · exact ended
      · refine absurd goes (complete.stuck rfl ?_)
        intro idle
        rw [idle] at call
        exact call.elim

end Run

/-- Calls for one stub agree: each that returned returned the same stub, once nothing can go on and the request is
answered all have returned it, and none of them takes more than 122 sections. -/
theorem concurrent_calls_agree (host : Host) (target : Call) {shared : Shared} (quiet : Quiet target shared)
    (able : Able host target) {moves : List (Pool.Move Choice)} {pool : Pool Shared Task}
    (run : Reaches (guarded (fires (Pool.step (advance host))) fun pool move => Pool.Undisturbed cuts pool move ∧
      Peaceful target pool.shared (pool.tasks move.1) move.2 ∧ Timely pool.shared (pool.tasks move.1))
      ⟨shared,fun _ => .idle⟩ moves pool)
    (once : ((received moves).map DHandleEntryTxRx.seqNumber).Nodup) :
    (∃ stub, stub ≠ 0 ∧ (∀ i result, pool.tasks i = .returned result → result = some stub) ∧
      (Complete host pool → (∀ request ∈ pool.shared.sent, ∃ message ∈ received moves, Answers request.2 message) →
        ∀ i, IsCall (pool.tasks i) → pool.tasks i = .returned (some stub))) ∧
      ∀ i, IsCall (pool.tasks i) → moves.countP (fun move => move.1 = i) ≤ 122 :=
  ⟨(phase_of_run able quiet run once).1.agrees,fun _ call => call_bounded (run.mono fun _ _ _ taken => taken.2) call⟩

instance (request message : DHandleEntryTxRx) : Decidable (Answers request message) := by
  unfold Answers IsReply
  infer_instance

instance (target : Call) (shared : Shared) (task : Task) (choice : Choice) : Decidable (Peaceful target shared task choice) := by
  unfold Peaceful Fits
  split <;> infer_instance

instance (shared : Shared) (task : Task) : Decidable (Timely shared task) := by
  unfold Timely
  split <;> infer_instance

def resultOf : Task → Option (Option UInt64)
  | .returned result => some result
  | _ => none

theorem eq_returned {task : Task} {result : Option UInt64} (same : resultOf task = some result) : task = .returned result := by
  cases task with
  | returned other => exact congrArg Task.returned (Option.some.inj same)
  | _ => cases same

theorem quiet_empty : Quiet sampleCall .empty := ⟨rfl,rfl,rfl,rfl,1,by decide,by decide⟩

theorem able_sample : Able sampleHost sampleCall := ⟨by decide,by decide,by decide,rfl⟩

/-- The second call looks for the lock nine times before it is there, finds it with its last look, and waits for the reply as the
first one does; a third call comes when the lock is gone and the status is NEGO_FINISHED. -/
def joinedRun : List (Pool.Move Choice) :=
  (sampleRequest 0).take 6 ++ [(1,.makeRemoteBinder sampleCall),(1,.allocate 8)] ++ List.replicate 20 (1,.go) ++
    (sampleRequest 0).drop 6 ++ List.replicate 2 (1,.go) ++
    (2,.onBytesReceived [66] (sampleReply 1 40)) :: List.replicate 9 (2,.go) ++ List.replicate 3 (0,.go) ++
    [(3,.makeRemoteBinder sampleCall),(3,.allocate 8)] ++ List.replicate 3 (3,.go) ++ List.replicate 3 (1,.go)

theorem concurrent_calls_agree_sample :
    ∃ pool, Reaches (fires (Pool.step (advance sampleHost))) started joinedRun pool ∧
      pool.tasks 0 = .returned (some 7) ∧ pool.tasks 1 = .returned (some 7) ∧ pool.tasks 3 = .returned (some 7) ∧
      joinedRun.countP (fun move => move.1 = 1) ≤ 122 ∧
      ∀ i result, pool.tasks i = .returned result → result = some 7 := by
  obtain ⟨pool,run,final⟩ := Pool.exists_of_foldlM_undisturbed (advance sampleHost) cuts
    (fun pool move => Peaceful sampleCall pool.shared (pool.tasks move.1) move.2 ∧ Timely pool.shared (pool.tasks move.1))
    started joinedRun 4 (by decide) (fun _ _ _ _ => rfl) (fun pool => decide (resultOf (pool.tasks 0) = some (some 7)) &&
      decide (resultOf (pool.tasks 1) = some (some 7)) && decide (resultOf (pool.tasks 3) = some (some 7))) (by decide +kernel)
  simp only [Bool.and_eq_true,decide_eq_true_eq] at final
  have first := eq_returned final.1.1
  have second := eq_returned final.1.2
  obtain ⟨⟨stub,-,agree,-⟩,bounded⟩ := concurrent_calls_agree sampleHost sampleCall quiet_empty able_sample run (by decide)
  have same := agree 0 (some 7) first
  rw [← same] at agree
  exact ⟨pool,run.mono fun _ _ _ taken => taken.2,first,second,eq_returned final.2,bounded 1 (by rw [second]; trivial),agree⟩

/-- The second call finds the stub while its status is still NEGO_INIT and takes the lock; the first one
finds the lock taken. -/
def overtakingRun : List (Pool.Move Choice) :=
  [(0,.makeRemoteBinder sampleCall),(0,.allocate 7),(0,.go),(0,.go),(1,.makeRemoteBinder sampleCall),(1,.allocate 8),
    (1,.go),(1,.go),(0,.go),(1,.go),(1,.go),(0,.go),(0,.go),(0,.go),(0,.references 3),(1,.go),(1,.sent true),
    (2,.onBytesReceived [66] (sampleReply 1 40))] ++ List.replicate 9 (2,.go) ++ List.replicate 3 (1,.go)

theorem call_fails_while_other_negotiates :
    ∃ pool, Reaches (guarded (fires (Pool.step (advance sampleHost))) fun pool move =>
        Peaceful sampleCall pool.shared (pool.tasks move.1) move.2) started overtakingRun pool ∧
      ((received overtakingRun).map DHandleEntryTxRx.seqNumber).Nodup ∧
      (∀ request ∈ pool.shared.sent, ∃ message ∈ received overtakingRun, Answers request.2 message) ∧
      pool.tasks 0 = .returned none ∧ pool.tasks 1 = .returned (some 7) := by
  obtain ⟨pool,run,final⟩ := Reaches.exists_of_foldlM_guarded (Pool.step (advance sampleHost))
    (fun pool move => Peaceful sampleCall pool.shared (pool.tasks move.1) move.2)
    started overtakingRun (fun pool => decide (∀ request ∈ pool.shared.sent, ∃ message ∈ received overtakingRun, Answers request.2 message) &&
      decide (resultOf (pool.tasks 0) = some none) && decide (resultOf (pool.tasks 1) = some (some 7))) (by decide +kernel)
  simp only [Bool.and_eq_true,decide_eq_true_eq] at final
  exact ⟨pool,run,by decide,final.1.1,eq_returned final.1.2,eq_returned final.2⟩

end CommunicationIpc.ConcurrentCalls
