import CommunicationIpc.ServiceSteps

/-! Stubs, tags and sessions of `DBinderService` under concurrent calls, replies and death
notices: when the three containers agree again once nothing is in progress. -/
namespace CommunicationIpc.StubRegistry
open CommunicationIpc.Library CommunicationIpc.Kernel.Negotiation CommunicationIpc.Kernel.Service CommunicationIpc.ServiceSteps

/-- Every tag names a registered stub, and no stub has two. -/
structure Linked (registry : Registry) : Prop where
  distinct : registry.dBinderStubRegisted.Nodup
  tagged : ∀ tag stub, registry.mapDBinderStubRegisters.lookup tag = some stub → stub ∈ registry.dBinderStubRegisted
  single : ∀ tag other stub, registry.mapDBinderStubRegisters.lookup tag = some stub →
    registry.mapDBinderStubRegisters.lookup other = some stub → tag = other

theorem Linked.eraseStub {registry : Registry} (linked : Linked registry) (stub : UInt64) :
    Linked (Shared.eraseStub registry stub) := by
  -- a tag that is left had its stub before, and it is not the stub that goes
  have left : ∀ tag other, (Shared.eraseStub registry stub).mapDBinderStubRegisters.lookup tag = some other →
      registry.mapDBinderStubRegisters.lookup tag = some other ∧ other ≠ stub := by
    intro tag other found
    simp only [Shared.eraseStub] at found
    split at found
    · rename_i erased known
      have apart : tag ≠ erased := by
        intro same
        rw [same,AList.lookup_erase] at found
        cases found
      rw [AList.lookup_erase_ne apart] at found
      refine ⟨found,?_⟩
      intro same
      rw [same] at found
      exact apart (linked.single tag erased stub found (tagOf_some known))
    · rename_i missing
      refine ⟨found,?_⟩
      intro same
      rw [same] at found
      exact tagOf_none missing tag found
  refine ⟨linked.distinct.erase stub,?_,?_⟩
  · intro tag other found
    obtain ⟨before,apart⟩ := left tag other found
    exact (List.mem_erase_of_ne apart).mpr (linked.tagged tag other before)
  · intro tag other named first second
    exact linked.single tag other named (left tag named first).1 (left other named second).1

theorem Linked.foldl_eraseStub {registry : Registry} (linked : Linked registry) (stubs : List UInt64) :
    Linked (stubs.foldl Shared.eraseStub registry) := by
  induction stubs generalizing registry with
  | nil => exact linked
  | cons stub stubs ih => exact ih (linked.eraseStub stub)

theorem Linked.addStubByTag {shared : Shared} (linked : Linked shared.registry) {stub : UInt64}
    (registered : stub ∈ shared.registry.dBinderStubRegisted) : Linked (shared.addStubByTag stub).1.registry := by
  unfold Shared.addStubByTag
  split
  · exact linked
  · rename_i missing
    dsimp only
    split
    · exact linked
    · refine ⟨linked.distinct,?_,?_⟩
      · intro tag other found
        by_cases same : tag = shared.stubTagNum
        · rw [same,AList.lookup_insert] at found
          cases found
          exact registered
        · rw [AList.lookup_insert_ne same] at found
          exact linked.tagged tag other found
      · intro tag other named first second
        by_cases left : tag = shared.stubTagNum
        · by_cases right : other = shared.stubTagNum
          · rw [left,right]
          · rw [left,AList.lookup_insert] at first
            rw [AList.lookup_insert_ne right] at second
            cases first
            exact absurd second (tagOf_none missing other)
        · rw [AList.lookup_insert_ne left] at first
          by_cases right : other = shared.stubTagNum
          · rw [right,AList.lookup_insert] at second
            cases second
            exact absurd first (tagOf_none missing tag)
          · rw [AList.lookup_insert_ne right] at second
            exact linked.single tag other named first second

theorem Linked.register {registry : Registry} (linked : Linked registry) {stub : UInt64}
    (fresh : stub ∉ registry.dBinderStubRegisted) :
    Linked { registry with dBinderStubRegisted := registry.dBinderStubRegisted ++ [stub] } := by
  refine ⟨?_,?_,linked.single⟩
  · rw [List.nodup_append]
    refine ⟨linked.distinct,List.nodup_singleton stub,?_⟩
    intro first member last only same
    rw [List.mem_singleton.mp only] at same
    exact fresh (same ▸ member)
  · intro tag other found
    exact List.mem_append_left _ (linked.tagged tag other found)

theorem foldl_eraseStub_sessionObject (registry : Registry) (stubs : List UInt64) :
    (stubs.foldl Shared.eraseStub registry).sessionObject = registry.sessionObject := by
  induction stubs generalizing registry with
  | nil => rfl
  | cons stub stubs ih => exact ih (Shared.eraseStub registry stub)

theorem mem_foldl_eraseStub {registry : Registry} {stubs : List UInt64} {stub : UInt64} (kept : stub ∉ stubs)
    (member : stub ∈ registry.dBinderStubRegisted) : stub ∈ (stubs.foldl Shared.eraseStub registry).dBinderStubRegisted := by
  induction stubs generalizing registry with
  | nil => exact member
  | cons first stubs ih =>
    rw [List.mem_cons,not_or] at kept
    exact ih kept.2 ((List.mem_erase_of_ne kept.1).mpr member)

def running : Task → Bool
  | .idle | .returned _ | .finished => false
  | _ => true

/-- A failed call that has deleted the stub and not yet detached its session. -/
def Pending (task : Task) (stub : UInt64) : Prop :=
  ∃ call attempt, task = .make call (.detachSessionObject attempt) ∧ attempt.stub = stub

/-- What one step does to the registry. -/
inductive Effect (host : Host) (shared : Shared) : Task → Shared × Task → Prop
  | quiet {task : Task} {after : Shared × Task} (same : after.1.registry = shared.registry)
      (settled : ∀ stub, ¬ Pending task stub) : Effect host shared task after
  | register {task : Task} {after : Shared × Task} (stub : UInt64) (given : stub ≠ 0) (fresh : stub ∉ shared.registry.dBinderStubRegisted)
      (made : after.1.registry =
        { shared.registry with dBinderStubRegisted := shared.registry.dBinderStubRegisted ++ [stub] })
      (settled : ∀ stub, ¬ Pending task stub) : Effect host shared task after
  | tag {after : Shared × Task} (call : Call) (attempt : Attempt) (lock : Nat)
      (created : (createMessage host shared call attempt).isSome)
      (made : after.1.registry = (shared.addStubByTag attempt.stub).1.registry) :
      Effect host shared (.make call (.createMessage attempt lock)) after
  | deleteOne (call : Call) (attempt : Attempt) : Effect host shared (.make call (.deleteDBinderStub attempt))
      (shared.deleteDBinderStub call.serviceName call.deviceID call.pid call.uid,.make call (.detachSessionObject attempt))
  | detachOwn (call : Call) (attempt : Attempt) : Effect host shared (.make call (.detachSessionObject attempt))
      (shared.detachSessionObject attempt.stub,.returned none)
  | detach {task : Task} {after : Shared × Task} (stub : UInt64) (made : after.1 = shared.detachSessionObject stub)
      (settled : ∀ stub, ¬ Pending task stub) : Effect host shared task after
  | attach {after : Shared × Task} (message : DHandleEntryTxRx) (stub : UInt64)
      (made : after.1 = shared.attachSessionObject (initializeSession message) stub) :
      Effect host shared (.reply message (.attachSession stub)) after
  | deleteMany {after : Shared × Task} (device : List UInt8) (services : List (List UInt16)) (service : List UInt16)
      (made : after.1 = shared.deleteDBinderStubs service device) :
      Effect host shared (.notice device services (.delete service)) after

theorem not_pending_make {call : Call} {pc : MakePc} (other : ∀ attempt, pc ≠ .detachSessionObject attempt) (stub : UInt64) :
    ¬ Pending (.make call pc) stub := by
  intro pending
  obtain ⟨_,attempt,same,-⟩ := pending
  cases same
  exact other attempt rfl

theorem not_pending_of_other (task : Task) (other : ∀ call pc, task ≠ .make call pc) (stub : UInt64) : ¬ Pending task stub := by
  intro pending
  obtain ⟨call,attempt,same,-⟩ := pending
  exact other call _ same

theorem effect_of_makeStep {host : Host} {shared : Shared} {call : Call} {pc : MakePc} {choice : Choice}
    {after : Shared × Task} (step : MakeStep host shared call pc choice after) : Effect host shared (.make call pc) after := by
  cases step with
  | made missing nonzero fresh => exact .register _ nonzero fresh rfl (not_pending_make fun _ => nofun)
  | created done =>
    refine .tag call _ _ ?_ (by rw [createMessage_shared done])
    rw [done]
    rfl
  | deleted attempt => exact .deleteOne call attempt
  | detached attempt => exact .detachOwn call attempt
  | _ => exact .quiet rfl (not_pending_make fun _ => nofun)

theorem effect_of_advanceReply {host : Host} {shared : Shared} {message : DHandleEntryTxRx} {pc : ReplyPc} :
    Effect host shared (.reply message pc) (advanceReply shared message pc) := by
  have settled := not_pending_of_other (.reply message pc) (fun _ _ => nofun)
  cases pc with
  | checkStub stub =>
    simp only [advanceReply]
    split <;> exact .quiet rfl settled
  | querySession stub =>
    simp only [advanceReply]
    split
    · exact .quiet rfl settled
    · split
      · exact .quiet rfl settled
      · split <;> exact .quiet rfl settled
  | detachSession stub => exact .detach stub rfl settled
  | attachSession stub => exact .attach message stub rfl
  | _ => exact .quiet rfl settled

theorem effect_of_noticeStep {host : Host} {shared : Shared} {device : List UInt8} {services : List (List UInt16)}
    {pc : NoticePc} {after : Shared × Task} (step : NoticeStep shared device services pc after) :
    Effect host shared (.notice device services pc) after := by
  have settled := not_pending_of_other (.notice device services pc) (fun _ _ => nofun)
  cases step with
  | locks | ends | skips | finds | detached => exact .quiet rfl settled
  | detaches service stub => exact .detach stub rfl settled
  | deletes service => exact .deleteMany device services service rfl

theorem effect_of_spawnStep {host : Host} {shared : Shared} {choice : Choice} {after : Shared × Task}
    (step : SpawnStep shared choice after) : Effect host shared .idle after := by
  have settled := not_pending_of_other (.idle) (fun _ _ => nofun)
  cases step <;> exact .quiet rfl settled

theorem effect_of_advance {host : Host} {shared : Shared} {task : Task} {choice : Choice} {after : Shared × Task}
    (advanced : advance host shared task choice = some after) : Effect host shared task after := by
  cases task with
  | idle => exact effect_of_spawnStep (spawnStep_of_spawn advanced)
  | make call pc => exact effect_of_makeStep (makeStep_of_advance advanced)
  | reply message pc =>
    simp only [advance,onGo_eq_some,Option.some.injEq] at advanced
    obtain ⟨-,advanced⟩ := advanced
    rw [← advanced]
    exact effect_of_advanceReply
  | wake seqNumber pc =>
    simp only [advance,onGo_eq_some,Option.some.injEq] at advanced
    obtain ⟨-,advanced⟩ := advanced
    refine .quiet ?_ (not_pending_of_other _ fun _ _ => nofun)
    rw [← advanced]
    exact advanceWake_registry shared seqNumber pc
  | noticeDevice device =>
    simp only [advance] at advanced
    split at advanced <;> obtain ⟨-,made⟩ := onGo_eq_some.mp advanced <;> cases made <;> exact .quiet rfl (not_pending_of_other _ fun _ _ => nofun)
  | notice device services pc => exact effect_of_noticeStep (noticeStep_of_advance (onGo_eq_some.mp advanced).2)
  | closed networkId =>
    obtain ⟨-,made⟩ := onGo_eq_some.mp advanced
    cases made
    exact .quiet rfl (not_pending_of_other _ fun _ _ => nofun)
  | clear locks =>
    cases locks <;> obtain ⟨-,made⟩ := onGo_eq_some.mp advanced <;> cases made <;> exact .quiet rfl (not_pending_of_other _ fun _ _ => nofun)
  | returned result => cases advanced
  | finished => cases advanced

theorem lookup_detached {shared : Shared} {stub other : UInt64}
    (found : ((shared.detachSessionObject stub).registry.sessionObject.lookup other).isSome) :
    other ≠ stub ∧ (shared.registry.sessionObject.lookup other).isSome := by
  have apart : other ≠ stub := by
    intro same
    subst same
    change ((shared.registry.sessionObject.erase other).lookup other).isSome at found
    rw [AList.lookup_erase] at found
    cases found
  change ((shared.registry.sessionObject.erase stub).lookup other).isSome at found
  rw [AList.lookup_erase_ne apart] at found
  exact ⟨apart,found⟩

theorem lookup_attached {shared : Shared} {session : SessionInfo} {stub other : UInt64}
    (found : ((shared.attachSessionObject session stub).registry.sessionObject.lookup other).isSome)
    (before : shared.registry.sessionObject.lookup other = none) : other = stub := by
  by_contra apart
  simp only [Shared.attachSessionObject,Registry.attachSessionObject] at found
  split at found
  · rw [before] at found
    cases found
  · dsimp only at found
    rw [AList.lookup_insert_ne apart,before] at found
    cases found

theorem Linked.of_frame {registry other : Registry} (linked : Linked registry)
    (tags : other.mapDBinderStubRegisters = registry.mapDBinderStubRegisters)
    (stubs : other.dBinderStubRegisted = registry.dBinderStubRegisted) : Linked other := by
  refine ⟨by rw [stubs]; exact linked.distinct,?_,?_⟩
  · rw [tags,stubs]
    exact linked.tagged
  · rw [tags]
    exact linked.single

/-- The stub for which a call may still ask for a message, in this attempt or in the next. -/
def requests? : MakePc → Option UInt64
  | .nextSeqNumber stub | .setSeqNumber stub _ | .getSeqNumber stub => some stub
  | .getNegoStatus attempt | .setDoing attempt | .attachThreadLockInfo attempt | .createMessage attempt _ => some attempt.stub
  | .sendDataToRemote attempt _ _ | .waitStatus attempt _ | .waitLock attempt _ | .waitReply attempt _ | .timeoutDetach attempt _
  | .timeoutReady attempt _ | .resetStatus attempt .waitReplyTimeout | .failed attempt .waitReplyTimeout =>
    if attempt.before+1 < retryTimes then some attempt.stub else none
  | _ => none

/-- A task that has found the stub and goes on to use it: a call before its last request, a reply behind its first look-up. -/
def relies (shared : Shared) (stub : UInt64) : Task → Bool
  | .make _ pc => requests? pc = some stub
  | .reply _ .checkTag => false
  | .reply message _ => shared.registry.mapDBinderStubRegisters.lookup message.stub = some stub
  | _ => false

/-- A notice for the service of the stub, between its `FindDBinderStub` and its `DeleteDBinderStub`. -/
def removing (shared : Shared) (stub : UInt64) : Task → Bool
  | .notice device _ (.detach service _) | .notice device _ (.delete service) =>
    Shared.isServiceOf (shared.stubs stub) service device
  | _ => false

/-- The stubs that the next section of a task deletes. -/
def deleting (shared : Shared) : Task → List UInt64
  | .make call (.deleteDBinderStub _) => (sameStub shared call).toList
  | .notice device _ (.delete service) => shared.findDBinderStub service device
  | _ => []

/-- A stub is deleted between its look-up by another task and what that does with it, or a session is stored between the
`FindDBinderStub` and the `DeleteDBinderStub` of a notice for the service of its stub. -/
def overtakes (shared : Shared) (task other : Task) : Bool :=
  (deleting shared task).any (fun stub => relies shared stub other) ||
    match task with
    | .reply _ (.attachSession stub) => (shared.registry.sessionObject.lookup stub).isNone && removing shared stub other
    | _ => false

/-- A call that failed deletes no other stub than its own. -/
def findsOwn (pool : Pool Shared Task) (move : Pool.Move Choice) : Bool :=
  match pool.tasks move.1 with
  | .make call (.deleteDBinderStub attempt) => (sameStub pool.shared call).all fun stub => stub = attempt.stub
  | _ => true

def Timely (pool : Pool Shared Task) (move : Pool.Move Choice) : Prop := Pool.Undisturbed overtakes pool move ∧ findsOwn pool move = true

/-- What a reply has looked up is what its tag still stands for. -/
def Followed (registry : Registry) (tag : UInt64) : ReplyPc → Prop
  | .checkTag => True
  | .checkStub stub => stub = 0 ∨ registry.mapDBinderStubRegisters.lookup tag = some stub
  | .queryTag | .detachTag | .attachTag => (registry.mapDBinderStubRegisters.lookup tag).isSome
  | .querySession stub | .detachSession stub | .attachSession stub => registry.mapDBinderStubRegisters.lookup tag = some stub

/-- The stubs whose sessions a notice is still to detach. -/
def toDetach : Task → List UInt64
  | .notice _ _ (.detach _ stubs) => stubs
  | _ => []

/-- What a task has found is still so. -/
structure Placed (shared : Shared) (pending : UInt64 → Prop) (task : Task) : Prop where
  asked : ∀ call pc stub, task = .make call pc → requests? pc = some stub → stub ∈ shared.registry.dBinderStubRegisted
  followed : ∀ message pc, task = .reply message pc → Followed shared.registry message.stub pc
  cleared : ∀ stub ∈ shared.registry.dBinderStubRegisted, removing shared stub task = true →
    (shared.registry.sessionObject.lookup stub).isSome = true → stub ∈ toDetach task ∨ pending stub

def pendingIn (pool : Pool Shared Task) (stub : UInt64) : Prop := ∃ i, Pending (pool.tasks i) stub

structure Consistent (pool : Pool Shared Task) : Prop where
  linked : Linked pool.shared.registry
  nonzero : (0 : UInt64) ∉ pool.shared.registry.dBinderStubRegisted
  owned : ∀ stub, (pool.shared.registry.sessionObject.lookup stub).isSome →
    stub ∈ pool.shared.registry.dBinderStubRegisted ∨ pendingIn pool stub
  placed : ∀ i, Placed pool.shared (pendingIn pool) (pool.tasks i)

/-- The service and the device of a stub stay, while it is registered. -/
def SameNames (shared after : Shared) : Prop :=
  ∀ stub ∈ shared.registry.dBinderStubRegisted, ∀ service device,
    Shared.isServiceOf (after.stubs stub) service device = Shared.isServiceOf (shared.stubs stub) service device

theorem sameNames_of_stubs {shared after : Shared} (same : after.stubs = shared.stubs) : SameNames shared after := by
  intro stub _ service device
  rw [same]

theorem sameNames_setNegoStatus (shared : Shared) (stub : UInt64) (status : NegotiationStatus) :
    SameNames shared (shared.setNegoStatus stub status) := by
  intro other _ service device
  simp only [Shared.setNegoStatus,Shared.isServiceOf]
  split <;> rfl

theorem sameNames_setSeqNumber (shared : Shared) (stub : UInt64) (seqNum : UInt32) :
    SameNames shared (shared.setSeqNumber stub seqNum) := by
  intro other _ service device
  simp only [Shared.setSeqNumber,Shared.isServiceOf]
  split <;> rfl

theorem sameNames_newStub (shared : Shared) (call : Call) {stub : UInt64} (fresh : stub ∉ shared.registry.dBinderStubRegisted) :
    SameNames shared (newStub shared call stub) := by
  intro other registered service device
  have apart : other ≠ stub := fun same => fresh (same ▸ registered)
  simp only [newStub,if_neg apart]

theorem addStubByTag_stubs (shared : Shared) (stub : UInt64) : (shared.addStubByTag stub).1.stubs = shared.stubs := by
  unfold Shared.addStubByTag
  split
  · rfl
  · dsimp only
    split <;> rfl

theorem deleteDBinderStub_stubs (shared : Shared) (service : List UInt16) (device : List UInt8) (pid uid : UInt32) :
    (shared.deleteDBinderStub service device pid uid).stubs = shared.stubs := by
  unfold Shared.deleteDBinderStub
  split <;> rfl

theorem sameNames_of_makeStep {host : Host} {shared : Shared} {call : Call} {pc : MakePc} {choice : Choice} {after : Shared × Task}
    (step : MakeStep host shared call pc choice after) : SameNames shared after.1 := by
  cases step with
  | made missing nonzero fresh => exact sameNames_newStub shared call fresh
  | stored stub seqNum => exact sameNames_setSeqNumber shared stub seqNum
  | doing | reset | expired | finishes | fails => exact sameNames_setNegoStatus shared _ _
  | created done =>
    rw [createMessage_shared done]
    exact sameNames_of_stubs (addStubByTag_stubs shared _)
  | deleted => exact sameNames_of_stubs (deleteDBinderStub_stubs shared _ _ _ _)
  | _ => exact sameNames_of_stubs rfl

theorem sameNames_of_advanceReply (shared : Shared) (message : DHandleEntryTxRx) (pc : ReplyPc) :
    SameNames shared (advanceReply shared message pc).1 := by
  refine sameNames_of_stubs ?_
  cases pc with
  | checkStub stub =>
    simp only [advanceReply]
    split <;> rfl
  | querySession stub =>
    simp only [advanceReply]
    split
    · rfl
    · split
      · rfl
      · split <;> rfl
  | _ => rfl

theorem advanceWake_stubs (shared : Shared) (seqNumber : UInt32) (pc : WakePc) :
    (advanceWake shared seqNumber pc).1.stubs = shared.stubs := by
  unfold advanceWake
  split
  · split <;> rfl
  · rfl
  · rfl

theorem sameNames_of_advance {host : Host} {shared : Shared} {task : Task} {choice : Choice} {after : Shared × Task}
    (advanced : advance host shared task choice = some after) : SameNames shared after.1 := by
  cases task with
  | idle =>
    cases spawnStep_of_spawn advanced with
    | clears stub => exact sameNames_setNegoStatus shared stub .init
    | _ => exact sameNames_of_stubs rfl
  | make call pc => exact sameNames_of_makeStep (makeStep_of_advance advanced)
  | reply message pc =>
    obtain ⟨-,made⟩ := onGo_eq_some.mp advanced
    rw [← Option.some.inj made]
    exact sameNames_of_advanceReply shared message pc
  | wake seqNumber pc =>
    obtain ⟨-,made⟩ := onGo_eq_some.mp advanced
    rw [← Option.some.inj made]
    exact sameNames_of_stubs (advanceWake_stubs shared seqNumber pc)
  | noticeDevice device =>
    simp only [advance] at advanced
    split at advanced <;> obtain ⟨-,made⟩ := onGo_eq_some.mp advanced <;> cases made <;> exact sameNames_of_stubs rfl
  | notice device services pc =>
    cases noticeStep_of_advance (onGo_eq_some.mp advanced).2 <;> exact sameNames_of_stubs rfl
  | closed networkId =>
    obtain ⟨-,made⟩ := onGo_eq_some.mp advanced
    cases made
    exact sameNames_of_stubs rfl
  | clear locks =>
    cases locks <;> obtain ⟨-,made⟩ := onGo_eq_some.mp advanced <;> cases made <;> exact sameNames_of_stubs rfl
  | returned result => cases advanced
  | finished => cases advanced

section Placed
variable {host : Host} {shared after : Shared} {pending pending' : UInt64 → Prop} {task : Task}

theorem placed_plain (calls : ∀ call pc, task ≠ .make call pc) (replies : ∀ message pc, task ≠ .reply message pc)
    (notices : ∀ stub, removing shared stub task = false) : Placed shared pending task where
  asked := fun call pc _ same => absurd same (calls call pc)
  followed := fun message pc same => absurd same (replies message pc)
  cleared := fun stub _ removes => absurd removes (Bool.eq_false_iff.mp (notices stub))

theorem placed_make {call : Call} {pc : MakePc} (asked : ∀ stub, requests? pc = some stub → stub ∈ shared.registry.dBinderStubRegisted) :
    Placed shared pending (.make call pc) where
  asked := by
    intro _ _ stub same asks
    cases same
    exact asked stub asks
  followed := by
    intro _ _ same
    cases same
  cleared := by
    intro _ _ removes
    cases removes

theorem placed_reply {message : DHandleEntryTxRx} {pc : ReplyPc} (followed : Followed shared.registry message.stub pc) :
    Placed shared pending (.reply message pc) where
  asked := by
    intro _ _ _ same
    cases same
  followed := by
    intro _ _ same
    cases same
    exact followed
  cleared := by
    intro _ _ removes
    cases removes

theorem placed_notice {device : List UInt8} {services : List (List UInt16)} {pc : NoticePc}
    (cleared : ∀ stub ∈ shared.registry.dBinderStubRegisted, removing shared stub (.notice device services pc) = true →
      (shared.registry.sessionObject.lookup stub).isSome = true → stub ∈ toDetach (.notice device services pc) ∨ pending stub) :
    Placed shared pending (.notice device services pc) where
  asked := by
    intro _ _ _ same
    cases same
  followed := by
    intro _ _ same
    cases same
  cleared := cleared

theorem followed_keep {registry later : Registry} {tag : UInt64} {pc : ReplyPc} (followed : Followed registry tag pc)
    (kept : ∀ stub, pc ≠ .checkTag → registry.mapDBinderStubRegisters.lookup tag = some stub →
      later.mapDBinderStubRegisters.lookup tag = some stub) : Followed later tag pc := by
  have known : ∀ {pc' : ReplyPc}, pc = pc' → pc' ≠ .checkTag → (registry.mapDBinderStubRegisters.lookup tag).isSome →
      (later.mapDBinderStubRegisters.lookup tag).isSome := by
    intro pc' same behind found
    obtain ⟨stub,is⟩ := Option.isSome_iff_exists.mp found
    rw [kept stub (same ▸ behind) is]
    rfl
  cases pc with
  | checkTag => trivial
  | checkStub stub => exact followed.imp_right (kept stub (by simp))
  | queryTag => exact known rfl (by simp) followed
  | detachTag => exact known rfl (by simp) followed
  | attachTag => exact known rfl (by simp) followed
  | querySession stub => exact kept stub (by simp) followed
  | detachSession stub => exact kept stub (by simp) followed
  | attachSession stub => exact kept stub (by simp) followed

/-- What another task does, where it deletes no stub that this one relies on, and stores no session that a notice would miss. -/
theorem Placed.keep (placed : Placed shared pending task) (names : SameNames shared after)
    (spared : ∀ stub ∈ shared.registry.dBinderStubRegisted, relies shared stub task = true →
      stub ∈ after.registry.dBinderStubRegisted)
    (tags : ∀ tag stub, shared.registry.mapDBinderStubRegisters.lookup tag = some stub → relies shared stub task = true →
      after.registry.mapDBinderStubRegisters.lookup tag = some stub)
    (sessions : ∀ stub ∈ after.registry.dBinderStubRegisted, (after.registry.sessionObject.lookup stub).isSome = true →
      pending' stub ∨ stub ∈ shared.registry.dBinderStubRegisted ∧
        ((shared.registry.sessionObject.lookup stub).isSome = true ∨ removing shared stub task = false))
    (pends : ∀ stub, (after.registry.sessionObject.lookup stub).isSome = true → pending stub → pending' stub) :
    Placed after pending' task := by
  refine ⟨?_,?_,?_⟩
  · intro call pc stub same asks
    refine spared stub (placed.asked call pc stub same asks) ?_
    rw [same]
    exact decide_eq_true asks
  · intro message pc same
    refine followed_keep (placed.followed message pc same) ?_
    intro stub behind found
    refine tags _ stub found ?_
    rw [same]
    cases pc with
    | checkTag => exact absurd rfl behind
    | _ => exact decide_eq_true found
  · intro stub registered removes session
    rcases sessions stub registered session with still | ⟨before,old⟩
    · exact .inr still
    · have same : removing after stub task = removing shared stub task := by
        unfold removing
        split <;> first | exact names stub before _ _ | rfl
      rw [same] at removes
      rcases old with old | spared
      · exact (placed.cleared stub before removes old).imp_right (pends stub session)
      · rw [removes] at spared
        cases spared

theorem placed_of_makeStep {call : Call} {pc : MakePc} {choice : Choice} {result : Shared × Task}
    (step : MakeStep host shared call pc choice result) (asked : ∀ stub, requests? pc = some stub → stub ∈ shared.registry.dBinderStubRegisted) :
    Placed result.1 pending result.2 := by
  cases step with
  | found same =>
    refine placed_make fun stub asks => ?_
    cases asks
    exact List.mem_of_find?_eq_some same
  | made missing nonzero fresh =>
    refine placed_make fun stub asks => ?_
    cases asks
    exact List.mem_append_right _ (List.mem_singleton.mpr rfl)
  | created done =>
    refine placed_make fun stub asks => ?_
    rw [createMessage_shared done,(addStubByTag_frame shared _).2]
    refine asked stub ?_
    simp only [requests?,Option.ite_none_right_eq_some] at asks ⊢
    exact asks.2
  | waits old begun =>
    refine placed_make fun stub asks => asked stub ?_
    simp only [requests?,Option.ite_none_right_eq_some] at asks ⊢
    exact asks.2
  | again more =>
    refine placed_make fun stub asks => asked stub ?_
    rw [requests?,if_pos more]
    exact asks
  | ended | finishes | keeps | detached => exact placed_plain (by simp) (by simp) fun _ => rfl
  | fails attempt failure =>
    cases failure with
    | waitReplyTimeout => exact placed_make asked
    | _ =>
      refine placed_make fun stub asks => ?_
      cases asks
  | refused | unsent | reset | unlocked | lockless | woken | sessionless | answered | cleans | locked | deleted =>
    refine placed_make fun stub asks => ?_
    cases asks
  | numbered | stored | loaded | requests | doing | attached | sent | unfinished | joined | retried | expired | expiredDetached
  | expiredReady => exact placed_make asked

theorem placed_of_advanceReply {message : DHandleEntryTxRx} {pc : ReplyPc} (nonzero : (0 : UInt64) ∉ shared.registry.dBinderStubRegisted)
    (followed : Followed shared.registry message.stub pc) :
    Placed (advanceReply shared message pc).1 pending (advanceReply shared message pc).2 := by
  have done : ∀ {later : Shared}, Placed later pending (.wake message.seqNumber .query) :=
    placed_plain (by simp) (by simp) fun _ => rfl
  have query : (shared.registry.mapDBinderStubRegisters.lookup message.stub).isSome →
      shared.registry.mapDBinderStubRegisters.lookup message.stub = some (shared.registry.queryStubPtr message.stub) := by
    intro known
    obtain ⟨stub,found⟩ := Option.isSome_iff_exists.mp known
    rw [Registry.queryStubPtr,found]
    rfl
  cases pc with
  | checkTag =>
    refine placed_reply ?_
    cases found : shared.registry.mapDBinderStubRegisters.lookup message.stub with
    | none => exact .inl (by rw [Registry.queryStubPtr,found]; rfl)
    | some stub => exact .inr (query (by rw [found]; rfl))
  | checkStub stub =>
    simp only [advanceReply]
    split
    · exact done
    · -- IsInvalidStub has found the stub, so its tag had one
      rename_i passes
      simp only [not_or,not_not] at passes
      have registered : stub ∈ shared.registry.dBinderStubRegisted := of_decide_eq_true passes.1
      refine placed_reply ?_
      rcases followed with zero | found
      · rw [zero] at registered
        exact absurd registered nonzero
      · exact Option.isSome_iff_exists.mpr ⟨stub,found⟩
  | queryTag => exact placed_reply (query followed)
  | querySession stub =>
    have known : (shared.registry.mapDBinderStubRegisters.lookup message.stub).isSome :=
      Option.isSome_iff_exists.mpr ⟨stub,followed⟩
    simp only [advanceReply]
    split
    · exact placed_reply known
    · split
      · exact done
      · split <;> exact placed_reply known
  | detachTag => exact placed_reply (query followed)
  | detachSession stub => exact placed_reply (Option.isSome_iff_exists.mpr ⟨stub,followed⟩)
  | attachTag => exact placed_reply (query followed)
  | attachSession stub => exact done

theorem placed_of_noticeStep {device : List UInt8} {services : List (List UInt16)} {pc : NoticePc} {result : Shared × Task}
    (placed : Placed shared pending (.notice device services pc)) (pends : ∀ stub, pending stub → pending' stub)
    (step : NoticeStep shared device services pc result) : Placed result.1 pending' result.2 := by
  cases step with
  | locks | skips =>
    refine placed_notice ?_
    intro stub _ removes
    cases removes
  | ends => exact placed_plain (by simp) (by simp) fun _ => rfl
  | finds later service stubs found =>
    refine placed_notice ?_
    intro stub registered removes _
    refine .inl ?_
    rw [toDetach,← found]
    exact List.mem_filter.mpr ⟨registered,removes⟩
  | detached service =>
    refine placed_notice ?_
    intro stub registered removes session
    exact (placed.cleared stub registered removes session).imp id (pends stub)
  | detaches service detached stubs =>
    refine placed_notice ?_
    intro stub registered removes session
    obtain ⟨apart,before⟩ := lookup_detached session
    refine (placed.cleared stub registered removes before).imp ?_ (pends stub)
    intro listed
    exact (List.mem_cons.mp listed).resolve_left apart
  | deletes service =>
    refine placed_notice ?_
    intro stub _ removes
    cases removes

theorem placed_of_advance {choice : Choice} {result : Shared × Task} (placed : Placed shared pending task)
    (nonzero : (0 : UInt64) ∉ shared.registry.dBinderStubRegisted) (pends : (∀ call pc, task ≠ .make call pc) → ∀ stub, pending stub → pending' stub)
    (advanced : advance host shared task choice = some result) : Placed result.1 pending' result.2 := by
  cases task with
  | idle =>
    cases spawnStep_of_spawn advanced with
    | makes =>
      refine placed_make fun stub asks => ?_
      cases asks
    | replies => exact placed_reply trivial
    | notices =>
      refine placed_notice ?_
      intro stub _ removes
      cases removes
    | _ => exact placed_plain (by simp) (by simp) fun _ => rfl
  | make call pc => exact placed_of_makeStep (makeStep_of_advance advanced) fun stub => placed.asked call pc stub rfl
  | reply message pc =>
    obtain ⟨-,made⟩ := onGo_eq_some.mp advanced
    rw [← Option.some.inj made]
    exact placed_of_advanceReply nonzero (placed.followed message pc rfl)
  | wake seqNumber pc =>
    obtain ⟨-,made⟩ := onGo_eq_some.mp advanced
    have later := advanceWake_task shared seqNumber pc
    rw [Option.some.inj made] at later
    rcases later with ⟨later,is⟩ | is
    · rw [is]
      exact placed_plain (by simp) (by simp) fun _ => rfl
    · rw [is]
      exact placed_plain (by simp) (by simp) fun _ => rfl
  | noticeDevice device =>
    simp only [advance] at advanced
    split at advanced
    · obtain ⟨-,made⟩ := onGo_eq_some.mp advanced
      cases made
      exact placed_plain (by simp) (by simp) fun _ => rfl
    · obtain ⟨-,made⟩ := onGo_eq_some.mp advanced
      cases made
      refine placed_notice ?_
      intro stub _ removes
      cases removes
  | notice device services pc =>
    exact placed_of_noticeStep placed (pends (by simp)) (noticeStep_of_advance (onGo_eq_some.mp advanced).2)
  | closed networkId =>
    obtain ⟨-,made⟩ := onGo_eq_some.mp advanced
    cases made
    exact placed_plain (by simp) (by simp) fun _ => rfl
  | clear locks =>
    cases locks <;> obtain ⟨-,made⟩ := onGo_eq_some.mp advanced <;> cases made <;> exact placed_plain (by simp) (by simp) fun _ => rfl
  | returned result => cases advanced
  | finished => cases advanced

end Placed

theorem eraseStub_tag {registry : Registry} {stub other tag : UInt64} (found : registry.mapDBinderStubRegisters.lookup tag = some other)
    (apart : other ≠ stub) : (Shared.eraseStub registry stub).mapDBinderStubRegisters.lookup tag = some other := by
  simp only [Shared.eraseStub]
  split
  · rename_i erased known
    have elsewhere : tag ≠ erased := by
      intro same
      rw [same,tagOf_some known] at found
      exact apart (Option.some.inj found).symm
    rw [AList.lookup_erase_ne elsewhere]
    exact found
  · exact found

theorem foldl_eraseStub_tag {registry : Registry} {stubs : List UInt64} {other tag : UInt64}
    (found : registry.mapDBinderStubRegisters.lookup tag = some other) (apart : other ∉ stubs) :
    (stubs.foldl Shared.eraseStub registry).mapDBinderStubRegisters.lookup tag = some other := by
  induction stubs generalizing registry with
  | nil => exact found
  | cons stub stubs ih =>
    rw [List.mem_cons,not_or] at apart
    exact ih (eraseStub_tag found apart.1) apart.2

theorem foldl_eraseStub_subset (registry : Registry) (stubs : List UInt64) :
    (stubs.foldl Shared.eraseStub registry).dBinderStubRegisted ⊆ registry.dBinderStubRegisted := by
  induction stubs generalizing registry with
  | nil => exact List.Subset.refl _
  | cons stub stubs ih => exact List.Subset.trans (ih (Shared.eraseStub registry stub)) List.erase_subset

theorem addStubByTag_tag {shared : Shared} {stub other tag : UInt64}
    (found : shared.registry.mapDBinderStubRegisters.lookup tag = some other) :
    (shared.addStubByTag stub).1.registry.mapDBinderStubRegisters.lookup tag = some other := by
  unfold Shared.addStubByTag
  split
  · exact found
  · dsimp only
    split
    · exact found
    · rename_i free
      have apart : tag ≠ shared.stubTagNum := by
        intro same
        rw [← same,found] at free
        cases free
      dsimp only
      rw [AList.lookup_insert_ne apart]
      exact found

section Steps
variable {host : Host} {pool next : Pool Shared Task} {move : Pool.Move Choice} {after : Shared × Task}

theorem pending_elsewhere (settled : ∀ stub, ¬ Pending (pool.tasks move.1) stub)
    (others : ∀ i, i ≠ move.1 → next.tasks i = pool.tasks i) {stub : UInt64} (pending : pendingIn pool stub) : pendingIn next stub := by
  obtain ⟨i,holds⟩ := pending
  have apart : i ≠ move.1 := by
    intro same
    rw [same] at holds
    exact settled stub holds
  exact ⟨i,by rwa [others i apart]⟩

/-- What a step keeps, but for the task that takes it. -/
structure Keeps (pool next : Pool Shared Task) (move : Pool.Move Choice) (after : Shared) : Prop where
  linked : Linked after.registry
  nonzero : (0 : UInt64) ∉ after.registry.dBinderStubRegisted
  owned : ∀ stub, (after.registry.sessionObject.lookup stub).isSome →
    stub ∈ after.registry.dBinderStubRegisted ∨ pendingIn next stub
  placed : ∀ i, i ≠ move.1 → Placed after (pendingIn next) (pool.tasks i)

/-- A section that changes no session. -/
theorem Consistent.plain (consistent : Consistent pool) (names : SameNames pool.shared after.1)
    (pends : ∀ stub, pendingIn pool stub → pendingIn next stub) (linked : Linked after.1.registry)
    (sessions : after.1.registry.sessionObject = pool.shared.registry.sessionObject)
    (tags : after.1.registry.mapDBinderStubRegisters = pool.shared.registry.mapDBinderStubRegisters ∨
      ∀ tag stub, pool.shared.registry.mapDBinderStubRegisters.lookup tag = some stub →
        after.1.registry.mapDBinderStubRegisters.lookup tag = some stub)
    (stubs : after.1.registry.dBinderStubRegisted = pool.shared.registry.dBinderStubRegisted) : Keeps pool next move after.1 where
  linked := linked
  nonzero := by
    rw [stubs]
    exact consistent.nonzero
  owned := by
    intro stub found
    rw [sessions] at found
    rw [stubs]
    exact (consistent.owned stub found).imp_right (pends stub)
  placed := by
    intro i _
    refine (consistent.placed i).keep names (fun stub registered _ => by rwa [stubs]) ?_ ?_ fun stub _ => pends stub
    · intro tag stub found _
      rcases tags with same | kept
      · rw [same]
        exact found
      · exact kept tag stub found
    · intro stub registered found
      rw [sessions] at found
      rw [stubs] at registered
      exact .inr ⟨registered,.inl found⟩

theorem deleteDBinderStub_registry (shared : Shared) (call : Call) :
    (shared.deleteDBinderStub call.serviceName call.deviceID call.pid call.uid).registry =
      (sameStub shared call).toList.foldl Shared.eraseStub shared.registry := by
  unfold Shared.deleteDBinderStub sameStub
  split
  · rename_i missing
    rw [missing]
    rfl
  · rename_i stub found
    rw [found]
    rfl

/-- A section that deletes stubs: whoever relies on one of them would have been overtaken. -/
theorem Consistent.erases (consistent : Consistent pool) (names : SameNames pool.shared after.1)
    (erased : after.1.registry = (deleting pool.shared (pool.tasks move.1)).foldl Shared.eraseStub pool.shared.registry)
    (nonzero : (0 : UInt64) ∉ after.1.registry.dBinderStubRegisted) (undisturbed : Pool.Undisturbed overtakes pool move)
    (pends : ∀ stub, pendingIn pool stub → pendingIn next stub)
    (orphans : ∀ stub ∈ deleting pool.shared (pool.tasks move.1), stub ∈ pool.shared.registry.dBinderStubRegisted →
      (pool.shared.registry.sessionObject.lookup stub).isSome → pendingIn next stub) : Keeps pool next move after.1 := by
  refine ⟨by rw [erased]; exact consistent.linked.foldl_eraseStub _,nonzero,?_,?_⟩
  · intro stub found
    rw [erased] at found ⊢
    rw [foldl_eraseStub_sessionObject] at found
    rcases consistent.owned stub found with registered | pending
    · by_cases deleted : stub ∈ deleting pool.shared (pool.tasks move.1)
      · exact .inr (orphans stub deleted registered found)
      · exact .inl (mem_foldl_eraseStub deleted registered)
    · exact .inr (pends stub pending)
  · intro i apart
    have spared : ∀ stub, relies pool.shared stub (pool.tasks i) = true → stub ∉ deleting pool.shared (pool.tasks move.1) := by
      intro stub relied deleted
      have quiet := (Bool.or_eq_false_iff.mp (undisturbed i apart)).1
      exact List.any_eq_false.mp quiet stub deleted relied
    refine (consistent.placed i).keep names ?_ ?_ ?_ fun stub _ => pends stub
    · intro stub registered relied
      rw [erased]
      exact mem_foldl_eraseStub (spared stub relied) registered
    · intro tag stub found relied
      rw [erased]
      exact foldl_eraseStub_tag found (spared stub relied)
    · intro stub registered found
      rw [erased] at registered found
      rw [foldl_eraseStub_sessionObject] at found
      exact .inr ⟨foldl_eraseStub_subset _ _ registered,.inl found⟩

theorem Consistent.attaches (consistent : Consistent pool) (names : SameNames pool.shared after.1) {session : SessionInfo} {stub : UInt64}
    (made : after.1 = pool.shared.attachSessionObject session stub) (registered : stub ∈ pool.shared.registry.dBinderStubRegisted)
    (nonzero : (0 : UInt64) ∉ after.1.registry.dBinderStubRegisted) (pends : ∀ stub, pendingIn pool stub → pendingIn next stub)
    (unremoved : ∀ i, i ≠ move.1 → pool.shared.registry.sessionObject.lookup stub = none →
      removing pool.shared stub (pool.tasks i) = false) : Keeps pool next move after.1 := by
  have kept := attachSessionObject_frame pool.shared.registry session stub
  rw [made] at nonzero names ⊢
  refine ⟨consistent.linked.of_frame kept.1 kept.2,nonzero,?_,?_⟩
  · intro other found
    change other ∈ (pool.shared.registry.attachSessionObject session stub).dBinderStubRegisted ∨ _
    rw [kept.2]
    cases before : pool.shared.registry.sessionObject.lookup other with
    | some stored => exact (consistent.owned other (by rw [before]; rfl)).imp_right (pends other)
    | none =>
      rw [lookup_attached found before]
      exact .inl registered
  · intro i apart
    refine (consistent.placed i).keep names ?_ ?_ ?_ fun other _ => pends other
    · intro other inside _
      exact kept.2.symm ▸ inside
    · intro tag other found _
      change (pool.shared.registry.attachSessionObject session stub).mapDBinderStubRegisters.lookup tag = _
      rw [kept.1]
      exact found
    · intro other inside found
      replace inside : other ∈ (pool.shared.registry.attachSessionObject session stub).dBinderStubRegisted := inside
      rw [kept.2] at inside
      refine .inr ⟨inside,?_⟩
      cases before : pool.shared.registry.sessionObject.lookup other with
      | some stored => exact .inl rfl
      | none =>
        have same := lookup_attached found before
        rw [same] at before ⊢
        exact .inr (unremoved i apart before)

theorem Consistent.effect (consistent : Consistent pool) (names : SameNames pool.shared after.1)
    (effect : Effect host pool.shared (pool.tasks move.1) after) (own : next.tasks move.1 = after.2)
    (others : ∀ i, i ≠ move.1 → next.tasks i = pool.tasks i) (timely : Timely pool move)
    (nonzero : (0 : UInt64) ∉ after.1.registry.dBinderStubRegisted) : Keeps pool next move after.1 := by
  obtain ⟨undisturbed,finds⟩ := timely
  have finds : ∀ call attempt stub, pool.tasks move.1 = .make call (.deleteDBinderStub attempt) →
      sameStub pool.shared call = some stub → stub = attempt.stub := by
    intro call attempt stub task found
    simpa only [findsOwn,task,found,Option.all_some,decide_eq_true_eq] using finds
  have elsewhere := @pending_elsewhere pool next move
  have placed := consistent.placed move.1
  generalize task : pool.tasks move.1 = running at *
  cases effect with
  | quiet same settled =>
    refine consistent.plain names (fun _ => elsewhere settled others) ?_ (by rw [same]) (.inl (by rw [same])) (by rw [same])
    rw [same]
    exact consistent.linked
  | register stub given fresh made settled =>
    refine ⟨by rw [made]; exact consistent.linked.register fresh,nonzero,?_,?_⟩
    · intro other found
      rw [made] at found ⊢
      exact (consistent.owned other found).imp (List.mem_append_left _) (elsewhere settled others)
    · intro i _
      refine (consistent.placed i).keep names ?_ (fun tag other found _ => by rw [made]; exact found) ?_
        fun _ _ => elsewhere settled others
      · intro other registered _
        rw [made]
        exact List.mem_append_left _ registered
      · intro other registered found
        rw [made] at registered found
        -- a session at the address of a new stub is on its way out
        rcases consistent.owned other found with before | pending
        · exact .inr ⟨before,.inl found⟩
        · exact .inl (elsewhere settled others pending)
  | tag call attempt lock created made =>
    obtain ⟨sessions,stubs⟩ := addStubByTag_frame pool.shared attempt.stub
    have registered := placed.asked call _ attempt.stub rfl rfl
    refine consistent.plain names (fun _ => elsewhere (not_pending_make fun _ => by simp) others) ?_ (by rw [made,sessions]) (.inr ?_)
      (by rw [made,stubs])
    · rw [made]
      exact consistent.linked.addStubByTag registered
    · intro tag stub found
      rw [made]
      exact addStubByTag_tag found
  | deleteOne call attempt =>
    have deletes : deleting pool.shared (pool.tasks move.1) = (sameStub pool.shared call).toList := by
      rw [task]
      rfl
    refine consistent.erases names ?_ nonzero undisturbed (fun _ => elsewhere (not_pending_make fun _ => by simp) others) ?_
    · rw [deletes]
      exact deleteDBinderStub_registry pool.shared call
    · intro stub deleted _ _
      rw [deletes,Option.mem_toList] at deleted
      -- the call takes the session of its own stub away itself
      exact ⟨move.1,call,attempt,own,(finds call attempt stub rfl deleted).symm⟩
  | detachOwn call attempt =>
    have pends : ∀ stub, ((pool.shared.detachSessionObject attempt.stub).registry.sessionObject.lookup stub).isSome = true →
        pendingIn pool stub → pendingIn next stub := by
      intro stub found pending
      obtain ⟨apart,-⟩ := lookup_detached found
      obtain ⟨i,holds⟩ := pending
      have elsewhere : i ≠ move.1 := by
        intro same
        rw [same,task] at holds
        obtain ⟨_,_,equal,is⟩ := holds
        cases equal
        exact apart is.symm
      exact ⟨i,by rwa [others i elsewhere]⟩
    refine ⟨⟨consistent.linked.distinct,consistent.linked.tagged,consistent.linked.single⟩,nonzero,?_,?_⟩
    · intro other found
      exact (consistent.owned other (lookup_detached found).2).imp_right (pends other found)
    · intro i _
      refine (consistent.placed i).keep names (fun _ registered _ => registered) (fun _ _ found _ => found) ?_ pends
      intro other registered found
      exact .inr ⟨registered,.inl (lookup_detached found).2⟩
  | detach stub made settled =>
    refine ⟨by rw [made]; exact ⟨consistent.linked.distinct,consistent.linked.tagged,consistent.linked.single⟩,nonzero,?_,?_⟩
    · intro other found
      rw [made] at found ⊢
      exact (consistent.owned other (lookup_detached found).2).imp_right (elsewhere settled others)
    · intro i _
      rw [made] at names ⊢
      refine (consistent.placed i).keep names (fun _ registered _ => registered) (fun _ _ found _ => found) ?_
        fun _ _ => elsewhere settled others
      intro other registered found
      exact .inr ⟨registered,.inl (lookup_detached found).2⟩
  | attach message stub made =>
    have known : pool.shared.registry.mapDBinderStubRegisters.lookup message.stub = some stub := placed.followed message _ rfl
    refine consistent.attaches names made (consistent.linked.tagged message.stub stub known) nonzero
      (fun _ => elsewhere (not_pending_of_other _ fun _ _ => by simp) others) ?_
    intro i apart empty
    -- no notice is removing the stub of a session that is stored
    have quiet := (Bool.or_eq_false_iff.mp (undisturbed i apart)).2
    simpa only [task,empty,Option.isNone_none,Bool.true_and] using quiet
  | deleteMany devices services service made =>
    have deletes : deleting pool.shared (pool.tasks move.1) = pool.shared.findDBinderStub service devices := by
      rw [task]
      rfl
    have pends : ∀ stub, pendingIn pool stub → pendingIn next stub :=
      fun _ => elsewhere (not_pending_of_other _ fun _ _ => by simp) others
    refine consistent.erases names (by rw [deletes,made]; rfl) nonzero undisturbed pends ?_
    intro stub deleted registered found
    rw [deletes] at deleted
    -- DetachSessionObject has been called for each of them
    rcases placed.cleared stub registered (List.mem_filter.mp deleted).2 found with listed | pending
    · cases listed
    · exact pends stub pending

theorem nonzero_of_effect {task : Task} {shared : Shared} (nonzero : (0 : UInt64) ∉ shared.registry.dBinderStubRegisted)
    (effect : Effect host shared task after) : (0 : UInt64) ∉ after.1.registry.dBinderStubRegisted := by
  cases effect with
  | quiet same =>
    rw [same]
    exact nonzero
  | register stub given fresh made =>
    rw [made,List.mem_append,List.mem_singleton]
    exact fun zero => zero.elim nonzero fun is => given is.symm
  | tag call attempt lock created made =>
    rw [made,(addStubByTag_frame shared attempt.stub).2]
    exact nonzero
  | deleteOne call attempt =>
    dsimp only
    unfold Shared.deleteDBinderStub
    split
    · exact nonzero
    · exact fun zero => nonzero (List.mem_of_mem_erase zero)
  | detachOwn call attempt => exact nonzero
  | detach stub made =>
    rw [made]
    exact nonzero
  | attach message stub made =>
    rw [made]
    exact (attachSessionObject_frame shared.registry (initializeSession message) stub).2.symm ▸ nonzero
  | deleteMany device services service made =>
    rw [made]
    exact fun zero => nonzero (foldl_eraseStub_subset shared.registry _ zero)

theorem Consistent.step (consistent : Consistent pool)
    (taken : guarded (fires (Pool.step (advance host))) Timely pool move next) : Consistent next := by
  obtain ⟨timely,fired⟩ := taken
  obtain ⟨after,advanced,shared,own,others⟩ := Pool.step_cases fired
  have effect := effect_of_advance advanced
  have nonzero := nonzero_of_effect consistent.nonzero effect
  have keeps := consistent.effect (sameNames_of_advance advanced) effect own others timely nonzero
  have mine : Placed after.1 (pendingIn next) after.2 := by
    refine placed_of_advance (consistent.placed move.1) consistent.nonzero ?_ advanced
    intro plain stub
    exact pending_elsewhere (not_pending_of_other _ plain) others
  refine ⟨by rw [shared]; exact keeps.linked,by rw [shared]; exact keeps.nonzero,by rw [shared]; exact keeps.owned,?_⟩
  intro i
  rw [shared]
  by_cases same : i = move.1
  · rw [same,own]
    exact mine
  · rw [others i same]
    exact keeps.placed i same

end Steps

theorem consistent_started : Consistent started where
  linked := ⟨List.nodup_nil,fun _ _ found => (nomatch found),fun _ _ _ found => (nomatch found)⟩
  nonzero := List.not_mem_nil
  owned := fun _ found => (nomatch found)
  placed := fun _ => placed_plain (by simp [started]) (by simp [started]) fun _ => rfl

/-- Whatever the interleaving of timely steps, once nothing is in progress every session and every tag
belongs to a registered stub, and no stub has two tags. -/
theorem registry_consistent (host : Host) {moves : List (Pool.Move Choice)} {pool : Pool Shared Task}
    (run : Reaches (guarded (fires (Pool.step (advance host))) Timely) started moves pool)
    (quiet : ∀ i, running (pool.tasks i) = false) :
    (∀ stub, (pool.shared.registry.sessionObject.lookup stub).isSome → stub ∈ pool.shared.registry.dBinderStubRegisted) ∧
      (∀ tag stub, pool.shared.registry.mapDBinderStubRegisters.lookup tag = some stub →
        stub ∈ pool.shared.registry.dBinderStubRegisted) ∧
      ∀ tag other stub, pool.shared.registry.mapDBinderStubRegisters.lookup tag = some stub →
        pool.shared.registry.mapDBinderStubRegisters.lookup other = some stub → tag = other := by
  have consistent := run.invariant Consistent consistent_started (fun _ _ _ holds taken => holds.step taken)
  refine ⟨?_,consistent.linked.tagged,consistent.linked.single⟩
  intro stub found
  refine (consistent.owned stub found).resolve_right ?_
  intro pending
  obtain ⟨i,call,attempt,task,-⟩ := pending
  have done := quiet i
  rw [task] at done
  cases done

theorem quiet_of_untouched {host : Host} {moves : List (Pool.Move Choice)} {pool : Pool Shared Task} (bound : Nat)
    (run : Reaches (fires (Pool.step (advance host))) started moves pool) (few : ∀ move ∈ moves, move.1 < bound)
    (done : ∀ i < bound, running (pool.tasks i) = false) (i : Nat) : running (pool.tasks i) = false := by
  by_cases small : i < bound
  · exact done i small
  · have absent : ∀ move ∈ moves, move.1 ≠ i := by
      intro move member same
      have below := few move member
      omega
    rw [Pool.untouched run absent]
    rfl

/-- A call is answered and its service dies; a second reply comes too late. Another call gets a stub at the same address, and
one for another service fails. -/
def registryRun : List (Pool.Move Choice) :=
  List.flatten [sampleRequest 0,(1,.onBytesReceived [66] (sampleReply 1 40)) :: List.replicate 9 (1,.go),List.replicate 3 (0,.go),
    (2,.noticeServiceDie [49,50,51,52] [66]) :: List.replicate 6 (2,.go),
    (3,.onBytesReceived [66] (sampleReply 1 41)) :: List.replicate 4 (3,.go),sampleRequest 4,
    [(6,.makeRemoteBinder { sampleCall with serviceName := [53] }),(6,.allocate 8)],List.replicate 6 (6,.go),[(6,.sent false)],
    (5,.onBytesReceived [66] { sampleReply 2 42 with stub := 2 }) :: List.replicate 9 (5,.go),List.replicate 2 (6,.go),
    List.replicate 3 (4,.go),[(6,.references 1),(6,.go),(6,.go)]]

theorem registry_consistent_sample :
    ∃ pool, Reaches (guarded (fires (Pool.step (advance sampleHost))) Timely) started registryRun pool ∧
      (∀ i, running (pool.tasks i) = false) ∧ (pool.shared.registry.sessionObject.lookup 7).isSome ∧
      pool.shared.registry.mapDBinderStubRegisters.lookup 2 = some 7 ∧ 7 ∈ pool.shared.registry.dBinderStubRegisted := by
  have idle : ∀ (shared : Shared) task i, 7 ≤ i → overtakes shared task (started.tasks i) = false := by
    intro shared task i _
    have none_ : (deleting shared task).any (fun stub => relies shared stub .idle) = false := List.any_eq_false.mpr (by simp [relies])
    simp only [overtakes,started,none_,removing,Bool.and_false,Bool.false_or]
    split <;> rfl
  obtain ⟨pool,run,final⟩ := Pool.exists_of_foldlM_undisturbed (advance sampleHost) overtakes
    (fun pool move => findsOwn pool move = true) started registryRun 7
    (by decide) idle (fun pool => ((List.range 7).all fun i => !running (pool.tasks i)) &&
      (pool.shared.registry.sessionObject.lookup 7).isSome &&
      decide (pool.shared.registry.mapDBinderStubRegisters.lookup 2 = some 7)) (by decide +kernel)
  simp only [Bool.and_eq_true,List.all_eq_true,List.mem_range,Bool.not_eq_true',decide_eq_true_eq] at final
  have quiet := quiet_of_untouched 7 (run.mono fun _ _ _ taken => taken.2) (by decide) final.1.1
  exact ⟨pool,run,quiet,final.1.2,final.2,(registry_consistent sampleHost run quiet).1 7 final.1.2⟩

/-- The reply has looked the stub up, the service dies, and then the reply attaches the session. -/
def overtakenRun : List (Pool.Move Choice) :=
  sampleRequest 0 ++ (1,.onBytesReceived [66] (sampleReply 1 40)) :: List.replicate 5 (1,.go) ++
    (2,.noticeServiceDie [49,50,51,52] [66]) :: List.replicate 6 (2,.go) ++ List.replicate 4 (1,.go) ++ List.replicate 3 (0,.go)

theorem session_of_deleted_stub :
    ∃ pool, Reaches (fires (Pool.step (advance sampleHost))) started overtakenRun pool ∧
      (∀ i, running (pool.tasks i) = false) ∧ (pool.shared.registry.sessionObject.lookup 7).isSome ∧
      7 ∉ pool.shared.registry.dBinderStubRegisted := by
  obtain ⟨pool,run,final⟩ := Reaches.exists_of_foldlM (Pool.step (advance sampleHost)) started
    overtakenRun (fun pool => ((List.range 3).all fun i => !running (pool.tasks i)) &&
      (pool.shared.registry.sessionObject.lookup 7).isSome && decide (7 ∉ pool.shared.registry.dBinderStubRegisted))
    (by decide +kernel)
  simp only [Bool.and_eq_true,List.all_eq_true,List.mem_range,Bool.not_eq_true',decide_eq_true_eq] at final
  exact ⟨pool,run,quiet_of_untouched 3 run (by decide) final.1.1,final.1.2,final.2⟩

end CommunicationIpc.StubRegistry
