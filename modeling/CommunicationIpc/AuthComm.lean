import CommunicationIpc.AuthIndexes

/-! The two authorisation containers in step: `commAuth_` records a stub for an application
exactly when `appInfoToStubIndex_` holds the application with the stub's index, and a peer whose
session was closed is not let in again. -/
namespace CommunicationIpc.AuthComm
open CommunicationIpc.Library CommunicationIpc.Kernel.Auth CommunicationIpc.Semantics CommunicationIpc.Auth
open CommunicationIpc.AuthIndexes

def Recorded (skeleton : Skeleton) (stub : Nat) (app : App) : Prop :=
  ∃ auth ∈ skeleton.commAuth, auth.stub = stub ∧ auth.app = app

def SamePeer (left right : App) : Prop :=
  left.pid = right.pid ∧ left.uid = right.uid ∧ left.deviceId = right.deviceId

theorem isSameRemoteObject_iff (stub : Nat) (app : App) (auth : CommAuthInfo) :
    isSameRemoteObject stub app auth = true ↔ auth.stub = stub ∧ auth.app = app := by
  obtain ⟨owner,⟨deviceId,pid,uid,tokenId⟩,socketId⟩ := auth
  obtain ⟨deviceId',pid',uid',tokenId'⟩ := app
  simp only [isSameRemoteObject,Bool.and_eq_true,decide_eq_true_eq,App.mk.injEq]
  constructor
  · intro holds
    obtain ⟨⟨⟨⟨rfl,rfl⟩,rfl⟩,rfl⟩,rfl⟩ := holds
    exact ⟨rfl,rfl,rfl,rfl,rfl⟩
  · intro holds
    obtain ⟨rfl,rfl,rfl,rfl,rfl⟩ := holds
    exact ⟨⟨⟨⟨rfl,rfl⟩,rfl⟩,rfl⟩,rfl⟩

theorem isSamePeer_iff (app : App) (auth : CommAuthInfo) : isSamePeer app auth = true ↔ SamePeer auth.app app := by
  simp only [isSamePeer,SamePeer,Bool.and_eq_true,decide_eq_true_eq,and_assoc]

theorem queryCommAuthInfo_none_iff (skeleton : Skeleton) (peer : App) :
    skeleton.queryCommAuthInfo peer = none ↔ ∀ auth ∈ skeleton.commAuth, ¬ SamePeer auth.app peer := by
  simp only [Skeleton.queryCommAuthInfo,Option.map_eq_none_iff,List.find?_eq_none,isSamePeer_iff]

/-- A session of the peer was closed, and no grant has named the peer since. -/
def Shut (peer : App) (calls : List Call) : Prop :=
  ∃ before socketId closed after, calls = before ++ .sessionClosed socketId closed :: after ∧ SamePeer closed peer ∧
    ∀ info, .attach info ∈ after → ¬ SamePeer info.toApp peer

theorem shut_snoc {peer : App} {calls : List Call} {call : Call} (shut : Shut peer (calls ++ [call])) :
    (∃ socketId closed, call = .sessionClosed socketId closed ∧ SamePeer closed peer) ∨
      (Shut peer calls ∧ ∀ info, call = .attach info → ¬ SamePeer info.toApp peer) := by
  obtain ⟨before,socketId,closed,after,split,same,quiet⟩ := shut
  rcases List.eq_nil_or_concat after with rfl | ⟨front,last,rfl⟩
  · obtain ⟨-,tail⟩ := List.append_inj' split rfl
    rw [List.singleton_inj] at tail
    exact .inl ⟨socketId,closed,tail,same⟩
  · have shorter : calls ++ [call] = (before ++ .sessionClosed socketId closed :: front) ++ [last] := by simpa using split
    obtain ⟨rfl,tail⟩ := List.append_inj' shorter rfl
    rw [List.singleton_inj] at tail
    subst tail
    refine .inr ⟨⟨before,socketId,closed,front,rfl,same,?_⟩,?_⟩
    · exact fun info member => quiet info (by simp [member])
    · exact fun info attached => quiet info (by simp [attached])

theorem shut_closed {state : State} {socketId : Int32} {peer : App}
    (session : state.skeleton.dbinderSessionObjects.lookup socketId = some peer) :
    Shut peer (state.onDatabusSessionServerSideClosed socketId).calls := by
  obtain ⟨-,calls,-⟩ := releaseIndex_foldl (state.sessionDetached socketId)
    (state.skeleton.detachAppAuthInfoBySocketId socketId).2
  refine ⟨state.calls,socketId,peer,[.detachBySocketId socketId],?_,⟨rfl,rfl,rfl⟩,by simp⟩
  rw [State.onDatabusSessionServerSideClosed,calls]
  simp [State.sessionDetached,session]

structure Mirrored (state : State) : Prop where
  consistent : Consistent state.skeleton state.objects
  mirrors : ∀ stubIndex stub app, stubIndex ≠ 0 → state.skeleton.stubObjects.lookup stubIndex = some stub →
    (Recorded state.skeleton stub app ↔ (entry state.skeleton app.appInfo stubIndex).isSome = true)
  indexed : ∀ auth ∈ state.skeleton.commAuth, ∃ stubIndex, stubIndex ≠ 0 ∧
    state.skeleton.stubObjects.lookup stubIndex = some auth.stub
  unmarked : ∀ auth ∈ state.skeleton.commAuth, auth.socketId = 0
  kept : ∀ (app : App) stubIndex, stubIndex ≠ 0 → Grants.Granted app stubIndex state.calls →
    (entry state.skeleton app.appInfo stubIndex).isSome = true
  refused : ∀ peer, Shut peer state.calls → state.skeleton.queryCommAuthInfo peer = none

theorem mirrored_new (randNum : UInt64) : Mirrored (State.new randNum) where
  consistent := consistent_new randNum
  mirrors := fun _ _ _ _ held => by cases held
  indexed := fun _ member => by cases member
  unmarked := fun _ member => by cases member
  kept := by
    rintro app stubIndex - ⟨before,grant,after,split,-⟩
    simp [State.new] at split
  refused := by
    rintro peer ⟨before,socketId,closed,after,split,-⟩
    simp [State.new] at split

theorem addStubByIndex_commAuth (skeleton : Skeleton) (stub : Nat) :
    (skeleton.addStubByIndex stub).1.commAuth = skeleton.commAuth := by
  simp only [Skeleton.addStubByIndex]
  split
  · rfl
  · split <;> rfl

private theorem refused_of_subset {skeleton other : Skeleton} {peer : App}
    (fewer : ∀ auth ∈ other.commAuth, auth ∈ skeleton.commAuth)
    (refused : skeleton.queryCommAuthInfo peer = none) : other.queryCommAuthInfo peer = none := by
  rw [queryCommAuthInfo_none_iff] at refused ⊢
  exact fun auth member => refused auth (fewer auth member)

theorem mirrored_addStubByIndex {state : State} (mirrored : Mirrored state) {stub : Nat} (living : stub ∈ state.objects) :
    Mirrored { state with skeleton := (state.skeleton.addStubByIndex stub).1 } := by
  obtain ⟨consistent,-,stubs⟩ := addStubByIndex_spec mirrored.consistent living
  have comm := addStubByIndex_commAuth state.skeleton stub
  have table := addStubByIndex_table state.skeleton stub
  refine ⟨consistent,?_,?_,by rw [comm]; exact mirrored.unmarked,?_,?_⟩
  · intro stubIndex owner app nonzero held
    simp only [Recorded,entry,comm,table]
    rcases stubs with same | ⟨unused,fresh,inserted⟩
    · rw [same] at held
      exact mirrored.mirrors stubIndex owner app nonzero held
    · rw [inserted] at held
      by_cases new : stubIndex = state.skeleton.randNum
      · rw [new,AList.lookup_insert,Option.some.injEq] at held
        subst held
        constructor
        · intro holds
          obtain ⟨auth,member,rfl,-⟩ := holds
          obtain ⟨index,-,found⟩ := mirrored.indexed auth member
          exact absurd found (fresh index)
        · intro entered
          obtain ⟨other,found⟩ := mirrored.consistent.owned app.appInfo stubIndex nonzero entered
          rw [new,unused] at found
          cases found
      · rw [AList.lookup_insert_ne new] at held
        exact mirrored.mirrors stubIndex owner app nonzero held
  · intro auth member
    rw [comm] at member
    obtain ⟨index,nonzero,found⟩ := mirrored.indexed auth member
    refine ⟨index,nonzero,?_⟩
    rcases stubs with same | ⟨unused,-,inserted⟩
    · rw [same]
      exact found
    · have other : index ≠ state.skeleton.randNum := by
        intro same
        subst same
        rw [unused] at found
        cases found
      rw [inserted,AList.lookup_insert_ne other]
      exact found
  · intro app stubIndex nonzero granted
    simp only [entry,table]
    exact mirrored.kept app stubIndex nonzero granted
  · intro peer shut
    exact refused_of_subset (fun auth member => by rwa [comm] at member) (mirrored.refused peer shut)

/-- What was granted before an attach, or by it, has its entry after it. -/
private theorem kept_attach {state : State} (mirrored : Mirrored state) (info : AppAuthInfo) (app : App)
    {stubIndex : UInt64} (nonzero : stubIndex ≠ 0) (granted : Grants.Granted app stubIndex (state.attach info).calls) :
    (entry (state.attach info).skeleton app.appInfo stubIndex).isSome = true := by
  rw [attach_calls] at granted
  rw [attach_skeleton,entry_attach_isSome state.skeleton info app.appInfo nonzero]
  rcases granted.of_snoc with ⟨rfl,named⟩ | ⟨earlier,-⟩
  · exact .inl ⟨rfl,named⟩
  · exact .inr (mirrored.kept app stubIndex nonzero earlier)

theorem mirrored_attach_bare {state : State} (mirrored : Mirrored state) (info : AppAuthInfo) (bare : info.stub = none)
    (known : info.stubIndex = 0 ∨ (entry state.skeleton info.toApp.appInfo info.stubIndex).isSome = true) :
    Mirrored (state.attach info) := by
  have comm : (state.skeleton.attachOrUpdateAppAuthInfo info).1.commAuth = state.skeleton.commAuth := by
    simp only [Skeleton.attachOrUpdateAppAuthInfo,bare]
  have named : info.stubIndex = 0 ∨ ∃ stub, state.skeleton.stubObjects.lookup info.stubIndex = some stub := by
    by_cases zero : info.stubIndex = 0
    · exact .inl zero
    · exact .inr (mirrored.consistent.owned _ _ zero (known.resolve_left zero))
  refine ⟨?_,?_,?_,by rw [attach_skeleton,comm]; exact mirrored.unmarked,
    fun app _ nonzero granted => kept_attach mirrored info app nonzero granted,?_⟩
  · rw [attach_skeleton,attach_objects]
    exact consistent_attach mirrored.consistent info named
  · intro stubIndex stub app nonzero held
    rw [attach_skeleton,attach_stubObjects] at held
    rw [attach_skeleton,Recorded,comm,entry_attach_isSome state.skeleton info app.appInfo nonzero]
    refine (mirrored.mirrors stubIndex stub app nonzero held).trans ⟨.inr,?_⟩
    rintro (⟨same,rfl⟩ | old)
    · rw [same]
      exact known.resolve_left nonzero
    · exact old
  · rw [attach_skeleton,comm,attach_stubObjects]
    exact mirrored.indexed
  · intro peer shut
    rw [attach_calls] at shut
    rw [attach_skeleton]
    rcases shut_snoc shut with ⟨_,_,impossible,-⟩ | ⟨earlier,-⟩
    · cases impossible
    · exact refused_of_subset (fun auth member => by rwa [comm] at member) (mirrored.refused peer earlier)

theorem mirrored_attach_stub {state : State} (mirrored : Mirrored state) (info : AppAuthInfo) {stub : Nat}
    (pointer : info.stub = some stub) (unmarked : info.socketId = 0) (nonzero : info.stubIndex ≠ 0)
    (own : state.skeleton.stubObjects.lookup info.stubIndex = some stub) : Mirrored (state.attach info) := by
  have comm : (state.skeleton.attachOrUpdateAppAuthInfo info).1.commAuth =
      ⟨stub,info.toApp,info.socketId⟩ :: state.skeleton.commAuth := by
    simp only [Skeleton.attachOrUpdateAppAuthInfo,pointer,unmarked,ne_eq,not_true_eq_false,and_false,if_false]
  refine ⟨?_,?_,?_,?_,fun app _ nonzero granted => kept_attach mirrored info app nonzero granted,?_⟩
  · rw [attach_skeleton,attach_objects]
    exact consistent_attach mirrored.consistent info (.inr ⟨stub,own⟩)
  · intro stubIndex owner app positive held
    rw [attach_skeleton,attach_stubObjects] at held
    rw [attach_skeleton,entry_attach_isSome state.skeleton info app.appInfo positive,appInfo_eq_iff]
    have before := mirrored.mirrors stubIndex owner app positive held
    rw [← before]
    simp only [Recorded,comm,List.mem_cons,exists_eq_or_imp]
    constructor
    · rintro (⟨rfl,rfl⟩ | old)
      · exact .inl ⟨rfl,mirrored.consistent.single _ _ stub own held⟩
      · exact .inr old
    · rintro (⟨rfl,rfl⟩ | old)
      · rw [own,Option.some.injEq] at held
        exact .inl ⟨held,rfl⟩
      · exact .inr old
  · intro auth member
    rw [attach_skeleton,comm] at member
    rw [attach_skeleton,attach_stubObjects]
    rcases List.mem_cons.mp member with rfl | old
    · exact ⟨info.stubIndex,nonzero,own⟩
    · exact mirrored.indexed auth old
  · intro auth member
    rw [attach_skeleton,comm] at member
    rcases List.mem_cons.mp member with rfl | old
    · exact unmarked
    · exact mirrored.unmarked auth old
  · intro peer shut
    rw [attach_calls] at shut
    rw [attach_skeleton,queryCommAuthInfo_none_iff]
    rcases shut_snoc shut with ⟨_,_,impossible,-⟩ | ⟨earlier,stranger⟩
    · cases impossible
    · intro auth member
      rw [comm] at member
      rcases List.mem_cons.mp member with rfl | old
      · exact stranger info rfl
      · exact (queryCommAuthInfo_none_iff _ _).mp (mirrored.refused peer earlier) auth old

theorem detach_commAuth (skeleton : Skeleton) (info : AppAuthInfo) {stub : Nat} (pointer : info.stub = some stub) :
    (skeleton.detachAppAuthInfo info).1.commAuth =
      if entry skeleton info.toApp.appInfo info.stubIndex = some info.socketId then
        skeleton.commAuth.eraseP (isSameRemoteObject stub info.toApp)
      else skeleton.commAuth := by
  cases held : skeleton.appInfoToStubIndex.lookup info.toApp.appInfo with
  | none => simp [Skeleton.detachAppAuthInfo,entry,held]
  | some indexes =>
    simp only [Skeleton.detachAppAuthInfo,entry,held,Option.bind_some,pointer]
    split <;> rfl

private theorem not_mem_eraseP {comm : List CommAuthInfo} {test : CommAuthInfo → Bool} (once : comm.countP test ≤ 1)
    {auth : CommAuthInfo} (member : auth ∈ comm.eraseP test) : ¬ test auth = true := by
  intro passes
  obtain ⟨first,front,back,-,hit,rfl,erased⟩ := List.exists_of_eraseP (List.mem_of_mem_eraseP member) passes
  rw [erased] at member
  have counted : 0 < (front ++ back).countP test := List.countP_pos_iff.mpr ⟨auth,member,passes⟩
  rw [List.countP_append,List.countP_cons_of_pos hit] at once
  rw [List.countP_append] at counted
  omega

theorem mirrored_detach {state : State} (mirrored : Mirrored state) (sound : Sound state.skeleton state.calls) (info : AppAuthInfo) {stub : Nat}
    (pointer : info.stub = some stub) (own : info.stubIndex = state.skeleton.queryStubIndex stub)
    (once : entry state.skeleton info.toApp.appInfo info.stubIndex = some info.socketId →
      state.skeleton.commAuth.countP (isSameRemoteObject stub info.toApp) ≤ 1) : Mirrored (state.detach info) := by
  have comm := detach_commAuth state.skeleton info pointer
  have fewer : ∀ auth ∈ (state.detach info).skeleton.commAuth, auth ∈ state.skeleton.commAuth := by
    intro auth member
    rw [detach_skeleton,comm] at member
    split at member
    · exact List.mem_of_mem_eraseP member
    · exact member
  refine ⟨?_,?_,?_,fun auth member => mirrored.unmarked auth (fewer auth member),?_,?_⟩
  · rw [detach_skeleton,detach_objects]
    exact consistent_detach mirrored.consistent info
  · intro stubIndex owner app nonzero held
    rw [detach_skeleton,detach_stubObjects] at held
    simp only [detach_skeleton,entry_detach,appInfo_eq_iff]
    have before := mirrored.mirrors stubIndex owner app nonzero held
    by_cases bound : entry state.skeleton info.toApp.appInfo info.stubIndex = some info.socketId
    · rw [Recorded,comm,if_pos bound]
      by_cases mine : app = info.toApp ∧ stubIndex = info.stubIndex
      · obtain ⟨rfl,rfl⟩ := mine
        have stubs := lookup_of_queryStubIndex (own ▸ nonzero)
        rw [← own,held,Option.some.injEq] at stubs
        subst stubs
        rw [if_pos ⟨rfl,rfl,bound⟩]
        refine ⟨?_,fun impossible => by cases impossible⟩
        intro holds
        obtain ⟨auth,member,same⟩ := holds
        exact absurd ((isSameRemoteObject_iff _ _ auth).mpr same) (not_mem_eraseP (once bound) member)
      · rw [if_neg (fun all => mine ⟨all.1,all.2.1⟩),← before]
        have apart (auth : CommAuthInfo) (named : auth.stub = owner ∧ auth.app = app) :
            ¬ isSameRemoteObject stub info.toApp auth = true := by
          rw [isSameRemoteObject_iff]
          intro holds
          obtain ⟨rfl,sameApp⟩ := holds
          obtain ⟨rfl,rfl⟩ := named
          exact mine ⟨sameApp,(mirrored.consistent.queryStubIndex_eq held).symm.trans own.symm⟩
        constructor
        · intro holds
          obtain ⟨auth,member,named⟩ := holds
          exact ⟨auth,List.mem_of_mem_eraseP member,named⟩
        · intro holds
          obtain ⟨auth,member,named⟩ := holds
          exact ⟨auth,(List.mem_eraseP_of_neg (apart auth named)).mpr member,named⟩
    · rw [Recorded,comm,if_neg bound,if_neg (fun all => bound all.2.2)]
      exact before
  · intro auth member
    rw [detach_skeleton,detach_stubObjects]
    exact mirrored.indexed auth (fewer auth member)
  · intro app stubIndex nonzero granted
    rw [detach_calls] at granted
    rw [detach_skeleton,entry_detach]
    rcases granted.of_snoc with impossible | ⟨earlier,spared⟩
    · cases impossible
    have present := mirrored.kept app stubIndex nonzero earlier
    obtain ⟨bound,held⟩ := Option.isSome_iff_exists.mp present
    -- the history binds the grant as its entry does, so a detach that misses the one misses the other
    have binding := (sound app stubIndex bound nonzero held).1
    rwa [if_neg]
    rintro ⟨same,rfl,own⟩
    obtain rfl := appInfo_injective same
    rw [own] at held
    exact spared ⟨rfl,rfl,binding.trans held.symm⟩
  · intro peer shut
    rw [detach_calls] at shut
    rcases shut_snoc shut with ⟨_,_,impossible,-⟩ | ⟨earlier,-⟩
    · cases impossible
    · exact refused_of_subset fewer (mirrored.refused peer earlier)

/-- By the history of calls every grant that the session's peer was given, or that is bound to the socket, has been
taken back. Socket 0 is none: it marks the grants whose application is not connected. -/
def settled (state : State) (socketId : Int32) : Prop :=
  ∀ (app : App) stubIndex, stubIndex ≠ 0 → Grants.Granted app stubIndex state.calls →
    socketId ≠ 0 ∧ Grants.binding app stubIndex state.calls ≠ some socketId ∧
      ∀ peer, state.skeleton.dbinderSessionObjects.lookup socketId = some peer → ¬ SamePeer app peer

/-- What is recorded was granted and is not taken back. -/
theorem Mirrored.granted_of_recorded {state : State} (mirrored : Mirrored state) (sound : Sound state.skeleton state.calls)
    {auth : CommAuthInfo} (member : auth ∈ state.skeleton.commAuth) :
    ∃ stubIndex, stubIndex ≠ 0 ∧ Grants.Granted auth.app stubIndex state.calls := by
  obtain ⟨stubIndex,nonzero,held⟩ := mirrored.indexed auth member
  have present := (mirrored.mirrors stubIndex auth.stub auth.app nonzero held).mp ⟨auth,member,rfl,rfl⟩
  obtain ⟨bound,found⟩ := Option.isSome_iff_exists.mp present
  exact ⟨stubIndex,nonzero,(sound auth.app stubIndex bound nonzero found).2⟩

/-- Nothing of the peer is left in either container once the calls took back what they gave. -/
theorem Mirrored.cleared {state : State} (mirrored : Mirrored state) (sound : Sound state.skeleton state.calls)
    {socketId : Int32} (quiet : settled state socketId) :
    (∀ auth ∈ state.skeleton.commAuth, auth.socketId ≠ socketId) ∧
      (∀ (app : App) stubIndex, stubIndex ≠ 0 → entry state.skeleton app.appInfo stubIndex ≠ some socketId) ∧
      ∀ peer, state.skeleton.dbinderSessionObjects.lookup socketId = some peer →
        ∀ auth ∈ state.skeleton.commAuth, ¬ SamePeer auth.app peer := by
  refine ⟨?_,?_,?_⟩
  · intro auth member same
    obtain ⟨stubIndex,nonzero,granted⟩ := mirrored.granted_of_recorded sound member
    exact (quiet auth.app stubIndex nonzero granted).1 (same.symm.trans (mirrored.unmarked auth member))
  · intro app stubIndex nonzero held
    obtain ⟨binding,granted⟩ := sound app stubIndex socketId nonzero held
    exact (quiet app stubIndex nonzero granted).2.1 binding
  · intro peer session auth member
    obtain ⟨stubIndex,nonzero,granted⟩ := mirrored.granted_of_recorded sound member
    exact (quiet auth.app stubIndex nonzero granted).2.2 peer session

private theorem granted_of_closed {state : State} {socketId : Int32} {app : App} {stubIndex : UInt64}
    (granted : Grants.Granted app stubIndex (state.sessionDetached socketId).calls) :
    Grants.Granted app stubIndex state.calls := by
  simp only [State.sessionDetached] at granted
  rcases granted.of_snoc with impossible | ⟨earlier,-⟩
  · cases impossible
  cases session : state.skeleton.dbinderSessionObjects.lookup socketId with
  | none => simpa [session] using earlier
  | some peer =>
    simp only [session] at earlier
    rcases earlier.of_snoc with impossible | ⟨earliest,-⟩
    · cases impossible
    · exact earliest

theorem mirrored_closed {state : State} (mirrored : Mirrored state) (sound : Sound state.skeleton state.calls)
    {socketId : Int32} (quiet : settled state socketId) :
    Mirrored (state.onDatabusSessionServerSideClosed socketId) := by
  obtain ⟨skeleton,calls,objects⟩ := releaseIndex_foldl (state.sessionDetached socketId)
    (state.skeleton.detachAppAuthInfoBySocketId socketId).2
  obtain ⟨unmarked,unbound,gone⟩ := mirrored.cleared sound quiet
  have comm : (state.skeleton.detachAppAuthInfoBySocketId socketId).1.commAuth = state.skeleton.commAuth := by
    apply List.filter_eq_self.mpr
    intro auth member
    simpa using unmarked auth member
  have entries (app : App) {stubIndex : UInt64} (nonzero : stubIndex ≠ 0) :
      entry (state.skeleton.detachAppAuthInfoBySocketId socketId).1 app.appInfo stubIndex =
        entry state.skeleton app.appInfo stubIndex := by
    rw [entry_detachBySocketId]
    cases held : entry state.skeleton app.appInfo stubIndex with
    | none => rfl
    | some bound =>
      have other : bound ≠ socketId := by
        intro same
        subst same
        exact unbound app stubIndex nonzero held
      simp [other]
  have consistent := consistent_detachBySocketId mirrored.consistent socketId
  unfold State.onDatabusSessionServerSideClosed
  refine ⟨?_,?_,?_,?_,?_,?_⟩
  · rw [skeleton,objects]
    exact ⟨consistent.single,consistent.alive,consistent.owned⟩
  · intro stubIndex stub app nonzero held
    rw [skeleton] at held ⊢
    change (∃ auth ∈ (state.skeleton.detachAppAuthInfoBySocketId socketId).1.commAuth,_) ↔
      (entry (state.skeleton.detachAppAuthInfoBySocketId socketId).1 app.appInfo stubIndex).isSome = true
    rw [comm,entries app nonzero]
    exact mirrored.mirrors stubIndex stub app nonzero held
  · rw [skeleton]
    change ∀ auth ∈ (state.skeleton.detachAppAuthInfoBySocketId socketId).1.commAuth,_
    rw [comm]
    exact mirrored.indexed
  · rw [skeleton]
    change ∀ auth ∈ (state.skeleton.detachAppAuthInfoBySocketId socketId).1.commAuth,_
    rw [comm]
    exact mirrored.unmarked
  · intro app stubIndex nonzero granted
    rw [calls] at granted
    rw [skeleton]
    change (entry (state.skeleton.detachAppAuthInfoBySocketId socketId).1 app.appInfo stubIndex).isSome = true
    rw [entries app nonzero]
    exact mirrored.kept app stubIndex nonzero (granted_of_closed granted)
  · intro peer shut
    rw [calls] at shut
    rw [skeleton,queryCommAuthInfo_none_iff]
    change ∀ auth ∈ (state.skeleton.detachAppAuthInfoBySocketId socketId).1.commAuth,_
    rw [comm]
    have earlier (before : Shut peer state.calls) := (queryCommAuthInfo_none_iff _ _).mp (mirrored.refused peer before)
    rcases shut_snoc shut with ⟨_,_,impossible,-⟩ | ⟨shut,-⟩
    · cases impossible
    cases session : state.skeleton.dbinderSessionObjects.lookup socketId with
    | none =>
      simp only [session,List.append_nil] at shut
      exact earlier shut
    | some closed =>
      simp only [session] at shut
      rcases shut_snoc shut with ⟨_,_,same,peers⟩ | ⟨before,-⟩
      · cases same
        intro auth member same
        exact gone closed session auth member ⟨same.1.trans peers.1.symm,same.2.1.trans peers.2.1.symm,
          same.2.2.trans peers.2.2.symm⟩
      · exact earlier before

theorem mirrored_onFirstStrongRef {state : State} (mirrored : Mirrored state) (stub : Nat) :
    Mirrored (state.onFirstStrongRef stub) := by
  unfold State.onFirstStrongRef
  split
  · exact mirrored
  · have ⟨⟨single,alive,owned⟩,mirrors,indexed,unmarked,kept,refused⟩ := mirrored
    exact ⟨⟨single,fun stubIndex owner held => List.mem_cons_of_mem _ (alive stubIndex owner held),owned⟩,
      mirrors,indexed,unmarked,kept,refused⟩

theorem mirrored_onLastStrongRef {state : State} (mirrored : Mirrored state) (stub : Nat) :
    Mirrored (state.onLastStrongRef stub) := by
  unfold State.onLastStrongRef
  split
  · exact mirrored
  have consistent := consistent_onLastStrongRef mirrored.consistent stub
  have comm : (state.skeleton.eraseStubIndex stub).1.commAuth = state.skeleton.commAuth := by
    unfold Skeleton.eraseStubIndex
    split <;> rfl
  have member_iff (auth : CommAuthInfo) :
      auth ∈ ((state.skeleton.eraseStubIndex stub).1.detachAppAuthInfoByStub stub
          (state.skeleton.eraseStubIndex stub).2).commAuth ↔ auth ∈ state.skeleton.commAuth ∧ auth.stub ≠ stub := by
    simp [Skeleton.detachAppAuthInfoByStub,comm]
  refine ⟨consistent,?_,?_,?_,?_,?_⟩
  · intro stubIndex owner app nonzero held
    obtain ⟨before,other⟩ := eraseStubIndex_left held
    change (∃ auth ∈ ((state.skeleton.eraseStubIndex stub).1.detachAppAuthInfoByStub stub _).commAuth,_) ↔
      (entry ((state.skeleton.eraseStubIndex stub).1.detachAppAuthInfoByStub stub _) app.appInfo stubIndex).isSome = true
    rw [entry_detachByStub,if_neg (other nonzero),entry,eraseStubIndex_table]
    refine Iff.trans ?_ (mirrored.mirrors stubIndex owner app nonzero before)
    have apart : owner ≠ stub := by
      intro same
      subst same
      have living := consistent.alive stubIndex owner held
      simp at living
    constructor
    · intro holds
      obtain ⟨auth,member,named⟩ := holds
      exact ⟨auth,((member_iff auth).mp member).1,named⟩
    · intro holds
      obtain ⟨auth,member,rfl,rfl⟩ := holds
      exact ⟨auth,(member_iff auth).mpr ⟨member,apart⟩,rfl,rfl⟩
  · intro auth member
    obtain ⟨old,apart⟩ := (member_iff auth).mp member
    obtain ⟨stubIndex,nonzero,held⟩ := mirrored.indexed auth old
    exact ⟨stubIndex,nonzero,eraseStubIndex_keeps held apart⟩
  · intro auth member
    exact mirrored.unmarked auth ((member_iff auth).mp member).1
  · intro app stubIndex nonzero granted
    rcases granted.of_snoc with impossible | ⟨earlier,spared⟩
    · cases impossible
    change (entry ((state.skeleton.eraseStubIndex stub).1.detachAppAuthInfoByStub stub _) app.appInfo stubIndex).isSome = true
    rw [entry_detachByStub,if_neg fun same => spared same.symm,entry,eraseStubIndex_table]
    exact mirrored.kept app stubIndex nonzero earlier
  · intro peer shut
    rcases shut_snoc shut with ⟨_,_,impossible,-⟩ | ⟨earlier,-⟩
    · cases impossible
    · exact refused_of_subset (fun auth member => ((member_iff auth).mp member).1) (mirrored.refused peer earlier)

/-- Closing a real socket keeps both promises only when everything was given back: no entry of `commAuth_`
ever carries a socket, so the close revokes none. -/
theorem settled_of_mirrored_closed {state : State} (mirrored : Mirrored state) (sound : Sound state.skeleton state.calls)
    {socketId : Int32} (real : socketId ≠ 0) (after : Mirrored (state.onDatabusSessionServerSideClosed socketId)) :
    settled state socketId := by
  obtain ⟨skeleton,-,-⟩ := releaseIndex_foldl (state.sessionDetached socketId)
    (state.skeleton.detachAppAuthInfoBySocketId socketId).2
  change (state.onDatabusSessionServerSideClosed socketId).skeleton = _ at skeleton
  have comm : (state.sessionDetached socketId).skeleton.commAuth = state.skeleton.commAuth := by
    apply List.filter_eq_self.mpr
    intro auth member
    have unmarked : auth.socketId ≠ socketId := by
      intro same
      exact real (same.symm.trans (mirrored.unmarked auth member))
    simpa using unmarked
  intro app stubIndex nonzero granted
  have present := mirrored.kept app stubIndex nonzero granted
  obtain ⟨stub,held⟩ := mirrored.consistent.owned _ _ nonzero present
  have recorded := (mirrored.mirrors stubIndex stub app nonzero held).mpr present
  obtain ⟨bound,found⟩ := Option.isSome_iff_exists.mp present
  refine ⟨real,?_,?_⟩
  · intro closes
    rw [(sound app stubIndex bound nonzero found).1,Option.some.injEq] at closes
    have still := after.mirrors stubIndex stub app nonzero (by rw [skeleton]; exact held)
    rw [skeleton,Recorded,comm] at still
    have left := still.mp recorded
    change (entry (state.skeleton.detachAppAuthInfoBySocketId socketId).1 app.appInfo stubIndex).isSome = true at left
    rw [entry_detachBySocketId,found,Option.bind_some,if_pos closes] at left
    cases left
  · intro peer session same
    have refused := (queryCommAuthInfo_none_iff _ _).mp (after.refused peer (shut_closed session))
    rw [skeleton,comm] at refused
    obtain ⟨auth,member,-,rfl⟩ := recorded
    exact refused auth member same

/-- A session is closed only once everything its peer was granted is given back, a stub is given back by a
proxy it was sent to once, and grants by index name the stub's own. -/
def returned (state : State) : Event → Prop
  | .addAuthInfo stub _ stubIndex => stubIndex = 0 ∨ stubIndex = state.skeleton.queryStubIndex stub
  | .dbinderIncRefsTransaction stub caller _ =>
    state.skeleton.queryStubIndex stub = 0 ∨
      (entry state.skeleton caller.appInfo (state.skeleton.queryStubIndex stub)).isSome = true
  | .dbinderDecRefsTransaction stub caller listenFd =>
    entry state.skeleton caller.appInfo (state.skeleton.queryStubIndex stub) = some listenFd →
      state.skeleton.commAuth.countP (isSameRemoteObject stub caller) ≤ 1
  | .onDatabusSessionServerSideClosed socketId => settled state socketId
  | _ => True

private theorem mirrored_grant {state : State} (mirrored : Mirrored state) {stub : Nat} (living : stub ∈ state.objects)
    (peer : App) (nonzero : (state.skeleton.addStubByIndex stub).2 ≠ 0) :
    Mirrored (State.attach { state with skeleton := (state.skeleton.addStubByIndex stub).1 }
      { peer with socketId := 0, stubIndex := (state.skeleton.addStubByIndex stub).2, stub := some stub }) := by
  obtain ⟨-,own,-⟩ := addStubByIndex_spec mirrored.consistent living
  exact mirrored_attach_stub (mirrored_addStubByIndex mirrored living) _ rfl rfl nonzero (own nonzero)

theorem mirrored_step {state : State} (mirrored : Mirrored state) (sound : Sound state.skeleton state.calls)
    {event : Event} (guard : returned state event) :
    Mirrored (state.step event) := by
  cases event with
  | createServerSessionObject stub peer =>
    simp only [State.step,State.createServerSessionObject]
    split
    · exact mirrored
    rename_i living
    have member := Decidable.not_not.mp living
    split
    · exact mirrored_addStubByIndex mirrored member
    · rename_i nonzero
      exact mirrored_grant mirrored member peer nonzero
  | invokerDataBusThread stub deviceId sessionName remote created written =>
    simp only [State.step,State.invokerDataBusThread]
    split
    · exact mirrored
    rename_i legal
    have member : stub ∈ state.objects := Decidable.not_not.mp fun gone => legal (.inl gone)
    split
    · exact mirrored_addStubByIndex mirrored member
    · rename_i proceeds
      exact mirrored_grant mirrored member remote fun zero => proceeds (.inl zero)
  | addAuthInfo stub remote stubIndex =>
    simp only [State.step,State.addAuthInfo]
    split
    · exact mirrored
    split
    · exact mirrored
    · rename_i nonzero
      have own : state.authIndex stub stubIndex = state.skeleton.queryStubIndex stub := authIndex_own guard
      refine mirrored_attach_stub mirrored _ rfl rfl nonzero ?_
      rw [own] at nonzero ⊢
      exact lookup_of_queryStubIndex nonzero
  | dbinderIncRefsTransaction stub caller listenFd =>
    simp only [State.step,State.dbinderIncRefsTransaction]
    split
    · exact mirrored
    · exact mirrored_attach_bare mirrored _ rfl guard
  | dbinderDecRefsTransaction stub caller listenFd =>
    simp only [State.step,State.dbinderDecRefsTransaction]
    split
    · exact mirrored
    · exact mirrored_detach mirrored sound _ rfl rfl guard
  | onReceiveNewConnection socketId peer =>
    simp only [State.step,State.onReceiveNewConnection]
    split
    · exact mirrored
    · refine mirrored_attach_bare ?_ _ rfl (.inl rfl)
      obtain ⟨consistent,mirrors,indexed,unmarked,kept,refused⟩ := mirrored
      exact ⟨⟨consistent.single,consistent.alive,consistent.owned⟩,mirrors,indexed,unmarked,kept,refused⟩
  | onDatabusSessionServerSideClosed socketId => exact mirrored_closed mirrored sound guard
  | onFirstStrongRef stub => exact mirrored_onFirstStrongRef mirrored stub
  | onLastStrongRef stub => exact mirrored_onLastStrongRef mirrored stub

theorem Mirrored.recorded_iff {state : State} (mirrored : Mirrored state) (stub : Nat) (app : App) :
    Recorded state.skeleton stub app ↔ state.skeleton.queryStubIndex stub ≠ 0 ∧
      (entry state.skeleton app.appInfo (state.skeleton.queryStubIndex stub)).isSome = true := by
  by_cases zero : state.skeleton.queryStubIndex stub = 0
  · refine ⟨?_,fun indexed => absurd zero indexed.1⟩
    intro holds
    obtain ⟨auth,member,rfl,-⟩ := holds
    obtain ⟨stubIndex,nonzero,held⟩ := mirrored.indexed auth member
    exact absurd ((mirrored.consistent.queryStubIndex_eq held).symm.trans zero) nonzero
  · rw [mirrored.mirrors _ stub app zero (lookup_of_queryStubIndex zero)]
    exact ⟨fun present => ⟨zero,present⟩,fun both => both.2⟩

theorem mirrored_of_run {randNum : UInt64} {events : List Event} {state : State}
    (run : Reaches (guarded (does State.step) returned) (State.new randNum) events state) :
    Mirrored state ∧ Sound state.skeleton state.calls := by
  apply run.invariant (fun state => Mirrored state ∧ Sound state.skeleton state.calls)
  · exact ⟨mirrored_new randNum,fun _ _ _ _ held => by cases held⟩
  · rintro before event _ ⟨mirrored,sound⟩ ⟨guard,rfl⟩
    exact ⟨mirrored_step mirrored sound guard,sound_step sound event⟩

/-- In every run whose steps are `returned`, a peer whose session was closed is refused until it is
granted something anew, and the two containers hold the same stubs for the same applications. -/
theorem closed_peer_refused {randNum : UInt64} {events : List Event} {state : State}
    (run : Reaches (guarded (does State.step) returned) (State.new randNum) events state) :
    (∀ peer, Shut peer state.calls → state.skeleton.queryCommAuthInfo peer = none ∧
      ∀ socketId, state.step (.onReceiveNewConnection socketId peer) = state) ∧
    ∀ stub app, Recorded state.skeleton stub app ↔ state.skeleton.queryStubIndex stub ≠ 0 ∧
      (entry state.skeleton app.appInfo (state.skeleton.queryStubIndex stub)).isSome = true := by
  obtain ⟨mirrored,-⟩ := mirrored_of_run run
  refine ⟨?_,mirrored.recorded_iff⟩
  intro peer shut
  have refused := mirrored.refused peer shut
  refine ⟨refused,fun socketId => ?_⟩
  simp only [State.step,State.onReceiveNewConnection,refused]

def connecting : List Event :=
  [.onFirstStrongRef 1,.createServerSessionObject 1 samplePeer,.onReceiveNewConnection 9 samplePeer]

def connected : State := connecting.foldl State.step (State.new 7)

def otherPeer : App := ⟨[65,66],101,200,301⟩

/-- The peer was sent stubs 1 and 2 and is connected; it gives stub 1 back and stub 2 dies. Another peer keeps stub 1. -/
def leaving : List Event :=
  [.onFirstStrongRef 1,.onFirstStrongRef 2,.createServerSessionObject 1 samplePeer,.createServerSessionObject 2 samplePeer,
    .createServerSessionObject 1 otherPeer,.onReceiveNewConnection 9 samplePeer,.dbinderDecRefsTransaction 1 samplePeer 9,
    .onLastStrongRef 2]

def left : State := leaving.foldl State.step (State.new 7)

private theorem left_reached : Reaches (guarded (does State.step) returned) (State.new 7) leaving left := by
  have sent : Reaches (guarded (does State.step) returned) (State.new 7) (leaving.take 6) _ :=
    .snoc _ (.snoc _ (.snoc _ (.snoc _ (.snoc _ (.single ⟨trivial,rfl⟩) ⟨trivial,rfl⟩) ⟨trivial,rfl⟩) ⟨trivial,rfl⟩)
      ⟨trivial,rfl⟩) ⟨trivial,rfl⟩
  have once : returned ((leaving.take 6).foldl State.step (State.new 7)) (.dbinderDecRefsTransaction 1 samplePeer 9) := by
    intro _
    decide +kernel
  exact (sent.snoc _ ⟨once,rfl⟩).snoc (Event.onLastStrongRef 2) ⟨trivial,rfl⟩

/-- What is left is granted to the other peer, which is not connected. -/
private theorem left_settled : settled left 9 := by
  obtain ⟨mirrored,sound⟩ := mirrored_of_run left_reached
  have others : (left.skeleton.appInfoToStubIndex.entries.all fun held =>
      held.1 = otherPeer.appInfo && held.2.entries.all fun entry => entry.2 = 0) = true := by decide +kernel
  have session : left.skeleton.dbinderSessionObjects.lookup 9 = some samplePeer := by decide +kernel
  intro app stubIndex nonzero granted
  obtain ⟨bound,found⟩ := Option.isSome_iff_exists.mp (mirrored.kept app stubIndex nonzero granted)
  obtain ⟨indexes,table,inner⟩ := Option.bind_eq_some_iff.mp found
  have entered := List.all_eq_true.mp others _ (AList.mem_lookup_iff.mp table)
  simp only [Bool.and_eq_true,decide_eq_true_eq] at entered
  obtain rfl := appInfo_injective entered.1
  have unbound : bound = 0 := by simpa using List.all_eq_true.mp entered.2 _ (AList.mem_lookup_iff.mp inner)
  refine ⟨by decide,?_,?_⟩
  · rw [(sound otherPeer stubIndex bound nonzero found).1,unbound]
    decide
  · rw [session]
    rintro peer ⟨⟩ same
    exact absurd same.1 (by decide)

theorem closed_peer_refused_sample :
    Shut samplePeer (left.step (.onDatabusSessionServerSideClosed 9)).calls ∧
      (left.step (.onDatabusSessionServerSideClosed 9)).skeleton.queryCommAuthInfo samplePeer = none ∧
      Recorded (left.step (.onDatabusSessionServerSideClosed 9)).skeleton 1 otherPeer := by
  have closed := left_reached.snoc (Event.onDatabusSessionServerSideClosed 9) ⟨left_settled,rfl⟩
  have shut : Shut samplePeer (left.step (.onDatabusSessionServerSideClosed 9)).calls := shut_closed (by decide +kernel)
  obtain ⟨refused,agree⟩ := closed_peer_refused closed
  exact ⟨shut,(refused samplePeer shut).1,(agree 1 otherPeer).mpr ⟨by decide +kernel,by decide +kernel⟩⟩

/-- The connected peer is closed. It is still let in, and `commAuth_` keeps the stub for an
application that no longer has its index. -/
theorem closed_peer_let_in :
    let state := connected.step (.onDatabusSessionServerSideClosed 9)
    Reaches (does State.step) (State.new 7) (connecting ++ [.onDatabusSessionServerSideClosed 9]) state ∧
      Shut samplePeer state.calls ∧ state.skeleton.queryCommAuthInfo samplePeer = some 300 ∧
      Recorded state.skeleton 1 samplePeer ∧ state.skeleton.queryStubIndex 1 = 7 ∧
      entry state.skeleton samplePeer.appInfo 7 = none := by
  refine ⟨.snoc _ (.of_foldl State.step connecting _) rfl,shut_closed (by decide +kernel),by decide +kernel,?_,by decide +kernel,by decide +kernel⟩
  exact ⟨⟨1,samplePeer,0⟩,by decide +kernel,rfl,rfl⟩

end CommunicationIpc.AuthComm
