import CommunicationIpc.AuthIndexes

/-! What a request to add authorisation lets a peer use. The stub that is asked records itself, but the index that is granted is
the one in the request; the other requests that grant an index take the stub's own. -/
namespace CommunicationIpc.AuthGrants
open CommunicationIpc.Library CommunicationIpc.Kernel.Auth CommunicationIpc.Auth CommunicationIpc.AuthIndexes

/-- The application may send to the stub index on the socket. -/
def Allowed (skeleton : Skeleton) (app : App) (stubIndex : UInt64) (socketId : Int32) : Prop :=
  skeleton.queryAppInfoToStubIndex ⟨app,socketId,stubIndex,none⟩ = true

/-- Whatever became allowed is the stub's own index, and no other stub has it. -/
def Confined (before after : Skeleton) (stub : Nat) : Prop :=
  ∀ app stubIndex socketId, ¬ Allowed before app stubIndex socketId → Allowed after app stubIndex socketId →
    stubIndex = before.queryStubIndex stub ∧ ∀ other, before.queryStubByIndex stubIndex = some other → other = stub

structure Accepted (state : State) (stub : Nat) (remote : App) (stubIndex : UInt64) : Prop where
  living : stub ∈ state.objects
  legal : State.isDeviceIdIllegal remote.deviceId = false
  indexed : state.authIndex stub stubIndex ≠ 0

section Attach
variable (skeleton : Skeleton) (appInfo : List UInt8) (stubIndex : UInt64)

theorem entry_attach_named {info : AppAuthInfo} (named : info.stubIndex ≠ 0) :
    entry (skeleton.attachOrUpdateAppAuthInfo info).1 appInfo stubIndex =
      if appInfo = info.toApp.appInfo ∧ stubIndex = info.stubIndex then some info.socketId else entry skeleton appInfo stubIndex := by
  rw [entry,attach_table,entry]
  by_cases same : appInfo = info.toApp.appInfo
  · subst same
    rw [AList.lookup_insert,Option.bind_some]
    by_cases own : stubIndex = info.stubIndex
    · subst own
      rw [if_pos ⟨rfl,rfl⟩]
      cases skeleton.appInfoToStubIndex.lookup info.toApp.appInfo with
      | none => exact AList.lookup_insert _
      | some indexes => rw [Skeleton.updatedIndexes,if_pos named,AList.lookup_insert]
    · rw [if_neg fun both => own both.2]
      cases skeleton.appInfoToStubIndex.lookup info.toApp.appInfo with
      | none => exact (AList.lookup_insert_ne own).trans (AList.lookup_empty _)
      | some indexes => rw [Skeleton.updatedIndexes,if_pos named,AList.lookup_insert_ne own,Option.bind_some]
  · rw [AList.lookup_insert_ne same,if_neg fun both => same both.1]

theorem allowed_iff (app : App) (socketId : Int32) : Allowed skeleton app stubIndex socketId ↔
    ∃ bound, entry skeleton app.appInfo stubIndex = some bound ∧ (bound = 0 ∨ bound = socketId) :=
  queryAppInfoToStubIndex_iff skeleton _

end Attach

section Request
variable {state : State} {stub : Nat} {remote : App} {stubIndex : UInt64}

theorem addAuthInfo_refused (refused : ¬ Accepted state stub remote stubIndex) : state.addAuthInfo stub remote stubIndex = state := by
  unfold State.addAuthInfo
  split
  · rfl
  rename_i open_
  rw [not_or,not_not] at open_
  split
  · rfl
  · rename_i indexed
    exact absurd ⟨open_.1,Bool.eq_false_iff.mpr open_.2,indexed⟩ refused

/-- The index of an accepted request becomes allowed for its application, on every socket. -/
theorem allowed_addAuthInfo (accepted : Accepted state stub remote stubIndex) (app : App) (index : UInt64) (socketId : Int32) :
    Allowed (state.addAuthInfo stub remote stubIndex).skeleton app index socketId ↔
      app = remote ∧ index = state.authIndex stub stubIndex ∨ Allowed state.skeleton app index socketId := by
  have attached : (state.addAuthInfo stub remote stubIndex).skeleton = (state.skeleton.attachOrUpdateAppAuthInfo
      ⟨remote,0,state.authIndex stub stubIndex,some stub⟩).1 := by
    rw [State.addAuthInfo,if_neg,if_neg accepted.indexed,attach_skeleton]
    rw [not_or,not_not,accepted.legal]
    exact ⟨accepted.living,Bool.false_ne_true⟩
  have named : (⟨remote,0,state.authIndex stub stubIndex,some stub⟩ : AppAuthInfo).stubIndex ≠ 0 := accepted.indexed
  rw [allowed_iff,allowed_iff,attached,entry_attach_named _ _ _ named]
  simp only [appInfo_eq_iff]
  by_cases granted : app = remote ∧ index = state.authIndex stub stubIndex
  · rw [if_pos granted]
    exact iff_of_true ⟨0,rfl,.inl rfl⟩ (.inl granted)
  · rw [if_neg granted,or_iff_right granted]

theorem confined_own (accepted : Accepted state stub remote stubIndex)
    (own : stubIndex = 0 ∨ stubIndex = state.skeleton.queryStubIndex stub) :
    Confined state.skeleton (state.addAuthInfo stub remote stubIndex).skeleton stub := by
  intro app index socketId before after
  obtain ⟨-,same⟩ := ((allowed_addAuthInfo accepted app index socketId).mp after).resolve_right before
  have indexed := accepted.indexed
  rw [authIndex_own own] at same indexed
  refine ⟨same,?_⟩
  intro other found
  rw [Skeleton.queryStubByIndex,same,if_neg indexed,lookup_of_queryStubIndex indexed] at found
  exact (Option.some_inj.mp found).symm

end Request

/-- A request grants nothing but the index of the stub that is asked, if it leaves the index open, names the stub's own, or the
application is already granted the index it names and has no socket yet. -/
theorem add_auth_info_confined_iff (state : State) (stub : Nat) (remote : App) (stubIndex : UInt64) :
    Confined state.skeleton (state.addAuthInfo stub remote stubIndex).skeleton stub ↔
      (Accepted state stub remote stubIndex → stubIndex = 0 ∨ stubIndex = state.skeleton.queryStubIndex stub ∨
        entry state.skeleton remote.appInfo stubIndex = some 0) := by
  by_cases accepted : Accepted state stub remote stubIndex
  · rw [forall_prop_of_true accepted]
    constructor
    · intro confined
      by_cases zero : stubIndex = 0
      · exact .inl zero
      have named : state.authIndex stub stubIndex = stubIndex := if_neg zero
      have after : ∀ socketId, Allowed (state.addAuthInfo stub remote stubIndex).skeleton remote stubIndex socketId := fun socketId =>
        (allowed_addAuthInfo accepted remote stubIndex socketId).mpr (.inl ⟨rfl,named.symm⟩)
      refine .inr (or_iff_not_imp_left.mpr fun foreign => ?_)
      have before : ∀ socketId, Allowed state.skeleton remote stubIndex socketId := fun socketId =>
        by_contra fun denied => foreign (confined remote stubIndex socketId denied (after socketId)).1
      obtain ⟨first,found,firstBound⟩ := (allowed_iff _ _ _ _).mp (before 1)
      obtain ⟨second,again,secondBound⟩ := (allowed_iff _ _ _ _).mp (before 2)
      rw [found] at again
      cases again
      -- no entry is bound to both sockets
      rcases firstBound with rfl | rfl
      · exact found
      · exact absurd secondBound (by decide)
    · rintro (zero | own | held)
      · exact confined_own accepted (.inl zero)
      · exact confined_own accepted (.inr own)
      · intro app index socketId before after
        rcases (allowed_addAuthInfo accepted app index socketId).mp after with ⟨rfl,same⟩ | allowed
        · by_cases zero : stubIndex = 0
          · exact confined_own accepted (.inl zero) app index socketId before after
          · rw [State.authIndex,if_neg zero] at same
            subst same
            exact absurd ((allowed_iff _ _ _ _).mpr ⟨0,held,.inl rfl⟩) before
        · exact absurd allowed before
  · rw [addAuthInfo_refused accepted]
    refine iff_of_true ?_ fun granted => absurd granted accepted
    intro app index socketId before after
    exact absurd after before

/-- Two stubs, the second with the index 7, which another peer was granted. -/
def twoStubs : State :=
  [.onFirstStrongRef 1,.onFirstStrongRef 2,.createServerSessionObject 2 ⟨[67],10,20,30⟩].foldl State.step (State.new 7)

/-- A peer that names the index of the second stub in a request to the first may use the second. -/
theorem other_stub_granted : Accepted twoStubs 1 samplePeer 7 ∧ ¬ Allowed twoStubs.skeleton samplePeer 7 5 ∧
    Allowed (twoStubs.addAuthInfo 1 samplePeer 7).skeleton samplePeer 7 5 ∧ twoStubs.skeleton.queryStubByIndex 7 = some 2 := by
  refine ⟨⟨by decide,by decide,by decide⟩,?_,by rfl,by rfl⟩
  unfold Allowed
  decide

end CommunicationIpc.AuthGrants
