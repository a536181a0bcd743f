import CommunicationIpc.Auth

/-! Stub indexes. A stub has at most one index, an index in use belongs to a living stub, and
every entry of an application is for an index in use, as long as `AddAuthInfo` names the
stub's own index. -/
namespace CommunicationIpc.AuthIndexes
open CommunicationIpc.Library CommunicationIpc.Kernel.Auth CommunicationIpc.Auth

theorem find_stub_some {skeleton : Skeleton} {stub : Nat} {found : Sigma fun _ : UInt64 => Nat}
    (here : skeleton.stubObjects.entries.find? (fun entry => entry.2 = stub) = some found) :
    skeleton.stubObjects.lookup found.1 = some stub := by
  have member := List.mem_of_find?_eq_some here
  have same : found.2 = stub := by simpa using List.find?_some here
  rw [← same]
  exact AList.mem_lookup_iff.mpr member

theorem find_stub_none {skeleton : Skeleton} {stub : Nat}
    (gone : skeleton.stubObjects.entries.find? (fun entry => entry.2 = stub) = none) (stubIndex : UInt64) :
    skeleton.stubObjects.lookup stubIndex ≠ some stub := by
  intro held
  have member := AList.mem_lookup_iff.mp (Option.mem_def.mpr held)
  simpa using List.find?_eq_none.mp gone _ member

theorem queryStubIndex_spec (skeleton : Skeleton) (stub : Nat) :
    skeleton.stubObjects.lookup (skeleton.queryStubIndex stub) = some stub ∨
      (skeleton.queryStubIndex stub = 0 ∧ ∀ stubIndex, skeleton.stubObjects.lookup stubIndex ≠ some stub) := by
  unfold Skeleton.queryStubIndex
  cases here : skeleton.stubObjects.entries.find? (fun entry => entry.2 = stub) with
  | some found => exact .inl (find_stub_some here)
  | none => exact .inr ⟨rfl,find_stub_none here⟩

theorem lookup_of_queryStubIndex {skeleton : Skeleton} {stub : Nat} (nonzero : skeleton.queryStubIndex stub ≠ 0) :
    skeleton.stubObjects.lookup (skeleton.queryStubIndex stub) = some stub := by
  rcases queryStubIndex_spec skeleton stub with found | ⟨zero,-⟩
  · exact found
  · exact absurd zero nonzero

theorem authIndex_own {state : State} {stub : Nat} {stubIndex : UInt64}
    (own : stubIndex = 0 ∨ stubIndex = state.skeleton.queryStubIndex stub) :
    state.authIndex stub stubIndex = state.skeleton.queryStubIndex stub := by
  unfold State.authIndex
  split
  · rfl
  · rename_i named
    exact own.resolve_left named

structure Consistent (skeleton : Skeleton) (objects : List Nat) : Prop where
  single : ∀ first second stub, skeleton.stubObjects.lookup first = some stub →
    skeleton.stubObjects.lookup second = some stub → first = second
  alive : ∀ stubIndex stub, skeleton.stubObjects.lookup stubIndex = some stub → stub ∈ objects
  owned : ∀ appInfo stubIndex, stubIndex ≠ 0 → (entry skeleton appInfo stubIndex).isSome = true →
    ∃ stub, skeleton.stubObjects.lookup stubIndex = some stub

theorem Consistent.queryStubIndex_eq {skeleton : Skeleton} {objects : List Nat} (consistent : Consistent skeleton objects)
    {stub : Nat} {stubIndex : UInt64} (held : skeleton.stubObjects.lookup stubIndex = some stub) :
    skeleton.queryStubIndex stub = stubIndex := by
  rcases queryStubIndex_spec skeleton stub with found | ⟨-,none⟩
  · exact consistent.single _ _ stub found held
  · exact absurd held (none stubIndex)

theorem consistent_new (randNum : UInt64) : Consistent (State.new randNum).skeleton (State.new randNum).objects where
  single := fun _ _ _ held => by cases held
  alive := fun _ _ held => by cases held
  owned := fun _ _ _ held => by cases held

theorem entry_attach_isSome (skeleton : Skeleton) (info : AppAuthInfo) (appInfo : List UInt8) {stubIndex : UInt64}
    (nonzero : stubIndex ≠ 0) :
    (entry (skeleton.attachOrUpdateAppAuthInfo info).1 appInfo stubIndex).isSome = true ↔
      (appInfo = info.toApp.appInfo ∧ info.stubIndex = stubIndex) ∨ (entry skeleton appInfo stubIndex).isSome = true := by
  rw [entry_attach _ _ _ _ nonzero]
  split
  · rename_i same
    split
    · rename_i named
      simp [same,named]
    · rename_i named
      split <;> simp [named]
  · rename_i other
    simp [other]

theorem attach_stubObjects (skeleton : Skeleton) (info : AppAuthInfo) :
    (skeleton.attachOrUpdateAppAuthInfo info).1.stubObjects = skeleton.stubObjects := by
  simp only [Skeleton.attachOrUpdateAppAuthInfo]
  split
  · rfl
  · split <;> rfl

theorem detach_stubObjects (skeleton : Skeleton) (info : AppAuthInfo) :
    (skeleton.detachAppAuthInfo info).1.stubObjects = skeleton.stubObjects := by
  simp only [Skeleton.detachAppAuthInfo]
  split
  · rfl
  · split <;> rfl

section Keep
variable {skeleton : Skeleton} {objects : List Nat}

theorem Consistent.of_entries {other : Skeleton} (consistent : Consistent skeleton objects)
    (stubs : other.stubObjects = skeleton.stubObjects)
    (fewer : ∀ appInfo stubIndex, stubIndex ≠ 0 → (entry other appInfo stubIndex).isSome = true →
      (entry skeleton appInfo stubIndex).isSome = true ∨ ∃ stub, skeleton.stubObjects.lookup stubIndex = some stub) :
    Consistent other objects where
  single := by rw [stubs]; exact consistent.single
  alive := by rw [stubs]; exact consistent.alive
  owned := by
    intro appInfo stubIndex nonzero held
    rw [stubs]
    rcases fewer appInfo stubIndex nonzero held with old | owner
    · exact consistent.owned appInfo stubIndex nonzero old
    · exact owner

theorem consistent_attach (consistent : Consistent skeleton objects) (info : AppAuthInfo)
    (named : info.stubIndex = 0 ∨ ∃ stub, skeleton.stubObjects.lookup info.stubIndex = some stub) :
    Consistent (skeleton.attachOrUpdateAppAuthInfo info).1 objects := by
  apply consistent.of_entries (attach_stubObjects skeleton info)
  intro appInfo stubIndex nonzero held
  rcases (entry_attach_isSome skeleton info appInfo nonzero).mp held with ⟨-,rfl⟩ | old
  · rcases named with zero | owner
    · exact absurd zero nonzero
    · exact .inr owner
  · exact .inl old

theorem consistent_detach (consistent : Consistent skeleton objects) (info : AppAuthInfo) :
    Consistent (skeleton.detachAppAuthInfo info).1 objects := by
  apply consistent.of_entries (detach_stubObjects skeleton info)
  intro appInfo stubIndex nonzero held
  rw [entry_detach] at held
  split at held
  · cases held
  · exact .inl held

theorem consistent_detachBySocketId (consistent : Consistent skeleton objects) (socketId : Int32) :
    Consistent (skeleton.detachAppAuthInfoBySocketId socketId).1 objects := by
  refine consistent.of_entries (show (skeleton.detachAppAuthInfoBySocketId socketId).1.stubObjects = _ from rfl) ?_
  intro appInfo stubIndex nonzero held
  rw [entry_detachBySocketId] at held
  cases old : entry skeleton appInfo stubIndex with
  | none => rw [old] at held; cases held
  | some bound => exact .inl rfl

theorem addStubByIndex_spec (consistent : Consistent skeleton objects) {stub : Nat} (living : stub ∈ objects) :
    Consistent (skeleton.addStubByIndex stub).1 objects ∧
      ((skeleton.addStubByIndex stub).2 ≠ 0 →
        (skeleton.addStubByIndex stub).1.stubObjects.lookup (skeleton.addStubByIndex stub).2 = some stub) ∧
      ((skeleton.addStubByIndex stub).1.stubObjects = skeleton.stubObjects ∨
        (skeleton.stubObjects.lookup skeleton.randNum = none ∧
          (∀ stubIndex, skeleton.stubObjects.lookup stubIndex ≠ some stub) ∧
          (skeleton.addStubByIndex stub).1.stubObjects = skeleton.stubObjects.insert skeleton.randNum stub)) := by
  cases here : skeleton.stubObjects.entries.find? (fun entry => entry.2 = stub) with
  | some found =>
    have result : skeleton.addStubByIndex stub = (skeleton,found.1) := by simp only [Skeleton.addStubByIndex,here]
    rw [result]
    exact ⟨consistent,fun _ => find_stub_some here,.inl rfl⟩
  | none =>
    have fresh := find_stub_none here
    cases taken : skeleton.stubObjects.lookup skeleton.randNum with
    | some other =>
      have result : skeleton.addStubByIndex stub = ({ skeleton with randNum := skeleton.randNum+1 },0) := by
        simp only [Skeleton.addStubByIndex,here,taken]
      rw [result]
      exact ⟨⟨consistent.single,consistent.alive,consistent.owned⟩,fun impossible => absurd rfl impossible,.inl rfl⟩
    | none =>
      have result : skeleton.addStubByIndex stub =
          ({ skeleton with randNum := skeleton.randNum+1,
                           stubObjects := skeleton.stubObjects.insert skeleton.randNum stub },skeleton.randNum) := by
        simp only [Skeleton.addStubByIndex,here,taken]
      rw [result]
      refine ⟨⟨?_,?_,?_⟩,fun _ => AList.lookup_insert _,.inr ⟨rfl,fresh,rfl⟩⟩
      · intro first second owner atFirst atSecond
        by_cases newFirst : first = skeleton.randNum <;> by_cases newSecond : second = skeleton.randNum
        · rw [newFirst,newSecond]
        · rw [newFirst,AList.lookup_insert,Option.some.injEq] at atFirst
          rw [AList.lookup_insert_ne newSecond,← atFirst] at atSecond
          exact absurd atSecond (fresh second)
        · rw [newSecond,AList.lookup_insert,Option.some.injEq] at atSecond
          rw [AList.lookup_insert_ne newFirst,← atSecond] at atFirst
          exact absurd atFirst (fresh first)
        · rw [AList.lookup_insert_ne newFirst] at atFirst
          rw [AList.lookup_insert_ne newSecond] at atSecond
          exact consistent.single first second owner atFirst atSecond
      · intro stubIndex owner held
        by_cases new : stubIndex = skeleton.randNum
        · rw [new,AList.lookup_insert,Option.some.injEq] at held
          rwa [← held]
        · rw [AList.lookup_insert_ne new] at held
          exact consistent.alive stubIndex owner held
      · intro appInfo stubIndex nonzero held
        obtain ⟨owner,found⟩ := consistent.owned appInfo stubIndex nonzero held
        have other : stubIndex ≠ skeleton.randNum := by
          intro same
          subst same
          rw [taken] at found
          cases found
        exact ⟨owner,by rw [AList.lookup_insert_ne other,found]⟩

theorem eraseStubIndex_left {stub owner : Nat} {stubIndex : UInt64}
    (held : (skeleton.eraseStubIndex stub).1.stubObjects.lookup stubIndex = some owner) :
    skeleton.stubObjects.lookup stubIndex = some owner ∧ (stubIndex ≠ 0 → stubIndex ≠ (skeleton.eraseStubIndex stub).2) := by
  unfold Skeleton.eraseStubIndex at held ⊢
  cases here : skeleton.stubObjects.entries.find? (fun entry => entry.2 = stub) with
  | none =>
    simp only [here] at held ⊢
    exact ⟨held,id⟩
  | some found =>
    simp only [here] at held ⊢
    have other : stubIndex ≠ found.1 := by
      intro same
      subst same
      rw [AList.lookup_erase] at held
      cases held
    rw [AList.lookup_erase_ne other] at held
    exact ⟨held,fun _ => other⟩

theorem eraseStubIndex_keeps {stub owner : Nat} {stubIndex : UInt64}
    (held : skeleton.stubObjects.lookup stubIndex = some owner) (apart : owner ≠ stub) :
    (skeleton.eraseStubIndex stub).1.stubObjects.lookup stubIndex = some owner := by
  unfold Skeleton.eraseStubIndex
  cases here : skeleton.stubObjects.entries.find? (fun entry => entry.2 = stub) with
  | none => exact held
  | some found =>
    have other : stubIndex ≠ found.1 := by
      intro same
      subst same
      rw [find_stub_some here,Option.some.injEq] at held
      exact apart held.symm
    exact (AList.lookup_erase_ne other).trans held

theorem consistent_onLastStrongRef (consistent : Consistent skeleton objects) (stub : Nat) :
    Consistent ((skeleton.eraseStubIndex stub).1.detachAppAuthInfoByStub stub (skeleton.eraseStubIndex stub).2)
      (objects.filter (fun object => object ≠ stub)) := by
  cases here : skeleton.stubObjects.entries.find? (fun entry => entry.2 = stub) with
  | none =>
    have fresh := find_stub_none here
    simp only [Skeleton.eraseStubIndex,here]
    refine ⟨consistent.single,?_,?_⟩
    · intro stubIndex owner held
      have other : owner ≠ stub := by
        intro same
        subst same
        exact fresh stubIndex held
      simp only [List.mem_filter,decide_eq_true_eq]
      exact ⟨consistent.alive stubIndex owner held,by simpa using other⟩
    · intro appInfo stubIndex nonzero held
      rw [entry_detachByStub] at held
      split at held
      · cases held
      · exact consistent.owned appInfo stubIndex nonzero held
  | some found =>
    have own := find_stub_some here
    simp only [Skeleton.eraseStubIndex,here]
    have old {stubIndex : UInt64} {owner : Nat} (held : (skeleton.stubObjects.erase found.1).lookup stubIndex = some owner) :
        stubIndex ≠ found.1 ∧ skeleton.stubObjects.lookup stubIndex = some owner := by
      have other : stubIndex ≠ found.1 := by
        intro same
        subst same
        rw [AList.lookup_erase] at held
        cases held
      rw [AList.lookup_erase_ne other] at held
      exact ⟨other,held⟩
    refine ⟨?_,?_,?_⟩
    · intro first second owner atFirst atSecond
      exact consistent.single first second owner (old atFirst).2 (old atSecond).2
    · intro stubIndex owner held
      obtain ⟨other,before⟩ := old held
      have living : owner ≠ stub := by
        intro same
        subst same
        exact other (consistent.single _ _ owner before own)
      simp only [List.mem_filter,decide_eq_true_eq]
      exact ⟨consistent.alive stubIndex owner before,by simpa using living⟩
    · intro appInfo stubIndex nonzero held
      rw [entry_detachByStub] at held
      split at held
      · cases held
      · rename_i other
        obtain ⟨owner,before⟩ := consistent.owned appInfo stubIndex nonzero held
        exact ⟨owner,by rw [← before]; exact AList.lookup_erase_ne other⟩

end Keep

end CommunicationIpc.AuthIndexes
