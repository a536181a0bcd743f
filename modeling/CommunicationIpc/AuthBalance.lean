import CommunicationIpc.AuthIndexes

/-! Strong references held for remote peers against the applications that hold an entry
for the stub's index. -/
namespace CommunicationIpc.AuthBalance
open CommunicationIpc.Library CommunicationIpc.Kernel.Auth CommunicationIpc.Auth CommunicationIpc.AuthIndexes

/-- The number of applications with an entry for the index. -/
def holders (skeleton : Skeleton) (stubIndex : UInt64) : Nat :=
  Table.tally (fun indexes => (indexes.lookup stubIndex).isSome) skeleton.appInfoToStubIndex

def present (skeleton : Skeleton) (appInfo : List UInt8) (stubIndex : UInt64) : Nat :=
  if (entry skeleton appInfo stubIndex).isSome then 1 else 0

section Holders
variable (skeleton : Skeleton) (stubIndex : UInt64)

theorem present_eq_weight (appInfo : List UInt8) :
    present skeleton appInfo stubIndex = Table.weight (fun indexes => (indexes.lookup stubIndex).isSome)
      (skeleton.appInfoToStubIndex.lookup appInfo) := by
  simp only [present,entry,Table.weight,Option.isSome_bind]

theorem holders_attach (info : AppAuthInfo) :
    holders (skeleton.attachOrUpdateAppAuthInfo info).1 stubIndex+present skeleton info.toApp.appInfo stubIndex =
      holders skeleton stubIndex+present (skeleton.attachOrUpdateAppAuthInfo info).1 info.toApp.appInfo stubIndex := by
  simp only [present_eq_weight,holders,attach_table,AList.lookup_insert]
  exact Table.tally_insert _ _ _ _

private theorem tally_putIndexes (table : Table (List UInt8) (Table UInt64 Int32)) (key : List UInt8)
    (indexes : Table UInt64 Int32) :
    Table.tally (fun indexes => (indexes.lookup stubIndex).isSome) (Skeleton.putIndexes table key indexes)+
        Table.weight (fun indexes => (indexes.lookup stubIndex).isSome) (table.lookup key) =
      Table.tally (fun indexes => (indexes.lookup stubIndex).isSome) table+
        Table.weight (fun indexes => (indexes.lookup stubIndex).isSome)
          ((Skeleton.putIndexes table key indexes).lookup key) := by
  unfold Skeleton.putIndexes
  split
  · rw [AList.lookup_erase,Table.tally_erase]
    rfl
  · rw [AList.lookup_insert]
    exact Table.tally_insert _ _ _ _

theorem holders_detach (info : AppAuthInfo) :
    holders (skeleton.detachAppAuthInfo info).1 stubIndex+present skeleton info.toApp.appInfo stubIndex =
      holders skeleton stubIndex+present (skeleton.detachAppAuthInfo info).1 info.toApp.appInfo stubIndex := by
  simp only [present_eq_weight,holders]
  cases held : skeleton.appInfoToStubIndex.lookup info.toApp.appInfo with
  | none => simp only [Skeleton.detachAppAuthInfo,held]
  | some indexes =>
    simp only [Skeleton.detachAppAuthInfo,held]
    split <;> rw [← held] <;> exact tally_putIndexes stubIndex _ _ _

theorem holders_detachByStub (stub : Nat) (index : UInt64) (other : stubIndex ≠ index) :
    holders (skeleton.detachAppAuthInfoByStub stub index) stubIndex = holders skeleton stubIndex := by
  simp only [holders,Skeleton.detachAppAuthInfoByStub,Table.tally_filterMapValues]
  apply congrArg (Table.tally · skeleton.appInfoToStubIndex)
  funext indexes
  have same : (indexes.erase index).lookup stubIndex = indexes.lookup stubIndex := AList.lookup_erase_ne other
  unfold Skeleton.someUnlessEmpty
  split
  · rename_i empty
    have none : indexes.erase index = ∅ := AList.ext empty
    rw [none,AList.lookup_empty] at same
    simp [← same]
  · simp [same]

theorem holders_eq_zero (absent : ∀ appInfo, entry skeleton appInfo stubIndex = none) :
    holders skeleton stubIndex = 0 := by
  simp only [holders,Table.tally,List.countP_eq_zero]
  intro held member
  have found := AList.mem_lookup_iff.mpr (show (⟨held.1,held.2⟩ : Sigma _) ∈ skeleton.appInfoToStubIndex.entries from member)
  have none := absent held.1
  rw [entry,Option.mem_def.mp found] at none
  simpa using none

private theorem count_boundTo (socketId : Int32) (indexes : Table UInt64 Int32) :
    (Skeleton.boundTo socketId indexes).count stubIndex = if indexes.lookup stubIndex = some socketId then 1 else 0 := by
  obtain ⟨entries,distinct⟩ := indexes
  change ((entries.filter fun entry => entry.2 = socketId).map fun entry => entry.1).count stubIndex =
    if entries.dlookup stubIndex = some socketId then 1 else 0
  induction entries with
  | nil => rfl
  | cons head entries ih =>
    obtain ⟨fresh,rest⟩ := List.nodupKeys_cons.mp distinct
    have tail := ih rest
    by_cases same : stubIndex = head.1
    · subst same
      have absent : entries.dlookup head.1 = none := List.dlookup_eq_none.mpr fresh
      rw [absent] at tail
      rw [List.dlookup_cons_eq]
      by_cases bound : head.2 = socketId
      · simpa [bound] using tail
      · simpa [bound] using tail
    · rw [List.dlookup_cons_ne _ _ same,← tail]
      by_cases bound : head.2 = socketId
      · simp [bound,Ne.symm same]
      · simp [bound]

theorem holders_detachBySocketId (socketId : Int32) :
    holders (skeleton.detachAppAuthInfoBySocketId socketId).1 stubIndex+
        (skeleton.detachAppAuthInfoBySocketId socketId).2.count stubIndex = holders skeleton stubIndex := by
  simp only [holders,Skeleton.detachAppAuthInfoBySocketId,Table.tally_filterMapValues,List.count_flatMap]
  simp only [Table.tally]
  induction skeleton.appInfoToStubIndex.entries with
  | nil => rfl
  | cons head entries ih =>
    have kept : (Skeleton.someUnlessEmpty (Table.filterMapValues
        (fun bound => if bound = socketId then none else some bound) head.2)).any
          (fun indexes => (indexes.lookup stubIndex).isSome) =
        ((head.2.lookup stubIndex).bind fun bound => if bound = socketId then none else some bound).isSome := by
      rw [← Table.lookup_filterMapValues]
      unfold Skeleton.someUnlessEmpty
      split
      · rename_i empty
        have none : Table.filterMapValues (fun bound => if bound = socketId then none else some bound) head.2 = ∅ :=
          AList.ext empty
        simp [none]
      · rfl
    simp only [List.countP_cons,List.map_cons,List.sum_cons,Function.comp_apply,count_boundTo,kept]
    cases head.2.lookup stubIndex with
    | none => simpa using ih
    | some bound =>
      by_cases same : bound = socketId
      · simp [same]
        omega
      · simp [same]
        omega

end Holders

theorem holders_of_table {skeleton other : Skeleton} (same : other.appInfoToStubIndex = skeleton.appInfoToStubIndex)
    (stubIndex : UInt64) : holders other stubIndex = holders skeleton stubIndex := by
  rw [holders,same,holders]

theorem holders_attach_eq (skeleton : Skeleton) (info : AppAuthInfo) {stubIndex : UInt64} (nonzero : stubIndex ≠ 0) :
    holders (skeleton.attachOrUpdateAppAuthInfo info).1 stubIndex = holders skeleton stubIndex+
      if info.stubIndex = stubIndex ∧ entry skeleton info.toApp.appInfo stubIndex = none then 1 else 0 := by
  have counted := holders_attach skeleton stubIndex info
  have after := entry_attach_isSome skeleton info info.toApp.appInfo nonzero
  simp only [true_and] at after
  simp only [present,after] at counted
  cases held : entry skeleton info.toApp.appInfo stubIndex with
  | none =>
    simp only [held,Option.isSome_none,Bool.false_eq_true,if_false,or_false] at counted
    simpa using counted
  | some bound => simpa [held] using counted

theorem detach_removed (skeleton : Skeleton) (info : AppAuthInfo) :
    (skeleton.detachAppAuthInfo info).2 = true ↔ entry skeleton info.toApp.appInfo info.stubIndex = some info.socketId := by
  cases held : skeleton.appInfoToStubIndex.lookup info.toApp.appInfo with
  | none => simp [Skeleton.detachAppAuthInfo,entry,held]
  | some indexes =>
    simp only [Skeleton.detachAppAuthInfo,entry,held,Option.bind_some]
    split
    · rename_i bound
      simp [bound]
    · rename_i unbound
      simp [unbound]

theorem holders_detach_eq (skeleton : Skeleton) (info : AppAuthInfo) (stubIndex : UInt64) :
    holders (skeleton.detachAppAuthInfo info).1 stubIndex+
      (if stubIndex = info.stubIndex ∧ entry skeleton info.toApp.appInfo info.stubIndex = some info.socketId then 1 else 0) =
        holders skeleton stubIndex := by
  have counted := holders_detach skeleton stubIndex info
  simp only [present,entry_detach,true_and] at counted
  by_cases removed : stubIndex = info.stubIndex ∧ entry skeleton info.toApp.appInfo info.stubIndex = some info.socketId
  · rw [if_pos removed] at counted ⊢
    obtain ⟨rfl,bound⟩ := removed
    simp only [bound,Option.isSome_some,Option.isSome_none,if_true,Bool.false_eq_true,if_false] at counted
    omega
  · rw [if_neg removed] at counted ⊢
    omega

structure Balanced (state : State) : Prop where
  consistent : Consistent state.skeleton state.objects
  indexed : ∀ stubIndex stub, stubIndex ≠ 0 → state.skeleton.stubObjects.lookup stubIndex = some stub →
    state.refs stub = holders state.skeleton stubIndex
  unindexed : ∀ stub ∈ state.objects, (∀ stubIndex, stubIndex ≠ 0 →
    state.skeleton.stubObjects.lookup stubIndex ≠ some stub) → state.refs stub = 0

theorem balanced_new (randNum : UInt64) : Balanced (State.new randNum) where
  consistent := consistent_new randNum
  indexed := fun _ _ _ held => by cases held
  unindexed := fun _ member => by cases member

theorem balanced_addStubByIndex {state : State} (balanced : Balanced state) {stub : Nat} (living : stub ∈ state.objects) :
    Balanced { state with skeleton := (state.skeleton.addStubByIndex stub).1 } := by
  obtain ⟨consistent,-,stubs⟩ := addStubByIndex_spec balanced.consistent living
  have table := holders_of_table (addStubByIndex_table state.skeleton stub)
  refine ⟨consistent,?_,?_⟩
  · intro stubIndex owner nonzero held
    rw [table]
    rcases stubs with same | ⟨unused,fresh,inserted⟩
    · rw [same] at held
      exact balanced.indexed stubIndex owner nonzero held
    · rw [inserted] at held
      by_cases new : stubIndex = state.skeleton.randNum
      · rw [new,AList.lookup_insert,Option.some.injEq] at held
        subst held
        have absent : holders state.skeleton stubIndex = 0 := by
          apply holders_eq_zero
          intro appInfo
          cases entered : entry state.skeleton appInfo stubIndex with
          | none => rfl
          | some bound =>
            obtain ⟨other,found⟩ := balanced.consistent.owned appInfo stubIndex nonzero (by rw [entered]; rfl)
            rw [new,unused] at found
            cases found
        rw [absent]
        exact balanced.unindexed stub living fun index _ => fresh index
      · rw [AList.lookup_insert_ne new] at held
        exact balanced.indexed stubIndex owner nonzero held
  · intro owner member without
    apply balanced.unindexed owner member
    intro stubIndex nonzero held
    refine without stubIndex nonzero ?_
    rcases stubs with same | ⟨unused,-,inserted⟩
    · rw [same]
      exact held
    · rw [inserted]
      have other : stubIndex ≠ state.skeleton.randNum := by
        intro same
        subst same
        rw [unused] at held
        cases held
      rw [AList.lookup_insert_ne other]
      exact held

theorem Balanced.of_moves {state next : State} (balanced : Balanced state)
    (consistent : Consistent next.skeleton next.objects)
    (stubs : next.skeleton.stubObjects = state.skeleton.stubObjects) (objects : next.objects = state.objects)
    (moved : ∀ stubIndex stub, stubIndex ≠ 0 → state.skeleton.stubObjects.lookup stubIndex = some stub →
      next.refs stub+holders state.skeleton stubIndex = state.refs stub+holders next.skeleton stubIndex)
    (rest : ∀ stub, (∀ stubIndex, stubIndex ≠ 0 → state.skeleton.stubObjects.lookup stubIndex ≠ some stub) →
      next.refs stub = state.refs stub) : Balanced next where
  consistent := consistent
  indexed := by
    intro stubIndex stub nonzero held
    rw [stubs] at held
    have together := moved stubIndex stub nonzero held
    have before := balanced.indexed stubIndex stub nonzero held
    omega
  unindexed := by
    intro stub member without
    rw [stubs] at without
    rw [objects] at member
    rw [rest stub without]
    exact balanced.unindexed stub member without

theorem balanced_attach_bare {state : State} (balanced : Balanced state) (info : AppAuthInfo) (bare : info.stub = none)
    (known : info.stubIndex = 0 ∨ (entry state.skeleton info.toApp.appInfo info.stubIndex).isSome = true) :
    Balanced (state.attach info) := by
  have refs : (state.attach info).refs = state.refs := by simp only [State.attach,bare]
  have named : info.stubIndex = 0 ∨ ∃ stub, state.skeleton.stubObjects.lookup info.stubIndex = some stub := by
    by_cases zero : info.stubIndex = 0
    · exact .inl zero
    · exact .inr (balanced.consistent.owned _ _ zero (known.resolve_left zero))
  apply balanced.of_moves
  · rw [attach_skeleton,attach_objects]
    exact consistent_attach balanced.consistent info named
  · rw [attach_skeleton,attach_stubObjects]
  · exact attach_objects state info
  · intro stubIndex stub nonzero held
    rw [refs,attach_skeleton,holders_attach_eq state.skeleton info nonzero,if_neg,Nat.add_zero]
    intro holds
    obtain ⟨rfl,absent⟩ := holds
    rcases known with zero | present
    · exact nonzero zero
    · rw [absent] at present
      cases present
  · intro stub _
    rw [refs]

private theorem attach_refs {state : State} {info : AppAuthInfo} {stub : Nat} (pointer : info.stub = some stub)
    (unmarked : info.socketId = 0) : (state.attach info).refs = Function.update state.refs stub (state.refs stub+1) := by
  simp only [State.attach,Skeleton.attachOrUpdateAppAuthInfo,pointer,unmarked,ne_eq,not_true_eq_false,and_false,if_false,
    if_true,State.addRef]

theorem balanced_attach_stub {state : State} (balanced : Balanced state) (info : AppAuthInfo) {stub : Nat}
    (pointer : info.stub = some stub) (unmarked : info.socketId = 0) (nonzero : info.stubIndex ≠ 0)
    (own : state.skeleton.stubObjects.lookup info.stubIndex = some stub)
    (first : entry state.skeleton info.toApp.appInfo info.stubIndex = none) : Balanced (state.attach info) := by
  apply balanced.of_moves
  · rw [attach_skeleton,attach_objects]
    exact consistent_attach balanced.consistent info (.inr ⟨stub,own⟩)
  · rw [attach_skeleton,attach_stubObjects]
  · exact attach_objects state info
  · intro stubIndex owner positive held
    rw [attach_refs pointer unmarked,attach_skeleton,holders_attach_eq state.skeleton info positive]
    by_cases same : info.stubIndex = stubIndex
    · subst same
      rw [own,Option.some.injEq] at held
      subst held
      rw [Function.update_self,if_pos ⟨rfl,first⟩]
      omega
    · have other : owner ≠ stub := by
        intro same
        subst same
        exact same (balanced.consistent.single _ _ owner own held)
      rw [Function.update_of_ne other,if_neg (fun both => same both.1),Nat.add_zero]
  · intro owner without
    have other : owner ≠ stub := by
      intro same
      subst same
      exact without info.stubIndex nonzero own
    rw [attach_refs pointer unmarked,Function.update_of_ne other]

theorem balanced_detach {state : State} (balanced : Balanced state) (info : AppAuthInfo) {stub : Nat}
    (pointer : info.stub = some stub)
    (own : entry state.skeleton info.toApp.appInfo info.stubIndex = some info.socketId →
      info.stubIndex ≠ 0 ∧ state.skeleton.stubObjects.lookup info.stubIndex = some stub) :
    Balanced (state.detach info) := by
  have refs (owner : Nat) : (state.detach info).refs owner = state.refs owner-
      if owner = stub ∧ entry state.skeleton info.toApp.appInfo info.stubIndex = some info.socketId then 1 else 0 := by
    simp only [State.detach,pointer,detach_removed]
    split
    · rename_i bound
      by_cases same : owner = stub
      · subst same
        rw [if_pos ⟨rfl,bound⟩]
        exact Function.update_self owner _ _
      · rw [if_neg (fun both => same both.1),Int.sub_zero]
        exact Function.update_of_ne same _ _
    · rename_i unbound
      rw [if_neg (fun both => unbound both.2),Int.sub_zero]
  apply balanced.of_moves
  · rw [detach_skeleton,detach_objects]
    exact consistent_detach balanced.consistent info
  · rw [detach_skeleton,detach_stubObjects]
  · exact detach_objects state info
  · intro stubIndex owner positive held
    have one := holders_detach_eq state.skeleton info stubIndex
    rw [refs,detach_skeleton]
    by_cases bound : entry state.skeleton info.toApp.appInfo info.stubIndex = some info.socketId
    · have agree : stubIndex = info.stubIndex ↔ owner = stub := by
        obtain ⟨-,here⟩ := own bound
        constructor
        · intro same
          subst same
          rw [here,Option.some.injEq] at held
          exact held.symm
        · intro same
          subst same
          exact balanced.consistent.single _ _ owner held here
      simp only [bound,and_true,agree] at one ⊢
      split at one
      · rename_i mine
        rw [if_pos mine]
        omega
      · rename_i foreign
        rw [if_neg foreign]
        omega
    · simp only [bound,and_false,if_false,Nat.add_zero] at one ⊢
      omega
  · intro owner without
    rw [refs,if_neg,Int.sub_zero]
    intro holds
    obtain ⟨rfl,bound⟩ := holds
    exact without info.stubIndex (own bound).1 (own bound).2

theorem releaseIndex_refs (state : State) (stubIndexs : List UInt64) (stub : Nat) :
    (stubIndexs.foldl State.releaseIndex state).refs stub =
      state.refs stub-(stubIndexs.countP fun stubIndex => state.skeleton.queryStubByIndex stubIndex = some stub) := by
  induction stubIndexs generalizing state with
  | nil => simp
  | cons stubIndex stubIndexs ih =>
    have same : (state.releaseIndex stubIndex).skeleton = state.skeleton := by
      simp only [State.releaseIndex]
      split <;> rfl
    rw [List.foldl_cons,ih,same,List.countP_cons]
    simp only [State.releaseIndex]
    cases found : state.skeleton.queryStubByIndex stubIndex with
    | none => simp
    | some owner =>
      by_cases mine : owner = stub
      · subst mine
        simp only [State.addRef,Function.update_self,decide_true,if_true]
        omega
      · simp [State.addRef,Function.update_of_ne (Ne.symm mine),mine]

theorem balanced_closed {state : State} (balanced : Balanced state) (socketId : Int32) :
    Balanced (state.onDatabusSessionServerSideClosed socketId) := by
  obtain ⟨skeleton,-,objects⟩ := releaseIndex_foldl (state.sessionDetached socketId)
    (state.skeleton.detachAppAuthInfoBySocketId socketId).2
  have refs := releaseIndex_refs (state.sessionDetached socketId) (state.skeleton.detachAppAuthInfoBySocketId socketId).2
  have released (stub : Nat) (stubIndex : UInt64) :
      (state.sessionDetached socketId).skeleton.queryStubByIndex stubIndex = some stub ↔
        stubIndex ≠ 0 ∧ state.skeleton.stubObjects.lookup stubIndex = some stub := by
    change (if stubIndex = 0 then none else state.skeleton.stubObjects.lookup stubIndex) = some stub ↔ _
    split <;> simp_all
  have consistent := consistent_detachBySocketId balanced.consistent socketId
  unfold State.onDatabusSessionServerSideClosed
  apply balanced.of_moves
  · rw [skeleton,objects]
    exact ⟨consistent.single,consistent.alive,consistent.owned⟩
  · rw [skeleton]
    rfl
  · exact objects
  · intro stubIndex stub nonzero held
    have counted := holders_detachBySocketId state.skeleton stubIndex socketId
    have one : (state.skeleton.detachAppAuthInfoBySocketId socketId).2.countP
        (fun index => (state.sessionDetached socketId).skeleton.queryStubByIndex index = some stub) =
          (state.skeleton.detachAppAuthInfoBySocketId socketId).2.count stubIndex := by
      apply List.countP_congr
      intro index _
      simp only [decide_eq_true_eq,released,beq_iff_eq]
      constructor
      · intro holds
        obtain ⟨-,found⟩ := holds
        exact balanced.consistent.single _ _ stub found held
      · intro same
        subst same
        exact ⟨nonzero,held⟩
    rw [refs,one,skeleton]
    change state.refs stub-_+_ = state.refs stub+holders (state.skeleton.detachAppAuthInfoBySocketId socketId).1 stubIndex
    omega
  · intro stub without
    have none : (state.skeleton.detachAppAuthInfoBySocketId socketId).2.countP
        (fun index => (state.sessionDetached socketId).skeleton.queryStubByIndex index = some stub) = 0 := by
      apply List.countP_eq_zero.mpr
      intro index _ found
      simp only [decide_eq_true_eq,released] at found
      exact without index found.1 found.2
    rw [refs,none]
    change state.refs stub-((0 : Nat) : Int) = state.refs stub
    omega

theorem balanced_onFirstStrongRef {state : State} (balanced : Balanced state) (stub : Nat) :
    Balanced (state.onFirstStrongRef stub) := by
  unfold State.onFirstStrongRef
  split
  · exact balanced
  rename_i unused
  have apart {stubIndex : UInt64} {owner : Nat} (held : state.skeleton.stubObjects.lookup stubIndex = some owner) :
      owner ≠ stub := by
    intro same
    subst same
    exact unused (balanced.consistent.alive stubIndex owner held)
  refine ⟨⟨balanced.consistent.single,?_,balanced.consistent.owned⟩,?_,?_⟩
  · intro stubIndex owner held
    exact List.mem_cons_of_mem _ (balanced.consistent.alive stubIndex owner held)
  · intro stubIndex owner nonzero held
    change Function.update state.refs stub 0 owner = _
    rw [Function.update_of_ne (apart held)]
    exact balanced.indexed stubIndex owner nonzero held
  · intro owner member without
    change Function.update state.refs stub 0 owner = 0
    by_cases new : owner = stub
    · rw [new,Function.update_self]
    · rw [Function.update_of_ne new]
      exact balanced.unindexed owner ((List.mem_cons.mp member).resolve_left new) without

theorem balanced_onLastStrongRef {state : State} (balanced : Balanced state) (stub : Nat) :
    Balanced (state.onLastStrongRef stub) := by
  unfold State.onLastStrongRef
  split
  · exact balanced
  have consistent := consistent_onLastStrongRef balanced.consistent stub
  refine ⟨consistent,?_,?_⟩
  · intro stubIndex owner nonzero held
    obtain ⟨before,other⟩ := eraseStubIndex_left held
    change state.refs owner = holders ((state.skeleton.eraseStubIndex stub).1.detachAppAuthInfoByStub stub _) stubIndex
    rw [holders_detachByStub _ _ _ _ (other nonzero),holders_of_table (eraseStubIndex_table state.skeleton stub)]
    exact balanced.indexed stubIndex owner nonzero before
  · intro owner member without
    have apart : owner ∈ state.objects ∧ owner ≠ stub := by simpa using member
    apply balanced.unindexed owner apart.1
    intro stubIndex nonzero held
    exact without stubIndex nonzero (eraseStubIndex_keeps held apart.2)

/-- A grant that takes a reference finds no entry yet and names the stub's own index; the
two transactions of a proxy name an index the stub has. -/
def repaid (state : State) : Event → Prop
  | .createServerSessionObject stub peer =>
    entry state.skeleton peer.appInfo (state.skeleton.addStubByIndex stub).2 = none
  | .invokerDataBusThread stub _ _ remote _ _ =>
    entry state.skeleton remote.appInfo (state.skeleton.addStubByIndex stub).2 = none
  | .addAuthInfo stub remote stubIndex =>
    (stubIndex = 0 ∨ stubIndex = state.skeleton.queryStubIndex stub) ∧
      entry state.skeleton remote.appInfo (state.authIndex stub stubIndex) = none
  | .dbinderIncRefsTransaction stub caller _ =>
    state.skeleton.queryStubIndex stub = 0 ∨
      (entry state.skeleton caller.appInfo (state.skeleton.queryStubIndex stub)).isSome = true
  | .dbinderDecRefsTransaction stub caller listenFd =>
    state.skeleton.queryStubIndex stub ≠ 0 ∨ entry state.skeleton caller.appInfo 0 ≠ some listenFd
  | _ => True

private theorem balanced_grant {state : State} (balanced : Balanced state) {stub : Nat} (living : stub ∈ state.objects)
    (peer : App) (nonzero : (state.skeleton.addStubByIndex stub).2 ≠ 0)
    (first : entry state.skeleton peer.appInfo (state.skeleton.addStubByIndex stub).2 = none) :
    Balanced (State.attach { state with skeleton := (state.skeleton.addStubByIndex stub).1 }
      { peer with socketId := 0, stubIndex := (state.skeleton.addStubByIndex stub).2, stub := some stub }) := by
  obtain ⟨-,own,-⟩ := addStubByIndex_spec balanced.consistent living
  refine balanced_attach_stub (balanced_addStubByIndex balanced living) _ rfl rfl nonzero (own nonzero) ?_
  rw [← first,entry,addStubByIndex_table,entry]

theorem balanced_step {state : State} (balanced : Balanced state) {event : Event} (guard : repaid state event) :
    Balanced (state.step event) := by
  cases event with
  | createServerSessionObject stub peer =>
    simp only [State.step,State.createServerSessionObject]
    split
    · exact balanced
    rename_i living
    have member := Decidable.not_not.mp living
    split
    · exact balanced_addStubByIndex balanced member
    · rename_i nonzero
      exact balanced_grant balanced member peer nonzero guard
  | invokerDataBusThread stub deviceId sessionName remote created written =>
    simp only [State.step,State.invokerDataBusThread]
    split
    · exact balanced
    rename_i legal
    have member : stub ∈ state.objects := Decidable.not_not.mp fun gone => legal (.inl gone)
    split
    · exact balanced_addStubByIndex balanced member
    · rename_i proceeds
      exact balanced_grant balanced member remote (fun zero => proceeds (.inl zero)) guard
  | addAuthInfo stub remote stubIndex =>
    simp only [State.step,State.addAuthInfo]
    split
    · exact balanced
    split
    · exact balanced
    · rename_i nonzero
      have own : state.authIndex stub stubIndex = state.skeleton.queryStubIndex stub := authIndex_own guard.1
      refine balanced_attach_stub balanced _ rfl rfl nonzero ?_ guard.2
      rw [own] at nonzero ⊢
      exact lookup_of_queryStubIndex nonzero
  | dbinderIncRefsTransaction stub caller listenFd =>
    simp only [State.step,State.dbinderIncRefsTransaction]
    split
    · exact balanced
    · exact balanced_attach_bare balanced _ rfl guard
  | dbinderDecRefsTransaction stub caller listenFd =>
    simp only [State.step,State.dbinderDecRefsTransaction]
    split
    · exact balanced
    · refine balanced_detach balanced _ rfl ?_
      intro bound
      have nonzero : state.skeleton.queryStubIndex stub ≠ 0 := by
        intro zero
        simp only [zero] at bound
        exact guard.elim (fun positive => positive zero) (fun unbound => unbound bound)
      exact ⟨nonzero,lookup_of_queryStubIndex nonzero⟩
  | onReceiveNewConnection socketId peer =>
    simp only [State.step,State.onReceiveNewConnection]
    split
    · exact balanced
    · refine balanced_attach_bare ?_ _ rfl (.inl rfl)
      obtain ⟨consistent,indexed,unindexed⟩ := balanced
      exact ⟨⟨consistent.single,consistent.alive,consistent.owned⟩,indexed,unindexed⟩
  | onDatabusSessionServerSideClosed socketId => exact balanced_closed balanced socketId
  | onFirstStrongRef stub => exact balanced_onFirstStrongRef balanced stub
  | onLastStrongRef stub => exact balanced_onLastStrongRef balanced stub

def holdersOf (skeleton : Skeleton) (stub : Nat) : Nat :=
  if skeleton.queryStubIndex stub = 0 then 0 else holders skeleton (skeleton.queryStubIndex stub)

/-- In every run whose steps are `repaid`, the references held on a living stub for remote peers
are as many as the applications that hold an entry for its index. -/
theorem references_match_holders {randNum : UInt64} {events : List Event} {state : State}
    (run : Reaches (guarded (does State.step) repaid) (State.new randNum) events state) (stub : Nat)
    (living : stub ∈ state.objects) : state.refs stub = holdersOf state.skeleton stub := by
  have balanced : Balanced state := by
    apply run.invariant Balanced (balanced_new randNum)
    rintro before event _ balanced ⟨guard,rfl⟩
    exact balanced_step balanced guard
  unfold holdersOf
  split
  · rename_i zero
    apply balanced.unindexed stub living
    intro stubIndex nonzero held
    exact nonzero ((balanced.consistent.queryStubIndex_eq held).symm.trans zero)
  · rename_i nonzero
    exact balanced.indexed _ stub nonzero (lookup_of_queryStubIndex nonzero)

theorem references_match_holders_sample :
    let state := ((State.new 7).step (.onFirstStrongRef 1)).step (.createServerSessionObject 1 samplePeer)
    1 ∈ state.objects ∧ state.refs 1 = holdersOf state.skeleton 1 := by
  have created : Reaches (guarded (does State.step) repaid) (State.new 7) [.onFirstStrongRef 1]
      ((State.new 7).step (.onFirstStrongRef 1)) :=
    Reaches.single ⟨trivial,rfl⟩
  have unknown : repaid ((State.new 7).step (.onFirstStrongRef 1)) (.createServerSessionObject 1 samplePeer) := rfl
  exact ⟨by decide +kernel,references_match_holders (.snoc _ created ⟨unknown,rfl⟩) 1 (by decide +kernel)⟩

/-- The stub is sent twice to the same peer: two references are taken for its one entry. -/
theorem resent_stub_leaks :
    let state := (((State.new 7).step (.onFirstStrongRef 1)).step (.createServerSessionObject 1 samplePeer)).step
      (.createServerSessionObject 1 samplePeer)
    Reaches (does State.step) (State.new 7)
      [.onFirstStrongRef 1,.createServerSessionObject 1 samplePeer,.createServerSessionObject 1 samplePeer] state ∧
      1 ∈ state.objects ∧ state.refs 1 = 2 ∧ holdersOf state.skeleton 1 = 1 :=
  ⟨.snoc _ (.snoc _ (.snoc _ .nil rfl) rfl) rfl,by decide +kernel,by decide +kernel,by decide +kernel⟩

/-- Sending a stub again to an application that holds its index always unbalances it. -/
theorem resent_stub_unbalanced {state : State} (balanced : Balanced state) {stub : Nat} (peer : App)
    (living : stub ∈ state.objects) (nonzero : (state.skeleton.addStubByIndex stub).2 ≠ 0)
    (again : ¬ repaid state (.createServerSessionObject stub peer)) :
    ¬ Balanced (state.step (.createServerSessionObject stub peer)) := by
  intro after
  obtain ⟨-,own,-⟩ := addStubByIndex_spec balanced.consistent living
  have indexed := balanced_addStubByIndex balanced living
  have step : state.step (.createServerSessionObject stub peer) =
      State.attach { state with skeleton := (state.skeleton.addStubByIndex stub).1 }
        { peer with socketId := 0, stubIndex := (state.skeleton.addStubByIndex stub).2, stub := some stub } := by
    simp only [State.step,State.createServerSessionObject,living,nonzero,not_true_eq_false,if_false]
  have held : entry (state.skeleton.addStubByIndex stub).1 peer.appInfo (state.skeleton.addStubByIndex stub).2 ≠ none := by
    rwa [entry,addStubByIndex_table]
  have before := indexed.indexed _ stub nonzero (own nonzero)
  have now := after.indexed (state.skeleton.addStubByIndex stub).2 stub nonzero
    (by rw [step,attach_skeleton,attach_stubObjects]; exact own nonzero)
  rw [step,attach_skeleton,attach_refs rfl rfl,Function.update_self,holders_attach_eq _ _ nonzero,
    if_neg (fun both => held both.2),Nat.add_zero] at now
  change state.refs stub+1 = _ at now
  change state.refs stub = _ at before
  omega

end CommunicationIpc.AuthBalance
