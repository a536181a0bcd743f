import CommunicationIpc.Kernel.Auth
import CommunicationIpc.Library.Run
import CommunicationIpc.Semantics.Grants

/-! The table `appInfoToStubIndex_` one entry at a time: what each call of the skeleton
does to the entry of an application and a stub index, and that every accepted caller was
granted what it uses. -/
namespace CommunicationIpc.Auth
open CommunicationIpc.Library CommunicationIpc.Kernel.Auth CommunicationIpc.Semantics

theorem uintToString_injective {left right : UInt32} (same : uintToString left = uintToString right) : left = right := by
  have small (value : UInt32) : value.toNat < 10^11 := by
    have bound := value.toNat_lt
    omega
  exact UInt32.toNat_inj.mp (decimal_injective (small left) (small right) same)

/-- Two applications share no key although it is a plain concatenation: the three numbers
have eleven digits each. -/
theorem appInfo_injective {left right : App} (same : left.appInfo = right.appInfo) : left = right := by
  have width (value : UInt32) : (uintToString value).length = 11 := decimal_length 11 _
  simp only [App.appInfo] at same
  obtain ⟨same,tokenIds⟩ := List.append_inj' same (by rw [width,width])
  obtain ⟨same,uids⟩ := List.append_inj' same (by rw [width,width])
  obtain ⟨deviceIds,pids⟩ := List.append_inj' same (by rw [width,width])
  cases left
  cases right
  simp only [App.mk.injEq]
  exact ⟨deviceIds,uintToString_injective pids,uintToString_injective uids,uintToString_injective tokenIds⟩

def entry (skeleton : Skeleton) (appInfo : List UInt8) (stubIndex : UInt64) : Option Int32 :=
  (skeleton.appInfoToStubIndex.lookup appInfo).bind fun indexes => indexes.lookup stubIndex

section Entry
variable (skeleton : Skeleton) (appInfo : List UInt8) (stubIndex : UInt64)

private theorem entry_insert {table : Table (List UInt8) (Table UInt64 Int32)} (key : List UInt8)
    (indexes : Table UInt64 Int32) :
    ((table.insert key indexes).lookup appInfo).bind (fun indexes => indexes.lookup stubIndex) =
      if appInfo = key then indexes.lookup stubIndex
      else (table.lookup appInfo).bind fun indexes => indexes.lookup stubIndex := by
  by_cases same : appInfo = key
  · subst same
    simp
  · rw [AList.lookup_insert_ne same,if_neg same]

theorem attach_table (info : AppAuthInfo) :
    (skeleton.attachOrUpdateAppAuthInfo info).1.appInfoToStubIndex =
      skeleton.appInfoToStubIndex.insert info.toApp.appInfo
        (Skeleton.updatedIndexes info (skeleton.appInfoToStubIndex.lookup info.toApp.appInfo)) := by
  simp only [Skeleton.attachOrUpdateAppAuthInfo]
  split
  · rfl
  · split <;> rfl

theorem entry_attach (info : AppAuthInfo) (nonzero : stubIndex ≠ 0) :
    entry (skeleton.attachOrUpdateAppAuthInfo info).1 appInfo stubIndex =
      if appInfo = info.toApp.appInfo then
        if info.stubIndex = stubIndex then some info.socketId
        else if info.stubIndex = 0 ∧ info.socketId ≠ 0 then (entry skeleton appInfo stubIndex).map fun _ => info.socketId
        else entry skeleton appInfo stubIndex
      else entry skeleton appInfo stubIndex := by
  rw [entry,attach_table,entry_insert]
  by_cases same : appInfo = info.toApp.appInfo
  · subst same
    simp only [if_true,entry]
    cases held : skeleton.appInfoToStubIndex.lookup info.toApp.appInfo with
    | none =>
      simp only [Skeleton.updatedIndexes,Option.bind_none,Option.map_none,ite_self]
      by_cases named : info.stubIndex = stubIndex
      · subst named
        rw [AList.lookup_insert,if_pos rfl]
      · rw [AList.lookup_insert_ne (Ne.symm named),if_neg named,AList.lookup_empty]
    | some indexes =>
      by_cases named : info.stubIndex = stubIndex
      · subst named
        simp [Skeleton.updatedIndexes,nonzero]
      · by_cases zero : info.stubIndex = 0
        · by_cases socket : info.socketId = 0
          · rw [zero] at named
            simp [Skeleton.updatedIndexes,named,zero,socket]
          · simp only [Skeleton.updatedIndexes,zero,socket,ne_eq,not_true_eq_false,not_false_eq_true,if_false,if_true,
              Table.lookup_filterMapValues,Option.bind_some,and_self]
            rw [if_neg (Ne.symm nonzero)]
            cases indexes.lookup stubIndex <;> rfl
        · simp [Skeleton.updatedIndexes,named,zero,AList.lookup_insert_ne (Ne.symm named)]
  · rw [if_neg same,if_neg same,entry]

private theorem entry_putIndexes (table : Table (List UInt8) (Table UInt64 Int32)) (key : List UInt8)
    (indexes : Table UInt64 Int32) :
    ((Skeleton.putIndexes table key indexes).lookup appInfo).bind (fun indexes => indexes.lookup stubIndex) =
      if appInfo = key then indexes.lookup stubIndex
      else (table.lookup appInfo).bind fun indexes => indexes.lookup stubIndex := by
  unfold Skeleton.putIndexes
  split
  · rename_i empty
    by_cases same : appInfo = key
    · subst same
      have none : indexes = ∅ := AList.ext empty
      simp [none]
    · rw [AList.lookup_erase_ne same,if_neg same]
  · exact entry_insert appInfo stubIndex key indexes

theorem entry_detach (info : AppAuthInfo) :
    entry (skeleton.detachAppAuthInfo info).1 appInfo stubIndex =
      (if appInfo = info.toApp.appInfo ∧ stubIndex = info.stubIndex ∧
          entry skeleton info.toApp.appInfo info.stubIndex = some info.socketId then none
        else entry skeleton appInfo stubIndex) := by
  cases held : skeleton.appInfoToStubIndex.lookup info.toApp.appInfo with
  | none => simp [Skeleton.detachAppAuthInfo,entry,held]
  | some indexes =>
    have own : entry skeleton info.toApp.appInfo info.stubIndex = indexes.lookup info.stubIndex := by
      simp only [entry,held,Option.bind_some]
    simp only [own,Skeleton.detachAppAuthInfo,held]
    by_cases bound : indexes.lookup info.stubIndex = some info.socketId
    · simp only [bound,if_true,entry,entry_putIndexes,and_true]
      by_cases same : appInfo = info.toApp.appInfo
      · subst same
        by_cases named : stubIndex = info.stubIndex
        · subst named
          simp
        · simp [named,held,AList.lookup_erase_ne named]
      · simp [same]
    · simp only [bound,if_false,entry,entry_putIndexes,and_false]
      by_cases same : appInfo = info.toApp.appInfo
      · subst same
        simp [held]
      · simp [same]

private theorem lookup_someUnlessEmpty (indexes : Table UInt64 Int32) :
    (Skeleton.someUnlessEmpty indexes).bind (fun indexes => indexes.lookup stubIndex) = indexes.lookup stubIndex := by
  unfold Skeleton.someUnlessEmpty
  split
  · rename_i empty
    have none : indexes = ∅ := AList.ext empty
    simp [none]
  · rfl

theorem entry_detachByStub (stub : Nat) (index : UInt64) :
    entry (skeleton.detachAppAuthInfoByStub stub index) appInfo stubIndex =
      if stubIndex = index then none else entry skeleton appInfo stubIndex := by
  simp only [entry,Skeleton.detachAppAuthInfoByStub,Table.lookup_filterMapValues]
  cases skeleton.appInfoToStubIndex.lookup appInfo with
  | none => simp
  | some indexes =>
    simp only [Option.bind_some,lookup_someUnlessEmpty]
    by_cases same : stubIndex = index
    · subst same
      simp
    · rw [AList.lookup_erase_ne same,if_neg same]

theorem entry_detachBySocketId (socketId : Int32) :
    entry (skeleton.detachAppAuthInfoBySocketId socketId).1 appInfo stubIndex =
      (entry skeleton appInfo stubIndex).bind fun bound => if bound = socketId then none else some bound := by
  simp only [entry,Skeleton.detachAppAuthInfoBySocketId,Table.lookup_filterMapValues]
  cases skeleton.appInfoToStubIndex.lookup appInfo with
  | none => rfl
  | some indexes => simp only [Option.bind_some,lookup_someUnlessEmpty,Table.lookup_filterMapValues]

theorem queryAppInfoToStubIndex_iff (info : AppAuthInfo) :
    skeleton.queryAppInfoToStubIndex info = true ↔
      ∃ bound, entry skeleton info.toApp.appInfo info.stubIndex = some bound ∧ (bound = 0 ∨ bound = info.socketId) := by
  unfold Skeleton.queryAppInfoToStubIndex
  cases held : skeleton.appInfoToStubIndex.lookup info.toApp.appInfo with
  | none => simp [entry,held]
  | some indexes => cases found : indexes.lookup info.stubIndex <;> simp [entry,held,found]

end Entry

theorem appInfo_eq_iff (left right : App) : left.appInfo = right.appInfo ↔ left = right :=
  ⟨appInfo_injective,fun same => by rw [same]⟩

/-- Every entry is granted by the calls so far and bound as they say. -/
def Sound (skeleton : Skeleton) (calls : List Call) : Prop :=
  ∀ (app : App) (stubIndex : UInt64) (bound : Int32), stubIndex ≠ 0 →
    entry skeleton app.appInfo stubIndex = some bound →
      Grants.binding app stubIndex calls = some bound ∧ Grants.Granted app stubIndex calls

theorem Sound.of_table {skeleton other : Skeleton} {calls : List Call} (sound : Sound skeleton calls)
    (same : other.appInfoToStubIndex = skeleton.appInfoToStubIndex) : Sound other calls := by
  intro app stubIndex bound nonzero held
  rw [entry,same] at held
  exact sound app stubIndex bound nonzero held

private theorem kept {app : App} {stubIndex : UInt64} {bound : Int32} {calls : List Call} {call : Call}
    (before : Grants.binding app stubIndex calls = some bound ∧ Grants.Granted app stubIndex calls)
    (unbound : Grants.rebound app stubIndex (some bound) call = some bound)
    (spared : ¬ Grants.covers app stubIndex calls call) :
    Grants.binding app stubIndex (calls ++ [call]) = some bound ∧ Grants.Granted app stubIndex (calls ++ [call]) := by
  rw [Grants.binding_snoc,before.1]
  exact ⟨unbound,before.2.snoc spared⟩

theorem sound_attach {skeleton : Skeleton} {calls : List Call} (sound : Sound skeleton calls) (info : AppAuthInfo) :
    Sound (skeleton.attachOrUpdateAppAuthInfo info).1 (calls ++ [.attach info]) := by
  intro app stubIndex bound nonzero held
  rw [entry_attach _ _ _ _ nonzero] at held
  simp only [appInfo_eq_iff] at held
  have rebinds := Grants.binding_snoc app stubIndex calls (.attach info)
  by_cases same : app = info.toApp
  · subst same
    by_cases named : info.stubIndex = stubIndex
    · subst named
      simp only [if_true,Option.some.injEq] at held
      subst held
      simp only [Grants.rebound,if_true] at rebinds
      exact ⟨rebinds,Grants.granted_of_names calls ⟨rfl,rfl⟩⟩
    · simp only [if_true,named,if_false] at held
      by_cases adopts : info.stubIndex = 0 ∧ info.socketId ≠ 0
      · rw [if_pos adopts] at held
        obtain ⟨old,found,rfl⟩ := Option.map_eq_some_iff.mp held
        obtain ⟨binding,granted⟩ := sound info.toApp stubIndex old nonzero found
        simp only [Grants.rebound,if_true,named,if_false,binding,if_pos adopts,Option.map_some] at rebinds
        exact ⟨rebinds,granted.snoc id⟩
      · rw [if_neg adopts] at held
        refine kept (sound info.toApp stubIndex bound nonzero held) ?_ id
        simp only [Grants.rebound,if_true,named,if_false,if_neg adopts]
  · simp only [same,if_false] at held
    refine kept (sound app stubIndex bound nonzero held) ?_ id
    simp only [Grants.rebound,if_neg (Ne.symm same)]

theorem sound_detach {skeleton : Skeleton} {calls : List Call} (sound : Sound skeleton calls) (info : AppAuthInfo) :
    Sound (skeleton.detachAppAuthInfo info).1 (calls ++ [.detach info]) := by
  intro app stubIndex bound nonzero held
  rw [entry_detach] at held
  split at held
  · cases held
  rename_i spared
  have before := sound app stubIndex bound nonzero held
  refine kept before rfl ?_
  intro holds
  obtain ⟨rfl,rfl,agrees⟩ := holds
  rw [before.1] at agrees
  exact spared ⟨rfl,rfl,held.trans agrees⟩

theorem sound_detachByStub {skeleton : Skeleton} {calls : List Call} (sound : Sound skeleton calls) (stub : Nat)
    (index : UInt64) :
    Sound (skeleton.detachAppAuthInfoByStub stub index) (calls ++ [.detachByStub stub index]) := by
  intro app stubIndex bound nonzero held
  rw [entry_detachByStub] at held
  split at held
  · cases held
  rename_i other
  exact kept (sound app stubIndex bound nonzero held) rfl fun same => other same.symm

theorem sound_detachBySocketId {skeleton : Skeleton} {calls : List Call} (sound : Sound skeleton calls)
    (socketId : Int32) :
    Sound (skeleton.detachAppAuthInfoBySocketId socketId).1 (calls ++ [.detachBySocketId socketId]) := by
  intro app stubIndex bound nonzero held
  rw [entry_detachBySocketId] at held
  obtain ⟨old,found,result⟩ := Option.bind_eq_some_iff.mp held
  split at result
  · cases result
  rename_i other
  simp only [Option.some.injEq] at result
  subst result
  have before := sound app stubIndex old nonzero found
  refine kept before rfl ?_
  intro agrees
  have same : some old = some socketId := before.1.symm.trans agrees
  exact other (Option.some.inj same)

theorem sound_sessionClosed {skeleton : Skeleton} {calls : List Call} (sound : Sound skeleton calls) (socketId : Int32)
    (peer : App) : Sound skeleton (calls ++ [.sessionClosed socketId peer]) :=
  fun app stubIndex bound nonzero held => kept (sound app stubIndex bound nonzero held) rfl id

section Parts
variable (state : State)

private theorem attach_parts (info : AppAuthInfo) :
    ∃ refs, state.attach info = ⟨(state.skeleton.attachOrUpdateAppAuthInfo info).1,state.objects,refs,
      state.calls ++ [.attach info]⟩ := by
  simp only [State.attach]
  split
  · split <;> exact ⟨_,rfl⟩
  · exact ⟨_,rfl⟩

private theorem detach_parts (info : AppAuthInfo) :
    ∃ refs, state.detach info = ⟨(state.skeleton.detachAppAuthInfo info).1,state.objects,refs,
      state.calls ++ [.detach info]⟩ := by
  simp only [State.detach]
  split
  · split <;> exact ⟨_,rfl⟩
  · exact ⟨_,rfl⟩

theorem attach_skeleton (info : AppAuthInfo) :
    (state.attach info).skeleton = (state.skeleton.attachOrUpdateAppAuthInfo info).1 := by
  obtain ⟨refs,same⟩ := attach_parts state info
  rw [same]

theorem attach_calls (info : AppAuthInfo) : (state.attach info).calls = state.calls ++ [.attach info] := by
  obtain ⟨refs,same⟩ := attach_parts state info
  rw [same]

theorem attach_objects (info : AppAuthInfo) : (state.attach info).objects = state.objects := by
  obtain ⟨refs,same⟩ := attach_parts state info
  rw [same]

theorem detach_skeleton (info : AppAuthInfo) :
    (state.detach info).skeleton = (state.skeleton.detachAppAuthInfo info).1 := by
  obtain ⟨refs,same⟩ := detach_parts state info
  rw [same]

theorem detach_calls (info : AppAuthInfo) : (state.detach info).calls = state.calls ++ [.detach info] := by
  obtain ⟨refs,same⟩ := detach_parts state info
  rw [same]

theorem detach_objects (info : AppAuthInfo) : (state.detach info).objects = state.objects := by
  obtain ⟨refs,same⟩ := detach_parts state info
  rw [same]

theorem addStubByIndex_table (skeleton : Skeleton) (stub : Nat) :
    (skeleton.addStubByIndex stub).1.appInfoToStubIndex = skeleton.appInfoToStubIndex := by
  simp only [Skeleton.addStubByIndex]
  split
  · rfl
  · split <;> rfl

theorem eraseStubIndex_table (skeleton : Skeleton) (stub : Nat) :
    (skeleton.eraseStubIndex stub).1.appInfoToStubIndex = skeleton.appInfoToStubIndex := by
  simp only [Skeleton.eraseStubIndex]
  split <;> rfl

theorem releaseIndex_foldl (stubIndexs : List UInt64) :
    (stubIndexs.foldl State.releaseIndex state).skeleton = state.skeleton ∧
      (stubIndexs.foldl State.releaseIndex state).calls = state.calls ∧
      (stubIndexs.foldl State.releaseIndex state).objects = state.objects := by
  induction stubIndexs generalizing state with
  | nil => exact ⟨rfl,rfl,rfl⟩
  | cons stubIndex stubIndexs ih =>
    rw [List.foldl_cons]
    have one : (state.releaseIndex stubIndex).skeleton = state.skeleton ∧
        (state.releaseIndex stubIndex).calls = state.calls ∧ (state.releaseIndex stubIndex).objects = state.objects := by
      simp only [State.releaseIndex]
      split <;> exact ⟨rfl,rfl,rfl⟩
    obtain ⟨skeleton,calls,objects⟩ := ih (state.releaseIndex stubIndex)
    exact ⟨skeleton.trans one.1,calls.trans one.2.1,objects.trans one.2.2⟩

end Parts

private theorem sound_attach_state {state : State} (sound : Sound state.skeleton state.calls) (info : AppAuthInfo) :
    Sound (state.attach info).skeleton (state.attach info).calls := by
  rw [attach_skeleton,attach_calls]
  exact sound_attach sound info

theorem sound_step {state : State} (sound : Sound state.skeleton state.calls) (event : Event) :
    Sound (state.step event).skeleton (state.step event).calls := by
  cases event with
  | createServerSessionObject stub peer =>
    simp only [State.step,State.createServerSessionObject]
    have indexed := sound.of_table (addStubByIndex_table state.skeleton stub)
    split
    · exact sound
    · split
      · exact indexed
      · exact sound_attach_state indexed _
  | invokerDataBusThread stub deviceId sessionName remote created written =>
    simp only [State.step,State.invokerDataBusThread]
    have indexed := sound.of_table (addStubByIndex_table state.skeleton stub)
    split
    · exact sound
    · split
      · exact indexed
      · exact sound_attach_state indexed _
  | addAuthInfo stub remote stubIndex =>
    simp only [State.step,State.addAuthInfo]
    split
    · exact sound
    · split
      · exact sound
      · exact sound_attach_state sound _
  | dbinderIncRefsTransaction stub caller listenFd =>
    simp only [State.step,State.dbinderIncRefsTransaction]
    split
    · exact sound
    · exact sound_attach_state sound _
  | dbinderDecRefsTransaction stub caller listenFd =>
    simp only [State.step,State.dbinderDecRefsTransaction]
    split
    · exact sound
    · rw [detach_skeleton,detach_calls]
      exact sound_detach sound _
  | onReceiveNewConnection socketId peer =>
    simp only [State.step,State.onReceiveNewConnection]
    split
    · exact sound
    · refine sound_attach_state ?_ _
      exact sound.of_table rfl
  | onDatabusSessionServerSideClosed socketId =>
    simp only [State.step,State.onDatabusSessionServerSideClosed]
    obtain ⟨skeleton,calls,-⟩ := releaseIndex_foldl (state.sessionDetached socketId)
      (state.skeleton.detachAppAuthInfoBySocketId socketId).2
    rw [skeleton,calls]
    simp only [State.sessionDetached]
    cases state.skeleton.dbinderSessionObjects.lookup socketId with
    | none =>
      simp only [List.append_nil]
      exact (sound_detachBySocketId sound socketId).of_table rfl
    | some peer =>
      exact (sound_detachBySocketId (sound_sessionClosed sound socketId peer) socketId).of_table rfl
  | onFirstStrongRef stub =>
    simp only [State.step,State.onFirstStrongRef]
    split <;> exact sound
  | onLastStrongRef stub =>
    simp only [State.step,State.onLastStrongRef]
    split
    · exact sound
    · exact sound_detachByStub (sound.of_table (eraseStubIndex_table state.skeleton stub)) stub _

/-- A caller is accepted only for an index that an earlier grant named together with exactly its
application, and that no revocation since covers. -/
theorem accepted_caller_was_granted {randNum : UInt64} {events : List Event} {state : State}
    (run : Reaches (does State.step) (State.new randNum) events state) (caller : AppAuthInfo)
    (nonzero : caller.stubIndex ≠ 0) (accepted : state.skeleton.queryAppInfoToStubIndex caller = true) :
    Grants.Granted caller.toApp caller.stubIndex state.calls ∧
      (Grants.binding caller.toApp caller.stubIndex state.calls = some 0 ∨
        Grants.binding caller.toApp caller.stubIndex state.calls = some caller.socketId) ∧
      ∀ other : App, other.appInfo = caller.toApp.appInfo → other = caller.toApp := by
  have sound : Sound state.skeleton state.calls := by
    apply run.invariant (fun state => Sound state.skeleton state.calls)
    · intro app stubIndex bound _ held
      cases held
    · rintro before event _ sound rfl
      exact sound_step sound event
  obtain ⟨bound,held,agrees⟩ := (queryAppInfoToStubIndex_iff _ _).mp accepted
  obtain ⟨binding,granted⟩ := sound caller.toApp caller.stubIndex bound nonzero held
  refine ⟨granted,?_,fun other same => appInfo_injective same⟩
  rcases agrees with rfl | rfl
  · exact .inl binding
  · exact .inr binding

def samplePeer : App := ⟨[65,66],100,200,300⟩

theorem accepted_caller_was_granted_sample :
    let state := ((State.new 7).step (.onFirstStrongRef 1)).step (.createServerSessionObject 1 samplePeer)
    Grants.Granted samplePeer 7 state.calls :=
  (accepted_caller_was_granted (.snoc _ (.snoc _ .nil rfl) rfl) ⟨samplePeer,9,7,none⟩ (by decide) (by decide +kernel)).1

end CommunicationIpc.Auth
