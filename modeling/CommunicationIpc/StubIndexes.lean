import CommunicationIpc.AuthIndexes

/-! What a stub index names over a whole run. Indexes are drawn one after the other from where the process began, so one that has been
given out is not drawn again until all have been. -/
namespace CommunicationIpc.StubIndexes
open CommunicationIpc.Library CommunicationIpc.Kernel.Auth CommunicationIpc.Auth CommunicationIpc.AuthIndexes

/-- What one step does to the indexes in use. -/
inductive Changes (before after : State) : Prop
  | same (table : after.skeleton.stubObjects = before.skeleton.stubObjects) (next : after.skeleton.randNum = before.skeleton.randNum)
      (objects : ∀ stub ∈ before.objects, stub ∈ after.objects)
  | skipped (table : after.skeleton.stubObjects = before.skeleton.stubObjects)
      (next : after.skeleton.randNum = before.skeleton.randNum+1) (objects : ∀ stub ∈ before.objects, stub ∈ after.objects)
  | drawn (stub : Nat) (living : stub ∈ before.objects) (unnamed : ∀ stubIndex, before.skeleton.stubObjects.lookup stubIndex ≠ some stub)
      (table : after.skeleton.stubObjects = before.skeleton.stubObjects.insert before.skeleton.randNum stub)
      (next : after.skeleton.randNum = before.skeleton.randNum+1) (objects : ∀ stub ∈ before.objects, stub ∈ after.objects)
  | died (stub : Nat) (table : after.skeleton.stubObjects = (before.skeleton.eraseStubIndex stub).1.stubObjects)
      (next : after.skeleton.randNum = before.skeleton.randNum)
      (objects : after.objects = before.objects.filter fun object => object ≠ stub)

section Step
variable (state : State)

theorem attach_randNum (skeleton : Skeleton) (info : AppAuthInfo) :
    (skeleton.attachOrUpdateAppAuthInfo info).1.randNum = skeleton.randNum := by
  simp only [Skeleton.attachOrUpdateAppAuthInfo]
  split
  · rfl
  · split <;> rfl

theorem detach_randNum (skeleton : Skeleton) (info : AppAuthInfo) :
    (skeleton.detachAppAuthInfo info).1.randNum = skeleton.randNum := by
  simp only [Skeleton.detachAppAuthInfo]
  split
  · rfl
  · split <;> rfl

theorem Changes.attach {before after : State} (changes : Changes before after) (info : AppAuthInfo) :
    Changes before (after.attach info) := by
  have table : (after.attach info).skeleton.stubObjects = after.skeleton.stubObjects := by
    rw [attach_skeleton,attach_stubObjects]
  have next : (after.attach info).skeleton.randNum = after.skeleton.randNum := by
    rw [attach_skeleton,attach_randNum]
  have objects := attach_objects after info
  cases changes with
  | same kept number living => exact .same (table.trans kept) (next.trans number) (objects ▸ living)
  | skipped kept number living => exact .skipped (table.trans kept) (next.trans number) (objects ▸ living)
  | drawn stub living unnamed made number alive =>
    exact .drawn stub living unnamed (table.trans made) (next.trans number) (objects ▸ alive)
  | died stub left number living => exact .died stub (table.trans left) (next.trans number) (objects.trans living)

theorem Changes.refl : Changes state state := .same rfl rfl fun _ => id

theorem addStubByIndex_changes {stub : Nat} (living : stub ∈ state.objects) :
    Changes state { state with skeleton := (state.skeleton.addStubByIndex stub).1 } := by
  cases here : state.skeleton.stubObjects.entries.find? (fun entry => entry.2 = stub) with
  | some found =>
    have result : state.skeleton.addStubByIndex stub = (state.skeleton,found.1) := by
      simp only [Skeleton.addStubByIndex,here]
    rw [result]
    exact .same rfl rfl fun _ => id
  | none =>
    cases taken : state.skeleton.stubObjects.lookup state.skeleton.randNum with
    | some other =>
      have result : state.skeleton.addStubByIndex stub = ({ state.skeleton with randNum := state.skeleton.randNum+1 },0) := by
        simp only [Skeleton.addStubByIndex,here,taken]
      rw [result]
      exact .skipped rfl rfl fun _ => id
    | none =>
      have result : state.skeleton.addStubByIndex stub =
          ({ state.skeleton with randNum := state.skeleton.randNum+1,
                                 stubObjects := state.skeleton.stubObjects.insert state.skeleton.randNum stub },
            state.skeleton.randNum) := by
        simp only [Skeleton.addStubByIndex,here,taken]
      rw [result]
      exact .drawn stub living (find_stub_none here) rfl rfl fun _ => id

theorem eraseStubIndex_randNum (skeleton : Skeleton) (stub : Nat) : (skeleton.eraseStubIndex stub).1.randNum = skeleton.randNum := by
  simp only [Skeleton.eraseStubIndex]
  split <;> rfl

theorem step_changes (event : Event) : Changes state (state.step event) := by
  cases event with
  | createServerSessionObject stub peer =>
    simp only [State.step,State.createServerSessionObject]
    split
    · exact .refl state
    · rename_i living
      have indexed := addStubByIndex_changes state (Decidable.not_not.mp living)
      split
      · exact indexed
      · exact indexed.attach _
  | invokerDataBusThread stub deviceId sessionName remote created written =>
    simp only [State.step,State.invokerDataBusThread]
    split
    · exact .refl state
    · rename_i legal
      have indexed := addStubByIndex_changes state (Decidable.not_not.mp fun gone => legal (.inl gone))
      split
      · exact indexed
      · exact indexed.attach _
  | addAuthInfo stub remote stubIndex =>
    simp only [State.step,State.addAuthInfo]
    split
    · exact .refl state
    · split
      · exact .refl state
      · exact (Changes.refl state).attach _
  | dbinderIncRefsTransaction stub caller listenFd =>
    simp only [State.step,State.dbinderIncRefsTransaction]
    split
    · exact .refl state
    · exact (Changes.refl state).attach _
  | dbinderDecRefsTransaction stub caller listenFd =>
    simp only [State.step,State.dbinderDecRefsTransaction]
    split
    · exact .refl state
    · refine .same ?_ ?_ fun _ living => (detach_objects state _).symm ▸ living
      · rw [detach_skeleton,detach_stubObjects]
      · rw [detach_skeleton,detach_randNum]
  | onReceiveNewConnection socketId peer =>
    simp only [State.step,State.onReceiveNewConnection]
    split
    · exact .refl state
    · refine Changes.attach ?_ _
      exact .same rfl rfl fun _ => id
  | onDatabusSessionServerSideClosed socketId =>
    simp only [State.step,State.onDatabusSessionServerSideClosed]
    obtain ⟨skeleton,-,objects⟩ := releaseIndex_foldl (state.sessionDetached socketId)
      (state.skeleton.detachAppAuthInfoBySocketId socketId).2
    exact .same (by rw [skeleton]; rfl) (by rw [skeleton]; rfl) fun _ living => objects.symm ▸ living
  | onFirstStrongRef stub =>
    simp only [State.step,State.onFirstStrongRef]
    split
    · exact .refl state
    · exact .same rfl rfl fun _ => List.mem_cons_of_mem stub
  | onLastStrongRef stub =>
    simp only [State.step,State.onLastStrongRef]
    split
    · exact .refl state
    · exact .died stub rfl (eraseStubIndex_randNum state.skeleton stub) rfl

end Step

/-- After `count` draws: the indexes in use are among those drawn, and each names a living stub that has no other. -/
structure Numbered (randNum : UInt64) (count : Nat) (state : State) : Prop where
  next : state.skeleton.randNum = randNum+.ofNat count
  drawn : ∀ stubIndex stub, state.skeleton.stubObjects.lookup stubIndex = some stub → ∃ draw < count, stubIndex = randNum+.ofNat draw
  single : ∀ first second stub, state.skeleton.stubObjects.lookup first = some stub →
    state.skeleton.stubObjects.lookup second = some stub → first = second
  alive : ∀ stubIndex stub, state.skeleton.stubObjects.lookup stubIndex = some stub → stub ∈ state.objects

theorem draws_apart (randNum : UInt64) {one two : Nat} (less : one < two) (few : two < 2^64) :
    randNum+UInt64.ofNat one ≠ randNum+UInt64.ofNat two := by
  intro same
  have numbers := congrArg UInt64.toNat ((UInt64.add_right_inj randNum).mp same)
  rw [UInt64.toNat_ofNat',UInt64.toNat_ofNat',Nat.mod_eq_of_lt (less.trans few),Nat.mod_eq_of_lt few] at numbers
  omega

theorem numbered_new (randNum : UInt64) : Numbered randNum 0 (State.new randNum) where
  next := (UInt64.add_zero randNum).symm
  drawn := fun _ _ held => by cases held
  single := fun _ _ _ held => by cases held
  alive := fun _ _ held => by cases held

section Keep
variable {randNum : UInt64} {count : Nat} {before after : State}

/-- A step draws at most one index. -/
theorem Numbered.changes (numbered : Numbered randNum count before) (changes : Changes before after) :
    ∃ drawn ≤ count+1, count ≤ drawn ∧ Numbered randNum drawn after := by
  have advance : randNum+.ofNat count+1 = randNum+.ofNat (count+1) := by
    rw [UInt64.ofNat_add,← UInt64.add_assoc]
    rfl
  have earlier {stubIndex : UInt64} {stub : Nat} (held : before.skeleton.stubObjects.lookup stubIndex = some stub) :
      ∃ draw < count+1, stubIndex = randNum+.ofNat draw := by
    obtain ⟨draw,less,same⟩ := numbered.drawn stubIndex stub held
    exact ⟨draw,by omega,same⟩
  cases changes with
  | same table next objects =>
    refine ⟨count,by omega,le_rfl,next.trans numbered.next,?_,?_,?_⟩
    · rw [table]
      exact numbered.drawn
    · rw [table]
      exact numbered.single
    · rw [table]
      exact fun stubIndex stub held => objects stub (numbered.alive stubIndex stub held)
  | skipped table next objects =>
    refine ⟨count+1,le_rfl,by omega,?_,?_,?_,?_⟩
    · rw [next,numbered.next,advance]
    · rw [table]
      exact fun stubIndex stub held => earlier held
    · rw [table]
      exact numbered.single
    · rw [table]
      exact fun stubIndex stub held => objects stub (numbered.alive stubIndex stub held)
  | drawn stub living unnamed table next objects =>
    have cases_ {stubIndex : UInt64} {owner : Nat} (held : after.skeleton.stubObjects.lookup stubIndex = some owner) :
        stubIndex = before.skeleton.randNum ∧ owner = stub ∨ before.skeleton.stubObjects.lookup stubIndex = some owner := by
      rw [table] at held
      by_cases new : stubIndex = before.skeleton.randNum
      · rw [new,AList.lookup_insert,Option.some.injEq] at held
        exact .inl ⟨new,held.symm⟩
      · rw [AList.lookup_insert_ne new] at held
        exact .inr held
    refine ⟨count+1,le_rfl,by omega,?_,?_,?_,?_⟩
    · rw [next,numbered.next,advance]
    · intro stubIndex owner held
      rcases cases_ held with ⟨rfl,-⟩ | old
      · exact ⟨count,by omega,numbered.next⟩
      · exact earlier old
    · intro first second owner atFirst atSecond
      rcases cases_ atFirst with ⟨rfl,rfl⟩ | oldFirst
      · rcases cases_ atSecond with ⟨rfl,-⟩ | oldSecond
        · rfl
        · exact absurd oldSecond (unnamed second)
      · rcases cases_ atSecond with ⟨rfl,rfl⟩ | oldSecond
        · exact absurd oldFirst (unnamed first)
        · exact numbered.single first second owner oldFirst oldSecond
    · intro stubIndex owner held
      rcases cases_ held with ⟨-,rfl⟩ | old
      · exact objects owner living
      · exact objects owner (numbered.alive stubIndex owner old)
  | died stub table next objects =>
    have left {stubIndex : UInt64} {owner : Nat} (held : after.skeleton.stubObjects.lookup stubIndex = some owner) :
        before.skeleton.stubObjects.lookup stubIndex = some owner := by
      rw [table] at held
      exact (eraseStubIndex_left held).1
    refine ⟨count,by omega,le_rfl,next.trans numbered.next,?_,?_,?_⟩
    · exact fun stubIndex owner held => numbered.drawn stubIndex owner (left held)
    · exact fun first second owner atFirst atSecond => numbered.single first second owner (left atFirst) (left atSecond)
    · intro stubIndex owner held
      have other : owner ≠ stub := by
        rintro rfl
        rw [table] at held
        unfold Skeleton.eraseStubIndex at held
        cases here : before.skeleton.stubObjects.entries.find? (fun entry => entry.2 = owner) with
        | none =>
          simp only [here] at held
          exact find_stub_none here stubIndex held
        | some found =>
          simp only [here] at held
          have same := numbered.single _ _ owner (left (by rw [table]; unfold Skeleton.eraseStubIndex; simp only [here]; exact held))
            (find_stub_some here)
          rw [same,AList.lookup_erase] at held
          cases held
      rw [objects,List.mem_filter]
      exact ⟨numbered.alive stubIndex owner (left held),by simpa using other⟩

/-- An index that was drawn before keeps its stub or is gone. -/
theorem Numbered.keeps (numbered : Numbered randNum count before) (changes : Changes before after) (few : count < 2^64)
    {draw stub : Nat} (less : draw < count) (held : after.skeleton.stubObjects.lookup (randNum+.ofNat draw) = some stub) :
    before.skeleton.stubObjects.lookup (randNum+.ofNat draw) = some stub := by
  cases changes with
  | same table next objects => rwa [table] at held
  | skipped table next objects => rwa [table] at held
  | drawn other living unnamed table next objects =>
    have old : randNum+.ofNat draw ≠ before.skeleton.randNum := by
      rw [numbered.next]
      exact draws_apart randNum less few
    rwa [table,AList.lookup_insert_ne old] at held
  | died other table next objects =>
    rw [table] at held
    exact (eraseStubIndex_left held).1

end Keep

theorem numbered_run {randNum : UInt64} {count : Nat} {before after : State} {events : List Event}
    (numbered : Numbered randNum count before) (run : Reaches (does State.step) before events after) :
    ∃ drawn ≤ count+events.length, count ≤ drawn ∧ Numbered randNum drawn after := by
  induction run with
  | nil => exact ⟨count,le_rfl,le_rfl,numbered⟩
  | @snoc events middle after event _ taken ih =>
    obtain ⟨drawn,most,least,there⟩ := ih
    obtain ⟨more,bound,grows,kept⟩ := there.changes (taken ▸ step_changes middle event)
    rw [List.length_append,List.length_singleton]
    exact ⟨more,by omega,by omega,kept⟩

theorem keeps_run {randNum : UInt64} {count draw stub : Nat} {before after : State} {events : List Event}
    (numbered : Numbered randNum count before) (run : Reaches (does State.step) before events after)
    (few : count+events.length < 2^64) (less : draw < count)
    (held : after.skeleton.stubObjects.lookup (randNum+.ofNat draw) = some stub) :
    before.skeleton.stubObjects.lookup (randNum+.ofNat draw) = some stub := by
  induction run with
  | nil => exact held
  | @snoc events middle after event front taken ih =>
    rw [List.length_append,List.length_singleton] at few
    obtain ⟨drawn,most,least,there⟩ := numbered_run numbered front
    exact ih (by omega) (there.keeps (taken ▸ step_changes middle event) (by omega) (by omega) held)

theorem queryStubByIndex_some {skeleton : Skeleton} {stubIndex : UInt64} {stub : Nat} :
    skeleton.queryStubByIndex stubIndex = some stub ↔ stubIndex ≠ 0 ∧ skeleton.stubObjects.lookup stubIndex = some stub := by
  unfold Skeleton.queryStubByIndex
  split
  · rename_i zero
    simp [zero]
  · rename_i nonzero
    simp [nonzero]

/-- An index that finds a stub, and later finds one again, has found the same stub all along, and that stub has lived all along: an
index that has lost its stub finds nothing any more, and a grant for it opens nothing. -/
theorem stub_index_names_one {randNum : UInt64} {front middle rest : List Event} {before between after : State}
    (run : Reaches (does State.step) (State.new randNum) front before) (on : Reaches (does State.step) before middle between)
    (more : Reaches (does State.step) between rest after) (few : front.length+middle.length+rest.length < 2^64)
    {stubIndex : UInt64} {stub later : Nat} (named : before.skeleton.queryStubByIndex stubIndex = some stub)
    (again : after.skeleton.queryStubByIndex stubIndex = some later) :
    later = stub ∧ between.skeleton.queryStubByIndex stubIndex = some stub ∧ stub ∈ between.objects := by
  obtain ⟨nonzero,named⟩ := queryStubByIndex_some.mp named
  obtain ⟨-,again⟩ := queryStubByIndex_some.mp again
  obtain ⟨first,most,-,numbered⟩ := numbered_run (numbered_new randNum) run
  obtain ⟨second,bound,grows,there⟩ := numbered_run numbered on
  obtain ⟨draw,less,rfl⟩ := numbered.drawn stubIndex stub named
  have middle_ := keeps_run there more (by omega) (by omega) again
  have begin_ := keeps_run numbered on (by omega) less middle_
  rw [named,Option.some.injEq] at begin_
  subst begin_
  exact ⟨rfl,queryStubByIndex_some.mpr ⟨nonzero,middle_⟩,there.alive _ _ middle_⟩

def samplePeer : App := ⟨[65],1,2,3⟩

def sampleBefore : State := [Event.onFirstStrongRef 8,.createServerSessionObject 8 samplePeer].foldl State.step (State.new 41)

/-- Another stub is registered and goes. -/
def sampleBetween : State :=
  [Event.onFirstStrongRef 9,.createServerSessionObject 9 samplePeer,.onLastStrongRef 9].foldl State.step sampleBefore

theorem stub_index_names_one_sample : sampleBetween.skeleton.queryStubByIndex 41 = some 8 ∧ 8 ∈ sampleBetween.objects :=
  (stub_index_names_one (Reaches.of_foldl State.step _ _) (Reaches.of_foldl State.step _ sampleBefore)
    (Reaches.of_foldl State.step [.createServerSessionObject 8 samplePeer] sampleBetween) (by decide)
    (by decide +kernel : sampleBefore.skeleton.queryStubByIndex 41 = some 8)
    (by decide +kernel :
      ([.createServerSessionObject 8 samplePeer].foldl State.step sampleBetween).skeleton.queryStubByIndex 41 = some 8)).2

end CommunicationIpc.StubIndexes
