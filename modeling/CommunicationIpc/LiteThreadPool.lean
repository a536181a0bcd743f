import CommunicationIpc.Kernel.LiteThreadPool
import CommunicationIpc.Library.Entries
import CommunicationIpc.Library.Run

/-! The C thread pool: of each protocol the idle count and the threads that have not left make up half of the maximum, whatever the
interleaving of calls and threads. -/
namespace CommunicationIpc.LiteThreadPool
open CommunicationIpc.Library CommunicationIpc.Kernel.LiteThreadPool

def isLive (proto : Int32) (thread : Thread) : Nat := if thread.proto = proto ∧ thread.place ≠ .gone then 1 else 0

/-- The threads of a protocol that have not given their slot back. -/
def live (state : State) (proto : Int32) : Nat := (state.threads.map (isLive proto)).sum

def idle (threadPool : ThreadPool) (proto : Int32) : Int :=
  if proto = ifProtBinder then threadPool.idleThreadNum else threadPool.idleSocketThreadNum

def counted (proto : Int32) : Prop := proto = ifProtBinder ∨ proto = ifProtDatabus

def accepted : Event → Option Int
  | .setMaxWorkThreadNum maxThreadNum lock => if validMax maxThreadNum && lock then some maxThreadNum else none
  | _ => none

/-- The largest number that `SetMaxWorkThreadNum` took, or what the pool starts with. -/
def largest (events : List Event) : Int := (events.filterMap accepted).foldl max setMaxThreadsDefault

structure Balanced (state : State) : Prop where
  slots : ∀ proto, counted proto → idle state.threadPool proto+live state proto = state.threadPool.maxThreadNum/protoNum
  idle : ∀ proto, counted proto → 0 ≤ idle state.threadPool proto
  even : state.threadPool.maxThreadNum % protoNum = 0
  known : ∀ thread ∈ state.threads, counted thread.proto

theorem balanced_new : Balanced State.new := by
  refine ⟨?_,?_,rfl,by simp [State.new]⟩ <;> rintro proto (rfl | rfl) <;> decide

section Step
variable {state next : State} {proto policy : Int32} {spawning : Spawning}

theorem room_iff : room state.threadPool proto = true ↔ counted proto ∧ 0 < idle state.threadPool proto := by
  unfold room idle counted
  by_cases binder : proto = ifProtBinder
  · subst binder
    simp [ifProtBinder,ifProtDatabus]
  · by_cases databus : proto = ifProtDatabus
    · subst databus
      simp [ifProtBinder,ifProtDatabus]
    · simp [binder,databus]

/-- A thread is made where the lock works, a slot is left and the thread can be created, and otherwise nothing changes. -/
theorem spawnNewThread_cases (state : State) (policy proto : Int32) (spawning : Spawning) :
    (spawning = ⟨true,true,true⟩ ∧ room state.threadPool proto = true ∧ (state.spawnNewThread policy proto spawning).2 = errNone ∧
      ∃ threadPool, (state.spawnNewThread policy proto spawning).1 =
          { state with threadPool := threadPool, threads := state.threads ++ [⟨proto,policy,.created⟩] } ∧
        threadPool.maxThreadNum = state.threadPool.maxThreadNum ∧
        ∀ other, counted other → idle threadPool other = idle state.threadPool other-if other = proto then 1 else 0) ∨
    ((spawning ≠ ⟨true,true,true⟩ ∨ room state.threadPool proto = false) ∧ (state.spawnNewThread policy proto spawning).2 ≠ errNone ∧
      (state.spawnNewThread policy proto spawning).1 = state) := by
  have failed : errFailed ≠ errNone := by decide
  have invalid : errInvalidParam ≠ errNone := by decide
  obtain ⟨lock,context,create⟩ := spawning
  unfold State.spawnNewThread
  cases lock with
  | false => exact .inr ⟨.inl (by simp),failed,rfl⟩
  | true =>
    cases slot : room state.threadPool proto with
    | false => exact .inr ⟨.inr rfl,invalid,rfl⟩
    | true =>
      cases context with
      | false => exact .inr ⟨.inl (by simp),failed,rfl⟩
      | true =>
        cases create with
        | false => exact .inr ⟨.inl (by simp),failed,rfl⟩
        | true =>
          refine .inl ⟨rfl,rfl,rfl,_,rfl,?_,?_⟩
          · split
            · rfl
            · split <;> rfl
          · rintro other (rfl | rfl)
            all_goals
              rcases (room_iff.mp slot).1 with rfl | rfl
              all_goals simp [idle,ifProtBinder,ifProtDatabus]

theorem live_concat (state : State) (threadPool : ThreadPool) (policy proto other : Int32) :
    live { state with threadPool := threadPool, threads := state.threads ++ [⟨proto,policy,.created⟩] } other =
      live state other+if other = proto then 1 else 0 := by
  simp [live,isLive,eq_comm]

theorem spawn_balanced (balanced : Balanced state) (policy proto : Int32) (spawning : Spawning) :
    Balanced (state.spawnNewThread policy proto spawning).1 := by
  rcases spawnNewThread_cases state policy proto spawning with ⟨_,slot,_,threadPool,made,same,idles⟩ | ⟨_,_,unchanged⟩
  · obtain ⟨known,positive⟩ := room_iff.mp slot
    rw [made]
    refine ⟨?_,?_,?_,?_⟩
    · intro other counted_
      have before := balanced.slots other counted_
      rw [live_concat,idles other counted_,same]
      split <;> push_cast <;> omega
    · intro other counted_
      have before := balanced.idle other counted_
      rw [idles other counted_]
      split
      · rename_i own
        subst own
        omega
      · omega
    · rw [same]
      exact balanced.even
    · intro thread member
      rcases List.mem_append.mp member with earlier | new
      · exact balanced.known thread earlier
      · rw [List.mem_singleton.mp new]
        exact known
  · rw [unchanged]
    exact balanced

theorem handler_cases {index : Nat} {invoker : Bool} (taken : state.threadHandler index invoker = some next) :
    ∃ thread, state.threads[index]? = some thread ∧ thread.place ≠ .gone ∧
      ((∃ place, place ≠ .gone ∧ next = { state with threads := state.threads.set index { thread with place := place } }) ∨
        next = { state with
          threadPool := threadContextDestructor state.threadPool thread.proto
          threads := state.threads.set index { thread with place := .gone } }) := by
  unfold State.threadHandler at taken
  cases at_ : state.threads[index]? with
  | none =>
    rw [at_] at taken
    cases taken
  | some thread =>
    rw [at_] at taken
    refine ⟨thread,rfl,?_⟩
    cases place : thread.place with
    | created =>
      simp only [place,Option.some.injEq] at taken
      refine ⟨nofun,.inl ⟨_,?_,taken.symm⟩⟩
      split
      · nofun
      · split
        · nofun
        · split <;> nofun
    | joined =>
      simp only [place,Option.some.injEq] at taken
      exact ⟨nofun,.inl ⟨.leaving,nofun,taken.symm⟩⟩
    | leaving =>
      simp only [place,Option.some.injEq] at taken
      exact ⟨nofun,.inr taken.symm⟩
    | gone =>
      simp only [place] at taken
      cases taken

theorem live_set {index : Nat} {thread : Thread} (at_ : state.threads[index]? = some thread) (proto : Int32) (later : Thread) :
    ((state.threads.set index later).map (isLive proto)).sum+isLive proto thread = live state proto+isLive proto later :=
  Entries.sum_set (isLive proto) at_

theorem handler_balanced (balanced : Balanced state) {index : Nat} {invoker : Bool}
    (taken : state.threadHandler index invoker = some next) : Balanced next := by
  obtain ⟨thread,at_,present,⟨place,stays,rfl⟩ | rfl⟩ := handler_cases taken
  all_goals have known := balanced.known thread (List.mem_of_getElem? at_)
  · have same (proto : Int32) : isLive proto { thread with place := place } = isLive proto thread := by
      simp [isLive,present,stays]
    refine ⟨?_,balanced.idle,balanced.even,?_⟩
    · intro proto counted_
      have moved := live_set at_ proto { thread with place := place }
      have before := balanced.slots proto counted_
      rw [same] at moved
      simp only [live] at moved before ⊢
      omega
    · intro other member
      rcases List.mem_or_eq_of_mem_set member with earlier | rfl
      · exact balanced.known other earlier
      · exact known
  · have returned (proto : Int32) (counted_ : counted proto) :
        idle (threadContextDestructor state.threadPool thread.proto) proto =
          idle state.threadPool proto+if proto = thread.proto then 1 else 0 := by
      rcases counted_ with rfl | rfl <;> rcases known with own | own <;>
        simp [own,idle,threadContextDestructor,ifProtBinder,ifProtDatabus]
    have most : (threadContextDestructor state.threadPool thread.proto).maxThreadNum = state.threadPool.maxThreadNum := by
      unfold threadContextDestructor
      split
      · rfl
      · split <;> rfl
    refine ⟨?_,?_,?_,?_⟩
    · intro proto counted_
      have moved := live_set at_ proto { thread with place := .gone }
      have before := balanced.slots proto counted_
      have none_ : isLive proto { thread with place := .gone } = 0 := by simp [isLive]
      have own : isLive proto thread = if proto = thread.proto then 1 else 0 := by simp [isLive,present,eq_comm]
      rw [none_,own] at moved
      rw [most,returned proto counted_]
      simp only [live] at moved before ⊢
      split at moved <;> split <;> first | omega | contradiction
    · intro proto counted_
      have before := balanced.idle proto counted_
      rw [returned proto counted_]
      split <;> omega
    · rw [most]
      exact balanced.even
    · intro other member
      rcases List.mem_or_eq_of_mem_set member with earlier | rfl
      · exact balanced.known other earlier
      · exact known

theorem updateMax_balanced (balanced : Balanced state) (maxThreadNum : Int) (lock : Bool) :
    Balanced { state with threadPool := updateMaxThreadNum state.threadPool maxThreadNum lock } := by
  unfold updateMaxThreadNum
  dsimp only
  split
  · exact balanced
  · split
    · exact balanced
    · rename_i higher
      have even := balanced.even
      simp only [protoNum] at even
      refine ⟨?_,?_,?_,balanced.known⟩
      · rintro proto counted_
        have before := balanced.slots proto counted_
        rcases counted_ with rfl | rfl <;>
          simp only [idle,live,ifProtBinder,ifProtDatabus,protoNum] at before ⊢ <;> simp at before ⊢ <;> omega
      · rintro proto counted_
        have before := balanced.idle proto counted_
        rcases counted_ with rfl | rfl <;>
          simp only [idle,ifProtBinder,ifProtDatabus,protoNum] at before ⊢ <;> simp at before ⊢ <;> omega
      · simp only [protoNum]
        omega

theorem updateMax_maxThreadNum (threadPool : ThreadPool) (maxThreadNum : Int) (lock : Bool) :
    (updateMaxThreadNum threadPool maxThreadNum lock).maxThreadNum =
      if lock then max (2*maxThreadNum) threadPool.maxThreadNum else threadPool.maxThreadNum := by
  unfold updateMaxThreadNum
  dsimp only
  cases lock with
  | false => rfl
  | true =>
    split
    · contradiction
    · split
      · rename_i lower
        rw [if_pos rfl,max_eq_right (by omega)]
      · rename_i higher
        rw [if_pos rfl,max_eq_left (by omega)]
        exact (two_mul maxThreadNum).symm

theorem step_maxThreadNum {event : Event} (taken : state.step event = some next) :
    next.threadPool.maxThreadNum = match accepted event with
      | some maxThreadNum => max (2*maxThreadNum) state.threadPool.maxThreadNum
      | none => state.threadPool.maxThreadNum := by
  have spawned (state : State) (policy proto : Int32) (spawning : Spawning) :
      (state.spawnNewThread policy proto spawning).1.threadPool.maxThreadNum = state.threadPool.maxThreadNum := by
    rcases spawnNewThread_cases state policy proto spawning with ⟨_,_,_,_,made,same,_⟩ | ⟨_,_,unchanged⟩
    · rw [made]
      exact same
    · rw [unchanged]
  cases event with
  | spawnThread policy proto spawning =>
    cases taken
    exact spawned state policy proto spawning
  | setMaxWorkThreadNum maxThreadNum lock =>
    cases taken
    have pool := updateMax_maxThreadNum state.threadPool maxThreadNum lock
    cases valid : validMax maxThreadNum with
    | false => simp [State.setMaxWorkThreadNum,accepted,valid]
    | true => cases lock <;> simpa [State.setMaxWorkThreadNum,accepted,valid] using pool
  | createTransServer listens spawning =>
    cases taken
    change (state.createTransServer listens spawning).1.threadPool.maxThreadNum = state.threadPool.maxThreadNum
    unfold State.createTransServer
    split
    · split
      · rfl
      · exact spawned { state with isServerCreated := 0 } spawnActive ifProtDatabus spawning
    · rfl
  | createProcessThread call spawning =>
    change state.createProcessThread call spawning = some next at taken
    unfold State.createProcessThread at taken
    split at taken
    · cases taken
      rfl
    · cases taken
      exact spawned state spawnPassive ifProtDatabus spawning
    · cases taken
  | threadHandler index invoker =>
    obtain ⟨thread,_,_,⟨_,_,rfl⟩ | rfl⟩ := handler_cases taken
    · rfl
    · change (threadContextDestructor state.threadPool thread.proto).maxThreadNum = state.threadPool.maxThreadNum
      unfold threadContextDestructor
      split
      · rfl
      · split <;> rfl

theorem step_balanced (balanced : Balanced state) {event : Event} (taken : state.step event = some next) : Balanced next := by
  cases event with
  | spawnThread policy proto spawning =>
    cases taken
    exact spawn_balanced balanced policy proto spawning
  | setMaxWorkThreadNum maxThreadNum lock =>
    cases taken
    unfold State.setMaxWorkThreadNum
    split
    · exact updateMax_balanced balanced maxThreadNum lock
    · exact balanced
  | createTransServer listens spawning =>
    cases taken
    unfold State.createTransServer
    split
    · split
      · exact balanced
      · have same : Balanced { state with isServerCreated := 0 } := ⟨balanced.slots,balanced.idle,balanced.even,balanced.known⟩
        exact spawn_balanced same spawnActive ifProtDatabus spawning
    · exact balanced
  | createProcessThread call spawning =>
    change state.createProcessThread call spawning = some next at taken
    unfold State.createProcessThread at taken
    split at taken
    · cases taken
      exact ⟨balanced.slots,balanced.idle,balanced.even,balanced.known⟩
    · cases taken
      have spawned := spawn_balanced balanced spawnPassive ifProtDatabus spawning
      exact ⟨spawned.slots,spawned.idle,spawned.even,spawned.known⟩
    · cases taken
  | threadHandler index invoker => exact handler_balanced balanced taken

end Step

theorem largest_le (events : List Event) : largest events ≤ setMaxThreadsMax := by
  have bounded (values : List Int) (start : Int) (small : start ≤ setMaxThreadsMax) (each : ∀ value ∈ values, value ≤ setMaxThreadsMax) :
      values.foldl max start ≤ setMaxThreadsMax := by
    induction values generalizing start with
    | nil => exact small
    | cons value values ih =>
      rw [List.forall_mem_cons] at each
      exact ih (max start value) (max_le small each.1) each.2
  refine bounded _ _ (by decide) ?_
  intro value member
  obtain ⟨event,_,taken⟩ := List.mem_filterMap.mp member
  cases event with
  | setMaxWorkThreadNum maxThreadNum lock =>
    obtain ⟨valid,same⟩ := Option.ite_none_right_eq_some.mp taken
    cases same
    rw [Bool.and_eq_true,validMax,Bool.not_eq_true',Bool.or_eq_false_iff,decide_eq_false_iff_not,decide_eq_false_iff_not] at valid
    omega
  | _ => cases taken

theorem largest_concat (events : List Event) (event : Event) :
    largest (events ++ [event]) = match accepted event with
      | some maxThreadNum => max (largest events) maxThreadNum
      | none => largest events := by
  unfold largest
  cases taken : accepted event with
  | none => simp [taken]
  | some maxThreadNum => simp [taken]

theorem reached {events : List Event} {state : State} (run : Reaches (fires State.step) State.new events state) :
    Balanced state ∧ state.threadPool.maxThreadNum = 2*largest events := by
  refine run.trace_invariant (fun events state => Balanced state ∧ state.threadPool.maxThreadNum = 2*largest events) ⟨balanced_new,rfl⟩ ?_
  rintro events before event after ⟨balanced,most⟩ taken
  refine ⟨step_balanced balanced taken,?_⟩
  rw [step_maxThreadNum taken,largest_concat,most]
  cases accepted event with
  | none => rfl
  | some maxThreadNum =>
    dsimp only
    rw [max_comm,mul_max_of_nonneg _ _ (by decide : (0 : Int) ≤ 2)]

/-- In every state of every run, whatever calls and threads interleave: the idle count of a protocol and its threads that have not
left make up the largest number that was set, so there are never more than 16 of them, and `SpawnThread` makes a thread exactly
where the number is not reached and the lock, the allocation and the creation work, and otherwise changes nothing. -/
theorem slots_and_threads {events : List Event} {state : State} (run : Reaches (fires State.step) State.new events state) :
    state.threadPool.maxThreadNum = 2*largest events ∧ ∀ proto, counted proto →
      0 ≤ idle state.threadPool proto ∧ idle state.threadPool proto+live state proto = largest events ∧ live state proto ≤ 16 ∧
      ∀ policy spawning,
        ((state.spawnNewThread policy proto spawning).2 = errNone ↔ spawning = ⟨true,true,true⟩ ∧ live state proto < largest events) ∧
        ((state.spawnNewThread policy proto spawning).2 = errNone →
          live (state.spawnNewThread policy proto spawning).1 proto = live state proto+1) ∧
        ((state.spawnNewThread policy proto spawning).2 ≠ errNone → (state.spawnNewThread policy proto spawning).1 = state) := by
  obtain ⟨balanced,most⟩ := reached run
  refine ⟨most,?_⟩
  intro proto counted_
  have slots := balanced.slots proto counted_
  have positive := balanced.idle proto counted_
  have bound := largest_le events
  rw [most,protoNum] at slots
  simp only [setMaxThreadsMax] at bound
  refine ⟨positive,by omega,by omega,?_⟩
  intro policy spawning
  have open_ : room state.threadPool proto = true ↔ live state proto < largest events := by
    rw [room_iff,and_iff_right counted_]
    omega
  rcases spawnNewThread_cases state policy proto spawning with ⟨works,slot,done,threadPool,made,_,_⟩ | ⟨refused,failed,unchanged⟩
  · refine ⟨⟨fun _ => ⟨works,open_.mp slot⟩,fun _ => done⟩,?_,fun failed => absurd done failed⟩
    intro _
    rw [made,live_concat,if_pos rfl]
  · refine ⟨⟨fun done => absurd done failed,?_⟩,fun done => absurd done failed,fun _ => unchanged⟩
    rintro ⟨works,slot⟩
    rcases refused with broken | full
    · exact absurd works broken
    · rw [open_.mpr slot] at full
      cases full

def spawnsAndLeaves : List Event :=
  [.spawnThread spawnActive ifProtBinder ⟨true,true,true⟩,.createProcessThread 0 ⟨true,true,true⟩,.setMaxWorkThreadNum 6 true,
    .createProcessThread 0 ⟨true,true,true⟩,.threadHandler 0 true,.threadHandler 0 true,.threadHandler 0 true]

theorem slots_after_leaving : ∃ state, Reaches (fires State.step) State.new spawnsAndLeaves state ∧
    idle state.threadPool ifProtBinder = 6 ∧ idle state.threadPool ifProtDatabus+live state ifProtDatabus = 6 := by
  obtain ⟨state,run,test⟩ := Reaches.exists_of_foldlM State.step State.new spawnsAndLeaves
    (fun state => live state ifProtBinder = 0) (by decide)
  have binder := (slots_and_threads run).2 ifProtBinder (.inl rfl)
  have databus := (slots_and_threads run).2 ifProtDatabus (.inr rfl)
  have six : largest spawnsAndLeaves = 6 := by decide
  have none_ : live state ifProtBinder = 0 := of_decide_eq_true test
  refine ⟨state,run,?_,?_⟩
  · have slots := binder.2.1
    rw [six,none_] at slots
    simpa using slots
  · rw [databus.2.1,six]

end CommunicationIpc.LiteThreadPool
