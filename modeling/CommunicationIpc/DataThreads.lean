import CommunicationIpc.Kernel.DataThreads
import CommunicationIpc.Library.Run
import Mathlib.Data.List.Nodup

/-! No package is left behind in the queue of a data thread. What holds of a thread is stated for
each thread on its own: a step of another worker does not touch it. -/
namespace CommunicationIpc.DataThreads
open CommunicationIpc.Library CommunicationIpc.Kernel.DataThreads

def isIdle : Worker → Bool
  | .locking | .waiting | .deleting => true
  | _ => false

def isAttached : Worker → Bool
  | .entering | .locking | .waiting | .deleting => true
  | _ => false

/-- It looks into its queue before it waits again. -/
def looks : Worker → Bool
  | .deleting | .unlocking | .popping | .running _ => true
  | _ => false

/-- The thread a call has chosen and not yet woken up. -/
def target : Dispatcher → Option Nat
  | .adding threadId | .querying threadId | .waking threadId => some threadId
  | _ => none

/-- Between `AddDataInfoToThread` and the end of `WakeUpDataThread` for this thread. -/
def Between (dispatcher : Dispatcher) (threadId : Nat) : Prop :=
  dispatcher = .querying threadId ∨ dispatcher = .waking threadId

/-- What is always so for one thread. -/
structure Sound (state : State) (threadId : Nat) : Prop where
  idle : state.idleDataThreads.count threadId = if isIdle (state.workers threadId) then 1 else 0
  attached : isAttached (state.workers threadId) = true → state.threadLockInfo threadId ≠ none
  aimed : ∀ call, target (state.dispatchers call) = some threadId → state.threadLockInfo threadId ≠ none
  order : state.popped threadId ++ state.dataInfoQueue threadId = state.added threadId
  once : (state.added threadId).Nodup
  behind : ∀ call ∈ state.added threadId, Between (state.dispatchers call) threadId ∨ state.dispatchers call = .returned
  awake : state.dataInfoQueue threadId ≠ [] → state.threadLockInfo threadId = some true ∨
    looks (state.workers threadId) = true ∨ ∃ call, Between (state.dispatchers call) threadId

theorem sound_new (threadId : Nat) : Sound State.new threadId where
  idle := rfl
  attached := by intro entered; cases entered
  aimed := by intro call chosen; cases chosen
  order := rfl
  once := List.nodup_nil
  behind := by intro call member; cases member
  awake := by intro filled; exact absurd rfl filled

/-- The next state is the same as far as one thread is concerned. -/
structure Same (state next : State) (threadId : Nat) : Prop where
  worker : next.workers threadId = state.workers threadId
  lockInfo : next.threadLockInfo threadId = state.threadLockInfo threadId
  idle : next.idleDataThreads.count threadId = state.idleDataThreads.count threadId
  queue : next.dataInfoQueue threadId = state.dataInfoQueue threadId
  added : next.added threadId = state.added threadId
  popped : next.popped threadId = state.popped threadId

theorem Sound.same {state next : State} {threadId : Nat} (sound : Sound state threadId) (same : Same state next threadId)
    (calls : next.dispatchers = state.dispatchers) : Sound next threadId := by
  obtain ⟨worker,lockInfo,idle,queue,added,popped⟩ := same
  constructor
  · rw [idle,worker]
    exact sound.idle
  · rw [worker,lockInfo]
    exact sound.attached
  · rw [calls,lockInfo]
    exact sound.aimed
  · rw [popped,queue,added]
    exact sound.order
  · rw [added]
    exact sound.once
  · rw [added,calls]
    exact sound.behind
  · rw [queue,lockInfo,worker,calls]
    exact sound.awake

section WorkerStep
variable {state : State} {threadId other : Nat}

theorem same_moveWorker {worker : Worker} (apart : other ≠ threadId) : Same state (state.moveWorker threadId worker) other :=
  ⟨Function.update_of_ne apart _ _,rfl,rfl,rfl,rfl,rfl⟩

theorem stepWorker_other (apart : other ≠ threadId) : Same state (state.stepWorker threadId) other := by
  have lockInfo (ready : Bool) (worker : Worker) : Same state ((state.setReady threadId ready).moveWorker threadId worker) other :=
    { same_moveWorker apart with lockInfo := Function.update_of_ne apart _ _ }
  cases stage : state.workers threadId with
  | querying =>
    simp only [State.stepWorker,stage]
    split <;> exact same_moveWorker apart
  | attaching =>
    simp only [State.stepWorker,stage]
    split
    · exact lockInfo false .entering
    · exact same_moveWorker apart
  | entering =>
    simp only [State.stepWorker,stage]
    exact { same_moveWorker apart with idle := List.count_cons_of_ne apart.symm }
  | locking =>
    simp only [State.stepWorker,stage]
    split
    · exact lockInfo false .deleting
    · exact same_moveWorker apart
  | waiting =>
    simp only [State.stepWorker,stage]
    split
    · exact lockInfo false .deleting
    · exact same_moveWorker apart
  | deleting =>
    simp only [State.stepWorker,stage]
    exact { same_moveWorker apart with idle := List.count_erase_of_ne apart }
  | unlocking =>
    simp only [State.stepWorker,stage]
    exact same_moveWorker apart
  | popping =>
    simp only [State.stepWorker,stage,State.popDataInfoFromThread]
    cases queue : state.dataInfoQueue threadId with
    | nil => exact same_moveWorker apart
    | cons processInfo rest =>
      exact { same_moveWorker apart with
        queue := Function.update_of_ne apart _ _, popped := Function.update_of_ne apart _ _ }
  | running processInfo =>
    simp only [State.stepWorker,stage]
    exact { same_moveWorker apart with }

theorem stepWorker_calls : (state.stepWorker threadId).dispatchers = state.dispatchers ∧
    (state.stepWorker threadId).added = state.added ∧
    (state.stepWorker threadId).finished = state.finished ++
      match state.workers threadId with
      | .running processInfo => [processInfo]
      | _ => [] := by
  cases stage : state.workers threadId with
  | querying | attaching | locking | waiting =>
    simp only [State.stepWorker,stage,List.append_nil]
    split <;> exact ⟨rfl,rfl,rfl⟩
  | entering | deleting | unlocking =>
    simp only [State.stepWorker,stage,List.append_nil]
    exact ⟨rfl,rfl,rfl⟩
  | popping =>
    simp only [State.stepWorker,stage,State.popDataInfoFromThread,List.append_nil]
    cases state.dataInfoQueue threadId <;> exact ⟨rfl,rfl,rfl⟩
  | running processInfo =>
    simp only [State.stepWorker,stage]
    exact ⟨rfl,rfl,trivial⟩

theorem moveWorker_self (worker : Worker) : (state.moveWorker threadId worker).workers threadId = worker :=
  Function.update_self ..

theorem Sound.move (sound : Sound state threadId) {before worker : Worker} (stage : state.workers threadId = before)
    (idle : isIdle worker = isIdle before) (attached : isAttached worker = true → state.threadLockInfo threadId ≠ none)
    (awake : state.dataInfoQueue threadId ≠ [] → looks before = true → looks worker = true) :
    Sound (state.moveWorker threadId worker) threadId where
  idle := by
    rw [moveWorker_self,idle,← stage]
    exact sound.idle
  attached := by
    rw [moveWorker_self]
    exact attached
  aimed := sound.aimed
  order := sound.order
  once := sound.once
  behind := sound.behind
  awake := by
    rw [moveWorker_self]
    intro filled
    rcases sound.awake filled with ready | looking | between
    · exact .inl ready
    · rw [stage] at looking
      exact .inr (.inl (awake filled looking))
    · exact .inr (.inr between)

theorem setReady_attached {ready : Bool} : (state.setReady threadId ready).threadLockInfo threadId ≠ none := by
  intro absent
  have present : (state.setReady threadId ready).threadLockInfo threadId = some ready := Function.update_self ..
  rw [present] at absent
  cases absent

theorem Sound.attach (sound : Sound state threadId) (stage : state.workers threadId = .attaching)
    (absent : state.threadLockInfo threadId = none) :
    Sound ((state.setReady threadId false).moveWorker threadId .entering) threadId where
  idle := by
    rw [moveWorker_self]
    refine sound.idle.trans ?_
    rw [stage]
    rfl
  attached := fun _ => setReady_attached
  aimed := fun _ _ => setReady_attached
  order := sound.order
  once := sound.once
  behind := sound.behind
  awake := by
    intro filled
    rcases sound.awake filled with ready | looking | between
    · rw [absent] at ready
      cases ready
    · rw [stage] at looking
      cases looking
    · exact .inr (.inr between)

theorem Sound.enter (sound : Sound state threadId) (stage : state.workers threadId = .entering) :
    Sound ((state.addDataThreadToIdle threadId).moveWorker threadId .locking) threadId where
  idle := by
    have outside := sound.idle
    rw [stage] at outside
    rw [moveWorker_self]
    refine List.count_cons_self.trans ?_
    rw [outside]
    rfl
  attached := by
    intro _
    apply sound.attached
    rw [stage]
    rfl
  aimed := sound.aimed
  order := sound.order
  once := sound.once
  behind := sound.behind
  awake := by
    intro filled
    rcases sound.awake filled with ready | looking | between
    · exact .inl ready
    · rw [stage] at looking
      cases looking
    · exact .inr (.inr between)

/-- The wait: `ready` is taken back while the thread is still listed. -/
theorem Sound.wait (sound : Sound state threadId) {before : Worker} (stage : state.workers threadId = before)
    (listed : isIdle before = true) (unlooked : looks before = false) (attached : isAttached before = true) :
    Sound (if state.threadLockInfo threadId = some true then (state.setReady threadId false).moveWorker threadId .deleting
      else state.moveWorker threadId .waiting) threadId := by
  split
  · refine ⟨?_,fun _ => setReady_attached,fun _ _ => setReady_attached,sound.order,sound.once,sound.behind,?_⟩
    · rw [moveWorker_self]
      refine sound.idle.trans ?_
      rw [stage,listed]
      rfl
    · rw [moveWorker_self]
      intro _
      exact .inr (.inl rfl)
  · refine sound.move stage listed.symm ?_ ?_
    · intro _
      apply sound.attached
      rw [stage]
      exact attached
    · intro _ looking
      rw [unlooked] at looking
      cases looking

theorem Sound.delete (sound : Sound state threadId) (stage : state.workers threadId = .deleting) :
    Sound ((state.deleteDataThreadFromIdle threadId).moveWorker threadId .unlocking) threadId where
  idle := by
    have listed := sound.idle
    rw [stage] at listed
    rw [moveWorker_self]
    refine List.count_erase_self.trans ?_
    rw [listed]
    rfl
  attached := by
    rw [moveWorker_self]
    intro entered
    cases entered
  aimed := sound.aimed
  order := sound.order
  once := sound.once
  behind := sound.behind
  awake := by
    rw [moveWorker_self]
    intro _
    exact .inr (.inl rfl)

theorem Sound.pop (sound : Sound state threadId) (stage : state.workers threadId = .popping) {processInfo : Nat} {rest : List Nat}
    (queue : state.dataInfoQueue threadId = processInfo :: rest) :
    Sound (State.moveWorker { state with
      dataInfoQueue := Function.update state.dataInfoQueue threadId rest,
      popped := Function.update state.popped threadId (state.popped threadId ++ [processInfo]) } threadId (.running processInfo))
      threadId where
  idle := by
    rw [moveWorker_self]
    refine sound.idle.trans ?_
    rw [stage]
    rfl
  attached := by
    rw [moveWorker_self]
    intro entered
    cases entered
  aimed := sound.aimed
  order := by
    simp only [State.moveWorker,Function.update_self]
    rw [← sound.order,queue,List.append_assoc,List.singleton_append]
  once := sound.once
  behind := sound.behind
  awake := by
    rw [moveWorker_self]
    intro _
    exact .inr (.inl rfl)

theorem stepWorker_self (sound : Sound state threadId) : Sound (state.stepWorker threadId) threadId := by
  cases stage : state.workers threadId with
  | querying =>
    simp only [State.stepWorker,stage,State.queryThreadLockInfo]
    cases found : state.threadLockInfo threadId with
    | none => exact sound.move stage rfl nofun nofun
    | some ready =>
      refine sound.move stage rfl ?_ nofun
      intro _ absent
      rw [found] at absent
      cases absent
  | attaching =>
    simp only [State.stepWorker,stage]
    cases found : state.threadLockInfo threadId with
    | none => exact sound.attach stage found
    | some ready => exact sound.move stage rfl nofun nofun
  | entering =>
    simp only [State.stepWorker,stage]
    exact sound.enter stage
  | locking =>
    simp only [State.stepWorker,stage]
    exact sound.wait stage rfl rfl rfl
  | waiting =>
    simp only [State.stepWorker,stage]
    exact sound.wait stage rfl rfl rfl
  | deleting =>
    simp only [State.stepWorker,stage]
    exact sound.delete stage
  | unlocking =>
    simp only [State.stepWorker,stage]
    exact sound.move stage rfl nofun fun _ => id
  | popping =>
    simp only [State.stepWorker,stage,State.popDataInfoFromThread]
    cases queue : state.dataInfoQueue threadId with
    | nil => exact sound.move stage rfl nofun fun filled => absurd queue filled
    | cons processInfo rest => exact sound.pop stage queue
  | running processInfo =>
    simp only [State.stepWorker,stage]
    exact { sound.move stage (show isIdle .popping = isIdle (.running processInfo) from rfl) nofun fun _ => id with }

end WorkerStep

section DispatcherStep
variable {state next : State} {call : Nat} {threadId : Nat}

theorem stepDispatcher_cases {made : Bool} (taken : state.stepDispatcher call made = some next) :
    (state.dispatchers call = .making ∧ ∃ stage, target stage = none ∧ next = state.moveDispatcher call stage) ∨
    (state.dispatchers call = .choosing ∧ (next = state ∨
      ∃ chosen ∈ state.idleDataThreads, next = state.moveDispatcher call (.adding chosen))) ∨
    (∃ chosen, state.dispatchers call = .adding chosen ∧
      next = (state.addDataInfoToThread chosen call).moveDispatcher call (.querying chosen)) ∨
    (∃ chosen, state.dispatchers call = .querying chosen ∧
      ((state.threadLockInfo chosen = none ∧ next = state.moveDispatcher call .returned) ∨
        next = state.moveDispatcher call (.waking chosen))) ∨
    (∃ chosen, state.dispatchers call = .waking chosen ∧ (state.workers chosen).holdsMutex = false ∧
      next = (state.setReady chosen true).moveDispatcher call .returned) := by
  cases stage : state.dispatchers call with
  | making =>
    simp only [State.stepDispatcher,stage,Option.some.injEq] at taken
    refine .inl ⟨rfl,_,?_,taken.symm⟩
    split <;> rfl
  | choosing =>
    simp only [State.stepDispatcher,stage,State.getIdleDataThread] at taken
    refine .inr (.inl ⟨rfl,?_⟩)
    cases last : state.idleDataThreads.getLast? with
    | none =>
      simp only [last,Option.some.injEq] at taken
      exact .inl taken.symm
    | some chosen =>
      simp only [last,Option.some.injEq] at taken
      exact .inr ⟨chosen,List.mem_of_getLast? last,taken.symm⟩
  | adding chosen =>
    simp only [State.stepDispatcher,stage,Option.some.injEq] at taken
    exact .inr (.inr (.inl ⟨chosen,rfl,taken.symm⟩))
  | querying chosen =>
    simp only [State.stepDispatcher,stage,State.queryThreadLockInfo] at taken
    refine .inr (.inr (.inr (.inl ⟨chosen,rfl,?_⟩)))
    cases found : state.threadLockInfo chosen with
    | none =>
      simp only [found,Option.some.injEq] at taken
      exact .inl ⟨rfl,taken.symm⟩
    | some ready =>
      simp only [found,Option.some.injEq] at taken
      exact .inr taken.symm
  | waking chosen =>
    simp only [State.stepDispatcher,stage] at taken
    split at taken
    · cases taken
    · rename_i free
      simp only [Option.some.injEq] at taken
      exact .inr (.inr (.inr (.inr ⟨chosen,rfl,by simpa using free,taken.symm⟩)))
  | returned =>
    simp only [State.stepDispatcher,stage] at taken
    cases taken

theorem moveDispatcher_self (stage : Dispatcher) : (state.moveDispatcher call stage).dispatchers call = stage :=
  Function.update_self ..

theorem moveDispatcher_other {stage : Dispatcher} {other : Nat} (apart : other ≠ call) :
    (state.moveDispatcher call stage).dispatchers other = state.dispatchers other := Function.update_of_ne apart ..

theorem target_of_between {dispatcher : Dispatcher} (between : Between dispatcher threadId) : target dispatcher = some threadId := by
  rcases between with rfl | rfl <;> rfl

theorem Sound.redirect (sound : Sound state threadId) {stage : Dispatcher}
    (aimed : target stage = some threadId → state.threadLockInfo threadId ≠ none)
    (behind : call ∈ state.added threadId → Between stage threadId ∨ stage = .returned)
    (awake : Between (state.dispatchers call) threadId → Between stage threadId ∨ state.threadLockInfo threadId = some true) :
    Sound (state.moveDispatcher call stage) threadId where
  idle := sound.idle
  attached := sound.attached
  aimed := by
    intro other chosen
    by_cases same : other = call
    · subst same
      rw [moveDispatcher_self] at chosen
      exact aimed chosen
    · rw [moveDispatcher_other same] at chosen
      exact sound.aimed other chosen
  order := sound.order
  once := sound.once
  behind := by
    intro other member
    by_cases same : other = call
    · subst same
      rw [moveDispatcher_self]
      exact behind member
    · rw [moveDispatcher_other same]
      exact sound.behind other member
  awake := by
    intro filled
    rcases sound.awake filled with ready | looking | ⟨other,between⟩
    · exact .inl ready
    · exact .inr (.inl looking)
    · by_cases same : other = call
      · subst same
        rcases awake between with still | ready
        · exact .inr (.inr ⟨other,by rwa [moveDispatcher_self]⟩)
        · exact .inl ready
      · exact .inr (.inr ⟨other,by rwa [moveDispatcher_other same]⟩)

/-- Before `AddDataInfoToThread` the call's item is in no queue, afterwards in no other. -/
theorem Sound.unadded (sound : Sound state threadId) {before : Dispatcher} (stage : state.dispatchers call = before)
    (open_ : before ≠ .returned) (outside : ¬ Between before threadId) : call ∉ state.added threadId := by
  intro member
  have behind := sound.behind call member
  rw [stage] at behind
  rcases behind with between | returned
  · exact outside between
  · exact open_ returned

theorem Sound.unrelated (sound : Sound state threadId) {before after : Dispatcher} (stage : state.dispatchers call = before)
    (open_ : before ≠ .returned) (outside : target before ≠ some threadId) (elsewhere : target after ≠ some threadId) :
    Sound (state.moveDispatcher call after) threadId := by
  have apart : ¬ Between before threadId := fun between => outside (target_of_between between)
  refine sound.redirect ?_ ?_ ?_
  · intro chosen
    exact absurd chosen elsewhere
  · intro member
    exact absurd member (sound.unadded stage open_ apart)
  · rw [stage]
    intro between
    exact absurd between apart

theorem attached_of_idle (sound : Sound state threadId) (listed : threadId ∈ state.idleDataThreads) :
    state.threadLockInfo threadId ≠ none := by
  apply sound.attached
  have counted := List.count_pos_iff.mpr listed
  rw [sound.idle] at counted
  cases stage : state.workers threadId with
  | locking | waiting | deleting => rfl
  | querying | attaching | entering | unlocking | popping | running =>
    rw [stage] at counted
    exact absurd counted (Nat.lt_irrefl 0)

theorem Sound.add (sound : Sound state threadId) (stage : state.dispatchers call = .adding threadId) :
    Sound ((state.addDataInfoToThread threadId call).moveDispatcher call (.querying threadId)) threadId := by
  have absent : call ∉ state.added threadId := sound.unadded stage nofun (by rintro (between | between) <;> cases between)
  have present : state.threadLockInfo threadId ≠ none := sound.aimed call (by rw [stage]; rfl)
  have added : (state.addDataInfoToThread threadId call).added threadId = state.added threadId ++ [call] := Function.update_self ..
  have queue : (state.addDataInfoToThread threadId call).dataInfoQueue threadId = state.dataInfoQueue threadId ++ [call] :=
    Function.update_self ..
  refine ⟨sound.idle,sound.attached,fun _ _ => present,?_,?_,?_,?_⟩
  · change state.popped threadId ++ (state.addDataInfoToThread threadId call).dataInfoQueue threadId =
      (state.addDataInfoToThread threadId call).added threadId
    rw [added,queue,← sound.order,List.append_assoc]
  · change ((state.addDataInfoToThread threadId call).added threadId).Nodup
    rw [added]
    exact List.nodup_append_comm.mpr (List.nodup_cons.mpr ⟨absent,sound.once⟩)
  · change ∀ other ∈ (state.addDataInfoToThread threadId call).added threadId, _
    rw [added]
    intro other member
    by_cases same : other = call
    · subst same
      rw [moveDispatcher_self]
      exact .inl (.inl rfl)
    · rw [moveDispatcher_other same]
      rcases List.mem_append.mp member with earlier | last
      · exact sound.behind other earlier
      · exact absurd (List.mem_singleton.mp last) same
  · intro _
    exact .inr (.inr ⟨call,.inl (moveDispatcher_self _)⟩)

theorem stepDispatcher_sound {made : Bool} (sound : ∀ threadId, Sound state threadId)
    (taken : state.stepDispatcher call made = some next) (threadId : Nat) : Sound next threadId := by
  have here := sound threadId
  have apart {chosen : Nat} (other : threadId ≠ chosen) : some chosen ≠ some threadId := fun same => other (Option.some.inj same).symm
  rcases stepDispatcher_cases taken with ⟨stage,moved,untargeted,rfl⟩ | ⟨stage,rfl | ⟨chosen,listed,rfl⟩⟩ | ⟨chosen,stage,rfl⟩ |
    ⟨chosen,stage,⟨absent,rfl⟩ | rfl⟩ | ⟨chosen,stage,free,rfl⟩
  · exact here.unrelated stage nofun nofun (by rw [untargeted]; nofun)
  · exact here
  · by_cases same : threadId = chosen
    · subst same
      have outside : ¬ Between .choosing threadId := by rintro (between | between) <;> cases between
      refine here.redirect (fun _ => attached_of_idle here listed) ?_ ?_
      · intro member
        exact absurd member (here.unadded stage nofun outside)
      · rw [stage]
        intro between
        exact absurd between outside
    · exact here.unrelated stage nofun nofun (apart same)
  · by_cases same : threadId = chosen
    · subst same
      exact here.add stage
    · have added : Sound (state.addDataInfoToThread chosen call) threadId :=
        here.same ⟨rfl,rfl,rfl,Function.update_of_ne same ..,Function.update_of_ne same ..,rfl⟩ rfl
      exact added.unrelated stage nofun (apart same) (apart same)
  · -- the chosen thread was in the idle list, so it has its lock info
    exact absurd absent ((sound chosen).aimed call (by rw [stage]; rfl))
  · by_cases same : threadId = chosen
    · subst same
      refine here.redirect (fun _ => here.aimed call (by rw [stage]; rfl)) ?_ ?_
      · intro _
        exact .inl (.inr rfl)
      · intro _
        exact .inl (.inr rfl)
    · exact here.unrelated stage nofun (apart same) (apart same)
  · by_cases same : threadId = chosen
    · subst same
      have ready : (state.setReady threadId true).threadLockInfo threadId = some true := Function.update_self ..
      have woken : Sound (state.setReady threadId true) threadId :=
        ⟨here.idle,fun _ => setReady_attached,fun _ _ => setReady_attached,here.order,here.once,here.behind,fun _ => .inl ready⟩
      exact woken.redirect nofun (fun _ => .inr rfl) fun _ => .inr ready
    · have woken : Sound (state.setReady chosen true) threadId :=
        here.same ⟨rfl,Function.update_of_ne same ..,rfl,rfl,rfl,rfl⟩ rfl
      exact woken.unrelated stage nofun (apart same) nofun

end DispatcherStep

theorem step_sound {state next : State} {event : Event} (sound : ∀ threadId, Sound state threadId)
    (taken : fires State.step state event next) (threadId : Nat) : Sound next threadId := by
  cases event with
  | worker moved =>
    cases taken
    by_cases same : threadId = moved
    · subst same
      exact stepWorker_self (sound threadId)
    · exact (sound threadId).same (stepWorker_other same) stepWorker_calls.1
  | dispatcher call made => exact stepDispatcher_sound sound taken threadId

theorem reached_sound {events : List Event} {state : State} (run : Reaches (fires State.step) State.new events state)
    (threadId : Nat) : Sound state threadId :=
  run.invariant (fun state => ∀ threadId, Sound state threadId) sound_new (fun _ _ _ sound taken => step_sound sound taken) threadId

/-- Each call has put its item into one queue at most. -/
def Apart (state : State) : Prop :=
  ∀ first second call, call ∈ state.added first → call ∈ state.added second → first = second

theorem stepDispatcher_added {state next : State} {call : Nat} {made : Bool} (taken : state.stepDispatcher call made = some next) :
    next.workers = state.workers ∧ next.finished = state.finished ∧
      (∀ other, other ≠ call → next.dispatchers other = state.dispatchers other) ∧
      (next.added = state.added ∨ ∃ chosen, state.dispatchers call = .adding chosen ∧
        next.added = Function.update state.added chosen (state.added chosen ++ [call])) := by
  rcases stepDispatcher_cases taken with ⟨-,_,-,rfl⟩ | ⟨-,rfl | ⟨_,-,rfl⟩⟩ | ⟨chosen,stage,rfl⟩ | ⟨_,-,⟨-,rfl⟩ | rfl⟩ | ⟨_,-,-,rfl⟩
  · exact ⟨rfl,rfl,fun _ => moveDispatcher_other,.inl rfl⟩
  · exact ⟨rfl,rfl,fun _ _ => rfl,.inl rfl⟩
  · exact ⟨rfl,rfl,fun _ => moveDispatcher_other,.inl rfl⟩
  · exact ⟨rfl,rfl,fun _ => moveDispatcher_other,.inr ⟨chosen,stage,rfl⟩⟩
  · exact ⟨rfl,rfl,fun _ => moveDispatcher_other,.inl rfl⟩
  · exact ⟨rfl,rfl,fun _ => moveDispatcher_other,.inl rfl⟩
  · exact ⟨rfl,rfl,fun _ => moveDispatcher_other,.inl rfl⟩

theorem added_of_step {state next : State} {call other threadId : Nat} {made : Bool}
    (taken : state.stepDispatcher call made = some next) (member : other ∈ next.added threadId) :
    other ∈ state.added threadId ∨ (other = call ∧ state.dispatchers call = .adding threadId) := by
  obtain ⟨-,-,-,same | ⟨chosen,stage,added⟩⟩ := stepDispatcher_added taken
  · rw [same] at member
    exact .inl member
  · rw [added] at member
    by_cases here : threadId = chosen
    · subst here
      rw [Function.update_self] at member
      rcases List.mem_append.mp member with earlier | last
      · exact .inl earlier
      · exact .inr ⟨List.mem_singleton.mp last,stage⟩
    · rw [Function.update_of_ne here] at member
      exact .inl member

theorem step_apart {state next : State} {event : Event} (sound : ∀ threadId, Sound state threadId) (apart : Apart state)
    (taken : fires State.step state event next) : Apart next := by
  cases event with
  | worker moved =>
    cases taken
    rw [Apart,stepWorker_calls.2.1]
    exact apart
  | dispatcher call made =>
    have absent {chosen : Nat} (stage : state.dispatchers call = .adding chosen) (threadId : Nat) : call ∉ state.added threadId :=
      (sound threadId).unadded stage nofun (by rintro (between | between) <;> cases between)
    intro first second other left right
    rcases added_of_step taken left with left | ⟨rfl,here⟩
    · rcases added_of_step taken right with right | ⟨rfl,there⟩
      · exact apart first second other left right
      · exact absurd left (absent there first)
    · rcases added_of_step taken right with right | ⟨-,there⟩
      · exact absurd right (absent here second)
      · rw [here] at there
        cases there
        rfl

theorem reached_apart {events : List Event} {state : State} (run : Reaches (fires State.step) State.new events state) :
    Apart state := by
  refine (run.invariant (fun state => (∀ threadId, Sound state threadId) ∧ Apart state) ⟨sound_new,?_⟩ ?_).2
  · intro first second call member
    cases member
  · intro before event after kept taken
    exact ⟨step_sound kept.1 taken,step_apart kept.1 kept.2 taken⟩

theorem not_idle_of_running {state : State} {threadId processInfo : Nat} (sound : Sound state threadId)
    (stage : state.workers threadId = .running processInfo) : threadId ∉ state.idleDataThreads := by
  intro listed
  have counted := List.count_pos_iff.mpr listed
  rw [sound.idle,stage] at counted
  exact Nat.lt_irrefl 0 counted

/-- `GetIdleDataThread` has not answered this call yet. -/
def Unassigned (dispatcher : Dispatcher) : Prop := dispatcher = .making ∨ dispatcher = .choosing

section Behind
variable {state next : State} {threadId processInfo call : Nat}

/-- The item has been dealt with, or the call has chosen another thread or not chosen yet. -/
def NotBehind (threadId processInfo call : Nat) (state : State) : Prop :=
  processInfo ∈ state.finished ∨
    (call ∉ state.added threadId ∧ target (state.dispatchers call) ≠ some threadId ∧
      (Unassigned (state.dispatchers call) → state.workers threadId = .running processInfo))

theorem stepWorker_notBehind (moved : Nat) (before : NotBehind threadId processInfo call state) :
    NotBehind threadId processInfo call (state.stepWorker moved) := by
  obtain ⟨calls,added,finished⟩ := @stepWorker_calls state moved
  rcases before with done | ⟨absent,apart,running⟩
  · refine .inl ?_
    rw [finished]
    exact List.mem_append_left _ done
  · by_cases assigned : Unassigned (state.dispatchers call)
    · have stage := running assigned
      by_cases same : threadId = moved
      · subst same
        refine .inl ?_
        rw [finished,stage]
        simp
      · refine .inr ?_
        rw [calls,added,(stepWorker_other same).worker]
        exact ⟨absent,apart,running⟩
    · refine .inr ?_
      rw [calls,added]
      exact ⟨absent,apart,fun early => absurd early assigned⟩

/-- A call is assigned to the thread it has chosen from the idle list, once. -/
theorem stepDispatcher_own {made : Bool} (taken : state.stepDispatcher call made = some next) :
    (target (next.dispatchers call) = some threadId → target (state.dispatchers call) = some threadId ∨
      (state.dispatchers call = .choosing ∧ threadId ∈ state.idleDataThreads)) ∧
    (Unassigned (next.dispatchers call) → Unassigned (state.dispatchers call)) := by
  have assigned {stage : Dispatcher} {other : Nat} (aimed : target stage = some other) : ¬ Unassigned stage := by
    rintro (rfl | rfl) <;> cases aimed
  have ended : ¬ Unassigned .returned := by
    rintro (early | early) <;> cases early
  rcases stepDispatcher_cases taken with ⟨stage,moved,untargeted,rfl⟩ | ⟨stage,rfl | ⟨chosen,listed,rfl⟩⟩ | ⟨chosen,stage,rfl⟩ |
    ⟨chosen,stage,⟨-,rfl⟩ | rfl⟩ | ⟨chosen,stage,-,rfl⟩
  · rw [moveDispatcher_self,untargeted]
    exact ⟨nofun,fun _ => .inl stage⟩
  · exact ⟨.inl,id⟩
  · rw [moveDispatcher_self]
    refine ⟨?_,fun _ => .inr stage⟩
    intro aimed
    cases aimed
    exact .inr ⟨stage,listed⟩
  · rw [moveDispatcher_self,stage]
    exact ⟨.inl,fun early => absurd early (assigned rfl)⟩
  · rw [moveDispatcher_self]
    exact ⟨nofun,fun early => absurd early ended⟩
  · rw [moveDispatcher_self,stage]
    exact ⟨.inl,fun early => absurd early (assigned rfl)⟩
  · rw [moveDispatcher_self]
    exact ⟨nofun,fun early => absurd early ended⟩

theorem stepDispatcher_notBehind {moved : Nat} {made : Bool} (sound : Sound state threadId)
    (before : NotBehind threadId processInfo call state) (taken : state.stepDispatcher moved made = some next) :
    NotBehind threadId processInfo call next := by
  obtain ⟨workers,finished,others,-⟩ := stepDispatcher_added taken
  rcases before with done | ⟨absent,apart,running⟩
  · refine .inl ?_
    rw [finished]
    exact done
  refine .inr ⟨?_,?_⟩
  · intro member
    rcases added_of_step taken member with earlier | ⟨rfl,stage⟩
    · exact absent earlier
    · rw [stage] at apart
      exact apart rfl
  rw [workers]
  by_cases own : call = moved
  · subst own
    obtain ⟨aimed,early⟩ := @stepDispatcher_own state next threadId call made taken
    refine ⟨?_,fun unassigned => running (early unassigned)⟩
    intro chosen
    rcases aimed chosen with already | ⟨stage,listed⟩
    · exact apart already
    · -- the thread is at work, so it is not in the list the call chooses from
      exact not_idle_of_running sound (running (.inr stage)) listed
  · rw [others call own]
    exact ⟨apart,running⟩

theorem reached_notBehind {events : List Event} (sound : ∀ threadId, Sound state threadId)
    (run : Reaches (fires State.step) state events next) (before : NotBehind threadId processInfo call state) :
    NotBehind threadId processInfo call next := by
  refine (run.invariant (fun state => (∀ threadId, Sound state threadId) ∧ NotBehind threadId processInfo call state)
    ⟨sound,before⟩ ?_).2
  intro earlier event later kept taken
  refine ⟨step_sound kept.1 taken,?_⟩
  cases event with
  | worker moved =>
    cases taken
    exact stepWorker_notBehind moved kept.2
  | dispatcher moved made => exact stepDispatcher_notBehind (kept.1 threadId) kept.2 taken

end Behind

/-- Each item is popped at most once, and those of one thread in the order they were added. A thread
that waits and is not ready has nothing in its queue, unless a call is about to wake it up. A thread
is in the idle list at most once, and not while it deals with an item; so no call that chooses a
thread meanwhile has its item queued behind that one. -/
structure LosesNoWork (state : State) : Prop where
  poppedOnce : ∀ threadId, (state.popped threadId).Nodup
  poppedByOne : ∀ first second processInfo, processInfo ∈ state.popped first → processInfo ∈ state.popped second → first = second
  inOrder : ∀ threadId, state.popped threadId <+: state.added threadId
  nothingLeft : ∀ threadId, state.workers threadId = .waiting → state.threadLockInfo threadId = some false →
    (∀ call, ¬ Between (state.dispatchers call) threadId) → state.dataInfoQueue threadId = []
  idleOnce : state.idleDataThreads.Nodup
  notIdle : ∀ threadId processInfo, state.workers threadId = .running processInfo → threadId ∉ state.idleDataThreads
  notBehind : ∀ threadId processInfo call events later, state.workers threadId = .running processInfo →
    Unassigned (state.dispatchers call) → Reaches (fires State.step) state events later →
    call ∈ later.added threadId → processInfo ∈ later.finished

theorem data_threads_lose_no_work {events : List Event} {state : State}
    (run : Reaches (fires State.step) State.new events state) : LosesNoWork state where
  poppedOnce := by
    intro threadId
    have sound := reached_sound run threadId
    have once := sound.once
    rw [← sound.order] at once
    exact once.of_append_left
  poppedByOne := by
    intro first second processInfo left right
    apply reached_apart run first second processInfo
    · rw [← (reached_sound run first).order]
      exact List.mem_append_left _ left
    · rw [← (reached_sound run second).order]
      exact List.mem_append_left _ right
  inOrder := fun threadId => ⟨_,(reached_sound run threadId).order⟩
  nothingLeft := by
    intro threadId waiting unready unnoticed
    by_contra filled
    rcases (reached_sound run threadId).awake filled with ready | looking | ⟨call,between⟩
    · rw [unready] at ready
      cases ready
    · rw [waiting] at looking
      cases looking
    · exact unnoticed call between
  idleOnce := by
    apply List.nodup_iff_count_le_one.mpr
    intro threadId
    rw [(reached_sound run threadId).idle]
    split
    · exact Nat.le_refl 1
    · exact Nat.zero_le 1
  notIdle := fun threadId processInfo => not_idle_of_running (reached_sound run threadId)
  notBehind := by
    intro threadId processInfo call more later running unassigned rest queued
    have sound := reached_sound run
    have untargeted : target (state.dispatchers call) = none := by
      rcases unassigned with stage | stage
      · rw [stage]
        rfl
      · rw [stage]
        rfl
    have open_ : call ∉ state.added threadId := by
      intro member
      rcases (sound threadId).behind call member with between | returned
      · rw [target_of_between between] at untargeted
        cases untargeted
      · rw [returned] at unassigned
        rcases unassigned with early | early <;> cases early
    have apart : target (state.dispatchers call) ≠ some threadId := by
      rw [untargeted]
      nofun
    rcases reached_notBehind sound rest (.inr ⟨open_,apart,fun _ => running⟩) with done | ⟨absent,-⟩
    · exact done
    · exact absurd queued absent

/-- Two calls choose thread 3; it takes both items after the first wake-up, and the second one
finds it on its way back to the wait. -/
def sharedWorker : List Event :=
  List.flatten [List.replicate 4 (.worker 3),[.dispatcher 0 true,.dispatcher 1 true,.dispatcher 0 true,.dispatcher 1 true],
    [.dispatcher 0 true,.dispatcher 1 true,.dispatcher 0 true,.dispatcher 0 true],List.replicate 10 (.worker 3),
    [.dispatcher 1 true,.dispatcher 1 true],List.replicate 7 (.worker 3)]

theorem shared_worker_loses_no_work :
    ∃ state, Reaches (fires State.step) State.new sharedWorker state ∧
      (state.popped 3 = [0,1] ∧ state.finished = [0,1] ∧ state.workers 3 = .waiting ∧ state.threadLockInfo 3 = some false) ∧
      LosesNoWork state := by
  obtain ⟨state,run,reached⟩ := Reaches.exists_of_foldlM State.step State.new sharedWorker
    (fun state => decide (state.popped 3 = [0,1] ∧ state.finished = [0,1] ∧ state.workers 3 = .waiting ∧
      state.threadLockInfo 3 = some false)) (by decide +kernel)
  exact ⟨state,run,of_decide_eq_true reached,data_threads_lose_no_work run⟩

end CommunicationIpc.DataThreads
