import CommunicationIpc.DataThreads
import CommunicationIpc.Kernel.LiteDataThreads

/-! When the data threads of the C skeleton leave a package behind. A wake-up stands for one item, and
it counts only if its signal is heard: the thread it is meant for is blocked in `pthread_cond_wait`. -/
namespace CommunicationIpc.LiteDataThreads
open CommunicationIpc.Library CommunicationIpc.Kernel.LiteDataThreads
open CommunicationIpc.Kernel.DataThreads (Dispatcher)
open CommunicationIpc.DataThreads (target Between target_of_between)

/-- The signal of `WakeUpDataThread` finds its thread blocked, and not yet signalled. -/
def heard (state : State) : Event → Bool
  | .worker .. => true
  | .dispatcher call _ =>
    match state.dispatchers call with
    | .waking threadId => decide (state.workers threadId = .waiting)
    | _ => true

/-- It has its lock info and is on the way into the idle list. -/
def isAttached : Worker → Bool
  | .locking | .adding => true
  | _ => false

/-- Woken up, with one look at the list ahead. -/
def looks : Worker → Bool
  | .woken | .deleting | .unlocking | .popping => true
  | _ => false

def left (state : State) (threadId : Nat) : List ThreadProcessInfo := state.processInfo.filter (·.threadId = threadId)

/-- What is always so for one thread while signals are heard. For each of its items there is a call on the
way to wake it up, except for the one it will take when it looks. -/
structure Sound (state : State) (threadId : Nat) : Prop where
  attached : isAttached (state.workers threadId) = true → threadId ∈ state.socketLockInfo
  idle : threadId ∈ state.idleDataThread → threadId ∈ state.socketLockInfo
  aimed : ∀ call, target (state.dispatchers call) = some threadId → threadId ∈ state.socketLockInfo
  covered : ∃ calls : List Nat, calls.Nodup ∧ (∀ call ∈ calls, Between (state.dispatchers call) threadId) ∧
    (left state threadId).length ≤ calls.length + if looks (state.workers threadId) then 1 else 0

theorem sound_new (threadId : Nat) : Sound State.new threadId where
  attached := by intro entered; cases entered
  idle := by intro listed; cases listed
  aimed := by intro call chosen; cases chosen
  covered := ⟨[],List.nodup_nil,by simp,Nat.le_refl 0⟩

section Step
variable {state next : State} {threadId other call : Nat}

theorem moveWorker_self (worker : Worker) : (state.moveWorker threadId worker).workers threadId = worker :=
  Function.update_self ..

theorem moveWorker_other {worker : Worker} (apart : other ≠ threadId) :
    (state.moveWorker threadId worker).workers other = state.workers other := Function.update_of_ne apart ..

theorem moveDispatcher_self (stage : Dispatcher) : (state.moveDispatcher call stage).dispatchers call = stage :=
  Function.update_self ..

theorem moveDispatcher_other {stage : Dispatcher} (apart : other ≠ call) :
    (state.moveDispatcher call stage).dispatchers other = state.dispatchers other := Function.update_of_ne apart ..

theorem queryThreadLockInfo_eq_none : state.queryThreadLockInfo threadId = none ↔ threadId ∉ state.socketLockInfo := by
  simp only [State.queryThreadLockInfo,List.find?_eq_none,decide_eq_true_eq]
  constructor
  · intro absent member
    exact absent threadId member rfl
  · rintro absent found member rfl
    exact absent member

theorem mem_of_queryThreadLockInfo {found : Nat} (queried : state.queryThreadLockInfo threadId = some found) :
    threadId ∈ state.socketLockInfo := by
  by_contra absent
  rw [queryThreadLockInfo_eq_none.mpr absent] at queried
  cases queried

theorem left_eq_nil (none : state.processInfo.find? (·.threadId = threadId) = none) : left state threadId = [] := by
  rw [left,List.filter_eq_nil_iff]
  exact List.find?_eq_none.mp none

/-- A step that changes nothing but the place of the worker, from `before` to `after`. -/
def Plain (state : State) (threadId : Nat) (before after : Worker) : Prop :=
  (looks before = true → looks after = true ∨ left state threadId = []) ∧
    (isAttached after = true → isAttached before = true ∨ threadId ∈ state.socketLockInfo)

theorem stepWorker_cases {choice : Bool} (taken : state.stepWorker threadId choice = some next) :
    (∃ worker, Plain state threadId (state.workers threadId) worker ∧ next = state.moveWorker threadId worker) ∨
    (state.workers threadId = .attaching ∧ next = (state.attachThreadLockInfo threadId).moveWorker threadId .locking) ∨
    (state.workers threadId = .adding ∧ next = (state.addDataThreadToIdle threadId).moveWorker threadId .entering) ∨
    (state.workers threadId = .deleting ∧ next = (state.deleteDataThreadFromIdle threadId).moveWorker threadId .unlocking) ∨
    (∃ node, state.workers threadId = .popping ∧ state.processInfo.find? (·.threadId = threadId) = some node ∧
      next = State.moveWorker { state with
        processInfo := state.processInfo.eraseP (·.threadId = threadId), popped := state.popped ++ [node.call] } threadId
        (.running node.call)) := by
  cases stage : state.workers threadId with
  | testing =>
    simp only [State.stepWorker,stage,Option.some.injEq] at taken
    refine .inl ⟨_,⟨nofun,?_⟩,taken.symm⟩
    split <;> nofun
  | querying =>
    simp only [State.stepWorker,stage] at taken
    cases queried : state.queryThreadLockInfo threadId with
    | none =>
      simp only [queried,Option.some.injEq] at taken
      exact .inl ⟨.attaching,⟨nofun,nofun⟩,taken.symm⟩
    | some found =>
      simp only [queried,Option.some.injEq] at taken
      exact .inl ⟨_,⟨nofun,fun _ => .inr (mem_of_queryThreadLockInfo queried)⟩,taken.symm⟩
  | attaching =>
    simp only [State.stepWorker,stage] at taken
    split at taken
    · exact .inr (.inl ⟨rfl,(Option.some.inj taken).symm⟩)
    · exact .inl ⟨.popping,⟨nofun,nofun⟩,(Option.some.inj taken).symm⟩
  | locking =>
    simp only [State.stepWorker,stage,Option.some.injEq] at taken
    exact .inl ⟨_,⟨nofun,fun _ => .inl rfl⟩,taken.symm⟩
  | adding =>
    simp only [State.stepWorker,stage,Option.some.injEq] at taken
    exact .inr (.inr (.inl ⟨rfl,taken.symm⟩))
  | entering | waiting | running =>
    simp only [State.stepWorker,stage,Option.some.injEq] at taken
    refine .inl ⟨_,?_,taken.symm⟩
    exact ⟨nofun,nofun⟩
  | woken | unlocking =>
    simp only [State.stepWorker,stage,Option.some.injEq] at taken
    refine .inl ⟨_,?_,taken.symm⟩
    exact ⟨fun _ => .inl rfl,nofun⟩
  | deleting =>
    simp only [State.stepWorker,stage,Option.some.injEq] at taken
    exact .inr (.inr (.inr (.inl ⟨rfl,taken.symm⟩)))
  | popping =>
    simp only [State.stepWorker,stage,State.popDataInfoFromThread] at taken
    cases found : state.processInfo.find? (·.threadId = threadId) with
    | none =>
      simp only [found,Option.some.injEq] at taken
      exact .inl ⟨.testing,⟨fun _ => .inr (left_eq_nil found),nofun⟩,taken.symm⟩
    | some node =>
      simp only [found,Option.some.injEq] at taken
      exact .inr (.inr (.inr (.inr ⟨node,rfl,rfl,taken.symm⟩)))
  | stopped =>
    simp only [State.stepWorker,stage] at taken
    cases taken

theorem Sound.work (sound : Sound state threadId) (calls : next.dispatchers = state.dispatchers)
    (locks : threadId ∈ state.socketLockInfo → threadId ∈ next.socketLockInfo)
    (attached : isAttached (next.workers threadId) = true →
      isAttached (state.workers threadId) = true ∨ threadId ∈ next.socketLockInfo)
    (idle : threadId ∈ next.idleDataThread → threadId ∈ state.idleDataThread ∨ threadId ∈ next.socketLockInfo)
    (covered : ∀ count, (left state threadId).length ≤ count + (if looks (state.workers threadId) then 1 else 0) →
      (left next threadId).length ≤ count + if looks (next.workers threadId) then 1 else 0) : Sound next threadId where
  attached := by
    intro entered
    rcases attached entered with before | already
    · exact locks (sound.attached before)
    · exact already
  idle := by
    intro listed
    rcases idle listed with before | already
    · exact locks (sound.idle before)
    · exact already
  aimed := by
    rw [calls]
    intro call chosen
    exact locks (sound.aimed call chosen)
  covered := by
    rw [calls]
    obtain ⟨waking,distinct,between,enough⟩ := sound.covered
    exact ⟨waking,distinct,between,covered _ enough⟩

theorem Plain.self {before after : Worker} (plain : Plain state threadId before after) (sound : Sound state threadId)
    (stage : state.workers threadId = before) : Sound (state.moveWorker threadId after) threadId := by
  refine sound.work rfl id ?_ .inl ?_
  · rw [moveWorker_self,stage]
    exact plain.2
  · rw [moveWorker_self,stage]
    intro count enough
    change (left state threadId).length ≤ _
    cases looking : looks before with
    | false =>
      rw [looking] at enough
      exact Nat.le_add_right_of_le enough
    | true =>
      rw [looking] at enough
      rcases plain.1 looking with still | none
      · rwa [still]
      · rw [none]
        exact Nat.zero_le _

theorem popped_split {node : ThreadProcessInfo} (found : state.processInfo.find? (·.threadId = threadId) = some node) :
    node.threadId = threadId ∧ ∃ before after, state.processInfo = before ++ node :: after ∧
      state.processInfo.eraseP (·.threadId = threadId) = before ++ after := by
  obtain ⟨own,before,after,split,others⟩ := List.find?_eq_some_iff_append.mp found
  refine ⟨of_decide_eq_true own,before,after,split,?_⟩
  rw [split,List.eraseP_append_right _ (by simpa using others),List.eraseP_cons,own]
  rfl

theorem left_erased {node : ThreadProcessInfo} (found : state.processInfo.find? (·.threadId = threadId) = some node) :
    ((state.processInfo.eraseP (·.threadId = threadId)).filter (·.threadId = threadId)).length+1 = (left state threadId).length := by
  obtain ⟨own,before,after,split,erased⟩ := popped_split found
  rw [left,erased,split]
  simp only [List.filter_append,List.filter_cons,own,decide_true,if_true,List.length_append,List.length_cons]
  omega

theorem left_kept {node : ThreadProcessInfo} (found : state.processInfo.find? (·.threadId = threadId) = some node)
    (apart : other ≠ threadId) :
    (state.processInfo.eraseP (·.threadId = threadId)).filter (·.threadId = other) = left state other := by
  obtain ⟨own,before,after,split,erased⟩ := popped_split found
  have foreign : ¬ node.threadId = other := by
    rw [own]
    exact apart.symm
  rw [left,erased,split]
  simp only [List.filter_append,List.filter_cons,foreign,decide_false,Bool.false_eq_true,if_false]

theorem stepWorker_self {choice : Bool} (sound : Sound state threadId) (taken : state.stepWorker threadId choice = some next) :
    Sound next threadId := by
  rcases stepWorker_cases taken with ⟨worker,plain,rfl⟩ | ⟨stage,rfl⟩ | ⟨stage,rfl⟩ | ⟨stage,rfl⟩ | ⟨node,stage,found,rfl⟩
  · exact plain.self sound rfl
  · refine sound.work rfl (List.mem_cons_of_mem _) (fun _ => .inr List.mem_cons_self) .inl ?_
    rw [moveWorker_self,stage]
    exact fun _ => id
  · refine sound.work rfl id ?_ ?_ ?_
    · rw [moveWorker_self]
      nofun
    · intro _
      refine .inr (sound.attached ?_)
      rw [stage]
      rfl
    · rw [moveWorker_self,stage]
      exact fun _ => id
  · refine sound.work rfl id ?_ ?_ ?_
    · rw [moveWorker_self]
      nofun
    · intro listed
      exact .inl (List.mem_of_mem_erase listed)
    · rw [moveWorker_self,stage]
      exact fun _ => id
  · refine sound.work rfl id ?_ .inl ?_
    · rw [moveWorker_self]
      nofun
    · rw [moveWorker_self,stage]
      intro count enough
      rw [← left_erased found] at enough
      exact Nat.le_of_succ_le_succ enough

theorem stepWorker_other {choice : Bool} (apart : other ≠ threadId) (sound : Sound state other)
    (taken : state.stepWorker threadId choice = some next) : Sound next other := by
  rcases stepWorker_cases taken with ⟨worker,plain,rfl⟩ | ⟨stage,rfl⟩ | ⟨stage,rfl⟩ | ⟨stage,rfl⟩ | ⟨node,stage,found,rfl⟩
  · refine sound.work rfl id ?_ .inl ?_ <;> rw [moveWorker_other apart]
    · exact .inl
    · exact fun _ => id
  · refine sound.work rfl (List.mem_cons_of_mem _) ?_ .inl ?_ <;> rw [moveWorker_other apart]
    · exact .inl
    · exact fun _ => id
  · refine sound.work rfl id ?_ ?_ ?_
    · rw [moveWorker_other apart]
      exact .inl
    · intro listed
      rcases List.mem_cons.mp listed with same | before
      · exact absurd same apart
      · exact .inl before
    · rw [moveWorker_other apart]
      exact fun _ => id
  · refine sound.work rfl id ?_ ?_ ?_
    · rw [moveWorker_other apart]
      exact .inl
    · intro listed
      exact .inl (List.mem_of_mem_erase listed)
    · rw [moveWorker_other apart]
      exact fun _ => id
  · refine sound.work rfl id ?_ .inl ?_
    · rw [moveWorker_other apart]
      exact .inl
    · rw [moveWorker_other apart]
      intro count enough
      rw [← left_kept found apart] at enough
      exact enough

theorem stepDispatcher_cases {choice : Bool} (taken : state.stepDispatcher call choice = some next) :
    (state.dispatchers call = .making ∧ ∃ stage, target stage = none ∧ next = state.moveDispatcher call stage) ∨
    (state.dispatchers call = .choosing ∧ (next = state ∨
      ∃ chosen ∈ state.idleDataThread, next = state.moveDispatcher call (.adding chosen))) ∨
    (∃ chosen, state.dispatchers call = .adding chosen ∧
      next = (state.addDataInfoToThread ⟨chosen,call⟩).moveDispatcher call (.querying chosen)) ∨
    (∃ chosen, state.dispatchers call = .querying chosen ∧
      ((chosen ∉ state.socketLockInfo ∧ next = state.moveDispatcher call .returned) ∨
        next = state.moveDispatcher call (.waking chosen))) ∨
    (∃ chosen, state.dispatchers call = .waking chosen ∧ (state.workers chosen).holdsMutex = false ∧
      next = (state.pthreadCondSignal chosen).moveDispatcher call .returned) := by
  cases stage : state.dispatchers call with
  | making =>
    simp only [State.stepDispatcher,stage,Option.some.injEq] at taken
    refine .inl ⟨rfl,_,?_,taken.symm⟩
    split <;> rfl
  | choosing =>
    simp only [State.stepDispatcher,stage,State.getIdleDataThread] at taken
    refine .inr (.inl ⟨rfl,?_⟩)
    cases first : state.idleDataThread.head? with
    | none =>
      simp only [first,Option.some.injEq] at taken
      exact .inl taken.symm
    | some chosen =>
      simp only [first,Option.some.injEq] at taken
      exact .inr ⟨chosen,List.mem_of_head? first,taken.symm⟩
  | adding chosen =>
    simp only [State.stepDispatcher,stage,Option.some.injEq] at taken
    exact .inr (.inr (.inl ⟨chosen,rfl,taken.symm⟩))
  | querying chosen =>
    simp only [State.stepDispatcher,stage] at taken
    refine .inr (.inr (.inr (.inl ⟨chosen,rfl,?_⟩)))
    cases queried : state.queryThreadLockInfo chosen with
    | none =>
      simp only [queried,Option.some.injEq] at taken
      exact .inl ⟨queryThreadLockInfo_eq_none.mp queried,taken.symm⟩
    | some found =>
      simp only [queried,Option.some.injEq] at taken
      exact .inr taken.symm
  | waking chosen =>
    simp only [State.stepDispatcher,stage] at taken
    split at taken
    · cases taken
    · rename_i free
      simp only [Option.some.injEq] at taken
      exact .inr (.inr (.inr (.inr ⟨chosen,rfl,by simpa using free,taken.symm⟩)))
  | returned =>
    simp only [State.stepDispatcher,stage] at taken
    cases taken

theorem Sound.redirect (sound : Sound state threadId) {before after : Dispatcher} (stage : state.dispatchers call = before)
    (aimed : target after = some threadId → threadId ∈ state.socketLockInfo)
    (keeps : Between before threadId → Between after threadId) : Sound (state.moveDispatcher call after) threadId where
  attached := sound.attached
  idle := sound.idle
  aimed := by
    intro other chosen
    by_cases same : other = call
    · subst same
      rw [moveDispatcher_self] at chosen
      exact aimed chosen
    · rw [moveDispatcher_other same] at chosen
      exact sound.aimed other chosen
  covered := by
    obtain ⟨waking,distinct,between,enough⟩ := sound.covered
    refine ⟨waking,distinct,?_,enough⟩
    intro other member
    have earlier := between other member
    by_cases same : other = call
    · subst same
      rw [stage] at earlier
      rw [moveDispatcher_self]
      exact keeps earlier
    · rwa [moveDispatcher_other same]

theorem Sound.add (sound : Sound state threadId) (stage : state.dispatchers call = .adding threadId) :
    Sound ((state.addDataInfoToThread ⟨threadId,call⟩).moveDispatcher call (.querying threadId)) threadId := by
  have present : threadId ∈ state.socketLockInfo := sound.aimed call (by rw [stage]; rfl)
  refine ⟨sound.attached,sound.idle,fun _ _ => present,?_⟩
  obtain ⟨waking,distinct,between,enough⟩ := sound.covered
  refine ⟨call :: waking,List.nodup_cons.mpr ⟨?_,distinct⟩,?_,?_⟩
  · intro member
    have earlier := between call member
    rw [stage] at earlier
    rcases earlier with earlier | earlier <;> cases earlier
  · intro other member
    by_cases same : other = call
    · subst same
      rw [moveDispatcher_self]
      exact .inl rfl
    · rw [moveDispatcher_other same]
      rcases List.mem_cons.mp member with first | rest
      · exact absurd first same
      · exact between other rest
  · have longer : left ((state.addDataInfoToThread ⟨threadId,call⟩).moveDispatcher call (.querying threadId)) threadId =
        ⟨threadId,call⟩ :: left state threadId := List.filter_cons_of_pos (by simp)
    rw [longer,List.length_cons,List.length_cons]
    change _ ≤ waking.length+1+if looks (state.workers threadId) then 1 else 0
    omega

/-- A signal that is heard: one call less on the way, and the thread is going to look. -/
theorem Sound.wake (sound : Sound state threadId) (stage : state.dispatchers call = .waking threadId)
    (blocked : state.workers threadId = .waiting) :
    Sound ((state.moveWorker threadId .woken).moveDispatcher call .returned) threadId := by
  refine ⟨?_,sound.idle,?_,?_⟩
  · change isAttached ((state.moveWorker threadId .woken).workers threadId) = true → _
    rw [moveWorker_self]
    nofun
  · intro other chosen
    by_cases same : other = call
    · subst same
      rw [moveDispatcher_self] at chosen
      cases chosen
    · rw [moveDispatcher_other same] at chosen
      exact sound.aimed other chosen
  · obtain ⟨waking,distinct,between,enough⟩ := sound.covered
    refine ⟨waking.erase call,distinct.erase call,?_,?_⟩
    · intro other member
      obtain ⟨apart,earlier⟩ := distinct.mem_erase_iff.mp member
      rw [moveDispatcher_other apart]
      exact between other earlier
    · change (left state threadId).length ≤
        _ + if looks ((state.moveWorker threadId .woken).workers threadId) then 1 else 0
      rw [blocked] at enough
      rw [moveWorker_self]
      have one : waking.length ≤ (waking.erase call).length+1 := by
        rw [List.length_erase]
        split <;> omega
      exact Nat.le_trans enough one

theorem stepDispatcher_sound {choice : Bool} (sound : ∀ threadId, Sound state threadId)
    (taken : state.stepDispatcher call choice = some next) (listened : heard state (.dispatcher call choice) = true)
    (threadId : Nat) : Sound next threadId := by
  have here := sound threadId
  have apart {stage : Dispatcher} {chosen : Nat} (aimed : target stage = some chosen) (other : threadId ≠ chosen) :
      ¬ Between stage threadId := by
    intro between
    rw [target_of_between between] at aimed
    exact other (Option.some.inj aimed)
  rcases stepDispatcher_cases taken with ⟨stage,moved,untargeted,rfl⟩ | ⟨stage,rfl | ⟨chosen,listed,rfl⟩⟩ | ⟨chosen,stage,rfl⟩ |
    ⟨chosen,stage,⟨absent,rfl⟩ | rfl⟩ | ⟨chosen,stage,free,rfl⟩
  · refine here.redirect stage ?_ ?_
    · rw [untargeted]
      nofun
    · rintro (between | between) <;> cases between
  · exact here
  · refine here.redirect stage ?_ ?_
    · intro aimed
      cases aimed
      exact here.idle listed
    · rintro (between | between) <;> cases between
  · by_cases same : threadId = chosen
    · subst same
      exact here.add stage
    · have shorter : left (state.addDataInfoToThread ⟨chosen,call⟩) threadId = left state threadId :=
        List.filter_cons_of_neg (by simpa using fun equal => same equal.symm)
      have added : Sound (state.addDataInfoToThread ⟨chosen,call⟩) threadId :=
        here.work rfl id .inl .inl (by rw [shorter]; exact fun _ => id)
      refine added.redirect stage ?_ ?_
      · intro aimed
        exact absurd (Option.some.inj aimed).symm same
      · intro between
        exact absurd between (apart rfl same)
  · -- the chosen thread was in the idle list, so it has its lock info
    exact absurd ((sound chosen).aimed call (by rw [stage]; rfl)) absent
  · refine here.redirect stage ?_ ?_
    · intro aimed
      cases aimed
      exact here.aimed call (by rw [stage]; rfl)
    · rintro (between | between) <;> cases between
      exact .inr rfl
  · have blocked : state.workers chosen = .waiting := by
      simp only [heard,stage] at listened
      exact of_decide_eq_true listened
    rw [State.pthreadCondSignal,if_pos blocked]
    by_cases same : threadId = chosen
    · subst same
      exact here.wake stage blocked
    · have woken : Sound (state.moveWorker chosen .woken) threadId := by
        refine here.work rfl id ?_ .inl ?_ <;> rw [moveWorker_other same]
        · exact .inl
        · exact fun _ => id
      refine woken.redirect stage nofun ?_
      intro between
      exact absurd between (apart rfl same)

end Step

theorem step_sound {state next : State} {event : Event} (sound : ∀ threadId, Sound state threadId)
    (taken : guarded (fires State.step) (fun state event => heard state event = true) state event next) (threadId : Nat) :
    Sound next threadId := by
  obtain ⟨listened,fired⟩ := taken
  cases event with
  | worker moved choice =>
    by_cases same : threadId = moved
    · subst same
      exact stepWorker_self (sound threadId) fired
    · exact stepWorker_other same (sound threadId) fired
  | dispatcher call choice => exact stepDispatcher_sound sound fired listened threadId

/-- `AddDataInfoToThread` is behind this call, if it gets that far. -/
def Placed (dispatcher : Dispatcher) : Prop := (∃ threadId, Between dispatcher threadId) ∨ dispatcher = .returned

def items (state : State) : List Nat := state.processInfo.map ThreadProcessInfo.call ++ state.popped

/-- Every item, in the list or taken from it, is there once and that of a call that has added it. -/
structure Once (state : State) : Prop where
  distinct : (items state).Nodup
  added : ∀ call ∈ items state, Placed (state.dispatchers call)

section Once
variable {state next : State} {call : Nat}

theorem once_new : Once State.new := ⟨List.nodup_nil,by intro call member; cases member⟩

theorem Once.redirect (once : Once state) {before after : Dispatcher} (stage : state.dispatchers call = before)
    (keeps : Placed before → Placed after) : Once (state.moveDispatcher call after) := by
  refine ⟨once.distinct,?_⟩
  intro other member
  have earlier := once.added other member
  by_cases same : other = call
  · subst same
    rw [stage] at earlier
    rw [moveDispatcher_self]
    exact keeps earlier
  · rwa [moveDispatcher_other same]

theorem Once.add (once : Once state) {chosen : Nat} (stage : state.dispatchers call = .adding chosen) :
    Once ((state.addDataInfoToThread ⟨chosen,call⟩).moveDispatcher call (.querying chosen)) := by
  have absent : call ∉ items state := by
    intro member
    have earlier := once.added call member
    rw [stage] at earlier
    rcases earlier with ⟨_,between | between⟩ | returned
    · cases between
    · cases between
    · cases returned
  refine ⟨List.nodup_cons.mpr ⟨absent,once.distinct⟩,?_⟩
  intro other member
  by_cases same : other = call
  · subst same
    rw [moveDispatcher_self]
    exact .inl ⟨chosen,.inl rfl⟩
  · rw [moveDispatcher_other same]
    rcases List.mem_cons.mp member with first | rest
    · exact absurd first same
    · exact once.added other rest

theorem stepWorker_once {threadId : Nat} {choice : Bool} (once : Once state)
    (taken : state.stepWorker threadId choice = some next) : Once next := by
  rcases stepWorker_cases taken with ⟨worker,-,rfl⟩ | ⟨-,rfl⟩ | ⟨-,rfl⟩ | ⟨-,rfl⟩ | ⟨node,-,found,rfl⟩
  · exact ⟨once.distinct,once.added⟩
  · exact ⟨once.distinct,once.added⟩
  · exact ⟨once.distinct,once.added⟩
  · exact ⟨once.distinct,once.added⟩
  · -- the item only goes from one of the two lists to the other
    obtain ⟨-,before,after,split,erased⟩ := popped_split found
    have moved : List.Perm ((state.processInfo.eraseP (·.threadId = threadId)).map ThreadProcessInfo.call ++
        (state.popped ++ [node.call])) (items state) := by
      rw [items,erased,split]
      simp only [List.map_append,List.map_cons,List.append_assoc]
      refine List.Perm.append_left _ ?_
      rw [← List.append_assoc]
      exact List.perm_append_singleton _ _
    exact ⟨moved.nodup_iff.mpr once.distinct,fun other member => once.added other (moved.mem_iff.mp member)⟩

theorem stepDispatcher_once {choice : Bool} (once : Once state) (taken : state.stepDispatcher call choice = some next) :
    Once next := by
  have early {stage : Dispatcher} {after : Dispatcher} (unplaced : stage = .making ∨ stage = .choosing) :
      Placed stage → Placed after := by
    rintro (⟨_,between | between⟩ | returned) <;> rcases unplaced with rfl | rfl <;> simp_all
  rcases stepDispatcher_cases taken with ⟨stage,moved,untargeted,rfl⟩ | ⟨stage,rfl | ⟨chosen,listed,rfl⟩⟩ | ⟨chosen,stage,rfl⟩ |
    ⟨chosen,stage,⟨absent,rfl⟩ | rfl⟩ | ⟨chosen,stage,free,rfl⟩
  · exact once.redirect stage (early (.inl rfl))
  · exact once
  · exact once.redirect stage (early (.inr rfl))
  · exact once.add stage
  · exact once.redirect stage fun _ => .inr rfl
  · exact once.redirect stage fun _ => .inl ⟨chosen,.inr rfl⟩
  · rw [State.pthreadCondSignal]
    split
    · have woken : Once (state.moveWorker chosen .woken) := ⟨once.distinct,once.added⟩
      exact woken.redirect stage fun _ => .inr rfl
    · exact once.redirect stage fun _ => .inr rfl

theorem reached_once {events : List Event} (run : Reaches (fires State.step) State.new events state) : Once state := by
  refine run.invariant Once once_new ?_
  intro before event after once taken
  cases event with
  | worker threadId choice => exact stepWorker_once once taken
  | dispatcher call choice => exact stepDispatcher_once once taken

end Once

/-- A thread that is blocked in `pthread_cond_wait` has nothing in the list, unless a call is between its
`AddDataInfoToThread` and the end of its `WakeUpDataThread` for it. -/
def NothingLeft (state : State) : Prop :=
  ∀ threadId, state.workers threadId = .waiting → (∀ call, ¬ Between (state.dispatchers call) threadId) →
    ∀ processInfo ∈ state.processInfo, processInfo.threadId ≠ threadId

/-- Nothing is ever taken twice, and nothing is left behind in a run in which every signal of
`WakeUpDataThread` finds its thread blocked. -/
theorem heard_signals_lose_no_work {events : List Event} {state : State}
    (run : Reaches (fires State.step) State.new events state) :
    state.popped.Nodup ∧
      (Reaches (guarded (fires State.step) (fun state event => heard state event = true)) State.new events state →
        NothingLeft state) := by
  refine ⟨(reached_once run).distinct.of_append_right,?_⟩
  intro listened threadId blocked unnoticed processInfo member own
  have sound := listened.invariant (fun state => ∀ threadId, Sound state threadId) sound_new
    (fun _ _ _ sound taken => step_sound sound taken) threadId
  obtain ⟨waking,-,between,enough⟩ := sound.covered
  have none : waking = [] := List.eq_nil_iff_forall_not_mem.mpr fun call waits => unnoticed call (between call waits)
  have present : processInfo ∈ left state threadId := List.mem_filter.mpr ⟨member,decide_eq_true own⟩
  rw [none,blocked] at enough
  exact absurd (List.length_pos_of_mem present) (Nat.not_lt.mpr enough)

/-- Two calls choose thread 0, and each wakes it up when it waits. -/
def heardTwice : List Event :=
  List.flatten [List.replicate 6 (.worker 0 true),[.dispatcher 0 true,.dispatcher 1 true,.dispatcher 0 true,.dispatcher 1 true],
    [.dispatcher 0 true,.dispatcher 1 true,.dispatcher 0 true,.dispatcher 1 true,.dispatcher 0 true],
    List.replicate 10 (.worker 0 true),[.dispatcher 1 true],List.replicate 10 (.worker 0 true)]

theorem heard_twice_loses_no_work :
    ∃ state, Reaches (guarded (fires State.step) (fun state event => heard state event = true)) State.new heardTwice state ∧
      (state.popped = [1,0] ∧ state.workers 0 = .waiting) ∧ state.popped.Nodup ∧ NothingLeft state := by
  obtain ⟨state,run,reached⟩ := Reaches.exists_of_foldlM_guarded State.step (fun state event => heard state event = true)
    State.new heardTwice (fun state => decide (state.popped = [1,0] ∧ state.workers 0 = .waiting)) (by decide +kernel)
  obtain ⟨once,nothing⟩ := heard_signals_lose_no_work (run.mono fun _ _ _ taken => taken.2)
  exact ⟨state,run,of_decide_eq_true reached,once,nothing run⟩

theorem step_untouched {state next : State} {event : Event} {call : Nat} (taken : fires State.step state event next)
    (absent : ∀ choice, event ≠ .dispatcher call choice) : next.dispatchers call = state.dispatchers call := by
  cases event with
  | worker threadId choice =>
    rcases stepWorker_cases taken with ⟨_,-,rfl⟩ | ⟨-,rfl⟩ | ⟨-,rfl⟩ | ⟨-,rfl⟩ | ⟨_,-,-,rfl⟩ <;> rfl
  | dispatcher moved choice =>
    have apart : call ≠ moved := by
      rintro rfl
      exact absent choice rfl
    rcases stepDispatcher_cases taken with ⟨-,_,-,rfl⟩ | ⟨-,rfl | ⟨_,-,rfl⟩⟩ | ⟨_,-,rfl⟩ | ⟨_,-,⟨-,rfl⟩ | rfl⟩ | ⟨chosen,-,-,rfl⟩
    · exact moveDispatcher_other apart
    · rfl
    · exact moveDispatcher_other apart
    · exact moveDispatcher_other apart
    · exact moveDispatcher_other apart
    · exact moveDispatcher_other apart
    · refine (moveDispatcher_other apart).trans ?_
      rw [State.pthreadCondSignal]
      split <;> rfl

theorem untouched {state : State} {events : List Event} {call : Nat} (run : Reaches (fires State.step) State.new events state)
    (absent : ∀ choice, .dispatcher call choice ∉ events) : state.dispatchers call = .making := by
  induction run with
  | nil => rfl
  | snoc event _ taken ih =>
    rw [step_untouched taken]
    · exact ih fun choice member => absent choice (List.mem_append_left _ member)
    · intro choice same
      exact absent choice (List.mem_append_right _ (List.mem_singleton.mpr same.symm))

/-- The second call signals a thread that has already been woken up: the thread takes one item and
waits again, with the other one in the list and nobody left to wake it up. -/
def lostSignal : List Event :=
  List.flatten [List.replicate 6 (.worker 0 true),[.dispatcher 0 true,.dispatcher 1 true,.dispatcher 0 true,.dispatcher 1 true],
    [.dispatcher 0 true,.dispatcher 1 true,.dispatcher 0 true,.dispatcher 1 true,.dispatcher 0 true,.dispatcher 1 true],
    List.replicate 10 (.worker 0 true)]

theorem second_signal_lost :
    ∃ state, Reaches (fires State.step) State.new lostSignal state ∧ state.workers 0 = .waiting ∧
      (∀ call, ¬ Between (state.dispatchers call) 0) ∧ state.processInfo = [⟨0,0⟩] ∧ ¬ NothingLeft state := by
  obtain ⟨state,run,reached⟩ := Reaches.exists_of_foldlM State.step State.new lostSignal
    (fun state => decide (state.workers 0 = .waiting ∧ state.processInfo = [⟨0,0⟩] ∧ state.dispatchers 0 = .returned ∧
      state.dispatchers 1 = .returned)) (by decide +kernel)
  obtain ⟨blocked,behind,first,second⟩ := of_decide_eq_true reached
  have unnoticed (call : Nat) : ¬ Between (state.dispatchers call) 0 := by
    have stage : state.dispatchers call = .returned ∨ state.dispatchers call = .making := by
      by_cases zero : call = 0
      · exact .inl (zero ▸ first)
      by_cases one : call = 1
      · exact .inl (one ▸ second)
      refine .inr (untouched run ?_)
      simp [lostSignal,zero,one]
    rcases stage with stage | stage <;> rw [stage] <;> rintro (between | between) <;> cases between
  refine ⟨state,run,blocked,unnoticed,behind,?_⟩
  intro nothing
  exact nothing 0 blocked unnoticed ⟨0,0⟩ (by rw [behind]; simp) rfl

end CommunicationIpc.LiteDataThreads
