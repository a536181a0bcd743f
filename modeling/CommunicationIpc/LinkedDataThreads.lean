import CommunicationIpc.Kernel.LinkedDataThreads
import CommunicationIpc.LiteDataThreads
import CommunicationIpc.RegistryLoops
import Mathlib.Data.List.Find

/-! The data threads over linked memory do what they do over plain lists, in every run and with all three lists in one memory. -/
namespace CommunicationIpc.LinkedDataThreads
open CommunicationIpc.Library CommunicationIpc.Kernel.DoublyLinkedList CommunicationIpc.LinkedLists CommunicationIpc.RegistryLoops
open CommunicationIpc.Kernel.LinkedDataThreads
open CommunicationIpc.Kernel.LiteDataThreads (Worker Event ThreadProcessInfo)
open CommunicationIpc.LiteDataThreads (Once once_new stepWorker_once stepDispatcher_once items)
open Links (Represents Free)

abbrev Plain := Kernel.LiteDataThreads.State

def listsOf (state : Plain) : Cell → Option (List Cell)
  | .socketLockInfoList => some (state.socketLockInfo.map .lockInfo)
  | .idleDataThreadsList => some (state.idleDataThread.map .idle)
  | .processInfoList => some (state.processInfo.map fun item => .process item.call)
  | _ => none

/-- The linked memory holds the three lists, and the rest is the same. -/
structure Shows (linked : State) (state : Plain) : Prop where
  represented : Represents linked.links (listsOf state)
  threadIds : ∀ item ∈ state.processInfo, linked.processThreadId item.call = item.threadId
  workers : linked.workers = state.workers
  dispatchers : linked.dispatchers = state.dispatchers
  popped : linked.popped = state.popped

/-- The entry on the stack of the worker is in the idle list. -/
def isListed : Worker → Bool
  | .entering | .waiting | .woken | .deleting => true
  | _ => false

/-- A node is put into a list only where it is in none. -/
structure Fresh (state : Plain) : Prop where
  attaching : ∀ threadId, state.workers threadId = .attaching → threadId ∉ state.socketLockInfo
  idle : ∀ threadId, threadId ∈ state.idleDataThread ↔ isListed (state.workers threadId) = true
  distinct : state.idleDataThread.Nodup

theorem fresh_new : Fresh Kernel.LiteDataThreads.State.new :=
  ⟨(fun _ stage => by cases stage),(fun _ => ⟨(fun member => by cases member),fun listed => by cases listed⟩),List.nodup_nil⟩

section Fresh
variable {state next : Plain} {threadId : Nat}

theorem Fresh.move (fresh : Fresh state) {worker : Worker} (listed : isListed worker = isListed (state.workers threadId))
    (attaching : worker = .attaching → threadId ∉ state.socketLockInfo) : Fresh (state.moveWorker threadId worker) := by
  refine ⟨?_,?_,fresh.distinct⟩
  · intro other stage
    by_cases same : other = threadId
    · subst same
      rw [LiteDataThreads.moveWorker_self] at stage
      exact attaching stage
    · rw [LiteDataThreads.moveWorker_other same] at stage
      exact fresh.attaching other stage
  · intro other
    refine (fresh.idle other).trans ?_
    by_cases same : other = threadId
    · subst same
      rw [LiteDataThreads.moveWorker_self,listed]
    · rw [LiteDataThreads.moveWorker_other same]

theorem Fresh.goes (fresh : Fresh state) {worker : Worker} (listed : isListed worker = isListed (state.workers threadId))
    (other : worker ≠ .attaching) : Fresh (state.moveWorker threadId worker) :=
  fresh.move listed fun same => absurd same other

theorem Fresh.lists (fresh : Fresh state) {other : Plain} (workers : other.workers = state.workers)
    (info : other.socketLockInfo = state.socketLockInfo) (idle : other.idleDataThread = state.idleDataThread) : Fresh other := by
  refine ⟨?_,?_,idle ▸ fresh.distinct⟩
  · rw [workers,info]
    exact fresh.attaching
  · rw [workers,idle]
    exact fresh.idle

theorem Fresh.attach (fresh : Fresh state) (stage : state.workers threadId = .attaching) :
    Fresh ((state.attachThreadLockInfo threadId).moveWorker threadId .locking) := by
  refine ⟨?_,?_,fresh.distinct⟩
  · intro other place member
    by_cases same : other = threadId
    · subst same
      rw [LiteDataThreads.moveWorker_self] at place
      cases place
    · rw [LiteDataThreads.moveWorker_other same] at place
      exact (List.mem_cons.mp member).elim same (fresh.attaching other place)
  · intro other
    refine (fresh.idle other).trans ?_
    by_cases same : other = threadId
    · subst same
      rw [LiteDataThreads.moveWorker_self,stage]
      rfl
    · rw [LiteDataThreads.moveWorker_other same]
      rfl

theorem Fresh.absent (fresh : Fresh state) (stage : state.workers threadId = .adding) : threadId ∉ state.idleDataThread := by
  rw [fresh.idle,stage]
  nofun

theorem Fresh.attaching_moved (fresh : Fresh state) {worker : Worker} (elsewhere : worker ≠ .attaching) (other : Nat)
    (place : (state.moveWorker threadId worker).workers other = .attaching) : other ∉ state.socketLockInfo := by
  by_cases same : other = threadId
  · subst same
    rw [LiteDataThreads.moveWorker_self] at place
    exact absurd place elsewhere
  · rw [LiteDataThreads.moveWorker_other same] at place
    exact fresh.attaching other place

theorem Fresh.add (fresh : Fresh state) (stage : state.workers threadId = .adding) :
    Fresh ((state.addDataThreadToIdle threadId).moveWorker threadId .entering) := by
  refine ⟨fresh.attaching_moved (by simp),?_,List.nodup_cons.mpr ⟨fresh.absent stage,fresh.distinct⟩⟩
  intro other
  by_cases same : other = threadId
  · subst same
    rw [LiteDataThreads.moveWorker_self]
    exact ⟨fun _ => rfl,fun _ => List.mem_cons_self⟩
  · rw [LiteDataThreads.moveWorker_other same]
    exact (List.mem_cons.trans (or_iff_right same)).trans (fresh.idle other)

theorem Fresh.delete (fresh : Fresh state) : Fresh ((state.deleteDataThreadFromIdle threadId).moveWorker threadId .unlocking) := by
  refine ⟨fresh.attaching_moved (by simp),?_,fresh.distinct.erase threadId⟩
  intro other
  refine (fresh.distinct.mem_erase_iff).trans ?_
  by_cases same : other = threadId
  · subst same
    rw [LiteDataThreads.moveWorker_self]
    simp [isListed]
  · rw [LiteDataThreads.moveWorker_other same]
    exact (and_iff_right same).trans (fresh.idle other)

theorem stepWorker_fresh {choice : Bool} (fresh : Fresh state) (taken : state.stepWorker threadId choice = some next) : Fresh next := by
  cases stage : state.workers threadId with
  | testing =>
    simp only [Kernel.LiteDataThreads.State.stepWorker,stage,Option.some.injEq] at taken
    subst taken
    refine fresh.move ?_ ?_ <;> cases choice <;> simp [isListed,stage]
  | querying =>
    simp only [Kernel.LiteDataThreads.State.stepWorker,stage] at taken
    cases queried : state.queryThreadLockInfo threadId with
    | none =>
      simp only [queried,Option.some.injEq] at taken
      subst taken
      exact fresh.move (by rw [stage]; rfl) fun _ => LiteDataThreads.queryThreadLockInfo_eq_none.mp queried
    | some found =>
      simp only [queried,Option.some.injEq] at taken
      subst taken
      exact fresh.goes (by rw [stage]; rfl) (by simp)
  | attaching =>
    simp only [Kernel.LiteDataThreads.State.stepWorker,stage] at taken
    split at taken
    · cases taken
      exact fresh.attach stage
    · cases taken
      exact fresh.goes (by rw [stage]; rfl) (by simp)
  | adding =>
    simp only [Kernel.LiteDataThreads.State.stepWorker,stage,Option.some.injEq] at taken
    subst taken
    exact fresh.add stage
  | deleting =>
    simp only [Kernel.LiteDataThreads.State.stepWorker,stage,Option.some.injEq] at taken
    subst taken
    exact fresh.delete
  | popping =>
    simp only [Kernel.LiteDataThreads.State.stepWorker,stage,Kernel.LiteDataThreads.State.popDataInfoFromThread] at taken
    split at taken
    · rename_i found
      split at found
      · cases found
        cases taken
        exact fresh.goes (by rw [stage]; rfl) (by simp)
      · cases found
    · rename_i found
      split at found
      · cases found
      · cases found
        cases taken
        exact (@Fresh.goes _ threadId fresh (.running _) (by rw [stage]; rfl) (by simp)).lists rfl rfl rfl
  | locking | entering | waiting | woken | unlocking | running =>
    simp only [Kernel.LiteDataThreads.State.stepWorker,stage,Option.some.injEq] at taken
    subst taken
    exact fresh.goes (by rw [stage]; rfl) (by simp)
  | stopped =>
    simp only [Kernel.LiteDataThreads.State.stepWorker,stage] at taken
    cases taken

theorem stepDispatcher_fresh {call : Nat} {choice : Bool} (fresh : Fresh state)
    (taken : state.stepDispatcher call choice = some next) : Fresh next := by
  rcases LiteDataThreads.stepDispatcher_cases taken with ⟨_,_,_,rfl⟩ | ⟨_,rfl | ⟨_,_,rfl⟩⟩ | ⟨_,_,rfl⟩ | ⟨_,_,⟨_,rfl⟩ | rfl⟩ | ⟨chosen,_,_,rfl⟩
  · exact fresh.lists rfl rfl rfl
  · exact fresh
  · exact fresh.lists rfl rfl rfl
  · exact fresh.lists rfl rfl rfl
  · exact fresh.lists rfl rfl rfl
  · exact fresh.lists rfl rfl rfl
  · have signalled : Fresh (state.pthreadCondSignal chosen) := by
      rw [Kernel.LiteDataThreads.State.pthreadCondSignal]
      split
      · rename_i waiting
        exact fresh.goes (by rw [waiting]; rfl) (by simp)
      · exact fresh
    exact signalled.lists rfl rfl rfl

theorem step_fresh {event : Event} (fresh : Fresh state) (taken : fires Kernel.LiteDataThreads.State.step state event next) :
    Fresh next := by
  cases event with
  | worker threadId choice => exact stepWorker_fresh fresh taken
  | dispatcher call choice => exact stepDispatcher_fresh fresh taken

end Fresh

section Steps
variable {linked : State} {state : Plain} {threadId call fuel : Nat}

theorem run_some {β : Type} {program : Heap Cell β} {value : β} {after : Links Cell} (ran : program linked.links = (some value,after)) :
    linked.run program = some (value,{ linked with links := after }) := by
  simp only [State.run,ran]

theorem Shows.moveWorker (shows : Shows linked state) (worker : Worker) :
    Shows (linked.moveWorker threadId worker) (state.moveWorker threadId worker) :=
  ⟨shows.represented,shows.threadIds,by rw [State.moveWorker,shows.workers]; rfl,shows.dispatchers,shows.popped⟩

theorem Shows.moveDispatcher (shows : Shows linked state) (dispatcher : Kernel.DataThreads.Dispatcher) :
    Shows (linked.moveDispatcher call dispatcher) (state.moveDispatcher call dispatcher) :=
  ⟨shows.represented,shows.threadIds,shows.workers,by rw [State.moveDispatcher,shows.dispatchers]; rfl,shows.popped⟩

theorem Shows.with (shows : Shows linked state) {after : Links Cell} {next : Plain} (represented : Represents after (listsOf next))
    (items : next.processInfo = state.processInfo) (workers : next.workers = state.workers) (dispatchers : next.dispatchers = state.dispatchers)
    (popped : next.popped = state.popped) : Shows { linked with links := after } next :=
  ⟨represented,items ▸ shows.threadIds,shows.workers.trans workers.symm,shows.dispatchers.trans dispatchers.symm,
    shows.popped.trans popped.symm⟩

/-- Enough turns for each of the lists. -/
def size (state : Plain) : Nat := state.socketLockInfo.length+state.idleDataThread.length+state.processInfo.length

theorem queryThreadLockInfo_shows (shows : Shows linked state) (enough : size state < fuel) :
    linked.run (queryThreadLockInfo linked.threadIdOf threadId fuel) =
      some ((state.queryThreadLockInfo threadId).map .lockInfo,linked) := by
  have ran := @queryEntry_run Cell _ _ _ .socketLockInfoList _ fuel shows.represented rfl
    (by rw [List.length_map]; simp only [size] at enough; omega) fun node => linked.threadIdOf node = threadId
  rw [List.find?_map] at ran
  exact run_some ran

theorem attach_shows (shows : Shows linked state) (absent : threadId ∉ state.socketLockInfo) :
    ∃ after, linked.run (dlListAdd .socketLockInfoList (.lockInfo threadId)) = some ((),{ linked with links := after }) ∧
      Shows { linked with links := after } (state.attachThreadLockInfo threadId) := by
  have free : Free (listsOf state) (.lockInfo threadId) := by
    intro list nodes held
    cases list <;> cases held <;> simp [absent]
  obtain ⟨after,ran,represented,_⟩ := @dlListAdd_represents Cell _ _ _ .socketLockInfoList _ _ shows.represented rfl free
  refine ⟨after,run_some ran,shows.with ?_ rfl rfl rfl rfl⟩
  convert represented using 1
  funext list
  cases list <;> rfl

theorem addIdle_shows (shows : Shows linked state) (absent : threadId ∉ state.idleDataThread) :
    ∃ after, linked.run (dlListAdd .idleDataThreadsList (.idle threadId)) = some ((),{ linked with links := after }) ∧
      Shows { linked with links := after } (state.addDataThreadToIdle threadId) := by
  have free : Free (listsOf state) (.idle threadId) := by
    intro list nodes held
    cases list <;> cases held <;> simp [absent]
  obtain ⟨after,ran,represented,_⟩ := @dlListAdd_represents Cell _ _ _ .idleDataThreadsList _ _ shows.represented rfl free
  refine ⟨after,run_some ran,shows.with ?_ rfl rfl rfl rfl⟩
  convert represented using 1
  funext list
  cases list <;> rfl

theorem deleteIdle_shows (shows : Shows linked state) (present : threadId ∈ state.idleDataThread) :
    ∃ after, linked.run (dlListDelete (.idle threadId)) = some ((),{ linked with links := after }) ∧
      Shows { linked with links := after } (state.deleteDataThreadFromIdle threadId) := by
  obtain ⟨front,back,apart,split,erased⟩ := List.exists_erase_eq present
  have held : listsOf state .idleDataThreadsList = some (front.map .idle ++ .idle threadId :: back.map .idle) := by
    rw [listsOf,split,List.map_append,List.map_cons]
  obtain ⟨after,ran,represented,_,_⟩ := dlListDelete_represents shows.represented held
  refine ⟨after,run_some ran,shows.with ?_ rfl rfl rfl rfl⟩
  convert represented using 1
  funext list
  cases list <;> simp [listsOf,Kernel.LiteDataThreads.State.deleteDataThreadFromIdle,erased,Function.update]

theorem getIdle_shows (shows : Shows linked state) (enough : size state < fuel) :
    linked.run (getIdleDataThread .idleDataThreadsList fuel) = some (state.getIdleDataThread.map .idle,linked) := by
  have ran := @getIdleDataThread_run Cell _ _ _ .idleDataThreadsList _ fuel shows.represented rfl
    (by rw [List.length_map]; simp only [size] at enough; omega)
  rw [List.head?_map] at ran
  exact run_some ran

theorem addInfo_shows (shows : Shows linked state) (absent : call ∉ state.processInfo.map ThreadProcessInfo.call) :
    ∃ after, State.run { linked with processThreadId := Function.update linked.processThreadId call threadId }
        (dlListAdd .processInfoList (.process call)) =
          some ((),{ linked with processThreadId := Function.update linked.processThreadId call threadId, links := after }) ∧
      Shows { linked with processThreadId := Function.update linked.processThreadId call threadId, links := after }
        (state.addDataInfoToThread ⟨threadId,call⟩) := by
  have free : Free (listsOf state) (.process call) := by
    intro list nodes held member
    cases list <;> cases held <;> simp at member
    obtain ⟨item,inside,rfl⟩ := member
    exact absent (List.mem_map_of_mem inside)
  obtain ⟨after,ran,represented,_⟩ := @dlListAdd_represents Cell _ _ _ .processInfoList _ _ shows.represented rfl free
  have lists : Function.update (listsOf state) .processInfoList
      (some (.process call :: state.processInfo.map fun item => .process item.call)) =
        listsOf (state.addDataInfoToThread ⟨threadId,call⟩) := by
    funext list
    cases list <;> rfl
  rw [lists] at represented
  refine ⟨after,run_some ran,represented,?_,shows.workers,shows.dispatchers,shows.popped⟩
  intro item member
  rcases List.mem_cons.mp member with rfl | member
  · exact Function.update_self ..
  · have listed : item ∈ state.processInfo := member
    have apart : item.call ≠ call := by
      rintro rfl
      exact absent (List.mem_map_of_mem listed)
    exact (Function.update_of_ne apart ..).trans (shows.threadIds item member)

theorem eraseP_congr {β : Type} {test other : β → Bool} {items : List β} (same : ∀ item ∈ items, test item = other item) :
    items.eraseP test = items.eraseP other := by
  induction items with
  | nil => rfl
  | cons item items ih =>
    rw [List.forall_mem_cons] at same
    rw [List.eraseP_cons,List.eraseP_cons,same.1,ih same.2]

theorem pop_shows (shows : Shows linked state) (threadId : Nat) :
    ∃ after, (∀ fuel, size state < fuel → linked.run (popDataInfoFromThread linked.threadIdOf .processInfoList threadId fuel) =
        some ((state.processInfo.find? (·.threadId = threadId)).map fun item => .process item.call,{ linked with links := after })) ∧
      Represents after (listsOf { state with processInfo := state.processInfo.eraseP (·.threadId = threadId) }) := by
  obtain ⟨after,ran,represented⟩ := @popDataInfoFromThread_run Cell _ _ _ .processInfoList _ shows.represented rfl linked.threadIdOf threadId
  have agree : ∀ item ∈ state.processInfo,
      ((fun node => decide (linked.threadIdOf node = threadId)) ∘ fun item => .process item.call) item = decide (item.threadId = threadId) := by
    intro item member
    rw [Function.comp_apply,State.threadIdOf,shows.threadIds item member]
  rw [List.find?_map,List.find?_congr agree] at ran
  rw [List.eraseP_map,eraseP_congr agree] at represented
  refine ⟨after,?_,?_⟩
  · intro fuel enough
    exact run_some (ran fuel (by rw [List.length_map]; simp only [size] at enough; omega))
  · convert represented using 1
    funext list
    cases list <;> rfl

/-- A step of the linked state, the same from some number of turns on, and what it shows. -/
def Matches (bound : Nat) (linked : Nat → Option State) (plain : Option Plain) : Prop :=
  ∃ outcome, (∀ fuel, bound < fuel → linked fuel = outcome) ∧ Option.Rel Shows outcome plain

theorem Matches.some {bound : Nat} {linked : Nat → Option State} {next : Plain} {after : State}
    (ran : ∀ fuel, bound < fuel → linked fuel = Option.some after) (shows : Shows after next) : Matches bound linked (Option.some next) :=
  ⟨Option.some after,ran,.some shows⟩

theorem Matches.none {bound : Nat} {linked : Nat → Option State} (ran : ∀ fuel, bound < fuel → linked fuel = Option.none) :
    Matches bound linked Option.none :=
  ⟨Option.none,ran,.none⟩

theorem stepWorker_shows (choice : Bool) (shows : Shows linked state) (fresh : Fresh state) :
    Matches (size state) (fun fuel => linked.stepWorker fuel threadId choice) (state.stepWorker threadId choice) := by
  have place := congrFun shows.workers threadId
  cases stage : state.workers threadId with
  | testing | locking | entering | waiting | woken | unlocking | running =>
    rw [stage] at place
    simp only [State.stepWorker,Kernel.LiteDataThreads.State.stepWorker,place,stage]
    exact .some (fun _ _ => rfl) (shows.moveWorker _)
  | querying =>
    rw [stage] at place
    simp only [State.stepWorker,Kernel.LiteDataThreads.State.stepWorker,place,stage]
    cases queried : state.queryThreadLockInfo threadId with
    | none =>
      refine .some (fun fuel enough => ?_) (shows.moveWorker .attaching)
      rw [queryThreadLockInfo_shows shows enough,queried]
      rfl
    | some found =>
      refine .some (fun fuel enough => ?_) (shows.moveWorker .locking)
      rw [queryThreadLockInfo_shows shows enough,queried]
      rfl
  | attaching =>
    rw [stage] at place
    simp only [State.stepWorker,Kernel.LiteDataThreads.State.stepWorker,place,stage]
    cases choice with
    | false => exact .some (fun _ _ => rfl) (shows.moveWorker .popping)
    | true =>
      obtain ⟨after,ran,kept⟩ := attach_shows shows (fresh.attaching threadId stage)
      refine .some (fun _ _ => ?_) (kept.moveWorker .locking)
      rw [if_pos rfl,ran]
      rfl
  | adding =>
    rw [stage] at place
    obtain ⟨after,ran,kept⟩ := addIdle_shows shows (fresh.absent stage)
    simp only [State.stepWorker,Kernel.LiteDataThreads.State.stepWorker,place,stage]
    refine .some (fun _ _ => ?_) (kept.moveWorker .entering)
    rw [ran]
    rfl
  | deleting =>
    rw [stage] at place
    have present : threadId ∈ state.idleDataThread := by
      rw [fresh.idle,stage]
      rfl
    obtain ⟨after,ran,kept⟩ := deleteIdle_shows shows present
    simp only [State.stepWorker,Kernel.LiteDataThreads.State.stepWorker,place,stage]
    refine .some (fun _ _ => ?_) (kept.moveWorker .unlocking)
    rw [ran]
    rfl
  | popping =>
    rw [stage] at place
    obtain ⟨after,ran,represented⟩ := pop_shows shows threadId
    simp only [State.stepWorker,Kernel.LiteDataThreads.State.stepWorker,Kernel.LiteDataThreads.State.popDataInfoFromThread,place,stage]
    cases found : state.processInfo.find? (·.threadId = threadId) with
    | none =>
      have whole : state.processInfo.eraseP (·.threadId = threadId) = state.processInfo :=
        List.eraseP_of_forall_not fun item member => by simpa using List.find?_eq_none.mp found item member
      rw [whole] at represented
      refine .some (fun fuel enough => ?_) ((shows.with represented rfl rfl rfl rfl).moveWorker .testing)
      rw [ran fuel enough,found]
      rfl
    | some item =>
      have kept : Shows { linked with links := after, popped := linked.popped ++ [item.call] }
          { state with processInfo := state.processInfo.eraseP (·.threadId = threadId), popped := state.popped ++ [item.call] } :=
        ⟨represented,fun other member => shows.threadIds other (List.mem_of_mem_eraseP member),shows.workers,shows.dispatchers,
          by rw [shows.popped]⟩
      refine .some (fun fuel enough => ?_) (kept.moveWorker (.running item.call))
      rw [ran fuel enough,found]
      rfl
  | stopped =>
    rw [stage] at place
    simp only [State.stepWorker,Kernel.LiteDataThreads.State.stepWorker,place,stage]
    exact .none fun _ _ => rfl

theorem Shows.signal (shows : Shows linked state) : Shows (linked.pthreadCondSignal threadId) (state.pthreadCondSignal threadId) := by
  simp only [State.pthreadCondSignal,Kernel.LiteDataThreads.State.pthreadCondSignal,shows.workers]
  split
  · exact shows.moveWorker _
  · exact shows

theorem stepDispatcher_shows (choice : Bool) (shows : Shows linked state) (once : Once state) :
    Matches (size state) (fun fuel => linked.stepDispatcher fuel call choice) (state.stepDispatcher call choice) := by
  have place := congrFun shows.dispatchers call
  cases stage : state.dispatchers call with
  | making =>
    rw [stage] at place
    simp only [State.stepDispatcher,Kernel.LiteDataThreads.State.stepDispatcher,place,stage]
    exact .some (fun _ _ => rfl) (shows.moveDispatcher _)
  | choosing =>
    rw [stage] at place
    simp only [State.stepDispatcher,Kernel.LiteDataThreads.State.stepDispatcher,place,stage]
    cases first : state.getIdleDataThread with
    | none =>
      refine .some (fun fuel enough => ?_) shows
      rw [getIdle_shows shows enough,first]
      rfl
    | some threadId =>
      refine .some (fun fuel enough => ?_) (shows.moveDispatcher (.adding threadId))
      rw [getIdle_shows shows enough,first]
      rfl
  | adding threadId =>
    rw [stage] at place
    have absent : call ∉ state.processInfo.map ThreadProcessInfo.call := by
      intro member
      have placed := once.added call (List.mem_append_left _ member)
      rw [stage] at placed
      rcases placed with ⟨_,between | between⟩ | returned
      · cases between
      · cases between
      · cases returned
    obtain ⟨after,ran,kept⟩ := @addInfo_shows _ _ threadId call shows absent
    simp only [State.stepDispatcher,Kernel.LiteDataThreads.State.stepDispatcher,place,stage]
    refine .some (fun _ _ => ?_) (kept.moveDispatcher (.querying threadId))
    rw [ran]
    rfl
  | querying threadId =>
    rw [stage] at place
    simp only [State.stepDispatcher,Kernel.LiteDataThreads.State.stepDispatcher,place,stage]
    cases queried : state.queryThreadLockInfo threadId with
    | none =>
      refine .some (fun fuel enough => ?_) (shows.moveDispatcher .returned)
      rw [queryThreadLockInfo_shows shows enough,queried]
      rfl
    | some found =>
      refine .some (fun fuel enough => ?_) (shows.moveDispatcher (.waking threadId))
      rw [queryThreadLockInfo_shows shows enough,queried]
      rfl
  | waking threadId =>
    rw [stage] at place
    simp only [State.stepDispatcher,Kernel.LiteDataThreads.State.stepDispatcher,place,stage,shows.workers]
    split
    · exact .none fun _ _ => rfl
    · exact .some (fun _ _ => rfl) (shows.signal.moveDispatcher _)
  | returned =>
    rw [stage] at place
    simp only [State.stepDispatcher,Kernel.LiteDataThreads.State.stepDispatcher,place,stage]
    exact .none fun _ _ => rfl

theorem step_shows (shows : Shows linked state) (fresh : Fresh state) (once : Once state) (event : Event) :
    Matches (size state) (fun fuel => linked.step fuel event) (state.step event) := by
  cases event with
  | worker threadId choice => exact stepWorker_shows choice shows fresh
  | dispatcher call choice => exact stepDispatcher_shows choice shows once

end Steps

theorem shows_new (memory : Links Cell) : Shows (State.new memory) Kernel.LiteDataThreads.State.new := by
  refine ⟨?_,(fun _ member => by cases member),rfl,rfl,rfl⟩
  obtain ⟨after,ran,represented,_⟩ := @runAll_represents Cell _ [.init .processInfoList,.init .socketLockInfoList,.init .idleDataThreadsList]
    memory ∅ _ (represents_nothing _) rfl
  have same : (State.new memory).links = after := congrArg Prod.snd ran
  rw [same]
  convert represented using 1
  funext list
  cases list <;> rfl

section Runs
variable {memory : Links Cell} {events : List Event} {linked : State} {state : Plain}

/-- A run over linked memory shows a run over plain lists. -/
theorem shown_run (run : Reaches takes (State.new memory) events linked) :
    ∃ state, Reaches (fires Kernel.LiteDataThreads.State.step) Kernel.LiteDataThreads.State.new events state ∧
      Shows linked state ∧ Fresh state := by
  induction run with
  | nil => exact ⟨_,.nil,shows_new memory,fresh_new⟩
  | @snoc events before after event _ taken ih =>
    obtain ⟨state,reached,shows,fresh⟩ := ih
    obtain ⟨bound,taken⟩ := taken
    obtain ⟨outcome,same,related⟩ := step_shows shows fresh (LiteDataThreads.reached_once reached) event
    have done : some after = outcome := by
      rw [← taken (max bound (size state)+1) (by omega)]
      exact same _ (by omega)
    subst done
    cases plain : state.step event with
    | none =>
      rw [plain] at related
      cases related
    | some next =>
      rw [plain] at related
      cases related with
      | some kept => exact ⟨next,.snoc event reached plain,kept,step_fresh fresh plain⟩

/-- Every run over plain lists is one over linked memory. -/
theorem linked_run (memory : Links Cell) (run : Reaches (fires Kernel.LiteDataThreads.State.step) Kernel.LiteDataThreads.State.new events state) :
    ∃ linked, Reaches takes (State.new memory) events linked ∧ Shows linked state ∧ Fresh state := by
  induction run with
  | nil => exact ⟨_,.nil,shows_new memory,fresh_new⟩
  | @snoc events before after event earlier taken ih =>
    obtain ⟨linked,reached,shows,fresh⟩ := ih
    obtain ⟨outcome,same,related⟩ := step_shows shows fresh (LiteDataThreads.reached_once earlier) event
    rw [taken] at related
    cases related with
    | some kept => exact ⟨_,.snoc event reached ⟨size before,same⟩,kept,step_fresh fresh taken⟩

end Runs

/-- In any memory, the threads over linked lists can do exactly what they can do over plain lists, and then show the same state:
no step follows `NULL` or loops for ever, whatever the interleaving. -/
theorem linked_memory_refines (memory : Links Cell) (events : List Event) :
    (∀ linked, Reaches takes (State.new memory) events linked →
      ∃ state, Reaches (fires Kernel.LiteDataThreads.State.step) Kernel.LiteDataThreads.State.new events state ∧ Shows linked state) ∧
    ∀ state, Reaches (fires Kernel.LiteDataThreads.State.step) Kernel.LiteDataThreads.State.new events state →
      ∃ linked, Reaches takes (State.new memory) events linked ∧ Shows linked state := by
  constructor
  · intro linked run
    obtain ⟨state,reached,shows,_⟩ := shown_run run
    exact ⟨state,reached,shows⟩
  · intro state run
    obtain ⟨linked,reached,shows,_⟩ := linked_run memory run
    exact ⟨linked,reached,shows⟩

end CommunicationIpc.LinkedDataThreads
