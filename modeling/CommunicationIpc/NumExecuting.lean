import CommunicationIpc.Kernel.NumExecuting
import CommunicationIpc.Library.Run
import Mathlib.Data.List.Perm.Subperm
import Mathlib.Data.Fintype.EquivFin

/-! The count of the loops that handle a command, and the threads that wait until one of them is free. A waiting thread comes free as
long as fewer loops wait themselves than the pool has threads. -/
namespace CommunicationIpc.NumExecuting
open CommunicationIpc.Library CommunicationIpc.Kernel.NumExecuting
open CommunicationIpc.Kernel.ThreadPool (IPCWorkThreadPool MaxThreadNum)
open scoped List

/-- Each waiting thread with the loop that it waits in. -/
def keys (skeleton : IPCProcessSkeleton) : List (Nat × Option Nat) := skeleton.waiters.map fun waiter => (waiter.thread,waiter.inside)

/-- The loops whose handlers wait. -/
def insides (skeleton : IPCProcessSkeleton) : List Nat := (keys skeleton).filterMap Prod.snd

structure Placed (executing : List Nat) (keys : List (Nat × Option Nat)) : Prop where
  threads : (keys.map Prod.fst).Nodup
  insides : (keys.filterMap Prod.snd).Nodup
  within : ∀ loop ∈ keys.filterMap Prod.snd, loop ∈ executing

/-- The numbers are those of the loops and of the waiting threads. -/
structure Counted (skeleton : IPCProcessSkeleton) : Prop where
  executing : skeleton.numExecuting = skeleton.executing.length
  waiting : skeleton.numWaitingForThreads = skeleton.waiters.length
  positive : 1 ≤ skeleton.getMaxThreadNum
  distinct : skeleton.executing.Nodup
  placed : Placed skeleton.executing (keys skeleton)

/-- A thread that sleeps and was not notified has found no thread free, and since then only a larger pool can have brought one. -/
structure Asleep (skeleton : IPCProcessSkeleton) (waiter : Waiter) : Prop where
  full : skeleton.isFull = true ∨ waiter.raised = true
  awaited : skeleton.executing ≠ []

/-- The time that the threads are full since is the one that `LockForNumExecuting` has kept. -/
def Stamped (skeleton : IPCProcessSkeleton) : Prop :=
  skeleton.fullSince = if skeleton.isFull then some skeleton.numExecutingFullLastTime else none

structure Sound (skeleton : IPCProcessSkeleton) : Prop where
  counted : Counted skeleton
  asleep : ∀ waiter ∈ skeleton.waiters, waiter.notified = false → Asleep skeleton waiter
  stamped : Stamped skeleton

theorem isFull_iff (skeleton : IPCProcessSkeleton) : skeleton.isFull = true ↔ skeleton.getMaxThreadNum ≤ skeleton.numExecuting :=
  decide_eq_true_iff

theorem getMaxThreadNum_update (pool : IPCWorkThreadPool) (maxThreadNum : Int32) :
    pool.getMaxThreadNum ≤ (pool.updateMaxThreadNum maxThreadNum).getMaxThreadNum := by
  unfold IPCWorkThreadPool.updateMaxThreadNum
  dsimp only
  split
  · exact Int.le_refl _
  · simp only [IPCWorkThreadPool.getMaxThreadNum,CommunicationIpc.Kernel.ThreadPool.protoNum]
    omega

theorem Placed.subperm {executing : List Nat} {keys fewer : List (Nat × Option Nat)} (placed : Placed executing keys)
    (sub : fewer.Subperm keys) : Placed executing fewer := by
  obtain ⟨middle,perm,sublist⟩ := sub
  have inside := perm.filterMap Prod.snd
  refine ⟨?_,?_,?_⟩
  · rw [← (perm.map Prod.fst).nodup_iff]
    exact placed.threads.sublist (sublist.map Prod.fst)
  · rw [← inside.nodup_iff]
    exact placed.insides.sublist (sublist.filterMap Prod.snd)
  · intro loop member
    exact placed.within loop ((sublist.filterMap Prod.snd).subset (inside.mem_iff.mpr member))

/-! What the three functions do. -/

section Functions
variable {skeleton : IPCProcessSkeleton}

def lockTime (skeleton : IPCProcessSkeleton) : Nat :=
  if skeleton.numExecuting+1 = skeleton.getMaxThreadNum then skeleton.clock else skeleton.numExecutingFullLastTime

theorem lock_spec (skeleton : IPCProcessSkeleton) :
    skeleton.lockForNumExecuting =
      { skeleton with numExecuting := skeleton.numExecuting+1, numExecutingFullLastTime := lockTime skeleton } := by
  unfold IPCProcessSkeleton.lockForNumExecuting lockTime
  by_cases full : skeleton.numExecuting+1 = skeleton.getMaxThreadNum
  · rw [if_pos full]
    exact if_pos full
  · rw [if_neg full]
    exact if_neg full

/-- What an unlock writes to the log: how long the threads were full, when this ends it and was long. -/
def warning (skeleton : IPCProcessSkeleton) : List (Nat × Nat) :=
  let intervalTime := skeleton.clock-skeleton.numExecutingFullLastTime
  if skeleton.numExecuting = skeleton.getMaxThreadNum ∧ threadsFullTimeThreshold < intervalTime then [(skeleton.clock,intervalTime)] else []

def unlockTime (skeleton : IPCProcessSkeleton) : Nat :=
  if skeleton.numExecuting = skeleton.getMaxThreadNum then 0 else skeleton.numExecutingFullLastTime

theorem unlock_spec (waiting : skeleton.numWaitingForThreads = skeleton.waiters.length) :
    skeleton.unlockForNumExecuting =
      { skeleton with
        numExecuting := skeleton.numExecuting-1
        numExecutingFullLastTime := unlockTime skeleton
        waiters := skeleton.waiters.map ({ · with notified := true })
        warnings := skeleton.warnings ++ warning skeleton } := by
  have all : (if skeleton.numWaitingForThreads > 0 then skeleton.waiters.map ({ · with notified := true }) else skeleton.waiters) =
      skeleton.waiters.map ({ · with notified := true }) := by
    split
    · rfl
    · have none : skeleton.waiters = [] := List.length_eq_zero_iff.mp (by omega)
      rw [none]
      rfl
  have logged : (if threadsFullTimeThreshold < skeleton.clock-skeleton.numExecutingFullLastTime then
      skeleton.warnings ++ [(skeleton.clock,skeleton.clock-skeleton.numExecutingFullLastTime)] else skeleton.warnings) =
        skeleton.warnings ++ if threadsFullTimeThreshold < skeleton.clock-skeleton.numExecutingFullLastTime then
          [(skeleton.clock,skeleton.clock-skeleton.numExecutingFullLastTime)] else [] := by
    split
    · rfl
    · rw [List.append_nil]
  unfold IPCProcessSkeleton.unlockForNumExecuting warning unlockTime
  rw [all]
  by_cases full : skeleton.numExecuting = skeleton.getMaxThreadNum
  · simp only [full,if_true,true_and,gt_iff_lt,logged]
  · simp only [full,false_and,if_false,List.append_nil]

theorem wait_full {thread : Nat} {inside : Option Nat} (full : skeleton.isFull = true) :
    skeleton.waitForThread thread inside = { skeleton with waiters := skeleton.waiters ++ [⟨thread,inside,false,false⟩] } :=
  if_pos full

theorem wait_free {thread : Nat} {inside : Option Nat} (free : ¬ skeleton.isFull = true) :
    skeleton.waitForThread thread inside = { skeleton with numWaitingForThreads := skeleton.numWaitingForThreads-1 } :=
  if_neg free

end Functions

/-! What a step keeps. -/

section Step
variable {skeleton after : IPCProcessSkeleton}

theorem waits_iff {thread : Nat} : skeleton.waits thread = true ↔ thread ∈ (keys skeleton).map Prod.fst := by
  rw [IPCProcessSkeleton.waits,List.any_eq_true,keys,List.map_map,List.mem_map]
  simp only [decide_eq_true_iff,Function.comp]

theorem waitsInside_iff {loop : Nat} : skeleton.waitsInside loop = true ↔ loop ∈ insides skeleton := by
  rw [IPCProcessSkeleton.waitsInside,List.any_eq_true,insides,keys,List.filterMap_map,List.mem_filterMap]
  simp only [decide_eq_true_iff,Function.comp]

theorem keys_map (change : Waiter → Waiter)
    (same : ∀ waiter, (change waiter).thread = waiter.thread ∧ (change waiter).inside = waiter.inside) :
    (skeleton.waiters.map change).map (fun waiter => (waiter.thread,waiter.inside)) = keys skeleton := by
  rw [keys,List.map_map]
  apply List.map_congr_left
  intro waiter _
  exact Prod.ext (same waiter).1 (same waiter).2

/-- What the steps do, with what they ask for. -/
inductive Acts (skeleton : IPCProcessSkeleton) : Event → IPCProcessSkeleton → Prop
  | tick : Acts skeleton .tick { skeleton with clock := skeleton.clock+1 }
  | lock {loop : Nat} (new : loop ∉ skeleton.executing) : Acts skeleton (.lockForNumExecuting loop)
      { skeleton with
        numExecuting := skeleton.numExecuting+1
        numExecutingFullLastTime := lockTime skeleton
        executing := loop :: skeleton.executing }
  | unlock {loop : Nat} (old : loop ∈ skeleton.executing) (outside : loop ∉ insides skeleton) : Acts skeleton (.unlockForNumExecuting loop)
      { skeleton with
        numExecuting := skeleton.numExecuting-1
        numExecutingFullLastTime := unlockTime skeleton
        waiters := skeleton.waiters.map ({ · with notified := true })
        warnings := skeleton.warnings ++ warning skeleton
        executing := skeleton.executing.erase loop }
  | sleep {thread : Nat} {inside : Option Nat} (new : thread ∉ (keys skeleton).map Prod.fst)
      (free : ∀ loop, inside = some loop → loop ∈ skeleton.executing ∧ loop ∉ insides skeleton) (full : skeleton.isFull = true) :
      Acts skeleton (.blockUntilThreadAvailable thread inside)
        { skeleton with
          numWaitingForThreads := skeleton.numWaitingForThreads+1
          waiters := skeleton.waiters ++ [⟨thread,inside,false,false⟩] }
  | pass {thread : Nat} {inside : Option Nat} (free : ¬ skeleton.isFull = true) :
      Acts skeleton (.blockUntilThreadAvailable thread inside) skeleton
  | again {waiter : Waiter} (there : waiter ∈ skeleton.waiters) (full : skeleton.isFull = true) : Acts skeleton (.wake waiter.thread)
      { skeleton with waiters := skeleton.waiters.erase waiter ++ [⟨waiter.thread,waiter.inside,false,false⟩] }
  | leave {waiter : Waiter} (there : waiter ∈ skeleton.waiters) (free : ¬ skeleton.isFull = true) : Acts skeleton (.wake waiter.thread)
      { skeleton with
        waiters := skeleton.waiters.erase waiter
        numWaitingForThreads := skeleton.numWaitingForThreads-1 }
  | spurious {thread : Nat} : Acts skeleton (.spurious thread)
      { skeleton with
        waiters := skeleton.waiters.map fun waiter => if waiter.thread = thread then { waiter with notified := true } else waiter }
  | grow {maxThreadNum : MaxThreadNum}
      (more : skeleton.getMaxThreadNum < (skeleton.threadPool.updateMaxThreadNum maxThreadNum.value).getMaxThreadNum) :
      Acts skeleton (.setMaxWorkThread maxThreadNum)
        { skeleton with
          threadPool := skeleton.threadPool.updateMaxThreadNum maxThreadNum.value
          waiters := skeleton.waiters.map ({ · with raised := true }) }
  | stay {maxThreadNum : MaxThreadNum}
      (same : (skeleton.threadPool.updateMaxThreadNum maxThreadNum.value).getMaxThreadNum = skeleton.getMaxThreadNum) :
      Acts skeleton (.setMaxWorkThread maxThreadNum)
        { skeleton with threadPool := skeleton.threadPool.updateMaxThreadNum maxThreadNum.value }

theorem act_cases {event : Event} (waiting : skeleton.numWaitingForThreads = skeleton.waiters.length)
    (acted : skeleton.act event = some after) : Acts skeleton event after := by
  cases event with
  | tick =>
    cases acted
    exact .tick
  | lockForNumExecuting loop =>
    simp only [IPCProcessSkeleton.act,Option.ite_none_left_eq_some,lock_spec] at acted
    obtain ⟨new,same⟩ := acted
    cases same
    exact .lock new
  | unlockForNumExecuting loop =>
    simp only [IPCProcessSkeleton.act,Option.ite_none_right_eq_some,unlock_spec waiting,waitsInside_iff] at acted
    obtain ⟨⟨old,outside⟩,same⟩ := acted
    cases same
    exact .unlock old outside
  | blockUntilThreadAvailable thread inside =>
    simp only [IPCProcessSkeleton.act,Option.ite_none_left_eq_some,waits_iff] at acted
    obtain ⟨new,free,same⟩ := acted
    have loops : ∀ loop, inside = some loop → loop ∈ skeleton.executing ∧ loop ∉ insides skeleton := by
      rintro loop rfl
      simp only [Option.any_some,decide_eq_true_iff,not_or,not_not,waitsInside_iff] at free
      exact free
    by_cases full : skeleton.isFull = true
    · have slept := @wait_full { skeleton with numWaitingForThreads := skeleton.numWaitingForThreads+1 } thread inside full
      rw [slept] at same
      cases same
      exact .sleep new loops full
    · have passed := @wait_free { skeleton with numWaitingForThreads := skeleton.numWaitingForThreads+1 } thread inside full
      rw [passed] at same
      have back : { skeleton with numWaitingForThreads := skeleton.numWaitingForThreads+1-1 } = skeleton := by
        rw [Int.add_sub_cancel]
      cases same
      dsimp only
      rw [back]
      exact .pass full
  | wake thread =>
    obtain ⟨waiter,found,same⟩ := Option.bind_eq_some_iff.mp acted
    have there := List.mem_of_find?_eq_some found
    have named : waiter.thread = thread ∧ waiter.notified = true := by simpa using List.find?_some found
    rw [← named.1] at same ⊢
    by_cases full : skeleton.isFull = true
    · have slept := @wait_full { skeleton with waiters := skeleton.waiters.erase waiter } waiter.thread waiter.inside full
      rw [slept] at same
      cases same
      exact .again there full
    · have left := @wait_free { skeleton with waiters := skeleton.waiters.erase waiter } waiter.thread waiter.inside full
      rw [left] at same
      cases same
      exact .leave there full
  | spurious thread =>
    cases acted
    exact .spurious
  | setMaxWorkThread maxThreadNum =>
    simp only [IPCProcessSkeleton.act,Option.some.injEq] at acted
    by_cases more : skeleton.getMaxThreadNum <
        { skeleton with threadPool := skeleton.threadPool.updateMaxThreadNum maxThreadNum.value }.getMaxThreadNum
    · rw [if_pos more] at acted
      cases acted
      exact .grow more
    · rw [if_neg more] at acted
      cases acted
      have least := getMaxThreadNum_update skeleton.threadPool maxThreadNum.value
      exact .stay (Int.le_antisymm (Int.not_lt.mp more) least)

theorem keys_erase {waiter : Waiter} (there : waiter ∈ skeleton.waiters) :
    keys skeleton ~ (waiter.thread,waiter.inside) :: (skeleton.waiters.erase waiter).map fun waiter => (waiter.thread,waiter.inside) :=
  (List.perm_cons_erase there).map _

theorem placed_sleep {thread : Nat} {inside : Option Nat} (placed : Placed skeleton.executing (keys skeleton))
    (new : thread ∉ (keys skeleton).map Prod.fst)
    (free : ∀ loop, inside = some loop → loop ∈ skeleton.executing ∧ loop ∉ insides skeleton) :
    Placed skeleton.executing (keys skeleton ++ [(thread,inside)]) := by
  have threads : ((thread,inside) :: keys skeleton).map Prod.fst = thread :: (keys skeleton).map Prod.fst := rfl
  have within : Placed skeleton.executing ((thread,inside) :: keys skeleton) := by
    cases inside with
    | none => exact ⟨List.nodup_cons.mpr ⟨new,placed.threads⟩,placed.insides,placed.within⟩
    | some loop =>
      obtain ⟨old,unused⟩ := free loop rfl
      refine ⟨List.nodup_cons.mpr ⟨new,placed.threads⟩,List.nodup_cons.mpr ⟨unused,placed.insides⟩,?_⟩
      intro other member
      rcases List.mem_cons.mp member with same | later
      · rw [same]
        exact old
      · exact placed.within other later
  exact within.subperm (List.perm_append_singleton _ _).subperm

theorem counted_acts {event : Event} (counted : Counted skeleton) (acts : Acts skeleton event after) : Counted after := by
  have placed := counted.placed
  cases acts with
  | tick => exact ⟨counted.executing,counted.waiting,counted.positive,counted.distinct,placed⟩
  | lock new =>
    refine ⟨?_,counted.waiting,counted.positive,List.nodup_cons.mpr ⟨new,counted.distinct⟩,placed.threads,placed.insides,?_⟩
    · have executing := counted.executing
      rw [List.length_cons]
      dsimp only
      omega
    · exact fun loop member => List.mem_cons_of_mem _ (placed.within loop member)
  | unlock old outside =>
    rename_i loop
    have same : keys { skeleton with waiters := skeleton.waiters.map ({ · with notified := true }) } = keys skeleton :=
      keys_map _ fun waiter => ⟨rfl,rfl⟩
    refine ⟨?_,?_,counted.positive,counted.distinct.erase loop,?_⟩
    · have executing := counted.executing
      have length := List.length_erase_of_mem old
      have some := List.length_pos_of_mem old
      dsimp only
      omega
    · exact counted.waiting.trans (congrArg Nat.cast (List.length_map _).symm)
    · have kept : Placed (skeleton.executing.erase loop) (keys skeleton) := by
        refine ⟨placed.threads,placed.insides,?_⟩
        intro other member
        apply (List.mem_erase_of_ne _).mpr (placed.within other member)
        rintro rfl
        exact outside member
      rw [← same] at kept
      exact kept
  | sleep new free full =>
    rename_i thread inside
    refine ⟨counted.executing,?_,counted.positive,counted.distinct,?_⟩
    · have waiting := counted.waiting
      dsimp only
      rw [List.length_append,List.length_singleton]
      omega
    · have added := placed_sleep placed new free
      rw [keys,List.map_append]
      exact added
  | pass free => exact counted
  | again there full =>
    rename_i waiter
    have perm := keys_erase there
    refine ⟨counted.executing,?_,counted.positive,counted.distinct,?_⟩
    · have waiting := counted.waiting
      have length := List.length_erase_of_mem there
      have some := List.length_pos_of_mem there
      dsimp only
      rw [List.length_append,List.length_singleton]
      omega
    · rw [keys,List.map_append]
      exact placed.subperm ((List.perm_append_singleton _ _).trans perm.symm).subperm
  | leave there free =>
    have perm := keys_erase there
    refine ⟨counted.executing,?_,counted.positive,counted.distinct,?_⟩
    · have waiting := counted.waiting
      have length := List.length_erase_of_mem there
      have some := List.length_pos_of_mem there
      dsimp only
      omega
    · exact placed.subperm ((List.sublist_cons_self _ _).subperm.trans perm.symm.subperm)
  | spurious =>
    rename_i thread
    have same := @keys_map skeleton (fun waiter => if waiter.thread = thread then { waiter with notified := true } else waiter)
      fun waiter => by split <;> exact ⟨rfl,rfl⟩
    refine ⟨counted.executing,?_,counted.positive,counted.distinct,?_⟩
    · exact counted.waiting.trans (congrArg Nat.cast (List.length_map _).symm)
    · rw [← same] at placed
      exact placed
  | grow more =>
    have same := @keys_map skeleton ({ · with raised := true }) fun waiter => ⟨rfl,rfl⟩
    refine ⟨counted.executing,?_,Int.le_trans counted.positive (Int.le_of_lt more),counted.distinct,?_⟩
    · exact counted.waiting.trans (congrArg Nat.cast (List.length_map _).symm)
    · rw [← same] at placed
      exact placed
  | stay same =>
    refine ⟨counted.executing,counted.waiting,?_,counted.distinct,placed⟩
    have positive := counted.positive
    rw [← same] at positive
    exact positive

theorem asleep_new {waiter : Waiter} (counted : Counted skeleton) (full : skeleton.isFull = true) : Asleep skeleton waiter := by
  refine ⟨.inl full,?_⟩
  intro none
  have least := (isFull_iff skeleton).mp full
  have positive := counted.positive
  rw [counted.executing,none,List.length_nil] at least
  omega

theorem asleep_acts {event : Event} (counted : Counted skeleton)
    (asleep : ∀ waiter ∈ skeleton.waiters, waiter.notified = false → Asleep skeleton waiter) (acts : Acts skeleton event after) :
    ∀ waiter ∈ after.waiters, waiter.notified = false → Asleep after waiter := by
  intro waiter member silent
  cases acts with
  | tick =>
    obtain ⟨full,awaited⟩ := asleep waiter member silent
    exact ⟨full,awaited⟩
  | lock new =>
    obtain ⟨full,awaited⟩ := asleep waiter member silent
    refine ⟨full.imp_left ?_,List.cons_ne_nil _ _⟩
    intro full
    rw [isFull_iff] at full ⊢
    exact Int.le_trans full (Int.le_add_one (Int.le_refl _))
  | unlock old outside =>
    obtain ⟨before,-,rfl⟩ := List.mem_map.mp member
    cases silent
  | sleep new free full =>
    rcases List.mem_append.mp member with early | late
    · obtain ⟨full,awaited⟩ := asleep waiter early silent
      exact ⟨full,awaited⟩
    · obtain ⟨full,awaited⟩ := @asleep_new skeleton waiter counted full
      exact ⟨full,awaited⟩
  | pass free => exact asleep waiter member silent
  | again there full =>
    rcases List.mem_append.mp member with early | late
    · obtain ⟨full,awaited⟩ := asleep waiter (List.mem_of_mem_erase early) silent
      exact ⟨full,awaited⟩
    · obtain ⟨full,awaited⟩ := @asleep_new skeleton waiter counted full
      exact ⟨full,awaited⟩
  | leave there free =>
    obtain ⟨full,awaited⟩ := asleep waiter (List.mem_of_mem_erase member) silent
    exact ⟨full,awaited⟩
  | spurious =>
    obtain ⟨before,early,rfl⟩ := List.mem_map.mp member
    split at silent
    · cases silent
    · rename_i other
      rw [if_neg other]
      obtain ⟨full,awaited⟩ := asleep before early silent
      exact ⟨full,awaited⟩
  | grow more =>
    obtain ⟨before,early,rfl⟩ := List.mem_map.mp member
    exact ⟨.inr rfl,(asleep before early silent).awaited⟩
  | stay same =>
    obtain ⟨full,awaited⟩ := asleep waiter member silent
    refine ⟨full.imp_left ?_,awaited⟩
    intro full
    rw [isFull_iff] at full ⊢
    rw [← same] at full
    exact full

/-- Where the threads were full and still are, the time is kept; where they were not, it is the time of the step. -/
theorem stamp_acts {event : Event} (acts : Acts skeleton event after) (full : after.isFull = true) :
    after.fullSince = skeleton.fullSince ∧
      after.numExecutingFullLastTime = if skeleton.isFull then skeleton.numExecutingFullLastTime else skeleton.clock := by
  have kept (time : after.numExecutingFullLastTime = skeleton.numExecutingFullLastTime) (before : skeleton.isFull = true) :
      after.numExecutingFullLastTime = if skeleton.isFull then skeleton.numExecutingFullLastTime else skeleton.clock := by
    rw [if_pos before]
    exact time
  cases acts with
  | tick => exact ⟨rfl,kept rfl full⟩
  | lock new =>
    refine ⟨rfl,?_⟩
    have reached := (isFull_iff _).mp full
    have reached : skeleton.getMaxThreadNum ≤ skeleton.numExecuting+1 := reached
    dsimp only
    rw [lockTime]
    by_cases before : skeleton.isFull = true
    · have above := (isFull_iff skeleton).mp before
      rw [if_pos before,if_neg (by omega)]
    · have below := mt (isFull_iff skeleton).mpr before
      rw [if_neg before,if_pos (by omega)]
  | unlock old outside =>
    have reached := (isFull_iff _).mp full
    have reached : skeleton.getMaxThreadNum ≤ skeleton.numExecuting-1 := reached
    refine ⟨rfl,kept ?_ ((isFull_iff skeleton).mpr (by omega))⟩
    exact if_neg (by omega)
  | sleep new free full => exact ⟨rfl,kept rfl full⟩
  | pass free => exact absurd full free
  | again there full => exact ⟨rfl,kept rfl full⟩
  | leave there free => exact absurd full free
  | spurious => exact ⟨rfl,kept rfl full⟩
  | grow more =>
    have reached := (isFull_iff _).mp full
    exact ⟨rfl,kept rfl ((isFull_iff skeleton).mpr (Int.le_trans (Int.le_of_lt more) reached))⟩
  | stay same =>
    have reached := (isFull_iff _).mp full
    exact ⟨rfl,kept rfl ((isFull_iff skeleton).mpr (Int.le_trans (Int.le_of_eq same.symm) reached))⟩

theorem step_acts {event : Event} {next : IPCProcessSkeleton} (waiting : skeleton.numWaitingForThreads = skeleton.waiters.length)
    (taken : skeleton.step event = some next) : ∃ after, Acts skeleton event after ∧ next = skeleton.watch after := by
  obtain ⟨after,acted,rfl⟩ := Option.map_eq_some_iff.mp taken
  exact ⟨after,act_cases waiting acted,rfl⟩

theorem sound_step {event : Event} {next : IPCProcessSkeleton} (sound : Sound skeleton) (taken : skeleton.step event = some next) :
    Sound next := by
  obtain ⟨after,acts,rfl⟩ := step_acts sound.counted.waiting taken
  obtain ⟨executing,waiting,positive,distinct,placed⟩ := counted_acts sound.counted acts
  refine ⟨⟨executing,waiting,positive,distinct,placed⟩,?_,?_⟩
  · intro waiter member silent
    obtain ⟨full,awaited⟩ := asleep_acts sound.counted sound.asleep acts waiter member silent
    exact ⟨full,awaited⟩
  · have same : (skeleton.watch after).isFull = after.isFull := rfl
    rw [Stamped,same]
    by_cases full : after.isFull = true
    · obtain ⟨-,time⟩ := stamp_acts acts full
      have stamped := sound.stamped
      rw [Stamped] at stamped
      simp only [IPCProcessSkeleton.watch,if_pos full,time]
      by_cases before : skeleton.isFull = true
      · rw [if_pos before] at stamped
        rw [if_pos before,if_pos before,stamped]
      · rw [if_neg before,if_neg before]
    · simp only [IPCProcessSkeleton.watch,if_neg full]

theorem sound_new (maxThreadNum : MaxThreadNum) : Sound (.new maxThreadNum) := by
  have positive := Int32.lt_iff_toInt_lt.mp maxThreadNum.positive
  have zero : (0 : Int32).toInt = 0 := by decide
  rw [zero] at positive
  have least : 1 ≤ (IPCProcessSkeleton.new maxThreadNum).getMaxThreadNum := by
    simp only [IPCProcessSkeleton.getMaxThreadNum,IPCProcessSkeleton.new,IPCWorkThreadPool.getMaxThreadNum,IPCWorkThreadPool.new,
      CommunicationIpc.Kernel.ThreadPool.protoNum,CommunicationIpc.Kernel.ThreadPool.idleSpawnActiveNum]
    omega
  refine ⟨⟨rfl,rfl,least,List.nodup_nil,List.nodup_nil,List.nodup_nil,?_⟩,?_,?_⟩
  · intro loop member
    cases member
  · intro waiter member
    cases member
  · have free : ¬ (IPCProcessSkeleton.new maxThreadNum).isFull = true := by
      rw [isFull_iff]
      have none : (IPCProcessSkeleton.new maxThreadNum).numExecuting = 0 := rfl
      omega
    rw [Stamped,if_neg free]
    rfl

end Step

theorem sound_run {maxThreadNum : MaxThreadNum} {events : List Event} {skeleton : IPCProcessSkeleton}
    (run : Reaches (fires IPCProcessSkeleton.step) (.new maxThreadNum) events skeleton) : Sound skeleton :=
  run.invariant Sound (sound_new maxThreadNum) fun _ _ _ sound taken => sound_step sound taken

/-- The end of a time in which the threads were full, which an unlock of the last loop over the limit brings. -/
def fullTime (skeleton next : IPCProcessSkeleton) : List (Nat × Nat) :=
  match skeleton.fullSince with
  | some since =>
    if next.isFull = false ∧ threadsFullTimeThreshold < skeleton.clock-since then [(skeleton.clock,skeleton.clock-since)] else []
  | none => []

theorem warning_eq {skeleton : IPCProcessSkeleton} (stamped : Stamped skeleton) {next : IPCProcessSkeleton}
    (max : next.getMaxThreadNum = skeleton.getMaxThreadNum) (less : next.numExecuting = skeleton.numExecuting-1) :
    warning skeleton = fullTime skeleton next := by
  rw [Stamped] at stamped
  by_cases full : skeleton.isFull = true
  · rw [if_pos full] at stamped
    have reached := (isFull_iff skeleton).mp full
    have ends : skeleton.numExecuting = skeleton.getMaxThreadNum ↔ next.isFull = false := by
      rw [← Bool.not_eq_true,isFull_iff,max,less]
      omega
    simp only [warning,fullTime,stamped,ends]
  · rw [if_neg full] at stamped
    have below := mt (isFull_iff skeleton).mpr full
    simp only [warning,fullTime,stamped]
    exact if_neg fun both => by omega

/-- The counts are right in every run. Who sleeps and is not notified has found the threads full, can have missed nothing but a larger
pool, and some loop is there whose end notifies it; and a warning tells how long the threads were full without a break. -/
theorem num_executing {maxThreadNum : MaxThreadNum} {events : List Event} {skeleton : IPCProcessSkeleton}
    (run : Reaches (fires IPCProcessSkeleton.step) (.new maxThreadNum) events skeleton) :
    skeleton.numExecuting = skeleton.executing.length ∧ skeleton.numWaitingForThreads = skeleton.waiters.length ∧
      (∀ waiter ∈ skeleton.waiters, waiter.notified = false →
        (skeleton.isFull = true ∨ waiter.raised = true) ∧ skeleton.executing ≠ []) ∧
      ∀ event next, skeleton.step event = some next → next.warnings = skeleton.warnings ++
        match event with
        | .unlockForNumExecuting _ => fullTime skeleton next
        | _ => [] := by
  have sound := sound_run run
  refine ⟨sound.counted.executing,sound.counted.waiting,?_,?_⟩
  · intro waiter member silent
    obtain ⟨full,awaited⟩ := sound.asleep waiter member silent
    exact ⟨full,awaited⟩
  · intro event next taken
    obtain ⟨after,acts,rfl⟩ := step_acts sound.counted.waiting taken
    cases acts with
    | unlock old outside => exact congrArg (skeleton.warnings ++ ·) (warning_eq sound.stamped rfl rfl)
    | _ => exact (List.append_nil _).symm

def one : MaxThreadNum := ⟨1,by decide,by decide⟩

def longFull : List Event := [.lockForNumExecuting 7,.lockForNumExecuting 8] ++ List.replicate 501 .tick

/-- Two threads, both busy for half a second and more. -/
theorem num_executing_long :
    ∃ skeleton, Reaches (fires IPCProcessSkeleton.step) (.new one) longFull skeleton ∧
      ∃ next, skeleton.step (.unlockForNumExecuting 7) = some next ∧ next.warnings = [(501,501)] := by
  obtain ⟨skeleton,run,test⟩ := Reaches.exists_of_foldlM IPCProcessSkeleton.step (.new one) longFull
    (fun skeleton => (skeleton.step (.unlockForNumExecuting 7)).any fun next =>
      decide (skeleton.warnings = [] ∧ fullTime skeleton next = [(501,501)])) (by decide +kernel)
  obtain ⟨next,taken,both⟩ := (Option.any_eq_true _ _).mp test
  obtain ⟨none,long⟩ := of_decide_eq_true both
  refine ⟨skeleton,run,next,taken,?_⟩
  rw [(num_executing run).2.2.2 _ next taken,none]
  exact long

/-! When a waiting thread comes free. -/

/-- The pool gets larger than it is. -/
def enlarges (skeleton : IPCProcessSkeleton) : Event → Bool
  | .setMaxWorkThread maxThreadNum =>
    skeleton.getMaxThreadNum < (skeleton.threadPool.updateMaxThreadNum maxThreadNum.value).getMaxThreadNum
  | _ => false

/-- Nor does a wait end that nobody has ended. -/
def isPlain (skeleton : IPCProcessSkeleton) : Event → Bool
  | .spurious _ => false
  | event => !enlarges skeleton event

section Ends
variable {skeleton next : IPCProcessSkeleton}

theorem enlarges_of_plain {event : Event} (plain : isPlain skeleton event = true) : enlarges skeleton event = false := by
  cases event with
  | setMaxWorkThread maxThreadNum => exact (Bool.not_eq_true' _).mp plain
  | _ => rfl

theorem insides_le (counted : Counted skeleton) : (insides skeleton).length ≤ skeleton.executing.length :=
  (counted.placed.insides.subperm counted.placed.within).length_le

theorem full_of_insides (sound : Sound next) {max : Int} (same : next.getMaxThreadNum = max) {before : List (Nat × Option Nat)}
    (distinct : (before.filterMap Prod.snd).Nodup) (many : max ≤ (before.filterMap Prod.snd).length) (stay : before ⊆ keys next) :
    next.isFull = true := by
  have more : (before.filterMap Prod.snd).length ≤ (insides next).length :=
    (distinct.subperm (List.filterMap_subset Prod.snd stay)).length_le
  have least := insides_le sound.counted
  rw [isFull_iff,same,sound.counted.executing]
  omega

theorem keys_step {event : Event} (sound : Sound skeleton) (full : skeleton.isFull = true) (fixed : enlarges skeleton event = false)
    (taken : skeleton.step event = some next) : next.getMaxThreadNum = skeleton.getMaxThreadNum ∧ keys skeleton ⊆ keys next := by
  obtain ⟨after,acts,rfl⟩ := step_acts sound.counted.waiting taken
  cases acts with
  | tick => exact ⟨rfl,List.Subset.refl _⟩
  | lock new => exact ⟨rfl,List.Subset.refl _⟩
  | unlock old outside =>
    have same := @keys_map skeleton ({ · with notified := true }) fun waiter => ⟨rfl,rfl⟩
    refine ⟨rfl,?_⟩
    intro key member
    rw [← same] at member
    exact member
  | sleep new free full =>
    refine ⟨rfl,?_⟩
    rw [keys,keys,IPCProcessSkeleton.watch,List.map_append]
    exact List.subset_append_left _ _
  | pass free => exact ⟨rfl,List.Subset.refl _⟩
  | again there full =>
    refine ⟨rfl,?_⟩
    have perm := (keys_erase there).trans (List.perm_append_singleton _ _).symm
    have added := perm.subset
    rw [keys,keys,IPCProcessSkeleton.watch,List.map_append]
    exact added
  | leave there free => exact absurd full free
  | spurious =>
    rename_i thread
    have same := @keys_map skeleton (fun waiter => if waiter.thread = thread then { waiter with notified := true } else waiter)
      fun waiter => by split <;> exact ⟨rfl,rfl⟩
    refine ⟨rfl,?_⟩
    intro key member
    rw [← same] at member
    exact member
  | grow more => exact absurd (decide_eq_true more) (Bool.eq_false_iff.mp fixed)
  | stay same => exact ⟨same,List.Subset.refl _⟩

/-- As many loops wait as the pool has threads: nobody comes free. -/
theorem wait_stays (sound : Sound skeleton) (many : skeleton.getMaxThreadNum ≤ (insides skeleton).length) {events : List Event}
    (run : Reaches (guarded (fires IPCProcessSkeleton.step) fun before event => enlarges before event = false) skeleton events next) :
    keys skeleton ⊆ keys next := by
  have kept : Sound next ∧ next.getMaxThreadNum = skeleton.getMaxThreadNum ∧ keys skeleton ⊆ keys next := by
    refine run.invariant (fun next => Sound next ∧ next.getMaxThreadNum = skeleton.getMaxThreadNum ∧ keys skeleton ⊆ keys next)
      ⟨sound,rfl,List.Subset.refl _⟩ ?_
    rintro before event after ⟨held,max,stay⟩ ⟨fixed,taken⟩
    have full := full_of_insides held max sound.counted.placed.insides many stay
    obtain ⟨same,more⟩ := keys_step held full fixed taken
    exact ⟨sound_step held taken,same.trans max,List.Subset.trans stay more⟩
  exact kept.2.2

theorem unlock_fires {loop : Nat} (sound : Sound skeleton) (old : loop ∈ skeleton.executing) (outside : loop ∉ insides skeleton) :
    ∃ next, skeleton.step (.unlockForNumExecuting loop) = some next ∧ next.executing = skeleton.executing.erase loop ∧
      keys next = keys skeleton ∧ next.getMaxThreadNum = skeleton.getMaxThreadNum ∧ ∀ waiter ∈ next.waiters, waiter.notified = true := by
  have free : ¬ skeleton.waitsInside loop = true := mt waitsInside_iff.mp outside
  refine ⟨_,congrArg (Option.map skeleton.watch) (if_pos ⟨old,free⟩),rfl,?_⟩
  rw [unlock_spec sound.counted.waiting]
  refine ⟨keys_map _ fun waiter => ⟨rfl,rfl⟩,rfl,?_⟩
  intro waiter member
  obtain ⟨before,-,rfl⟩ := List.mem_map.mp member
  rfl

/-- The loops that do not wait come to their ends, one after the other. -/
theorem unlock_all (sound : Sound skeleton) (loops : List Nat) (distinct : loops.Nodup)
    (old : ∀ loop ∈ loops, loop ∈ skeleton.executing ∧ loop ∉ insides skeleton) :
    ∃ next, Reaches (guarded (fires IPCProcessSkeleton.step) fun before event => isPlain before event = true) skeleton
        (loops.map .unlockForNumExecuting) next ∧
      Sound next ∧ keys next = keys skeleton ∧ next.getMaxThreadNum = skeleton.getMaxThreadNum ∧
      next.executing.length+loops.length = skeleton.executing.length ∧
      (∀ loop ∈ skeleton.executing, loop ∉ loops → loop ∈ next.executing) ∧
      (loops ≠ [] → ∀ waiter ∈ next.waiters, waiter.notified = true) := by
  induction loops using List.reverseRecOn with
  | nil => exact ⟨skeleton,.nil,sound,rfl,rfl,rfl,fun loop member _ => member,fun some => absurd rfl some⟩
  | append_singleton loops loop ih =>
    obtain ⟨before,single,apart⟩ := List.nodup_append.mp distinct
    obtain ⟨middle,run,held,same,max,length,stay,-⟩ := ih before fun other member => old other (List.mem_append_left _ member)
    obtain ⟨there,outside⟩ := old loop (List.mem_append_right _ List.mem_cons_self)
    have new : loop ∉ loops := fun member => apart loop member loop List.mem_cons_self rfl
    have unused : loop ∉ insides middle := by
      rw [insides,same]
      exact outside
    obtain ⟨last,taken,executing,kept,max',notified⟩ := unlock_fires held (stay loop there new) unused
    refine ⟨last,?_,sound_step held taken,kept.trans same,max'.trans max,?_,?_,fun _ => notified⟩
    · rw [List.map_append]
      exact .snoc _ run ⟨rfl,taken⟩
    · have less := List.length_erase_of_mem (stay loop there new)
      have some := List.length_pos_of_mem (stay loop there new)
      rw [executing,List.length_append,List.length_singleton]
      omega
    · intro other member absent
      rw [executing]
      apply (List.mem_erase_of_ne _).mpr (stay other member fun among => absent (List.mem_append_left _ among))
      rintro rfl
      exact absent (List.mem_append_right _ List.mem_cons_self)

theorem wake_fires {waiter : Waiter} (sound : Sound skeleton) (there : waiter ∈ skeleton.waiters) (notified : waiter.notified = true)
    (free : ¬ skeleton.isFull = true) :
    ∃ next, skeleton.step (.wake waiter.thread) = some next ∧ ∀ other ∈ next.waiters, other.thread ≠ waiter.thread := by
  have some : (skeleton.waiters.find? fun other => other.thread = waiter.thread ∧ other.notified).isSome := by
    rw [List.find?_isSome]
    exact ⟨waiter,there,decide_eq_true ⟨rfl,notified⟩⟩
  obtain ⟨found,search⟩ := Option.isSome_iff_exists.mp some
  have among := List.mem_of_find?_eq_some search
  have named : found.thread = waiter.thread ∧ found.notified = true := by simpa using List.find?_some search
  have left := @wait_free { skeleton with waiters := skeleton.waiters.erase found } waiter.thread found.inside free
  have acted : skeleton.act (.wake waiter.thread) = Option.some { skeleton with
      waiters := skeleton.waiters.erase found, numWaitingForThreads := skeleton.numWaitingForThreads-1 } := by
    rw [IPCProcessSkeleton.act,search]
    exact congrArg Option.some left
  refine ⟨_,congrArg (Option.map skeleton.watch) acted,?_⟩
  intro other member same
  have distinct := ((keys_erase among).map Prod.fst).nodup_iff.mp sound.counted.placed.threads
  rw [List.map_cons,List.nodup_cons,List.map_map] at distinct
  apply distinct.1
  rw [named.1,← same]
  exact List.mem_map_of_mem member

/-- Fewer loops wait than the pool has threads: the others end, and this notifies the thread. -/
theorem wait_leaves (sound : Sound skeleton) (few : (insides skeleton).length < skeleton.getMaxThreadNum) {waiter : Waiter}
    (there : waiter ∈ skeleton.waiters) :
    ∃ events last, Reaches (guarded (fires IPCProcessSkeleton.step) fun before event => isPlain before event = true) skeleton events last ∧
      ∀ other ∈ last.waiters, other.thread ≠ waiter.thread := by
  -- one more command comes in, so that some loop ends in any case
  obtain ⟨loop,new⟩ := Infinite.exists_notMem_finset skeleton.executing.toFinset
  rw [List.mem_toFinset] at new
  obtain ⟨middle,locked,executing,same,max⟩ : ∃ middle, skeleton.step (.lockForNumExecuting loop) = some middle ∧
      middle.executing = loop :: skeleton.executing ∧ keys middle = keys skeleton ∧
        middle.getMaxThreadNum = skeleton.getMaxThreadNum := by
    refine ⟨_,congrArg (Option.map skeleton.watch) (if_neg new),rfl,?_⟩
    rw [lock_spec]
    exact ⟨rfl,rfl⟩
  have held := sound_step sound locked
  have within : insides middle = insides skeleton := by rw [insides,insides,same]
  have outside : loop ∉ insides middle := by
    rw [within]
    exact fun member => new (sound.counted.placed.within loop member)
  let loops := middle.executing.filter fun other => other ∉ insides middle
  obtain ⟨next,run,kept,stay,max',length,-,notified⟩ := unlock_all held loops (held.counted.distinct.filter _)
    fun other member => ⟨List.mem_of_mem_filter member,of_decide_eq_true (List.mem_filter.mp member).2⟩
  have here : loop ∈ loops := by
    rw [List.mem_filter,executing]
    exact ⟨List.mem_cons_self,decide_eq_true outside⟩
  have rest : (middle.executing.filter fun other => !decide (other ∉ insides middle)).length ≤ (insides middle).length := by
    apply ((held.counted.distinct.filter _).subperm _).length_le
    intro other member
    simpa using (List.mem_filter.mp member).2
  have total := List.length_eq_length_filter_add (l := middle.executing) fun other => decide (other ∉ insides middle)
  have free : ¬ next.isFull = true := by
    rw [isFull_iff,max',max,kept.counted.executing]
    have same_length := congrArg List.length within
    have width : loops.length = (middle.executing.filter fun other => decide (other ∉ insides middle)).length := rfl
    omega
  have awaits : (waiter.thread,waiter.inside) ∈ keys next := by
    rw [stay,same]
    exact List.mem_map_of_mem there
  obtain ⟨other,among,pair⟩ := List.mem_map.mp awaits
  have named : other.thread = waiter.thread := congrArg Prod.fst pair
  obtain ⟨last,woken,gone⟩ := wake_fires kept among (notified (List.ne_nil_of_mem here) other among) free
  rw [named] at gone
  have first : Reaches (guarded (fires IPCProcessSkeleton.step) fun before event => isPlain before event = true) skeleton
      [.lockForNumExecuting loop] middle := .single ⟨rfl,locked⟩
  have woken : guarded (fires IPCProcessSkeleton.step) (fun before event => isPlain before event = true) next (.wake other.thread) last :=
    ⟨rfl,woken⟩
  exact ⟨_,last,.snoc _ (first.append run) woken,gone⟩

end Ends

/-- A thread in `BlockUntilThreadAvailable` can come free, and without a spurious wake-up, exactly if fewer handlers wait there than the
pool has threads. Where as many wait, no order of steps brings one of the waiting threads back until the pool grows. -/
theorem waiting_thread_comes_free {maxThreadNum : MaxThreadNum} {events : List Event} {skeleton : IPCProcessSkeleton}
    (run : Reaches (fires IPCProcessSkeleton.step) (.new maxThreadNum) events skeleton) {waiter : Waiter}
    (there : waiter ∈ skeleton.waiters) :
    ((insides skeleton).length < skeleton.getMaxThreadNum ↔
      ∃ more next, Reaches (guarded (fires IPCProcessSkeleton.step) fun before event => isPlain before event = true) skeleton more next ∧
        ∀ other ∈ next.waiters, other.thread ≠ waiter.thread) ∧
      (skeleton.getMaxThreadNum ≤ (insides skeleton).length → ∀ more next,
        Reaches (guarded (fires IPCProcessSkeleton.step) fun before event => enlarges before event = false) skeleton more next →
          ∃ other ∈ next.waiters, other.thread = waiter.thread) := by
  have sound := sound_run run
  have stays (many : skeleton.getMaxThreadNum ≤ (insides skeleton).length) {more : List Event} {next : IPCProcessSkeleton}
      (later : Reaches (guarded (fires IPCProcessSkeleton.step) fun before event => enlarges before event = false) skeleton more next) :
      ∃ other ∈ next.waiters, other.thread = waiter.thread := by
    have awaits : (waiter.thread,waiter.inside) ∈ keys skeleton := List.mem_map_of_mem there
    obtain ⟨other,among,pair⟩ := List.mem_map.mp (wait_stays sound many later awaits)
    exact ⟨other,among,congrArg Prod.fst pair⟩
  refine ⟨⟨fun few => wait_leaves sound few there,?_⟩,fun many more next later => stays many later⟩
  rintro ⟨more,next,later,gone⟩
  by_contra many
  have fixed : Reaches (guarded (fires IPCProcessSkeleton.step) fun before event => enlarges before event = false) skeleton more next := by
    refine later.mono ?_
    rintro before event after ⟨plain,taken⟩
    exact ⟨enlarges_of_plain plain,taken⟩
  obtain ⟨other,among,same⟩ := stays (Int.not_lt.mp many) fixed
  exact gone other among same

def bothWait : List Event :=
  [.lockForNumExecuting 7,.lockForNumExecuting 8,.blockUntilThreadAvailable 70 (some 7),.blockUntilThreadAvailable 80 (some 8)]

/-- Both threads of a pool wait for a thread of it. -/
theorem waiting_thread_comes_free_deadlock :
    ∃ skeleton, Reaches (fires IPCProcessSkeleton.step) (.new one) bothWait skeleton ∧ ∀ more next,
      Reaches (guarded (fires IPCProcessSkeleton.step) fun before event => enlarges before event = false) skeleton more next →
        ∃ other ∈ next.waiters, other.thread = 70 := by
  obtain ⟨skeleton,run,test⟩ := Reaches.exists_of_foldlM IPCProcessSkeleton.step (.new one) bothWait
    (fun skeleton => decide (⟨70,some 7,false,false⟩ ∈ skeleton.waiters ∧ skeleton.getMaxThreadNum ≤ (insides skeleton).length))
    (by decide +kernel)
  obtain ⟨there,many⟩ := of_decide_eq_true test
  exact ⟨skeleton,run,(waiting_thread_comes_free run there).2 many⟩

end CommunicationIpc.NumExecuting
