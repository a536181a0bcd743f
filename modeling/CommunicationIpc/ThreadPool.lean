import CommunicationIpc.Kernel.ThreadPool
import CommunicationIpc.Library.Entries
import CommunicationIpc.Library.Run

/-! When the idle counts of the thread pool and its registered threads make up the maximum. `SpawnThread` takes the slot and enters the
thread before it knows the protocol and whether the thread starts, and gives neither back. -/
namespace CommunicationIpc.ThreadPool
open CommunicationIpc.Library CommunicationIpc.Kernel.ThreadPool

/-- The live threads of a protocol in the table. -/
def registered (threads : List (List UInt8 × IPCWorkThread)) (proto : Int32) : Nat :=
  threads.countP fun entry => entry.2.live && entry.2.proto = proto

structure Balanced (pool : IPCWorkThreadPool) : Prop where
  threads : pool.idleThreadNum+registered pool.threads ifProtDefault = pool.getMaxThreadNum
  socketThreads : pool.idleSocketThreadNum+registered pool.threads ifProtDatabus = pool.getSocketTotalThreadNum
  idle : 0 ≤ pool.idleThreadNum
  idleSocket : 0 ≤ pool.idleSocketThreadNum

structure Unchanged (before after : IPCWorkThreadPool) : Prop where
  threads : after.threads = before.threads
  maxThreadNum : after.maxThreadNum = before.maxThreadNum
  idleThreadNum : after.idleThreadNum = before.idleThreadNum
  idleSocketThreadNum : after.idleSocketThreadNum = before.idleSocketThreadNum

/-- Where `SpawnThread` returns false it leaves the counts and the table as they were. -/
def RefusesUnchanged (pool : IPCWorkThreadPool) : Event → Prop
  | .spawnThread policy proto allocated starting =>
    (pool.spawnThread policy proto allocated starting).2 = false → Unchanged pool (pool.spawnThread policy proto allocated starting).1
  | _ => True

def Succeeds (starting : Starting) : Prop :=
  starting.process = true ∧ starting.threadStopFlag = false ∧ starting.param = true ∧ starting.created = true ∧
    starting.detached = true

/-- A thread that comes into the table has a protocol with a count, and starts. -/
def Met (pool : IPCWorkThreadPool) : Event → Prop
  | .spawnThread _ proto allocated starting => pool.exceedsLimit proto = false → pool.isThread (pool.nextName proto) = false →
    allocated = true → (proto = ifProtDefault ∨ proto = ifProtDatabus) ∧ Succeeds starting
  | _ => True

section Spawn
variable {pool : IPCWorkThreadPool} {policy proto : Int32} {allocated : Bool} {starting : Starting}

theorem start_spec (thread : IPCWorkThread) (policy proto : Int32) (starting : Starting) :
    (thread.start policy proto starting).2 = true ↔ Succeeds starting := by
  unfold IPCWorkThread.start Succeeds
  cases starting.process <;> cases starting.threadStopFlag <;> cases starting.param <;> cases starting.created <;>
    cases starting.detached <;> simp

theorem start_live (succeeds : Succeeds starting) (thread : IPCWorkThread) :
    thread.start policy proto starting = (⟨proto,policy,true⟩,true) := by
  obtain ⟨process,going,param,created,detached⟩ := succeeds
  unfold IPCWorkThread.start
  rw [process,going,param,created,detached]
  rfl

theorem spawn_refused (refused : pool.exceedsLimit proto = true ∨ pool.isThread (pool.nextName proto) = true ∨ allocated = false) :
    (pool.spawnThread policy proto allocated starting).2 = false ∧
      Unchanged pool (pool.spawnThread policy proto allocated starting).1 := by
  unfold IPCWorkThreadPool.spawnThread
  dsimp only
  split
  · exact ⟨rfl,rfl,rfl,rfl,rfl⟩
  rename_i within
  split
  · exact ⟨rfl,rfl,rfl,rfl,rfl⟩
  rename_i new_
  split
  · exact ⟨rfl,rfl,rfl,rfl,rfl⟩
  · rename_i made
    rcases refused with exceeds | there | failed
    · exact absurd exceeds within
    · exact absurd there new_
    · rw [failed] at made
      exact absurd rfl made

theorem spawn_entered (within : pool.exceedsLimit proto = false) (new_ : pool.isThread (pool.nextName proto) = false) :
    pool.spawnThread policy proto true starting =
      (if proto = ifProtDefault then
        ({ pool with
            threadSequence := pool.threadSequence+1
            threads := (pool.nextName proto,(IPCWorkThread.new.start policy proto starting).1) :: pool.threads
            idleThreadNum := pool.idleThreadNum-1 },(IPCWorkThread.new.start policy proto starting).2)
      else if proto = ifProtDatabus then
        ({ pool with
            threadSequence := pool.threadSequence+1
            threads := (pool.nextName proto,(IPCWorkThread.new.start policy proto starting).1) :: pool.threads
            idleSocketThreadNum := pool.idleSocketThreadNum-1 },(IPCWorkThread.new.start policy proto starting).2)
      else
        ({ pool with
            threadSequence := pool.threadSequence+1
            threads := (pool.nextName proto,.new) :: pool.threads },false)) := by
  unfold IPCWorkThreadPool.spawnThread
  dsimp only
  rw [within,new_]
  rfl

theorem refuses_iff (pool : IPCWorkThreadPool) (event : Event) : RefusesUnchanged pool event ↔ Met pool event := by
  cases event with
  | removeThread threadName => exact Iff.rfl
  | updateMaxThreadNum maxThreadNum => exact Iff.rfl
  | spawnThread policy proto allocated starting =>
    cases within : pool.exceedsLimit proto with
    | true =>
      refine iff_of_true (fun _ => (spawn_refused (.inl within)).2) fun below => ?_
      rw [within] at below
      cases below
    | false =>
      cases new_ : pool.isThread (pool.nextName proto) with
      | true =>
        refine iff_of_true (fun _ => (spawn_refused (.inr (.inl new_))).2) fun _ absent => ?_
        rw [new_] at absent
        cases absent
      | false =>
        cases allocated with
        | false => exact iff_of_true (fun _ => (spawn_refused (.inr (.inr rfl))).2) fun _ _ made => Bool.noConfusion made
        | true =>
          have grown : ∀ {after : IPCWorkThreadPool} {entry : List UInt8 × IPCWorkThread}, after.threads = entry :: pool.threads →
              ¬ Unchanged pool after := by
            intro after entry more same
            exact List.cons_ne_self _ _ (more.symm.trans same.threads)
          rw [Met,forall_prop_of_true within,forall_prop_of_true new_,forall_prop_of_true rfl,RefusesUnchanged,spawn_entered within new_,
            ← start_spec .new policy proto starting]
          have decided : ∀ {success : Bool} {after : IPCWorkThreadPool} {entry : List UInt8 × IPCWorkThread},
              after.threads = entry :: pool.threads → ((success = false → Unchanged pool after) ↔ success = true) := by
            intro success after entry more
            cases success with
            | false => exact iff_of_false (fun same => grown more (same rfl)) Bool.false_ne_true
            | true => exact iff_of_true (fun refused => Bool.noConfusion refused) rfl
          by_cases default : proto = ifProtDefault
          · rw [if_pos default,and_iff_right (.inl default)]
            exact decided rfl
          · rw [if_neg default,or_iff_right default]
            by_cases databus : proto = ifProtDatabus
            · rw [if_pos databus,and_iff_right databus]
              exact decided rfl
            · rw [if_neg databus]
              exact iff_of_false (fun same => grown rfl (same rfl)) fun given => databus given.1

end Spawn

/-- Every thread in the table was started, for one of the two protocols. -/
structure Kept (pool : IPCWorkThreadPool) : Prop where
  balanced : Balanced pool
  even : pool.maxThreadNum % protoNum = 0
  started : ∀ entry ∈ pool.threads, entry.2.live = true ∧ (entry.2.proto = ifProtDefault ∨ entry.2.proto = ifProtDatabus)

section Keep
variable {pool : IPCWorkThreadPool}

theorem kept_new (maxThreadNum : MaxThreadNum) : Kept (.new maxThreadNum) := by
  have positive := Int32.lt_iff_toInt_lt.mp maxThreadNum.positive
  change 0 < maxThreadNum.value.toInt at positive
  refine ⟨⟨?_,?_,?_,?_⟩,?_,fun entry member => absurd member List.not_mem_nil⟩
  all_goals simp only [IPCWorkThreadPool.new,IPCWorkThreadPool.getMaxThreadNum,IPCWorkThreadPool.getSocketTotalThreadNum,registered,
    List.countP_nil,idleSpawnActiveNum,protoNum]
  all_goals omega

theorem Kept.same (kept : Kept pool) {after : IPCWorkThreadPool} (unchanged : Unchanged pool after) : Kept after := by
  obtain ⟨threads,maxThreadNum,idleThreadNum,idleSocketThreadNum⟩ := unchanged
  refine ⟨⟨?_,?_,?_,?_⟩,?_,?_⟩
  · rw [idleThreadNum,threads,kept.balanced.threads,IPCWorkThreadPool.getMaxThreadNum,IPCWorkThreadPool.getMaxThreadNum,maxThreadNum]
  · rw [idleSocketThreadNum,threads,kept.balanced.socketThreads,IPCWorkThreadPool.getSocketTotalThreadNum,
      IPCWorkThreadPool.getSocketTotalThreadNum,maxThreadNum]
  · rw [idleThreadNum]
    exact kept.balanced.idle
  · rw [idleSocketThreadNum]
    exact kept.balanced.idleSocket
  · rw [maxThreadNum]
    exact kept.even
  · rw [threads]
    exact kept.started

theorem registered_cons (threads : List (List UInt8 × IPCWorkThread)) (name : List UInt8) (policy proto other : Int32) :
    registered ((name,⟨proto,policy,true⟩) :: threads) other = registered threads other+if proto = other then 1 else 0 := by
  rw [registered,List.countP_cons]
  simp only [Bool.true_and,decide_eq_true_eq]
  rfl

theorem registered_erased (kept : Kept pool) {threadName : List UInt8} {entry : List UInt8 × IPCWorkThread}
    (found : pool.threads.find? (fun entry => entry.1 = threadName) = some entry) (other : Int32) :
    registered pool.threads other =
      registered (pool.threads.eraseP fun entry => entry.1 = threadName) other+if entry.2.proto = other then 1 else 0 := by
  have live := (kept.started entry (List.mem_of_find?_eq_some found)).1
  rw [registered,(Entries.perm_eraseP found).countP_eq,List.countP_cons,registered]
  simp only [live,Bool.true_and,decide_eq_true_eq]

theorem started_cons (kept : Kept pool) (name : List UInt8) (policy : Int32) {proto : Int32}
    (known : proto = ifProtDefault ∨ proto = ifProtDatabus) :
    ∀ entry ∈ (name,(⟨proto,policy,true⟩ : IPCWorkThread)) :: pool.threads,
      entry.2.live = true ∧ (entry.2.proto = ifProtDefault ∨ entry.2.proto = ifProtDatabus) := by
  intro entry member
  rcases List.mem_cons.mp member with rfl | old
  · exact ⟨rfl,known⟩
  · exact kept.started entry old

theorem databus_other : ifProtDatabus ≠ ifProtDefault := by decide

theorem idle_of_within (within : pool.exceedsLimit ifProtDefault = false) : 0 < pool.idleThreadNum := by
  by_contra none_
  have exceeds : pool.exceedsLimit ifProtDefault = true := by
    rw [IPCWorkThreadPool.exceedsLimit,decide_eq_true (Int.not_lt.mp none_)]
    rfl
  rw [exceeds] at within
  cases within

theorem idleSocket_of_within (within : pool.exceedsLimit ifProtDatabus = false) : 0 < pool.idleSocketThreadNum := by
  by_contra none_
  have exceeds : pool.exceedsLimit ifProtDatabus = true := by
    rw [IPCWorkThreadPool.exceedsLimit,decide_eq_true (Int.not_lt.mp none_)]
    rfl
  rw [exceeds] at within
  cases within

theorem kept_spawn (kept : Kept pool) (policy proto : Int32) (allocated : Bool) (starting : Starting)
    (met : Met pool (.spawnThread policy proto allocated starting)) : Kept (pool.spawnThread policy proto allocated starting).1 := by
  cases within : pool.exceedsLimit proto with
  | true => exact kept.same (spawn_refused (.inl within)).2
  | false =>
    cases new_ : pool.isThread (pool.nextName proto) with
    | true => exact kept.same (spawn_refused (.inr (.inl new_))).2
    | false =>
      cases allocated with
      | false => exact kept.same (spawn_refused (.inr (.inr rfl))).2
      | true =>
        obtain ⟨known,succeeds⟩ := met within new_ rfl
        obtain ⟨threads,socketThreads,idle,idleSocket⟩ := kept.balanced
        have count := registered_cons pool.threads (pool.nextName proto) policy proto
        have started := started_cons kept (pool.nextName proto) policy known
        rw [spawn_entered within new_,start_live succeeds]
        rcases known with rfl | rfl
        · have room := idle_of_within within
          have own := (count ifProtDefault).trans (by rw [if_pos rfl])
          have others := (count ifProtDatabus).trans (by rw [if_neg databus_other.symm])
          rw [if_pos rfl]
          refine ⟨⟨?_,?_,?_,idleSocket⟩,kept.even,started⟩
          · change pool.idleThreadNum-1+_ = pool.getMaxThreadNum
            rw [own]
            omega
          · change pool.idleSocketThreadNum+_ = pool.getSocketTotalThreadNum
            rw [others]
            omega
          · change 0 ≤ pool.idleThreadNum-1
            omega
        · have room := idleSocket_of_within within
          have own := (count ifProtDatabus).trans (by rw [if_pos rfl])
          have others := (count ifProtDefault).trans (by rw [if_neg databus_other])
          rw [if_neg databus_other,if_pos rfl]
          refine ⟨⟨?_,?_,idle,?_⟩,kept.even,started⟩
          · change pool.idleThreadNum+_ = pool.getMaxThreadNum
            rw [others]
            omega
          · change pool.idleSocketThreadNum-1+_ = pool.getSocketTotalThreadNum
            rw [own]
            omega
          · change 0 ≤ pool.idleSocketThreadNum-1
            omega

theorem kept_remove (kept : Kept pool) (threadName : List UInt8) : Kept (pool.removeThread threadName).1 := by
  unfold IPCWorkThreadPool.removeThread
  cases found : pool.threads.find? fun entry => entry.1 = threadName with
  | none => exact kept
  | some entry =>
    have fewer : ∀ other ∈ pool.threads.eraseP fun entry => entry.1 = threadName,
        other.2.live = true ∧ (other.2.proto = ifProtDefault ∨ other.2.proto = ifProtDatabus) :=
      fun other member => kept.started other (List.mem_of_mem_eraseP member)
    have known := (kept.started entry (List.mem_of_find?_eq_some found)).2
    have count := registered_erased kept found
    obtain ⟨threads,socketThreads,idle,idleSocket⟩ := kept.balanced
    dsimp only
    rcases known with default | databus
    · have own := (count ifProtDefault).trans (by rw [if_pos default])
      have others := (count ifProtDatabus).trans (by rw [default,if_neg databus_other.symm])
      rw [if_pos default]
      refine ⟨⟨?_,?_,?_,idleSocket⟩,kept.even,fewer⟩
      · change pool.idleThreadNum+1+(registered (pool.threads.eraseP _) ifProtDefault : Int) = pool.getMaxThreadNum
        omega
      · change pool.idleSocketThreadNum+(registered (pool.threads.eraseP _) ifProtDatabus : Int) = pool.getSocketTotalThreadNum
        omega
      · change 0 ≤ pool.idleThreadNum+1
        omega
    · have own := (count ifProtDatabus).trans (by rw [if_pos databus])
      have others := (count ifProtDefault).trans (by rw [databus,if_neg databus_other])
      rw [databus,if_neg databus_other,if_pos rfl]
      refine ⟨⟨?_,?_,idle,?_⟩,kept.even,fewer⟩
      · change pool.idleThreadNum+(registered (pool.threads.eraseP _) ifProtDefault : Int) = pool.getMaxThreadNum
        omega
      · change pool.idleSocketThreadNum+1+(registered (pool.threads.eraseP _) ifProtDatabus : Int) = pool.getSocketTotalThreadNum
        omega
      · change 0 ≤ pool.idleSocketThreadNum+1
        omega

theorem even_total (maxThreadNum : Int32) : (maxThreadNum+maxThreadNum).toInt % protoNum = 0 := by
  rw [Int32.toInt_add,protoNum,Int.bmod_def]
  split <;> omega

theorem kept_update (kept : Kept pool) (maxThreadNum : Int32) : Kept (pool.updateMaxThreadNum maxThreadNum) := by
  unfold IPCWorkThreadPool.updateMaxThreadNum
  dsimp only
  split
  · exact kept
  · rename_i more
    obtain ⟨⟨threads,socketThreads,idle,idleSocket⟩,even,started⟩ := kept
    have total := even_total maxThreadNum
    generalize (maxThreadNum+maxThreadNum).toInt = totalNum at more total ⊢
    unfold IPCWorkThreadPool.getMaxThreadNum at threads
    unfold IPCWorkThreadPool.getSocketTotalThreadNum at socketThreads
    unfold protoNum at even total threads socketThreads
    refine ⟨⟨?_,?_,?_,?_⟩,total,started⟩
    · change pool.idleThreadNum+(totalNum-pool.maxThreadNum)/2+(registered pool.threads ifProtDefault : Int) =
        totalNum/2+idleSpawnActiveNum
      omega
    · change pool.idleSocketThreadNum+(totalNum-pool.maxThreadNum)/2+(registered pool.threads ifProtDatabus : Int) = totalNum/2
      omega
    · change 0 ≤ pool.idleThreadNum+(totalNum-pool.maxThreadNum)/2
      omega
    · change 0 ≤ pool.idleSocketThreadNum+(totalNum-pool.maxThreadNum)/2
      omega

theorem kept_step (kept : Kept pool) {event : Event} (met : Met pool event) : Kept (pool.step event) := by
  cases event with
  | spawnThread policy proto allocated starting => exact kept_spawn kept policy proto allocated starting met
  | removeThread threadName => exact kept_remove kept threadName
  | updateMaxThreadNum maxThreadNum => exact kept_update kept maxThreadNum

end Keep

/-- All through a run of calls the counts and the registered threads make up the maximum, and a refused `SpawnThread` changes nothing,
exactly if every thread that comes into the table has a protocol with a count and starts. -/
theorem pool_balanced_iff (maxThreadNum : MaxThreadNum) (events : List Event) :
    (∀ front event, front ++ [event] <+: events →
      RefusesUnchanged (front.foldl IPCWorkThreadPool.step (.new maxThreadNum)) event ∧
        Balanced ((front.foldl IPCWorkThreadPool.step (.new maxThreadNum)).step event)) ↔
      Reaches (guarded (does IPCWorkThreadPool.step) Met) (.new maxThreadNum) events
        (events.foldl IPCWorkThreadPool.step (.new maxThreadNum)) := by
  constructor
  · intro all
    refine (@Reaches.guarded_iff_shown _ _ IPCWorkThreadPool.step Met RefusesUnchanged (fun _ => True) _ trivial (fun _ _ _ => trivial)
      (fun pool event _ => refuses_iff pool event) events).mp ?_
    exact fun front event before => (all front event before).1
  · intro run front event before
    have both := (@Reaches.guarded_iff_shown_kept _ _ IPCWorkThreadPool.step Met RefusesUnchanged (fun _ => True) Kept _ trivial
      (kept_new maxThreadNum) (fun _ _ _ => trivial) (fun pool event _ kept => by
        rw [refuses_iff]
        exact ⟨And.left,fun met => ⟨met,kept_step kept met⟩⟩) events).mpr run front event before
    exact ⟨both.1,both.2.balanced⟩

def sixteen : MaxThreadNum := ⟨16,by decide,by decide⟩

/-- A thread that cannot be created keeps its slot and its place in the table. -/
theorem failed_start_keeps_slot :
    ((IPCWorkThreadPool.new sixteen).spawnThread 0 0 true ⟨true,false,true,false,true⟩).2 = false ∧
      ((IPCWorkThreadPool.new sixteen).spawnThread 0 0 true ⟨true,false,true,false,true⟩).1.idleThreadNum = 16 ∧
      (IPCWorkThreadPool.new sixteen).idleThreadNum = 17 ∧
      ((IPCWorkThreadPool.new sixteen).spawnThread 0 0 true ⟨true,false,true,false,true⟩).1.threads.length = 1 ∧
      ¬ Balanced ((IPCWorkThreadPool.new sixteen).spawnThread 0 0 true ⟨true,false,true,false,true⟩).1 :=
  ⟨rfl,rfl,rfl,rfl,fun balanced => absurd balanced.threads (by decide)⟩

end CommunicationIpc.ThreadPool
