import Mathlib.Algebra.Order.Ring.Int
import Mathlib.Data.List.Basic

/-! The thread pool of the C skeleton with the threads it makes. What a call does under `threadPool->lock` is one step, and so is
each step of a thread; calls of `CreateProcessThread` look at the pool without the lock first. Counts stay far from the ends
of their type: `SetMaxWorkThreadNum` refuses more than 16. -/
namespace CommunicationIpc.Kernel.LiteThreadPool

def errNone : Int32 := 0
def errFailed : Int32 := -1
def errInvalidParam : Int32 := -2

def ifProtBinder : Int32 := 0
def ifProtDatabus : Int32 := 1

def spawnPassive : Int32 := 0
def spawnActive : Int32 := 1

def setMaxThreadsDefault : Int := 4
def setMaxThreadsMax : Int := 16
def protoNum : Int := 2

structure ThreadPool where
  maxThreadNum : Int
  idleThreadNum : Int
  idleSocketThreadNum : Int
  deriving DecidableEq, Repr

def initThreadPool (maxThreadNum : Int) : ThreadPool := ⟨maxThreadNum+maxThreadNum,maxThreadNum,maxThreadNum⟩

/-- Where a thread is in `ThreadHandler`. -/
inductive Place where
  | created
  | joined (initiative : Bool)
  | leaving
  | gone
  deriving DecidableEq, Repr

structure Thread where
  proto : Int32
  policy : Int32
  place : Place
  deriving DecidableEq, Repr

/-- A call of `CreateProcessThread`, with what it returned. -/
inductive Call where
  | unstarted
  | spawning
  | returned (ret : Int32)
  deriving DecidableEq, Repr

structure State where
  threadPool : ThreadPool
  threads : List Thread
  isServerCreated : Int
  calls : Nat → Call

def State.new : State := ⟨initThreadPool setMaxThreadsDefault,[],-1,fun _ => .unstarted⟩

/-- Whether the lock, the allocation and the creation of a thread work. -/
structure Spawning where
  lock : Bool
  context : Bool
  create : Bool
  deriving DecidableEq, Repr

def room (threadPool : ThreadPool) (proto : Int32) : Bool :=
  (proto = ifProtBinder && 0 < threadPool.idleThreadNum) || (proto = ifProtDatabus && 0 < threadPool.idleSocketThreadNum)

def State.spawnNewThread (state : State) (policy proto : Int32) (spawning : Spawning) : State × Int32 :=
  if !spawning.lock then (state,errFailed)
  else if !room state.threadPool proto then (state,errInvalidParam)
  else if !spawning.context then (state,errFailed)
  else if !spawning.create then (state,errFailed)
  else
    let threadPool :=
      if proto = ifProtBinder then { state.threadPool with idleThreadNum := state.threadPool.idleThreadNum-1 }
      else if proto = ifProtDatabus then { state.threadPool with idleSocketThreadNum := state.threadPool.idleSocketThreadNum-1 }
      else state.threadPool
    ({ state with threadPool := threadPool, threads := state.threads ++ [⟨proto,policy,.created⟩] },errNone)

def threadContextDestructor (threadPool : ThreadPool) (proto : Int32) : ThreadPool :=
  if proto = ifProtBinder then { threadPool with idleThreadNum := threadPool.idleThreadNum+1 }
  else if proto = ifProtDatabus then { threadPool with idleSocketThreadNum := threadPool.idleSocketThreadNum+1 }
  else threadPool

def updateMaxThreadNum (threadPool : ThreadPool) (maxThreadNum : Int) (lock : Bool) : ThreadPool :=
  let totalNum := maxThreadNum+maxThreadNum
  if !lock then threadPool
  else if totalNum ≤ threadPool.maxThreadNum then threadPool
  else
    let diff := totalNum-threadPool.maxThreadNum
    { maxThreadNum := totalNum
      idleThreadNum := threadPool.idleThreadNum+diff/protoNum
      idleSocketThreadNum := threadPool.idleSocketThreadNum+diff/protoNum }

def validMax (maxThreadNum : Int) : Bool := !(maxThreadNum < setMaxThreadsDefault || setMaxThreadsMax < maxThreadNum)

/-- `SetMaxWorkThreadNum`, the pool's part. -/
def State.setMaxWorkThreadNum (state : State) (maxThreadNum : Int) (lock : Bool) : State :=
  if validMax maxThreadNum then { state with threadPool := updateMaxThreadNum state.threadPool maxThreadNum lock } else state

/-- `listens` is whether `StartListen` works. -/
def State.createTransServer (state : State) (listens : Bool) (spawning : Spawning) : State × Int32 :=
  if state.isServerCreated = -1 then
    if !listens then (state,errFailed)
    else { state with isServerCreated := 0 }.spawnNewThread spawnActive ifProtDatabus spawning
  else (state,errNone)

def State.moveCall (state : State) (call : Nat) (stage : Call) : State :=
  { state with calls := fun other => if other = call then stage else state.calls other }

/-- The result of `SpawnThread` is not looked at. -/
def State.createProcessThread (state : State) (call : Nat) (spawning : Spawning) : Option State :=
  match state.calls call with
  | .unstarted =>
    some (state.moveCall call (if 0 < state.threadPool.idleSocketThreadNum then .spawning else .returned errFailed))
  | .spawning => some ((state.spawnNewThread spawnPassive ifProtDatabus spawning).1.moveCall call (.returned errNone))
  | .returned _ => none

/-- `invoker` is whether the thread gets a context and an invoker. -/
def State.threadHandler (state : State) (index : Nat) (invoker : Bool) : Option State :=
  match state.threads[index]? with
  | none => none
  | some thread =>
    match thread.place with
    | .created =>
      let place :=
        if !invoker then Place.leaving
        else if thread.policy = spawnPassive then .joined false
        else if thread.policy = spawnActive then .joined true
        else .leaving
      some { state with threads := state.threads.set index { thread with place := place } }
    | .joined _ => some { state with threads := state.threads.set index { thread with place := .leaving } }
    | .leaving =>
      some { state with
        threadPool := threadContextDestructor state.threadPool thread.proto
        threads := state.threads.set index { thread with place := .gone } }
    | .gone => none

inductive Event where
  | spawnThread (policy proto : Int32) (spawning : Spawning)
  | setMaxWorkThreadNum (maxThreadNum : Int) (lock : Bool)
  | createTransServer (listens : Bool) (spawning : Spawning)
  | createProcessThread (call : Nat) (spawning : Spawning)
  | threadHandler (index : Nat) (invoker : Bool)
  deriving DecidableEq, Repr

def State.step (state : State) : Event → Option State
  | .spawnThread policy proto spawning => some (state.spawnNewThread policy proto spawning).1
  | .setMaxWorkThreadNum maxThreadNum lock => some (state.setMaxWorkThreadNum maxThreadNum lock)
  | .createTransServer listens spawning => some (state.createTransServer listens spawning).1
  | .createProcessThread call spawning => state.createProcessThread call spawning
  | .threadHandler index invoker => state.threadHandler index invoker

end CommunicationIpc.Kernel.LiteThreadPool
