import CommunicationIpc.Kernel.ThreadPool

/-! The work threads of a process that are handling a command, and the threads that `BlockUntilThreadAvailable` keeps until one of them
is free, in a process that has its `threadPool_`. Each function holds `mutex_`, which a wait gives up. A loop is one run of
`StartWorkLoop`. `executing`, `fullSince` and `raised` are not in the source: the loops between the two calls, since when as many as the
pool allows have been there, and whether that number has grown since a waiting thread looked at it. -/
namespace CommunicationIpc.Kernel.NumExecuting
open CommunicationIpc.Kernel.ThreadPool (IPCWorkThreadPool MaxThreadNum)

def threadsFullTimeThreshold : Nat := 500

/-- A thread in `cv_.wait`; `inside` is the loop whose handler has made the call. -/
structure Waiter where
  thread : Nat
  inside : Option Nat
  notified : Bool
  raised : Bool
  deriving DecidableEq

structure IPCProcessSkeleton where
  threadPool : IPCWorkThreadPool
  numExecuting : Int
  numWaitingForThreads : Int
  numExecutingFullLastTime : Nat
  waiters : List Waiter
  /-- The milliseconds of the steady clock. -/
  clock : Nat
  /-- The times of the warnings, and how long the threads were full. -/
  warnings : List (Nat × Nat)
  executing : List Nat
  fullSince : Option Nat

inductive Event
  | tick
  | lockForNumExecuting (loop : Nat)
  | unlockForNumExecuting (loop : Nat)
  | blockUntilThreadAvailable (thread : Nat) (inside : Option Nat)
  | wake (thread : Nat)
  | spurious (thread : Nat)
  | setMaxWorkThread (maxThreadNum : MaxThreadNum)

namespace IPCProcessSkeleton

def new (maxThreadNum : MaxThreadNum) : IPCProcessSkeleton := ⟨.new maxThreadNum,0,0,0,[],0,[],[],none⟩

def getMaxThreadNum (skeleton : IPCProcessSkeleton) : Int := skeleton.threadPool.getMaxThreadNum

def isFull (skeleton : IPCProcessSkeleton) : Bool := skeleton.getMaxThreadNum ≤ skeleton.numExecuting

def lockForNumExecuting (skeleton : IPCProcessSkeleton) : IPCProcessSkeleton :=
  let counted := { skeleton with numExecuting := skeleton.numExecuting+1 }
  if counted.numExecuting = counted.getMaxThreadNum then { counted with numExecutingFullLastTime := skeleton.clock } else counted

def unlockForNumExecuting (skeleton : IPCProcessSkeleton) : IPCProcessSkeleton :=
  let warned :=
    if skeleton.numExecuting = skeleton.getMaxThreadNum then
      let intervalTime := skeleton.clock-skeleton.numExecutingFullLastTime
      { skeleton with
        warnings :=
          if intervalTime > threadsFullTimeThreshold then skeleton.warnings ++ [(skeleton.clock,intervalTime)] else skeleton.warnings
        numExecutingFullLastTime := 0 }
    else skeleton
  { warned with
    numExecuting := skeleton.numExecuting-1
    waiters := if skeleton.numWaitingForThreads > 0 then skeleton.waiters.map ({ · with notified := true }) else skeleton.waiters }

/-- The loop in `BlockUntilThreadAvailable`, of a thread that is counted among the waiting ones. -/
def waitForThread (skeleton : IPCProcessSkeleton) (thread : Nat) (inside : Option Nat) : IPCProcessSkeleton :=
  if skeleton.isFull then { skeleton with waiters := skeleton.waiters ++ [⟨thread,inside,false,false⟩] }
  else { skeleton with numWaitingForThreads := skeleton.numWaitingForThreads-1 }

def waits (skeleton : IPCProcessSkeleton) (thread : Nat) : Bool := skeleton.waiters.any fun waiter => waiter.thread = thread

def waitsInside (skeleton : IPCProcessSkeleton) (loop : Nat) : Bool := skeleton.waiters.any fun waiter => waiter.inside = some loop

/-- Since when the threads have been full, after a step. -/
def watch (before after : IPCProcessSkeleton) : IPCProcessSkeleton :=
  { after with fullSince := if after.isFull then (if before.isFull then before.fullSince else some before.clock) else none }

def act (skeleton : IPCProcessSkeleton) : Event → Option IPCProcessSkeleton
  | .tick => some { skeleton with clock := skeleton.clock+1 }
  | .lockForNumExecuting loop =>
    if loop ∈ skeleton.executing then none
    else some { skeleton.lockForNumExecuting with executing := loop :: skeleton.executing }
  | .unlockForNumExecuting loop =>
    if loop ∈ skeleton.executing ∧ ¬ skeleton.waitsInside loop then
      some { skeleton.unlockForNumExecuting with executing := skeleton.executing.erase loop }
    else none
  | .blockUntilThreadAvailable thread inside =>
    if skeleton.waits thread then none
    else if inside.any fun loop => loop ∉ skeleton.executing ∨ skeleton.waitsInside loop then none
    else some ({ skeleton with numWaitingForThreads := skeleton.numWaitingForThreads+1 }.waitForThread thread inside)
  | .wake thread => do
    let waiter ← skeleton.waiters.find? fun waiter => waiter.thread = thread ∧ waiter.notified
    some ({ skeleton with waiters := skeleton.waiters.erase waiter }.waitForThread thread waiter.inside)
  | .spurious thread =>
    some { skeleton with
      waiters := skeleton.waiters.map fun waiter => if waiter.thread = thread then { waiter with notified := true } else waiter }
  | .setMaxWorkThread maxThreadNum =>
    let updated := { skeleton with threadPool := skeleton.threadPool.updateMaxThreadNum maxThreadNum.value }
    some (if skeleton.getMaxThreadNum < updated.getMaxThreadNum then
      { updated with waiters := skeleton.waiters.map ({ · with raised := true }) } else updated)

def step (skeleton : IPCProcessSkeleton) (event : Event) : Option IPCProcessSkeleton := (skeleton.act event).map skeleton.watch

end IPCProcessSkeleton

end CommunicationIpc.Kernel.NumExecuting
