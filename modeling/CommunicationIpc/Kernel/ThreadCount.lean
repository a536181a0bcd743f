import Mathlib.Data.List.Basic

/-! The count of the threads that `IPCWorkThread::Start` creates: each `Start` call beside the thread it created, with one step for
each access to what they share. -/
namespace CommunicationIpc.Kernel.ThreadCount

inductive Thread
  /-- `ThreadHandler` has been entered. -/
  | begun
  /-- `SetThreadType` was called; `typed` says whether the thread has a skeleton and it is of the type `IPC_THREAD`. -/
  | started (typed : Bool)
  /-- In `JoinThread`. -/
  | joined (typed : Bool)
  /-- `ThreadHandler` has returned, and the destructor of the skeleton is to come. -/
  | ending (typed : Bool)
  | exited
deriving DecidableEq

inductive Call
  /-- The stop flag was not set, and the parameter is allocated. -/
  | checked
  /-- `pthread_create` failed. -/
  | failed
  | created (thread : Thread)
  /-- Behind `IncreaseThreadCount`. -/
  | increased (thread : Thread)
  | returned (thread : Thread)
deriving DecidableEq

namespace Call

def thread : Call → Option Thread
  | checked => none
  | failed => none
  | created thread => some thread
  | increased thread => some thread
  | returned thread => some thread

def setThread (next : Thread) : Call → Call
  | checked => checked
  | failed => failed
  | created _ => created next
  | increased _ => increased next
  | returned _ => returned next

end Call

structure System where
  stopThreadFlag : Bool
  runningChildThreadNum : Nat
  calls : List Call

inductive Event
  | start (allocated : Bool)
  | pthreadCreate (call : Nat) (created : Bool)
  | increaseThreadCount (call : Nat)
  | pthreadDetach (call : Nat)
  | setThreadType (call : Nat) (typed : Bool)
  | getThreadStopFlag (call : Nat)
  | leaveJoinThread (call : Nat)
  /-- The destructor of the thread's skeleton, with its `DecreaseThreadCount`. -/
  | destroy (call : Nat)
  /-- `NotifyChildThreadStop`, up to its wait. -/
  | notifyChildThreadStop
deriving DecidableEq

namespace System

def new : System := ⟨false,0,[]⟩

def decreaseThreadCount (system : System) : System :=
  if 0 < system.runningChildThreadNum then {system with runningChildThreadNum := system.runningChildThreadNum-1} else system

/-- What `NotifyChildThreadStop` waits for. -/
def stopped (system : System) : Bool := system.runningChildThreadNum = 0

/-- One step of the thread of a call. -/
def advance (system : System) (index : Nat) (next : Thread → Option Thread) : Option System := do
  let call ← system.calls[index]?
  let thread ← call.thread
  let thread ← next thread
  return {system with calls := system.calls.set index (call.setThread thread)}

def step (system : System) : Event → Option System
  | .start allocated =>
    if system.stopThreadFlag then some system
    else if allocated then some {system with calls := system.calls ++ [.checked]}
    else some system
  | .pthreadCreate index created =>
    match system.calls[index]? with
    | some .checked => some {system with calls := system.calls.set index (if created then .created .begun else .failed)}
    | _ => none
  | .increaseThreadCount index =>
    match system.calls[index]? with
    | some (.created thread) => some {system with
        runningChildThreadNum := system.runningChildThreadNum+1
        calls := system.calls.set index (.increased thread)}
    | _ => none
  | .pthreadDetach index =>
    match system.calls[index]? with
    | some (.increased thread) => some {system with calls := system.calls.set index (.returned thread)}
    | _ => none
  | .setThreadType index typed =>
    system.advance index fun
      | .begun => some (.started typed)
      | _ => none
  | .getThreadStopFlag index =>
    system.advance index fun
      | .started typed => some (if system.stopThreadFlag then .ending typed else .joined typed)
      | _ => none
  | .leaveJoinThread index =>
    system.advance index fun
      | .joined typed => some (.ending typed)
      | _ => none
  | .destroy index =>
    match system.calls[index]?.bind Call.thread with
    | some (.ending typed) =>
      let system := if typed then system.decreaseThreadCount else system
      system.advance index fun _ => some .exited
    | _ => none
  | .notifyChildThreadStop => some {system with stopThreadFlag := true}

end System

end CommunicationIpc.Kernel.ThreadCount
