import Mathlib.Logic.Function.Basic

/-! The data threads of a process and the calls that hand packages to them. A worker runs
`JoinProcessThread` and is not stopped, a dispatcher is one call of `StartProcessLoop`; each locked
section is one step, and steps of all threads interleave freely. A `ThreadProcessInfo` is named by
the call that makes it. `added`, `popped` and `finished` are not in the source: the items put into and
taken from each queue, and those whose `OnTransaction` has returned. -/
namespace CommunicationIpc.Kernel.DataThreads

inductive Worker where
  | querying
  | attaching
  | entering
  | locking
  | waiting
  | deleting
  | unlocking
  | popping
  | running (processInfo : Nat)
  deriving DecidableEq, Repr

/-- The mutex of its `SocketThreadLockInfo`, outside of the wait. -/
def Worker.holdsMutex : Worker → Bool
  | .deleting | .unlocking => true
  | _ => false

inductive Dispatcher where
  | making
  | choosing
  | adding (threadId : Nat)
  | querying (threadId : Nat)
  | waking (threadId : Nat)
  | returned
  deriving DecidableEq, Repr

/-- `threadLockInfo_` gives for a thread that is attached whether it is `ready`. -/
structure State where
  threadLockInfo : Nat → Option Bool
  idleDataThreads : List Nat
  dataInfoQueue : Nat → List Nat
  workers : Nat → Worker
  dispatchers : Nat → Dispatcher
  added : Nat → List Nat
  popped : Nat → List Nat
  finished : List Nat

def State.new : State :=
  ⟨fun _ => none,[],fun _ => [],fun _ => .querying,fun _ => .making,fun _ => [],fun _ => [],[]⟩

inductive Event where
  | worker (threadId : Nat)
  | dispatcher (call : Nat) (made : Bool)
  deriving DecidableEq, Repr

def State.moveWorker (state : State) (threadId : Nat) (worker : Worker) : State :=
  { state with workers := Function.update state.workers threadId worker }

def State.moveDispatcher (state : State) (call : Nat) (dispatcher : Dispatcher) : State :=
  { state with dispatchers := Function.update state.dispatchers call dispatcher }

def State.queryThreadLockInfo (state : State) (threadId : Nat) : Option Bool := state.threadLockInfo threadId

def State.setReady (state : State) (threadId : Nat) (ready : Bool) : State :=
  { state with threadLockInfo := Function.update state.threadLockInfo threadId (some ready) }

def State.addDataThreadToIdle (state : State) (threadId : Nat) : State :=
  { state with idleDataThreads := threadId :: state.idleDataThreads }

def State.deleteDataThreadFromIdle (state : State) (threadId : Nat) : State :=
  { state with idleDataThreads := state.idleDataThreads.erase threadId }

def State.getIdleDataThread (state : State) : Option Nat := state.idleDataThreads.getLast?

def State.addDataInfoToThread (state : State) (threadId processInfo : Nat) : State :=
  { state with
    dataInfoQueue := Function.update state.dataInfoQueue threadId (state.dataInfoQueue threadId ++ [processInfo]),
    added := Function.update state.added threadId (state.added threadId ++ [processInfo]) }

def State.popDataInfoFromThread (state : State) (threadId : Nat) : State × Option Nat :=
  match state.dataInfoQueue threadId with
  | [] => (state,none)
  | processInfo :: rest =>
    ({ state with
      dataInfoQueue := Function.update state.dataInfoQueue threadId rest,
      popped := Function.update state.popped threadId (state.popped threadId ++ [processInfo]) },some processInfo)

/-- `AddDataThreadInWait` up to `unlocking`, then the queue until it is empty. The wait may end
without a notification: it only ends where `ready` is set. -/
def State.stepWorker (state : State) (threadId : Nat) : State :=
  match state.workers threadId with
  | .querying =>
    match state.queryThreadLockInfo threadId with
    | none => state.moveWorker threadId .attaching
    | some _ => state.moveWorker threadId .entering
  | .attaching =>
    match state.threadLockInfo threadId with
    | none => (state.setReady threadId false).moveWorker threadId .entering
    | some _ => state.moveWorker threadId .popping
  | .entering => (state.addDataThreadToIdle threadId).moveWorker threadId .locking
  | .locking | .waiting =>
    if state.threadLockInfo threadId = some true then (state.setReady threadId false).moveWorker threadId .deleting
    else state.moveWorker threadId .waiting
  | .deleting => (state.deleteDataThreadFromIdle threadId).moveWorker threadId .unlocking
  | .unlocking => state.moveWorker threadId .popping
  | .popping =>
    match state.popDataInfoFromThread threadId with
    | (state,none) => state.moveWorker threadId .querying
    | (state,some processInfo) => state.moveWorker threadId (.running processInfo)
  | .running processInfo =>
    { state.moveWorker threadId .popping with finished := state.finished ++ [processInfo] }

/-- `made` is what `MakeThreadProcessInfo` and `CheckMessageVaildity` say of the package. -/
def State.stepDispatcher (state : State) (call : Nat) (made : Bool) : Option State :=
  match state.dispatchers call with
  | .making => some (state.moveDispatcher call (if made then .choosing else .returned))
  | .choosing =>
    match state.getIdleDataThread with
    -- CreateProcessThread, a moment's sleep, and the next try
    | none => some state
    | some threadId => some (state.moveDispatcher call (.adding threadId))
  | .adding threadId => some ((state.addDataInfoToThread threadId call).moveDispatcher call (.querying threadId))
  | .querying threadId =>
    match state.queryThreadLockInfo threadId with
    | none => some (state.moveDispatcher call .returned)
    | some _ => some (state.moveDispatcher call (.waking threadId))
  | .waking threadId =>
    if (state.workers threadId).holdsMutex then none
    else some ((state.setReady threadId true).moveDispatcher call .returned)
  | .returned => none

def State.step (state : State) : Event → Option State
  | .worker threadId => some (state.stepWorker threadId)
  | .dispatcher call made => state.stepDispatcher call made

end CommunicationIpc.Kernel.DataThreads
