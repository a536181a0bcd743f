import CommunicationIpc.Kernel.DataThreads

/-! The data threads of the C skeleton and the calls that hand packages to them. A worker runs
`RpcJoinThread`, a dispatcher is one call of the C `StartProcessLoop`; each locked section is one
step. Lists have their head at the front, where `DLListAdd` puts new nodes. A signal reaches a thread that
is blocked in `pthread_cond_wait` and nobody else; such a thread may also wake up without one.
`popped` is not in the source: the calls whose item was taken from the list. -/
namespace CommunicationIpc.Kernel.LiteDataThreads
open CommunicationIpc.Kernel.DataThreads (Dispatcher)

inductive Worker where
  | testing
  | querying
  | attaching
  | locking
  | adding
  | entering
  | waiting
  | woken
  | deleting
  | unlocking
  | popping
  | running (call : Nat)
  | stopped
  deriving DecidableEq, Repr

/-- The mutex of its `SocketThreadLockInfo`, outside of the wait. -/
def Worker.holdsMutex : Worker → Bool
  | .adding | .entering | .deleting | .unlocking => true
  | _ => false

/-- The package is named by the call of `StartProcessLoop` that made it. -/
structure ThreadProcessInfo where
  threadId : Nat
  call : Nat
  deriving DecidableEq, Repr

structure State where
  socketLockInfo : List Nat
  idleDataThread : List Nat
  processInfo : List ThreadProcessInfo
  workers : Nat → Worker
  dispatchers : Nat → Dispatcher
  popped : List Nat

def State.new : State := ⟨[],[],[],fun _ => .testing,fun _ => .making,[]⟩

/-- What the surroundings choose: whether `stopWorkThread` is still false, whether the lock info can be
made, whether the package can be copied. -/
inductive Event where
  | worker (threadId : Nat) (choice : Bool)
  | dispatcher (call : Nat) (choice : Bool)
  deriving DecidableEq, Repr

def State.moveWorker (state : State) (threadId : Nat) (worker : Worker) : State :=
  { state with workers := Function.update state.workers threadId worker }

def State.moveDispatcher (state : State) (call : Nat) (dispatcher : Dispatcher) : State :=
  { state with dispatchers := Function.update state.dispatchers call dispatcher }

def State.queryThreadLockInfo (state : State) (threadId : Nat) : Option Nat := state.socketLockInfo.find? (· = threadId)

def State.attachThreadLockInfo (state : State) (threadId : Nat) : State :=
  { state with socketLockInfo := threadId :: state.socketLockInfo }

def State.addDataThreadToIdle (state : State) (threadId : Nat) : State :=
  { state with idleDataThread := threadId :: state.idleDataThread }

def State.deleteDataThreadFromIdle (state : State) (threadId : Nat) : State :=
  { state with idleDataThread := state.idleDataThread.erase threadId }

def State.getIdleDataThread (state : State) : Option Nat := state.idleDataThread.head?

def State.addDataInfoToThread (state : State) (processInfo : ThreadProcessInfo) : State :=
  { state with processInfo := processInfo :: state.processInfo }

def State.popDataInfoFromThread (state : State) (threadId : Nat) : State × Option ThreadProcessInfo :=
  match state.processInfo.find? (·.threadId = threadId) with
  | none => (state,none)
  | some node =>
    ({ state with
      processInfo := state.processInfo.eraseP (·.threadId = threadId), popped := state.popped ++ [node.call] },some node)

def State.pthreadCondSignal (state : State) (threadId : Nat) : State :=
  if state.workers threadId = .waiting then state.moveWorker threadId .woken else state

/-- One item for each turn of the loop in `RpcJoinThread`. -/
def State.stepWorker (state : State) (threadId : Nat) (choice : Bool) : Option State :=
  match state.workers threadId with
  | .testing => some (state.moveWorker threadId (if choice then .querying else .stopped))
  | .querying =>
    match state.queryThreadLockInfo threadId with
    | none => some (state.moveWorker threadId .attaching)
    | some _ => some (state.moveWorker threadId .locking)
  | .attaching =>
    if choice then some ((state.attachThreadLockInfo threadId).moveWorker threadId .locking)
    else some (state.moveWorker threadId .popping)
  | .locking => some (state.moveWorker threadId .adding)
  | .adding => some ((state.addDataThreadToIdle threadId).moveWorker threadId .entering)
  | .entering => some (state.moveWorker threadId .waiting)
  | .waiting => some (state.moveWorker threadId .woken)
  | .woken => some (state.moveWorker threadId .deleting)
  | .deleting => some ((state.deleteDataThreadFromIdle threadId).moveWorker threadId .unlocking)
  | .unlocking => some (state.moveWorker threadId .popping)
  | .popping =>
    match state.popDataInfoFromThread threadId with
    | (state,none) => some (state.moveWorker threadId .testing)
    | (state,some node) => some (state.moveWorker threadId (.running node.call))
  | .running _ => some (state.moveWorker threadId .testing)
  | .stopped => none

def State.stepDispatcher (state : State) (call : Nat) (choice : Bool) : Option State :=
  match state.dispatchers call with
  | .making => some (state.moveDispatcher call (if choice then .choosing else .returned))
  | .choosing =>
    match state.getIdleDataThread with
    -- CreateProcessThread, a moment's sleep, and the next try
    | none => some state
    | some threadId => some (state.moveDispatcher call (.adding threadId))
  | .adding threadId => some ((state.addDataInfoToThread ⟨threadId,call⟩).moveDispatcher call (.querying threadId))
  | .querying threadId =>
    match state.queryThreadLockInfo threadId with
    | none => some (state.moveDispatcher call .returned)
    | some _ => some (state.moveDispatcher call (.waking threadId))
  | .waking threadId =>
    if (state.workers threadId).holdsMutex then none
    else some ((state.pthreadCondSignal threadId).moveDispatcher call .returned)
  | .returned => none

def State.step (state : State) : Event → Option State
  | .worker threadId choice => state.stepWorker threadId choice
  | .dispatcher call choice => state.stepDispatcher call choice

end CommunicationIpc.Kernel.LiteDataThreads
