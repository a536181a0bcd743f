import CommunicationIpc.Kernel.DoublyLinkedList
import CommunicationIpc.Kernel.LiteDataThreads

/-! The data threads of the C skeleton with their three lists in one linked memory. A cell is the `DL_LIST` of a list, of the
lock info a thread has, of the idle entry on a thread's stack, or of the item that a call makes. Steps, workers and
dispatchers are those of the model with plain lists; `fuel` bounds the turns of a loop. -/
namespace CommunicationIpc.Kernel.LinkedDataThreads
open CommunicationIpc.Library CommunicationIpc.Kernel.DoublyLinkedList
open CommunicationIpc.Kernel.DataThreads (Dispatcher)
open CommunicationIpc.Kernel.LiteDataThreads (Worker Event)

inductive Cell where
  | socketLockInfoList
  | idleDataThreadsList
  | processInfoList
  | lockInfo (threadId : Nat)
  | idle (threadId : Nat)
  | process (call : Nat)
  deriving DecidableEq, Repr

structure State where
  links : Links Cell
  processThreadId : Nat → Nat
  workers : Nat → Worker
  dispatchers : Nat → Dispatcher
  popped : List Nat

/-- The part of `RpcProcessSkeleton` that starts the lists, in any memory. -/
def initLists : Heap Cell Unit := do
  dlListInit .processInfoList
  dlListInit .socketLockInfoList
  dlListInit .idleDataThreadsList

def State.new (memory : Links Cell) : State :=
  ⟨(initLists memory).2,fun _ => 0,fun _ => .testing,fun _ => .making,[]⟩

def State.threadIdOf (state : State) : Cell → Nat
  | .lockInfo threadId | .idle threadId => threadId
  | .process call => state.processThreadId call
  | _ => 0

def State.moveWorker (state : State) (threadId : Nat) (worker : Worker) : State :=
  { state with workers := Function.update state.workers threadId worker }

def State.moveDispatcher (state : State) (call : Nat) (dispatcher : Dispatcher) : State :=
  { state with dispatchers := Function.update state.dispatchers call dispatcher }

/-- Runs a program on the memory; `none` where it follows `NULL` or runs out of turns. -/
def State.run {β : Type} (state : State) (program : Heap Cell β) : Option (β × State) :=
  match program state.links with
  | (none,_) => none
  | (some value,links) => some (value,{ state with links := links })

def queryThreadLockInfo (threadIdOf : Cell → Nat) (threadId fuel : Nat) : Heap Cell (Option Cell) :=
  queryEntry (fun node => threadIdOf node = threadId) .socketLockInfoList fuel

def State.stepWorker (state : State) (fuel threadId : Nat) (choice : Bool) : Option State :=
  match state.workers threadId with
  | .testing => some (state.moveWorker threadId (if choice then .querying else .stopped))
  | .querying => do
    let (found,state) ← state.run (queryThreadLockInfo state.threadIdOf threadId fuel)
    some (state.moveWorker threadId (if found.isSome then .locking else .attaching))
  | .attaching =>
    if choice then do
      let (_,state) ← state.run (dlListAdd .socketLockInfoList (.lockInfo threadId))
      some (state.moveWorker threadId .locking)
    else some (state.moveWorker threadId .popping)
  | .locking => some (state.moveWorker threadId .adding)
  | .adding => do
    let (_,state) ← state.run (dlListAdd .idleDataThreadsList (.idle threadId))
    some (state.moveWorker threadId .entering)
  | .entering => some (state.moveWorker threadId .waiting)
  | .waiting => some (state.moveWorker threadId .woken)
  | .woken => some (state.moveWorker threadId .deleting)
  | .deleting => do
    let (_,state) ← state.run (dlListDelete (.idle threadId))
    some (state.moveWorker threadId .unlocking)
  | .unlocking => some (state.moveWorker threadId .popping)
  | .popping => do
    match ← state.run (popDataInfoFromThread state.threadIdOf .processInfoList threadId fuel) with
    | (none,state) => some (state.moveWorker threadId .testing)
    | (some (.process call),state) => some ({ state with popped := state.popped ++ [call] }.moveWorker threadId (.running call))
    | (some _,_) => none
  | .running _ => some (state.moveWorker threadId .testing)
  | .stopped => none

def State.pthreadCondSignal (state : State) (threadId : Nat) : State :=
  if state.workers threadId = .waiting then state.moveWorker threadId .woken else state

def State.stepDispatcher (state : State) (fuel call : Nat) (choice : Bool) : Option State :=
  match state.dispatchers call with
  | .making => some (state.moveDispatcher call (if choice then .choosing else .returned))
  | .choosing => do
    match ← state.run (getIdleDataThread .idleDataThreadsList fuel) with
    | (none,state) => some state
    | (some node,state) => some (state.moveDispatcher call (.adding (state.threadIdOf node)))
  | .adding threadId => do
    let state := { state with processThreadId := Function.update state.processThreadId call threadId }
    let (_,state) ← state.run (dlListAdd .processInfoList (.process call))
    some (state.moveDispatcher call (.querying threadId))
  | .querying threadId => do
    let (found,state) ← state.run (queryThreadLockInfo state.threadIdOf threadId fuel)
    some (state.moveDispatcher call (if found.isSome then .waking threadId else .returned))
  | .waking threadId =>
    if (state.workers threadId).holdsMutex then none
    else some ((state.pthreadCondSignal threadId).moveDispatcher call .returned)
  | .returned => none

def State.step (state : State) (fuel : Nat) : Event → Option State
  | .worker threadId choice => state.stepWorker fuel threadId choice
  | .dispatcher call choice => state.stepDispatcher fuel call choice

/-- The step is taken however many turns the loops may make, from some number on. -/
def takes (state : State) (event : Event) (next : State) : Prop := ∃ bound, ∀ fuel, bound < fuel → state.step fuel event = some next

end CommunicationIpc.Kernel.LinkedDataThreads
