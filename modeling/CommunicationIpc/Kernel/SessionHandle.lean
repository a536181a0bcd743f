import Mathlib.Logic.Function.Basic

/-! When a session of the C library is ready: `WaitForSessionIdReady` and `HandleNewConnection` over one
`SessionIdList`, with the `OnConnected` and `OnDisconnected` of the DBinder service. Nodes are named by their
addresses. Each locked section is one step, and a wait ends with a signal or by a time-out. -/
namespace CommunicationIpc.Kernel.SessionHandle

def errNone : Int32 := 0
def errFailed : Int32 := -1

structure Node where
  sessionId : UInt32
  isReady : Bool
  deriving DecidableEq, Repr

inductive Wait where
  | unstarted
  | finding (sessionId : Int32)
  | checking (sessionId : Int32) (node : Nat)
  | waiting (sessionId : Int32) (node : Nat)
  | woken (sessionId : Int32) (node : Nat)
  | returned (sessionId : Int32) (result : Int32)
  deriving DecidableEq, Repr

/-- One `OnConnected`, with the connection it is delivered for. -/
inductive Callback where
  | unstarted
  | finding (sessionId : Int32) (connection : Nat)
  | setting (sessionId : Int32) (connection : Nat) (node : Nat)
  | returned (sessionId : Int32) (result : Int32)
  deriving DecidableEq, Repr

inductive Status where
  | closed
  | connecting
  | connected
  deriving DecidableEq, Repr

/-- The transport's side of a session id: its newest connection, and whether `OnConnected` has been delivered
for it. -/
structure Session where
  connection : Nat
  status : Status
  deriving DecidableEq, Repr

structure State where
  idList : List Nat
  nodes : Nat → Node
  made : Nat
  sessions : Int32 → Session
  waits : Nat → Wait
  callbacks : Nat → Callback

def State.new : State := ⟨[],fun _ => ⟨0,false⟩,0,fun _ => ⟨0,.closed⟩,fun _ => .unstarted,fun _ => .unstarted⟩

/-- `choice` is whether an allocation or the clock works in this step; a wait is timed out where it is
false. -/
inductive Event where
  | connect (sessionId : Int32)
  | onConnected (callback : Nat) (sessionId result : Int32)
  | onDisconnected (sessionId : Int32)
  | handleNewConnection (callback : Nat) (choice : Bool)
  | waitForSessionIdReady (thread : Nat) (sessionId : Int32)
  | wait (thread : Nat) (choice : Bool)
  deriving DecidableEq, Repr

namespace State

def moveWait (state : State) (thread : Nat) (wait : Wait) : State :=
  { state with waits := Function.update state.waits thread wait }

def moveCallback (state : State) (callback : Nat) (place : Callback) : State :=
  { state with callbacks := Function.update state.callbacks callback place }

def setSession (state : State) (sessionId : Int32) (session : Session) : State :=
  { state with sessions := Function.update state.sessions sessionId session }

def find (state : State) (sessionId : Int32) : Option Nat :=
  state.idList.find? fun node => (state.nodes node).sessionId = sessionId.toUInt32

def newNode (state : State) (sessionId : Int32) : State :=
  { state with
    idList := state.made :: state.idList,
    nodes := Function.update state.nodes state.made ⟨sessionId.toUInt32,false⟩,
    made := state.made+1 }

/-- `choice` is whether `malloc` works. -/
def findOrNewSessionIdObject (state : State) (sessionId : Int32) (choice : Bool) : State × Option Nat :=
  match state.find sessionId with
  | some node => (state,some node)
  | none => if choice then (state.newNode sessionId,some state.made) else (state,none)

def setReady (state : State) (node : Nat) : State :=
  { state with nodes := Function.update state.nodes node { state.nodes node with isReady := true } }

def wake (node : Nat) : Wait → Wait
  | .waiting sessionId blocked => if blocked = node then .woken sessionId blocked else .waiting sessionId blocked
  | wait => wait

def pthreadCondBroadcast (state : State) (node : Nat) : State :=
  { state with waits := fun thread => wake node (state.waits thread) }

def stepWait (state : State) (thread : Nat) (choice : Bool) : Option State :=
  match state.waits thread with
  | .unstarted | .returned _ _ => none
  | .finding sessionId =>
    match state.findOrNewSessionIdObject sessionId choice with
    | (state,some node) => some (state.moveWait thread (.checking sessionId node))
    | (state,none) => some (state.moveWait thread (.returned sessionId errFailed))
  | .checking sessionId node =>
    if (state.nodes node).isReady then some (state.moveWait thread (.returned sessionId errNone))
    else if choice then some (state.moveWait thread (.waiting sessionId node))
    else some (state.moveWait thread (.returned sessionId errFailed))
  | .waiting sessionId _ => if choice then none else some (state.moveWait thread (.returned sessionId errFailed))
  | .woken sessionId node =>
    some (state.moveWait thread (.returned sessionId (if (state.nodes node).isReady then errNone else errFailed)))

def stepCallback (state : State) (callback : Nat) (choice : Bool) : Option State :=
  match state.callbacks callback with
  | .unstarted | .returned _ _ => none
  | .finding sessionId connection =>
    match state.findOrNewSessionIdObject sessionId choice with
    | (state,some node) => some (state.moveCallback callback (.setting sessionId connection node))
    | (state,none) => some (state.moveCallback callback (.returned sessionId errFailed))
  | .setting sessionId _ node =>
    if (state.nodes node).isReady then some (state.moveCallback callback (.returned sessionId errNone))
    else some (((state.setReady node).pthreadCondBroadcast node).moveCallback callback (.returned sessionId errNone))

/-- `OnDisconnected` only logs, so all it changes is the transport's side. -/
def step (state : State) : Event → Option State
  | .connect sessionId =>
    if (state.sessions sessionId).status = .closed then
      some (state.setSession sessionId ⟨(state.sessions sessionId).connection+1,.connecting⟩)
    else none
  | .onConnected callback sessionId result =>
    let session := state.sessions sessionId
    if state.callbacks callback = .unstarted ∧ session.status ≠ .closed then
      if sessionId ≤ 0 ∨ result ≠ 0 then some (state.moveCallback callback (.returned sessionId errFailed))
      else some ((state.setSession sessionId ⟨session.connection,.connected⟩).moveCallback callback
        (.finding sessionId session.connection))
    else none
  | .onDisconnected sessionId =>
    if (state.sessions sessionId).status = .closed then none
    else some (state.setSession sessionId ⟨(state.sessions sessionId).connection,.closed⟩)
  | .handleNewConnection callback choice => state.stepCallback callback choice
  | .waitForSessionIdReady thread sessionId =>
    if state.waits thread = .unstarted then
      if sessionId ≤ 0 then some (state.moveWait thread (.returned sessionId errFailed))
      else some (state.moveWait thread (.finding sessionId))
    else none
  | .wait thread choice => state.stepWait thread choice

end State

end CommunicationIpc.Kernel.SessionHandle
