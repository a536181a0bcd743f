import CommunicationIpc.Kernel.LiteInvoker

/-! The sessions of the C invoker: `UpdateProto` in any threads, and the callbacks of the transport, each locked section one step. A
pointer to a node is the node itself, with `connection` or `address`, which are not in the source, to tell it from others. The transport
gives an id to one connection at a time, and is in one callback for a connection at a time. -/
namespace CommunicationIpc.Kernel.LiteSessions
open CommunicationIpc.Kernel.LiteInvoker (HandleSession)

inductive Proto
  | binder
  | databus
  deriving DecidableEq

structure SessionNode where
  session : HandleSession
  connection : Nat
  deriving DecidableEq

structure IndexNode where
  handle : UInt32
  index : UInt64
  address : Nat
  deriving DecidableEq

/-- Up to `signalling` in `OnReceiveNewConnection`, and from `closing` on in `OnDatabusSessionClosed`. For a `refused` connection
`OnConnected` has returned an error. -/
inductive Stage
  | opened
  | attachingStub
  | signalling
  | connected
  | refused
  | closing
  | detachingStub (node : SessionNode)
  | closingProxy
  | detachingProxy (node : SessionNode)
  | queryingIndex (handle : UInt32)
  | detachingIndex (handle : UInt32) (node : IndexNode)
  | closed
  deriving DecidableEq

/-- `attached`, which is not in the source, is whether `AttachStubSession` was reached. -/
structure Connection where
  sessionId : Int32
  attached : Bool
  stage : Stage
  deriving DecidableEq

/-- Where a call of `UpdateProto` is. -/
inductive Call
  | querying (handle : UInt32)
  | asking (handle : UInt32)
  | attachingIndex (handle : UInt32) (index : UInt64)
  | serving (node : IndexNode)
  | detachingOwn (node : IndexNode)
  | connectingTo (handle : UInt32)
  | waiting (handle : UInt32) (connection : Nat)
  | storing (handle : UInt32) (connection : Nat)
  | updated (proto : Proto)
  | returned
  deriving DecidableEq

/-- What a call meets: `databus` is the answer of the service to `GET_PROTO_INFO`, `binder` any other or none, `connected` what `Connect`
returns, and `failed` any other failure. -/
inductive Choice
  | goes
  | failed
  | binder
  | databus (index : UInt64)
  | connected (sessionId : Int32)

/-- `ready` is the flag of `WaitForSessionIdReady`. Not in the source: `connections`, `calls`, how many index nodes were made, for which
handles `UpdateClientSession` gave up, and for which the death of the object was looked after. -/
structure Skeleton where
  stubSessionList : List SessionNode
  proxySessionList : List SessionNode
  handleToIndexList : List IndexNode
  ready : Int32 → Bool
  connections : List Connection
  calls : List Call
  made : Nat
  givenUp : List UInt32
  obituaries : List UInt32
  /-- `DLListDelete` was called for a node that had been deleted before. -/
  crashed : Bool

/-- `drop` is the end of a connection that the transport does not report. -/
inductive Event
  | updateProto (handle : Int32)
  | update (call : Nat) (choice : Choice)
  | accept (sessionId : Int32)
  | onConnected (connection : Nat) (result : Int32)
  | onDisconnected (connection : Nat)
  | callback (connection : Nat) (works : Bool)
  | drop (connection : Nat)

def Connection.goTo (connection : Connection) (stage : Stage) : Connection :=
  { connection with stage := stage }

/-- No callback is under way. -/
def Stage.quiet : Stage → Bool
  | .opened | .connected | .refused => true
  | _ => false

namespace Skeleton

def new : Skeleton := ⟨[],[],[],fun _ => false,[],[],0,[],[],false⟩

def inUse (skeleton : Skeleton) (sessionId : Int32) : Bool :=
  skeleton.connections.any fun connection => connection.sessionId = sessionId ∧ connection.stage ≠ .closed

def moveCall (skeleton : Skeleton) (call : Nat) (place : Call) : Skeleton :=
  { skeleton with calls := skeleton.calls.set call place }

def setConnection (skeleton : Skeleton) (index : Nat) (connection : Connection) : Skeleton :=
  { skeleton with connections := skeleton.connections.set index connection }

def addConnection (skeleton : Skeleton) (sessionId : Int32) : Skeleton :=
  { skeleton with connections := skeleton.connections ++ [⟨sessionId,false,.opened⟩] }

def queryStubSession (skeleton : Skeleton) (handle : UInt32) : Option SessionNode :=
  skeleton.stubSessionList.find? fun node => node.session.handle = handle

def queryProxySession (skeleton : Skeleton) (handle : UInt32) : Option SessionNode :=
  skeleton.proxySessionList.find? fun node => node.session.handle = handle

def queryProxySessionBySessionId (skeleton : Skeleton) (sessionId : UInt32) : Option SessionNode :=
  skeleton.proxySessionList.find? fun node => node.session.sessionId = sessionId

def queryHandleToIndex (skeleton : Skeleton) (handle : UInt32) : Option IndexNode :=
  skeleton.handleToIndexList.find? fun node => node.handle = handle

def attachStubSession (skeleton : Skeleton) (node : SessionNode) : Skeleton :=
  { skeleton with stubSessionList := node :: skeleton.stubSessionList }

def detachStubSession (skeleton : Skeleton) (node : SessionNode) : Skeleton :=
  if node ∈ skeleton.stubSessionList then { skeleton with stubSessionList := skeleton.stubSessionList.erase node }
  else { skeleton with crashed := true }

def attachProxySession (skeleton : Skeleton) (node : SessionNode) : Skeleton :=
  { skeleton with proxySessionList := node :: skeleton.proxySessionList }

def detachProxySession (skeleton : Skeleton) (node : SessionNode) : Skeleton :=
  if node ∈ skeleton.proxySessionList then { skeleton with proxySessionList := skeleton.proxySessionList.erase node }
  else { skeleton with crashed := true }

def attachHandleToIndex (skeleton : Skeleton) (node : IndexNode) : Skeleton :=
  { skeleton with handleToIndexList := node :: skeleton.handleToIndexList, made := skeleton.made+1 }

def detachHandleToIndex (skeleton : Skeleton) (node : IndexNode) : Skeleton :=
  if node ∈ skeleton.handleToIndexList then { skeleton with handleToIndexList := skeleton.handleToIndexList.erase node }
  else { skeleton with crashed := true }

def giveUp (skeleton : Skeleton) (handle : UInt32) : Skeleton :=
  { skeleton with givenUp := handle :: skeleton.givenUp }

def handleNewConnection (skeleton : Skeleton) (sessionId : Int32) : Skeleton :=
  { skeleton with ready := fun other => other = sessionId || skeleton.ready other }

def sendObituary (skeleton : Skeleton) (handle : UInt32) : Skeleton :=
  { skeleton with obituaries := skeleton.obituaries ++ [handle] }

def stepCall (skeleton : Skeleton) (call : Nat) (place : Call) (choice : Choice) : Option Skeleton :=
  match place,choice with
  | .querying handle,.goes =>
    match skeleton.queryProxySession handle with
    | some _ => some (skeleton.moveCall call (.updated .databus))
    | none => some (skeleton.moveCall call (.asking handle))
  | .querying _,.failed => some (skeleton.moveCall call .returned)
  | .asking _,.binder => some (skeleton.moveCall call (.updated .binder))
  | .asking handle,.databus index => some (skeleton.moveCall call (.attachingIndex handle index))
  -- the reply has no index, or there is no memory for a node
  | .asking _,.failed => some (skeleton.moveCall call (.updated .databus))
  | .attachingIndex handle index,.goes =>
    let node : IndexNode := ⟨handle,index,skeleton.made⟩
    some ((skeleton.attachHandleToIndex node).moveCall call (.serving node))
  | .serving node,.goes => some (skeleton.moveCall call (.connectingTo node.handle))
  | .serving node,.failed => some (skeleton.moveCall call (.detachingOwn node))
  | .detachingOwn node,.goes => some ((skeleton.detachHandleToIndex node).moveCall call (.updated .databus))
  | .connectingTo handle,.connected sessionId =>
    if sessionId < 0 then some ((skeleton.giveUp handle).moveCall call (.updated .databus))
    else if skeleton.inUse sessionId then none
    else some ((skeleton.addConnection sessionId).moveCall call (.waiting handle skeleton.connections.length))
  | .connectingTo handle,.failed => some ((skeleton.giveUp handle).moveCall call (.updated .databus))
  | .waiting handle index,.goes =>
    match skeleton.connections[index]? with
    | some connection => if skeleton.ready connection.sessionId then some (skeleton.moveCall call (.storing handle index)) else none
    | none => none
  | .waiting handle _,.failed => some ((skeleton.giveUp handle).moveCall call (.updated .databus))
  | .storing handle index,.goes =>
    match skeleton.connections[index]? with
    | some connection =>
      some ((skeleton.attachProxySession ⟨⟨handle,connection.sessionId.toUInt32⟩,index⟩).moveCall call (.updated .databus))
    | none => none
  | _,_ => none

/-- `works` is whether there are a skeleton and the memory that the step needs. -/
def stepCallback (skeleton : Skeleton) (index : Nat) (connection : Connection) (works : Bool) : Option Skeleton :=
  let handle := connection.sessionId.toUInt32
  match connection.stage with
  | .attachingStub =>
    if works then
      some ((skeleton.attachStubSession ⟨⟨handle,handle⟩,index⟩).setConnection index ⟨connection.sessionId,true,.signalling⟩)
    else some (skeleton.setConnection index (connection.goTo .refused))
  | .signalling =>
    if works && 0 < connection.sessionId then
      some ((skeleton.handleNewConnection connection.sessionId).setConnection index (connection.goTo .connected))
    else some (skeleton.setConnection index (connection.goTo .refused))
  | .closing =>
    match skeleton.queryStubSession handle with
    | some node => some (skeleton.setConnection index (connection.goTo (.detachingStub node)))
    | none => some (skeleton.setConnection index (connection.goTo .closingProxy))
  | .detachingStub node => some ((skeleton.detachStubSession node).setConnection index (connection.goTo .closed))
  | .closingProxy =>
    match skeleton.queryProxySessionBySessionId handle with
    | some node => some (skeleton.setConnection index (connection.goTo (.detachingProxy node)))
    | none => some (skeleton.setConnection index (connection.goTo .closed))
  | .detachingProxy node =>
    some ((skeleton.detachProxySession node).setConnection index (connection.goTo (.queryingIndex node.session.handle)))
  | .queryingIndex handle =>
    match skeleton.queryHandleToIndex handle with
    | some node => some (skeleton.setConnection index (connection.goTo (.detachingIndex handle node)))
    | none => some (skeleton.setConnection index (connection.goTo .closed))
  | .detachingIndex handle node =>
    let detached := skeleton.detachHandleToIndex node
    some ((if works then detached.sendObituary handle else detached).setConnection index (connection.goTo .closed))
  | .opened | .connected | .refused | .closed => none

def onConnected (skeleton : Skeleton) (index : Nat) (connection : Connection) (result : Int32) : Option Skeleton :=
  if connection.stage ≠ .opened then none
  else if connection.sessionId < 0 ∨ result ≠ 0 then some (skeleton.setConnection index (connection.goTo .refused))
  else some (skeleton.setConnection index (connection.goTo .attachingStub))

def onDisconnected (skeleton : Skeleton) (index : Nat) (connection : Connection) : Option Skeleton :=
  if connection.stage.quiet then
    some (skeleton.setConnection index (connection.goTo (if connection.sessionId < 0 then .closed else .closing)))
  else none

def step (skeleton : Skeleton) (event : Event) : Option Skeleton :=
  if skeleton.crashed then none
  else match event with
    | .updateProto handle =>
      some { skeleton with calls := skeleton.calls ++ [if handle < 0 then .returned else .querying handle.toUInt32] }
    | .update call choice =>
      match skeleton.calls[call]? with
      | some place => skeleton.stepCall call place choice
      | none => none
    | .accept sessionId => if skeleton.inUse sessionId then none else some (skeleton.addConnection sessionId)
    | .onConnected index result =>
      match skeleton.connections[index]? with
      | some connection => skeleton.onConnected index connection result
      | none => none
    | .onDisconnected index =>
      match skeleton.connections[index]? with
      | some connection => skeleton.onDisconnected index connection
      | none => none
    | .callback index works =>
      match skeleton.connections[index]? with
      | some connection => skeleton.stepCallback index connection works
      | none => none
    | .drop index =>
      match skeleton.connections[index]? with
      | some connection => if connection.stage.quiet then some (skeleton.setConnection index (connection.goTo .closed)) else none
      | none => none

end Skeleton

end CommunicationIpc.Kernel.LiteSessions
