import CommunicationIpc.Kernel.ProxySessions
import CommunicationIpc.Kernel.SocketListener

/-! Sessions of proxies and the sockets they use: `MakeDBinderTransSession`, `MakeRemoteHandle` and `ReleaseDatabusProto` over
the session map of the skeleton and the client sockets of the listener. Threads are numbered in the order they begin; each locked
section is one step. A thread that fails before `CreateClientSocket` (an empty name, no soft bus server) changes nothing and is not
here; a session object is made where it is stored. -/
namespace CommunicationIpc.Kernel.SessionSockets
open CommunicationIpc.Kernel.ProxySessions CommunicationIpc.Kernel.SocketListener

/-- Where a new session goes: to the handle of a proxy (`MakeDBinderTransSession`), or to an idle handle
(`MakeRemoteHandle`). -/
inductive Target where
  | proxy (handle : UInt32)
  | idle
  deriving DecidableEq, Repr

inductive Thread where
  | opening (target : Target) (session : Session) (call : Nat)
  | publishing (target : Target) (session : Session)
  | detaching (handle : UInt32) (proxy : Nat)
  | querying (session : Session)
  | done
  deriving DecidableEq, Repr

structure System where
  listener : Listener
  skeleton : Skeleton
  threads : List Thread

def System.new : System := ⟨Listener.new,Skeleton.new,[]⟩

/-- `ownName` is what `GetDatabusName` returns. -/
inductive Event where
  | makeDBinderTransSession (handle : UInt32) (ownName : List UInt8) (session : Session)
  | makeRemoteHandle (ownName : List UInt8) (session : Session)
  | releaseDatabusProto (handle : UInt32) (proxy : Nat)
  | createClientSocket (info : DBinderSocketInfo)
  | thread (thread : Nat)
  | create (call : Nat) (socketId : Int32) (answer : Bool)
  | close (call : Nat)
  | queryHandleByDatabusSession (name deviceId : List UInt8) (stubIndex : UInt64)
  | proxyMoveDBinderSession (handle : UInt32) (proxy : Nat)
  deriving DecidableEq, Repr

namespace System

def moveThread (system : System) (thread : Nat) (place : Thread) : System :=
  { system with threads := system.threads.set thread place }

def beginThread (system : System) (place : Thread) : System := { system with threads := system.threads ++ [place] }

/-- `UpdateClientSession` calls `CreateClientSocket`. -/
def updateClientSession (system : System) (target : Target) (ownName : List UInt8) (session : Session) : Option System := do
  let listener ← system.listener.step (.createClientSocket ⟨ownName,session.serviceName,session.deviceId⟩)
  some ({ system with listener := listener }.beginThread (.opening target session system.listener.creates.length))

/-- `ProxyAttachDBinderSession` or `GetDBinderIdleHandle`, with whether the session was stored. -/
def publish (skeleton : Skeleton) (target : Target) (session : Session) : Skeleton × Bool :=
  match target with
  | .proxy handle => (skeleton.makeSession session).proxyAttachDBinderSession handle skeleton.made
  | .idle =>
    let stored := (skeleton.makeSession session).getDBinderIdleHandle skeleton.made
    (stored.1,decide (stored.2 ≠ 0))

def stepThread (system : System) (thread : Nat) : Option System :=
  match system.threads[thread]? with
  | none | some .done => none
  | some (.opening target session call) =>
    match system.listener.creates[call]? with
    | some (.returned _ socketId) =>
      if socketId ≤ 0 then some (system.moveThread thread .done)
      else some (system.moveThread thread (.publishing target { session with socketId := socketId }))
    | _ => none
  | some (.publishing target session) =>
    match publish system.skeleton target session with
    | (skeleton,true) => some ({ system with skeleton := skeleton }.moveThread thread .done)
    | (skeleton,false) => some ({ system with skeleton := skeleton }.moveThread thread (.querying session))
  | some (.detaching handle proxy) =>
    if handle = 0 then some (system.moveThread thread .done)
    else
      match system.skeleton.proxyDetachDBinderSession handle proxy with
      | (_,none) => some (system.moveThread thread .done)
      | (skeleton,some session) =>
        some ({ system with skeleton := skeleton }.moveThread thread (.querying (skeleton.sessions session)))
  | some (.querying session) =>
    match system.skeleton.querySessionByInfo session.serviceName session.deviceId with
    | some _ => some (system.moveThread thread .done)
    -- CloseDatabusSession calls ShutdownSocket
    | none => do
      let listener ← system.listener.step (.shutdownSocket session.socketId)
      some ({ system with listener := listener }.moveThread thread .done)

def step (system : System) : Event → Option System
  | .makeDBinderTransSession handle ownName session => system.updateClientSession (.proxy handle) ownName session
  | .makeRemoteHandle ownName session => system.updateClientSession .idle ownName session
  | .releaseDatabusProto handle proxy => some (system.beginThread (.detaching handle proxy))
  | .createClientSocket info => do
    let listener ← system.listener.step (.createClientSocket info)
    some { system with listener := listener }
  | .thread thread => system.stepThread thread
  | .create call socketId answer => do
    let listener ← system.listener.step (.create call socketId answer)
    some { system with listener := listener }
  | .close call => do
    let listener ← system.listener.step (.close call)
    some { system with listener := listener }
  | .queryHandleByDatabusSession name deviceId stubIndex =>
    some { system with skeleton := (system.skeleton.queryHandleByDatabusSession name deviceId stubIndex).1 }
  | .proxyMoveDBinderSession handle proxy =>
    some { system with skeleton := (system.skeleton.proxyMoveDBinderSession handle proxy).1 }

end System

end CommunicationIpc.Kernel.SessionSockets
