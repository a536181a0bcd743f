import Mathlib.Data.List.Sort
import Mathlib.Logic.Function.Basic

/-! The sessions of the proxies of a process: `proxyToSession_` of `IPCProcessSkeleton`, a map in the order
of its handles. `DBinderSessionObject`s and proxies are named by their addresses, a null proxy is `none`,
and a session in the map is never null. Every operation holds `proxyToSessionMutex_` and is one step.
`claims` is not in the source: it logs each `SetProxy`, and the proxy a session is made with. -/
namespace CommunicationIpc.Kernel.ProxySessions

def dbinderHandleBase : UInt32 := 687200000
def dbinderHandleCount : Nat := 100000

def isHandleMadeByUser (handle : UInt32) : Bool :=
  handle ≥ dbinderHandleBase ∧ handle ≤ dbinderHandleBase+UInt32.ofNat dbinderHandleCount

structure Session where
  serviceName : List UInt8
  deviceId : List UInt8
  stubIndex : UInt64
  proxy : Option Nat
  socketId : Int32
  deriving DecidableEq, Repr

structure Skeleton where
  proxyToSession : List (UInt32 × Nat)
  dBinderHandle : UInt32
  sessions : Nat → Session
  made : Nat
  claims : List (Nat × Option Nat)

def Skeleton.new : Skeleton := ⟨[],dbinderHandleBase,fun _ => ⟨[],[],0,none,0⟩,0,[]⟩

namespace Skeleton

/-- `std::make_shared<DBinderSessionObject>`. -/
def makeSession (skeleton : Skeleton) (session : Session) : Skeleton :=
  { skeleton with
    sessions := Function.update skeleton.sessions skeleton.made session,
    made := skeleton.made+1,
    claims := skeleton.claims ++ [(skeleton.made,session.proxy)] }

def setProxy (skeleton : Skeleton) (session : Nat) (proxy : Option Nat) : Skeleton :=
  { skeleton with
    sessions := Function.update skeleton.sessions session { skeleton.sessions session with proxy := proxy },
    claims := skeleton.claims ++ [(session,proxy)] }

def find (skeleton : Skeleton) (handle : UInt32) : Option Nat :=
  (skeleton.proxyToSession.find? fun entry => entry.1 = handle).map Prod.snd

/-- `std::map::insert`, which leaves an entry that is there as it is. -/
def insert (skeleton : Skeleton) (handle : UInt32) (session : Nat) : Skeleton × Bool :=
  match skeleton.find handle with
  | some _ => (skeleton,false)
  | none =>
    ({ skeleton with
      proxyToSession := skeleton.proxyToSession.orderedInsert (fun left right => left.1 ≤ right.1) (handle,session) },true)

def nextHandle (handle : UInt32) : UInt32 :=
  if handle+1 > dbinderHandleBase+UInt32.ofNat dbinderHandleCount then dbinderHandleBase else handle+1

/-- The loop of `GetDBinderIdleHandle`, with `count` turns left. -/
def tryHandles (skeleton : Skeleton) (session : Nat) : Nat → UInt32 → Skeleton × UInt32
  | 0,_ => (skeleton,0)
  | count+1,handle =>
    match skeleton.insert (nextHandle handle) session with
    | (inserted,true) => ({ inserted with dBinderHandle := nextHandle handle },nextHandle handle)
    | (_,false) => tryHandles skeleton session count (nextHandle handle)

def getDBinderIdleHandle (skeleton : Skeleton) (session : Nat) : Skeleton × UInt32 :=
  skeleton.tryHandles session dbinderHandleCount skeleton.dBinderHandle

def proxyDetachDBinderSession (skeleton : Skeleton) (handle : UInt32) (proxy : Nat) : Skeleton × Option Nat :=
  match skeleton.find handle with
  | none => (skeleton,none)
  | some session =>
    if (skeleton.sessions session).proxy = some proxy then
      ({ skeleton with proxyToSession := skeleton.proxyToSession.eraseP fun entry => entry.1 = handle },some session)
    else (skeleton,none)

def proxyAttachDBinderSession (skeleton : Skeleton) (handle : UInt32) (session : Nat) : Skeleton × Bool :=
  skeleton.insert handle session

def proxyMoveDBinderSession (skeleton : Skeleton) (handle : UInt32) (proxy : Nat) : Skeleton × Bool :=
  match skeleton.find handle with
  | none => (skeleton,false)
  | some session => (skeleton.setProxy session (some proxy),true)

def queryHandleByDatabusSession (skeleton : Skeleton) (name deviceId : List UInt8) (stubIndex : UInt64) : Skeleton × UInt32 :=
  let matching := skeleton.proxyToSession.find? fun entry =>
    (skeleton.sessions entry.2).stubIndex = stubIndex ∧ (skeleton.sessions entry.2).deviceId = deviceId ∧
      (skeleton.sessions entry.2).serviceName = name
  match matching with
  | none => (skeleton,0)
  | some entry => (skeleton.setProxy entry.2 none,entry.1)

def querySessionByInfo (skeleton : Skeleton) (name deviceId : List UInt8) : Option Nat :=
  (skeleton.proxyToSession.find? fun entry =>
    (skeleton.sessions entry.2).deviceId = deviceId ∧ (skeleton.sessions entry.2).serviceName = name).map Prod.snd

end Skeleton

/-- What threads that receive a remote object and threads that destroy a proxy call. A session that arrives
is new, and is made where the call that stores it is. -/
inductive Call where
  | queryHandleByDatabusSession (name deviceId : List UInt8) (stubIndex : UInt64)
  | getDBinderIdleHandle (session : Session)
  | proxyAttachDBinderSession (handle : UInt32) (session : Session)
  | proxyMoveDBinderSession (handle : UInt32) (proxy : Nat)
  | proxyDetachDBinderSession (handle : UInt32) (proxy : Nat)
  deriving DecidableEq, Repr

def Skeleton.step (skeleton : Skeleton) : Call → Skeleton
  | .queryHandleByDatabusSession name deviceId stubIndex => (skeleton.queryHandleByDatabusSession name deviceId stubIndex).1
  | .getDBinderIdleHandle session => ((skeleton.makeSession session).getDBinderIdleHandle skeleton.made).1
  | .proxyAttachDBinderSession handle session => ((skeleton.makeSession session).proxyAttachDBinderSession handle skeleton.made).1
  | .proxyMoveDBinderSession handle proxy => (skeleton.proxyMoveDBinderSession handle proxy).1
  | .proxyDetachDBinderSession handle proxy => (skeleton.proxyDetachDBinderSession handle proxy).1

end CommunicationIpc.Kernel.ProxySessions
