import CommunicationIpc.Library.Decimal
import CommunicationIpc.Library.Table
import Mathlib.Logic.Function.Basic

/-! The authorisation tables of `IPCProcessSkeleton` and the operations that change them.
Stubs are named by their addresses, a null pointer is `none`. `refs` and `calls` are not in
the source: they count the strong references these operations take and give back, and log
their calls. Every operation is one step. -/
namespace CommunicationIpc.Kernel.Auth
open CommunicationIpc.Library

def deviceIdLength : Nat := 64

structure App where
  deviceId : List UInt8
  pid : UInt32
  uid : UInt32
  tokenId : UInt32
  deriving DecidableEq

structure AppAuthInfo extends App where
  socketId : Int32
  stubIndex : UInt64
  stub : Option Nat

structure CommAuthInfo where
  stub : Nat
  app : App
  socketId : Int32
  deriving DecidableEq

/-- `%011u`: eleven digits, which hold every `uint32_t`. -/
def uintToString (input : UInt32) : List UInt8 := decimal 11 input.toNat

def App.appInfo (app : App) : List UInt8 :=
  app.deviceId ++ uintToString app.pid ++ uintToString app.uid ++ uintToString app.tokenId

structure Skeleton where
  appInfoToStubIndex : Table (List UInt8) (Table UInt64 Int32)
  commAuth : List CommAuthInfo
  stubObjects : Table UInt64 Nat
  randNum : UInt64
  dbinderSessionObjects : Table Int32 App

def isSameRemoteObject (stub : Nat) (app : App) (auth : CommAuthInfo) : Bool :=
  auth.stub = stub && auth.app.pid = app.pid && auth.app.uid = app.uid && auth.app.tokenId = app.tokenId &&
    auth.app.deviceId = app.deviceId

/-- The overload that does not compare stub and token. -/
def isSamePeer (app : App) (auth : CommAuthInfo) : Bool :=
  auth.app.pid = app.pid && auth.app.uid = app.uid && auth.app.deviceId = app.deviceId

namespace Skeleton

def queryStubIndex (skeleton : Skeleton) (stub : Nat) : UInt64 :=
  match skeleton.stubObjects.entries.find? (fun entry => entry.2 = stub) with
  | some entry => entry.1
  | none => 0

def queryStubByIndex (skeleton : Skeleton) (stubIndex : UInt64) : Option Nat :=
  if stubIndex = 0 then none else skeleton.stubObjects.lookup stubIndex

def addStubByIndex (skeleton : Skeleton) (stub : Nat) : Skeleton × UInt64 :=
  match skeleton.stubObjects.entries.find? (fun entry => entry.2 = stub) with
  | some entry => (skeleton,entry.1)
  | none =>
    let stubIndex := skeleton.randNum
    let drawn := { skeleton with randNum := skeleton.randNum+1 }
    match skeleton.stubObjects.lookup stubIndex with
    | none => ({ drawn with stubObjects := skeleton.stubObjects.insert stubIndex stub },stubIndex)
    | some _ => (drawn,0)

def eraseStubIndex (skeleton : Skeleton) (stub : Nat) : Skeleton × UInt64 :=
  match skeleton.stubObjects.entries.find? (fun entry => entry.2 = stub) with
  | some entry => ({ skeleton with stubObjects := skeleton.stubObjects.erase entry.1 },entry.1)
  | none => (skeleton,0)

def updatedIndexes (info : AppAuthInfo) : Option (Table UInt64 Int32) → Table UInt64 Int32
  | some indexes =>
    if info.stubIndex ≠ 0 then indexes.insert info.stubIndex info.socketId
    else if info.socketId ≠ 0 then Table.filterMapValues (fun _ => some info.socketId) indexes
    else indexes
  | none => (∅ : Table UInt64 Int32).insert info.stubIndex info.socketId

def attachOrUpdateAppAuthInfo (skeleton : Skeleton) (info : AppAuthInfo) : Skeleton × Bool :=
  let appInfo := info.toApp.appInfo
  let updated := { skeleton with
    appInfoToStubIndex := skeleton.appInfoToStubIndex.insert appInfo
      (updatedIndexes info (skeleton.appInfoToStubIndex.lookup appInfo)) }
  match info.stub with
  | none => (updated,false)
  | some stub =>
    if skeleton.commAuth.any (isSameRemoteObject stub info.toApp) ∧ info.socketId ≠ 0 then
      ({ updated with
        commAuth := skeleton.commAuth.modify (skeleton.commAuth.findIdx (isSameRemoteObject stub info.toApp))
          fun auth => { auth with socketId := info.socketId } },false)
    else ({ updated with commAuth := ⟨stub,info.toApp,info.socketId⟩ :: skeleton.commAuth },true)

def putIndexes (table : Table (List UInt8) (Table UInt64 Int32)) (appInfo : List UInt8)
    (indexes : Table UInt64 Int32) : Table (List UInt8) (Table UInt64 Int32) :=
  if indexes.entries = [] then table.erase appInfo else table.insert appInfo indexes

def detachAppAuthInfo (skeleton : Skeleton) (info : AppAuthInfo) : Skeleton × Bool :=
  let appInfo := info.toApp.appInfo
  match skeleton.appInfoToStubIndex.lookup appInfo with
  | none => (skeleton,false)
  | some indexes =>
    if indexes.lookup info.stubIndex = some info.socketId then
      ({ skeleton with
        appInfoToStubIndex := putIndexes skeleton.appInfoToStubIndex appInfo (indexes.erase info.stubIndex),
        commAuth := match info.stub with
          | none => skeleton.commAuth
          | some stub => skeleton.commAuth.eraseP (isSameRemoteObject stub info.toApp) },true)
    else ({ skeleton with appInfoToStubIndex := putIndexes skeleton.appInfoToStubIndex appInfo indexes },false)

def someUnlessEmpty (indexes : Table UInt64 Int32) : Option (Table UInt64 Int32) :=
  if indexes.entries = [] then none else some indexes

def detachAppAuthInfoByStub (skeleton : Skeleton) (stub : Nat) (stubIndex : UInt64) : Skeleton :=
  { skeleton with
    commAuth := skeleton.commAuth.filter (fun auth => auth.stub ≠ stub),
    appInfoToStubIndex := Table.filterMapValues (fun indexes => someUnlessEmpty (indexes.erase stubIndex))
      skeleton.appInfoToStubIndex }

def boundTo (socketId : Int32) (indexes : Table UInt64 Int32) : List UInt64 :=
  (indexes.entries.filter fun entry => entry.2 = socketId).map fun entry => entry.1

def detachAppAuthInfoBySocketId (skeleton : Skeleton) (socketId : Int32) : Skeleton × List UInt64 :=
  ({ skeleton with
    commAuth := skeleton.commAuth.filter (fun auth => auth.socketId ≠ socketId),
    appInfoToStubIndex := Table.filterMapValues
      (fun indexes => someUnlessEmpty (Table.filterMapValues (fun bound => if bound = socketId then none else some bound) indexes))
      skeleton.appInfoToStubIndex },
    skeleton.appInfoToStubIndex.entries.flatMap fun entry => boundTo socketId entry.2)

def queryCommAuthInfo (skeleton : Skeleton) (app : App) : Option UInt32 :=
  (skeleton.commAuth.find? (isSamePeer app)).map fun auth => auth.app.tokenId

def queryAppInfoToStubIndex (skeleton : Skeleton) (info : AppAuthInfo) : Bool :=
  match skeleton.appInfoToStubIndex.lookup info.toApp.appInfo with
  | none => false
  | some indexes =>
    match indexes.lookup info.stubIndex with
    | none => false
    | some bound => bound = 0 || bound = info.socketId

end Skeleton

inductive Call where
  | attach (info : AppAuthInfo)
  | detach (info : AppAuthInfo)
  | detachByStub (stub : Nat) (stubIndex : UInt64)
  | detachBySocketId (socketId : Int32)
  | sessionClosed (socketId : Int32) (peer : App)

structure State where
  skeleton : Skeleton
  objects : List Nat
  refs : Nat → Int
  calls : List Call

def State.new (randNum : UInt64) : State := ⟨⟨∅,[],∅,randNum,∅⟩,[],fun _ => 0,[]⟩

namespace State

def addRef (state : State) (stub : Nat) (change : Int) : State :=
  { state with refs := Function.update state.refs stub (state.refs stub+change) }

/-- `AttachOrUpdateAppAuthInfo`, with the caller's `IncStrongRef` on the stub when it returns true. -/
def attach (state : State) (info : AppAuthInfo) : State :=
  let (skeleton,added) := state.skeleton.attachOrUpdateAppAuthInfo info
  let attached := { state with skeleton := skeleton, calls := state.calls ++ [.attach info] }
  match info.stub with
  | some stub => if added then attached.addRef stub 1 else attached
  | none => attached

/-- `DetachAppAuthInfo`, with the caller's `DecStrongRef` on the stub when it returns true. -/
def detach (state : State) (info : AppAuthInfo) : State :=
  let (skeleton,removed) := state.skeleton.detachAppAuthInfo info
  let detached := { state with skeleton := skeleton, calls := state.calls ++ [.detach info] }
  match info.stub with
  | some stub => if removed then detached.addRef stub (-1) else detached
  | none => detached

def createServerSessionObject (state : State) (stub : Nat) (peer : App) : State :=
  -- IsContainsObject
  if stub ∉ state.objects then state
  else
    let (skeleton,stubIndex) := state.skeleton.addStubByIndex stub
    let indexed := { state with skeleton := skeleton }
    if stubIndex = 0 then indexed
    else
      -- ConnectRemoteObject2Session marks the socket as 0
      indexed.attach { peer with socketId := 0, stubIndex := stubIndex, stub := some stub }

def isDeviceIdIllegal (deviceId : List UInt8) : Bool := deviceId = [] || deviceIdLength < deviceId.length

def invokerDataBusThread (state : State) (stub : Nat) (deviceId sessionName : List UInt8) (remote : App)
    (created written : Bool) : State :=
  if stub ∉ state.objects ∨ isDeviceIdIllegal deviceId ∨ isDeviceIdIllegal remote.deviceId ∨ sessionName = [] ∨
      created = false then state
  else
    let (skeleton,stubIndex) := state.skeleton.addStubByIndex stub
    let indexed := { state with skeleton := skeleton }
    if stubIndex = 0 ∨ written = false then indexed
    else indexed.attach { remote with socketId := 0, stubIndex := stubIndex, stub := some stub }

/-- The index in the parcel, or the stub's own where the proxy wrote none. -/
def authIndex (state : State) (stub : Nat) (stubIndex : UInt64) : UInt64 :=
  if stubIndex = 0 then state.skeleton.queryStubIndex stub else stubIndex

def addAuthInfo (state : State) (stub : Nat) (remote : App) (stubIndex : UInt64) : State :=
  if stub ∉ state.objects ∨ isDeviceIdIllegal remote.deviceId then state
  else if state.authIndex stub stubIndex = 0 then state
  else state.attach { remote with socketId := 0, stubIndex := state.authIndex stub stubIndex, stub := some stub }

def dbinderIncRefsTransaction (state : State) (stub : Nat) (caller : App) (listenFd : Int32) : State :=
  if stub ∉ state.objects then state
  else state.attach { caller with socketId := listenFd, stubIndex := state.skeleton.queryStubIndex stub, stub := none }

def dbinderDecRefsTransaction (state : State) (stub : Nat) (caller : App) (listenFd : Int32) : State :=
  if stub ∉ state.objects then state
  else state.detach { caller with socketId := listenFd, stubIndex := state.skeleton.queryStubIndex stub, stub := some stub }

def onReceiveNewConnection (state : State) (socketId : Int32) (peer : App) : State :=
  match state.skeleton.queryCommAuthInfo peer with
  | none => state
  | some tokenId =>
    let remote := { peer with tokenId := tokenId }
    -- a session left on the socket is replaced
    let attached := { state with skeleton := { state.skeleton with
      dbinderSessionObjects := state.skeleton.dbinderSessionObjects.insert socketId remote } }
    attached.attach { remote with socketId := socketId, stubIndex := 0, stub := none }

def releaseIndex (state : State) (stubIndex : UInt64) : State :=
  match state.skeleton.queryStubByIndex stubIndex with
  | none => state
  | some stub => state.addRef stub (-1)

def sessionDetached (state : State) (socketId : Int32) : State :=
  let closing := match state.skeleton.dbinderSessionObjects.lookup socketId with
    | none => []
    | some peer => [Call.sessionClosed socketId peer]
  let skeleton := (state.skeleton.detachAppAuthInfoBySocketId socketId).1
  { state with
    skeleton := { skeleton with dbinderSessionObjects := skeleton.dbinderSessionObjects.erase socketId },
    calls := state.calls ++ closing ++ [.detachBySocketId socketId] }

def onDatabusSessionServerSideClosed (state : State) (socketId : Int32) : State :=
  let stubIndexs := (state.skeleton.detachAppAuthInfoBySocketId socketId).2
  stubIndexs.foldl releaseIndex (state.sessionDetached socketId)

/-- A new stub object; an address is used again only after its object is gone. -/
def onFirstStrongRef (state : State) (stub : Nat) : State :=
  if stub ∈ state.objects then state
  else { state with objects := stub :: state.objects, refs := Function.update state.refs stub 0 }

def onLastStrongRef (state : State) (stub : Nat) : State :=
  if stub ∉ state.objects then state
  else
    let (skeleton,stubIndex) := state.skeleton.eraseStubIndex stub
    { state with
      objects := state.objects.filter (fun object => object ≠ stub),
      skeleton := skeleton.detachAppAuthInfoByStub stub stubIndex,
      calls := state.calls ++ [.detachByStub stub stubIndex] }

end State

inductive Event where
  | createServerSessionObject (stub : Nat) (peer : App)
  | invokerDataBusThread (stub : Nat) (deviceId sessionName : List UInt8) (remote : App) (created written : Bool)
  | addAuthInfo (stub : Nat) (remote : App) (stubIndex : UInt64)
  | dbinderIncRefsTransaction (stub : Nat) (caller : App) (listenFd : Int32)
  | dbinderDecRefsTransaction (stub : Nat) (caller : App) (listenFd : Int32)
  | onReceiveNewConnection (socketId : Int32) (peer : App)
  | onDatabusSessionServerSideClosed (socketId : Int32)
  | onFirstStrongRef (stub : Nat)
  | onLastStrongRef (stub : Nat)

def State.step (state : State) : Event → State
  | .createServerSessionObject stub peer => state.createServerSessionObject stub peer
  | .invokerDataBusThread stub deviceId sessionName remote created written =>
    state.invokerDataBusThread stub deviceId sessionName remote created written
  | .addAuthInfo stub remote stubIndex => state.addAuthInfo stub remote stubIndex
  | .dbinderIncRefsTransaction stub caller listenFd => state.dbinderIncRefsTransaction stub caller listenFd
  | .dbinderDecRefsTransaction stub caller listenFd => state.dbinderDecRefsTransaction stub caller listenFd
  | .onReceiveNewConnection socketId peer => state.onReceiveNewConnection socketId peer
  | .onDatabusSessionServerSideClosed socketId => state.onDatabusSessionServerSideClosed socketId
  | .onFirstStrongRef stub => state.onFirstStrongRef stub
  | .onLastStrongRef stub => state.onLastStrongRef stub

end CommunicationIpc.Kernel.Auth
