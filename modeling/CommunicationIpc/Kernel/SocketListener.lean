import Mathlib.Logic.Function.Basic

/-! The client sockets of `DatabusSocketListener`. Calls and callbacks are numbered in the order they begin; each locked section
and each call of the soft bus is one step, and the lock of a device, an object named by its address, is held over several. A
socket that the other side or the network has closed is shut from the section of its `ClientOnShutdown` on. -/
namespace CommunicationIpc.Kernel.SocketListener

structure DBinderSocketInfo where
  ownName : List UInt8
  peerName : List UInt8
  networkId : List UInt8
  deriving DecidableEq, Repr

def socketIdInvalid : Int32 := -1

/-- What `DBinderSocketInfo` is without arguments. -/
def DBinderSocketInfo.empty : DBinderSocketInfo := ⟨[],[],[]⟩

/-- A `CreateClientSocket`. -/
inductive Create where
  | querying (info : DBinderSocketInfo)
  | locking (info : DBinderSocketInfo) (infoMutex : Nat)
  | looking (info : DBinderSocketInfo) (infoMutex : Nat)
  | opening (info : DBinderSocketInfo) (infoMutex : Nat)
  | binding (info : DBinderSocketInfo) (infoMutex : Nat) (socketId : Int32)
  | shutting (info : DBinderSocketInfo) (infoMutex : Nat) (socketId : Int32)
  | erasing (info : DBinderSocketInfo) (infoMutex : Nat)
  | recording (info : DBinderSocketInfo) (infoMutex : Nat) (socketId : Int32)
  | unlocking (info : DBinderSocketInfo) (infoMutex : Nat) (result : Int32)
  | returned (info : DBinderSocketInfo) (result : Int32)
  deriving DecidableEq, Repr

/-- A `ShutdownSocket`, or a `ClientOnShutdown`. -/
inductive Close where
  | shutdownSocket (socketId : Int32)
  | clientOnShutdown (socketId : Int32)
  | erasing (info : DBinderSocketInfo)
  | done
  deriving DecidableEq, Repr

inductive Status where
  | created
  | bound
  | shut
  deriving DecidableEq, Repr

structure Socket where
  info : DBinderSocketInfo
  status : Status
  deriving DecidableEq, Repr

structure Listener where
  infoMutexMap : DBinderSocketInfo → Option Nat
  made : Nat
  owners : Nat → Option Nat
  socketInfoMap : List (DBinderSocketInfo × Int32)
  sockets : Int32 → Option Socket
  creates : List Create
  closes : List Close

def Listener.new : Listener := ⟨fun _ => none,0,fun _ => none,[],fun _ => none,[],[]⟩

/-- `socketId` is what `Socket` returns, an id that was not used before if it is positive; `answer` is whether `Bind`
returns `SOFTBUS_OK` or `SOFTBUS_TRANS_SOCKET_IN_USE`; `invoker` is whether there is an invoker. -/
inductive Event where
  | createClientSocket (info : DBinderSocketInfo)
  | create (call : Nat) (socketId : Int32) (answer : Bool)
  | shutdownSocket (socketId : Int32)
  | clientOnShutdown (socketId : Int32) (invoker : Bool)
  | close (call : Nat)
  deriving DecidableEq, Repr

namespace Listener

def moveCreate (listener : Listener) (call : Nat) (create : Create) : Listener :=
  { listener with creates := listener.creates.set call create }

def moveClose (listener : Listener) (call : Nat) (close : Close) : Listener :=
  { listener with closes := listener.closes.set call close }

def find (listener : Listener) (info : DBinderSocketInfo) : Option Int32 :=
  (listener.socketInfoMap.find? fun entry => entry.1 = info).map Prod.snd

/-- `socketInfoMap_[info] = socketId`. -/
def record (listener : Listener) (info : DBinderSocketInfo) (socketId : Int32) : Listener :=
  { listener with
    socketInfoMap := (listener.socketInfoMap.eraseP fun entry => entry.1 = info) ++ [(info,socketId)] }

def setSocket (listener : Listener) (socketId : Int32) (socket : Socket) : Listener :=
  { listener with sockets := Function.update listener.sockets socketId (some socket) }

/-- `Shutdown` of the soft bus, or the end of a connection. -/
def shutdown (listener : Listener) (socketId : Int32) : Listener :=
  match listener.sockets socketId with
  | some socket => listener.setSocket socketId { socket with status := .shut }
  | none => listener

def queryOrNewInfoMutex (listener : Listener) (info : DBinderSocketInfo) : Listener × Nat :=
  match listener.infoMutexMap info with
  | some infoMutex => (listener,infoMutex)
  | none =>
    ({ listener with infoMutexMap := Function.update listener.infoMutexMap info (some listener.made), made := listener.made+1 },
      listener.made)

def eraseDeviceLock (listener : Listener) (info : DBinderSocketInfo) : Listener :=
  { listener with infoMutexMap := Function.update listener.infoMutexMap info none }

def setOwner (listener : Listener) (infoMutex : Nat) (owner : Option Nat) : Listener :=
  { listener with owners := Function.update listener.owners infoMutex owner }

/-- The search of `ShutdownSocket` and `ClientOnShutdown`, with the info they give to `EraseDeviceLock`. -/
def eraseSocket (listener : Listener) (socketId : Int32) : Listener × DBinderSocketInfo :=
  match listener.socketInfoMap.find? fun entry => entry.2 = socketId with
  | some entry => ({ listener with socketInfoMap := listener.socketInfoMap.eraseP fun entry => entry.2 = socketId },entry.1)
  | none => (listener,.empty)

def stepCreate (listener : Listener) (call : Nat) (socketId : Int32) (answer : Bool) : Option Listener :=
  match listener.creates[call]? with
  | none | some (.returned _ _) => none
  | some (.querying info) =>
    match listener.queryOrNewInfoMutex info with
    | (listener,infoMutex) => some (listener.moveCreate call (.locking info infoMutex))
  | some (.locking info infoMutex) =>
    if listener.owners infoMutex = none then
      some ((listener.setOwner infoMutex (some call)).moveCreate call (.looking info infoMutex))
    else none
  | some (.looking info infoMutex) =>
    match listener.find info with
    | some found => some (listener.moveCreate call (.unlocking info infoMutex found))
    | none => some (listener.moveCreate call (.opening info infoMutex))
  | some (.opening info infoMutex) =>
    if socketId ≤ 0 then some (listener.moveCreate call (.unlocking info infoMutex socketIdInvalid))
    else if listener.sockets socketId = none then
      some ((listener.setSocket socketId ⟨info,.created⟩).moveCreate call (.binding info infoMutex socketId))
    else none
  | some (.binding info infoMutex socketId) =>
    if answer then some ((listener.setSocket socketId ⟨info,.bound⟩).moveCreate call (.recording info infoMutex socketId))
    else some (listener.moveCreate call (.shutting info infoMutex socketId))
  | some (.shutting info infoMutex socketId) => some ((listener.shutdown socketId).moveCreate call (.erasing info infoMutex))
  | some (.erasing info infoMutex) => some ((listener.eraseDeviceLock info).moveCreate call (.unlocking info infoMutex socketIdInvalid))
  | some (.recording info infoMutex socketId) =>
    some ((listener.record info socketId).moveCreate call (.unlocking info infoMutex socketId))
  | some (.unlocking info infoMutex result) => some ((listener.setOwner infoMutex none).moveCreate call (.returned info result))

def stepClose (listener : Listener) (call : Nat) : Option Listener :=
  match listener.closes[call]? with
  | none | some .done => none
  | some (.shutdownSocket socketId) =>
    match listener.socketInfoMap.find? fun entry => entry.2 = socketId with
    | some _ =>
      let (erased,info) := (listener.shutdown socketId).eraseSocket socketId
      some (erased.moveClose call (.erasing info))
    | none => some (listener.moveClose call (.erasing .empty))
  | some (.clientOnShutdown socketId) =>
    let (erased,info) := (listener.shutdown socketId).eraseSocket socketId
    some (erased.moveClose call (.erasing info))
  | some (.erasing info) => some ((listener.eraseDeviceLock info).moveClose call .done)

def step (listener : Listener) : Event → Option Listener
  | .createClientSocket info => some { listener with creates := listener.creates ++ [.querying info] }
  | .create call socketId answer => listener.stepCreate call socketId answer
  | .shutdownSocket socketId => some { listener with closes := listener.closes ++ [.shutdownSocket socketId] }
  | .clientOnShutdown socketId invoker =>
    match listener.sockets socketId with
    | some ⟨_,.bound⟩ =>
      if invoker then some { listener with closes := listener.closes ++ [.clientOnShutdown socketId] }
      else some { listener.shutdown socketId with closes := listener.closes ++ [.done] }
    | _ => none
  | .close call => listener.stepClose call

end Listener

end CommunicationIpc.Kernel.SocketListener
