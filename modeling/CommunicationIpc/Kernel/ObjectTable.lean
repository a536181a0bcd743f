import Mathlib.Logic.Function.Basic

/-! The object table of a process: what `AttachObject` and `DetachObject` of `IPCProcessSkeleton` do to it under the mutex. A map
of descriptors to weak pointers is a function of the descriptor; a weak pointer is the address it was made of. -/
namespace CommunicationIpc.Kernel.ObjectTable

/-- Address 0 is the null pointer. -/
structure RemoteObject where
  address : UInt64
  isProxyObject : Bool
  descriptor : List UInt16
deriving DecidableEq

structure ProcessSkeleton where
  objects : List UInt16 → Option UInt64
  isContainStub : UInt64 → Bool
  proxyObjectCountNum : UInt64
  ipcProxyLimitNum : UInt64
  /-- Whether `ipcProxyCallback_` is set. -/
  ipcProxyCallback : Bool
  /-- What it was called with. -/
  exceeded : List UInt64

namespace ProcessSkeleton

def detachObject (skeleton : ProcessSkeleton) (object : RemoteObject) : ProcessSkeleton × Bool :=
  let skeleton := {skeleton with isContainStub := Function.update skeleton.isContainStub object.address false}
  match skeleton.objects object.descriptor with
  | none => (skeleton,false)
  | some recorded =>
    let erased := {skeleton with objects := Function.update skeleton.objects object.descriptor none}
    if object.isProxyObject then
      let count := skeleton.proxyObjectCountNum-1
      if recorded ≠ object.address then ({skeleton with proxyObjectCountNum := count},true)
      else ({erased with proxyObjectCountNum := count},true)
    else (erased,true)

def attachObject (skeleton : ProcessSkeleton) (object : RemoteObject) : ProcessSkeleton × Bool :=
  let skeleton := {skeleton with isContainStub := Function.update skeleton.isContainStub object.address true}
  if object.descriptor = [] then (skeleton,false)
  else
    let skeleton :=
      if object.isProxyObject then
        let count := skeleton.proxyObjectCountNum+1
        let exceeds := 0 < skeleton.ipcProxyLimitNum ∧ skeleton.ipcProxyLimitNum < count ∧ skeleton.ipcProxyCallback = true
        {skeleton with
          proxyObjectCountNum := count
          exceeded := if exceeds then skeleton.exceeded ++ [count] else skeleton.exceeded}
      else skeleton
    ({skeleton with objects := Function.update skeleton.objects object.descriptor (some object.address)},true)

end ProcessSkeleton

/-- `IPCProcessSkeleton::DetachObject`. -/
def detachObject (skeleton : ProcessSkeleton) (object : RemoteObject) : ProcessSkeleton × Bool :=
  if object.address = 0 ∨ object.descriptor = [] then (skeleton,false) else skeleton.detachObject object

/-- `IPCProcessSkeleton::AttachObject`. -/
def attachObject (skeleton : ProcessSkeleton) (object : RemoteObject) : ProcessSkeleton × Bool :=
  if object.address = 0 then (skeleton,false) else skeleton.attachObject object

inductive Event
  | attach (object : RemoteObject)
  | detach (object : RemoteObject)
deriving DecidableEq

/-- The table, with the addresses of the proxies that were attached and not detached since. -/
structure System where
  skeleton : ProcessSkeleton
  attached : List UInt64
  /-- Whether the count was taken below zero. -/
  wrapped : Bool

namespace System

def new (limit : UInt64) (callback : Bool) : System :=
  ⟨⟨fun _ => none,fun _ => false,0,limit,callback,[]⟩,[],false⟩

def step (system : System) : Event → System
  | .attach object =>
    let (skeleton,attached) := attachObject system.skeleton object
    {system with
      skeleton := skeleton
      attached := if attached ∧ object.isProxyObject = true then system.attached.insert object.address else system.attached}
  | .detach object =>
    let (skeleton,_) := detachObject system.skeleton object
    {skeleton := skeleton
     attached := if object.isProxyObject then system.attached.erase object.address else system.attached
     wrapped := system.wrapped || decide (system.skeleton.proxyObjectCountNum < skeleton.proxyObjectCountNum)}

end System

end CommunicationIpc.Kernel.ObjectTable
