import CommunicationIpc.Kernel.RawData
import Mathlib.Logic.Function.Basic

/-! The life of proxies: `FindOrNewObject` with `GetProxyObject` under the object mutex, `QueryObject` that gives the mutex up, and
`OnLastStrongRef`, each call and each proxy one step at a time. `AttemptIncStrong` fails once the strong count is zero. An address is a
place in `proxies` and is not used again; a proxy is freed only when its strong count is zero and the table has no weak pointer to it.
There is an invoker, and its commands can be written. -/
namespace CommunicationIpc.Kernel.ProxyLife
open CommunicationIpc.Kernel.RawData (toString32)

def invalidHandleValue : Int32 := -1
def detachProxyRefCount : Nat := 2

/-- `IPCObjectProxy` and the handle, as `Str8ToStr16` takes it. -/
def makeHandleDescriptor (handle : Int32) : List UInt8 :=
  [73,80,67,79,98,106,101,99,116,80,114,111,120,121] ++ toString32 handle

/-- From `releasing` on the strong count is zero: before `ReleaseHandle`, before `DetachObject`, after it, and freed. -/
inductive Stage where
  | referenced
  | releasing
  | detaching
  | detached
  | destroyed
  deriving DecidableEq, Repr

/-- `held` is not in the source: how many of the strong references were returned to callers, or copied by them. -/
structure Proxy where
  handle : Int32
  strong : Nat
  held : Nat
  stage : Stage
  deriving DecidableEq, Repr

/-- Where a call is: of `FindOrNewObject`, which has the object mutex up to `unlocking`, or of `QueryObject` with the lock flag, at
`looking`, `looked` and `checked`. -/
inductive Call where
  | querying (handle : Int32)
  | found (handle : Int32) (proxy : Nat)
  | attempting (handle : Int32) (proxy : Nat)
  | missing (handle : Int32)
  | attaching (proxy : Nat)
  | unlocking (result : Option Nat)
  | initialising (proxy : Nat)
  | failed (proxy : Nat)
  | detaching (proxy : Nat)
  | dropping (proxy : Nat)
  | looking (handle : Int32)
  | looked (proxy : Nat)
  | checked (proxy : Nat)
  | returned (result : Option Nat)
  deriving DecidableEq, Repr

structure State where
  proxies : List Proxy
  objects : List UInt8 → Option Nat
  objectMutex : Option Nat
  calls : List Call
  /-- The `BC_ACQUIRE` and the `BC_RELEASE` commands for each handle. -/
  acquired : Int32 → Nat
  released : Int32 → Nat

def State.new : State := ⟨[],fun _ => none,none,[],fun _ => 0,fun _ => 0⟩

namespace State

def moveCall (state : State) (call : Nat) (place : Call) : State := { state with calls := state.calls.set call place }

def put (state : State) (index : Nat) (proxy : Proxy) : State := { state with proxies := state.proxies.set index proxy }

end State

def Proxy.incStrong (proxy : Proxy) : Proxy := { proxy with strong := proxy.strong+1 }

/-- The last strong reference starts `OnLastStrongRef`. -/
def Proxy.decStrong (proxy : Proxy) : Proxy :=
  { proxy with strong := proxy.strong-1, stage := if proxy.strong-1 = 0 then .releasing else proxy.stage }

/-- `validObjectRecord_` has a proxy from its constructor to its destructor. -/
def Proxy.isValidObject (proxy : Proxy) : Bool := proxy.stage ≠ .destroyed

namespace State

def detachObject (state : State) (index : Nat) (proxy : Proxy) : State :=
  let descriptor := makeHandleDescriptor proxy.handle
  if state.objects descriptor = some index then { state with objects := Function.update state.objects descriptor none } else state

/-- One step of a call. `choice` is whether the service manager answers and the proxy is made, or whether its initialisation works. -/
def stepCall (state : State) (call : Nat) (choice : Bool) : Option State :=
  match state.calls[call]? with
  | none => none
  | some (.querying handle) =>
    match state.objects (makeHandleDescriptor handle) with
    | none => some (state.moveCall call (.missing handle))
    | some index => some (state.moveCall call (.found handle index))
  | some (.found handle index) =>
    match state.proxies[index]? with
    | none => none
    | some proxy => some (state.moveCall call (if proxy.isValidObject then .attempting handle index else .missing handle))
  | some (.attempting handle index) =>
    match state.proxies[index]? with
    | none => none
    | some proxy =>
      -- the memory of a destroyed proxy is not there any more
      if proxy.stage = .destroyed then none
      else if proxy.strong = 0 then some (state.moveCall call (.missing handle))
      else some ((state.put index proxy.incStrong).moveCall call (.unlocking (some index)))
  | some (.missing handle) =>
    if choice then
      some { state with
        proxies := state.proxies ++ [⟨handle,1,0,.referenced⟩]
        acquired := Function.update state.acquired handle (state.acquired handle+1)
        calls := state.calls.set call (.attaching state.proxies.length) }
    else some (state.moveCall call (.unlocking none))
  | some (.attaching index) =>
    match state.proxies[index]? with
    | none => none
    | some proxy =>
      some ({ state with objects := Function.update state.objects (makeHandleDescriptor proxy.handle) (some index) }.moveCall call
        (.unlocking (some index)))
  | some (.unlocking none) => some ({ state with objectMutex := none }.moveCall call (.returned none))
  | some (.unlocking (some index)) =>
    match state.proxies[index]? with
    | none => none
    -- the local `proxy` of FindOrNewObject is a second reference
    | some proxy => some (({ state with objectMutex := none }.put index proxy.incStrong).moveCall call (.initialising index))
  | some (.initialising index) =>
    match state.proxies[index]? with
    | none => none
    | some proxy =>
      if choice then
        some ((state.put index { proxy with held := proxy.held+1 }.decStrong).moveCall call (.returned (some index)))
      else some (state.moveCall call (.failed index))
  | some (.failed index) =>
    match state.proxies[index]? with
    | none => none
    | some proxy => some (state.moveCall call (if proxy.strong ≤ detachProxyRefCount then .detaching index else .dropping index))
  | some (.detaching index) =>
    match state.proxies[index]?,state.objectMutex with
    | some proxy,none => some ((state.detachObject index proxy).moveCall call (.dropping index))
    | _,_ => none
  | some (.dropping index) =>
    match state.proxies[index]? with
    | none => none
    | some proxy => some ((state.put index proxy.decStrong.decStrong).moveCall call (.returned none))
  | some (.looking handle) =>
    -- the table is read under the mutex, which is free again after this step
    match state.objectMutex,state.objects (makeHandleDescriptor handle) with
    | some _,_ => none
    | none,none => some (state.moveCall call (.returned none))
    | none,some index => some (state.moveCall call (.looked index))
  | some (.looked index) =>
    match state.proxies[index]? with
    | none => none
    | some proxy => some (state.moveCall call (if proxy.isValidObject then .checked index else .returned none))
  | some (.checked index) =>
    match state.proxies[index]? with
    | none => none
    | some proxy =>
      if proxy.stage = .destroyed then none
      else if proxy.strong = 0 then some (state.moveCall call (.returned none))
      else some ((state.put index { proxy.incStrong with held := proxy.held+1 }).moveCall call (.returned (some index)))
  | some (.returned _) => none

/-- One step of `OnLastStrongRef`. -/
def onLastStrongRef (state : State) (index : Nat) : Option State :=
  match state.proxies[index]? with
  | none => none
  | some proxy =>
    match proxy.stage with
    | .releasing =>
      if proxy.handle = invalidHandleValue then some (state.put index { proxy with stage := .detaching })
      else some { state.put index { proxy with stage := .detaching } with
        released := Function.update state.released proxy.handle (state.released proxy.handle+1) }
    | .detaching =>
      if state.objectMutex = none then some ((state.detachObject index proxy).put index { proxy with stage := .detached }) else none
    | _ => none

end State

inductive Event where
  | findOrNewObject (handle : Int32)
  | queryObject (handle : Int32)
  | call (call : Nat) (choice : Bool)
  | copy (proxy : Nat)
  | drop (proxy : Nat)
  | onLastStrongRef (proxy : Nat)
  | destroy (proxy : Nat)
  deriving DecidableEq, Repr

def State.step (state : State) : Event → Option State
  | .findOrNewObject handle =>
    if state.objectMutex = none then
      some { state with calls := state.calls ++ [.querying handle], objectMutex := some state.calls.length }
    else none
  | .queryObject handle => some { state with calls := state.calls ++ [.looking handle] }
  | .call call choice => state.stepCall call choice
  | .copy index =>
    match state.proxies[index]? with
    | none => none
    | some proxy => if 0 < proxy.held then some (state.put index { proxy.incStrong with held := proxy.held+1 }) else none
  | .drop index =>
    match state.proxies[index]? with
    | none => none
    | some proxy => if 0 < proxy.held then some (state.put index { proxy.decStrong with held := proxy.held-1 }) else none
  | .onLastStrongRef index => state.onLastStrongRef index
  | .destroy index =>
    match state.proxies[index]? with
    | none => none
    | some proxy =>
      if proxy.stage = .detached ∧ state.objects (makeHandleDescriptor proxy.handle) ≠ some index then
        some (state.put index { proxy with stage := .destroyed })
      else none

end CommunicationIpc.Kernel.ProxyLife
