import Mathlib.Logic.Function.Basic

/-! Death recipients of the C library: `ProcessAddDeathRecipient`, `ProcessRemoveDeathRecipient` and `SendObituary` over
the `DeathCallback` nodes of a skeleton. Nodes are named by their addresses, and the `OnRemoteDead` and `args` that an
`AddDeathRecipient` is given by the call. The two `Process` functions hold the lock of the skeleton from their look at the
node to their return; `SendObituary` holds only the node's. -/
namespace CommunicationIpc.Kernel.LiteDeathRecipients

def errNone : Int32 := 0
def errFailed : Int32 := -1
def errInvalidParam : Int32 := -2
def errDeadObject : Int32 := -32

def maxDeathCallbackNum : Nat := 4

structure Handler where
  usedFlag : Bool
  func : Option Nat
  deriving DecidableEq, Repr

structure DeathCallback where
  handler : List Handler
  handle : Int32
  deathNum : Int
  isRemoteDead : Bool
  isNewHandler : Bool
  deriving DecidableEq, Repr

/-- What `FirstAddObject` makes of a zeroed node. -/
def DeathCallback.new (handle : Int32) : DeathCallback := ⟨List.replicate maxDeathCallbackNum ⟨false,none⟩,handle,0,false,true⟩

inductive Add where
  | unstarted
  | locking (handle : Int32)
  | checking (handle : Int32)
  | filling (handle : Int32) (node : Nat)
  | counting (handle : Int32) (node : Nat) (ret : Int32)
  | registering (handle : Int32) (node : Nat)
  | unlocking (handle ret : Int32)
  | returned (handle ret : Int32)
  deriving DecidableEq, Repr

inductive Remove where
  | unstarted
  | locking (handle : Int32) (cbId : Nat)
  | checking (handle : Int32) (cbId : Nat)
  | clearing (handle : Int32) (cbId node : Nat)
  | unlocking (handle ret : Int32)
  | returned (handle ret : Int32)
  deriving DecidableEq, Repr

/-- `called` and `left` are the functions of `handler` that have been called and that are still to be called;
an element of the array that was not written is `none`. -/
inductive Obituary where
  | unstarted
  | locking (node : Nat)
  | calling (node : Nat) (called left : List (Option Nat))
  | returned (node : Nat) (called : List (Option Nat))
  deriving DecidableEq, Repr

inductive Holder where
  | add (call : Nat)
  | remove (call : Nat)
  deriving DecidableEq, Repr

structure State where
  objects : List Nat
  nodes : Nat → DeathCallback
  made : Nat
  lock : Option Holder
  adds : Nat → Add
  cbIds : Nat → Nat
  removes : Nat → Remove
  obituaries : Nat → Obituary

def State.new : State :=
  ⟨[],fun _ => DeathCallback.new 0,0,none,fun _ => .unstarted,fun _ => 0,fun _ => .unstarted,fun _ => .unstarted⟩

/-- `choice` is whether an allocation or a lock works in this step. `answer` is what `AddDeathRecipient` of the remote
invoker returns, or `none` where there is no invoker. -/
inductive Event where
  | firstAddObject (handle : Int32) (choice : Bool)
  | processAddDeathRecipient (call : Nat) (handle : Int32) (deathFunc cbId : Bool)
  | add (call : Nat) (choice : Bool) (answer : Option Int32)
  | processRemoveDeathRecipient (call : Nat) (handle : Int32) (cbId : Nat)
  | remove (call : Nat) (choice : Bool)
  | sendObituary (obituary node : Nat)
  | obituary (obituary : Nat)
  deriving DecidableEq, Repr

namespace State

def moveAdd (state : State) (call : Nat) (add : Add) : State :=
  { state with adds := Function.update state.adds call add }

def moveRemove (state : State) (call : Nat) (remove : Remove) : State :=
  { state with removes := Function.update state.removes call remove }

def moveObituary (state : State) (obituary : Nat) (place : Obituary) : State :=
  { state with obituaries := Function.update state.obituaries obituary place }

def put (state : State) (node : Nat) (value : DeathCallback) : State :=
  { state with nodes := Function.update state.nodes node value }

def withLock (state : State) (lock : Option Holder) : State := { state with lock := lock }

def find (state : State) (handle : Int32) : Option Nat :=
  state.objects.find? fun node => (state.nodes node).handle = handle

/-- `choice` is whether `calloc` works. -/
def addObject (state : State) (handle : Int32) (choice : Bool) : State :=
  match state.find handle with
  | some _ => state
  | none =>
    if choice then { state.put state.made (DeathCallback.new handle) with objects := state.made :: state.objects, made := state.made+1 }
    else state

end State

/-- The first slot that is not used. -/
def freeSlot (handler : List Handler) : Option Nat := handler.findIdx? fun slot => !slot.usedFlag

def setDeathHandlerPair (node : DeathCallback) (index func : Nat) : DeathCallback :=
  { node with handler := node.handler.set index ⟨true,some func⟩, deathNum := node.deathNum+1 }

def clearDeathHandler (node : DeathCallback) (cbId : Nat) : DeathCallback :=
  { node with handler := node.handler.set cbId ⟨false,none⟩, deathNum := node.deathNum-1 }

def slotFunc (slot : Handler) : Option Nat := if slot.usedFlag then slot.func else none

/-- The local array of `SendObituary`, with `deathNum` elements. -/
def copyHandlers (node : DeathCallback) : List (Option Nat) :=
  let copied := (node.handler.filterMap slotFunc).take node.deathNum.toNat
  copied.map some ++ List.replicate (node.deathNum.toNat-copied.length) none

namespace State

def stepAdd (state : State) (call : Nat) (choice : Bool) (answer : Option Int32) : Option State :=
  match state.adds call with
  | .unstarted | .returned _ _ => none
  | .locking handle =>
    if choice then
      if state.lock = none then some ((state.withLock (some (.add call))).moveAdd call (.checking handle)) else none
    else some (state.moveAdd call (.returned handle errFailed))
  | .checking handle =>
    match state.find handle with
    -- the loop ends without a node, and ret is still ERR_NONE
    | none => some (state.moveAdd call (.unlocking handle errNone))
    | some node =>
      if (state.nodes node).isRemoteDead then some (state.moveAdd call (.unlocking handle errDeadObject))
      else if (state.nodes node).deathNum = maxDeathCallbackNum then some (state.moveAdd call (.unlocking handle errInvalidParam))
      else some (state.moveAdd call (.filling handle node))
  | .filling handle node =>
    match freeSlot (state.nodes node).handler with
    | none => some (state.moveAdd call (.counting handle node errNone))
    | some index =>
      let filled := state.put node (setDeathHandlerPair (state.nodes node) index call)
      some ({ filled with cbIds := Function.update state.cbIds call index }.moveAdd call (.counting handle node errNone))
  | .counting handle node ret =>
    if (state.nodes node).deathNum = 1 ∧ (state.nodes node).isNewHandler = true then
      some ((state.put node { state.nodes node with isNewHandler := false }).moveAdd call (.registering handle node))
    else some (state.moveAdd call (.unlocking handle ret))
  | .registering handle _ => some (state.moveAdd call (.unlocking handle (answer.getD errInvalidParam)))
  | .unlocking handle ret => some ((state.withLock none).moveAdd call (.returned handle ret))

def stepRemove (state : State) (call : Nat) (choice : Bool) : Option State :=
  match state.removes call with
  | .unstarted | .returned _ _ => none
  | .locking handle cbId =>
    if choice then
      if state.lock = none then some ((state.withLock (some (.remove call))).moveRemove call (.checking handle cbId)) else none
    else some (state.moveRemove call (.returned handle errFailed))
  | .checking handle cbId =>
    match state.find handle with
    | none => some (state.moveRemove call (.unlocking handle errInvalidParam))
    | some node =>
      if (state.nodes node).isRemoteDead then some (state.moveRemove call (.unlocking handle errDeadObject))
      else some (state.moveRemove call (.clearing handle cbId node))
  | .clearing handle cbId node =>
    match (state.nodes node).handler[cbId]? with
    | some ⟨true,_⟩ =>
      some ((state.put node (clearDeathHandler (state.nodes node) cbId)).moveRemove call (.unlocking handle errNone))
    | _ => some (state.moveRemove call (.unlocking handle errInvalidParam))
  | .unlocking handle ret => some ((state.withLock none).moveRemove call (.returned handle ret))

def stepObituary (state : State) (obituary : Nat) : Option State :=
  match state.obituaries obituary with
  | .unstarted | .returned _ _ => none
  | .locking node =>
    some ((state.put node { state.nodes node with isRemoteDead := true }).moveObituary obituary
      (.calling node [] (copyHandlers (state.nodes node))))
  | .calling node called [] => some (state.moveObituary obituary (.returned node called))
  | .calling node called (func :: left) => some (state.moveObituary obituary (.calling node (called ++ [func]) left))

def step (state : State) : Event → Option State
  | .firstAddObject handle choice => if state.lock = none then some (state.addObject handle choice) else none
  | .processAddDeathRecipient call handle deathFunc cbId =>
    if state.adds call = .unstarted then
      if deathFunc = false ∨ cbId = false then some (state.moveAdd call (.returned handle errInvalidParam))
      else some (state.moveAdd call (.locking handle))
    else none
  | .add call choice answer => state.stepAdd call choice answer
  | .processRemoveDeathRecipient call handle cbId =>
    if state.removes call = .unstarted then
      if maxDeathCallbackNum ≤ cbId then some (state.moveRemove call (.returned handle errInvalidParam))
      else some (state.moveRemove call (.locking handle cbId))
    else none
  | .remove call choice => state.stepRemove call choice
  | .sendObituary obituary node =>
    if state.obituaries obituary = .unstarted ∧ node ∈ state.objects then some (state.moveObituary obituary (.locking node)) else none
  | .obituary obituary => state.stepObituary obituary

end State

end CommunicationIpc.Kernel.LiteDeathRecipients
