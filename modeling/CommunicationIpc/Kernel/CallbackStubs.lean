import Mathlib.Data.List.Basic

/-! The fake stubs that stand for dbinder proxies: `WriteDBinderProxy` with the table `dbinderSentCallback_`, one step for each
access to the table. A call makes at most one stub, which has the number of the call. -/
namespace CommunicationIpc.Kernel.CallbackStubs

/-- A `DBinderCallbackStub`. -/
structure Fake where
  /-- Strong references of others than the calls in progress: parcels, and who read from them. -/
  holders : Nat
  /-- `AttachDBinderCallbackStub` succeeded for it. -/
  attached : Bool
  /-- Its destructor has been through `DetachDBinderCallbackStub`. -/
  destroyed : Bool
deriving DecidableEq

inductive State
  | begun
  /-- `QueryDBinderCallbackStub` returned null. -/
  | missed
  /-- Its stub is made. -/
  | made
  /-- `fakeStub` is a stub in the table. -/
  | found (stub : Nat)
  /-- Behind `WriteRemoteObject`; the reference of `fakeStub` is still held. -/
  | written (stub : Nat)
  | returned (result : Bool)
deriving DecidableEq

structure Call where
  proxy : Nat
  state : State
  fake : Option Fake
deriving DecidableEq

structure System where
  dbinderSentCallback : List (Nat × Nat)
  calls : List Call
  /-- The calls that returned false. -/
  failed : List Nat

inductive Event
  /-- A call whose session exists. -/
  | begin (proxy : Nat)
  | queryDBinderCallbackStub (call : Nat)
  | newStub (call : Nat)
  | attachDBinderCallbackStub (call : Nat)
  | writeRemoteObject (call : Nat)
  | finish (call : Nat)
  /-- A holder's strong reference is copied, and one is dropped. -/
  | acquire (stub : Nat)
  | release (stub : Nat)
  /-- `~DBinderCallbackStub`, any time after the last strong reference was dropped. -/
  | destroy (stub : Nat)
deriving DecidableEq

def State.uses (stub : Nat) : State → Bool
  | .found other => other = stub
  | .written other => other = stub
  | _ => false

namespace System

def new : System := ⟨[],[],[]⟩

/-- A stub has a strong reference: of its maker, of a call that found it, or of a holder. -/
def referenced (system : System) (stub : Nat) : Bool :=
  system.calls.any (fun call => call.state.uses stub) ||
    (system.calls[stub]?).any fun maker => decide (maker.state = .made) || maker.fake.any fun fake => 0 < fake.holders

def setState (system : System) (index : Nat) (state : State) : System :=
  {system with calls := system.calls.modify index fun call => {call with state := state}}

def changeFake (system : System) (stub : Nat) (change : Fake → Fake) : System :=
  {system with calls := system.calls.modify stub fun call => {call with fake := call.fake.map change}}

/-- The weak pointer of the entry is promoted. -/
def queryDBinderCallbackStub (system : System) (proxy : Nat) : Option Nat :=
  match system.dbinderSentCallback.find? fun entry => entry.1 = proxy with
  | some entry => if system.referenced entry.2 then some entry.2 else none
  | none => none

/-- An entry for the proxy, dead or not, keeps its place. -/
def attachDBinderCallbackStub (system : System) (proxy stub : Nat) : System × Bool :=
  if system.dbinderSentCallback.any fun entry => entry.1 = proxy then (system,false)
  else ({system with dbinderSentCallback := system.dbinderSentCallback ++ [(proxy,stub)]},true)

def detachDBinderCallbackStub (system : System) (stub : Nat) : System :=
  {system with dbinderSentCallback := system.dbinderSentCallback.eraseP fun entry => entry.2 = stub}

def queryDBinderCallbackProxy (system : System) (stub : Nat) : Option Nat :=
  (system.dbinderSentCallback.find? fun entry => decide (entry.2 = stub) && system.referenced entry.2).map Prod.fst

def step (system : System) : Event → Option System
  | .begin proxy => some {system with calls := system.calls ++ [⟨proxy,.begun,none⟩]}
  | .queryDBinderCallbackStub index =>
    match system.calls[index]? with
    | some ⟨proxy,.begun,_⟩ =>
      match system.queryDBinderCallbackStub proxy with
      | some stub => some (system.setState index (.found stub))
      | none => some (system.setState index .missed)
    | _ => none
  | .newStub index =>
    match system.calls[index]? with
    | some ⟨_,.missed,_⟩ => some {system with
        calls := system.calls.modify index fun call => {call with state := .made,fake := some ⟨0,false,false⟩}}
    | _ => none
  | .attachDBinderCallbackStub index =>
    match system.calls[index]? with
    | some ⟨proxy,.made,_⟩ =>
      let (system,attached) := system.attachDBinderCallbackStub proxy index
      if attached then some {system with calls := system.calls.modify index fun call =>
        {call with state := .found index,fake := call.fake.map fun fake => {fake with attached := true}}}
      else some {system.setState index (.returned false) with failed := system.failed ++ [index]}
    | _ => none
  | .writeRemoteObject index =>
    match system.calls[index]? with
    | some ⟨_,.found stub,_⟩ =>
      some ((system.changeFake stub fun fake => {fake with holders := fake.holders+1}).setState index (.written stub))
    | _ => none
  | .finish index =>
    match system.calls[index]? with
    | some ⟨_,.written _,_⟩ => some (system.setState index (.returned true))
    | _ => none
  | .acquire stub =>
    match system.calls[stub]? with
    | some ⟨_,_,some fake⟩ =>
      if 0 < fake.holders then some (system.changeFake stub fun fake => {fake with holders := fake.holders+1}) else none
    | _ => none
  | .release stub =>
    match system.calls[stub]? with
    | some ⟨_,_,some fake⟩ =>
      if 0 < fake.holders then some (system.changeFake stub fun fake => {fake with holders := fake.holders-1}) else none
    | _ => none
  | .destroy stub =>
    match system.calls[stub]? with
    | some ⟨_,_,some fake⟩ =>
      if system.referenced stub ∨ fake.destroyed then none
      else some ((system.detachDBinderCallbackStub stub).changeFake stub fun fake => {fake with destroyed := true})
    | _ => none

end System

end CommunicationIpc.Kernel.CallbackStubs
