import Mathlib.Data.List.Basic

/-! `WaitForInit` of a proxy, called by any number of threads, with one step for each access to the fields they share. -/
namespace CommunicationIpc.Kernel.ProxyInit

inductive Proto
  | binder
  | databus
  | error
deriving DecidableEq

inductive InitState
  | notInitialized
  | initializing
  | initialized
deriving DecidableEq

/-- Inside `UpdateProto`. -/
inductive Stage
  | begun
  /-- It failed, and the proxy is marked as dead. -/
  | died
  /-- `proto_` is what it shall be. -/
  | settled (success : Bool)
deriving DecidableEq

inductive Phase
  | entered
  /-- `IsObjectDead` was true. -/
  | foundDead
  | revived
  /-- In front of `compare_exchange_strong`. -/
  | ready
  | updating (stage : Stage)
  /-- `UpdateProto` has returned; the last store to `initState_` is to come. -/
  | updated (success : Bool)
  | waiting
  /-- It has left the loop. -/
  | woken
  /-- The proxy was initialised when it came. -/
  | found
  /-- No session: `IF_PROT_ERROR` is stored, and the proxy is not yet marked as dead. -/
  | lost
  /-- In front of the last look at `proto_`. -/
  | checking
  | failing
  | returned
deriving DecidableEq

structure Call where
  phase : Phase
  /-- It has run `UpdateProto` itself. -/
  ran : Bool
  /-- The call whose `UpdateProto` had settled `proto_` when this one saw that it need not wait. -/
  seen : Option Nat
deriving DecidableEq

structure Shared where
  initState : InitState
  isRemoteDead : Bool
  proto : Proto
  /-- The call whose `UpdateProto` settled `proto_` last. -/
  author : Option Nat
deriving DecidableEq

/-- What the outside decides: whether there are negotiation data of the databus, and whether a session, an allocation or the
remote stub answers. -/
structure Choice where
  databus : Bool
  success : Bool
deriving DecidableEq

/-- The next step of a call. -/
def advance (index : Nat) (shared : Shared) (call : Call) (choice : Choice) : Option (Shared × Call) :=
  match call.phase with
  | .entered => some (shared,{call with phase := if shared.isRemoteDead then .foundDead else .ready})
  | .foundDead => some ({shared with isRemoteDead := false},{call with phase := .revived})
  | .revived => some ({shared with initState := .notInitialized},{call with phase := .ready})
  | .ready =>
    match shared.initState with
    | .notInitialized => some ({shared with initState := .initializing},{call with phase := .updating .begun,ran := true})
    | .initializing => some (shared,{call with phase := .waiting})
    | .initialized => some (shared,{call with phase := .found,seen := shared.author})
  | .updating .begun =>
    if choice.databus ∧ ¬ choice.success then some ({shared with isRemoteDead := true},{call with phase := .updating .died})
    else
      -- without a session `proto_` stays what it is
      let proto := if choice.success then .databus else shared.proto
      some ({shared with proto := proto,author := some index},{call with phase := .updating (.settled true)})
  | .updating .died => some ({shared with proto := .error,author := some index},{call with phase := .updating (.settled false)})
  | .updating (.settled success) => some (shared,{call with phase := .updated success})
  | .updated success =>
    some ({shared with initState := if success then .initialized else .notInitialized},
      {call with phase := if success then .checking else .returned})
  | .waiting =>
    if shared.initState = .initializing then some (shared,call)
    else some (shared,{call with phase := .woken,seen := shared.author})
  | .woken => some (shared,{call with phase := if shared.initState = .initialized then .checking else .returned})
  | .found =>
    if shared.proto = .databus ∧ ¬ choice.success then some ({shared with proto := .error},{call with phase := .lost})
    else some (shared,{call with phase := .checking})
  | .lost => some ({shared with isRemoteDead := true},{call with phase := .checking})
  | .checking =>
    if shared.proto = .databus ∧ ¬ choice.success then some ({shared with proto := .error},{call with phase := .failing})
    else some (shared,{call with phase := .returned})
  | .failing => some ({shared with isRemoteDead := true},{call with phase := .returned})
  | .returned => none

structure System where
  shared : Shared
  calls : List Call

inductive Event
  | enter
  | advance (call : Nat) (choice : Choice)
  | remoteDied
deriving DecidableEq

namespace System

def new : System := ⟨⟨.notInitialized,false,.binder,none⟩,[]⟩

def step (system : System) : Event → Option System
  | .enter => some {system with calls := system.calls ++ [⟨.entered,false,none⟩]}
  | .advance index choice => do
    let call ← system.calls[index]?
    let (shared,call) ← ProxyInit.advance index system.shared call choice
    return ⟨shared,system.calls.set index call⟩
  | .remoteDied => some {system with shared := {system.shared with isRemoteDead := true}}

end System

end CommunicationIpc.Kernel.ProxyInit
