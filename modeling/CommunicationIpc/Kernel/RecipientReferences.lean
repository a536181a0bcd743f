import CommunicationIpc.Kernel.BinderOutput
import Mathlib.Logic.Function.Basic

/-! Death and refresh registrations of proxies: the commands that `AddRecipient` and `RemoveRecipient` of a `BinderInvoker` queue, the
driver that takes them, and the strong reference that the invoker holds on the proxy meanwhile. The cookie is the address of the
proxy. Each thread has an invoker of its own. -/
namespace CommunicationIpc.Kernel.RecipientReferences
open CommunicationIpc.Kernel.BinderOutput (Recipient)

structure Registration where
  recipient : Recipient
  handle : UInt32
  cookie : UInt64
deriving DecidableEq

inductive Command
  /-- `BC_REQUEST_DEATH_NOTIFICATION` or `BC_REQUEST_REFRESH_NOTIFICATION`. -/
  | request (registration : Registration)
  /-- `BC_CLEAR_DEATH_NOTIFICATION` or `BC_CLEAR_REFRESH_NOTIFICATION`. -/
  | clear (registration : Registration)
  | other
deriving DecidableEq

structure Driver where
  held : List Registration
  /-- Cleared, with the `BR_CLEAR_*_DONE` not yet read. -/
  cleared : List Registration
deriving DecidableEq

/-- The driver consumes a command. It may take on a requested registration or not; it clears and confirms one that it holds. -/
def Driver.take (driver : Driver) : Command × Bool → Driver
  | (.request registration,accepted) => if accepted then {driver with held := driver.held ++ [registration]} else driver
  | (.clear registration,_) =>
    if registration ∈ driver.held then ⟨driver.held.erase registration,driver.cleared ++ [registration]⟩ else driver
  | (.other,_) => driver

/-- One use of the driver: for each command that it consumes whether it takes the registration on, and the result. -/
structure Ioctl where
  consumed : List Bool
  error : Int
deriving DecidableEq

structure Flush where
  alive : Bool
  first : Ioctl
  second : Ioctl
deriving DecidableEq

def ipcInvokerConnectErr : Int := 403

/-- `TransactWithDriver(false)`: what the driver consumes, what is left in `output_`, and the result. -/
def transactWithDriver (output : List Command) (ioctl : Ioctl) : List (Command × Bool) × List Command × Int :=
  if output = [] then ([],[],0) else (output.zip ioctl.consumed,output.drop ioctl.consumed.length,ioctl.error)

def flushCommands (output : List Command) (flush : Flush) : List (Command × Bool) × List Command × Int :=
  if ¬ flush.alive then ([],output,ipcInvokerConnectErr)
  else
    let (consumed,left,error) := transactWithDriver output flush.first
    if left = [] then (consumed,left,error)
    else
      let (more,left,error) := transactWithDriver left flush.second
      (consumed ++ more,left,error)

structure System where
  driver : Driver
  /-- `output_` of the invoker of each thread. -/
  output : Nat → List Command
  /-- The strong references that invokers hold on a proxy. -/
  references : UInt64 → Nat
  /-- `validObjectRecord_`. -/
  valid : UInt64 → Bool
  /-- An invoker has released a reference that none has taken. -/
  overReleased : Bool

inductive Event
  /-- By a living proxy; `written` says whether the command could be queued, for a refresh also whether the driver supports it. -/
  | addRecipient (thread : Nat) (registration : Registration) (written : Bool) (flush : Flush)
  | removeRecipient (thread : Nat) (registration : Registration) (written : Bool) (flush : Flush)
  /-- Another command is queued. -/
  | write (thread : Nat)
  /-- Another use of the driver. -/
  | transactWithDriver (thread : Nat) (ioctl : Ioctl)
  /-- A `BR_CLEAR_*_DONE` is read. -/
  | onRemoveRecipientDone (answer : Nat)
  | create (cookie : UInt64)
  /-- The destructor of a proxy that nobody refers to. -/
  | destroy (cookie : UInt64)
deriving DecidableEq

namespace System

def new : System := ⟨⟨[],[]⟩,fun _ => [],fun _ => 0,fun _ => false,false⟩

/-- What was consumed reaches the driver, and the rest stays queued. -/
def consume (system : System) (thread : Nat) (consumed : List (Command × Bool)) (left : List Command) : System :=
  {system with
    driver := consumed.foldl Driver.take system.driver
    output := Function.update system.output thread left}

def addRecipient (system : System) (thread : Nat) (registration : Registration) (flush : Flush) : System :=
  let (consumed,left,error) := flushCommands (system.output thread ++ [.request registration]) flush
  let system := system.consume thread consumed left
  let cookie := registration.cookie
  if error = 0 ∧ cookie ≠ 0 then
    {system with references := Function.update system.references cookie (system.references cookie+1)}
  else system

def removeRecipient (system : System) (thread : Nat) (registration : Registration) (flush : Flush) : System :=
  let (consumed,left,_) := flushCommands (system.output thread ++ [.clear registration]) flush
  system.consume thread consumed left

/-- An invalid proxy is left alone. -/
def onRemoveRecipientDone (system : System) (cookie : UInt64) : System :=
  if cookie = 0 then system
  else if ¬ system.valid cookie then system
  else {system with
    references := Function.update system.references cookie (system.references cookie-1)
    overReleased := system.overReleased || decide (system.references cookie = 0)}

/-- An event that cannot be changes nothing. -/
def step (system : System) : Event → System
  | .addRecipient thread registration written flush =>
    if system.valid registration.cookie ∧ written then system.addRecipient thread registration flush else system
  | .removeRecipient thread registration written flush =>
    if written then system.removeRecipient thread registration flush else system
  | .write thread => {system with output := Function.update system.output thread (system.output thread ++ [.other])}
  | .transactWithDriver thread ioctl =>
    let (consumed,left,_) := RecipientReferences.transactWithDriver (system.output thread) ioctl
    system.consume thread consumed left
  | .onRemoveRecipientDone answer =>
    match system.driver.cleared[answer]? with
    | some registration =>
      {system with driver := {system.driver with cleared := system.driver.cleared.eraseIdx answer}}.onRemoveRecipientDone registration.cookie
    | none => system
  | .create cookie => if cookie = 0 then system else {system with valid := Function.update system.valid cookie true}
  | .destroy cookie =>
    if system.references cookie = 0 then {system with valid := Function.update system.valid cookie false} else system

end System

end CommunicationIpc.Kernel.RecipientReferences
