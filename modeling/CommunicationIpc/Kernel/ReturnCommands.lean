import CommunicationIpc.Kernel.BinderInvoker
import CommunicationIpc.Kernel.BinderParse

/-! `input_` of one thread's `BinderInvoker`: the commands that the driver returns, the loops that take them out, which run inside each
other, and the references that `OnReleaseObject` puts off. Pointers have 64 bits. `delivered`, `handled` and `passed` are not in the
source: what the driver has put into `input_`, what was taken out of it, and the references that `ProcDeferredDecRefs` is done with. -/
namespace CommunicationIpc.Kernel.ReturnCommands
open CommunicationIpc.Library
open CommunicationIpc.Kernel.BinderParse (ior ptrCookieSize transactionDataSize uintptrSize)
open CommunicationIpc.Kernel.BinderInvoker (errNone ipcInvokerOnTransactErr ipcInvokerInvalidDataErr)

inductive Br
  | error
  | ok
  | transactionSecCtx
  | transaction
  | reply
  | deadReply
  | transactionComplete
  | increfs
  | acquire
  | release
  | decrefs
  | attemptAcquire
  | noop
  | spawnLooper
  | finished
  | deadBinder
  | clearDeathNotificationDone
  | failedReply
  | frozenReply
  | transactionPendingFrozen
  | refreshBinder
  | clearRefreshNotificationDone
  deriving DecidableEq

def transactionDataSecctxSize : Nat := 72
def priPtrCookieSize : Nat := 24

namespace Br

/-- The size of the structure behind the code. -/
def width : Br → Nat
  | error => 4
  | transactionSecCtx => transactionDataSecctxSize
  | transaction | reply => transactionDataSize
  | increfs | acquire | release | decrefs => ptrCookieSize
  | attemptAcquire => priPtrCookieSize
  | deadBinder | clearDeathNotificationDone | refreshBinder | clearRefreshNotificationDone => uintptrSize
  | _ => 0

def number : Br → Nat
  | error => 0
  | ok => 1
  | transactionSecCtx | transaction => 2
  | reply => 3
  | deadReply => 5
  | transactionComplete => 6
  | increfs => 7
  | acquire => 8
  | release => 9
  | decrefs => 10
  | attemptAcquire => 11
  | noop => 12
  | spawnLooper => 13
  | finished => 14
  | deadBinder => 15
  | clearDeathNotificationDone => 16
  | failedReply => 17
  | frozenReply => 18
  | transactionPendingFrozen => 20
  | refreshBinder => 100
  | clearRefreshNotificationDone => 101

def code (br : Br) : Nat := ior br.number br.width

def all : List Br :=
  [error,ok,transactionSecCtx,transaction,reply,deadReply,transactionComplete,increfs,acquire,release,decrefs,attemptAcquire,noop,
    spawnLooper,finished,deadBinder,clearDeathNotificationDone,failedReply,frozenReply,transactionPendingFrozen,refreshBinder,
    clearRefreshNotificationDone]

/-- The label of the switches for a command, `default` where there is none. -/
def find (cmd : Nat) : Option Br := all.find? fun br => br.code = cmd

/-- The reads that a loop makes for a command: `WaitForCompletion`, or `StartWorkLoop`, which knows no replies. -/
def fields (waits : Bool) : Br → List Nat
  | error => [4]
  | transactionSecCtx => [transactionDataSecctxSize]
  | transaction => [transactionDataSize]
  | reply => if waits then [transactionDataSize] else []
  | increfs | acquire | release | decrefs | attemptAcquire => [uintptrSize,uintptrSize]
  | deadBinder | clearDeathNotificationDone | refreshBinder | clearRefreshNotificationDone => [uintptrSize]
  | _ => []

end Br

structure Command where
  br : Br
  data : List UInt8
  whole : data.length = br.width

def Command.encode (command : Command) : List UInt8 := toLE 4 command.br.code ++ command.data

/-- Reads of a parcel, one after the other; one that finds too little takes nothing. -/
def readFields : List Nat → List UInt8 → List UInt8 × List UInt8
  | [],input => ([],input)
  | width :: widths,input =>
    if width ≤ input.length then
      let (data,left) := readFields widths (input.drop width)
      (input.take width ++ data,left)
    else readFields widths input

def readUint32 (input : List UInt8) : Nat × List UInt8 :=
  if 4 ≤ input.length then (ofLE (input.take 4),input.drop 4) else (0,input)

/-- A pointer among the data that were read, null where the read has failed. -/
def pointer (data : List UInt8) (offset : Nat) : Nat := ofLE ((data.drop offset).take uintptrSize)

/-- What a thread is doing: at the top of `StartWorkLoop`, behind its `HandleCommands`, in `WaitForCompletion`, in code that a handler
calls, or in `ProcDeferredDecRefs` with this many of the weak or strong references behind it. -/
inductive Frame
  | work
  | handled
  | wait (reply : Bool)
  | handler
  | dropping (strong : Bool) (index : Nat)
  deriving DecidableEq

structure Handled where
  waits : Bool
  cmd : Nat
  data : List UInt8
  deriving DecidableEq

/-- A command that a loop reads, with the data that its handler reads, and what is left. -/
def readCommand (waits : Bool) (input : List UInt8) : Handled × List UInt8 :=
  let (cmd,behind) := readUint32 input
  let (data,left) := readFields (((Br.find cmd).map (Br.fields waits)).getD []) behind
  (⟨waits,cmd,data⟩,left)

/-- `decWeakRefs_` or `decStrongRefs_`. A reference to an object that is no longer valid is passed over. -/
structure References where
  queued : List Nat
  passed : List (Nat × Bool)
  deriving DecidableEq

structure Invoker where
  input : List UInt8
  /-- The innermost frame comes first. -/
  stack : List Frame
  weak : References
  strong : References
  isMainWorkThread : Bool
  alive : Bool
  /-- The reference whose mutex the thread waits for while it holds it. -/
  blocked : Option (Bool × Nat)
  delivered : List Command
  handled : List Handled

def Invoker.new : Invoker := ⟨[],[],⟨[],[]⟩,⟨[],[]⟩,false,true,none,[],[]⟩

namespace Invoker

def references (invoker : Invoker) (strong : Bool) : References := if strong then invoker.strong else invoker.weak

def setReferences (invoker : Invoker) (strong : Bool) (references : References) : Invoker :=
  if strong then { invoker with strong := references } else { invoker with weak := references }

/-- Whether `ProcDeferredDecRefs` holds `strongRefMutex_` or `weakRefMutex_`. -/
def holds (strong : Bool) : Frame → Bool
  | .dropping other _ => other = strong
  | _ => false

/-- What `OnReleaseObject` is to give back, nothing where one of the pointers is null. -/
def reference (strong : Bool) (data : List UInt8) : Option Nat :=
  let refs := pointer data 0
  let obj := pointer data uintptrSize
  if refs = 0 ∨ obj = 0 then none else some (if strong then obj else refs)

def onReleaseObject (invoker : Invoker) (strong : Bool) (data : List UInt8) : Invoker :=
  match reference strong data with
  | none => invoker
  | some reference =>
    if invoker.stack.any (holds strong) then { invoker with blocked := some (strong,reference) }
    else
      let references := invoker.references strong
      invoker.setReferences strong { references with queued := references.queued ++ [reference] }

/-- With whether code outside the invoker may run: the stub's, or that of a proxy's recipients. `timedOut` is `ERR_TIMED_OUT`. -/
def handleCommandsInner (timedOut : Int) (br : Option Br) (data : List UInt8) : Int × Bool :=
  match br with
  | some .error => ((BitVec.ofNat 32 (ofLE data)).toInt,false)
  | some .transactionSecCtx | some .transaction => if data = [] then (ipcInvokerInvalidDataErr,false) else (errNone,true)
  | some .deadBinder | some .refreshBinder | some .clearDeathNotificationDone | some .clearRefreshNotificationDone =>
    (errNone,decide (pointer data 0 ≠ 0))
  | some .finished => (-timedOut,false)
  | some .acquire | some .increfs | some .release | some .decrefs | some .attemptAcquire | some .spawnLooper | some .ok | some .noop =>
    (errNone,false)
  | _ => (ipcInvokerOnTransactErr,false)

def transactWithDriver (invoker : Invoker) (commands : List Command) : Option Invoker :=
  if invoker.input = [] then
    some { invoker with input := (commands.map Command.encode).flatten, delivered := invoker.delivered ++ commands }
  else if commands = [] then some invoker
  else none

/-- The references of a release are put off. -/
def take (invoker : Invoker) (waits : Bool) : Invoker × Option Br × List UInt8 :=
  let (handled,left) := readCommand waits invoker.input
  let br := Br.find handled.cmd
  let taken := { invoker with input := left, handled := invoker.handled ++ [handled] }
  match br with
  | some .release => (taken.onReleaseObject true handled.data,br,handled.data)
  | some .decrefs => (taken.onReleaseObject false handled.data,br,handled.data)
  | _ => (taken,br,handled.data)

/-- A turn of `StartWorkLoop` from `ReadUint32` on; `rest` is what the loop runs in. -/
def workTurn (timedOut : Int) (invoker : Invoker) (rest : List Frame) : Invoker :=
  let (taken,br,data) := invoker.take false
  let (userError,runs) := handleCommandsInner timedOut br data
  if runs then { taken with stack := .handler :: .handled :: rest }
  else if (userError = -timedOut ∨ userError = ipcInvokerInvalidDataErr) ∧ ¬ invoker.isMainWorkThread then { taken with stack := rest }
  else { taken with stack := .handled :: rest }

/-- A turn of `WaitForCompletion` from `ReadUint32` on, with `DealWithCmd`. -/
def waitTurn (timedOut : Int) (invoker : Invoker) (reply : Bool) (rest : List Frame) : Invoker :=
  let (taken,br,data) := invoker.take true
  let goesOn := { taken with stack := .wait reply :: rest }
  let leaves := { taken with stack := rest }
  match br with
  | some .transactionComplete | some .transactionPendingFrozen => if reply then goesOn else leaves
  | some .deadReply | some .failedReply | some .frozenReply => leaves
  -- a reply that nobody waits for is freed
  | some .reply => if data = [] ∨ reply then leaves else goesOn
  | _ =>
    let (error,runs) := handleCommandsInner timedOut br data
    if runs then { taken with stack := .handler :: .wait reply :: rest }
    else if error = errNone then goesOn
    else leaves

/-- Code that a handler calls may send requests, and so may the destructor of what a released reference has held. -/
def mayCall : List Frame → Bool
  | [] => true
  | .handler :: _ => true
  | .dropping _ (_+1) :: _ => true
  | _ => false

end Invoker

inductive Event
  | joinThread (initiative : Bool)
  | waitForCompletion (reply : Bool)
  | turn (commands : List Command)
  | back
  | procDeferredDecRefs
  | drop (valid : Bool)
  /-- The driver has failed, or the thread is to stop. -/
  | leave
  | destroy

open Invoker

def Invoker.step (timedOut : Int) (invoker : Invoker) (event : Event) : Option Invoker :=
  if invoker.blocked.isSome then none
  else match event with
    | .joinThread initiative =>
      if invoker.stack = [] ∧ invoker.alive then some { invoker with stack := [.work], isMainWorkThread := initiative } else none
    | .waitForCompletion reply =>
      if mayCall invoker.stack ∧ invoker.alive then some { invoker with stack := .wait reply :: invoker.stack } else none
    | .turn commands =>
      match invoker.stack with
      | .work :: rest => do
        let read ← invoker.transactWithDriver commands
        if read.input = [] then some read else some (read.workTurn timedOut rest)
      | .wait reply :: rest => do
        let read ← invoker.transactWithDriver commands
        if read.input = [] then some read else some (read.waitTurn timedOut reply rest)
      | _ => none
    | .back =>
      match invoker.stack with
      | .handler :: rest => some { invoker with stack := rest }
      | _ => none
    | .procDeferredDecRefs =>
      match invoker.stack with
      | .handled :: rest =>
        if invoker.input = [] then some { invoker with stack := .dropping false 0 :: .work :: rest }
        else some { invoker with stack := .work :: rest }
      | _ => none
    | .drop valid =>
      match invoker.stack with
      | .dropping strong index :: rest =>
        let references := invoker.references strong
        match references.queued[index]? with
        | some reference =>
          some { invoker.setReferences strong { references with passed := references.passed ++ [(reference,valid || !strong)] } with
            stack := .dropping strong (index+1) :: rest }
        | none =>
          some { invoker.setReferences strong { references with queued := [] } with
            stack := if strong then rest else .dropping true 0 :: rest }
      | _ => none
    | .leave =>
      match invoker.stack with
      | .work :: rest => some { invoker with stack := rest }
      | .wait _ :: rest => some { invoker with stack := rest }
      | _ => none
    | .destroy =>
      if invoker.stack = [] ∧ invoker.alive then
        some { invoker with alive := false, stack := if invoker.input = [] then [.dropping false 0] else [] }
      else none

end CommunicationIpc.Kernel.ReturnCommands
