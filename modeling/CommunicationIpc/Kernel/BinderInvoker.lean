import CommunicationIpc.Kernel.BinderOutput

/-! One thread's `BinderInvoker` and the driver it talks to: the commands it queues, the wait
loop of its requests and replies, and the calls that handlers of return commands make in between. -/
namespace CommunicationIpc.Kernel.BinderInvoker
open CommunicationIpc.Library CommunicationIpc.Kernel.BinderOutput

def errNone : Int := 0
def ipcInvokerWriteTransErr : Int := 401
def ipcInvokerConnectErr : Int := 403
def ipcInvokerOnTransactErr : Int := 404
def ipcInvokerInvalidDataErr : Int := 405

/-- How the driver answers a synchronous transaction: a `BR_REPLY` with contents or with a status code, or
one of `BR_DEAD_REPLY`, `BR_FAILED_REPLY` and `BR_FROZEN_REPLY`. -/
inductive Answer
  | contents (bytes : List UInt8)
  | status (code : Int)
  | failed (code : Int)
  deriving DecidableEq

/-- A return command. Which request an answer is for is known to the driver alone; `failed` is about a one-way
transaction or a reply that could not be delivered, `error` is `BR_ERROR`, or `BR_FINISHED` with the code of a time-out,
and `broken` ends before its data. -/
inductive Return
  | complete
  | answer (request : Nat) (answer : Answer)
  | failed (code : Int)
  | transaction
  | handled
  | error (code : Int)
  | broken
  | unknown
  deriving DecidableEq

/-- `outstanding`: the synchronous transactions taken from this thread and not answered, the latest first. -/
structure Driver where
  outstanding : List Nat
  todo : List Return
  answers : List (Nat × Answer)

inductive Result
  | error (code : Int)
  | contents (bytes : List UInt8)
  | status (code : Int)
  deriving DecidableEq

/-- A `WaitForCompletion` that has not returned: of a request, or of a reply. `handling`: the handler of the
command it read last may be running. -/
structure Frame where
  request : Option Nat
  sync : Bool
  handling : Bool
  deriving DecidableEq

/-- The innermost wait comes first. `requests` and `results` record the calls of `SendRequest`. -/
structure Invoker where
  output : Output
  input : List Return
  frames : List Frame
  requests : Nat
  results : List (Nat × Result)
  driver : Driver

def Invoker.new : Invoker := ⟨[],[],[],0,[],⟨[],[],[]⟩⟩

/-- The driver takes whole commands: all that it is handed, or the first ones. -/
inductive Taken
  | all
  | first (count : Nat)
  deriving DecidableEq

/-- One use of the driver: whether it is alive, what it takes and how many commands it returns should it be
asked to, its result, and whether the bytes it leaves can be moved to the front of `output_`. -/
structure Ioctl where
  alive : Bool
  taken : Taken
  read : Nat
  error : Int
  moved : Bool
  deriving DecidableEq

def Ioctl.succeed (read : Nat) : Ioctl := ⟨true,.all,read,0,true⟩

structure Flush where
  first : Ioctl
  second : Ioctl
  deriving DecidableEq

def Flush.succeed : Flush := ⟨.succeed 0,.succeed 0⟩

/-- The length of the command at the head of the bytes, 0 when it is not complete. -/
def commandSize (bytes : List UInt8) : Nat :=
  let size := 4+iocSize (ofLE (bytes.take 4))
  if 4 ≤ bytes.length ∧ size ≤ bytes.length then size else 0

def commandsSize : Nat → List UInt8 → Nat
  | 0,_ => 0
  | count+1,bytes =>
    let size := commandSize bytes
    if size = 0 then 0 else size+commandsSize count (bytes.drop size)

/-- `write_consumed` for the bytes that are handed over. -/
def writeConsumed (bytes : List UInt8) : Taken → Nat
  | .all => bytes.length
  | .first count => commandsSize count bytes

/-- The segments that lie in the first bytes, and what is left. -/
def consume : Nat → Output → Output × Output
  | _,[] => ([],[])
  | count,segment :: rest =>
    if segment.bytes.length ≤ count then
      let (taken,left) := consume (count-segment.bytes.length) rest
      (segment :: taken,left)
    else ([],{ segment with bytes := segment.bytes.drop count } :: rest)

def synchronous (output : Output) : List Nat :=
  output.filterMap fun segment => match segment.owner with
    | some owner => if owner.sync then some owner.request else none
    | none => none

namespace Invoker

/-- The half of `UpdateConsumedData` for what was written. -/
def dropConsumed (invoker : Invoker) (consumed : Nat) (moved : Bool) : Invoker :=
  let (taken,left) := consume consumed invoker.output
  if consumed = 0 then invoker
  else { invoker with
    output := if consumed < invoker.output.bytes.length then (if moved then left else []) else [],
    driver := { invoker.driver with outstanding := (synchronous taken).reverse ++ invoker.driver.outstanding } }

/-- The half for what was read. -/
def fillInput (invoker : Invoker) (read : Nat) : Invoker :=
  if read = 0 ∨ invoker.driver.todo = [] then invoker
  else { invoker with
    input := invoker.driver.todo.take read, driver := { invoker.driver with todo := invoker.driver.todo.drop read } }

def updateConsumedData (invoker : Invoker) (consumed read : Nat) (moved : Bool) : Invoker :=
  (invoker.dropConsumed consumed moved).fillInput read

def transactWithDriver (invoker : Invoker) (doRead : Bool) (ioctl : Ioctl) : Invoker × Int :=
  if ¬ ioctl.alive then (invoker,ipcInvokerConnectErr)
  else
    let needRead := invoker.input.isEmpty
    let outAvail := if ¬ doRead ∨ needRead then invoker.output.bytes else []
    if outAvail = [] ∧ ¬ (doRead ∧ needRead) then (invoker,errNone)
    else
      let read := if doRead ∧ needRead then ioctl.read else 0
      (invoker.updateConsumedData (writeConsumed outAvail ioctl.taken) read ioctl.moved,ioctl.error)

def flushCommands (invoker : Invoker) (flush : Flush) : Invoker :=
  if ¬ flush.first.alive then invoker
  else
    let once := (invoker.transactWithDriver false flush.first).1
    if 0 < once.output.bytes.length then (once.transactWithDriver false flush.second).1 else once

/-- Writes a command; when that went well, hands it over. -/
def writeAndFlush (invoker : Invoker) (written : Output × Bool) (flush : Flush) : Invoker :=
  let changed := { invoker with output := written.1 }
  if written.2 then changed.flushCommands flush else changed

/-- Flushes also when the pointer could not be written. -/
def freeBuffer (invoker : Invoker) (data : UInt64) (writes : Writes) (flush : Flush) : Invoker :=
  let changed := { invoker with output := (BinderOutput.freeBuffer invoker.output writes data).1 }
  if writes.code then changed.flushCommands flush else changed

/-- The innermost wait returns. -/
def leave (invoker : Invoker) (result : Result) : Invoker :=
  match invoker.frames with
  | [] => invoker
  | frame :: frames => { invoker with
      frames := frames,
      results := match frame.request with
        | some request => invoker.results ++ [(request,result)]
        | none => invoker.results }

/-- The innermost wait goes on; `handling` when the command that was read runs a handler. -/
def goOn (invoker : Invoker) (handling : Bool) : Invoker :=
  match invoker.frames with
  | [] => invoker
  | frame :: frames => { invoker with frames := { frame with handling := handling } :: frames }

end Invoker

structure Request where
  flags : UInt32
  handle : UInt32
  code : UInt32
  parcel : ParcelView
  totalDBinderBufSize : Nat

def Request.sync (request : Request) : Bool := request.flags &&& tfOneWay = 0

structure Reply where
  flags : UInt32
  parcel : ParcelView
  status : UInt64
  totalDBinderBufSize : Nat

/-- One turn of the loop in `WaitForCompletion`. `accepted`: the reply parcel takes the contents. `garbled`: what
is read where a command was left before its end. -/
structure Turn where
  ioctl : Ioctl
  accepted : Bool
  buffer : UInt64
  free : Writes
  flush : Flush
  garbled : List Return

def Turn.succeed (read : Nat) : Turn := ⟨.succeed read,true,0,.succeed,.succeed,[]⟩

namespace Invoker

def handleReply (invoker : Invoker) (sync : Bool) (answer : Answer) (turn : Turn) : Invoker :=
  let freed := invoker.freeBuffer turn.buffer turn.free turn.flush
  match sync,answer with
  | _,.failed code => invoker.leave (.error code)
  | false,_ => freed.goOn false
  | true,.status code => freed.leave (.status code)
  | true,.contents bytes => if turn.accepted then invoker.leave (.contents bytes) else freed.leave (.error ipcInvokerInvalidDataErr)

def dealWithCmd (invoker : Invoker) (sync : Bool) (cmd : Return) (turn : Turn) : Invoker :=
  match cmd with
  | .complete => if sync then invoker.goOn false else invoker.leave (.error errNone)
  | .answer _ answer => invoker.handleReply sync answer turn
  | .failed code => invoker.leave (.error code)
  | .transaction | .handled => invoker.goOn true
  | .error code => if code = errNone then invoker.goOn false else invoker.leave (.error code)
  | .broken => invoker.leave (.error ipcInvokerInvalidDataErr)
  | .unknown => ({ invoker with input := turn.garbled }).leave (.error ipcInvokerOnTransactErr)

def turn (invoker : Invoker) (sync : Bool) (turn : Turn) : Invoker :=
  let (asked,error) := invoker.transactWithDriver true turn.ioctl
  if error < errNone then asked.leave (.error error)
  else
    match asked.input with
    | [] => asked.goOn false
    | cmd :: unread => ({ asked with input := unread }).dealWithCmd sync cmd turn

/-- One turn of `StartWorkLoop`. A command for a waiting call is unknown here, and what follows its code is read as the
next command. -/
def workLoop (invoker : Invoker) (ioctl : Ioctl) (garbled : List Return) : Invoker :=
  let asked := (invoker.transactWithDriver true ioctl).1
  match asked.input with
  | [] => asked
  | cmd :: unread =>
    match cmd with
    | .unknown | .answer _ _ => { asked with input := garbled }
    | _ => { asked with input := unread }

def sendRequest (invoker : Invoker) (request : Request) (writes : Writes) (alive : Bool) : Invoker :=
  let id := invoker.requests
  let begun := { invoker with requests := id+1 }
  let cmd := if 0 < request.totalDBinderBufSize then bcTransactionSg else bcTransaction
  let (output,written) := writeTransaction invoker.output (some ⟨id,request.sync⟩) cmd request.flags request.handle
    request.code request.parcel none request.totalDBinderBufSize writes
  let queued := { begun with output := output }
  if ¬ written then { queued with results := queued.results ++ [(id,.error ipcInvokerWriteTransErr)] }
  else if ¬ alive then { queued with results := queued.results ++ [(id,.error ipcInvokerConnectErr)] }
  else { queued with frames := ⟨some id,request.sync,false⟩ :: queued.frames }

/-- The reply waits also when it could not be written: a `bool` is never below `ERR_NONE`. -/
def sendReply (invoker : Invoker) (reply : Reply) (writes : Writes) (alive : Bool) : Invoker :=
  let cmd := if 0 < reply.totalDBinderBufSize then bcReplySg else bcReply
  let queued := { invoker with output := (writeTransaction invoker.output none cmd reply.flags 0xffffffff 0 reply.parcel
    (some reply.status) reply.totalDBinderBufSize writes).1 }
  if alive then { queued with frames := ⟨none,false,false⟩ :: queued.frames } else queued

/-- Nothing waits, or the innermost wait runs a handler. -/
def running (invoker : Invoker) : Bool :=
  match invoker.frames with
  | [] => true
  | frame :: _ => frame.handling

end Invoker

inductive Event
  | acquireHandle (handle : UInt32) (writes : Writes) (flush : Flush)
  | releaseHandle (handle : UInt32) (writes : Writes) (flush : Flush)
  | addRecipient (recipient : Recipient) (handle : UInt32) (cookie : UInt64) (writes : Writes) (flush : Flush)
  | removeRecipient (recipient : Recipient) (handle : UInt32) (cookie : UInt64) (writes : Writes) (flush : Flush)
  | freeBuffer (data : UInt64) (writes : Writes) (flush : Flush)
  | onBinderDied (cookie : UInt64) (writes : Writes)
  | onBinderRefreshed (cookie : UInt64) (writes : Writes)
  | onAcquireObject (acquire : Bool) (refs object : UInt64) (writes : Writes)
  | onAttemptAcquire (success : Bool) (writes : Writes)
  | enterLooper (writes : Writes)
  | registerLooper (writes : Writes)
  | exitLooper (writes : Writes)
  | sendRequest (request : Request) (writes : Writes) (alive : Bool)
  | sendReply (reply : Reply) (writes : Writes) (alive : Bool)
  | turn (turn : Turn)
  | workLoop (ioctl : Ioctl) (garbled : List Return)
  | answer (request : Nat) (answer : Answer)
  | returns (cmd : Return)

namespace Invoker

/-- What code on the thread does, where code can run. -/
def operate (invoker : Invoker) : Event → Option Invoker
  | .acquireHandle handle writes flush =>
    let written := BinderOutput.acquireHandle invoker.output handle writes
    if handle = 0 then some { invoker with output := written.1 } else some (invoker.writeAndFlush written flush)
  | .releaseHandle handle writes flush =>
    some (invoker.writeAndFlush (BinderOutput.releaseHandle invoker.output handle writes) flush)
  | .addRecipient recipient handle cookie writes flush =>
    some (invoker.writeAndFlush (BinderOutput.addRecipient invoker.output handle cookie writes recipient) flush)
  | .removeRecipient recipient handle cookie writes flush =>
    some (invoker.writeAndFlush (BinderOutput.removeRecipient invoker.output handle cookie writes recipient) flush)
  | .freeBuffer data writes flush => some (invoker.freeBuffer data writes flush)
  | .onBinderDied cookie writes => some { invoker with output := BinderOutput.onBinderDied invoker.output cookie writes }
  | .onBinderRefreshed cookie writes =>
    some { invoker with output := BinderOutput.onBinderRefreshed invoker.output cookie writes }
  | .onAcquireObject acquire refs object writes =>
    some { invoker with output := BinderOutput.onAcquireObject invoker.output writes acquire refs object }
  | .onAttemptAcquire success writes => some { invoker with output := BinderOutput.onAttemptAcquire invoker.output writes success }
  | .enterLooper writes => some { invoker with output := writeLooper invoker.output writes bcEnterLooper }
  | .registerLooper writes => some { invoker with output := writeLooper invoker.output writes bcRegisterLooper }
  | .exitLooper writes => some { invoker with output := writeLooper invoker.output writes bcExitLooper }
  | .sendRequest request writes alive => some (invoker.sendRequest request writes alive)
  | .sendReply reply writes alive => some (invoker.sendReply reply writes alive)
  | _ => none

def step (invoker : Invoker) (event : Event) : Option Invoker :=
  match event with
  | .turn turn =>
    match invoker.frames with
    | [] => none
    | frame :: _ => some (invoker.turn frame.sync turn)
  | .workLoop ioctl garbled => if invoker.frames.isEmpty then some (invoker.workLoop ioctl garbled) else none
  | .answer request answer => some { invoker with driver := {
      outstanding := invoker.driver.outstanding.erase request,
      todo := invoker.driver.todo ++ [.answer request answer],
      answers := invoker.driver.answers ++ [(request,answer)] } }
  | .returns cmd =>
    match cmd with
    | .answer _ _ => none
    | _ => some { invoker with driver := { invoker.driver with todo := invoker.driver.todo ++ [cmd] } }
  | event => if invoker.running then invoker.operate event else none

end Invoker

end CommunicationIpc.Kernel.BinderInvoker
