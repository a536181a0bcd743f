import CommunicationIpc.Library.Framing
import CommunicationIpc.Library.Memory

/-! `output_` of a `BinderInvoker` and the functions that write commands to it. A write of a
`Parcel` appends all its bytes or fails and appends nothing. -/
namespace CommunicationIpc.Kernel.BinderOutput
open CommunicationIpc.Library

/-- `_IOW('c', number, size)`, and `_IO` for size 0. -/
def iow (number size : Nat) : Nat := (if size = 0 then 0 else 2^30)+size*2^16+99*2^8+number

/-- `_IOC_SIZE`: the bytes that follow the code of a command. -/
def iocSize (code : Nat) : Nat := code/2^16 % 2^14

def bcTransaction : Nat := iow 0 64
def bcReply : Nat := iow 1 64
def bcAcquireResult : Nat := iow 2 4
def bcFreeBuffer : Nat := iow 3 8
def bcAcquire : Nat := iow 5 4
def bcRelease : Nat := iow 6 4
def bcIncrefsDone : Nat := iow 8 16
def bcAcquireDone : Nat := iow 9 16
def bcRegisterLooper : Nat := iow 11 0
def bcEnterLooper : Nat := iow 12 0
def bcExitLooper : Nat := iow 13 0
def bcRequestDeathNotification : Nat := iow 14 12
def bcClearDeathNotification : Nat := iow 15 12
def bcDeadBinderDone : Nat := iow 16 8
def bcTransactionSg : Nat := iow 17 72
def bcReplySg : Nat := iow 18 72
def bcRequestRefreshNotification : Nat := iow 128 12
def bcClearRefreshNotification : Nat := iow 129 12
def bcRefreshBinderDone : Nat := iow 130 8

def tfOneWay : UInt32 := 0x01
def tfStatusCode : UInt32 := 0x08
def tfAcceptFds : UInt32 := 0x10

/-- The `SendRequest` call a command belongs to, and whether it waits for a reply. -/
structure Owner where
  request : Nat
  sync : Bool
  deriving DecidableEq

/-- Bytes that were written for one command. The division into segments and their owners are not in the source. -/
structure Segment where
  owner : Option Owner
  bytes : List UInt8
  deriving DecidableEq

abbrev Output := List Segment

def Output.bytes (output : Output) : List UInt8 := output.flatMap Segment.bytes

/-- What becomes of the writes of one command: the one of its code, the ones of its fields in their order, and
`RewindWrite` should it be called. -/
structure Writes where
  code : Bool
  fields : List Bool
  rewind : Bool
  deriving DecidableEq

def Writes.succeed : Writes := ⟨true,[],true⟩

/-- A field without an outcome of its own is written. -/
def writeFields (written : List UInt8) : List (List UInt8) → List Bool → Option (List UInt8)
  | [],_ => some written
  | field :: fields,outcomes => if outcomes.headD true then writeFields (written ++ field) fields outcomes.tail else none

/-- `RewindWrite` to the position in front of the command, or `FlushBuffer`. -/
def rewind (output : Output) (writes : Writes) : Output := if writes.rewind then output else []

/-- The code first, then the fields. A code that cannot be written leaves nothing to undo. -/
def writeCommand (output : Output) (code : Nat) (fields : List (List UInt8)) (writes : Writes) : Output × Bool :=
  if ¬ writes.code then (output,false)
  else
    match writeFields (toLE 4 code) fields writes.fields with
    | some bytes => (output ++ [⟨none,bytes⟩],true)
    | none => (rewind output writes,false)

section Writers
variable (output : Output) (handle : UInt32) (cookie : UInt64) (writes : Writes)

def acquireHandle : Output × Bool := writeCommand output bcAcquire [toLE 4 handle.toNat] writes

def releaseHandle : Output × Bool := writeCommand output bcRelease [toLE 4 handle.toNat] writes

inductive Recipient
  | death
  | refresh
  deriving DecidableEq

def addRecipient (recipient : Recipient) : Output × Bool :=
  let commandId := match recipient with
    | .death => bcRequestDeathNotification
    | .refresh => bcRequestRefreshNotification
  writeCommand output commandId [toLE 4 handle.toNat,toLE 8 cookie.toNat] writes

def removeRecipient (recipient : Recipient) : Output × Bool :=
  let commandId := match recipient with
    | .death => bcClearDeathNotification
    | .refresh => bcClearRefreshNotification
  writeCommand output commandId [toLE 4 handle.toNat,toLE 8 cookie.toNat] writes

def freeBuffer (data : UInt64) : Output × Bool := writeCommand output bcFreeBuffer [toLE 8 data.toNat] writes

/-- After the obituary has been sent; without a proxy nothing is written. -/
def onBinderDied : Output :=
  if cookie = 0 then output else (writeCommand output bcDeadBinderDone [toLE 8 cookie.toNat] writes).1

def onBinderRefreshed : Output :=
  if cookie = 0 then output else (writeCommand output bcRefreshBinderDone [toLE 8 cookie.toNat] writes).1

/-- For an object that is valid and held. It rewinds also when the code could not be written. -/
def onAcquireObject (acquire : Bool) (refs object : UInt64) : Output :=
  let code := if acquire then bcAcquireDone else bcIncrefsDone
  if ¬ writes.code then rewind output writes
  else (writeCommand output code [toLE 8 refs.toNat,toLE 8 object.toNat] writes).1

def onAttemptAcquire (success : Bool) : Output :=
  (writeCommand output bcAcquireResult [toLE 4 success.toNat] writes).1

/-- `BC_ENTER_LOOPER`, `BC_REGISTER_LOOPER` or `BC_EXIT_LOOPER` of `JoinThread`. -/
def writeLooper (code : Nat) : Output := (writeCommand output code [] writes).1

end Writers

/-- What `WriteTransaction` reads of a parcel. -/
structure ParcelView where
  dataSize : Nat
  data : UInt64
  offsetsSize : Nat
  objectOffsets : UInt64

/-- `binder_transaction_data`, with zeros where nothing is assigned. -/
def transactionData (flags handle code : UInt32) (parcel : ParcelView) (status : Option UInt64) : List UInt8 :=
  let described (flags : UInt32) (dataSize : Nat) (buffer : UInt64) (offsetsSize : Nat) (offsets : UInt64) :=
    toLE 8 handle.toNat ++ toLE 8 0 ++ toLE 4 code.toNat ++ toLE 4 flags.toNat ++ toLE 4 0 ++ toLE 4 0 ++
      toLE 8 dataSize ++ toLE 8 offsetsSize ++ toLE 8 buffer.toNat ++ toLE 8 offsets.toNat
  let accepting := flags ||| tfAcceptFds
  if 0 < parcel.dataSize then described accepting parcel.dataSize parcel.data (parcel.offsetsSize*8) parcel.objectOffsets
  else
    match status with
    | some pointer => described (accepting ||| tfStatusCode) 4 pointer 0 0
    | none => described accepting 0 0 0 0

/-- A second write that fails leaves the code behind: there is no `RewindWrite` here. -/
def writeTransaction (output : Output) (owner : Option Owner) (cmd : Nat) (flags handle code : UInt32) (parcel : ParcelView)
    (status : Option UInt64) (totalDBinderBufSize : Nat) (writes : Writes) : Output × Bool :=
  let tr := transactionData flags handle code parcel status
  let payload := if 0 < totalDBinderBufSize then
      tr ++ toLE 8 (if 0 < parcel.dataSize then totalDBinderBufSize else 0)
    else tr
  if ¬ writes.code then (output,false)
  else if writes.fields.headD true then (output ++ [⟨owner,toLE 4 cmd ++ payload⟩],true)
  else (output ++ [⟨owner,toLE 4 cmd⟩],false)

end CommunicationIpc.Kernel.BinderOutput
