import CommunicationIpc.Library.Memory

/-! `output_` of a `BinderInvoker` as the bytes it holds, and `TransactWithDriver`, which hands them to the driver and takes out
what the driver has consumed. A parcel is its bytes; its writes succeed. -/
namespace CommunicationIpc.Kernel.CommandStream
open CommunicationIpc.Library

abbrev Parcel := List UInt8

/-- The bytes up to the next multiple of 4. -/
def padSize (length : Nat) : Nat := (4-length % 4) % 4

namespace Parcel

def writeBuffer (parcel : Parcel) (bytes : List UInt8) : Parcel := parcel ++ (bytes ++ List.replicate (padSize bytes.length) 0)

def rewindWrite (parcel : Parcel) (position : Nat) : Parcel := parcel.take position

end Parcel

/-- One write to `output_`: of a number, a pointer or a structure. -/
inductive Field
  | word (value : UInt32)
  | pointer (value : UInt64)
  | buffer (bytes : List UInt8)
deriving DecidableEq

def Field.write (parcel : Parcel) : Field → Parcel
  | .word value => parcel ++ toLE 4 value.toNat
  | .pointer value => parcel ++ toLE 8 value.toNat
  | .buffer bytes => parcel.writeBuffer bytes

structure Command where
  code : UInt32
  fields : List Field
deriving DecidableEq

def Command.write (parcel : Parcel) (command : Command) : Parcel :=
  command.fields.foldl Field.write (parcel ++ toLE 4 command.code.toNat)

/-- A command whose field at `count` cannot be written: the position in front of it is restored. -/
def Command.abandon (parcel : Parcel) (command : Command) (count : Nat) : Parcel :=
  Parcel.rewindWrite ((command.fields.take count).foldl Field.write (parcel ++ toLE 4 command.code.toNat)) parcel.length

/-- `binder_write_read`, without the addresses of the buffers. -/
structure WriteRead where
  writeSize : Nat
  writeConsumed : Nat
  readSize : Nat
  readConsumed : Nat

/-- What the driver makes of one use. -/
structure Ioctl where
  alive : Bool
  writeConsumed : Nat
  readConsumed : Nat
  error : Int
deriving DecidableEq

structure BinderInvoker where
  output : Parcel
  /-- `GetReadableBytes` of `input_`. -/
  inputReadable : Nat
  inputCapacity : Nat

def ipcInvokerConnectErr : Int := 403

namespace BinderInvoker

def updateConsumedData (invoker : BinderInvoker) (bwr : WriteRead) : BinderInvoker :=
  let invoker :=
    if 0 < bwr.writeConsumed then
      if bwr.writeConsumed < invoker.output.length then
        let temp := Parcel.writeBuffer [] (invoker.output.drop bwr.writeConsumed)
        {invoker with output := Parcel.writeBuffer [] temp}
      else {invoker with output := []}
    else invoker
  if 0 < bwr.readConsumed then {invoker with inputReadable := bwr.readConsumed} else invoker

/-- With the result, and the bytes that the driver has consumed. A driver that consumes more than it is offered, or a part of a
word, is none. -/
def transactWithDriver (invoker : BinderInvoker) (doRead : Bool) (ioctl : Ioctl) : Option (BinderInvoker × Int × List UInt8) :=
  if ¬ ioctl.alive then some (invoker,ipcInvokerConnectErr,[])
  else
    let needRead : Bool := invoker.inputReadable = 0
    let outAvail := if ¬ doRead ∨ needRead then invoker.output.length else 0
    let readSize := if doRead ∧ needRead then invoker.inputCapacity else 0
    if outAvail = 0 ∧ readSize = 0 then some (invoker,0,[])
    else if ioctl.writeConsumed ≤ outAvail ∧ 4 ∣ ioctl.writeConsumed ∧ ioctl.readConsumed ≤ readSize then
      some (invoker.updateConsumedData ⟨outAvail,ioctl.writeConsumed,readSize,ioctl.readConsumed⟩,ioctl.error,
        invoker.output.take ioctl.writeConsumed)
    else none

end BinderInvoker

inductive Event
  | write (command : Command)
  | abandon (command : Command) (count : Nat)
  | transactWithDriver (doRead : Bool) (ioctl : Ioctl)
  /-- The handlers read on in `input_`. -/
  | readInput (bytes : Nat)
deriving DecidableEq

structure System where
  invoker : BinderInvoker
  /-- All the bytes the driver has consumed. -/
  consumed : List UInt8
  commands : List Command

namespace System

def new (inputCapacity : Nat) : System := ⟨⟨[],0,inputCapacity⟩,[],[]⟩

def step (system : System) : Event → Option System
  | .write command => some {system with
      invoker := {system.invoker with output := command.write system.invoker.output}
      commands := system.commands ++ [command]}
  | .abandon command count => some {system with invoker := {system.invoker with output := command.abandon system.invoker.output count}}
  | .transactWithDriver doRead ioctl => do
    let (invoker,_,taken) ← system.invoker.transactWithDriver doRead ioctl
    return {system with invoker := invoker,consumed := system.consumed ++ taken}
  | .readInput bytes => some {system with invoker := {system.invoker with inputReadable := system.invoker.inputReadable-bytes}}

end System

end CommunicationIpc.Kernel.CommandStream
