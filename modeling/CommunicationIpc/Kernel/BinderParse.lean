import CommunicationIpc.Kernel.IpcInvoker

/-! `BinderParse` of the C invoker on Linux, over the bytes the driver has left in the buffer and what lies behind them. Positions
count from the start of the buffer, and pointers have 64 bits. `handled` and `reads` are not in the source: the commands that were handled, with
what their handlers read, and the ranges that were read. -/
namespace CommunicationIpc.Kernel.BinderParse
open CommunicationIpc.Library CommunicationIpc.Kernel.IpcInvoker

/-- `_IOR('r', number, size)`, and `_IO` for size 0. -/
def ior (number size : Nat) : Nat := (if size = 0 then 0 else 2^31)+size*2^16+114*2^8+number

inductive Br
  | noop
  | transactionComplete
  | increfs
  | acquire
  | release
  | decrefs
  | spawnLooper
  | transaction
  | reply
  | deadBinder
  | clearDeathNotificationDone
  | failedReply
  | deadReply
  deriving DecidableEq

def ptrCookieSize : Nat := 16
def transactionDataSize : Nat := 64
def uintptrSize : Nat := 8

def Br.code : Br → Nat
  | noop => ior 12 0
  | transactionComplete => ior 6 0
  | increfs => ior 7 ptrCookieSize
  | acquire => ior 8 ptrCookieSize
  | release => ior 9 ptrCookieSize
  | decrefs => ior 10 ptrCookieSize
  | spawnLooper => ior 13 0
  | transaction => ior 2 transactionDataSize
  | reply => ior 3 transactionDataSize
  | deadBinder => ior 15 uintptrSize
  | clearDeathNotificationDone => ior 16 uintptrSize
  | failedReply => ior 17 0
  | deadReply => ior 5 0

def Br.all : List Br :=
  [noop,transactionComplete,increfs,acquire,release,decrefs,spawnLooper,transaction,reply,deadBinder,clearDeathNotificationDone,
    failedReply,deadReply]

/-- The label of the switch for a command, `default` where there is none. -/
def Br.find (cmd : Nat) : Option Br := all.find? fun br => br.code = cmd

def ipcInvokerInvalidData : Int32 := -33

structure State where
  pos : Nat
  ret : Int32
  handled : List (Br × List UInt8)
  reads : List (Nat × Nat)
  deriving DecidableEq

def State.new : State := ⟨0,1,[],[]⟩

namespace State

def handle (memory : Memory) (s : State) (br : Br) (width : Nat) : State :=
  { s with
    pos := s.pos+width, handled := s.handled ++ [(br,memory.readBytes s.pos width)], reads := s.reads ++ [(s.pos,width)] }

def skip (s : State) (br : Br) (width : Nat) : State := { s with pos := s.pos+width, handled := s.handled ++ [(br,[])] }

/-- `(end - ptr) < sizeof`, of unsigned numbers: behind the end the difference is larger than any size. -/
def lacks (size : Nat) (s : State) (width : Nat) : Bool := decide (s.pos ≤ size ∧ size-s.pos < width)

/-- With whether the loop goes on. -/
def handleChecked (memory : Memory) (size : Nat) (s : State) (br : Br) (width : Nat) : State × Bool :=
  if s.lacks size width then ({ s with ret := ipcInvokerInvalidData },false) else (s.handle memory br width,true)

def turn (memory : Memory) (size : Nat) (s : State) : State × Bool :=
  let cmd := memory.read s.pos 4
  let s := { s with pos := s.pos+4, reads := s.reads ++ [(s.pos,4)] }
  match Br.find cmd with
  | none => ({ s with ret := ipcInvokerUnknownCode },true)
  | some br =>
    match br with
    | .noop | .transactionComplete => (s.skip br 0,true)
    | .increfs | .acquire => s.handleChecked memory size br ptrCookieSize
    | .release | .decrefs => (s.skip br ptrCookieSize,true)
    | .spawnLooper => (s.skip br 0,true)
    | .transaction => s.handleChecked memory size br transactionDataSize
    | .reply =>
      let (next,goesOn) := s.handleChecked memory size br transactionDataSize
      if goesOn then ({ next with ret := 0 },true) else (next,false)
    | .deadBinder => (s.handle memory br uintptrSize,true)
    | .clearDeathNotificationDone => (s.skip br uintptrSize,true)
    | .failedReply => ({ s.skip br 0 with ret := ipcInvokerFailedReply },true)
    | .deadReply => ({ s.skip br 0 with ret := errDeadObject },true)

/-- Nothing when the turns do not suffice. -/
def loop (memory : Memory) (size : Nat) : Nat → State → Option State
  | 0,_ => none
  | turns+1,s =>
    if s.pos < size then
      match s.turn memory size with
      | (next,true) => loop memory size turns next
      | (ended,false) => some ended
    else some s

end State

/-- The fields of a `binder_transaction_data` that `ToIpcData` and the stub's side read. -/
def decodeTransaction (bytes : List UInt8) : BinderTransactionData where
  handle := UInt32.ofNat (ofLE (bytes.take 4))
  code := UInt32.ofNat (ofLE ((bytes.drop 16).take 4))
  flags := UInt32.ofNat (ofLE ((bytes.drop 20).take 4))
  dataSize := ofLE ((bytes.drop 32).take 8)
  buffer := ofLE ((bytes.drop 48).take 8)
  offsetsSize := ofLE ((bytes.drop 40).take 8)
  offsets := ofLE ((bytes.drop 56).take 8)

/-- What `HandleReply` has left of the caller's reply when the commands have been handled. -/
def repliesOf (buffer : Bool) (reply : Option Serializer.IpcIo) (handled : List (Br × List UInt8)) : Option Serializer.IpcIo :=
  handled.foldl (fun reply command => if command.1 = .reply then handleReply reply buffer (decodeTransaction command.2) else reply) reply

def binderParse (memory : Memory) (size : Nat) : Option State := State.loop memory size (size+1) .new

end CommunicationIpc.Kernel.BinderParse
