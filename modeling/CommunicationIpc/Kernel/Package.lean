import CommunicationIpc.Library.Memory

/-! `dbinder_transaction_data` as it lies in a package, and the checks a received
package passes before a data thread sees it. Addresses are relative to the first byte
of the package; what lies behind its `sizeOfSelf` bytes is foreign memory. -/
namespace CommunicationIpc.Kernel.Package
open CommunicationIpc.Library

def socketMaxBuffSize : Nat := 1024*1024
def dbinderMagicword : Nat := 0x4442494E
def bcTransaction : Nat := 0x40406300
def bcReply : Nat := 0x40406301
def tfAsync : Nat := 0x01
def tfStatusCode : Nat := 0x08

/-- `sizeof(dbinder_transaction_data)`, the offset of its flexible `buffer`. -/
def headerSize : Nat := 64
/-- `sizeof(binder_size_t)`. -/
def binderSize : Nat := 8
/-- `sizeof(FlatDBinderSession)`, the `GetFlatSessionLen` of the databus invoker. -/
def flatSessionLen : Nat := 280

structure TransactionData where
  sizeOfSelf : Nat
  magic : Nat
  version : Nat
  cmd : Nat
  code : Nat
  flags : Nat
  cookie : Nat
  seqNumber : Nat
  bufferSize : Nat
  offsetsSize : Nat
  offsets : Nat
  deriving DecidableEq, Repr

def TransactionData.decode (memory : Memory) : TransactionData where
  sizeOfSelf := memory.read 0 4
  magic := memory.read 4 4
  version := memory.read 8 4
  cmd := memory.read 12 4
  code := memory.read 16 4
  flags := memory.read 20 4
  cookie := memory.read 24 8
  seqNumber := memory.read 32 8
  bufferSize := memory.read 40 8
  offsetsSize := memory.read 48 8
  offsets := memory.read 56 8

def hasFlag (flags mask : Nat) : Bool := flags &&& mask != 0

def wrap64 (value : Nat) : Nat := value % 2^64

def checkTransactionData (tr : TransactionData) : Bool :=
  if tr.sizeOfSelf = 0 ∨ tr.sizeOfSelf > socketMaxBuffSize ∨ tr.bufferSize > socketMaxBuffSize ∨
      tr.bufferSize = 0 ∨ tr.offsets ≠ tr.bufferSize ∨ tr.sizeOfSelf < wrap64 (headerSize+tr.bufferSize) then false
  else if hasFlag tr.flags tfStatusCode ∧ tr.offsets ≠ binderSize then false
  else if ¬ hasFlag tr.flags tfStatusCode then
    -- the two subtractions cannot wrap here: sizeOfSelf covers the header and the buffer
    if tr.offsetsSize > tr.sizeOfSelf-headerSize-tr.bufferSize then false
    else
      let sessionSize := tr.sizeOfSelf-tr.bufferSize-headerSize-tr.offsetsSize
      if wrap64 (sessionSize*binderSize) ≠ wrap64 (tr.offsetsSize*flatSessionLen) then false
      else true
  else true

/-- `data + readCursor` is the start of `memory`, and `len - readCursor` bytes of it were received.
The result is the package's size, 0 when there is none. -/
def hasCompletePackage (memory : Memory) (received : Nat) : Nat :=
  if received < headerSize then 0
  else
    let tr := TransactionData.decode memory
    if tr.magic = dbinderMagicword ∧ tr.sizeOfSelf ≤ socketMaxBuffSize+headerSize ∧ received ≥ tr.sizeOfSelf ∧
        checkTransactionData tr then tr.sizeOfSelf
    else 0

end CommunicationIpc.Kernel.Package
