import CommunicationIpc.Library.Window

/-! The send half of `BufferObject` and its two users, `MoveTransData2Buffer` and
`SendData`. Cursors and sizes are `ssize_t`; an allocation is an outcome of
`new (std::nothrow)`, which on success leaves arbitrary bytes. Every function runs
under `sendMutex_`. -/
namespace CommunicationIpc.Kernel.SendBuffer
open CommunicationIpc.Library

def socketDefaultBuffSize : Nat := 4*1024
def socketBuffReservedSize : Nat := 256

def socketBuffSizeUserS : Nat := 4*1024
def socketBuffSizeUserSM : Nat := 8*1024
def socketBuffSizeUserM : Nat := 16*1024
def socketBuffSizeUserML : Nat := 32*1024
def socketBuffSizeUserL : Nat := 64*1024
def socketBuffSizeUserXL : Nat := 128*1024
def socketBuffSizeUser2L : Nat := 256*1024
def socketBuffSizeUser3L : Nat := 512*1024
def socketBuffSizeUserHuge : Nat := 1024*1024

def errNone : Int := 0
def rpcDatabusInvokerInvalidDataErr : Int := 601

def toUInt32 (value : Int) : Nat := (value % 2^32).toNat

abbrev Allocation := Option (Nat → UInt8)

def newBuffer (allocation : Allocation) (size : Nat) : Option (List UInt8) :=
  allocation.map fun bytes => (List.range size).map bytes

/-- `memcpy_s` to position `at` of a block; it fails exactly when `count` exceeds `destMax`. -/
def memcpyS (dest : List UInt8) (position destMax : Nat) (src : List UInt8) (count : Nat) : Option (List UInt8) :=
  if count ≤ destMax then some (overwrite dest position (src.take count)) else none

structure BufferObject where
  sendBuffer : Option (List UInt8)
  sendBuffSize : Int
  sendBufferCursorW : Int
  sendBufferCursorR : Int

def BufferObject.new : BufferObject := ⟨none,0,0,0⟩

structure Package where
  bytes : List UInt8
  sizeFits : bytes.length < 2^32

def Package.sizeOfSelf (package : Package) : Nat := package.bytes.length

def getNeedBufferSize (size : Nat) : Nat :=
  if size ≤ socketBuffSizeUserS then socketBuffSizeUserS
  else if size ≤ socketBuffSizeUserSM then socketBuffSizeUserSM
  else if size ≤ socketBuffSizeUserM then socketBuffSizeUserM
  else if size ≤ socketBuffSizeUserML then socketBuffSizeUserML
  else if size ≤ socketBuffSizeUserL then socketBuffSizeUserL
  else if size ≤ socketBuffSizeUserXL then socketBuffSizeUserXL
  else if size ≤ socketBuffSizeUser2L then socketBuffSizeUser2L
  else if size ≤ socketBuffSizeUser3L then socketBuffSizeUser3L
  else if size ≤ socketBuffSizeUserHuge then socketBuffSizeUserHuge
  else 0

def getProgressiveBufferSize (currentSize : Nat) : Nat :=
  if currentSize < socketBuffSizeUserS then socketBuffSizeUserS
  else if currentSize < socketBuffSizeUserSM then socketBuffSizeUserSM
  else if currentSize < socketBuffSizeUserM then socketBuffSizeUserM
  else if currentSize < socketBuffSizeUserML then socketBuffSizeUserML
  else if currentSize < socketBuffSizeUserL then socketBuffSizeUserL
  else if currentSize < socketBuffSizeUserXL then socketBuffSizeUserXL
  else if currentSize < socketBuffSizeUser2L then socketBuffSizeUser2L
  else if currentSize < socketBuffSizeUser3L then socketBuffSizeUser3L
  else if currentSize < socketBuffSizeUserHuge then socketBuffSizeUserHuge
  else 0

def getExpandedBufferSize (currentBuffSize totalNeedSize : Nat) : Nat :=
  let alignedNeed := getNeedBufferSize totalNeedSize
  if alignedNeed = 0 then 0
  else if alignedNeed > currentBuffSize then alignedNeed
  else if alignedNeed = currentBuffSize then getProgressiveBufferSize currentBuffSize
  else currentBuffSize

namespace BufferObject

def resetSendCursors (buffer : BufferObject) : BufferObject :=
  { buffer with sendBufferCursorW := 0, sendBufferCursorR := 0 }

def expandSendBuffer (buffer : BufferObject) (size : Nat) (allocation : Allocation) : BufferObject × Bool :=
  let needSize := getNeedBufferSize size
  if needSize = 0 then (buffer,true)
  else if needSize > toUInt32 buffer.sendBuffSize then
    match newBuffer allocation needSize with
    | none => (buffer,false)
    | some fresh =>
      let copied := match buffer.sendBuffer with
        | none => some fresh
        | some bytes =>
          if 0 < buffer.sendBuffSize then
            memcpyS fresh 0 needSize bytes buffer.sendBuffSize.toNat
          else some fresh
      match copied with
      | none => (buffer,false)
      | some bytes => ({ buffer with sendBuffer := some bytes, sendBuffSize := needSize },true)
  else (buffer,true)

/-- Success is a non-null `buffer` in the returned `SendBufferContext`. -/
def acquireSendBuffer (buffer : BufferObject) (size : Nat) (allocation : Allocation) : BufferObject × Bool :=
  let needSize := getNeedBufferSize size
  if needSize = 0 then (buffer,false)
  else
    match buffer.expandSendBuffer needSize allocation with
    | (expanded,true) => (expanded,expanded.sendBuffer.isSome)
    | (expanded,false) => (expanded,false)

/-- The `memmove_s` of the pending bytes to the front of the buffer, as both of its callers do it. -/
def moveSendBuffer (buffer : BufferObject) : BufferObject × Bool :=
  let moveLen := buffer.sendBufferCursorW-buffer.sendBufferCursorR
  match buffer.sendBuffer with
  | none => (buffer.resetSendCursors,false)
  | some bytes =>
    match memcpyS bytes 0 moveLen.toNat (bytes.drop buffer.sendBufferCursorR.toNat) moveLen.toNat with
    | none => (buffer.resetSendCursors,false)
    | some moved =>
      ({ buffer with sendBuffer := some moved, sendBufferCursorW := moveLen, sendBufferCursorR := 0 },true)

def memmoveSendBufferIfInsufficient (buffer : BufferObject) (userDataSize : Nat) : BufferObject × Bool :=
  let remainingSpace := buffer.sendBuffSize-buffer.sendBufferCursorW
  match (if remainingSpace ≤ userDataSize then buffer.moveSendBuffer else (buffer,true)) with
  | (moved,false) => (moved,false)
  | (moved,true) =>
    let remaining := moved.sendBuffSize-moved.sendBufferCursorW
    if remaining ≤ userDataSize then (moved.resetSendCursors,false) else (moved,true)

def tryMemmoveSendBuffer (buffer : BufferObject) : BufferObject × Bool :=
  let moveLen := buffer.sendBufferCursorW-buffer.sendBufferCursorR
  let tailSpace := buffer.sendBuffSize-buffer.sendBufferCursorW
  if tailSpace < socketBuffReservedSize ∧ moveLen < buffer.sendBufferCursorR ∧ 0 < moveLen then buffer.moveSendBuffer
  else (buffer,true)

def tryExpandSendBufferLocked (buffer : BufferObject) (userDataSize : Nat) (allocation : Allocation) :
    BufferObject × Bool :=
  let usedSpace := buffer.sendBufferCursorW-buffer.sendBufferCursorR
  let totalNeed := usedSpace+userDataSize+socketBuffReservedSize
  if usedSpace < 0 then (buffer.resetSendCursors,false)
  else if usedSpace > (socketBuffSizeUserHuge : Int)-userDataSize-socketBuffReservedSize then
    (buffer.resetSendCursors,false)
  else if totalNeed ≤ 0 ∨ totalNeed > socketBuffSizeUserHuge then (buffer.resetSendCursors,false)
  else
    let nextSize := getExpandedBufferSize (toUInt32 buffer.sendBuffSize) (toUInt32 totalNeed)
    if nextSize = 0 then (buffer.resetSendCursors,false)
    else
      match buffer.expandSendBuffer nextSize allocation with
      | (expanded,false) => (expanded.resetSendCursors,false)
      | (expanded,true) => expanded.memmoveSendBufferIfInsufficient userDataSize

/-- The returned pointer is `sendBuffer` of the returned object, null on failure. -/
def updateSendBufferLocked (buffer : BufferObject) (userDataSize : Nat) (allocation : Allocation) :
    BufferObject × Option (List UInt8) :=
  if buffer.sendBufferCursorW ≤ buffer.sendBufferCursorR then
    (buffer.resetSendCursors,buffer.sendBuffer)
  else
    let remainingSpace := buffer.sendBuffSize-buffer.sendBufferCursorW
    match (if remainingSpace ≤ userDataSize then buffer.tryExpandSendBufferLocked userDataSize allocation
      else (buffer,true)) with
    | (expanded,false) => (expanded,none)
    | (expanded,true) =>
      match expanded.tryMemmoveSendBuffer with
      | (moved,false) => (moved,none)
      | (moved,true) => (moved,moved.sendBuffer)

def setSendBufferWriteCursorEx (buffer : BufferObject) (newWriteCursor : Int) : BufferObject × Bool :=
  if newWriteCursor < 0 then (buffer,false)
  else if 0 < buffer.sendBuffSize ∧ newWriteCursor > buffer.sendBuffSize then (buffer,false)
  else ({ buffer with sendBufferCursorW := newWriteCursor },true)

def setSendBufferReadCursorEx (buffer : BufferObject) (newReadCursor : Int) : BufferObject × Bool :=
  if newReadCursor < 0 then (buffer,false)
  else if 0 < buffer.sendBuffSize ∧ newReadCursor > buffer.sendBuffSize then (buffer,false)
  else ({ buffer with sendBufferCursorR := newReadCursor },true)

def moveTransData2Buffer (buffer : BufferObject) (transData : Package) (acquiring expanding : Allocation) :
    BufferObject × Bool :=
  let sendSize := transData.sizeOfSelf
  match buffer.acquireSendBuffer sendSize acquiring with
  | (acquired,false) => (acquired,false)
  | (acquired,true) =>
    match acquired.updateSendBufferLocked sendSize expanding with
    | (updated,none) => (updated,false)
    | (updated,some sendBuffer) =>
      let writeCursor := updated.sendBufferCursorW
      let readCursor := updated.sendBufferCursorR
      let bufferSize := updated.sendBuffSize
      if writeCursor < 0 ∨ readCursor < 0 ∨ writeCursor > bufferSize ∨
          sendSize > toUInt32 (bufferSize-writeCursor) then (updated,false)
      else
        match memcpyS sendBuffer writeCursor.toNat (bufferSize-writeCursor).toNat transData.bytes sendSize with
        | none => (updated,false)
        | some bytes =>
          let written := ({ updated with sendBuffer := some bytes }.setSendBufferWriteCursorEx
            (writeCursor+sendSize)).1
          ((written.setSendBufferReadCursorEx readCursor).1,true)

/-- `SendBytes` returns `sendBytes`; the second component is what was handed over when that is 0. -/
def sendData (buffer : BufferObject) (acquiring expanding : Allocation) (sendBytes : Int) :
    BufferObject × List UInt8 × Int :=
  match buffer.acquireSendBuffer socketDefaultBuffSize acquiring with
  | (acquired,false) => (acquired,[],-rpcDatabusInvokerInvalidDataErr)
  | (acquired,true) =>
    match acquired.updateSendBufferLocked 0 expanding with
    | (updated,none) => (updated,[],-rpcDatabusInvokerInvalidDataErr)
    | (updated,some sendBuffer) =>
      let writeCursor := updated.sendBufferCursorW
      let readCursor := updated.sendBufferCursorR
      let sendBuffSize := updated.sendBuffSize
      if readCursor < 0 ∨ writeCursor < 0 ∨ readCursor > sendBuffSize ∨ writeCursor < readCursor then
        (updated,[],-rpcDatabusInvokerInvalidDataErr)
      else if writeCursor = readCursor then (updated,[],errNone)
      else
        let size := writeCursor-readCursor
        if sendBytes ≠ 0 then (updated,[],sendBytes)
        else
          let payload := (sendBuffer.drop readCursor.toNat).take size.toNat
          match updated.setSendBufferReadCursorEx (readCursor+size) with
          | (advanced,false) => (advanced,payload,-rpcDatabusInvokerInvalidDataErr)
          | (advanced,true) => (advanced,payload,sendBytes)

end BufferObject

structure Session where
  buffer : BufferObject
  sent : List UInt8
  appended : List (List UInt8)

def Session.new : Session := ⟨BufferObject.new,[],[]⟩

/-- One critical section under `sendMutex_`, run by `thread`. -/
inductive Section where
  | moveTransData2Buffer (thread : Nat) (transData : Package) (acquiring expanding : Allocation)
  | sendData (thread : Nat) (acquiring expanding : Allocation) (sendBytes : Int)

def Session.step (session : Session) : Section → Session
  | .moveTransData2Buffer _ transData acquiring expanding =>
    let result := session.buffer.moveTransData2Buffer transData acquiring expanding
    { session with buffer := result.1,
                   appended := if result.2 then session.appended ++ [transData.bytes] else session.appended }
  | .sendData _ acquiring expanding sendBytes =>
    let result := session.buffer.sendData acquiring expanding sendBytes
    { session with buffer := result.1, sent := session.sent ++ result.2.1 }

end CommunicationIpc.Kernel.SendBuffer
