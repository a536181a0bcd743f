import CommunicationIpc.Kernel.SendBuffer

/-! The receive half of `BufferObject`, under `recvMutex_`. Only `ExpandReceiveBuffer` differs in
more than its fields from what the send half does: it takes the size as it is given, refuses 0 and
resets the cursors itself when it fails. -/
namespace CommunicationIpc.Kernel.ReceiveBuffer
open CommunicationIpc.Library CommunicationIpc.Kernel.SendBuffer

structure ReceiveHalf where
  receiveBuffer : Option (List UInt8)
  recvBuffSize : Int
  recvBufferCursorW : Int
  recvBufferCursorR : Int

namespace ReceiveHalf

def resetReceiveCursors (buffer : ReceiveHalf) : ReceiveHalf :=
  { buffer with recvBufferCursorW := 0, recvBufferCursorR := 0 }

def expandReceiveBuffer (buffer : ReceiveHalf) (size : Nat) (allocation : Allocation) : ReceiveHalf × Bool :=
  if size = 0 then (buffer.resetReceiveCursors,false)
  else
    let targetSize := (size : Int)
    if targetSize ≤ buffer.recvBuffSize then (buffer,true)
    else
      match newBuffer allocation size with
      | none => (buffer.resetReceiveCursors,false)
      | some fresh =>
        let copied := match buffer.receiveBuffer with
          | none => some fresh
          | some bytes =>
            if 0 < buffer.recvBuffSize then
              memcpyS fresh 0 size bytes buffer.recvBuffSize.toNat
            else some fresh
        match copied with
        | none => (buffer.resetReceiveCursors,false)
        | some bytes => ({ buffer with receiveBuffer := some bytes, recvBuffSize := targetSize },true)

/-- The `memmove_s` of the unread bytes to the front of the buffer, as both of its callers do it. -/
def moveReceiveBuffer (buffer : ReceiveHalf) : ReceiveHalf × Bool :=
  let recvMoveLen := buffer.recvBufferCursorW-buffer.recvBufferCursorR
  match buffer.receiveBuffer with
  | none => (buffer.resetReceiveCursors,false)
  | some bytes =>
    match memcpyS bytes 0 recvMoveLen.toNat (bytes.drop buffer.recvBufferCursorR.toNat) recvMoveLen.toNat with
    | none => (buffer.resetReceiveCursors,false)
    | some moved =>
      ({ buffer with receiveBuffer := some moved, recvBufferCursorW := recvMoveLen, recvBufferCursorR := 0 },true)

def memmoveReceiveBufferIfInsufficient (buffer : ReceiveHalf) (userDataSize : Nat) : ReceiveHalf × Bool :=
  let remainingSpace := buffer.recvBuffSize-buffer.recvBufferCursorW
  match (if remainingSpace ≤ userDataSize then buffer.moveReceiveBuffer else (buffer,true)) with
  | (moved,false) => (moved,false)
  | (moved,true) =>
    let remaining := moved.recvBuffSize-moved.recvBufferCursorW
    if remaining ≤ userDataSize then (moved.resetReceiveCursors,false) else (moved,true)

def tryMemmoveReceiveBuffer (buffer : ReceiveHalf) : ReceiveHalf × Bool :=
  let recvMoveLen := buffer.recvBufferCursorW-buffer.recvBufferCursorR
  let tailSpace := buffer.recvBuffSize-buffer.recvBufferCursorW
  if tailSpace < socketBuffReservedSize ∧ recvMoveLen < buffer.recvBufferCursorR ∧ 0 < recvMoveLen then
    buffer.moveReceiveBuffer
  else (buffer,true)

def tryExpandReceiveBufferLocked (buffer : ReceiveHalf) (userDataSize : Nat) (allocation : Allocation) :
    ReceiveHalf × Bool :=
  let usedSpace := buffer.recvBufferCursorW-buffer.recvBufferCursorR
  let totalNeed := usedSpace+userDataSize+socketBuffReservedSize
  if usedSpace < 0 then (buffer.resetReceiveCursors,false)
  else if usedSpace > (socketBuffSizeUserHuge : Int)-userDataSize-socketBuffReservedSize then
    (buffer.resetReceiveCursors,false)
  else if totalNeed ≤ 0 ∨ totalNeed > socketBuffSizeUserHuge then (buffer.resetReceiveCursors,false)
  else
    let nextSize := getExpandedBufferSize (toUInt32 buffer.recvBuffSize) (toUInt32 totalNeed)
    if nextSize = 0 then (buffer.resetReceiveCursors,false)
    else
      match buffer.expandReceiveBuffer nextSize allocation with
      | (expanded,false) => (expanded.resetReceiveCursors,false)
      | (expanded,true) => expanded.memmoveReceiveBufferIfInsufficient userDataSize

/-- The returned pointer is `receiveBuffer` of the returned object, null on failure. -/
def updateReceiveBufferLocked (buffer : ReceiveHalf) (userDataSize : Nat) (allocation : Allocation) :
    ReceiveHalf × Option (List UInt8) :=
  if buffer.recvBufferCursorW ≤ buffer.recvBufferCursorR then
    (buffer.resetReceiveCursors,buffer.receiveBuffer)
  else
    let remainingSpace := buffer.recvBuffSize-buffer.recvBufferCursorW
    match (if remainingSpace ≤ userDataSize then buffer.tryExpandReceiveBufferLocked userDataSize allocation
      else (buffer,true)) with
    | (expanded,false) => (expanded,none)
    | (expanded,true) =>
      match expanded.tryMemmoveReceiveBuffer with
      | (moved,false) => (moved,none)
      | (moved,true) => (moved,moved.receiveBuffer)

end ReceiveHalf

end CommunicationIpc.Kernel.ReceiveBuffer
