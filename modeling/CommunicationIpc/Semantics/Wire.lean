import CommunicationIpc.Kernel.Serializer

/-! The wire form of the typed values: what a write call is to append and what the matching read
call is to take off again. -/
namespace CommunicationIpc.Semantics.Wire
open CommunicationIpc.Library CommunicationIpc.Kernel.Serializer

/-- Filled with zeros to a multiple of four bytes. -/
def padded (bytes : List UInt8) : List UInt8 := bytes ++ List.replicate ((bytes.length+3)/4*4-bytes.length) 0

def counted (count : Nat) (bytes : List UInt8) : List UInt8 := Word.bytes (UInt32.ofNat count) ++ bytes

/-- A `bool` that is widened to four bytes. -/
def wideBool (value : Bool) : Int32 := if value then 1 else 0

def encode : Item → List UInt8
  | .bool value => Word.bytes (wideBool value)
  | .boolUnaligned value => Word.bytes value
  | .int8 value => Word.bytes value.toInt32
  | .int8Unaligned value => Word.bytes value
  | .uint8 value => Word.bytes value.toUInt32
  | .uint8Unaligned value => Word.bytes value
  | .int16 value => Word.bytes value.toInt32
  | .int16Unaligned value => Word.bytes value
  | .uint16 value => Word.bytes value.toUInt32
  | .uint16Unaligned value => Word.bytes value
  | .int32 value => Word.bytes value
  | .uint32 value => Word.bytes value
  | .int64 value => Word.bytes value
  | .uint64 value => Word.bytes value
  | .float value => Word.bytes value
  | .double value => Word.bytes value
  | .pointer value => Word.bytes value
  | .string value => counted (cString value).length (padded (cString value ++ [0]))
  | .string16 value => counted value.length (padded (Word.array (value ++ [0])))
  | .interfaceToken name => counted name.length (padded (Word.array (name ++ [0])))
  | .buffer data => padded data
  | .rawData data => counted data.length (padded data)
  | .boolVector val => counted val.length (val.flatMap fun value => Word.bytes (wideBool value))
  | .int8Vector val => counted val.length (Word.array val)
  | .int16Vector val => counted val.length (val.flatMap fun value => Word.bytes value.toInt32)
  | .int32Vector val => counted val.length (Word.array val)
  | .int64Vector val => counted val.length (Word.array val)
  | .uint8Vector val => counted val.length (Word.array val)
  | .uint16Vector val => counted val.length (Word.array val)
  | .uint32Vector val => counted val.length (Word.array val)
  | .uint64Vector val => counted val.length (Word.array val)
  | .floatVector val => counted val.length (Word.array val)
  | .doubleVector val => counted val.length (Word.array val)

/-- The read call that matches a write call; the two that take a size are given the size written. -/
def kind : Item → Kind
  | .bool _ => .bool
  | .boolUnaligned _ => .boolUnaligned
  | .int8 _ => .int8
  | .int8Unaligned _ => .int8Unaligned
  | .uint8 _ => .uint8
  | .uint8Unaligned _ => .uint8Unaligned
  | .int16 _ => .int16
  | .int16Unaligned _ => .int16Unaligned
  | .uint16 _ => .uint16
  | .uint16Unaligned _ => .uint16Unaligned
  | .int32 _ => .int32
  | .uint32 _ => .uint32
  | .int64 _ => .int64
  | .uint64 _ => .uint64
  | .float _ => .float
  | .double _ => .double
  | .pointer _ => .pointer
  | .string _ => .string
  | .string16 _ => .string16
  | .interfaceToken _ => .interfaceToken
  | .buffer data => .buffer (.ofNat data.length)
  | .rawData data => .rawData (.ofNat data.length)
  | .boolVector _ => .boolVector
  | .int8Vector _ => .int8Vector
  | .int16Vector _ => .int16Vector
  | .int32Vector _ => .int32Vector
  | .int64Vector _ => .int64Vector
  | .uint8Vector _ => .uint8Vector
  | .uint16Vector _ => .uint16Vector
  | .uint32Vector _ => .uint32Vector
  | .uint64Vector _ => .uint64Vector
  | .floatVector _ => .floatVector
  | .doubleVector _ => .doubleVector

/-- The value itself; of the memory behind a string pointer, the string. -/
def value : Item → Item
  | .string chars => .string (cString chars)
  | item => item

/-- The bytes of an array argument. -/
def arraySize : Item → Nat
  | .string16 value => value.length*2
  | .interfaceToken name => name.length*2
  | .int8Vector val => val.length*1
  | .int32Vector val => val.length*4
  | .int64Vector val => val.length*8
  | .uint8Vector val => val.length*1
  | .uint16Vector val => val.length*2
  | .uint32Vector val => val.length*4
  | .uint64Vector val => val.length*8
  | .floatVector val => val.length*4
  | .doubleVector val => val.length*8
  | _ => 0

end CommunicationIpc.Semantics.Wire
