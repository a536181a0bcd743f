import Mathlib.Data.List.Basic

/-! `Hash` of the two socket transports of the C library: the port for a session name. A name is its characters in front of the
terminator; `signed` says whether `char` is a signed type. -/
namespace CommunicationIpc.Kernel.SocketHash

def defaultHashOffset : UInt16 := 3
def defaultHashSeed : UInt16 := 5381
def defaultPortMin : UInt16 := 10000

/-- `uint16_t` of a `char`. -/
def ofChar (signed : Bool) (char : UInt8) : UInt16 :=
  if signed then char.toInt8.toInt16.toUInt16 else char.toUInt16

/-- The sum is an `int`, and its store truncates it. -/
def mix (hash c : UInt16) : UInt16 := ((hash <<< defaultHashOffset)+hash)+c

def portOf (hash : UInt16) : UInt16 := hash % defaultPortMin+defaultPortMin

namespace Socket

/-- The loop of `rpc_socket_trans.c`: `c` was read before, and `name` points to what comes next. -/
def hashLoop (signed : Bool) (c : UInt16) : List UInt8 → UInt16 → UInt16
  -- the read behind the last character finds the terminator
  | [],hash => if c ≠ 0 then mix hash c else hash
  | char :: name,hash => if c ≠ 0 then hashLoop signed (ofChar signed char) name (mix hash c) else hash

/-- The first character is read once in front of the loop, without moving `name`. -/
def hash (signed : Bool) : Option (List UInt8) → UInt16
  | none => 0
  | some name => portOf (hashLoop signed (ofChar signed (name.headD 0)) name defaultHashSeed)

end Socket

namespace Mini

/-- The loop of `rpc_mini_socket_trans.c`. -/
def hashLoop (signed : Bool) : List UInt8 → UInt16 → UInt16
  | [],hash => hash
  | char :: name,hash =>
    let c := ofChar signed char
    if c ≠ 0 then hashLoop signed name (mix hash c) else hash

def hash (signed : Bool) : Option (List UInt8) → UInt16
  | none => 0
  | some name => portOf (hashLoop signed name defaultHashSeed)

end Mini

end CommunicationIpc.Kernel.SocketHash
