import CommunicationIpc.Library.Decimal
import CommunicationIpc.Library.Text

/-! Who the caller is, on one thread: the `BinderInvoker` of `ipc_core` and that of `ipc_single`, the
record they share, and the calls that change what their getters report. -/
namespace CommunicationIpc.Kernel.CallingIdentity
open CommunicationIpc.Library

def accessTokenMaxLen : Nat := 20
def pidLen : UInt64 := 32

inductive Lib
  | core
  | single
  deriving DecidableEq

/-- A `uid_t` as a `pid_t`. -/
def pidOf (uid : UInt32) : Int := if uid.toNat < 2^31 then uid.toNat else uid.toNat-2^32

/-- `getpid`, `getprocpid`, `getuid`, the token the driver has for the process, and `GetSid`. -/
structure Self where
  pid : Int
  realPid : Int
  uid : UInt32
  tokenId : UInt64
  sid : List UInt8

def getSelfTokenID (self : Self) : UInt64 := if self.tokenId = 0 then self.uid.toUInt64 else self.tokenId

/-- What a sender is; what of it is known depends on the driver. -/
structure Caller where
  pid : Int
  realPid : Int
  uid : UInt32
  tokenId : UInt64
  firstTokenId : UInt64
  sid : List UInt8

structure Features where
  realPid : Bool
  accessToken : Bool

structure InvokerProcInfo where
  pid : Int
  realPid : Int
  uid : Int
  tokenId : UInt64
  firstTokenId : UInt64
  sid : List UInt8
  deriving DecidableEq

/-- `caller` holds `callerPid_` and the fields next to it. -/
structure BinderInvoker where
  caller : InvokerProcInfo
  active : Bool
  invokerInfo : InvokerProcInfo

def InvokerProcInfo.new (self : Self) : InvokerProcInfo := ⟨self.pid,self.realPid,pidOf self.uid,0,0,[]⟩

def BinderInvoker.new (self : Self) : BinderInvoker := ⟨.new self,false,.new self⟩

/-- What the getters of `IPCSkeleton` return. -/
structure Identity where
  pid : Int
  realPid : Int
  uid : Int
  tokenId : UInt64
  sid : List UInt8
  deriving DecidableEq

def Self.identity (self : Self) : Identity := ⟨self.pid,self.realPid,pidOf self.uid,getSelfTokenID self,self.sid⟩

/-- A process without a token is given its uid for one. -/
def InvokerProcInfo.identity (info : InvokerProcInfo) : Identity :=
  ⟨info.pid,info.realPid,info.uid,if info.tokenId = 0 then UInt64.ofInt info.uid else info.tokenId,info.sid⟩

section Text

def isSpace (char : UInt8) : Bool := char = 32 ∨ 9 ≤ char.toNat ∧ char.toNat ≤ 13

/-- `strtoull` and `strtoll` on a whole string: the sign and the magnitude. -/
def strToInteger (chars : List UInt8) : Option (Bool × Nat) :=
  let unsigned (digits : List UInt8) : Option Nat :=
    if digits ≠ [] ∧ digits.all isDigit then some (ofDecimal digits) else none
  match (cString chars).dropWhile isSpace with
  | 45 :: digits => (unsigned digits).map fun value => (true,value)
  | 43 :: digits => (unsigned digits).map fun value => (false,value)
  | digits => (unsigned digits).map fun value => (false,value)

def strToUint64 (chars : List UInt8) : Option UInt64 :=
  match strToInteger chars with
  | none => none
  | some (negative,value) =>
    if 2^64 ≤ value then none
    else if negative then some (-UInt64.ofNat value) else some (UInt64.ofNat value)

def strToInt32 (chars : List UInt8) : Option Int :=
  match strToInteger chars with
  | none => none
  | some (negative,magnitude) =>
    let value : Int := if negative then -magnitude else magnitude
    if -2^31 ≤ value ∧ value < 2^31 then some value else none

/-- `GetSubStr`. -/
def getSubStr (chars : List UInt8) (offset length : Nat) : Option (List UInt8) :=
  if chars = [] ∨ chars.length < offset+length then none else some ((chars.drop offset).take length)

def getUint64ValueByStrSlice (chars : List UInt8) (offset length : Nat) : Option UInt64 :=
  (getSubStr chars offset length).bind strToUint64

def getCallerRealPidByStr (chars : List UInt8) (offset length : Nat) : Option Int :=
  ((getSubStr chars offset length).bind strToInt32).filter fun value => 0 ≤ value

def getCallerPidAndUidByStr (chars : List UInt8) (offset : Nat) : Option (Int × Int) :=
  if chars.length ≤ offset then none
  else
    match getUint64ValueByStrSlice chars offset (chars.length-offset) with
    | none => none
    | some pidUid =>
      let pid := pidOf pidUid.toUInt32
      let uid := pidOf (pidUid >>> pidLen).toUInt32
      if pid < 0 ∨ uid < 0 then none else some (pid,uid)

/-- `%020d`. -/
def signedDecimal (value : Int) : List UInt8 :=
  if value < 0 then 45 :: decimal (accessTokenMaxLen-1) value.natAbs else decimal accessTokenMaxLen value.natAbs

def toString64 (value : UInt64) : List UInt8 := trimZeros (decimal accessTokenMaxLen value.toNat)

end Text

namespace BinderInvoker

/-- The other library's caller, when this one serves nothing itself. -/
def shown (self : Self) (invoker : BinderInvoker) : InvokerProcInfo :=
  if ¬ invoker.active ∧ self.pid ≠ invoker.invokerInfo.pid then invoker.invokerInfo else invoker.caller

def getStatus (self : Self) (record : Option InvokerProcInfo) (invoker : BinderInvoker) : BinderInvoker × Bool :=
  if invoker.active then (invoker,true)
  else
    match record with
    | none => (invoker,false)
    | some info => ({ invoker with invokerInfo := info },self.pid ≠ info.pid)

def resetCallingIdentity (self : Self) (invoker : BinderInvoker) : BinderInvoker × List UInt8 :=
  let info := invoker.shown self
  let accessToken := decimal accessTokenMaxLen info.tokenId.toNat
  let pidUid := toString64 (UInt64.ofInt info.uid <<< pidLen ||| UInt64.ofInt info.pid)
  ({ invoker with caller := ⟨self.pid,self.realPid,pidOf self.uid,getSelfTokenID self,invoker.caller.firstTokenId,[]⟩ },
    info.sid ++ 60 :: (accessToken ++ signedDecimal info.realPid ++ pidUid))

/-- An identity that cannot be read changes nothing. -/
def setCallingIdentity (invoker : BinderInvoker) (identity : List UInt8) : BinderInvoker :=
  let parsed : Option InvokerProcInfo := do
    if identity.length ≤ accessTokenMaxLen then none
    let pos ← identity.findIdx? fun char => char = 60
    let sid ← getSubStr identity 0 pos
    let tokenId ← getUint64ValueByStrSlice identity (pos+1) accessTokenMaxLen
    let realPid ← getCallerRealPidByStr identity (pos+1+accessTokenMaxLen) accessTokenMaxLen
    let (pid,uid) ← getCallerPidAndUidByStr identity (pos+1+accessTokenMaxLen*2)
    some ⟨pid,realPid,uid,tokenId,invoker.caller.firstTokenId,sid⟩
  match parsed with
  | none => invoker
  | some caller => { invoker with caller := caller }

/-- The same, with the result and in the order of the source: the fields are assigned when all parts have been read. -/
def setCallingIdentityResult (invoker : BinderInvoker) (identity : List UInt8) : BinderInvoker × Bool :=
  if identity.length ≤ accessTokenMaxLen then (invoker,false)
  else
    match identity.findIdx? fun char => char = 60 with
    | none => (invoker,false)
    | some pos =>
      match getSubStr identity 0 pos with
      | none => (invoker,false)
      | some sid =>
        match getUint64ValueByStrSlice identity (pos+1) accessTokenMaxLen with
        | none => (invoker,false)
        | some tokenId =>
          match getCallerRealPidByStr identity (pos+1+accessTokenMaxLen) accessTokenMaxLen with
          | none => (invoker,false)
          | some realPid =>
            match getCallerPidAndUidByStr identity (pos+1+accessTokenMaxLen*2) with
            | none => (invoker,false)
            | some (pid,uid) => ({ invoker with caller := ⟨pid,realPid,uid,tokenId,invoker.caller.firstTokenId,sid⟩ },true)

/-- The fields that `Transaction` sets. A driver that fails to tell them gives zeros; one that knows no tokens leaves them. -/
def received (features : Features) (failed : Bool) (caller : Caller) (old : InvokerProcInfo) : InvokerProcInfo :=
  if features.realPid then
    if failed then ⟨caller.pid,0,pidOf caller.uid,0,0,caller.sid⟩
    else ⟨caller.pid,caller.realPid,pidOf caller.uid,caller.tokenId,caller.firstTokenId,caller.sid⟩
  else if features.accessToken then
    if failed then ⟨caller.pid,caller.pid,pidOf caller.uid,0,0,caller.sid⟩
    else ⟨caller.pid,caller.pid,pidOf caller.uid,caller.tokenId,caller.firstTokenId,caller.sid⟩
  else ⟨caller.pid,caller.pid,pidOf caller.uid,old.tokenId,old.firstTokenId,caller.sid⟩

end BinderInvoker

/-- A call in progress: a transaction with what it saved, or the code after a `ResetCallingIdentity` with what that
returned. -/
inductive Frame
  | transaction (lib : Lib) (caller : Caller) (oldInvokerProcInfo : InvokerProcInfo) (oldStatus : Bool)
  | reset (lib : Lib) (identity : List UInt8)

structure Thread where
  core : BinderInvoker
  single : BinderInvoker
  record : Option InvokerProcInfo
  stack : List Frame

inductive Event
  | transaction (lib : Lib) (caller : Caller) (failed : Bool)
  | finish
  | resetCallingIdentity (lib : Lib)
  | setCallingIdentity
  | query (lib : Lib)

namespace Thread

def new (self : Self) : Thread := ⟨.new self,.new self,none,[]⟩

def invoker (thread : Thread) : Lib → BinderInvoker
  | .core => thread.core
  | .single => thread.single

def update (thread : Thread) (lib : Lib) (invoker : BinderInvoker) : Thread :=
  match lib with
  | .core => { thread with core := invoker }
  | .single => { thread with single := invoker }

/-- The invoker of the library, if it is the active one. -/
def getActiveInvoker (self : Self) (thread : Thread) (lib : Lib) : Thread × Option BinderInvoker :=
  let (invoker,active) := (thread.invoker lib).getStatus self thread.record
  (thread.update lib invoker,if active then some invoker else none)

/-- What the getters of the library report. -/
def report (self : Self) (thread : Thread) (lib : Lib) : Identity :=
  match (thread.getActiveInvoker self lib).2 with
  | none => self.identity
  | some invoker => (invoker.shown self).identity

/-- `Transaction` up to the call of the target. -/
def transaction (thread : Thread) (features : Features) (lib : Lib) (caller : Caller) (failed : Bool) : Thread :=
  let invoker := thread.invoker lib
  let info := BinderInvoker.received features failed caller invoker.caller
  { thread.update lib { invoker with caller := info, active := true } with
    record := some info, stack := .transaction lib caller invoker.caller invoker.active :: thread.stack }

/-- `Transaction` from the reply on. -/
def finish (thread : Thread) (lib : Lib) (oldInvokerProcInfo : InvokerProcInfo) (oldStatus : Bool) (rest : List Frame) : Thread :=
  { thread.update lib { thread.invoker lib with caller := oldInvokerProcInfo, active := oldStatus } with
    record := some oldInvokerProcInfo, stack := rest }

def resetCallingIdentity (self : Self) (thread : Thread) (lib : Lib) : Thread :=
  match thread.getActiveInvoker self lib with
  | (asked,none) => { asked with stack := .reset lib [] :: asked.stack }
  | (asked,some invoker) =>
    let (changed,identity) := invoker.resetCallingIdentity self
    { asked.update lib changed with stack := .reset lib identity :: asked.stack }

def setCallingIdentity (self : Self) (thread : Thread) (lib : Lib) (identity : List UInt8) (rest : List Frame) : Thread :=
  match thread.getActiveInvoker self lib with
  | (asked,none) => { asked with stack := rest }
  | (asked,some invoker) => { asked.update lib (invoker.setCallingIdentity identity) with stack := rest }

/-- A transaction ends, and an identity is set back, only as the innermost call; the pair of calls is made through one library. -/
def step (self : Self) (features : Features) (thread : Thread) : Event → Option Thread
  | .transaction lib caller failed => some (thread.transaction features lib caller failed)
  | .finish =>
    match thread.stack with
    | .transaction lib _ oldInvokerProcInfo oldStatus :: rest => some (thread.finish lib oldInvokerProcInfo oldStatus rest)
    | _ => none
  | .resetCallingIdentity lib => some (thread.resetCallingIdentity self lib)
  | .setCallingIdentity =>
    match thread.stack with
    | .reset lib identity :: rest => some (thread.setCallingIdentity self lib identity rest)
    | _ => none
  | .query lib => some (thread.getActiveInvoker self lib).1

end Thread

end CommunicationIpc.Kernel.CallingIdentity
