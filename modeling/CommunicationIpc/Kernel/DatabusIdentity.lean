import CommunicationIpc.Kernel.Auth
import CommunicationIpc.Kernel.CallingIdentity

/-! The caller of a databus transaction: where `DBinderDatabusInvoker` gets it from, and the text it is saved in. A `pid_t` is an
integer in its range; a session is that of the tables of `IPCProcessSkeleton`. -/
namespace CommunicationIpc.Kernel.DatabusIdentity
open CommunicationIpc.Library CommunicationIpc.Kernel.Auth CommunicationIpc.Kernel.CallingIdentity

def errNone : Nat := 0
def rpcDatabusInvokerInvalidDataErr : Nat := 601
def rpcDatabusInvokerInvalidStubIndex : Nat := 603

structure DBinderCallerInfo where
  callerPid : Int
  callerUid : Int
  clientFd : Int32
  callerTokenID : UInt64
  firstTokenID : UInt64
  callerDeviceID : List UInt8
  deriving DecidableEq

/-- `getpid`, `getuid`, `GetLocalDeviceID` and `GetSelfTokenID`. -/
structure Process where
  pid : Int
  uid : UInt32
  localDeviceID : List UInt8
  tokenId : UInt64

structure DBinderDatabusInvoker where
  caller : DBinderCallerInfo
  deriving DecidableEq

namespace DBinderDatabusInvoker

def checkAndSetCallerInfo (invoker : DBinderDatabusInvoker) (skeleton : Skeleton) (socketId : Int32) (stubIndex : UInt64) :
    DBinderDatabusInvoker × Nat :=
  match skeleton.dbinderSessionObjects.lookup socketId with
  | none => (invoker,rpcDatabusInvokerInvalidDataErr)
  | some session =>
    if pidOf session.uid < 0 ∨ session.deviceId.length > deviceIdLength then (invoker,rpcDatabusInvokerInvalidDataErr)
    else if skeleton.queryAppInfoToStubIndex ⟨session,socketId,stubIndex,none⟩ = false then
      (invoker,rpcDatabusInvokerInvalidStubIndex)
    else
      ({ invoker with caller :=
          { callerPid := pidOf session.pid,
            callerUid := pidOf session.uid,
            clientFd := socketId,
            callerTokenID := session.tokenId.toUInt64,
            firstTokenID := session.tokenId.toUInt64,
            callerDeviceID := session.deviceId } },errNone)

def resetCallingIdentity (self : Process) (invoker : DBinderDatabusInvoker) : DBinderDatabusInvoker × List UInt8 :=
  let token := toString64 (UInt64.ofInt invoker.caller.callerUid <<< pidLen ||| UInt64.ofInt invoker.caller.callerPid)
  let identity := invoker.caller.callerDeviceID ++ token
  let accessToken := decimal accessTokenMaxLen invoker.caller.callerTokenID.toNat
  ({ invoker with caller :=
      { invoker.caller with
        callerUid := pidOf self.uid,
        callerPid := self.pid,
        callerDeviceID := self.localDeviceID,
        callerTokenID := self.tokenId } },accessToken ++ identity)

def setCallingIdentity (invoker : DBinderDatabusInvoker) (identity : List UInt8) : DBinderDatabusInvoker × Bool :=
  if identity = [] ∨ identity.length ≤ deviceIdLength then (invoker,false)
  else
    match getUint64ValueByStrSlice identity 0 accessTokenMaxLen with
    | none => (invoker,false)
    | some tokenId =>
      match getSubStr identity accessTokenMaxLen deviceIdLength with
      | none => (invoker,false)
      | some deviceId =>
        let offset := accessTokenMaxLen+deviceIdLength
        if identity.length ≤ offset then (invoker,false)
        else
          let subLen := identity.length-offset
          match getUint64ValueByStrSlice identity offset subLen with
          | none => (invoker,false)
          | some token =>
            ({ invoker with caller :=
                { invoker.caller with
                  callerUid := pidOf (token >>> pidLen).toUInt32,
                  callerPid := pidOf token.toUInt32,
                  callerDeviceID := deviceId,
                  callerTokenID := tokenId } },true)

end DBinderDatabusInvoker

end CommunicationIpc.Kernel.DatabusIdentity
