import CommunicationIpc.Library.Decimal
import CommunicationIpc.Library.Text
import CommunicationIpc.Library.Word

/-! The `dbinder_negotiation_data` that a stub fills in for a proxy in another process, and what the proxy makes of it. Texts of units
become texts of bytes by `str16ToStr8`, and a session is opened by `makeDBinderTransSession`; neither is looked into. -/
namespace CommunicationIpc.Kernel.NegotiationData
open CommunicationIpc.Library

def sessionNameLength : Nat := 64
def deviceidLength : Nat := 64
def dbinderDescLength : Nat := 64

def dbinderServiceFillDataErr : Nat := 708
def dbinderServiceMallocErr : Nat := 710
def dbinderCallbackMemcpyErr : Nat := 905
def dbinderCallbackMallocErr : Nat := 906

inductive Proto
  | binder | databus | error
deriving DecidableEq

/-- `dbinder_negotiation_data`: names and device ids have 65 characters, `desc` has 65 units of two bytes. -/
structure Block where
  proto : Proto
  tokenid : UInt32
  stubIndex : UInt64
  targetName : List UInt8
  localName : List UInt8
  targetDevice : List UInt8
  localDevice : List UInt8
  desc : List UInt8
deriving DecidableEq

def zeros (size : Nat) : List UInt8 := List.replicate size 0

/-- `memcpy_s` of the whole source. -/
def memcpyS (dest : List UInt8) (destMax : Nat) (src : List UInt8) : Option (List UInt8) :=
  if destMax < src.length then none else some (src ++ dest.drop src.length)

/-- The copies that both stubs make, none where one of them fails. Of the descriptor they copy as many bytes as it has units. -/
def fill (stubIndex : UInt64) (tokenId : UInt32) (targetName targetDevice localDevice localName : List UInt8) (descriptor : List UInt16) :
    Option Block := do
  let targetName ← memcpyS (zeros (sessionNameLength+1)) sessionNameLength targetName
  let targetDevice ← memcpyS (zeros (deviceidLength+1)) deviceidLength targetDevice
  let localDevice ← memcpyS (zeros (deviceidLength+1)) deviceidLength localDevice
  let localName ← memcpyS (zeros (sessionNameLength+1)) sessionNameLength localName
  let desc ← memcpyS (zeros (2*(dbinderDescLength+1))) dbinderDescLength ((Word.array descriptor).take descriptor.length)
  some ⟨.databus,tokenId,stubIndex,targetName,localName,targetDevice,localDevice,desc⟩

structure DBinderCallbackStub where
  serviceName : List UInt8
  deviceID : List UInt8
  localDeviceID : List UInt8
  stubIndex : UInt64
  tokenId : UInt32
  descriptor : List UInt16
  /-- Whether `dbinderData_` was allocated. -/
  allocated : Bool

def DBinderCallbackStub.saveDBinderData (stub : DBinderCallbackStub) (sessionName : List UInt8) : Except Nat Block :=
  if ¬ stub.allocated then .error dbinderCallbackMallocErr
  else
    match fill stub.stubIndex stub.tokenId stub.serviceName stub.deviceID stub.localDeviceID sessionName stub.descriptor with
    | none => .error dbinderCallbackMemcpyErr
    | some data => .ok data

/-- A device id in its array of 65 characters. -/
structure DeviceId where
  array : List UInt8
  size : array.length = deviceidLength+1
  terminated : array[deviceidLength]? = some 0

structure SessionInfo where
  stubIndex : UInt64
  serviceName : List UInt8
  tokenId : UInt32
  fromDeviceId : DeviceId
  toDeviceId : DeviceId

structure DBinderServiceStub where
  /-- Whether `DBinderService` has an instance. -/
  service : Bool
  /-- What `QuerySessionObject` finds for the stub. -/
  session : Option SessionInfo
  descriptor : List UInt16
  allocated : Bool

def DBinderServiceStub.saveDBinderData (stub : DBinderServiceStub) (localBusName : List UInt8) : Except Nat Block :=
  if ¬ stub.service then .error dbinderServiceFillDataErr
  else
    match stub.session with
    | none => .error dbinderServiceFillDataErr
    | some session =>
      if ¬ stub.allocated then .error dbinderServiceMallocErr
      else
        match fill session.stubIndex session.tokenId session.serviceName (session.toDeviceId.array.take deviceidLength)
            (session.fromDeviceId.array.take deviceidLength) localBusName stub.descriptor with
        | none => .error dbinderServiceFillDataErr
        | some data => .ok data

/-- `std::from_chars` for an `int32_t`. -/
def fromChars (chars : List UInt8) : Option Int32 :=
  let negative := chars.head? = some 45
  let digits := (if negative then chars.tail else chars).takeWhile isDigit
  if digits = [] ∨ (if negative then 2^31 else 2^31-1) < ofDecimal digits then none
  else some (Int32.ofInt (if negative then -(ofDecimal digits : Int) else ofDecimal digits))

/-- `DBINDER_SOCKET_NAME_PREFIX.length()`. -/
def socketNamePrefixLength : Nat := 7
/-- `DBINDER_UID_PID_SEPARATOR`. -/
def separator : UInt8 := 95

def getPidAndUidFromServiceName (serviceName : List UInt8) : Option (Int32 × Int32) :=
  if serviceName.length ≤ socketNamePrefixLength then none
  else
    let str := serviceName.drop socketNamePrefixLength
    if separator ∉ str then none
    else do
      let uid ← fromChars (str.takeWhile fun char => char ≠ separator)
      let pid ← fromChars ((str.dropWhile fun char => char ≠ separator).drop 1)
      some (pid,uid)

structure DBinderNegotiationData where
  peerPid : Int32
  peerUid : Int32
  peerTokenId : UInt32
  stubIndex : UInt64
  peerServiceName : List UInt8
  peerDeviceId : List UInt8
  localServiceName : List UInt8
  localDeviceId : List UInt8
deriving DecidableEq

/-- None is `ERR_INVALID_DATA`. -/
def getDBinderNegotiationData (dbinderData : Option Block) : Option DBinderNegotiationData := do
  let data ← dbinderData
  let (peerPid,peerUid) ← getPidAndUidFromServiceName (cString data.targetName)
  some ⟨peerPid,peerUid,data.tokenid,data.stubIndex,cString data.targetName,cString data.targetDevice,cString data.localName,
    cString data.localDevice⟩

/-- The units of an array, low byte first. -/
def units : List UInt8 → List UInt16
  | low :: high :: rest => UInt16.ofNat (low.toNat+256*high.toNat) :: units rest
  | _ => []

def string16 (array : List UInt8) : List UInt16 := (units array).takeWhile fun unit => unit ≠ 0

def convertToSecureDesc (str : List UInt8) : List UInt8 :=
  match fromLast 46 str with
  | some tail => 42 :: tail
  | none => str

structure IPCObjectProxy where
  objectDied : Bool
  proto : Proto
  dbinderData : Option Block
  remoteDescriptor : List UInt8

section Proxy
variable (str16ToStr8 : List UInt16 → List UInt8) (makeDBinderTransSession : DBinderNegotiationData → Bool)

def updateDatabusClientSession (dbinderData : Option Block) : Bool :=
  match getDBinderNegotiationData dbinderData with
  | none => false
  | some data => makeDBinderTransSession data

/-- `checkHaveSession` is the result of `CheckHaveSession`. -/
def IPCObjectProxy.updateProto (checkHaveSession : Bool) (data : Option Block) (proxy : IPCObjectProxy) : Bool × IPCObjectProxy :=
  match data with
  | some data =>
    if data.proto = .databus then
      if ¬ updateDatabusClientSession makeDBinderTransSession (some data) then
        (false,{proxy with objectDied := true,proto := .error,dbinderData := none})
      else
        (true,{proxy with proto := .databus,dbinderData := some data,
                          remoteDescriptor := convertToSecureDesc (str16ToStr8 (string16 data.desc))})
    else (true,if checkHaveSession then {proxy with proto := .databus} else proxy)
  | none => (true,if checkHaveSession then {proxy with proto := .databus} else proxy)

end Proxy

end CommunicationIpc.Kernel.NegotiationData
