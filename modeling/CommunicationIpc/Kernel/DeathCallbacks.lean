import CommunicationIpc.Kernel.RefreshRecipients
import CommunicationIpc.Kernel.Service

/-! The callbacks that `DBinderService` keeps for the deaths of its stubs. `DBinderServiceStub` registers and unregisters them, and
`NoticeServiceDie` tells them. Callback proxies and death recipients are named by their addresses. `registered` and `noticed` are not in
the source: they log for which stub a proxy was registered and not yet unregistered or told, and the proxies told so far. -/
namespace CommunicationIpc.Kernel.DeathCallbacks
open CommunicationIpc.Library CommunicationIpc.Kernel.Negotiation CommunicationIpc.Kernel.Service
open CommunicationIpc.Kernel.RefreshRecipients (Proxy)

inductive ErrorCode where
  | errNone
  | invalidDataErr
  | addDeathErr
  | removeDeathErr
  | noticeDieErr
  deriving DecidableEq

structure DBinderService where
  shared : Shared
  proxies : Nat → Proxy
  deathRecipients : Table Nat Nat
  noticeProxy : Table Nat UInt64
  /-- How many death recipients were made. -/
  made : Nat
  registered : List (Nat × UInt64)
  noticed : List Nat

/-- `object` is what `ReadRemoteObject` returns; `soPath` and the answers are those of the calls on the callback proxies. -/
inductive Event where
  | addDbinderDeathRecipient (stub : UInt64) (object : Option Nat) (soPath : Bool) (answers : RefreshRecipients.Answers)
  | removeDbinderDeathRecipient (stub : UInt64) (object : Option Nat) (answers : RefreshRecipients.Answers)
  | noticeServiceDie (serviceName : List UInt16) (deviceID : List UInt8) (answers : Nat → RefreshRecipients.Answers)

namespace DBinderService

def new (shared : Shared) (proxies : Nat → Proxy) : DBinderService := ⟨shared,proxies,∅,∅,0,[],[]⟩

def setProxy (service : DBinderService) (object : Nat) (callbackProxy : Proxy) : DBinderService :=
  { service with proxies := fun i => if i = object then callbackProxy else service.proxies i }

def attachDeathRecipient (service : DBinderService) (object deathRecipient : Nat) : DBinderService × Bool :=
  match service.deathRecipients.lookup object with
  | some _ => (service,false)
  | none => ({ service with deathRecipients := service.deathRecipients.insert object deathRecipient },true)

def detachDeathRecipient (service : DBinderService) (object : Nat) : DBinderService × Bool :=
  ({ service with deathRecipients := service.deathRecipients.erase object },(service.deathRecipients.lookup object).isSome)

def queryDeathRecipient (service : DBinderService) (object : Nat) : Option Nat := service.deathRecipients.lookup object

def attachCallbackProxy (service : DBinderService) (object : Nat) (dbStub : UInt64) : DBinderService × Bool :=
  match service.noticeProxy.lookup object with
  | some _ => (service,false)
  | none => ({ service with noticeProxy := service.noticeProxy.insert object dbStub },true)

def detachCallbackProxy (service : DBinderService) (object : Nat) : DBinderService × Bool :=
  ({ service with noticeProxy := service.noticeProxy.erase object },(service.noticeProxy.lookup object).isSome)

def addDbinderDeathRecipient (service : DBinderService) (stub : UInt64) (object : Option Nat) (soPath : Bool)
    (answers : RefreshRecipients.Answers) : DBinderService × ErrorCode :=
  match object with
  | none => (service,.invalidDataErr)
  | some object =>
    let death := service.made
    let (callbackProxy,added) := (service.proxies object).addDeathRecipient (some death) soPath answers
    let service := { service.setProxy object callbackProxy with made := death+1 }
    if !added then (service,.addDeathErr)
    else
      let (service,attached) := service.attachDeathRecipient object death
      if !attached then (service,.addDeathErr)
      else
        let (service,attached) := service.attachCallbackProxy object stub
        if !attached then (service,.addDeathErr) else (service,.errNone)

/-- The death recipient that is known for a proxy is taken off it. -/
def removeDeathRecipient (service : DBinderService) (object : Nat) (answers : RefreshRecipients.Answers) : DBinderService :=
  match service.queryDeathRecipient object with
  | some death => service.setProxy object ((service.proxies object).removeDeathRecipient (some death) answers).1
  | none => service

def removeDbinderDeathRecipient (service : DBinderService) (object : Option Nat) (answers : RefreshRecipients.Answers) :
    DBinderService × ErrorCode :=
  match object with
  | none => (service,.removeDeathErr)
  | some object =>
    let (service,detached) := (service.removeDeathRecipient object answers).detachDeathRecipient object
    if !detached then (service,.removeDeathErr)
    else
      let (service,detached) := service.detachCallbackProxy object
      if !detached then (service,.removeDeathErr) else (service,.errNone)

/-- The call of `NoticeServiceDie` on a proxy, and what follows it. -/
def processCallbackProxyInner (service : DBinderService) (proxy : Nat) (answers : Nat → RefreshRecipients.Answers) : DBinderService :=
  let service := { service with noticed := service.noticed ++ [proxy] }
  ((service.removeDeathRecipient proxy (answers proxy)).detachDeathRecipient proxy).1

/-- The walk through `noticeProxy_` for one of the stubs. -/
def processDBinderStub (service : DBinderService) (dbStub : UInt64) (answers : Nat → RefreshRecipients.Answers) : DBinderService :=
  service.noticeProxy.entries.foldl (fun service entry =>
    if entry.2 = dbStub then ((service.processCallbackProxyInner entry.1 answers).detachCallbackProxy entry.1).1 else service) service

def processCallbackProxy (service : DBinderService) (dbStubs : List UInt64) (answers : Nat → RefreshRecipients.Answers) : DBinderService :=
  dbStubs.foldl (fun service dbStub => service.processDBinderStub dbStub answers) service

/-- With whether every stub had a session. -/
def detachSessionObjects (shared : Shared) (dbStubs : List UInt64) : Shared × Bool :=
  dbStubs.foldl (fun detached stub =>
    (detached.1.detachSessionObject stub,detached.2 && (detached.1.registry.sessionObject.lookup stub).isSome)) (shared,true)

def noticeCallbackProxy (service : DBinderService) (serviceName : List UInt16) (deviceID : List UInt8)
    (answers : Nat → RefreshRecipients.Answers) : DBinderService × Bool :=
  let dbStubs := service.shared.findDBinderStub serviceName deviceID
  if dbStubs = [] then (service,true)
  else
    -- DeleteDBinderStub finds the same stubs, so it does not fail
    let (shared,status) := detachSessionObjects service.shared dbStubs
    let service := { service with shared := shared.deleteDBinderStubs serviceName deviceID }
    (service.processCallbackProxy dbStubs answers,status)

def noticeServiceDieInner (service : DBinderService) (serviceName : List UInt16) (deviceID : List UInt8)
    (answers : Nat → RefreshRecipients.Answers) : DBinderService × ErrorCode :=
  if serviceName = [] || isDeviceIdIllegal deviceID then (service,.invalidDataErr)
  else
    let (service,status) := service.noticeCallbackProxy serviceName deviceID answers
    (service,if status then .errNone else .noticeDieErr)

/-- The calls, with the logs. -/
def step (service : DBinderService) : Event → DBinderService
  | .addDbinderDeathRecipient stub object soPath answers =>
    match service.addDbinderDeathRecipient stub object soPath answers,object with
    | (after,.errNone),some object => { after with registered := after.registered ++ [(object,stub)] }
    | (after,_),_ => after
  | .removeDbinderDeathRecipient stub object answers =>
    match service.removeDbinderDeathRecipient object answers,object with
    | (after,.errNone),some object => { after with registered := after.registered.filter fun entry => entry ≠ (object,stub) }
    | (after,_),_ => after
  | .noticeServiceDie serviceName deviceID answers =>
    match service.noticeServiceDieInner serviceName deviceID answers with
    | (after,.invalidDataErr) => after
    | (after,_) =>
      { after with registered := after.registered.filter fun entry =>
        !Shared.isServiceOf (service.shared.stubs entry.2) serviceName deviceID }

end DBinderService

end CommunicationIpc.Kernel.DeathCallbacks
