import Mathlib.Data.List.Basic

/-! Death recipients of one `IPCObjectProxy`. `AddDeathRecipient` and `RemoveDeathRecipient` hold `mutex_` to their end, so
each is one step; `SendObituary` takes the recipients under `mutex_`, marks the object as dead without it, and then reports.
Recipients and `DeathRecipientAddrInfo`s are named by their addresses. `registered`, `removed` and `notified` are not in the
source: they log the infos whose `AddDeathRecipient` and `RemoveDeathRecipient` returned true, and those reported. -/
namespace CommunicationIpc.Kernel.ProxyDeathRecipients

def dbinderHandleBase : UInt32 := 687200000

structure DeathRecipientAddrInfo where
  address : Nat
  recipient : Nat
  deriving DecidableEq, Repr

/-- `toBeReport` is what is still to be reported. -/
inductive Obituary where
  | dying (toBeReport : List DeathRecipientAddrInfo)
  | clearing (toBeReport : List DeathRecipientAddrInfo)
  | reporting (toBeReport : List DeathRecipientAddrInfo)
  | completed
  deriving DecidableEq, Repr

structure Proxy where
  handle : UInt32
  recipients : List DeathRecipientAddrInfo
  refreshRecipients : Nat
  isRemoteDead : Bool
  made : Nat
  obituaries : List Obituary
  registered : List Nat
  removed : List Nat
  notified : List Nat
  deriving DecidableEq, Repr

/-- A proxy with some refresh recipients, and no death recipient yet. -/
def Proxy.new (handle : UInt32) (refreshRecipients : Nat) : Proxy := ⟨handle,[],refreshRecipients,false,0,[],[],[],[]⟩

/-- `soPath` is whether the library of the recipient is found, `answer` what `RegisterBinderDeathRecipient` or
`UnRegisterBinderDeathRecipient` returns if it is called, `dlclosed` what `IsDlclosed` returns. -/
inductive Event where
  | addDeathRecipient (recipient : Option Nat) (soPath answer : Bool)
  | removeDeathRecipient (recipient : Option Nat) (answer : Bool)
  | sendObituary
  | obituary (obituary : Nat) (dlclosed : Bool)
  deriving DecidableEq, Repr

namespace Proxy

def addDeathRecipient (proxy : Proxy) (recipient : Option Nat) (soPath answer : Bool) : Proxy × Bool :=
  match recipient with
  | none => (proxy,false)
  | some recipient =>
    if proxy.isRemoteDead then (proxy,false)
    else
      let info : DeathRecipientAddrInfo := ⟨proxy.made,recipient⟩
      let proxy := { proxy with made := proxy.made+1 }
      if !soPath then (proxy,false)
      else
        let pushed := { proxy with recipients := proxy.recipients ++ [info] }
        if 1 < pushed.recipients.length ∨ dbinderHandleBase ≤ proxy.handle then (pushed,true)
        else if !answer then ({ pushed with recipients := pushed.recipients.dropLast },false)
        else (pushed,true)

def removeDeathRecipient (proxy : Proxy) (recipient : Option Nat) (answer : Bool) : Proxy × Bool :=
  match recipient with
  | none => (proxy,false)
  | some recipient =>
    if proxy.isRemoteDead then (proxy,false)
    else
      let recipientErased := proxy.recipients.any fun info => info.recipient = recipient
      let erased := { proxy with recipients := proxy.recipients.eraseP fun info => info.recipient = recipient }
      if dbinderHandleBase ≤ proxy.handle ∧ recipientErased = true then (erased,true)
      else if recipientErased = true ∧ erased.recipients = [] ∧ answer = false then (erased,false)
      else if 1 ≤ proxy.refreshRecipients then (erased,false)
      else (erased,recipientErased)

def moveObituary (proxy : Proxy) (obituary : Nat) (place : Obituary) : Proxy :=
  { proxy with obituaries := proxy.obituaries.set obituary place }

/-- `SendObituary` after the swap. -/
def stepObituary (proxy : Proxy) (obituary : Nat) (dlclosed : Bool) : Option Proxy :=
  match proxy.obituaries[obituary]? with
  | none | some .completed => none
  | some (.dying toBeReport) => some { proxy.moveObituary obituary (.clearing toBeReport) with isRemoteDead := true }
  | some (.clearing toBeReport) => some { proxy.moveObituary obituary (.reporting toBeReport) with refreshRecipients := 0 }
  | some (.reporting []) => some (proxy.moveObituary obituary .completed)
  | some (.reporting (info :: toBeReport)) =>
    let reported := proxy.moveObituary obituary (.reporting toBeReport)
    if dlclosed then some reported else some { reported with notified := proxy.notified ++ [info.address] }

def step (proxy : Proxy) : Event → Option Proxy
  | .addDeathRecipient recipient soPath answer =>
    match proxy.addDeathRecipient recipient soPath answer with
    | (added,true) => some { added with registered := proxy.registered ++ [proxy.made] }
    | (added,false) => some added
  | .removeDeathRecipient recipient answer =>
    match proxy.removeDeathRecipient recipient answer with
    | (erased,true) =>
      let found := proxy.recipients.find? fun info => some info.recipient = recipient
      some { erased with removed := proxy.removed ++ (found.map DeathRecipientAddrInfo.address).toList }
    | (erased,false) => some erased
  | .sendObituary => some { proxy with recipients := [], obituaries := proxy.obituaries ++ [.dying proxy.recipients] }
  | .obituary obituary dlclosed => proxy.stepObituary obituary dlclosed

end Proxy

end CommunicationIpc.Kernel.ProxyDeathRecipients
