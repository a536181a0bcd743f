import CommunicationIpc.Kernel.NegotiationData
import CommunicationIpc.Kernel.ProxyDeathRecipients

/-! The death and refresh recipients of one `IPCObjectProxy`, and what the invoker has registered for it. Recipients are named by
their addresses. A call is one step, but `AddRefreshRecipient` looks at `recipients_` before it takes `mutex_`, and is two. -/
namespace CommunicationIpc.Kernel.RefreshRecipients
open CommunicationIpc.Kernel.ProxyDeathRecipients (dbinderHandleBase)
open CommunicationIpc.Kernel.NegotiationData (Proto)

structure Proxy where
  handle : UInt32
  proto : Proto
  isRemoteDead : Bool
  recipients : List Nat
  refreshRecipients : List Nat
  /-- Whether the driver was asked for the death of the handle. -/
  deathRegistered : Bool
  refreshRegistered : Bool
  /-- The calls of `AddRefreshRecipient` that have looked at `recipients_`. -/
  waiting : List Nat
  deriving DecidableEq

def Proxy.new (handle : UInt32) (proto : Proto) (isRemoteDead : Bool) : Proxy := ⟨handle,proto,isRemoteDead,[],[],false,false,[]⟩

/-- Whether there is an invoker, and what it and the remote stub return where they are called. -/
structure Answers where
  invoker : Bool
  addRecipient : Bool
  removeRecipient : Bool
  dbinder : Bool

inductive Event where
  | addDeathRecipient (recipient : Option Nat) (soPath : Bool) (answers : Answers)
  | removeDeathRecipient (recipient : Option Nat) (answers : Answers)
  | addRefreshRecipient (recipient : Option Nat)
  | lockRefreshRecipient (call : Nat) (soPath : Bool) (answers : Answers)
  | removeRefreshRecipient (recipient : Option Nat) (answers : Answers)

namespace Proxy

def registerBinderDeathRecipient (proxy : Proxy) (answers : Answers) : Proxy × Bool :=
  if !answers.invoker then (proxy,false)
  else if !answers.addRecipient then (proxy,false)
  else if proxy.proto = .databus ∧ answers.dbinder = false then
    ({ proxy with deathRegistered := !answers.removeRecipient },false)
  else ({ proxy with deathRegistered := true },true)

def unRegisterBinderDeathRecipient (proxy : Proxy) (answers : Answers) : Proxy × Bool :=
  if !answers.invoker then (proxy,false)
  else
    let removed := if answers.removeRecipient then { proxy with deathRegistered := false } else proxy
    let dbinderStatus := if proxy.proto = .databus ∨ proxy.proto = .error then answers.dbinder else true
    (removed,answers.removeRecipient && dbinderStatus)

def registerBinderRefreshRecipient (proxy : Proxy) (answers : Answers) : Proxy × Bool :=
  if !answers.invoker then (proxy,false)
  else if !answers.addRecipient then (proxy,false)
  else ({ proxy with refreshRegistered := true },true)

def unRegisterBinderRefreshRecipient (proxy : Proxy) (answers : Answers) : Proxy × Bool :=
  if !answers.invoker then (proxy,false)
  else
    let removed := if answers.removeRecipient then { proxy with refreshRegistered := false } else proxy
    (removed,answers.removeRecipient)

def addDeathRecipient (proxy : Proxy) (recipient : Option Nat) (soPath : Bool) (answers : Answers) : Proxy × Bool :=
  match recipient with
  | none => (proxy,false)
  | some recipient =>
    if proxy.isRemoteDead then (proxy,false)
    else if !soPath then (proxy,false)
    else
      let pushed := { proxy with recipients := proxy.recipients ++ [recipient] }
      if 1 < pushed.recipients.length ∨ dbinderHandleBase ≤ proxy.handle then (pushed,true)
      else
        let (registered,success) := pushed.registerBinderDeathRecipient answers
        if !success then ({ registered with recipients := registered.recipients.dropLast },false)
        else (registered,true)

def removeDeathRecipient (proxy : Proxy) (recipient : Option Nat) (answers : Answers) : Proxy × Bool :=
  match recipient with
  | none => (proxy,false)
  | some recipient =>
    if proxy.isRemoteDead then (proxy,false)
    else
      let recipientErased := decide (recipient ∈ proxy.recipients)
      let erased := { proxy with recipients := proxy.recipients.erase recipient }
      if dbinderHandleBase ≤ proxy.handle ∧ recipientErased = true then (erased,true)
      else
        let (left,unregistered) := if recipientErased = true ∧ erased.recipients = [] then erased.unRegisterBinderDeathRecipient answers
          else (erased,true)
        if !unregistered then (left,false)
        else if 1 ≤ left.refreshRecipients.length then (left,false)
        else (left,recipientErased)

/-- `AddRefreshRecipient` up to the lock. -/
def addRefreshRecipient (proxy : Proxy) (recipient : Option Nat) : Proxy :=
  match recipient with
  | none => proxy
  | some recipient => if proxy.recipients.length < 1 then proxy else { proxy with waiting := proxy.waiting ++ [recipient] }

/-- `AddRefreshRecipient` under the lock. -/
def lockRefreshRecipient (proxy : Proxy) (call : Nat) (soPath : Bool) (answers : Answers) : Proxy × Bool :=
  match proxy.waiting[call]? with
  | none => (proxy,false)
  | some recipient =>
    let locked := { proxy with waiting := proxy.waiting.eraseIdx call }
    if proxy.isRemoteDead then (locked,false)
    else if !soPath then (locked,false)
    else
      let pushed := { locked with refreshRecipients := proxy.refreshRecipients ++ [recipient] }
      if 1 < pushed.refreshRecipients.length ∨ dbinderHandleBase ≤ proxy.handle then (pushed,true)
      else
        let (registered,success) := pushed.registerBinderRefreshRecipient answers
        if !success then ({ registered with refreshRecipients := registered.refreshRecipients.dropLast },false)
        else (registered,true)

def removeRefreshRecipient (proxy : Proxy) (recipient : Option Nat) (answers : Answers) : Proxy × Bool :=
  match recipient with
  | none => (proxy,false)
  | some recipient =>
    if proxy.isRemoteDead then (proxy,false)
    else
      let recipientErased := decide (recipient ∈ proxy.refreshRecipients)
      let erased := { proxy with refreshRecipients := proxy.refreshRecipients.erase recipient }
      if dbinderHandleBase ≤ proxy.handle ∧ recipientErased = true then (erased,true)
      else if recipientErased = true ∧ erased.refreshRecipients = [] then
        let (left,unregistered) := erased.unRegisterBinderRefreshRecipient answers
        if !unregistered then (left,false) else (left,recipientErased)
      else (erased,recipientErased)

def step (proxy : Proxy) : Event → Proxy
  | .addDeathRecipient recipient soPath answers => (proxy.addDeathRecipient recipient soPath answers).1
  | .removeDeathRecipient recipient answers => (proxy.removeDeathRecipient recipient answers).1
  | .addRefreshRecipient recipient => proxy.addRefreshRecipient recipient
  | .lockRefreshRecipient call soPath answers => (proxy.lockRefreshRecipient call soPath answers).1
  | .removeRefreshRecipient recipient answers => (proxy.removeRefreshRecipient recipient answers).1

end Proxy

end CommunicationIpc.Kernel.RefreshRecipients
