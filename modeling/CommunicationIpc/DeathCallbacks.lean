import CommunicationIpc.Kernel.DeathCallbacks
import CommunicationIpc.RefreshRecipients

/-! When every callback registered for a stub is told of the death of its service, and a refused registration changes nothing.
`AddDbinderDeathRecipient` does not take its death recipient off a proxy that is known already, and does not look whether the stub is
still there; `RemoveDbinderDeathRecipient` does not look which stub the proxy was registered for. -/
namespace CommunicationIpc.DeathCallbacks
open CommunicationIpc.Library CommunicationIpc.Kernel.Service
open CommunicationIpc.Kernel.Negotiation (isDeviceIdIllegal)
open CommunicationIpc.Kernel.DeathCallbacks CommunicationIpc.Kernel.DeathCallbacks.DBinderService
open CommunicationIpc.Kernel.RefreshRecipients (Proxy Answers)
open CommunicationIpc.Kernel.ProxyDeathRecipients (dbinderHandleBase)

section Specification

def SameKeys (service : DBinderService) : Prop := ∀ object, object ∈ service.deathRecipients ↔ object ∈ service.noticeProxy

structure Unchanged (before after : DBinderService) : Prop where
  deathRecipients : after.deathRecipients = before.deathRecipients
  noticeProxy : after.noticeProxy = before.noticeProxy
  recipients : ∀ object, (after.proxies object).recipients = (before.proxies object).recipients

/-- A call of `AddDbinderDeathRecipient` that returns an error changes neither the maps nor the recipients of a proxy. -/
def RefusesUnchanged (service : DBinderService) : Event → Prop
  | .addDbinderDeathRecipient stub object soPath answers =>
    (service.addDbinderDeathRecipient stub object soPath answers).2 ≠ .errNone →
      Unchanged service (service.addDbinderDeathRecipient stub object soPath answers).1
  | _ => True

/-- The proxy is registered for a stub of the service. -/
def RegisteredFor (service : DBinderService) (serviceName : List UInt16) (deviceID : List UInt8) (object : Nat) : Prop :=
  ∃ stub, (object,stub) ∈ service.registered ∧ Shared.isServiceOf (service.shared.stubs stub) serviceName deviceID = true

/-- If a service died now, the proxies registered for its stubs would be told once, and no others. -/
def Tells (service : DBinderService) : Prop :=
  ∀ serviceName deviceID answers object,
    (RegisteredFor service serviceName deviceID object →
      (service.noticeServiceDieInner serviceName deviceID answers).1.noticed.count object = service.noticed.count object+1) ∧
    (¬ RegisteredFor service serviceName deviceID object →
      (service.noticeServiceDieInner serviceName deviceID answers).1.noticed.count object = service.noticed.count object)

/-- The invoker takes the registration, and so does the remote stub where it is asked. -/
def Registers (proxy : Proxy) (answers : Answers) : Prop :=
  answers.invoker = true ∧ answers.addRecipient = true ∧ (proxy.proto = .databus → answers.dbinder = true)

/-- What makes a callback proxy take another death recipient. -/
def Accepts (proxy : Proxy) (soPath : Bool) (answers : Answers) : Prop :=
  proxy.isRemoteDead = false ∧ soPath = true ∧ (proxy.recipients ≠ [] ∨ dbinderHandleBase ≤ proxy.handle ∨ Registers proxy answers)

/-- `NoticeServiceDie` accepts the names of the stub. -/
def Named (shared : Shared) (stub : UInt64) : Prop :=
  (shared.stubs stub).serviceName ≠ [] ∧ isDeviceIdIllegal (shared.stubs stub).deviceID = false

/-- A proxy that takes a death recipient is new, and comes for a stub that is still there; a proxy is unregistered through the stub it
was registered for. -/
def Met (service : DBinderService) : Event → Prop
  | .addDbinderDeathRecipient stub (some object) soPath answers => Accepts (service.proxies object) soPath answers →
    object ∉ service.deathRecipients ∧ stub ∈ service.shared.registry.dBinderStubRegisted ∧ Named service.shared stub
  | .removeDbinderDeathRecipient stub (some object) _ => ∀ other, (object,other) ∈ service.registered → other = stub
  | _ => True

end Specification

section Proxy
variable {proxy : Proxy} {recipient : Nat} {soPath : Bool} {answers : Answers}

theorem register_returns (proxy : Proxy) (answers : Answers) :
    (proxy.registerBinderDeathRecipient answers).2 = true ↔ Registers proxy answers := by
  unfold Proxy.registerBinderDeathRecipient Registers
  cases answers.invoker with
  | false => exact iff_of_false Bool.false_ne_true fun all => absurd all.1 Bool.false_ne_true
  | true =>
    cases answers.addRecipient with
    | false => exact iff_of_false Bool.false_ne_true fun all => absurd all.2.1 Bool.false_ne_true
    | true =>
      simp only [Bool.not_true,Bool.false_eq_true,if_false,true_and]
      split
      · rename_i refused
        refine iff_of_false Bool.false_ne_true fun all => ?_
        rw [all refused.1] at refused
        exact absurd refused.2.symm Bool.false_ne_true
      · rename_i accepted
        refine iff_of_true rfl fun databus => ?_
        by_contra other
        exact accepted ⟨databus,Bool.eq_false_iff.mpr other⟩

theorem addDeathRecipient_spec (proxy : Proxy) (recipient : Nat) (soPath : Bool) (answers : Answers) :
    (Accepts proxy soPath answers → (proxy.addDeathRecipient (some recipient) soPath answers).2 = true ∧
      (proxy.addDeathRecipient (some recipient) soPath answers).1.recipients = proxy.recipients ++ [recipient]) ∧
    (¬ Accepts proxy soPath answers → (proxy.addDeathRecipient (some recipient) soPath answers).2 = false ∧
      (proxy.addDeathRecipient (some recipient) soPath answers).1.recipients = proxy.recipients) := by
  unfold Proxy.addDeathRecipient Accepts
  by_cases dead : proxy.isRemoteDead = true
  · simp only [dead,if_true]
    exact ⟨fun accepts => absurd accepts.1.symm Bool.false_ne_true,fun _ => ⟨trivial,trivial⟩⟩
  · have alive := Bool.eq_false_iff.mpr dead
    cases soPath with
    | false =>
      simp only [dead]
      exact ⟨fun accepts => absurd accepts.2.1 Bool.false_ne_true,fun _ => ⟨rfl,rfl⟩⟩
    | true =>
      have more : 1 < (proxy.recipients ++ [recipient]).length ↔ proxy.recipients ≠ [] := by
        rw [List.length_append,List.length_singleton,← List.length_pos_iff]
        omega
      have long : 1 < (proxy.recipients ++ [recipient]).length ∨ dbinderHandleBase ≤ proxy.handle ↔
          proxy.recipients ≠ [] ∨ dbinderHandleBase ≤ proxy.handle := or_congr_left more
      dsimp only
      rw [if_neg dead,if_neg (by decide),and_iff_right alive,and_iff_right rfl,← or_assoc]
      by_cases known : proxy.recipients ≠ [] ∨ dbinderHandleBase ≤ proxy.handle
      · rw [if_pos (long.mpr known)]
        exact ⟨fun _ => ⟨rfl,rfl⟩,fun refused => absurd (.inl known) refused⟩
      · rw [if_neg (mt long.mp known),or_iff_right known]
        have returns := register_returns { proxy with recipients := proxy.recipients ++ [recipient] } answers
        obtain ⟨recipients,-⟩ :=
          RefreshRecipients.register_spec { proxy with recipients := proxy.recipients ++ [recipient] } answers
        change _ ↔ Registers proxy answers at returns
        rw [← returns]
        generalize Proxy.registerBinderDeathRecipient _ answers = result at recipients ⊢
        obtain ⟨registered,success⟩ := result
        have recipients : registered.recipients = proxy.recipients ++ [recipient] := recipients
        cases success with
        | false =>
          refine ⟨fun success => absurd success Bool.false_ne_true,fun _ => ⟨rfl,?_⟩⟩
          change registered.recipients.dropLast = proxy.recipients
          rw [recipients,List.dropLast_concat]
        | true => exact ⟨fun _ => ⟨rfl,recipients⟩,fun refused => absurd rfl refused⟩

end Proxy

section Register
variable {service : DBinderService} {object : Nat} {soPath : Bool} {answers : Answers}

theorem add_refused (stub : UInt64) (refused : ¬ Accepts (service.proxies object) soPath answers) :
    ∃ callbackProxy : Proxy, callbackProxy.recipients = (service.proxies object).recipients ∧
      service.addDbinderDeathRecipient stub (some object) soPath answers =
        ({ service.setProxy object callbackProxy with made := service.made+1 },.addDeathErr) := by
  obtain ⟨returned,recipients⟩ := (addDeathRecipient_spec (service.proxies object) service.made soPath answers).2 refused
  rw [addDbinderDeathRecipient]
  generalize (service.proxies object).addDeathRecipient _ soPath answers = result at returned recipients ⊢
  obtain ⟨callbackProxy,added⟩ := result
  dsimp only at returned recipients
  rw [returned]
  exact ⟨callbackProxy,recipients,rfl⟩

/-- The proxy keeps the new death recipient. -/
theorem add_known (stub : UInt64) (accepts : Accepts (service.proxies object) soPath answers) (known : object ∈ service.deathRecipients) :
    ∃ callbackProxy : Proxy, callbackProxy.recipients = (service.proxies object).recipients ++ [service.made] ∧
      service.addDbinderDeathRecipient stub (some object) soPath answers =
        ({ service.setProxy object callbackProxy with made := service.made+1 },.addDeathErr) := by
  obtain ⟨returned,recipients⟩ := (addDeathRecipient_spec (service.proxies object) service.made soPath answers).1 accepts
  obtain ⟨death,found⟩ := Option.isSome_iff_exists.mp (AList.lookup_isSome.mpr known)
  rw [addDbinderDeathRecipient]
  generalize (service.proxies object).addDeathRecipient _ soPath answers = result at returned recipients ⊢
  obtain ⟨callbackProxy,added⟩ := result
  dsimp only at returned recipients
  rw [returned]
  dsimp only [setProxy]
  rw [attachDeathRecipient]
  dsimp only
  rw [found]
  exact ⟨callbackProxy,recipients,rfl⟩

theorem add_new (stub : UInt64) (accepts : Accepts (service.proxies object) soPath answers) (new_ : object ∉ service.deathRecipients)
    (unknown : object ∉ service.noticeProxy) :
    ∃ callbackProxy : Proxy, service.addDbinderDeathRecipient stub (some object) soPath answers =
      ({ service.setProxy object callbackProxy with
        made := service.made+1, deathRecipients := service.deathRecipients.insert object service.made,
        noticeProxy := service.noticeProxy.insert object stub },.errNone) := by
  obtain ⟨returned,-⟩ := (addDeathRecipient_spec (service.proxies object) service.made soPath answers).1 accepts
  rw [addDbinderDeathRecipient]
  generalize (service.proxies object).addDeathRecipient _ soPath answers = result at returned ⊢
  obtain ⟨callbackProxy,added⟩ := result
  dsimp only at returned
  rw [returned]
  dsimp only [setProxy]
  rw [attachDeathRecipient]
  dsimp only
  rw [AList.lookup_eq_none.mpr new_]
  dsimp only
  rw [attachCallbackProxy]
  dsimp only
  rw [AList.lookup_eq_none.mpr unknown]
  exact ⟨callbackProxy,rfl⟩

end Register

section Unregister
variable {service : DBinderService} {object : Nat}

theorem removeDeathRecipient_eq (service : DBinderService) (object : Nat) (answers : Answers) :
    ∃ proxies, service.removeDeathRecipient object answers = { service with proxies := proxies } := by
  rw [removeDeathRecipient]
  split
  · exact ⟨_,rfl⟩
  · exact ⟨_,rfl⟩

theorem remove_unknown (answers : Answers) (unknown : object ∉ service.deathRecipients) :
    service.removeDbinderDeathRecipient (some object) answers =
      ({ service with deathRecipients := service.deathRecipients.erase object },.removeDeathErr) := by
  have none_ := AList.lookup_eq_none.mpr unknown
  rw [removeDbinderDeathRecipient,removeDeathRecipient,queryDeathRecipient,none_]
  dsimp only
  rw [detachDeathRecipient,none_]
  rfl

theorem remove_known (answers : Answers) (known : object ∈ service.deathRecipients) (noticed : object ∈ service.noticeProxy) :
    ∃ proxies, service.removeDbinderDeathRecipient (some object) answers =
      ({ service with
        proxies := proxies, deathRecipients := service.deathRecipients.erase object,
        noticeProxy := service.noticeProxy.erase object },.errNone) := by
  obtain ⟨proxies,removed⟩ := removeDeathRecipient_eq service object answers
  rw [removeDbinderDeathRecipient,removed,detachDeathRecipient]
  dsimp only
  rw [AList.lookup_isSome.mpr known,detachCallbackProxy]
  dsimp only
  rw [AList.lookup_isSome.mpr noticed]
  exact ⟨proxies,rfl⟩

end Unregister

section Die
variable {service : DBinderService} {answers : Nat → Answers}

/-- Some proxies are told and forgotten, and nothing else happens. -/
structure Told (before after : DBinderService) (objects : List Nat) : Prop where
  shared : after.shared = before.shared
  registered : after.registered = before.registered
  noticed : after.noticed = before.noticed ++ objects
  noticeProxy : ∀ object, after.noticeProxy.lookup object = if object ∈ objects then none else before.noticeProxy.lookup object
  deathRecipients : ∀ object,
    after.deathRecipients.lookup object = if object ∈ objects then none else before.deathRecipients.lookup object

theorem Told.refl (service : DBinderService) : Told service service [] :=
  ⟨rfl,rfl,(List.append_nil _).symm,fun _ => rfl,fun _ => rfl⟩

theorem Told.trans {first second third : DBinderService} {objects others : List Nat} (told : Told first second objects)
    (next : Told second third others) : Told first third (objects ++ others) := by
  have both {α : Type} (object : Nat) (found : Option α) :
      (if object ∈ others then none else if object ∈ objects then none else found) =
        if object ∈ objects ++ others then none else found := by
    by_cases early : object ∈ objects
    · rw [if_pos early,if_pos (List.mem_append_left _ early),ite_self]
    · simp only [List.mem_append,early,false_or,if_false]
  refine ⟨next.shared.trans told.shared,next.registered.trans told.registered,?_,fun object => ?_,fun object => ?_⟩
  · rw [next.noticed,told.noticed,List.append_assoc]
  · rw [next.noticeProxy,told.noticeProxy,both]
  · rw [next.deathRecipients,told.deathRecipients,both]

theorem lookup_erase_eq {ν : Type} (table : Table Nat ν) (key object : Nat) :
    (table.erase key).lookup object = if object ∈ [key] then none else table.lookup object := by
  by_cases same : object = key
  · rw [if_pos (List.mem_singleton.mpr same),same,AList.lookup_erase]
  · rw [if_neg (mt List.mem_singleton.mp same)]
    exact AList.lookup_erase_ne same

theorem told_inner (service : DBinderService) (proxy : Nat) (answers : Nat → Answers) :
    Told service ((service.processCallbackProxyInner proxy answers).detachCallbackProxy proxy).1 [proxy] := by
  obtain ⟨proxies,removed⟩ :=
    removeDeathRecipient_eq { service with noticed := service.noticed ++ [proxy] } proxy (answers proxy)
  rw [processCallbackProxyInner,removed]
  exact ⟨rfl,rfl,rfl,lookup_erase_eq service.noticeProxy proxy,lookup_erase_eq service.deathRecipients proxy⟩

/-- The proxies of a stub. -/
def proxiesOf (entries : List (Sigma fun _ : Nat => UInt64)) (dbStub : UInt64) : List Nat :=
  (entries.filter fun entry => entry.2 = dbStub).map Sigma.fst

theorem told_dBinderStub (service : DBinderService) (dbStub : UInt64) (answers : Nat → Answers) :
    Told service (service.processDBinderStub dbStub answers) (proxiesOf service.noticeProxy.entries dbStub) := by
  rw [processDBinderStub]
  generalize service.noticeProxy.entries = entries
  induction entries generalizing service with
  | nil => exact .refl service
  | cons entry entries ih =>
    rw [List.foldl_cons]
    by_cases own : entry.2 = dbStub
    · rw [if_pos own,proxiesOf,List.filter_cons_of_pos (by simpa using own),List.map_cons]
      exact (told_inner service entry.1 answers).trans (ih _)
    · rw [if_neg own,proxiesOf,List.filter_cons_of_neg (by simpa using own)]
      exact ih service

theorem mem_proxiesOf (table : Table Nat UInt64) (dbStub : UInt64) (object : Nat) :
    object ∈ proxiesOf table.entries dbStub ↔ table.lookup object = some dbStub := by
  rw [proxiesOf,List.mem_map]
  constructor
  · rintro ⟨⟨key,stub⟩,member,rfl⟩
    obtain ⟨inside,own⟩ := List.mem_filter.mp member
    rw [← of_decide_eq_true own]
    exact AList.mem_lookup_iff.mpr inside
  · intro found
    exact ⟨⟨object,dbStub⟩,List.mem_filter.mpr ⟨AList.mem_lookup_iff.mp found,decide_eq_true rfl⟩,rfl⟩

theorem count_proxiesOf (table : Table Nat UInt64) (dbStub : UInt64) (object : Nat) :
    (proxiesOf table.entries dbStub).count object = if table.lookup object = some dbStub then 1 else 0 := by
  have distinct : (proxiesOf table.entries dbStub).Nodup :=
    List.Nodup.sublist (List.filter_sublist.map Sigma.fst) table.nodupKeys
  split
  · rename_i found
    exact List.count_eq_one_of_mem distinct ((mem_proxiesOf table dbStub object).mpr found)
  · rename_i other
    exact List.count_eq_zero_of_not_mem (mt (mem_proxiesOf table dbStub object).mp other)

/-- A proxy of one of the stubs is told once, as it is forgotten with the first. -/
theorem told_callbackProxy (service : DBinderService) (dbStubs : List UInt64) (answers : Nat → Answers) :
    ∃ objects, Told service (service.processCallbackProxy dbStubs answers) objects ∧
      ∀ object, objects.count object = Table.weight (fun stub => decide (stub ∈ dbStubs)) (service.noticeProxy.lookup object) := by
  induction dbStubs generalizing service with
  | nil =>
    refine ⟨[],.refl service,fun object => ?_⟩
    cases found : service.noticeProxy.lookup object with
    | none => rfl
    | some stub => exact (if_neg (by simp)).symm
  | cons dbStub dbStubs ih =>
    have told := told_dBinderStub service dbStub answers
    obtain ⟨objects,rest,counts⟩ := ih (service.processDBinderStub dbStub answers)
    refine ⟨_,told.trans rest,fun object => ?_⟩
    rw [List.count_append,counts,told.noticeProxy,count_proxiesOf]
    by_cases own : service.noticeProxy.lookup object = some dbStub
    · rw [if_pos own,if_pos ((mem_proxiesOf service.noticeProxy dbStub object).mpr own)]
      simp [own,Table.weight]
    · rw [if_neg own,if_neg (mt (mem_proxiesOf service.noticeProxy dbStub object).mp own),Nat.zero_add]
      cases found : service.noticeProxy.lookup object with
      | none => rfl
      | some stub =>
        have other : stub ≠ dbStub := fun same => own (found.trans (congrArg some same))
        simp [Table.weight,other]

theorem isServiceOf_iff (stub : DBinderServiceStub) (serviceName : List UInt16) (deviceID : List UInt8) :
    Shared.isServiceOf stub serviceName deviceID = true ↔ stub.serviceName = serviceName ∧ stub.deviceID = deviceID := by
  rw [Shared.isServiceOf,Bool.and_eq_true,decide_eq_true_iff,decide_eq_true_iff]

theorem mem_findDBinderStub (shared : Shared) (serviceName : List UInt16) (deviceID : List UInt8) (stub : UInt64) :
    stub ∈ shared.findDBinderStub serviceName deviceID ↔
      stub ∈ shared.registry.dBinderStubRegisted ∧ Shared.isServiceOf (shared.stubs stub) serviceName deviceID = true :=
  List.mem_filter

theorem detachSessionObjects_spec (shared : Shared) (dbStubs : List UInt64) :
    (detachSessionObjects shared dbStubs).1.stubs = shared.stubs ∧
      (detachSessionObjects shared dbStubs).1.registry.dBinderStubRegisted = shared.registry.dBinderStubRegisted := by
  rw [detachSessionObjects]
  generalize true = status
  induction dbStubs generalizing shared status with
  | nil => exact ⟨rfl,rfl⟩
  | cons stub dbStubs ih => exact ih (shared.detachSessionObject stub) _

theorem foldl_eraseStub_listed (registry : Kernel.Negotiation.Registry) (dbStubs : List UInt64) :
    (dbStubs.foldl Shared.eraseStub registry).dBinderStubRegisted = registry.dBinderStubRegisted.diff dbStubs := by
  induction dbStubs generalizing registry with
  | nil => rfl
  | cons stub dbStubs ih =>
    rw [List.foldl_cons,ih,List.diff_cons]
    rfl

/-- The stubs of the service are gone, and their proxies told and forgotten. -/
structure Died (before after : DBinderService) (serviceName : List UInt16) (deviceID : List UInt8) (objects : List Nat) : Prop where
  stubs : after.shared.stubs = before.shared.stubs
  fewer : ∀ stub, stub ∈ after.shared.registry.dBinderStubRegisted → stub ∈ before.shared.registry.dBinderStubRegisted
  others : ∀ stub ∈ before.shared.registry.dBinderStubRegisted,
    Shared.isServiceOf (before.shared.stubs stub) serviceName deviceID = false → stub ∈ after.shared.registry.dBinderStubRegisted
  registered : after.registered = before.registered
  noticed : after.noticed = before.noticed ++ objects
  noticeProxy : ∀ object, after.noticeProxy.lookup object = if object ∈ objects then none else before.noticeProxy.lookup object
  deathRecipients : ∀ object,
    after.deathRecipients.lookup object = if object ∈ objects then none else before.deathRecipients.lookup object
  counts : ∀ object, objects.count object =
    Table.weight (fun stub => decide (stub ∈ before.shared.findDBinderStub serviceName deviceID)) (before.noticeProxy.lookup object)

theorem noticeCallbackProxy_spec (service : DBinderService) (serviceName : List UInt16) (deviceID : List UInt8)
    (answers : Nat → Answers) :
    ∃ objects, Died service (service.noticeCallbackProxy serviceName deviceID answers).1 serviceName deviceID objects := by
  rw [noticeCallbackProxy]
  dsimp only
  split
  · rename_i none_
    refine ⟨[],rfl,fun _ => id,fun _ listed _ => listed,rfl,(List.append_nil _).symm,fun _ => rfl,fun _ => rfl,fun object => ?_⟩
    rw [none_]
    cases service.noticeProxy.lookup object with
    | none => rfl
    | some stub => exact (if_neg (by simp)).symm
  · obtain ⟨stubs,listed⟩ := detachSessionObjects_spec service.shared (service.shared.findDBinderStub serviceName deviceID)
    generalize detachSessionObjects _ _ = detached at stubs listed ⊢
    have same : detached.1.findDBinderStub serviceName deviceID = service.shared.findDBinderStub serviceName deviceID := by
      rw [Shared.findDBinderStub,Shared.findDBinderStub,stubs,listed]
    have left : (detached.1.deleteDBinderStubs serviceName deviceID).registry.dBinderStubRegisted =
        service.shared.registry.dBinderStubRegisted.diff (service.shared.findDBinderStub serviceName deviceID) := by
      rw [Shared.deleteDBinderStubs,foldl_eraseStub_listed,same,listed]
    obtain ⟨objects,told,counts⟩ :=
      told_callbackProxy { service with shared := detached.1.deleteDBinderStubs serviceName deviceID }
        (service.shared.findDBinderStub serviceName deviceID) answers
    refine ⟨objects,?_,?_,?_,told.registered,told.noticed,told.noticeProxy,told.deathRecipients,counts⟩
    · rw [told.shared]
      exact stubs
    · intro stub member
      rw [told.shared] at member
      exact (List.diff_sublist _ _).subset (left ▸ member)
    · intro stub member other
      rw [told.shared]
      refine left ▸ List.mem_diff_of_mem member fun found => ?_
      rw [((mem_findDBinderStub _ _ _ _).mp found).2] at other
      cases other

/-- Whether `NoticeServiceDie` goes on is settled by the names alone. -/
theorem notice_cases (service : DBinderService) (serviceName : List UInt16) (deviceID : List UInt8) (answers : Nat → Answers) :
    ((serviceName = [] ∨ isDeviceIdIllegal deviceID = true) ∧
      service.noticeServiceDieInner serviceName deviceID answers = (service,.invalidDataErr)) ∨
    (serviceName ≠ [] ∧ isDeviceIdIllegal deviceID = false ∧ ∃ after code objects,
      service.noticeServiceDieInner serviceName deviceID answers = (after,code) ∧ code ≠ .invalidDataErr ∧
        Died service after serviceName deviceID objects) := by
  by_cases refused : serviceName = [] ∨ isDeviceIdIllegal deviceID = true
  · refine .inl ⟨refused,?_⟩
    rw [noticeServiceDieInner,if_pos (by simpa using refused)]
  · obtain ⟨objects,died⟩ := noticeCallbackProxy_spec service serviceName deviceID answers
    obtain ⟨some_,legal⟩ := not_or.mp refused
    have inner : service.noticeServiceDieInner serviceName deviceID answers =
        ((service.noticeCallbackProxy serviceName deviceID answers).1,
          if (service.noticeCallbackProxy serviceName deviceID answers).2 then .errNone else .noticeDieErr) := by
      rw [noticeServiceDieInner,if_neg (by simpa using refused)]
    refine .inr ⟨some_,Bool.eq_false_iff.mpr legal,_,_,objects,inner,?_,died⟩
    split
    · intro same
      cases same
    · intro same
      cases same

end Die

section Ready
variable {service : DBinderService}

/-- The maps have the same keys, and the proxy of a stub that is there is registered. -/
structure Sound (service : DBinderService) : Prop where
  sameKeys : SameKeys service
  known : ∀ object stub, service.noticeProxy.lookup object = some stub → stub ∈ service.shared.registry.dBinderStubRegisted →
    (object,stub) ∈ service.registered

/-- `NoticeServiceDie` would find a stub of the service that has the proxy. -/
def Ready (service : DBinderService) : Prop :=
  ∀ object stub, (object,stub) ∈ service.registered → Named service.shared stub ∧
    ∃ kept, service.noticeProxy.lookup object = some kept ∧
      kept ∈ service.shared.findDBinderStub (service.shared.stubs stub).serviceName (service.shared.stubs stub).deviceID

theorem Died.mem_iff {after : DBinderService} {serviceName : List UInt16} {deviceID : List UInt8} {objects : List Nat}
    (died : Died service after serviceName deviceID objects) (object : Nat) :
    object ∈ objects ↔ ∃ kept, service.noticeProxy.lookup object = some kept ∧
      kept ∈ service.shared.findDBinderStub serviceName deviceID := by
  rw [← List.count_pos_iff,died.counts,Table.weight]
  cases service.noticeProxy.lookup object with
  | none => simp
  | some kept =>
    by_cases inside : kept ∈ service.shared.findDBinderStub serviceName deviceID
    · simp [inside]
    · simp [inside]

theorem Died.count {after : DBinderService} {serviceName : List UInt16} {deviceID : List UInt8} {objects : List Nat}
    (died : Died service after serviceName deviceID objects) (object : Nat) :
    after.noticed.count object = service.noticed.count object+if object ∈ objects then 1 else 0 := by
  rw [died.noticed,List.count_append]
  have counts := died.counts object
  split
  · rename_i member
    have positive := List.count_pos_iff.mpr member
    rw [Table.weight] at counts
    split at counts
    · omega
    · omega
  · rename_i absent
    rw [List.count_eq_zero_of_not_mem absent]

theorem tells_iff (sound : Sound service) : Tells service ↔ Ready service := by
  constructor
  · intro tells object stub member
    have own := (isServiceOf_iff (service.shared.stubs stub) _ _).mpr ⟨rfl,rfl⟩
    have told := (tells _ _ (fun _ => ⟨true,true,true,true⟩) object).1 ⟨stub,member,own⟩
    rcases notice_cases service (service.shared.stubs stub).serviceName (service.shared.stubs stub).deviceID
      fun _ => ⟨true,true,true,true⟩ with ⟨-,refused⟩ | ⟨some_,legal,after,code,objects,done,-,died⟩
    · rw [refused] at told
      exact absurd told (Nat.ne_of_lt (Nat.lt_succ_self _))
    · rw [done,died.count] at told
      refine ⟨⟨some_,legal⟩,(died.mem_iff object).mp ?_⟩
      by_contra absent
      rw [if_neg absent] at told
      omega
  · intro ready serviceName deviceID answers object
    rcases notice_cases service serviceName deviceID answers with ⟨illegal,refused⟩ | ⟨-,-,after,code,objects,done,-,died⟩
    · rw [refused]
      refine ⟨?_,fun _ => rfl⟩
      rintro ⟨stub,member,own⟩
      obtain ⟨rfl,rfl⟩ := (isServiceOf_iff _ _ _).mp own
      obtain ⟨some_,legal⟩ := (ready object stub member).1
      rcases illegal with empty | illegal
      · exact absurd empty some_
      · rw [legal] at illegal
        cases illegal
    · rw [done,died.count]
      constructor
      · rintro ⟨stub,member,own⟩
        obtain ⟨rfl,rfl⟩ := (isServiceOf_iff _ _ _).mp own
        rw [if_pos ((died.mem_iff object).mpr (ready object stub member).2)]
      · intro unregistered
        refine congrArg _ (if_neg fun member => ?_)
        obtain ⟨kept,found,inside⟩ := (died.mem_iff object).mp member
        obtain ⟨listed,own⟩ := (mem_findDBinderStub _ _ _ _).mp inside
        exact unregistered ⟨kept,sound.known object kept found listed,own⟩

end Ready

section Steps
variable {service : DBinderService} {stub : UInt64} {object : Nat} {soPath : Bool} {answers : Answers}

theorem step_add_error {after : DBinderService} (made : service.addDbinderDeathRecipient stub (some object) soPath answers =
    (after,.addDeathErr)) : service.step (.addDbinderDeathRecipient stub (some object) soPath answers) = after := by
  unfold step
  dsimp only
  rw [made]

theorem step_add {after : DBinderService} (made : service.addDbinderDeathRecipient stub (some object) soPath answers =
    (after,.errNone)) : service.step (.addDbinderDeathRecipient stub (some object) soPath answers) =
      { after with registered := after.registered ++ [(object,stub)] } := by
  unfold step
  dsimp only
  rw [made]

theorem step_remove_error {after : DBinderService} (made : service.removeDbinderDeathRecipient (some object) answers =
    (after,.removeDeathErr)) : service.step (.removeDbinderDeathRecipient stub (some object) answers) = after := by
  unfold step
  dsimp only
  rw [made]

theorem step_remove {after : DBinderService} (made : service.removeDbinderDeathRecipient (some object) answers = (after,.errNone)) :
    service.step (.removeDbinderDeathRecipient stub (some object) answers) =
      { after with registered := after.registered.filter fun entry => entry ≠ (object,stub) } := by
  unfold step
  dsimp only
  rw [made]

theorem step_refused {serviceName : List UInt16} {deviceID : List UInt8} {answers : Nat → Answers} {after : DBinderService}
    (made : service.noticeServiceDieInner serviceName deviceID answers = (after,.invalidDataErr)) :
    service.step (.noticeServiceDie serviceName deviceID answers) = after := by
  unfold step
  dsimp only
  rw [made]

theorem step_die {serviceName : List UInt16} {deviceID : List UInt8} {answers : Nat → Answers} {after : DBinderService} {code : ErrorCode}
    (made : service.noticeServiceDieInner serviceName deviceID answers = (after,code)) (accepted : code ≠ .invalidDataErr) :
    service.step (.noticeServiceDie serviceName deviceID answers) =
      { after with registered := after.registered.filter fun entry =>
        !Shared.isServiceOf (service.shared.stubs entry.2) serviceName deviceID } := by
  unfold step
  dsimp only
  rw [made]
  cases code with
  | invalidDataErr => exact absurd rfl accepted
  | errNone => rfl
  | addDeathErr => rfl
  | removeDeathErr => rfl
  | noticeDieErr => rfl

theorem sameKeys_insert (keys : SameKeys service) (object death : Nat) (stub : UInt64) (other : Nat) :
    other ∈ service.deathRecipients.insert object death ↔ other ∈ service.noticeProxy.insert object stub := by
  rw [AList.mem_insert,AList.mem_insert,keys other]

theorem sameKeys_erase (keys : SameKeys service) (object other : Nat) :
    other ∈ service.deathRecipients.erase object ↔ other ∈ service.noticeProxy.erase object := by
  rw [AList.mem_erase,AList.mem_erase,keys other]

theorem sound_add (sound : Sound service) (stub : UInt64) (object : Option Nat) (soPath : Bool) (answers : Answers) :
    Sound (service.step (.addDbinderDeathRecipient stub object soPath answers)) := by
  cases object with
  | none => exact sound
  | some object =>
    by_cases accepts : Accepts (service.proxies object) soPath answers
    · by_cases known : object ∈ service.deathRecipients
      · obtain ⟨callbackProxy,-,made⟩ := add_known stub accepts known
        rw [step_add_error made]
        exact ⟨sound.sameKeys,sound.known⟩
      · obtain ⟨callbackProxy,made⟩ := add_new stub accepts known (mt (sound.sameKeys object).mpr known)
        rw [step_add made]
        refine ⟨sameKeys_insert sound.sameKeys object service.made stub,fun other kept found listed => ?_⟩
        change (service.noticeProxy.insert object stub).lookup other = some kept at found
        by_cases same : other = object
        · rw [same,AList.lookup_insert] at found
          rw [same,← Option.some_inj.mp found]
          exact List.mem_append_right _ List.mem_cons_self
        · rw [AList.lookup_insert_ne same] at found
          exact List.mem_append_left _ (sound.known other kept found listed)
    · obtain ⟨callbackProxy,-,made⟩ := add_refused stub accepts
      rw [step_add_error made]
      exact ⟨sound.sameKeys,sound.known⟩

theorem sound_remove (sound : Sound service) (stub : UInt64) (object : Option Nat) (answers : Answers) :
    Sound (service.step (.removeDbinderDeathRecipient stub object answers)) := by
  cases object with
  | none => exact sound
  | some object =>
    by_cases known : object ∈ service.deathRecipients
    · obtain ⟨proxies,made⟩ := remove_known answers known ((sound.sameKeys object).mp known)
      rw [step_remove made]
      refine ⟨sameKeys_erase sound.sameKeys object,fun other kept found listed => ?_⟩
      change (service.noticeProxy.erase object).lookup other = some kept at found
      by_cases same : other = object
      · rw [same,AList.lookup_erase] at found
        cases found
      · rw [AList.lookup_erase_ne same] at found
        refine List.mem_filter.mpr ⟨sound.known other kept found listed,decide_eq_true fun pair => same ?_⟩
        exact congrArg Prod.fst pair
    · rw [step_remove_error (remove_unknown answers known)]
      refine ⟨fun other => ?_,sound.known⟩
      change other ∈ service.deathRecipients.erase object ↔ _
      rw [AList.mem_erase,sound.sameKeys other,and_iff_right_iff_imp]
      intro member same
      exact known ((sound.sameKeys object).mpr (same ▸ member))

theorem sound_die (sound : Sound service) (serviceName : List UInt16) (deviceID : List UInt8) (answers : Nat → Answers) :
    Sound (service.step (.noticeServiceDie serviceName deviceID answers)) := by
  rcases notice_cases service serviceName deviceID answers with ⟨-,refused⟩ | ⟨-,-,after,code,objects,done,accepted,died⟩
  · rw [step_refused refused]
    exact sound
  · rw [step_die done accepted]
    refine ⟨fun object => ?_,fun object kept found listed => ?_⟩
    · change object ∈ after.deathRecipients ↔ object ∈ after.noticeProxy
      have keys := sound.sameKeys object
      rw [← AList.lookup_isSome,← AList.lookup_isSome] at keys ⊢
      rw [died.deathRecipients,died.noticeProxy]
      split
      · rfl
      · exact keys
    · change after.noticeProxy.lookup object = some kept at found
      rw [died.noticeProxy] at found
      split at found
      · cases found
      · rename_i absent
        have before := died.fewer kept listed
        refine List.mem_filter.mpr ⟨died.registered ▸ sound.known object kept found before,?_⟩
        rw [Bool.not_eq_true']
        by_contra own
        have own := (Bool.not_eq_false _).mp own
        exact absent ((died.mem_iff object).mpr ⟨kept,found,(mem_findDBinderStub _ _ _ _).mpr ⟨before,own⟩⟩)

theorem sound_step (service : DBinderService) (event : Event) (sound : Sound service) : Sound (service.step event) := by
  cases event with
  | addDbinderDeathRecipient stub object soPath answers => exact sound_add sound stub object soPath answers
  | removeDbinderDeathRecipient stub object answers => exact sound_remove sound stub object answers
  | noticeServiceDie serviceName deviceID answers => exact sound_die sound serviceName deviceID answers

end Steps

section Exact
variable {service : DBinderService}

theorem isServiceOf_self (stub : DBinderServiceStub) : Shared.isServiceOf stub stub.serviceName stub.deviceID = true :=
  (isServiceOf_iff stub _ _).mpr ⟨rfl,rfl⟩

theorem add_exact (sound : Sound service) (ready : Ready service) (stub : UInt64) (object : Option Nat) (soPath : Bool)
    (answers : Answers) :
    RefusesUnchanged service (.addDbinderDeathRecipient stub object soPath answers) ∧
        Ready (service.step (.addDbinderDeathRecipient stub object soPath answers)) ↔
      Met service (.addDbinderDeathRecipient stub object soPath answers) := by
  cases object with
  | none => exact iff_of_true ⟨fun _ => ⟨rfl,rfl,fun _ => rfl⟩,ready⟩ trivial
  | some object =>
    by_cases accepts : Accepts (service.proxies object) soPath answers
    · rw [Met,forall_prop_of_true accepts]
      by_cases known : object ∈ service.deathRecipients
      · obtain ⟨callbackProxy,recipients,made⟩ := add_known stub accepts known
        refine iff_of_false (fun both => ?_) fun met => met.1 known
        have failed : (service.addDbinderDeathRecipient stub (some object) soPath answers).2 ≠ .errNone := by
          rw [made]
          exact ErrorCode.noConfusion
        have unchanged := both.1 failed
        rw [made] at unchanged
        have same := unchanged.recipients object
        change (if object = object then callbackProxy else service.proxies object).recipients = _ at same
        rw [if_pos rfl,recipients] at same
        exact absurd same (by simp)
      · have unknown := mt (sound.sameKeys object).mpr known
        obtain ⟨callbackProxy,made⟩ := add_new stub accepts known unknown
        rw [and_iff_right known,step_add made,RefusesUnchanged,made]
        refine (and_iff_right fun failed => absurd rfl failed).trans ?_
        constructor
        · intro all
          obtain ⟨named,kept,found,inside⟩ := all object stub (List.mem_append_right _ List.mem_cons_self)
          have found := (AList.lookup_insert service.noticeProxy).symm.trans found
          cases found
          exact ⟨((mem_findDBinderStub _ _ _ _).mp inside).1,named⟩
        · rintro ⟨listed,named⟩ other place member
          rcases List.mem_append.mp member with old | last
          · obtain ⟨named,kept,found,inside⟩ := ready other place old
            refine ⟨named,kept,?_,inside⟩
            have apart : other ≠ object := by
              rintro rfl
              exact unknown (AList.lookup_isSome.mp (Option.isSome_iff_exists.mpr ⟨kept,found⟩))
            exact (AList.lookup_insert_ne apart).trans found
          · cases List.mem_singleton.mp last
            exact ⟨named,stub,AList.lookup_insert _,(mem_findDBinderStub _ _ _ _).mpr ⟨listed,isServiceOf_self _⟩⟩
    · obtain ⟨callbackProxy,recipients,made⟩ := add_refused stub accepts
      refine iff_of_true ⟨fun _ => ?_,?_⟩ fun accepted => absurd accepted accepts
      · rw [made]
        refine ⟨rfl,rfl,fun other => ?_⟩
        change (if other = object then callbackProxy else service.proxies other).recipients = _
        split
        · rename_i same
          rw [recipients,same]
        · rfl
      · rw [step_add_error made]
        exact ready

theorem remove_exact (sound : Sound service) (ready : Ready service) (stub : UInt64) (object : Option Nat) (answers : Answers) :
    Ready (service.step (.removeDbinderDeathRecipient stub object answers)) ↔
      Met service (.removeDbinderDeathRecipient stub object answers) := by
  cases object with
  | none => exact iff_of_true ready trivial
  | some object =>
    rw [Met]
    by_cases known : object ∈ service.deathRecipients
    · obtain ⟨proxies,made⟩ := remove_known answers known ((sound.sameKeys object).mp known)
      rw [step_remove made]
      constructor
      · intro all other member
        by_contra apart
        have kept : (object,other) ∈ service.registered.filter fun entry => entry ≠ (object,stub) :=
          List.mem_filter.mpr ⟨member,decide_eq_true fun pair => apart (congrArg Prod.snd pair)⟩
        obtain ⟨-,_,found,-⟩ := all object other kept
        have found := (AList.lookup_erase object service.noticeProxy).symm.trans found
        cases found
      · intro met other place member
        obtain ⟨old,apart⟩ := List.mem_filter.mp member
        obtain ⟨named,kept,found,inside⟩ := ready other place old
        refine ⟨named,kept,?_,inside⟩
        have apart : other ≠ object := by
          rintro rfl
          exact of_decide_eq_true apart (congrArg _ (met place old))
        exact (AList.lookup_erase_ne apart).trans found
    · rw [step_remove_error (remove_unknown answers known)]
      refine iff_of_true ready fun other member => ?_
      obtain ⟨-,kept,found,-⟩ := ready object other member
      exact absurd ((sound.sameKeys object).mpr (AList.lookup_isSome.mp (Option.isSome_iff_exists.mpr ⟨kept,found⟩))) known

/-- The death of a service concerns its own stubs and their proxies only. -/
theorem ready_die (ready : Ready service) (serviceName : List UInt16) (deviceID : List UInt8) (answers : Nat → Answers) :
    Ready (service.step (.noticeServiceDie serviceName deviceID answers)) := by
  rcases notice_cases service serviceName deviceID answers with ⟨-,refused⟩ | ⟨-,-,after,code,objects,done,accepted,died⟩
  · rw [step_refused refused]
    exact ready
  · rw [step_die done accepted]
    intro object stub member
    obtain ⟨old,apart⟩ := List.mem_filter.mp member
    obtain ⟨named,kept,found,inside⟩ := ready object stub (died.registered ▸ old)
    obtain ⟨listed,own⟩ := (mem_findDBinderStub _ _ _ _).mp inside
    have other : Shared.isServiceOf (service.shared.stubs kept) serviceName deviceID = false := by
      by_contra same
      obtain ⟨name,device⟩ := (isServiceOf_iff _ _ _).mp ((Bool.not_eq_false _).mp same)
      obtain ⟨ownName,ownDevice⟩ := (isServiceOf_iff _ _ _).mp own
      rw [(isServiceOf_iff _ _ _).mpr ⟨ownName.symm.trans name,ownDevice.symm.trans device⟩] at apart
      cases apart
    have untold : object ∉ objects := by
      intro told
      obtain ⟨same,found_,there⟩ := (died.mem_iff object).mp told
      cases found.symm.trans found_
      rw [((mem_findDBinderStub _ _ _ _).mp there).2] at other
      cases other
    refine ⟨?_,kept,?_,?_⟩
    · rw [Named,died.stubs]
      exact named
    · exact (died.noticeProxy object).trans ((if_neg untold).trans found)
    · rw [mem_findDBinderStub,died.stubs]
      exact ⟨died.others kept listed other,own⟩

theorem step_exact (service : DBinderService) (event : Event) (sound : Sound service) (tells : Tells service) :
    RefusesUnchanged service event ∧ Tells (service.step event) ↔ Met service event := by
  rw [tells_iff (sound_step service event sound)]
  have ready := (tells_iff sound).mp tells
  cases event with
  | addDbinderDeathRecipient stub object soPath answers => exact add_exact sound ready stub object soPath answers
  | removeDbinderDeathRecipient stub object answers =>
    exact (and_iff_right trivial).trans (remove_exact sound ready stub object answers)
  | noticeServiceDie serviceName deviceID answers => exact iff_of_true ⟨trivial,ready_die ready serviceName deviceID answers⟩ trivial

end Exact

section Callbacks

theorem sound_new (shared : Shared) (proxies : Nat → Proxy) : Sound (.new shared proxies) := by
  refine ⟨fun _ => Iff.rfl,fun object stub found => ?_⟩
  cases found

theorem tells_new (shared : Shared) (proxies : Nat → Proxy) : Tells (.new shared proxies) :=
  (tells_iff (sound_new shared proxies)).mpr fun _ _ member => absurd member List.not_mem_nil

/-- The two maps always have the same keys. Refused registrations change nothing, and the death of a service would always tell the
proxies registered for its stubs once, exactly if every call meets its condition. -/
theorem death_callbacks_kept_iff (shared : Shared) (proxies : Nat → Proxy) (events : List Event) :
    SameKeys (events.foldl step (.new shared proxies)) ∧
    ((∀ front event, front ++ [event] <+: events →
      RefusesUnchanged (front.foldl step (.new shared proxies)) event ∧
        Tells ((front.foldl step (.new shared proxies)).step event)) ↔
      Reaches (guarded (does step) Met) (.new shared proxies) events (events.foldl step (.new shared proxies))) := by
  refine ⟨?_,?_⟩
  · refine ((Reaches.of_foldl step events (.new shared proxies)).invariant Sound (sound_new shared proxies) ?_).sameKeys
    rintro service event _ sound rfl
    exact sound_step service event sound
  · exact @Reaches.guarded_iff_shown_kept _ _ step Met RefusesUnchanged Sound Tells _ (sound_new shared proxies) (tells_new shared proxies)
      (fun service event sound => sound_step service event sound) (fun service event sound tells => step_exact service event sound tells)
      events

/-- The stub 7 of the service `a` on the device `b`. -/
def sampleShared : Shared :=
  { Shared.empty with
    registry := ⟨∅,[7],∅⟩
    stubs := fun _ => ⟨[97],[98],0,0,0,0,.init⟩ }

def sampleService : DBinderService :=
  step (.new sampleShared fun _ => .new 5 .binder false) (.addDbinderDeathRecipient 7 (some 1) true ⟨true,true,true,true⟩)

/-- The proxy is registered already, so the call fails, but its second death recipient stays. -/
theorem refused_but_registered :
    (sampleService.addDbinderDeathRecipient 7 (some 1) true ⟨true,true,true,true⟩).2 = .addDeathErr ∧
      (sampleService.proxies 1).recipients = [0] ∧
      ((sampleService.addDbinderDeathRecipient 7 (some 1) true ⟨true,true,true,true⟩).1.proxies 1).recipients = [0,1] :=
  ⟨rfl,rfl,rfl⟩

end Callbacks

end CommunicationIpc.DeathCallbacks
