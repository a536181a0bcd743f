import CommunicationIpc.Kernel.ServiceStubData
import CommunicationIpc.Library.Run
import CommunicationIpc.NegotiationData
import CommunicationIpc.Numerals

/-! When the negotiation data that a service stub has kept are those of its session and of the process they are marshalled for. -/
namespace CommunicationIpc.ServiceStubData
open CommunicationIpc.Library CommunicationIpc.Kernel.Negotiation CommunicationIpc.Kernel.NegotiationData
open CommunicationIpc.Kernel.ServiceStubData
open CommunicationIpc.NegotiationData (memcpyS_zeros)
open CommunicationIpc.Numerals

def deviceOf (id : List UInt8) : List UInt8 := cString (id.take Kernel.NegotiationData.deviceidLength)

structure Current (data : Block) (session : Kernel.Negotiation.SessionInfo) (localName : List UInt8) : Prop where
  stubIndex : data.stubIndex = session.stubIndex
  tokenid : data.tokenid = session.deviceIdInfo.tokenId
  targetDevice : cString data.targetDevice = deviceOf session.deviceIdInfo.toDeviceId
  localDevice : cString data.localDevice = deviceOf session.deviceIdInfo.fromDeviceId
  localName : cString data.localName = localName

/-- Sessions that fill in the same data, names of services aside. -/
structure SameData (left right : Kernel.Negotiation.SessionInfo) : Prop where
  stubIndex : left.stubIndex = right.stubIndex
  tokenid : left.deviceIdInfo.tokenId = right.deviceIdInfo.tokenId
  targetDevice : deviceOf left.deviceIdInfo.toDeviceId = deviceOf right.deviceIdInfo.toDeviceId
  localDevice : deviceOf left.deviceIdInfo.fromDeviceId = deviceOf right.deviceIdInfo.fromDeviceId

theorem Current.same {data : Block} {left right : Kernel.Negotiation.SessionInfo} {first second : List UInt8}
    (one : Current data left first) (two : Current data right second) : SameData left right ∧ first = second :=
  ⟨⟨one.stubIndex.symm.trans two.stubIndex,one.tokenid.symm.trans two.tokenid,one.targetDevice.symm.trans two.targetDevice,
    one.localDevice.symm.trans two.localDevice⟩,one.localName.symm.trans two.localName⟩

theorem Current.moved {data : Block} {left right : Kernel.Negotiation.SessionInfo} {localName : List UInt8}
    (current : Current data left localName) (same : SameData left right) : Current data right localName :=
  ⟨current.stubIndex.trans same.stubIndex,current.tokenid.trans same.tokenid,current.targetDevice.trans same.targetDevice,
    current.localDevice.trans same.localDevice,current.localName⟩

def databusName (uid : UInt32) (pid : Int32) : List UInt8 := createDatabusName uid.toInt32 pid true

theorem databusName_injective {firstUid secondUid : UInt32} {firstPid secondPid : Int32}
    (same : databusName firstUid firstPid = databusName secondUid secondPid) : firstUid = secondUid ∧ firstPid = secondPid := by
  simp only [databusName,createDatabusName,not_true_eq_false,if_false,List.append_assoc] at same
  obtain ⟨uid,pid⟩ := append_separator (toString32_not_mem _) (toString32_not_mem _) (List.append_cancel_left same)
  have unsigned := congrArg Int32.toUInt32 (toString32_injective uid)
  rw [UInt32.toUInt32_toInt32,UInt32.toUInt32_toInt32] at unsigned
  exact ⟨unsigned,toString32_injective pid⟩

theorem databusName_plain (uid : UInt32) (pid : Int32) : 0 ∉ databusName uid pid := by
  have number : ∀ value : Int32, (0 : UInt8) ∉ Kernel.RawData.toString32 value := toString32_plain (by decide) (by decide)
  simp only [databusName,createDatabusName,not_true_eq_false,if_false,List.mem_append,List.mem_cons,not_or]
  exact ⟨⟨by decide,number _⟩,by decide,number _⟩

theorem cString_memcpyS {size : Nat} {src dest : List UInt8} (copied : memcpyS (zeros (size+1)) size src = some dest) :
    cString dest = cString src := by
  by_cases fits : src.length ≤ size
  · rw [memcpyS_zeros fits] at copied
    cases copied
    obtain ⟨rest,more⟩ : ∃ rest, size+1-src.length = rest+1 := ⟨size-src.length,by omega⟩
    rw [more,zeros,List.replicate_succ,cString_append_zero]
  · rw [memcpyS,if_pos (Nat.lt_of_not_le fits)] at copied
    cases copied

theorem fill_current {session : Kernel.Negotiation.SessionInfo} {localName : List UInt8} {descriptor : List UInt16} {data : Block}
    (plain : 0 ∉ localName)
    (filled : fill session.stubIndex session.deviceIdInfo.tokenId session.serviceName
      (session.deviceIdInfo.toDeviceId.take Kernel.NegotiationData.deviceidLength)
      (session.deviceIdInfo.fromDeviceId.take Kernel.NegotiationData.deviceidLength) localName descriptor = some data) :
    Current data session localName := by
  obtain ⟨targetName,-,filled⟩ := Option.bind_eq_some_iff.mp filled
  obtain ⟨targetDevice,target,filled⟩ := Option.bind_eq_some_iff.mp filled
  obtain ⟨localDevice,device,filled⟩ := Option.bind_eq_some_iff.mp filled
  obtain ⟨name,copied,filled⟩ := Option.bind_eq_some_iff.mp filled
  obtain ⟨desc,-,filled⟩ := Option.bind_eq_some_iff.mp filled
  cases filled
  exact ⟨rfl,rfl,cString_memcpyS target,cString_memcpyS device,(cString_memcpyS copied).trans ((cString_eq_self_iff _).mpr plain)⟩

/-- What the flag says: the data are those of the session and the process they were filled in for. -/
def Sound (stub : ServiceStub) : Prop :=
  stub.isInited = true → ∃ basis data, stub.basis = some basis ∧ stub.dbinderData = some data ∧
    Current data basis.session (databusName basis.uid basis.pid)

/-- A marshalling that returns `ERR_NONE` leaves the data of the session stored then, for the process it is asked for. -/
def MarshalsCurrent (stub : ServiceStub) : Event → Prop
  | .getAndSaveDBinderData pid uid granted =>
    let saved := stub.getAndSaveDBinderData pid uid granted
    saved.2 = errNone → ∃ data session, saved.1.dbinderData = some data ∧ saved.1.querySessionObject = some session ∧
      Current data session (databusName uid pid)
  | _ => True

/-- Data that are kept are asked for by the process they were filled in for, while a session with the same data is stored. -/
def KeepsUp (stub : ServiceStub) : Event → Prop
  | .getAndSaveDBinderData pid uid _ => stub.isInited = true →
    ∃ basis session, stub.basis = some basis ∧ stub.querySessionObject = some session ∧ basis.pid = pid ∧ basis.uid = uid ∧
      SameData basis.session session
  | _ => True

theorem save_spec {stub : ServiceStub} (fresh : stub.isInited = false) (pid : Int32) (uid : UInt32) (granted : Bool) :
    ((stub.getAndSaveDBinderData pid uid granted).2 ≠ errNone ∧
      (stub.getAndSaveDBinderData pid uid granted).1.isInited = false) ∨
    ∃ data session, stub.getAndSaveDBinderData pid uid granted =
        ({ stub with dbinderData := some data, isInited := true, basis := some ⟨pid,uid,session⟩ },errNone) ∧
      stub.querySessionObject = some session ∧ Current data session (databusName uid pid) := by
  have failed : dbinderServiceFillDataErr ≠ errNone := by decide
  unfold ServiceStub.getAndSaveDBinderData
  simp only [fresh,Bool.false_eq_true,if_false]
  split
  · exact .inl ⟨failed,fresh⟩
  split
  · exact .inl ⟨failed,fresh⟩
  split
  · exact .inl ⟨failed,fresh⟩
  · rename_i named
    have granted : granted = true := by
      cases granted with
      | true => rfl
      | false => exact absurd rfl named
    subst granted
    unfold ServiceStub.saveDBinderData
    cases stub.querySessionObject with
    | none => exact .inl ⟨failed,fresh⟩
    | some session =>
      simp only
      split
      · exact .inl ⟨failed,fresh⟩
      · rename_i data filled
        exact .inr ⟨data,session,rfl,rfl,fill_current (databusName_plain uid pid) filled⟩

theorem step_sound (stub : ServiceStub) (event : Event) (sound : Sound stub) : Sound (stub.step event) := by
  cases event with
  | getAndSaveDBinderData pid uid granted =>
    by_cases inited : stub.isInited = true
    · have kept : stub.getAndSaveDBinderData pid uid granted = (stub,errNone) := by
        simp only [ServiceStub.getAndSaveDBinderData,inited,if_true]
      simp only [ServiceStub.step,kept]
      exact sound
    · rcases save_spec (Bool.not_eq_true _ ▸ inited) pid uid granted with ⟨-,still⟩ | ⟨data,session,saved,-,current⟩
      · exact fun set => absurd (still.symm.trans set) Bool.false_ne_true
      · simp only [ServiceStub.step,saved]
        exact fun _ => ⟨_,data,rfl,rfl,current⟩
  | dbinderClearServiceState localCalling =>
    simp only [ServiceStub.step,ServiceStub.dbinderClearServiceState]
    split
    · exact sound
    · exact fun set => absurd set Bool.false_ne_true
  | makeSessionByReplyMessage replyMessage => exact sound

theorem marshalsCurrent_iff (stub : ServiceStub) (event : Event) (sound : Sound stub) :
    MarshalsCurrent stub event ↔ KeepsUp stub event := by
  cases event with
  | dbinderClearServiceState localCalling => exact Iff.rfl
  | makeSessionByReplyMessage replyMessage => exact Iff.rfl
  | getAndSaveDBinderData pid uid granted =>
    by_cases inited : stub.isInited = true
    · obtain ⟨basis,data,based,held,current⟩ := sound inited
      have kept : stub.getAndSaveDBinderData pid uid granted = (stub,errNone) := by
        simp only [ServiceStub.getAndSaveDBinderData,inited,if_true]
      simp only [MarshalsCurrent,KeepsUp,kept]
      constructor
      · intro marshals _
        obtain ⟨other,session,same,stored,now⟩ := marshals trivial
        cases held.symm.trans same
        obtain ⟨equal,names⟩ := current.same now
        obtain ⟨sameUid,samePid⟩ := databusName_injective names
        exact ⟨basis,session,based,stored,samePid,sameUid,equal⟩
      · intro keeps _
        obtain ⟨other,session,same,stored,rfl,rfl,equal⟩ := keeps inited
        cases based.symm.trans same
        exact ⟨data,session,held,stored,current.moved equal⟩
    · refine iff_of_true ?_ fun set => absurd set inited
      simp only [MarshalsCurrent]
      intro returned
      rcases save_spec (Bool.not_eq_true _ ▸ inited) pid uid granted with ⟨failed,-⟩ | ⟨data,session,saved,stored,current⟩
      · exact absurd returned failed
      · rw [saved]
        exact ⟨data,session,rfl,stored,current⟩

/-- In a run from a new stub, whatever sessions are stored, every marshalling that returns `ERR_NONE` leaves current data exactly if
every step keeps up. -/
theorem marshalled_current_iff (registry : Registry) (address : UInt64) (descriptor : List UInt16) (events : List Event) :
    (∀ front event, front ++ [event] <+: events →
        MarshalsCurrent (front.foldl ServiceStub.step (.new registry address descriptor)) event) ↔
      Reaches (guarded (does ServiceStub.step) KeepsUp) (.new registry address descriptor) events
        (events.foldl ServiceStub.step (.new registry address descriptor)) :=
  Reaches.guarded_iff_shown (fun set => absurd set Bool.false_ne_true) step_sound marshalsCurrent_iff events

def replyOf (seqNumber : UInt32) (stubIndex : UInt64) : DHandleEntryTxRx where
  version := 2
  transType := databusType
  dBinderCode := messageAsReplyTokenid
  fromPort := 0
  toPort := 0
  stubIndex := stubIndex
  seqNumber := seqNumber
  binderObject := 100
  deviceIdInfo := ⟨300,[97],[98]⟩
  stub := 9
  serviceNameLength := 3
  serviceName := [115,118,99,0]
  pid := 20
  uid := 30

/-- The stub at address 5, known to the service as stub 9. -/
def servedStub : ServiceStub :=
  .new { mapDBinderStubRegisters := (∅ : Table UInt64 UInt64).insert 9 5, dBinderStubRegisted := [5], sessionObject := ∅ } 5 [100]

/-- Filled in for the process 1000_100, the data are given to 1000_200 as well; and they still hold stub index 7 where the session
stored by then has stub index 8. -/
theorem kept_data_stale :
    let filled := [Event.makeSessionByReplyMessage (replyOf 1 7),.getAndSaveDBinderData 100 1000 true].foldl ServiceStub.step servedStub
    let replaced := filled.step (.makeSessionByReplyMessage (replyOf 2 8))
    ¬ MarshalsCurrent filled (.getAndSaveDBinderData 200 1000 true) ∧
      ¬ MarshalsCurrent replaced (.getAndSaveDBinderData 100 1000 true) := by
  intro filled replaced
  constructor
  · intro marshals
    obtain ⟨data,session,held,-,current⟩ := marshals (by decide +kernel)
    have name : (filled.getAndSaveDBinderData 200 1000 true).1.dbinderData.map (fun data => cString data.localName) ≠
        some (databusName 1000 200) := by decide +kernel
    rw [held] at name
    exact name (congrArg some current.localName)
  · intro marshals
    obtain ⟨data,session,held,stored,current⟩ := marshals (by decide +kernel)
    have index : (replaced.getAndSaveDBinderData 100 1000 true).1.dbinderData.map (·.stubIndex) ≠
        (replaced.getAndSaveDBinderData 100 1000 true).1.querySessionObject.map (·.stubIndex) := by decide +kernel
    rw [held,stored] at index
    exact index (congrArg some current.stubIndex)

end CommunicationIpc.ServiceStubData
