import CommunicationIpc.Kernel.ServiceStubData
import CommunicationIpc.Numerals

/-! The name of a session and what is read of it: a pid and a uid. The prefix is skipped by its length, and a number ends where its
digits do, so that names are read which are not written for any pid and uid. -/
namespace CommunicationIpc.SessionName
open CommunicationIpc.Library CommunicationIpc.Kernel.NegotiationData CommunicationIpc.Kernel.RawData
open CommunicationIpc.Kernel.ServiceStubData CommunicationIpc.Numerals

/-- `DBINDER_SOCKET_NAME_PREFIX`. -/
def socketNamePrefix : List UInt8 := [68,66,105,110,100,101,114]

def uidPart (serviceName : List UInt8) : List UInt8 :=
  (serviceName.drop socketNamePrefixLength).takeWhile fun char => char ≠ separator

def pidPart (serviceName : List UInt8) : List UInt8 :=
  ((serviceName.drop socketNamePrefixLength).dropWhile fun char => char ≠ separator).drop 1

/-- Behind the first seven characters there are two texts with a number at their front, and a separator between them. -/
structure Readable (serviceName : List UInt8) : Prop where
  separated : separator ∈ serviceName.drop socketNamePrefixLength
  uid : BeginsNumber (uidPart serviceName)
  pid : BeginsNumber (pidPart serviceName)

/-- The first characters are the prefix, and both texts are nothing but a number. -/
structure Whole (serviceName : List UInt8) : Prop where
  front : serviceName.take socketNamePrefixLength = socketNamePrefix
  uid : IsNumber (uidPart serviceName)
  pid : IsNumber (pidPart serviceName)

section Parts
variable {serviceName : List UInt8} {uid pid : Int32}

theorem parts_append (separated : separator ∈ serviceName.drop socketNamePrefixLength) :
    serviceName.take socketNamePrefixLength ++ uidPart serviceName ++ separator :: pidPart serviceName = serviceName := by
  have marked : ∀ {str : List UInt8}, separator ∈ str → (str.takeWhile fun char => char ≠ separator) ++
      separator :: (str.dropWhile fun char => char ≠ separator).drop 1 = str := by
    intro str member
    induction str with
    | nil => cases member
    | cons char str ih =>
      by_cases here : char = separator
      · rw [here]
        rfl
      · have later := ih ((List.mem_cons.mp member).resolve_left (Ne.symm here))
        rw [List.takeWhile_cons_of_pos (by simpa using here),List.dropWhile_cons_of_pos (by simpa using here),List.cons_append,later]
  rw [List.append_assoc,uidPart,pidPart,marked separated]
  exact List.take_append_drop _ _

theorem created_eq (uid pid : Int32) :
    createSessionName uid pid true = socketNamePrefix ++ toString32 uid ++ separator :: toString32 pid := rfl

theorem toString32_other (value : Int32) : ∀ char ∈ toString32 value, char ≠ separator := by
  intro char member same
  rw [same] at member
  exact toString32_not_mem value member

theorem uidPart_created (uid pid : Int32) : uidPart (createSessionName uid pid true) = toString32 uid := by
  change ((toString32 uid ++ separator :: toString32 pid).takeWhile fun char => char ≠ separator) = _
  rw [List.takeWhile_append_of_pos,List.takeWhile_cons_of_neg (by simp),List.append_nil]
  intro char member
  simpa using toString32_other uid char member

theorem pidPart_created (uid pid : Int32) : pidPart (createSessionName uid pid true) = toString32 pid := by
  change ((toString32 uid ++ separator :: toString32 pid).dropWhile fun char => char ≠ separator).drop 1 = _
  rw [List.dropWhile_append_of_pos,List.dropWhile_cons_of_neg (by simp)]
  · rfl
  · intro char member
    simpa using toString32_other uid char member

theorem separated_created (uid pid : Int32) : separator ∈ (createSessionName uid pid true).drop socketNamePrefixLength :=
  List.mem_append_right (toString32 uid) List.mem_cons_self

theorem read_iff : getPidAndUidFromServiceName serviceName = some (pid,uid) ↔
    separator ∈ serviceName.drop socketNamePrefixLength ∧
      fromChars (uidPart serviceName) = some uid ∧ fromChars (pidPart serviceName) = some pid := by
  rw [getPidAndUidFromServiceName]
  split
  · rename_i short
    refine iff_of_false (Option.some_ne_none _).symm ?_
    rintro ⟨separated,-⟩
    rw [List.drop_of_length_le short] at separated
    cases separated
  dsimp only
  split
  · rename_i absent
    refine iff_of_false (Option.some_ne_none _).symm ?_
    rintro ⟨separated,-⟩
    exact absent separated
  · rename_i separated
    rw [not_not] at separated
    simp only [Option.bind_eq_bind,Option.bind_eq_some_iff,Option.some_inj,Prod.mk.injEq]
    constructor
    · rintro ⟨readUid,uidRead,readPid,pidRead,rfl,rfl⟩
      exact ⟨separated,uidRead,pidRead⟩
    · rintro ⟨-,uidRead,pidRead⟩
      exact ⟨uid,uidRead,pid,pidRead,rfl,rfl⟩

theorem readable_iff : Readable serviceName ↔ ∃ pid uid, getPidAndUidFromServiceName serviceName = some (pid,uid) := by
  constructor
  · rintro ⟨separated,uidBegins,pidBegins⟩
    exact ⟨_,_,read_iff.mpr ⟨separated,fromChars_eq_some_iff.mpr ⟨uidBegins,rfl⟩,fromChars_eq_some_iff.mpr ⟨pidBegins,rfl⟩⟩⟩
  · rintro ⟨pid,uid,read⟩
    obtain ⟨separated,uidRead,pidRead⟩ := read_iff.mp read
    exact ⟨separated,(fromChars_eq_some_iff.mp uidRead).1,(fromChars_eq_some_iff.mp pidRead).1⟩

theorem read_created (uid pid : Int32) : getPidAndUidFromServiceName (createSessionName uid pid true) = some (pid,uid) := by
  rw [read_iff,uidPart_created,pidPart_created]
  exact ⟨separated_created uid pid,fromChars_toString32 uid,fromChars_toString32 pid⟩

theorem created_injective {otherUid otherPid : Int32}
    (same : createSessionName uid pid true = createSessionName otherUid otherPid true) : uid = otherUid ∧ pid = otherPid := by
  have read := read_created uid pid
  rw [same,read_created] at read
  cases read
  exact ⟨rfl,rfl⟩

/-- A name that was read is the one written for what was read of it, if it is whole. -/
theorem created_iff_whole (read : getPidAndUidFromServiceName serviceName = some (pid,uid)) :
    serviceName = createSessionName uid pid true ↔ Whole serviceName := by
  obtain ⟨separated,uidRead,pidRead⟩ := read_iff.mp read
  constructor
  · intro same
    rw [same]
    exact ⟨rfl,by rw [uidPart_created]; exact toString32_isNumber uid,by rw [pidPart_created]; exact toString32_isNumber pid⟩
  · intro whole
    rw [created_eq,← whole.front,← (toString32_eq_iff uidRead).mpr whole.uid,← (toString32_eq_iff pidRead).mpr whole.pid]
    exact (parts_append separated).symm

end Parts

/-- The name of every pid and uid is read as these, no two have the same, and a text is read only where it is such a name if every text
with two numbers is whole. -/
theorem session_name_iff (serviceName : List UInt8) :
    (∀ uid pid, getPidAndUidFromServiceName (createSessionName uid pid true) = some (pid,uid)) ∧
      (∀ uid pid otherUid otherPid, createSessionName uid pid true = createSessionName otherUid otherPid true →
        uid = otherUid ∧ pid = otherPid) ∧
      ((∀ pid uid, getPidAndUidFromServiceName serviceName = some (pid,uid) → serviceName = createSessionName uid pid true) ↔
        (Readable serviceName → Whole serviceName)) := by
  refine ⟨read_created,fun uid pid otherUid otherPid => created_injective,?_⟩
  constructor
  · intro proper readable
    obtain ⟨pid,uid,read⟩ := readable_iff.mp readable
    exact (created_iff_whole read).mp (proper pid uid read)
  · intro whole pid uid read
    exact (created_iff_whole read).mpr (whole (readable_iff.mpr ⟨pid,uid,read⟩))

/-- A foreign prefix and trailing characters. -/
theorem foreign_name_read : getPidAndUidFromServiceName [88,88,88,88,88,88,88,49,95,50,97,98,99] = some (2,1) ∧
    [88,88,88,88,88,88,88,49,95,50,97,98,99] ≠ createSessionName 1 2 true := by
  refine ⟨by rfl,?_⟩
  intro same
  cases (List.cons.inj same).1

end CommunicationIpc.SessionName
