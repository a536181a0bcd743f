import CommunicationIpc.Hitrace
import CommunicationIpc.Kernel.UnflattenObject

/-! Which addresses in received data `UnflattenObject` follows, against the offsets table of the driver. -/
namespace CommunicationIpc.UnflattenObject
open CommunicationIpc.Library CommunicationIpc.Kernel.Hitrace CommunicationIpc.Kernel.UnflattenObject CommunicationIpc.Hitrace
open CommunicationIpc.Kernel.Translate (objectHeaderSize flatBinderObjectSize binderTypePtr binderTypeBinder binderTypeHandle)
open CommunicationIpc.Kernel.Marshal (binderBufferObjectSize)
open CommunicationIpc.Kernel.BinderTransaction (negotiationDataSize)

def objectAt (bytes : List UInt8) (position : Nat) : BinderBufferObject :=
  .decode ((bytes.drop position).take binderBufferObjectSize)

/-- The bytes from a position on look like a pointer object for negotiation data with an address. -/
structure Lookalike (bytes : List UInt8) (position : Nat) : Prop where
  room : position+binderBufferObjectSize ≤ bytes.length
  type : headerType (bytes.drop position) = binderTypePtr
  flag : (objectAt bytes position).flags.testBit binderBufferFlagHasDbinder = true
  length : (objectAt bytes position).length = negotiationDataSize
  buffer : (objectAt bytes position).buffer ≠ 0

section Negotiation
variable {memory : Memory} {bytes : List UInt8} {parcel : Parcel}

theorem headerType_take (bytes : List UInt8) : headerType (bytes.take objectHeaderSize) = headerType bytes := by
  rw [headerType,headerType,List.take_take]
  rfl

theorem header_read (reading : Reading bytes parcel) (room : parcel.readCursor+objectHeaderSize ≤ bytes.length) :
    ∃ next reads, parcel.readUnpadBuffer objectHeaderSize = (some ((bytes.drop parcel.readCursor).take objectHeaderSize),next) ∧
      next.rewindRead parcel.readCursor = ⟨bytes,parcel.readCursor,reads⟩ ∧ Reading bytes ⟨bytes,parcel.readCursor,reads⟩ := by
  have first := reading.readUnpadBuffer objectHeaderSize
  rw [reading.readUnpadBuffer_eq room] at first ⊢
  have before : parcel.readCursor ≤ bytes.length := by omega
  exact ⟨_,_,rfl,first.rewindRead_eq before,rfl,first.within⟩

theorem object_read {position : Nat} {reads : List (Nat × Nat)} (reading : Reading bytes ⟨bytes,position,reads⟩)
    (room : position+binderBufferObjectSize ≤ bytes.length) :
    ∃ reads', (⟨bytes,position,reads⟩ : Parcel).readUnpadBuffer binderBufferObjectSize =
        (some ((bytes.drop position).take binderBufferObjectSize),⟨bytes,position+binderBufferObjectSize,reads'⟩) ∧
      Reading bytes ⟨bytes,position+binderBufferObjectSize,reads'⟩ := by
  have second := reading.readUnpadBuffer binderBufferObjectSize
  rw [reading.readUnpadBuffer_eq room] at second ⊢
  exact ⟨_,rfl,second⟩

/-- Behind a lookalike the parcel is read past it, and its address is followed. -/
theorem unFlattenDBinderObject_follows (reading : Reading bytes parcel) (looks : Lookalike bytes parcel.readCursor) :
    ∃ reads, unFlattenDBinderObject memory parcel =
      ⟨some (memory.readBytes (objectAt bytes parcel.readCursor).buffer negotiationDataSize),
        ⟨bytes,parcel.readCursor+binderBufferObjectSize,reads⟩,
        [⟨parcel.readCursor,(objectAt bytes parcel.readCursor).buffer,negotiationDataSize⟩]⟩ ∧
      Reading bytes ⟨bytes,parcel.readCursor+binderBufferObjectSize,reads⟩ := by
  have room := looks.room
  have header : parcel.readCursor+objectHeaderSize ≤ bytes.length := by
    rw [binderBufferObjectSize] at room
    rw [objectHeaderSize]
    omega
  obtain ⟨next,reads,first,back,rewound⟩ := header_read reading header
  obtain ⟨reads',second,read⟩ := object_read rewound room
  refine ⟨reads',?_,read⟩
  unfold unFlattenDBinderObject
  simp only [first,headerType_take,looks.type,ne_eq,not_true_eq_false,if_false,back,second]
  have checked : ¬ ((objectAt bytes parcel.readCursor).flags.testBit binderBufferFlagHasDbinder = false ∨
      (objectAt bytes parcel.readCursor).length ≠ negotiationDataSize) := by
    rw [looks.flag,looks.length]
    simp
  exact (if_neg checked).trans (if_neg looks.buffer)

theorem unFlattenDBinderObject_rests (reading : Reading bytes parcel) (before : parcel.readCursor ≤ bytes.length)
    (plain : ¬ Lookalike bytes parcel.readCursor) :
    ∃ reads, unFlattenDBinderObject memory parcel = ⟨none,⟨bytes,parcel.readCursor,reads⟩,[]⟩ ∧
      Reading bytes ⟨bytes,parcel.readCursor,reads⟩ := by
  unfold unFlattenDBinderObject
  by_cases header : parcel.readCursor+objectHeaderSize ≤ bytes.length
  · obtain ⟨next,reads,first,back,rewound⟩ := header_read reading header
    simp only [first,headerType_take,back]
    by_cases type : headerType (bytes.drop parcel.readCursor) = binderTypePtr
    · rw [if_neg (not_not_intro type)]
      by_cases room : parcel.readCursor+binderBufferObjectSize ≤ bytes.length
      · obtain ⟨reads',second,read⟩ := object_read rewound room
        simp only [second,read.rewindRead_eq before]
        refine ⟨reads',?_,rfl,read.within⟩
        split
        · rfl
        · rename_i checked
          split
          · rfl
          · rename_i buffer
            rw [not_or] at checked
            exact absurd ⟨room,type,Bool.eq_true_of_not_eq_false checked.1,not_not.mp checked.2,buffer⟩ plain
      · have short : (⟨bytes,parcel.readCursor,reads⟩ : Parcel).readUnpadBuffer binderBufferObjectSize =
            (none,⟨bytes,parcel.readCursor,reads⟩) := if_pos (Nat.lt_of_not_le room)
        simp only [short]
        exact ⟨reads,rfl,rewound⟩
    · rw [if_pos type]
      exact ⟨reads,rfl,rewound⟩
  · have size : parcel.dataSize = bytes.length := congrArg List.length reading.holds
    have short : parcel.readUnpadBuffer objectHeaderSize = (none,parcel) := by
      rw [Parcel.readUnpadBuffer,size,if_pos (Nat.lt_of_not_le header)]
    simp only [short]
    have same : parcel = ⟨bytes,parcel.readCursor,parcel.reads⟩ := by rw [← reading.holds]
    exact ⟨parcel.reads,by rw [← same],rfl,reading.within⟩

end Negotiation

section Objects
variable {objects : Objects} {memory : Memory} {offsets : List Nat} {bytes : List UInt8} {position : Fin (bytes.length+1)}

theorem parseFrom_reading : Reading bytes (.parseFrom bytes position) := ⟨rfl,by intro read member; cases member⟩

theorem findDBinderData_cases :
    (objects.single = false ∧ Lookalike bytes position ∧ ∃ reads,
      findDBinderData objects memory (.parseFrom bytes position) =
        ⟨some (memory.readBytes (objectAt bytes position).buffer negotiationDataSize),⟨bytes,position+binderBufferObjectSize,reads⟩,
          [⟨position,(objectAt bytes position).buffer,negotiationDataSize⟩]⟩ ∧
      Reading bytes ⟨bytes,position+binderBufferObjectSize,reads⟩) ∨
    (¬ (objects.single = false ∧ Lookalike bytes position) ∧ ∃ reads,
      findDBinderData objects memory (.parseFrom bytes position) = ⟨none,⟨bytes,position,reads⟩,[]⟩ ∧
      Reading bytes ⟨bytes,position,reads⟩) := by
  unfold findDBinderData
  cases single : objects.single with
  | true =>
    refine .inr ⟨fun given => Bool.noConfusion given.1,[],?_,parseFrom_reading⟩
    rw [if_pos rfl]
    rfl
  | false =>
    rw [if_neg Bool.false_ne_true]
    by_cases looks : Lookalike bytes position
    · exact .inl ⟨rfl,looks,unFlattenDBinderObject_follows parseFrom_reading looks⟩
    · exact .inr ⟨fun given => looks given.2,
        unFlattenDBinderObject_rests parseFrom_reading (Nat.le_of_lt_succ position.isLt) looks⟩

theorem unflattenObject_follows (parcel : Parcel) :
    (unflattenObject objects memory offsets parcel).follows = (findDBinderData objects memory parcel).follows := by
  unfold unflattenObject
  generalize findDBinderData objects memory parcel = first
  dsimp only
  split
  · rfl
  · split <;> rfl

/-- An object is returned only from a position in the table, the one it was asked for or the one behind a lookalike. -/
theorem unflattenObject_recorded {object : UInt64}
    (returned : (unflattenObject objects memory offsets (.parseFrom bytes position)).remoteObject = some object) :
    ∃ start ∈ offsets, start = position ∨ Lookalike bytes position ∧ start = position+binderBufferObjectSize := by
  have checked : (findDBinderData objects memory (.parseFrom bytes position)).parcel.readCursor ∈ offsets := by
    by_contra missing
    unfold unflattenObject at returned
    have refused : ¬ checkOffsets offsets (findDBinderData objects memory (.parseFrom bytes position)).parcel = true := by
      rw [checkOffsets,List.contains_iff_mem]
      exact missing
    rw [if_pos refused] at returned
    cases returned
  rcases findDBinderData_cases with
    ⟨-,looks,reads,first,-⟩ | ⟨-,reads,first,-⟩
  · rw [first] at checked
    exact ⟨_,checked,.inr ⟨looks,rfl⟩⟩
  · rw [first] at checked
    exact ⟨_,checked,.inl rfl⟩

/-- An address is followed only in an object that the table lists, and where there is none a call that fails has followed nothing. -/
def Guarded (objects : Objects) (memory : Memory) (offsets : List Nat) (bytes : List UInt8) (position : Fin (bytes.length+1)) : Prop :=
  let result := unflattenObject objects memory offsets (.parseFrom bytes position)
  (∀ follow ∈ result.follows, follow.position ∈ offsets) ∧
    (position.val ∉ offsets → result.remoteObject = none → result.follows = [])

/-- The table is asked only about the object behind: bytes that look like a pointer object are followed wherever they are. -/
theorem follows_recorded_iff : Guarded objects memory offsets bytes position ↔
    (objects.single = false → Lookalike bytes position → position.val ∈ offsets) := by
  rw [Guarded,unflattenObject_follows]
  rcases findDBinderData_cases with
    ⟨dbinder,looks,reads,first,-⟩ | ⟨plain,reads,first,-⟩
  · rw [first]
    constructor
    · intro guarded _ _
      exact guarded.1 _ (List.mem_singleton_self _)
    · intro recorded
      have listed := recorded dbinder looks
      refine ⟨?_,fun missing => absurd listed missing⟩
      intro follow member
      rw [List.mem_singleton.mp member]
      exact listed
  · rw [first]
    refine iff_of_true ⟨?_,fun _ _ => rfl⟩ fun dbinder looks => absurd ⟨dbinder,looks⟩ plain
    intro follow member
    cases member

end Objects

/-- A pointer object that the sender wrote into plain data, with an address of its choice. -/
def plainPointer : List UInt8 :=
  toLE 4 binderTypePtr ++ toLE 4 0x80000000 ++ toLE 8 4096 ++ toLE 8 negotiationDataSize ++ toLE 8 0 ++ toLE 8 0

theorem plain_pointer_followed : ¬ Guarded ⟨false,true,fun _ => false,fun _ _ => none⟩ (fun _ => 0) [] plainPointer 0 := by
  intro guarded
  have looks : Lookalike plainPointer 0 := ⟨by decide,by decide,by decide,by decide,by decide⟩
  exact absurd (follows_recorded_iff.mp guarded rfl looks) List.not_mem_nil

end CommunicationIpc.UnflattenObject
