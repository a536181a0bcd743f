import CommunicationIpc.SerializerCursor

/-! Objects read from a received `IpcIo`, against the offsets table the driver has verified. The
Linux build takes the next 24 bytes for the next object wherever the read position is, the LiteOS-A
build looks up the position in the table first. -/
namespace CommunicationIpc.ObjectReads
open CommunicationIpc.Library CommunicationIpc.Library.Program CommunicationIpc.Kernel.Serializer
open CommunicationIpc.Kernel.Framing.Lite (sizeSize)
open CommunicationIpc.Kernel.Translate (flatBinderObjectSize binderTypeBinder binderTypeHandle binderTypeFd)
open CommunicationIpc.SerializerCursor (Region take_some_iff)

inductive Read where
  | plain (kind : Kind)
  | remoteObject (svc : SvcIdentity)
  | fileDescriptor

def Read.run (platform : Platform) : Read → Io Unit
  | .plain kind => Kernel.Serializer.discard (kind.read platform)
  | .remoteObject svc => Kernel.Serializer.discard (readRemoteObject svc)
  | .fileDescriptor => Kernel.Serializer.discard readFileDescriptor

def Read.IsObject : Read → Prop
  | .plain _ => False
  | _ => True

instance : DecidablePred Read.IsObject
  | .plain _ => .isFalse id
  | .remoteObject _ => .isTrue trivial
  | .fileDescriptor => .isTrue trivial

def received (region : Region) (memory : Memory) : State :=
  ⟨memory,⟨region.data,region.table,region.data,region.table,region.dataSize,region.tableCount,true,false⟩,[]⟩

/-- The offset of the next byte to be read. -/
def position (s : State) : Nat := s.io.bufferCur-s.io.bufferBase

/-- The read position is the next entry of the offsets table. -/
def Recorded (s : State) : Prop := (s.memory.load UInt64 s.io.offsetsCur).toNat = position s

/-- An object read that fails wherever the position is. -/
def Refused (s : State) (read : Read) : Prop :=
  ¬ ipcIoAvailable s.io ∨ s.io.offsetsCur = 0 ∨ s.io.offsetsLeft = 0 ∨ s.io.bufferLeft < flatBinderObjectSize ∨
    (read matches .fileDescriptor) ∧ (s.memory.load UInt32 s.io.bufferCur).toNat ≠ binderTypeFd

def Returns (platform : Platform) (s : State) (read : Read) : Prop := (read.run platform s).1 = some ()

instance (platform : Platform) (s : State) (read : Read) : Decidable (Returns platform s read) :=
  inferInstanceAs (Decidable (_ = _))

/-- Every object that is returned stands where the table says. -/
def Sound (platform : Platform) : List Read → State → Prop
  | [],_ => True
  | read :: reads,s =>
    (read.IsObject → Returns platform s read → Recorded s) ∧ Sound platform reads (read.run platform s).2

/-- Objects are asked for only where the table has one, or where the read is refused. -/
def Careful (platform : Platform) : List Read → State → Prop
  | [],_ => True
  | read :: reads,s =>
    (read.IsObject → Recorded s ∨ Refused s read) ∧ Careful platform reads (read.run platform s).2

/-- The positions of the objects returned. -/
def returned (platform : Platform) : List Read → State → List Nat
  | [],_ => []
  | read :: reads,s =>
    (if read.IsObject ∧ Returns platform s read then [position s] else []) ++ returned platform reads (read.run platform s).2

/-- The entries of the offsets table from an address on. -/
def entries (memory : Memory) (table count : Nat) : List Nat :=
  (memory.loads UInt64 table count).map UInt64.toNat

/-! Pops. -/

/-- The state after an object was taken. -/
def taken (s : State) : State :=
  { s with io := { s.io with bufferCur := s.io.bufferCur+flatBinderObjectSize,
                             bufferLeft := s.io.bufferLeft-flatBinderObjectSize,
                             offsetsCur := s.io.offsetsCur+sizeSize, offsetsLeft := s.io.offsetsLeft-1 } }

/-- There is one more object, as far as the Linux build looks. -/
def Poppable (io : IpcIo) : Prop :=
  ipcIoAvailable io = true ∧ io.offsetsCur ≠ 0 ∧ io.offsetsLeft ≠ 0 ∧ flatBinderObjectSize ≤ io.bufferLeft

theorem ioPop_object_iff {s t : State} {ptr : Nat} : ioPop flatBinderObjectSize s = (some ptr,t) ↔
    ipcIoAvailable s.io = true ∧ flatBinderObjectSize ≤ s.io.bufferLeft ∧ ptr = s.io.bufferCur ∧
      t = (advance flatBinderObjectSize s).2 := take_some_iff fun _ => rfl

theorem ioPop_refused {s : State} (refused : ¬ (ipcIoAvailable s.io = true ∧ flatBinderObjectSize ≤ s.io.bufferLeft)) :
    (ioPop flatBinderObjectSize s).1 = none := by
  cases ran : ioPop flatBinderObjectSize s with
  | mk outcome t =>
    cases outcome with
    | none => rfl
    | some ptr =>
      obtain ⟨available,fits,-,-⟩ := ioPop_object_iff.mp ran
      exact absurd ⟨available,fits⟩ refused

theorem ipcIoPopRef_taken {s : State} (poppable : Poppable s.io) : ipcIoPopRef s = (some s.io.bufferCur,taken s) := by
  obtain ⟨available,table,more,fits⟩ := poppable
  have seen : observe State.io s = (some s.io,s) := rfl
  rw [ipcIoPopRef,bind_some seen,if_neg table,if_neg more,bind_some (ioPop_object_iff.mpr ⟨available,fits,rfl,rfl⟩)]
  rfl

/-! What a read leaves alone. -/

structure Kept (s t : State) : Prop where
  memory : t.memory = s.memory
  offsetsCur : t.io.offsetsCur = s.io.offsetsCur
  offsetsLeft : t.io.offsetsLeft = s.io.offsetsLeft

def keeps : Effect State where
  rel := Kept
  refl := fun _ => ⟨rfl,rfl,rfl⟩
  trans := fun first second =>
    ⟨second.memory.trans first.memory,second.offsetsCur.trans first.offsetsCur,second.offsetsLeft.trans first.offsetsLeft⟩

def Quiet {α : Type} (program : Io α) : Prop := ∀ s, Kept s (program s).2

section Quiet
variable {α β : Type}

theorem quiet_iff {program : Io α} :
    Quiet program ↔ Meets keeps (fun _ => True) (fun _ => True) program fun _ _ => True :=
  ⟨fun quiet s _ => ⟨quiet s,fun _ => trivial,fun _ _ => trivial⟩,fun met s => (met s trivial).1⟩

theorem Quiet.bind {first : Io α} {rest : α → Io β} (begins : Quiet first) (goesOn : ∀ value, Quiet (rest value)) :
    Quiet (first >>= rest) :=
  quiet_iff.mpr (Meets.bind (quiet_iff.mp begins) fun value => quiet_iff.mp (goesOn value))

theorem quiet_pure (value : α) : Quiet (pure value : Io α) := fun _ => ⟨rfl,rfl,rfl⟩
theorem quiet_fail : Quiet (fail : Io α) := fun _ => ⟨rfl,rfl,rfl⟩
theorem quiet_observe (view : State → α) : Quiet (observe view) := fun _ => ⟨rfl,rfl,rfl⟩
theorem quiet_touch (address width : Nat) : Quiet (touch address width) := fun _ => ⟨rfl,rfl,rfl⟩
theorem quiet_overflows : Quiet (overflows : Io α) := fun _ => ⟨rfl,rfl,rfl⟩

theorem quiet_load (α : Type) [Word α] (address : Nat) : Quiet (load α address) :=
  (quiet_touch _ _).bind fun _ => quiet_observe _

theorem quiet_attempt {program : Io α} (quiet : Quiet program) : Quiet (attempt program) := quiet

theorem quiet_forEach {body : α → Io β} (each : ∀ item, Quiet (body item)) (items : List α) : Quiet (forEach body items) := by
  induction items with
  | nil => exact quiet_pure []
  | cons item items ih => exact (each item).bind fun _ => ih.bind fun _ => quiet_pure _

theorem quiet_take {size : Nat} {refuse : Io Nat} (refused : Quiet refuse) :
    Quiet (do
      let io ← observe State.io
      if ¬ ipcIoAvailable io then overflows
      else if io.bufferLeft < size then refuse
      else advance size : Io Nat) := by
  refine (quiet_observe _).bind fun io => ?_
  split
  · exact quiet_overflows
  split
  · exact refused
  · exact fun _ => ⟨rfl,rfl,rfl⟩

theorem quiet_ioPop (size : Nat) : Quiet (ioPop size) :=
  quiet_take (Quiet.bind (fun _ => ⟨rfl,rfl,rfl⟩) fun _ => quiet_overflows)

theorem quiet_ioPopUnaligned (size : Nat) : Quiet (ioPopUnaligned size) :=
  quiet_take (Quiet.bind (fun _ => ⟨rfl,rfl,rfl⟩) fun _ => quiet_overflows)

theorem quiet_readWord (α : Type) [Word α] : Quiet (readWord α) := (quiet_ioPop _).bind fun _ => quiet_load α _

theorem quiet_readWordUnaligned (α : Type) [Word α] : Quiet (readWordUnaligned α) :=
  (quiet_ioPopUnaligned _).bind fun _ => quiet_load α _

theorem quiet_readString : Quiet readString := by
  refine (quiet_readWord UInt32).bind fun value => ?_
  split
  · exact quiet_fail
  · exact (quiet_ioPop _).bind fun _ => quiet_pure _

theorem quiet_readString16 : Quiet readString16 := by
  refine (quiet_readWord UInt32).bind fun len => ?_
  split
  · exact quiet_fail
  · refine (quiet_ioPop _).bind fun ptr => (quiet_load UInt16 _).bind fun last => ?_
    split
    · exact quiet_pure _
    · exact quiet_fail

theorem quiet_readBuffer (size : UInt64) : Quiet (readBuffer size) := by
  unfold readBuffer
  split
  · exact quiet_fail
  · exact (quiet_ioPop _).bind fun _ => quiet_pure _

theorem quiet_readRawData (size : UInt64) : Quiet (readRawData size) := by
  unfold readRawData
  split
  · exact quiet_fail
  · refine (quiet_attempt (quiet_readWord UInt32)).bind fun len => ?_
    split
    · exact quiet_fail
    · exact quiet_readBuffer _

theorem quiet_readVector (width : Nat) (limit : Option Nat) : Quiet (readVector width limit) := by
  refine (quiet_readWord UInt32).bind fun size => ?_
  split
  · exact quiet_fail
  · exact (quiet_ioPopUnaligned _).bind fun _ => quiet_pure _

theorem quiet_readEach (platform : Platform) (limit width : Nat) (convert : Int32 → β) :
    Quiet (readEach platform limit width convert) := by
  refine (quiet_readWord UInt32).bind fun size => ?_
  split
  · exact quiet_fail
  split
  · exact quiet_fail
  · exact quiet_forEach (fun _ => (quiet_readWord Int32).bind fun _ => quiet_pure _) _

theorem quiet_elements [Word α] {read : Io (Nat × Nat)} (quiet : Quiet read) : Quiet (elements α read) :=
  quiet.bind fun _ => quiet_observe _

theorem Quiet.map {program : Io α} (quiet : Quiet program) (f : α → β) : Quiet (f <$> program) :=
  quiet.bind fun _ => quiet_pure _

theorem quiet_read (platform : Platform) (kind : Kind) : Quiet (kind.read platform) := by
  cases kind with
  | bool | int8 | uint8 | int16 | uint16 | int32 | uint32 | int64 | uint64 | float | double | pointer =>
    exact (quiet_readWord _).map _
  | boolUnaligned | int8Unaligned | uint8Unaligned | int16Unaligned | uint16Unaligned =>
    exact (quiet_readWordUnaligned _).map _
  | string => exact (quiet_elements quiet_readString).map _
  | string16 | interfaceToken => exact (quiet_elements quiet_readString16).map _
  | buffer size => exact (quiet_elements (quiet_readBuffer size)).map _
  | rawData size => exact (quiet_elements (quiet_readRawData size)).map _
  | boolVector | int16Vector => exact (quiet_readEach _ _ _ _).map _
  | int8Vector | int32Vector | int64Vector | uint8Vector | uint16Vector | uint32Vector | uint64Vector | floatVector
  | doubleVector => exact (quiet_elements (quiet_readVector _ _)).map _

end Quiet

/-! One object read. -/

theorem ipcIoPopRef_refused {s : State} (refused : ¬ Poppable s.io) :
    (ipcIoPopRef s).1 = none ∧ Kept s (ipcIoPopRef s).2 := by
  have seen : observe State.io s = (some s.io,s) := rfl
  rw [ipcIoPopRef,bind_some seen]
  split
  · exact ⟨rfl,rfl,rfl,rfl⟩
  split
  · exact ⟨rfl,rfl,rfl,rfl⟩
  · rename_i table more
    have failed := ioPop_refused (s := s) fun ok => refused ⟨ok.1,table,more,ok.2⟩
    rw [bind_none (Prod.ext failed rfl)]
    exact ⟨rfl,quiet_ioPop _ s⟩

theorem discard_run {α : Type} (program : Io α) (s : State) :
    Kernel.Serializer.discard program s = ((program s).1.map fun _ => (),(program s).2) := by
  cases ran : program s with
  | mk outcome t =>
    cases outcome with
    | none => exact bind_none ran
    | some value => exact bind_some ran

theorem load_run (α : Type) [Word α] (address : Nat) (s : State) :
    load α address s = (some (s.memory.load α address),{ s with accesses := s.accesses ++ [(address,Word.width α)] }) := rfl

/-- What is done with an object that was popped changes neither the memory nor the `IpcIo`. -/
structure Looks {α : Type} (rest : Nat → Io α) : Prop where
  memory : ∀ obj t, (rest obj t).2.memory = t.memory
  io : ∀ obj t, (rest obj t).2.io = t.io

theorem Looks.of_runs {α : Type} {rest : Nat → Io α}
    (runs : ∀ obj t, ∃ outcome more, rest obj t = (outcome,{ t with accesses := more })) : Looks rest := by
  constructor
  · intro obj t
    obtain ⟨outcome,more,ran⟩ := runs obj t
    rw [ran]
  · intro obj t
    obtain ⟨outcome,more,ran⟩ := runs obj t
    rw [ran]

/-- An object read, on a state where an object can be popped and on one where it cannot. -/
theorem pops_taken {α : Type} {rest : Nat → Io α} (looks : Looks rest) {s : State} (poppable : Poppable s.io) :
    (Kernel.Serializer.discard (ipcIoPopRef >>= rest) s).1 = ((rest s.io.bufferCur (taken s)).1.map fun _ => ()) ∧
      (Kernel.Serializer.discard (ipcIoPopRef >>= rest) s).2.memory = s.memory ∧
      (Kernel.Serializer.discard (ipcIoPopRef >>= rest) s).2.io = (taken s).io := by
  have ran : (ipcIoPopRef >>= rest) s = rest s.io.bufferCur (taken s) := bind_some (ipcIoPopRef_taken poppable)
  rw [discard_run,ran]
  exact ⟨rfl,looks.memory _ _,looks.io _ _⟩

theorem pops_refused {α : Type} (rest : Nat → Io α) {s : State} (refused : ¬ Poppable s.io) :
    (Kernel.Serializer.discard (ipcIoPopRef >>= rest) s).1 = none ∧
      Kept s (Kernel.Serializer.discard (ipcIoPopRef >>= rest) s).2 := by
  obtain ⟨failed,kept⟩ := ipcIoPopRef_refused refused
  have ran : (ipcIoPopRef >>= rest) s = (none,(ipcIoPopRef s).2) := bind_none (Prod.ext failed rfl)
  rw [discard_run,ran]
  exact ⟨rfl,kept⟩

theorem pops_step {α : Type} {rest : Nat → Io α} (looks : Looks rest) (s : State) :
    (Poppable s.io → (Kernel.Serializer.discard (ipcIoPopRef >>= rest) s).2.memory = s.memory ∧
        (Kernel.Serializer.discard (ipcIoPopRef >>= rest) s).2.io = (taken s).io) ∧
      (¬ Poppable s.io → ¬ (Kernel.Serializer.discard (ipcIoPopRef >>= rest) s).1 = some () ∧
        Kept s (Kernel.Serializer.discard (ipcIoPopRef >>= rest) s).2) := by
  constructor
  · intro poppable
    exact (pops_taken looks poppable).2
  · intro refused
    obtain ⟨failed,kept⟩ := pops_refused rest refused
    refine ⟨?_,kept⟩
    intro returns
    cases failed.symm.trans returns

/-- What `ReadRemoteObject` does with the object. -/
def identity (svc : SvcIdentity) (obj : Nat) : Io SvcIdentity := readRemoteObjectBy (pure obj) svc

def descriptor (obj : Nat) : Io Int32 := readFileDescriptorBy (pure obj)

theorem readRemoteObject_eq (svc : SvcIdentity) : readRemoteObject svc = ipcIoPopRef >>= identity svc := rfl

theorem readFileDescriptor_eq : readFileDescriptor = ipcIoPopRef >>= descriptor := rfl

theorem identity_run (svc : SvcIdentity) (obj : Nat) (t : State) :
    ∃ value more, identity svc obj t = (some value,{ t with accesses := more }) := by
  have popped : identity svc obj t = (do
    let type ← load UInt32 obj
    if type.toNat = binderTypeBinder then
      let token ← load UInt64 (obj+8)
      let cookie ← load UInt64 (obj+16)
      pure ⟨ipcInvalidHandle,token,cookie⟩
    else
      let handle ← load Int32 (obj+8)
      let cookie ← load UInt64 (obj+16)
      pure ⟨handle,svc.token,cookie⟩ : Io SvcIdentity) t := rfl
  rw [popped,bind_some (load_run UInt32 obj t)]
  split
  · exact ⟨_,_,rfl⟩
  · exact ⟨_,_,rfl⟩

theorem descriptor_run (obj : Nat) (t : State) :
    ∃ more, descriptor obj t = (if (t.memory.load UInt32 obj).toNat = binderTypeFd then some (t.memory.load Int32 (obj+8)) else none,
      { t with accesses := more }) := by
  have popped : descriptor obj t = (do
    let type ← load UInt32 obj
    if type.toNat = binderTypeFd then load Int32 (obj+8) else fail : Io Int32) t := rfl
  rw [popped,bind_some (load_run UInt32 obj t)]
  split
  · exact ⟨_,rfl⟩
  · exact ⟨_,rfl⟩

theorem looks_identity (svc : SvcIdentity) : Looks (identity svc) := by
  apply Looks.of_runs
  intro obj t
  obtain ⟨value,more,ran⟩ := identity_run svc obj t
  exact ⟨_,more,ran⟩

theorem looks_descriptor : Looks descriptor := by
  apply Looks.of_runs
  intro obj t
  obtain ⟨more,ran⟩ := descriptor_run obj t
  exact ⟨_,more,ran⟩

variable (platform : Platform)

/-- The offsets after a read: one entry is used up, or none; without a pop nothing is returned. -/
theorem object_step {read : Read} (object : read.IsObject) (s : State) :
    (Poppable s.io → (read.run platform s).2.memory = s.memory ∧ (read.run platform s).2.io = (taken s).io) ∧
      (¬ Poppable s.io → ¬ Returns platform s read ∧ Kept s (read.run platform s).2) := by
  cases read with
  | plain kind => exact absurd object id
  | remoteObject svc =>
    rw [Returns,Read.run,readRemoteObject_eq]
    exact pops_step (looks_identity svc) s
  | fileDescriptor =>
    rw [Returns,Read.run,readFileDescriptor_eq]
    exact pops_step looks_descriptor s

theorem poppable_iff (io : IpcIo) :
    Poppable io ↔ ¬ (¬ ipcIoAvailable io ∨ io.offsetsCur = 0 ∨ io.offsetsLeft = 0 ∨ io.bufferLeft < flatBinderObjectSize) := by
  simp only [Poppable,not_or,not_not,not_lt,ne_eq]

/-- An object read returns one exactly where nothing refuses it, wherever the position is. -/
theorem returns_iff {read : Read} (object : read.IsObject) (s : State) : Returns platform s read ↔ ¬ Refused s read := by
  by_cases poppable : Poppable s.io
  · have open' := (poppable_iff s.io).mp poppable
    simp only [not_or] at open'
    obtain ⟨available,table,more,fits⟩ := open'
    cases read with
    | plain kind => exact absurd object id
    | remoteObject svc =>
      obtain ⟨value,accesses,ran⟩ := identity_run svc s.io.bufferCur (taken s)
      have outcome := (pops_taken (looks_identity svc) poppable).1
      rw [ran] at outcome
      simp only [Refused,available,table,more,fits,false_or,Bool.false_eq_true,false_and,not_false_eq_true,iff_true]
      exact outcome
    | fileDescriptor =>
      obtain ⟨accesses,ran⟩ := descriptor_run s.io.bufferCur (taken s)
      have outcome := (pops_taken looks_descriptor poppable).1
      rw [ran] at outcome
      simp only [Refused,available,table,more,fits,false_or,true_and,not_not]
      have type : (taken s).memory = s.memory := rfl
      rw [type] at outcome
      constructor
      · intro returns
        by_contra other
        rw [if_neg other] at outcome
        cases outcome.symm.trans returns
      · intro same
        rw [if_pos same] at outcome
        exact outcome
  · have refused : Refused s read := by
      by_contra none
      simp only [Refused,not_or] at none
      exact poppable ((poppable_iff s.io).mpr (by simp only [not_or]; exact ⟨none.1,none.2.1,none.2.2.1,none.2.2.2.1⟩))
    exact ⟨fun returns => absurd returns ((object_step platform object s).2 poppable).1,fun allowed => absurd refused allowed⟩

/-! Whole sequences of reads. -/

theorem sound_iff_careful (reads : List Read) (s : State) : Sound platform reads s ↔ Careful platform reads s := by
  induction reads generalizing s with
  | nil => exact Iff.rfl
  | cons read reads ih =>
    have here : (read.IsObject → Returns platform s read → Recorded s) ↔ (read.IsObject → Recorded s ∨ Refused s read) := by
      apply forall_congr'
      intro object
      rw [returns_iff platform object s]
      exact Classical.or_iff_not_imp_right.symm
    exact and_congr here (ih _)

theorem entries_succ (memory : Memory) (table count : Nat) :
    entries memory table (count+1) = (memory.load UInt64 table).toNat :: entries memory (table+sizeSize) count := by
  rw [entries,Memory.loads_succ,List.map_cons]
  rfl

theorem Kept.entries {s t : State} (kept : Kept s t) :
    entries t.memory t.io.offsetsCur t.io.offsetsLeft = entries s.memory s.io.offsetsCur s.io.offsetsLeft := by
  rw [kept.memory,kept.offsetsCur,kept.offsetsLeft]

/-- The objects returned are at entries of what is left of the table, in its order. -/
theorem returned_sublist (reads : List Read) (s : State) (sound : Sound platform reads s) :
    (returned platform reads s).Sublist (entries s.memory s.io.offsetsCur s.io.offsetsLeft) := by
  induction reads generalizing s with
  | nil => exact List.nil_sublist _
  | cons read reads ih =>
    obtain ⟨here,later⟩ := sound
    have rest := ih _ later
    by_cases object : read.IsObject
    · by_cases poppable : Poppable s.io
      · -- an entry is used up, whether or not the object is returned
        obtain ⟨memory,io⟩ := (object_step platform object s).1 poppable
        obtain ⟨left,some⟩ := Nat.exists_eq_succ_of_ne_zero poppable.2.2.1
        rw [memory,io] at rest
        have used : (taken s).io.offsetsLeft = left := by
          show s.io.offsetsLeft-1 = left
          omega
        rw [used] at rest
        rw [some,entries_succ,returned]
        split
        · rename_i both
          rw [here object both.2]
          exact rest.cons_cons _
        · exact rest.cons _
      · obtain ⟨failed,kept⟩ := (object_step platform object s).2 poppable
        rw [returned,if_neg fun both => failed both.2,← kept.entries]
        exact rest
    · rw [returned,if_neg fun both => object both.1]
      cases read with
      | plain kind =>
        have kept : Kept s ((Read.plain kind).run platform s).2 := by
          rw [Read.run,discard_run]
          exact quiet_read platform kind s
        rw [← kept.entries]
        exact rest
      | remoteObject svc => exact absurd trivial object
      | fileDescriptor => exact absurd trivial object

/-- After a look at the table. -/
def looked (s : State) : State := { s with accesses := s.accesses ++ [(s.io.offsetsCur,Word.width UInt64)] }

/-- The checked pop of the LiteOS-A build: the object where the table has it, nothing elsewhere. -/
theorem ioPopSpecObj_outcome (s : State) :
    (Recorded s → (LiteosA.ioPopSpecObj flatBinderObjectSize s).1 = (ipcIoPopRef s).1) ∧
      (¬ Recorded s → (LiteosA.ioPopSpecObj flatBinderObjectSize s).1 = none) := by
  have seen : observe State.io s = (some s.io,s) := rfl
  rw [LiteosA.ioPopSpecObj,bind_some seen]
  by_cases table : s.io.offsetsCur = 0
  · rw [if_pos table]
    exact ⟨fun _ => (ipcIoPopRef_refused fun popped => popped.2.1 table).1.symm,fun _ => rfl⟩
  by_cases more : s.io.offsetsLeft = 0
  · rw [if_neg table,if_pos more]
    exact ⟨fun _ => (ipcIoPopRef_refused fun popped => popped.2.2.1 more).1.symm,fun _ => rfl⟩
  have read : load UInt64 s.io.offsetsCur s = (some (s.memory.load UInt64 s.io.offsetsCur),looked s) := rfl
  rw [if_neg table,if_neg more,bind_some read]
  constructor
  · intro recorded
    unfold Recorded position at recorded
    rw [if_neg (not_not_intro recorded)]
    have caught : attempt (ioPop flatBinderObjectSize) (looked s) = (some (ioPop flatBinderObjectSize (looked s)).1,_) := rfl
    rw [bind_some caught]
    by_cases fits : ipcIoAvailable s.io = true ∧ flatBinderObjectSize ≤ s.io.bufferLeft
    · have popped := (@ioPop_object_iff (looked s) _ _).mpr ⟨fits.1,fits.2,rfl,rfl⟩
      rw [popped,ipcIoPopRef_taken ⟨fits.1,table,more,fits.2⟩]
      rfl
    · rw [ioPop_refused (s := looked s) fits]
      exact (ipcIoPopRef_refused fun popped => fits ⟨popped.1,popped.2.2.2⟩).1.symm
  · intro elsewhere
    unfold Recorded position at elsewhere
    rw [if_pos elsewhere]
    rfl

/-- What the driver checks of the offsets table: objects of a known type, aligned, inside the data, one after the other. -/
def Verified (memory : Memory) (region : Region) : Prop :=
  (entries memory region.table region.tableCount).Pairwise (fun first second => first+flatBinderObjectSize ≤ second) ∧
    ∀ entry ∈ entries memory region.table region.tableCount, entry % 4 = 0 ∧ entry+flatBinderObjectSize ≤ region.dataSize ∧
      (memory.load UInt32 (region.data+entry)).toNat ∈ [binderTypeBinder,binderTypeHandle,binderTypeFd]

/-- For every received `IpcIo` and every sequence of reads: each object returned stands at the next entry
of the table exactly when objects are asked for only there, or where the read is refused; then the objects
returned are at entries of the table, in its order. The LiteOS-A pop needs no such care. -/
theorem objects_returned_where_recorded (region : Region) (memory : Memory) (reads : List Read) :
    (Sound platform reads (received region memory) ↔ Careful platform reads (received region memory)) ∧
      (Careful platform reads (received region memory) →
        (returned platform reads (received region memory)).Sublist (entries memory region.table region.tableCount)) ∧
      ∀ s, (Recorded s → (LiteosA.ioPopSpecObj flatBinderObjectSize s).1 = (ipcIoPopRef s).1) ∧
        (¬ Recorded s → (LiteosA.ioPopSpecObj flatBinderObjectSize s).1 = none) := by
  refine ⟨sound_iff_careful platform reads _,?_,ioPopSpecObj_outcome⟩
  intro careful
  exact returned_sublist platform reads _ ((sound_iff_careful platform reads _).mpr careful)

/-- The sender puts 24 bytes that look like a handle before the one object of the table: they are returned
as the handle 7, where the other build refuses. -/
theorem plain_bytes_returned_as_handle :
    ∃ (region : Region) (memory : Memory), Verified memory region ∧
      ¬ Sound ⟨fun _ _ => .done,fun _ _ => .done,fun _ => true⟩ [.remoteObject ⟨0,0,0⟩] (received region memory) ∧
      (readRemoteObject ⟨0,0,0⟩ (received region memory)).1 = some ⟨7,0,0⟩ ∧
      (LiteosA.ioPopSpecObj flatBinderObjectSize (received region memory)).1 = none := by
  let region : Region := ⟨4096,48,8192,1,by decide,by decide⟩
  let blank : Memory := fun _ => 0
  let memory : Memory := (((blank.store 4096 (UInt32.ofNat binderTypeHandle)).store 4104 (7 : UInt32)).store 4120
    (UInt32.ofNat binderTypeBinder)).store 8192 (24 : UInt64)
  have elsewhere : ¬ Recorded (received region memory) := by
    unfold Recorded
    decide +kernel
  refine ⟨region,memory,?_,?_,by decide +kernel,(ioPopSpecObj_outcome _).2 elsewhere⟩
  · unfold Verified
    decide +kernel
  · intro sound
    exact elsewhere (sound.1 trivial (by decide +kernel))

end CommunicationIpc.ObjectReads
