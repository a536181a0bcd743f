import CommunicationIpc.PackageBounds
import CommunicationIpc.SessionCodec

/-! The session area of a package: what the sender flattens for an object, against what the
receiver decodes for it. -/
namespace CommunicationIpc.SessionSlots
open CommunicationIpc.Library CommunicationIpc.Kernel.Package CommunicationIpc.Kernel.Translate CommunicationIpc.Package
open CommunicationIpc.PackageBounds CommunicationIpc.SessionCodec

structure Fits (layout : Layout) : Prop where
  start : layout.offsets = layout.bufferSize
  small : layout.bufferSize ≤ socketMaxBuffSize
  flat : layout.flatOffset = layout.dataBuffer+layout.bufferSize+layout.offsetsSize
  slots : layout.objCount*flatSessionLen < 2^32

/-- The objects from number `i` on, one behind the other in the buffer, where each meets `test` with
its session, `none` for a file descriptor. -/
def Chain (test : Memory → Nat → Nat → Option Session → Prop) (layout : Layout) (memory : Memory) :
    Nat → Nat → Nat → List (Option Session) → Prop
  | _,_,_,[] => True
  | i,preOffset,preObjectSize,session :: sessions =>
    let offset := memory.read (layout.entryAddress i) binderSize
    isValidRemoteObjectOffset memory layout offset i preOffset preObjectSize = some flatBinderObjectSize ∧
      test memory i (layout.dataBuffer+offset) session ∧
      Chain test layout memory (i+1) offset flatBinderObjectSize sessions

def Local (test : Memory → Nat → Nat → Option Session → Prop) : Prop :=
  ∀ memory other i object session, (∀ x, object ≤ x → x < object+flatBinderObjectSize → memory x = other x) →
    test memory i object session → test other i object session

theorem valid_start {memory : Memory} {layout : Layout} {offset i preOffset preObjectSize size : Nat}
    (small : layout.bufferSize ≤ socketMaxBuffSize) (before : preOffset+preObjectSize ≤ layout.bufferSize)
    (first : i = 0 → preOffset = 0 ∧ preObjectSize = 0)
    (valid : isValidRemoteObjectOffset memory layout offset i preOffset preObjectSize = some size) :
    preOffset+preObjectSize ≤ offset := by
  obtain ⟨inOrder,-⟩ := isValidRemoteObjectOffset_spec small valid
  simp only [isOffsetInOrder,decide_eq_true_eq,not_or,not_and,Nat.not_le,Nat.not_lt] at inOrder
  by_cases zero : i = 0
  · obtain ⟨rfl,rfl⟩ := first zero
    omega
  · have order := (inOrder.2.2 (by omega)).2
    simp only [socketMaxBuffSize] at small
    rwa [wrap64_of_lt (by omega)] at order

theorem valid_congr {memory other : Memory} {layout : Layout} {offset i preOffset preObjectSize : Nat}
    (same : memory.read (layout.dataBuffer+offset) 4 = other.read (layout.dataBuffer+offset) 4) :
    isValidRemoteObjectOffset memory layout offset i preOffset preObjectSize =
      isValidRemoteObjectOffset other layout offset i preOffset preObjectSize := by
  simp only [isValidRemoteObjectOffset,same]

theorem chain_congr {test : Memory → Nat → Nat → Option Session → Prop} (isLocal : Local test) {layout : Layout}
    (fits : Fits layout) {memory other : Memory} (sessions : List (Option Session)) {i preOffset preObjectSize : Nat}
    (first : i = 0 → preOffset = 0 ∧ preObjectSize = 0) (before : preOffset+preObjectSize ≤ layout.bufferSize)
    (counted : i+sessions.length ≤ layout.objCount)
    (table : ∀ x, layout.dataBuffer+layout.bufferSize ≤ x → x < layout.flatOffset → memory x = other x)
    (objects : ∀ x, layout.dataBuffer+preOffset+preObjectSize ≤ x → x < layout.dataBuffer+layout.bufferSize →
      memory x = other x)
    (chain : Chain test layout memory i preOffset preObjectSize sessions) :
    Chain test layout other i preOffset preObjectSize sessions := by
  induction sessions generalizing i preOffset preObjectSize with
  | nil => trivial
  | cons session sessions ih =>
    obtain ⟨valid,meets,rest⟩ := chain
    simp only [List.length_cons] at counted
    have entry : memory.read (layout.entryAddress i) binderSize = other.read (layout.entryAddress i) binderSize := by
      apply Memory.read_congr
      intro x low high
      apply table
      · simp only [Layout.entryAddress,fits.start] at low
        omega
      · rw [fits.flat]
        simp only [Layout.entryAddress,fits.start,Layout.objCount,binderSize] at high counted ⊢
        omega
    simp only [Chain,← entry]
    generalize memory.read (layout.entryAddress i) binderSize = offset at *
    have start := valid_start fits.small before first valid
    obtain ⟨-,-,-,room⟩ := isValidRemoteObjectOffset_spec fits.small valid
    have bytes : ∀ x, layout.dataBuffer+offset ≤ x → x < layout.dataBuffer+offset+flatBinderObjectSize → memory x = other x := by
      intro x low high
      exact objects x (by omega) (by omega)
    have header : memory.read (layout.dataBuffer+offset) 4 = other.read (layout.dataBuffer+offset) 4 := by
      apply Memory.read_congr
      intro x low high
      exact bytes x low (by simp only [flatBinderObjectSize]; omega)
    refine ⟨by rwa [← valid_congr header],isLocal _ _ _ _ _ bytes meets,?_⟩
    apply ih (by omega) (by omega) (by omega) _ rest
    intro x low high
    exact objects x (by omega) high

def Source (sessionOf : Nat → Nat → Nat → Nat → Option Session) (memory : Memory) (i object : Nat) (session : Option Session) :
    Prop :=
  (memory.read object 4 = binderTypeFd ∧ session = none) ∨
    ((memory.read object 4 = binderTypeBinder ∨ memory.read object 4 = binderTypeHandle) ∧ session.isSome = true ∧
      session = sessionOf i (memory.read object 4) (memory.read (object+8) 4) (memory.read (object+16) 8))

def Packed (memory : Memory) (_ object : Nat) : Option Session → Prop
  | some _ => memory.read object 4 = binderTypeRemoteHandle ∧
    (memory.read (object+16) 8 = ifProtDatabus ∨ memory.read (object+16) 8 = ifProtBinder)
  | none => memory.read object 4 = binderTypeFdr

private theorem object_words {memory other : Memory} {object : Nat}
    (same : ∀ x, object ≤ x → x < object+flatBinderObjectSize → memory x = other x) :
    memory.read object 4 = other.read object 4 ∧ memory.read (object+8) 4 = other.read (object+8) 4 ∧
      memory.read (object+16) 8 = other.read (object+16) 8 := by
  simp only [flatBinderObjectSize] at same
  exact ⟨Memory.read_congr fun x low high => same x (by omega) (by omega),
    Memory.read_congr fun x low high => same x (by omega) (by omega),
    Memory.read_congr fun x low high => same x (by omega) (by omega)⟩

theorem source_local (sessionOf : Nat → Nat → Nat → Nat → Option Session) : Local (Source sessionOf) := by
  intro memory other i object session same source
  obtain ⟨type,handle,cookie⟩ := object_words same
  unfold Source at source ⊢
  rwa [← type,← handle,← cookie]

theorem packed_local : Local Packed := by
  intro memory other i object session same packed
  obtain ⟨type,-,cookie⟩ := object_words same
  cases session with
  | none => exact type.symm.trans packed
  | some session =>
    unfold Packed at packed ⊢
    rwa [← type,← cookie]

theorem flat_size_of_source {sessionOf : Nat → Nat → Nat → Nat → Option Session} {memory : Memory} {i object : Nat}
    {session : Option Session} (source : Source sessionOf memory i object session) :
    getRemoteObjectSize (memory.read object 4) = flatBinderObjectSize := by
  apply getRemoteObjectSize_flat
  rcases source with ⟨fd,-⟩ | ⟨binder | handle,-⟩
  · exact .inr (.inr (.inl fd))
  · exact .inl binder
  · exact .inr (.inl handle)

theorem flat_size_of_packed {memory : Memory} {i object : Nat} {session : Option Session}
    (packed : Packed memory i object session) : getRemoteObjectSize (memory.read object 4) = flatBinderObjectSize := by
  apply getRemoteObjectSize_flat
  cases session with
  | none => exact .inr (.inr (.inr (.inr packed)))
  | some session => exact .inr (.inr (.inr (.inl packed.1)))

theorem valid_of_flat {memory : Memory} {layout : Layout} {offset i preOffset preObjectSize : Nat}
    (small : layout.bufferSize ≤ socketMaxBuffSize)
    (inOrder : isOffsetInOrder layout.bufferSize offset i preOffset preObjectSize = true)
    (flat : getRemoteObjectSize (memory.read (layout.dataBuffer+offset) 4) = flatBinderObjectSize)
    (room : offset+flatBinderObjectSize ≤ layout.bufferSize) :
    isValidRemoteObjectOffset memory layout offset i preOffset preObjectSize = some flatBinderObjectSize := by
  simp only [socketMaxBuffSize] at small
  have fits : ¬ (flatBinderObjectSize = 0 ∨ layout.bufferSize < wrap64 (offset+flatBinderObjectSize)) := by
    rw [wrap64_of_lt (by simp only [flatBinderObjectSize] at room ⊢; omega)]
    simp only [flatBinderObjectSize] at room ⊢
    omega
  simp only [isValidRemoteObjectOffset,inOrder,not_true_eq_false,if_false,flat,if_neg fits]

def Wrote (sender next : Sender) (layout : Layout) (i : Nat) : Option Session → Prop
  | none => next.totalSize = sender.totalSize ∧ next.flattened = sender.flattened
  | some session => next.totalSize = sender.totalSize+flatSessionLen ∧
    next.flattened = sender.flattened ++ [(i,layout.flatOffset+sender.totalSize,session)] ∧ Flattens session ∧
    readSession next.memory (layout.flatOffset+sender.totalSize) = carried session

theorem flatten_spec {sender next : Sender} {layout : Layout} {i : Nat} {memory : Memory} {session : Session}
    (room : sender.totalSize+flatSessionLen < 2^32)
    (sent : sender.flatten layout i memory session = (true,next)) :
    Wrote sender next layout i (some session) ∧
      ∀ x, x < layout.flatOffset+sender.totalSize ∨ layout.flatOffset+next.totalSize ≤ x → next.memory x = memory x := by
  unfold Sender.flatten at sent
  rcases flattened : flattenSession memory (layout.flatOffset+sender.totalSize) session supportTokenidVersionNum
    with ⟨flat,size⟩
  simp only [flattened] at sent
  split at sent
  · cases sent
  rename_i written
  obtain ⟨rfl,flattens,read⟩ := readSession_flattenSession flattened written
  cases sent
  have total : wrap32 (sender.totalSize+flatSessionLen) = sender.totalSize+flatSessionLen := Nat.mod_eq_of_lt room
  refine ⟨⟨total,rfl,flattens,read⟩,?_⟩
  intro x outside
  simp only [total] at outside
  exact flattenSession_outside flattened (by omega)

theorem sendObject_spec {sessionOf : Nat → Nat → Nat → Nat → Option Session} {layout : Layout} {sender next : Sender}
    {i object : Nat} (inside : object+getRemoteObjectSize (sender.memory.read object 4) ≤ layout.flatOffset)
    (room : sender.totalSize+flatSessionLen < 2^32)
    (sent : sender.sendObject sessionOf layout i object = (true,next)) :
    ∃ session, Source sessionOf sender.memory i object session ∧ Packed next.memory i object session ∧
      Wrote sender next layout i session ∧
      ∀ x, x < object ∨ object+flatBinderObjectSize ≤ x →
        x < layout.flatOffset+sender.totalSize ∨ layout.flatOffset+next.totalSize ≤ x → next.memory x = sender.memory x := by
  have whole (known : Option Session) (source : Source sessionOf sender.memory i object known) :
      object+24 ≤ layout.flatOffset := by
    rwa [flat_size_of_source source] at inside
  simp only [flatBinderObjectSize]
  simp only [Sender.sendObject] at sent
  split at sent
  · rename_i binder
    split at sent
    · cases sent
    rename_i session found
    have source : Source sessionOf sender.memory i object (some session) := .inr ⟨.inl binder,rfl,found.symm⟩
    have before := whole (some session) source
    obtain ⟨wrote,outside⟩ := flatten_spec room sent
    have kept : ∀ x, object ≤ x → x < object+24 → next.memory x =
        (((sender.memory.write object 4 binderTypeRemoteHandle).write (object+16) 8 ifProtDatabus).write (object+8) 8 0) x :=
      fun x low high => outside x (by omega)
    obtain ⟨type,-,cookie⟩ := object_words kept
    refine ⟨some session,source,⟨?_,.inl ?_⟩,wrote,?_⟩
    · rw [type,Memory.read_write_apart (by omega),Memory.read_write_apart (by omega),Memory.read_write]
      rfl
    · rw [cookie,Memory.read_write_apart (by omega),Memory.read_write]
      rfl
    · intro x apart slot
      rw [outside x slot,Memory.write_outside (by omega),Memory.write_outside (by omega),Memory.write_outside (by omega)]
  split at sent
  · rename_i handle
    split at sent
    · cases sent
    rename_i protocol
    split at sent
    · cases sent
    rename_i session found
    have source : Source sessionOf sender.memory i object (some session) := .inr ⟨.inr handle,rfl,found.symm⟩
    have before := whole (some session) source
    obtain ⟨wrote,outside⟩ := flatten_spec room sent
    have kept : ∀ x, object ≤ x → x < object+24 → next.memory x = (sender.memory.write object 4 binderTypeRemoteHandle) x :=
      fun x low high => outside x (by omega)
    obtain ⟨type,-,cookie⟩ := object_words kept
    refine ⟨some session,source,⟨?_,?_⟩,wrote,?_⟩
    · rw [type,Memory.read_write]
      rfl
    · rw [cookie,Memory.read_write_apart (by omega)]
      by_contra neither
      simp only [not_or] at neither
      exact protocol neither
    · intro x apart slot
      rw [outside x slot,Memory.write_outside (by omega)]
  split at sent
  · rename_i fd
    cases sent
    refine ⟨none,.inl ⟨fd,rfl⟩,?_,⟨rfl,rfl⟩,?_⟩
    · simp only [Packed]
      rw [Memory.read_write_apart (by omega),Memory.read_write]
      rfl
    · intro x apart slot
      simp only
      rw [Memory.write_outside (by omega),Memory.write_outside (by omega)]
  · cases sent

/-- The slots the sender wrote for these objects, the next free one at `total`. -/
def placed (layout : Layout) : Nat → Nat → List (Option Session) → List (Nat × Nat × Session)
  | _,_,[] => []
  | i,total,none :: sessions => placed layout (i+1) total sessions
  | i,total,some session :: sessions =>
    (i,layout.flatOffset+total,session) :: placed layout (i+1) (total+flatSessionLen) sessions

def Stored (layout : Layout) (memory : Memory) : Nat → List (Option Session) → Prop
  | _,[] => True
  | total,none :: sessions => Stored layout memory total sessions
  | total,some session :: sessions =>
    (Flattens session ∧ readSession memory (layout.flatOffset+total) = carried session) ∧
      Stored layout memory (total+flatSessionLen) sessions

/-- What the sender's loop leaves: the objects packed, a session stored for each but the file
descriptors, and nothing else changed. -/
structure Sent (sessionOf : Nat → Nat → Nat → Nat → Option Session) (layout : Layout) (i preOffset preObjectSize : Nat)
    (sender final : Sender) (sessions : List (Option Session)) : Prop where
  source : Chain (Source sessionOf) layout sender.memory i preOffset preObjectSize sessions
  packed : Chain Packed layout final.memory i preOffset preObjectSize sessions
  stored : Stored layout final.memory sender.totalSize sessions
  flattened : final.flattened = sender.flattened ++ placed layout i sender.totalSize sessions
  frame : ∀ x, x < layout.dataBuffer+preOffset+preObjectSize ∨
    (layout.dataBuffer+layout.bufferSize ≤ x ∧ x < layout.flatOffset+sender.totalSize) → final.memory x = sender.memory x

theorem sent_loop {sessionOf : Nat → Nat → Nat → Nat → Option Session} {layout : Layout} (fits : Fits layout) (count : Nat)
    {i preOffset preObjectSize : Nat} {sender final : Sender} (counted : i+count = layout.objCount)
    (first : i = 0 → preOffset = 0 ∧ preObjectSize = 0) (before : preOffset+preObjectSize ≤ layout.bufferSize)
    (used : sender.totalSize ≤ i*flatSessionLen)
    (success : Sender.loop sessionOf layout count i preOffset preObjectSize sender = (true,final)) :
    ∃ sessions, sessions.length = count ∧ Sent sessionOf layout i preOffset preObjectSize sender final sessions := by
  induction count generalizing i preOffset preObjectSize sender with
  | zero =>
    cases success
    exact ⟨[],rfl,trivial,trivial,trivial,by simp [placed],fun _ _ => rfl⟩
  | succ count ih =>
    simp only [Sender.loop] at success
    generalize entry : sender.memory.read (layout.entryAddress i) binderSize = offset at success
    split at success
    · cases success
    rename_i size valid
    split at success
    · cases success
    rename_i next sentOne
    have slots := fits.slots
    have flat := fits.flat
    obtain ⟨inOrder,known,-,room⟩ := isValidRemoteObjectOffset_spec fits.small valid
    have start := valid_start fits.small before first valid
    rw [known] at room
    have table : i*binderSize+binderSize ≤ layout.offsetsSize := by
      simp only [Layout.objCount,binderSize] at counted ⊢
      omega
    have free : sender.totalSize+flatSessionLen < 2^32 := by
      simp only [flatSessionLen] at used slots ⊢
      omega
    obtain ⟨session,source,packed,wrote,outside⟩ := sendObject_spec (by omega) free sentOne
    rw [flat_size_of_source source] at known room
    subst known
    have advanced : sender.totalSize ≤ next.totalSize ∧ next.totalSize ≤ (i+1)*flatSessionLen := by
      rw [Nat.succ_mul]
      cases session with
      | none =>
        rw [wrote.1]
        omega
      | some session =>
        rw [wrote.1]
        omega
    obtain ⟨sessions,length,rest⟩ := ih (by omega) (by omega) room advanced.2 success
    have keptTable : ∀ x, layout.dataBuffer+layout.bufferSize ≤ x → x < layout.flatOffset → next.memory x = sender.memory x :=
      fun x low high => outside x (by omega) (by omega)
    have keptObjects : ∀ x, layout.dataBuffer+offset+flatBinderObjectSize ≤ x → x < layout.dataBuffer+layout.bufferSize →
        next.memory x = sender.memory x :=
      fun x low high => outside x (by omega) (by omega)
    have entryFinal : final.memory.read (layout.entryAddress i) binderSize = offset := by
      rw [← entry]
      apply Memory.read_congr
      intro x low high
      simp only [Layout.entryAddress,fits.start] at low high
      rw [rest.frame x (by omega),keptTable x (by omega) (by omega)]
    have packedFinal : Packed final.memory i (layout.dataBuffer+offset) session :=
      packed_local _ _ _ _ _ (fun x low high => (rest.frame x (by omega)).symm) packed
    refine ⟨session :: sessions,by rw [List.length_cons,length],⟨?_,?_,?_,?_,?_⟩⟩
    · simp only [Chain,entry]
      exact ⟨valid,source,chain_congr (source_local sessionOf) fits sessions (by omega) room (by omega) keptTable keptObjects
        rest.source⟩
    · simp only [Chain,entryFinal]
      exact ⟨valid_of_flat fits.small inOrder (flat_size_of_packed packedFinal) room,packedFinal,rest.packed⟩
    · cases session with
      | none =>
        obtain ⟨same,-⟩ := wrote
        rw [← same]
        exact rest.stored
      | some session =>
        obtain ⟨total,-,flattens,read⟩ := wrote
        have stored := rest.stored
        rw [total] at stored
        refine ⟨⟨flattens,?_⟩,stored⟩
        rw [← read]
        apply readSession_congr
        intro x low high
        exact rest.frame x (by omega)
    · rw [rest.flattened]
      cases session with
      | none => rw [wrote.1,wrote.2,placed]
      | some session =>
        rw [wrote.1,wrote.2.1,placed,List.append_assoc]
        rfl
    · intro x kept
      rw [rest.frame x (by omega)]
      exact outside x (by omega) (by omega)

/-- What the receiver reads for these objects, in the slots it computes from their numbers. -/
def decodedFrom (layout : Layout) (memory : Memory) : Nat → List (Option Session) → List (Nat × Nat × Option Session)
  | _,[] => []
  | i,none :: sessions => decodedFrom layout memory (i+1) sessions
  | i,some _ :: sessions =>
    (i,layout.flatOffset+i*flatSessionLen,readSession memory (layout.flatOffset+i*flatSessionLen)) ::
      decodedFrom layout memory (i+1) sessions

theorem decodedFrom_congr {layout : Layout} {memory other : Memory} (sessions : List (Option Session)) {i : Nat}
    (same : ∀ x, layout.flatOffset+i*flatSessionLen ≤ x → memory x = other x) :
    decodedFrom layout memory i sessions = decodedFrom layout other i sessions := by
  induction sessions generalizing i with
  | nil => rfl
  | cons session sessions ih =>
    have later : decodedFrom layout memory (i+1) sessions = decodedFrom layout other (i+1) sessions := by
      apply ih
      intro x low
      rw [Nat.succ_mul] at low
      exact same x (by omega)
    cases session with
    | none => exact later
    | some session =>
      simp only [decodedFrom,later]
      rw [readSession_congr fun x low high => same x low]

theorem translateRemoteHandleType_spec (handleOf : Session → Nat) {receiver : Receiver} (i : Nat) {object slot : Nat}
    (cookie : receiver.memory.read (object+16) 8 = ifProtDatabus ∨ receiver.memory.read (object+16) 8 = ifProtBinder) :
    (receiver.translateRemoteHandleType handleOf i object slot).decoded =
        receiver.decoded ++ [(i,slot,readSession receiver.memory slot)] ∧
      ∀ x, x < object ∨ object+flatBinderObjectSize ≤ x → x < slot ∨ slot+flatSessionLen ≤ x →
        (receiver.translateRemoteHandleType handleOf i object slot).memory x = receiver.memory x := by
  unfold Receiver.translateRemoteHandleType readSession
  simp only [cookie,if_true]
  have kept := @unFlattenSession_outside receiver.memory slot supportTokenidVersionNum
  generalize unFlattenSession receiver.memory slot supportTokenidVersionNum = read at *
  obtain ⟨memory,session⟩ := read
  simp only at kept ⊢
  split
  · exact ⟨rfl,fun x _ apart => kept apart⟩
  · refine ⟨rfl,fun x outside apart => ?_⟩
    simp only [flatBinderObjectSize] at outside
    simp only
    rw [Memory.write_outside (by omega),Memory.write_outside (by omega)]
    exact kept apart

theorem receiveObject_session (handleOf : Session → Nat) (layout : Layout) {receiver : Receiver} {i object : Nat}
    {session : Session} (packed : Packed receiver.memory i object (some session)) :
    ∃ next, receiver.receiveObject handleOf layout i object = (true,next) ∧
      next.decoded = receiver.decoded ++ [(i,layout.flatOffset+i*flatSessionLen,
        readSession receiver.memory (layout.flatOffset+i*flatSessionLen))] ∧
      ∀ x, x < object ∨ object+flatBinderObjectSize ≤ x →
        x < layout.flatOffset+i*flatSessionLen ∨ layout.flatOffset+i*flatSessionLen+flatSessionLen ≤ x →
          next.memory x = receiver.memory x := by
  obtain ⟨type,cookie⟩ := packed
  have binder : ¬ binderTypeRemoteHandle = binderTypeBinder := by decide
  have handle : ¬ binderTypeRemoteHandle = binderTypeHandle := by decide
  have result : receiver.receiveObject handleOf layout i object = (true,(receiver.touch object
      flatBinderObjectSize).translateRemoteHandleType handleOf i object (layout.flatOffset+i*flatSessionLen)) := by
    simp only [Receiver.receiveObject,type,binder,handle,if_false,if_true]
  exact ⟨_,result,translateRemoteHandleType_spec handleOf i cookie⟩

theorem receiveObject_fd (handleOf : Session → Nat) (layout : Layout) {receiver : Receiver} {i object : Nat}
    (packed : Packed receiver.memory i object none) :
    ∃ next, receiver.receiveObject handleOf layout i object = (true,next) ∧ next.decoded = receiver.decoded ∧
      ∀ x, x < object ∨ object+flatBinderObjectSize ≤ x → next.memory x = receiver.memory x := by
  have type : receiver.memory.read object 4 = binderTypeFdr := packed
  have binder : ¬ binderTypeFdr = binderTypeBinder := by decide
  have handle : ¬ binderTypeFdr = binderTypeHandle := by decide
  have remote : ¬ binderTypeFdr = binderTypeRemoteHandle := by decide
  have fd : ¬ binderTypeFdr = binderTypeFd := by decide
  have result : receiver.receiveObject handleOf layout i object = (true,{ receiver.touch object flatBinderObjectSize with
      memory := receiver.memory.write (object+8) 4 (2^32-1) }) := by
    simp only [Receiver.receiveObject,type,binder,handle,remote,fd,if_false,if_true]
  refine ⟨_,result,rfl,?_⟩
  intro x apart
  simp only [flatBinderObjectSize] at apart
  exact Memory.write_outside (by omega)

def objectAddress (layout : Layout) (memory : Memory) (i : Nat) : Nat :=
  layout.dataBuffer+memory.read (layout.entryAddress i) binderSize

theorem decodedFrom_cons (layout : Layout) (memory : Memory) (i : Nat) (session : Option Session) (sessions : List (Option Session)) :
    decodedFrom layout memory i (session :: sessions) =
      decodedFrom layout memory i [session] ++ decodedFrom layout memory (i+1) sessions := by
  cases session with
  | none => rfl
  | some session => rfl

/-- A turn of the receiver's loop: the objects behind and their slots are as they were. -/
theorem receiveObject_packed (handleOf : Session → Nat) {layout : Layout} (fits : Fits layout) {session : Option Session}
    {sessions : List (Option Session)} {i preOffset preObjectSize : Nat} {receiver : Receiver}
    (first : i = 0 → preOffset = 0 ∧ preObjectSize = 0) (before : preOffset+preObjectSize ≤ layout.bufferSize)
    (counted : i+(session :: sessions).length ≤ layout.objCount)
    (packed : Chain Packed layout receiver.memory i preOffset preObjectSize (session :: sessions)) :
    ∃ next, receiver.receiveObject handleOf layout i (objectAddress layout receiver.memory i) = (true,next) ∧
      next.decoded = receiver.decoded ++ decodedFrom layout receiver.memory i [session] ∧
      decodedFrom layout next.memory (i+1) sessions = decodedFrom layout receiver.memory (i+1) sessions ∧
      Chain Packed layout next.memory (i+1) (receiver.memory.read (layout.entryAddress i) binderSize) flatBinderObjectSize sessions := by
  obtain ⟨valid,meets,rest⟩ := packed
  rw [List.length_cons] at counted
  rw [objectAddress]
  generalize receiver.memory.read (layout.entryAddress i) binderSize = offset at *
  obtain ⟨-,-,-,room⟩ := isValidRemoteObjectOffset_spec fits.small valid
  have start := valid_start fits.small before first valid
  have flat := fits.flat
  cases session with
  | none =>
    obtain ⟨next,result,same,outside⟩ := receiveObject_fd handleOf layout meets
    refine ⟨next,result,by rw [same]; exact (List.append_nil _).symm,?_,?_⟩
    · apply decodedFrom_congr
      intro x low
      exact outside x (by omega)
    · exact chain_congr packed_local fits sessions (by omega) room (by omega) (fun x low high => (outside x (by omega)).symm)
        (fun x low high => (outside x (by omega)).symm) rest
  | some session =>
    obtain ⟨next,result,same,outside⟩ := receiveObject_session handleOf layout meets
    refine ⟨next,result,same,?_,?_⟩
    · apply decodedFrom_congr
      intro x low
      rw [Nat.succ_mul] at low
      exact outside x (by omega) (by omega)
    · exact chain_congr packed_local fits sessions (by omega) room (by omega)
        (fun x low high => (outside x (by omega) (by omega)).symm) (fun x low high => (outside x (by omega) (by omega)).symm) rest

theorem received_loop (handleOf : Session → Nat) {layout : Layout} (fits : Fits layout) (sessions : List (Option Session))
    {i preOffset preObjectSize : Nat} {receiver : Receiver} (first : i = 0 → preOffset = 0 ∧ preObjectSize = 0)
    (before : preOffset+preObjectSize ≤ layout.bufferSize) (counted : i+sessions.length ≤ layout.objCount)
    (packed : Chain Packed layout receiver.memory i preOffset preObjectSize sessions) :
    (Receiver.loop handleOf layout sessions.length i preOffset preObjectSize receiver).1 = true ∧
      (Receiver.loop handleOf layout sessions.length i preOffset preObjectSize receiver).2.decoded =
        receiver.decoded ++ decodedFrom layout receiver.memory i sessions := by
  induction sessions generalizing i preOffset preObjectSize receiver with
  | nil => exact ⟨rfl,(List.append_nil _).symm⟩
  | cons session sessions ih =>
    obtain ⟨inOrder,-,-,room⟩ := isValidRemoteObjectOffset_spec fits.small packed.1
    -- what the turn touches leaves the memory alone
    obtain ⟨next,result,decoded,later,chain⟩ := @receiveObject_packed handleOf layout fits session sessions i preOffset
      preObjectSize ((receiver.touch (layout.entryAddress i) binderSize).touch (objectAddress layout receiver.memory i)
        objectHeaderSize) first before counted packed
    rw [List.length_cons] at counted ⊢
    simp only [Receiver.loop]
    rw [packed.1,if_pos inOrder]
    simp only [objectAddress,Receiver.touch] at result ⊢
    rw [result]
    obtain ⟨finished,read⟩ := ih (by omega) room (by omega) chain
    refine ⟨finished,?_⟩
    rw [read,decoded,later,decodedFrom_cons layout receiver.memory,List.append_assoc]
    rfl

def expected (entry : Nat × Nat × Session) : Nat × Nat × Option Session := (entry.1,entry.2.1,some entry.2.2)

/-- The two ways to count slots agree as long as no file descriptor came before a session. -/
theorem decodedFrom_eq_placed_iff {layout : Layout} {memory : Memory} (sessions : List (Option Session)) {i total : Nat}
    (behind : total ≤ i*flatSessionLen) (stored : Stored layout memory total sessions) :
    decodedFrom layout memory i sessions = (placed layout i total sessions).map expected ↔
      (total = i*flatSessionLen ∨ ∀ session ∈ sessions, session = none) ∧
        sessions.Pairwise (fun earlier later => earlier = none → later = none) ∧
        ∀ session, some session ∈ sessions → Representable session := by
  induction sessions generalizing i total with
  | nil => simp [decodedFrom,placed]
  | cons session sessions ih =>
    cases session with
    | none =>
      have ahead : total ≠ (i+1)*flatSessionLen := by
        rw [Nat.succ_mul]
        simp only [flatSessionLen] at behind ⊢
        omega
      rw [decodedFrom,placed,ih (by rw [Nat.succ_mul]; omega) stored]
      simp only [ahead,false_or,List.mem_cons,List.pairwise_cons,true_implies,reduceCtorEq]
      constructor
      · intro holds
        obtain ⟨last,ordered,whole⟩ := holds
        exact ⟨.inr fun session member => member.elim id (last session),⟨fun later member => last later member,ordered⟩,whole⟩
      · intro holds
        obtain ⟨-,⟨last,ordered⟩,whole⟩ := holds
        exact ⟨last,ordered,whole⟩
    | some session =>
      obtain ⟨⟨flattens,read⟩,rest⟩ := stored
      have carriedIff := carried_eq_iff flattens
      have later := ih (i := i+1) (by rw [Nat.succ_mul]; omega) rest
      rw [decodedFrom,placed,List.map_cons,List.cons_eq_cons,later]
      simp only [expected,Prod.mk.injEq,true_and,Nat.add_left_cancel_iff,List.pairwise_cons,List.mem_cons,reduceCtorEq,
        false_implies,implies_true,Option.some.injEq,forall_eq_or_imp,false_and,or_false]
      constructor
      · intro holds
        obtain ⟨⟨slot,same⟩,-,ordered,whole⟩ := holds
        rw [slot,read] at same
        exact ⟨slot.symm,ordered,carriedIff.mp same,whole⟩
      · intro holds
        obtain ⟨slot,ordered,representable,whole⟩ := holds
        refine ⟨⟨slot.symm,?_⟩,.inl (by rw [slot,Nat.succ_mul]),ordered,whole⟩
        rw [← slot,read]
        exact carriedIff.mpr representable

theorem chain_get {test : Memory → Nat → Nat → Option Session → Prop} {layout : Layout} {memory : Memory}
    (sessions : List (Option Session)) {i preOffset preObjectSize : Nat}
    (chain : Chain test layout memory i preOffset preObjectSize sessions) (position : Nat) (inside : position < sessions.length) :
    test memory (i+position) (objectAddress layout memory (i+position)) sessions[position] := by
  induction sessions generalizing i preOffset preObjectSize position with
  | nil => cases inside
  | cons session sessions ih =>
    obtain ⟨-,meets,rest⟩ := chain
    cases position with
    | zero => exact meets
    | succ position =>
      have found := ih rest position (Nat.lt_of_succ_lt_succ inside)
      rw [Nat.add_right_comm] at found
      exact found

def objectType (layout : Layout) (memory : Memory) (i : Nat) : Nat := memory.read (objectAddress layout memory i) 4

def sessionFor (sessionOf : Nat → Nat → Nat → Nat → Option Session) (layout : Layout) (memory : Memory) (i : Nat) :
    Option Session :=
  let object := objectAddress layout memory i
  sessionOf i (memory.read object 4) (memory.read (object+8) 4) (memory.read (object+16) 8)

def FdsLast (layout : Layout) (memory : Memory) : Prop :=
  ∀ i j, i < j → j < layout.objCount → objectType layout memory i = binderTypeFd → objectType layout memory j = binderTypeFd

def AllRepresentable (sessionOf : Nat → Nat → Nat → Nat → Option Session) (layout : Layout) (memory : Memory) : Prop :=
  ∀ i < layout.objCount, objectType layout memory i ≠ binderTypeFd →
    ∀ session, sessionFor sessionOf layout memory i = some session → Representable session

section Input
variable {sessionOf : Nat → Nat → Nat → Nat → Option Session} {layout : Layout} {memory : Memory}
  {sessions : List (Option Session)}

theorem source_none_iff {i object : Nat} {session : Option Session} (source : Source sessionOf memory i object session) :
    session = none ↔ memory.read object 4 = binderTypeFd := by
  rcases source with ⟨fd,none⟩ | ⟨kind,given,-⟩
  · exact iff_of_true none fd
  · refine iff_of_false ?_ ?_
    · intro none
      rw [none] at given
      cases given
    · intro fd
      rw [fd] at kind
      exact absurd kind (by decide)

theorem ordered_iff_fdsLast (count : sessions.length = layout.objCount)
    (source : Chain (Source sessionOf) layout memory 0 0 0 sessions) :
    sessions.Pairwise (fun earlier later => earlier = none → later = none) ↔ FdsLast layout memory := by
  have kind (position : Nat) (inside : position < sessions.length) :
      sessions[position] = none ↔ objectType layout memory position = binderTypeFd := by
    have found := source_none_iff (chain_get sessions source position inside)
    rwa [Nat.zero_add] at found
  rw [List.pairwise_iff_getElem]
  constructor
  · intro ordered i j before inside fd
    rw [← count] at inside
    exact (kind j inside).mp (ordered i j (by omega) inside before ((kind i (by omega)).mpr fd))
  · intro last i j first second before none
    exact (kind j second).mpr (last i j before (by omega) ((kind i first).mp none))

theorem representable_iff_all (count : sessions.length = layout.objCount)
    (source : Chain (Source sessionOf) layout memory 0 0 0 sessions) :
    (∀ session, some session ∈ sessions → Representable session) ↔ AllRepresentable sessionOf layout memory := by
  have given (position : Nat) (inside : position < sessions.length) :
      Source sessionOf memory position (objectAddress layout memory position) sessions[position] := by
    have found := chain_get sessions source position inside
    rwa [Nat.zero_add] at found
  constructor
  · intro all i counted object session found
    rw [← count] at counted
    rcases given i counted with ⟨fd,-⟩ | ⟨-,-,known⟩
    · exact absurd fd object
    · have same : sessions[i] = some session := known.trans found
      apply all
      rw [← same]
      exact List.getElem_mem counted
  · intro all session member
    obtain ⟨i,counted,known⟩ := List.getElem_of_mem member
    have source := given i counted
    rw [known] at source
    rcases source with ⟨-,none⟩ | ⟨kind,-,found⟩
    · cases none
    · refine all i (by omega) ?_ session found.symm
      intro fd
      rw [objectType] at fd
      rw [fd] at kind
      exact absurd kind (by decide)

end Input

theorem fits_of_sent {sessionOf : Nat → Nat → Nat → Nat → Option Session} {tr : TransactionData} {memory : Memory}
    {sender : Sender} (accepted : checkTransactionData tr = true)
    (sent : iRemoteObjectTranslateWhenSend sessionOf memory (layoutOf tr) = (true,sender)) : Fits (layoutOf tr) := by
  obtain ⟨limited,-,start,covered,eight,sizes⟩ := checkTransactionData_spec accepted
  simp only [socketMaxBuffSize,headerSize] at limited covered
  have small : tr.bufferSize ≤ socketMaxBuffSize := by
    simp only [socketMaxBuffSize]
    omega
  have fits (table : tr.offsetsSize < 2^20) : Fits (layoutOf tr) := by
    refine ⟨start,small,?_,?_⟩
    · simp only [Layout.flatOffset,layoutOf,wrap32]
      rw [Nat.mod_eq_of_lt (by omega),Nat.add_assoc]
    · simp only [Layout.objCount,layoutOf,binderSize,flatSessionLen]
      omega
  cases status : hasFlag tr.flags tfStatusCode with
  | false =>
    have whole := sizes status
    simp only [headerSize] at whole
    exact fits (by omega)
  | true =>
    -- eight bytes hold no object, so the table has none
    have narrow : (layoutOf tr).bufferSize < flatBinderObjectSize := by
      simp only [layoutOf,eight status]
      decide
    unfold iRemoteObjectTranslateWhenSend at sent
    split at sent
    · cases sent
    cases count : (layoutOf tr).objCount with
    | zero =>
      simp only [Layout.objCount,layoutOf,binderSize] at count
      exact fits (by omega)
    | succ count' =>
      rw [count] at sent
      simp only [Sender.loop,isValidRemoteObjectOffset_narrow narrow] at sent
      cases sent

theorem sent_of_translated {sessionOf : Nat → Nat → Nat → Nat → Option Session} {tr : TransactionData} {memory : Memory}
    {sender : Sender} (accepted : checkTransactionData tr = true)
    (sent : iRemoteObjectTranslateWhenSend sessionOf memory (layoutOf tr) = (true,sender)) :
    ∃ sessions, sessions.length = (layoutOf tr).objCount ∧ Sent sessionOf (layoutOf tr) 0 0 0 ⟨memory,0,[]⟩ sender sessions := by
  have fits := fits_of_sent accepted sent
  unfold iRemoteObjectTranslateWhenSend at sent
  split at sent
  · cases sent
  exact sent_loop fits _ (Nat.zero_add _) (fun _ => ⟨rfl,rfl⟩) (Nat.zero_le _) (Nat.zero_le _) sent

theorem header_of_translated {sessionOf : Nat → Nat → Nat → Nat → Option Session} {tr : TransactionData} {memory : Memory}
    {sender : Sender} (accepted : checkTransactionData tr = true)
    (sent : iRemoteObjectTranslateWhenSend sessionOf memory (layoutOf tr) = (true,sender)) :
    ∀ x, x < headerSize → sender.memory x = memory x := by
  obtain ⟨sessions,-,translated⟩ := sent_of_translated accepted sent
  intro x inside
  exact translated.frame x (.inl inside)

/-- The receiver decodes for each binder and handle what the sender flattened for it, in the same
slot, if and only if no file descriptor comes before one of them and every session fits its slot. -/
theorem sessions_arrive_iff (sessionOf : Nat → Nat → Nat → Nat → Option Session) (handleOf : Session → Nat) {memory : Memory}
    {sender : Sender} (accepted : checkTransactionData (TransactionData.decode memory) = true)
    (sent : iRemoteObjectTranslateWhenSend sessionOf memory (layoutOf (TransactionData.decode memory)) = (true,sender)) :
    (iRemoteObjectTranslateWhenRcv handleOf sender.memory (layoutOf (TransactionData.decode sender.memory))).2.decoded =
        sender.flattened.map expected ↔
      FdsLast (layoutOf (TransactionData.decode memory)) memory ∧
        AllRepresentable sessionOf (layoutOf (TransactionData.decode memory)) memory := by
  have fits := fits_of_sent accepted sent
  obtain ⟨sessions,count,translated⟩ := sent_of_translated accepted sent
  have header : TransactionData.decode sender.memory = TransactionData.decode memory :=
    decode_congr (header_of_translated accepted sent)
  have received := @received_loop handleOf _ fits sessions 0 0 0 ⟨sender.memory,[],[]⟩ (fun _ => ⟨rfl,rfl⟩) (Nat.zero_le _)
    (by rw [count,Nat.zero_add]) translated.packed
  have flattened : sender.flattened = placed (layoutOf (TransactionData.decode memory)) 0 0 sessions := translated.flattened
  rw [header,iRemoteObjectTranslateWhenRcv,← count,received.2,List.nil_append,flattened,
    decodedFrom_eq_placed_iff sessions (Nat.zero_le _) translated.stored,ordered_iff_fdsLast count translated.source,
    representable_iff_all count translated.source]
  simp only [Nat.zero_mul,true_or,true_and]

def sampleSession : Session := ⟨[115,118,99],[65,66],7,5⟩

def sampleObjects (first second : Nat) : Memory := samplePackage 688 0 48 16
  (toLE 4 first ++ List.replicate 20 0 ++ toLE 4 second ++ List.replicate 20 0 ++ toLE 8 0 ++ toLE 8 24)

def sampleSent (first second : Nat) : Bool × Sender := iRemoteObjectTranslateWhenSend (fun _ _ _ _ => some sampleSession)
  (sampleObjects first second) (layoutOf (TransactionData.decode (sampleObjects first second)))

def sampleReceived (first second : Nat) : Receiver :=
  let memory := (sampleSent first second).2.memory
  (iRemoteObjectTranslateWhenRcv (fun _ => 1) memory (layoutOf (TransactionData.decode memory))).2

theorem sessions_arrive_iff_sample :
    (sampleSent binderTypeBinder binderTypeFd).2.flattened = [(0,128,sampleSession)] ∧
      (sampleReceived binderTypeBinder binderTypeFd).decoded =
        (sampleSent binderTypeBinder binderTypeFd).2.flattened.map expected := by
  have two : (layoutOf (TransactionData.decode (sampleObjects binderTypeBinder binderTypeFd))).objCount = 2 := by decide +kernel
  have binder : objectType (layoutOf (TransactionData.decode (sampleObjects binderTypeBinder binderTypeFd)))
      (sampleObjects binderTypeBinder binderTypeFd) 0 ≠ binderTypeFd := by decide +kernel
  have sent : sampleSent binderTypeBinder binderTypeFd = (true,(sampleSent binderTypeBinder binderTypeFd).2) :=
    Prod.ext (by decide +kernel) rfl
  refine ⟨by decide +kernel,(sessions_arrive_iff (fun _ _ _ _ => some sampleSession) (fun _ => 1) (by decide +kernel) sent).mpr
    ⟨?_,?_⟩⟩
  · intro i j before inside fd
    rw [two] at inside
    obtain rfl : i = 0 := by omega
    exact absurd fd binder
  · intro i inside object session given
    cases given
    exact ⟨by decide,by decide,by decide,by decide,by decide⟩

/-- A file descriptor in front of a binder: the session is in slot 0, the receiver looks in slot 1
and finds zeros. -/
theorem session_behind_fd_lost :
    checkTransactionData (TransactionData.decode (sampleObjects binderTypeFd binderTypeBinder)) = true ∧
      (sampleSent binderTypeFd binderTypeBinder).1 = true ∧
      (sampleSent binderTypeFd binderTypeBinder).2.flattened = [(1,128,sampleSession)] ∧
      (sampleReceived binderTypeFd binderTypeBinder).decoded = [(1,408,none)] ∧
      (sampleReceived binderTypeFd binderTypeBinder).decoded ≠
        (sampleSent binderTypeFd binderTypeBinder).2.flattened.map expected := by
  have flattened : (sampleSent binderTypeFd binderTypeBinder).2.flattened = [(1,128,sampleSession)] := by decide +kernel
  have decoded : (sampleReceived binderTypeFd binderTypeBinder).decoded = [(1,408,none)] := by decide +kernel
  refine ⟨by decide +kernel,by decide +kernel,flattened,decoded,?_⟩
  rw [flattened,decoded]
  decide

end CommunicationIpc.SessionSlots
