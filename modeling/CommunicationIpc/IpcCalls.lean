import CommunicationIpc.Kernel.IpcInvoker
import CommunicationIpc.SerializerCopies
import CommunicationIpc.SerializerRoundTrip

/-! What a requester gets from a stub of its own process, and from the same stub in another process through the driver. -/
namespace CommunicationIpc.IpcCalls
open CommunicationIpc.Library CommunicationIpc.Library.Program CommunicationIpc.Kernel.Serializer CommunicationIpc.Kernel.IpcInvoker
open CommunicationIpc.SerializerCursor CommunicationIpc.SerializerCopies
open CommunicationIpc.Kernel.Framing.Lite (sizeSize)
open CommunicationIpc.Kernel.LiteInvoker (usedBuffer usedOffsets)
open CommunicationIpc.SerializerRoundTrip (ioPopUnaligned_run)

section Calls
variable {platform : Platform} {region first second : Region} {known : Prop}

theorem alike_readCall (twins : Twins first second) (call : ReadCall) :
    Alike (Copy True first second) (call.run platform) (call.run platform) Eq := by
  cases call with
  | plain kind sized =>
    refine alike_map (alike_read ?_) _
    rintro size rfl
    exact sized
  | remoteObject svc => exact alike_map (alike_readRemoteObject twins svc) _
  | fileDescriptor => exact alike_map (alike_readFileDescriptor twins) _

theorem alike_writeCall (twins : Twins first second) (call : WriteCall) :
    Alike (Copy known first second) (call.run platform) (call.run platform) fun _ _ => True := by
  cases call with
  | plain item => exact alike_write item
  | remoteObject svc => exact alike_writeRemoteObject twins svc
  | fileDescriptor fd => exact alike_writeFileDescriptor twins fd

theorem safe_readCall (call : ReadCall) : Safe region (fun _ => False) any (call.run platform) ended := by
  cases call with
  | plain kind sized => exact (safe_read kind).map _
  | remoteObject svc => exact (safe_readRemoteObject svc).map _
  | fileDescriptor => exact safe_readFileDescriptor.map _

theorem safe_writeCall (call : WriteCall) : Safe region (fun _ => False) any (call.run platform) ended := by
  cases call with
  | plain item => exact safe_write item
  | remoteObject svc => exact safe_writeRemoteObject svc
  | fileDescriptor fd => exact safe_writeFileDescriptor fd

theorem frame {α : Type} {program : Io α} {post : α → Prop} (safe : Safe region (fun _ => False) any program post) {s : State}
    (cursors : Cursors region s.io) : ∀ x, ¬ region.Holds x → (program s).2.memory x = s.memory x :=
  (safe s ⟨cursors,trivial⟩).1.2

/-! Of an `IpcIo` with nothing left every read fails. -/

def Empty (s : State) : Prop := s.io.bufferLeft = 0 ∧ s.io.offsetsLeft = 0

structure Barren (s t : State) : Prop where
  empty : Empty s → Empty t
  memory : t.memory = s.memory

theorem Barren.refl (s : State) : Barren s s := ⟨id,rfl⟩

theorem Barren.trans {s t u : State} (before : Barren s t) (after : Barren t u) : Barren s u :=
  ⟨fun held => after.empty (before.empty held),after.memory.trans before.memory⟩

def Dry {α : Type} (program : Io α) : Prop := Refuses Empty Barren program

theorem dry_overflows {α : Type} : Dry (overflows : Io α) := fun _ held => ⟨rfl,fun _ => held,rfl⟩

theorem dry_fail {α : Type} : Dry (fail : Io α) := Refuses.fail Barren.refl

theorem dry_seen {α : Type} {rest : IpcIo → Io α} (each : ∀ io : IpcIo, io.bufferLeft = 0 → io.offsetsLeft = 0 → Dry (rest io)) :
    Dry (observe State.io >>= rest) :=
  fun s held => each s.io held.1 held.2 s held

theorem dry_take {size : Nat} (some : 0 < size) : Dry (do
      let io ← observe State.io
      if ¬ ipcIoAvailable io then overflows
      else if io.bufferLeft < size then do
        update fun s => { s with io := { s.io with bufferLeft := 0 } }
        overflows
      else advance size) := by
  apply dry_seen
  intro io none_ _
  split
  · exact dry_overflows
  · rw [if_pos (by omega)]
    exact fun s held => ⟨rfl,fun _ => ⟨rfl,held.2⟩,rfl⟩

theorem dry_ioPop {size : Nat} (some : 0 < size) (small : size < 2^63) : Dry (ioPop size) := by
  apply dry_take
  have fits := le_ioAlign small
  omega

theorem dry_readWord (α : Type) [Word α] (some : 0 < Word.width α) : Dry (readWord α) := by
  have width := width_lt α
  exact (dry_ioPop some (by omega)).bind _

theorem dry_readWordUnaligned (α : Type) [Word α] (some : 0 < Word.width α) : Dry (readWordUnaligned α) :=
  Refuses.bind (dry_take some) _

theorem dry_readUint32 {α : Type} (rest : UInt32 → Io α) : Dry (readUint32 >>= rest) := (dry_readWord UInt32 (by decide)).bind rest

theorem dry_readBuffer {size : UInt64} (sized : size.toNat < 2^63) : Dry (readBuffer size) := by
  unfold readBuffer
  split
  · exact dry_fail
  · rename_i some
    refine (dry_ioPop ?_ sized).bind _
    exact Nat.pos_of_ne_zero fun none_ => some (UInt64.toNat_inj.mp none_)

/-- The length that could not be read is 0, and no block of that size is read. -/
theorem dry_readRawData (size : UInt64) : Dry (readRawData size) := by
  unfold readRawData
  split
  · exact dry_fail
  · refine Refuses.attempt (fun left held => left.empty held) Barren.trans (dry_readWord UInt32 (by decide)) ?_
    split
    · exact dry_fail
    · exact dry_readBuffer (by decide)

theorem dry_ipcIoPopRef : Dry ipcIoPopRef := by
  apply dry_seen
  intro io _ none_
  split
  · exact dry_fail
  · exact dry_overflows

theorem dry_read {kind : Kind} (sized : Sized kind) : Dry (kind.read platform) := by
  cases kind with
  | bool | int8 | uint8 | int16 | uint16 | int32 | uint32 | int64 | uint64 | float | double | pointer =>
    exact Refuses.bind (dry_readWord _ (by decide)) _
  | boolUnaligned | int8Unaligned | uint8Unaligned | int16Unaligned | uint16Unaligned =>
    exact Refuses.bind (dry_readWordUnaligned _ (by decide)) _
  | string | string16 | interfaceToken => exact Refuses.bind (Refuses.bind (dry_readUint32 _) _) _
  | buffer size => exact Refuses.bind (Refuses.bind (dry_readBuffer sized) _) _
  | rawData size => exact Refuses.bind (Refuses.bind (dry_readRawData size) _) _
  | boolVector | int16Vector => exact Refuses.bind (dry_readUint32 _) _
  | int8Vector | int32Vector | int64Vector | uint8Vector | uint16Vector | uint32Vector | uint64Vector | floatVector
  | doubleVector => exact Refuses.bind (Refuses.bind (dry_readUint32 _) _) _

theorem dry_readCall (call : ReadCall) : Dry (call.run platform) := by
  cases call with
  | plain kind sized => exact Refuses.bind (dry_read sized) _
  | remoteObject svc => exact Refuses.bind (Refuses.bind dry_ipcIoPopRef _) _
  | fileDescriptor => exact Refuses.bind (Refuses.bind dry_ipcIoPopRef _) _

end Calls

/-! A stub's function in two processes. -/

section Handlers
variable {platform : Platform} {known : Prop} {input input' array array' : Region}

theorem rel_eq {α : Type} {outcome other : Option α} (same : Option.Rel Eq outcome other) : outcome = other := by
  cases same with
  | none => rfl
  | some same => rw [same]

theorem rel_isSome {α β : Type} {values : α → β → Prop} {outcome : Option α} {other : Option β} (same : Option.Rel values outcome other) :
    outcome.isSome = other.isSome := by
  cases same with
  | none => rfl
  | some same => rfl

/-- The data is the same, or it is null in the first process and empty in the second. -/
inductive SameData (first second : Region) (memory other : Memory) : Option IpcIo → Option IpcIo → Prop
  | copy {io twin : IpcIo} (copy : Copy True first second ⟨memory,io,[]⟩ ⟨other,twin,[]⟩) : SameData first second memory other (some io) (some twin)
  | null {io : IpcIo} (empty : io.bufferLeft = 0 ∧ io.offsetsLeft = 0) : SameData first second memory other none (some io)

/-- Where the data and the arrays of the replies lie. -/
structure Layout (input input' array array' : Region) : Prop where
  twins : Twins input input'
  twins' : Twins array array'
  apart : ∀ x, input.Holds x → ¬ array.Holds x
  apart' : ∀ x, input'.Holds x → ¬ array'.Holds x

/-- Both functions are at the same point. -/
structure Related (known : Prop) (input input' array array' : Region) (here there : Arguments) : Prop where
  data : SameData input input' here.memory there.memory here.data there.data
  reply : ∃ io twin, here.reply = some io ∧ there.reply = some twin ∧ Copy known array array' ⟨here.memory,io,[]⟩ ⟨there.memory,twin,[]⟩

variable {here there : Arguments}

theorem read_related (layout : Layout input input' array array') (related : Related known input input' array array' here there)
    (call : ReadCall) : (here.read platform call).1 = (there.read platform call).1 ∧
      Related known input input' array array' (here.read platform call).2 (there.read platform call).2 := by
  obtain ⟨same,io,twin,reply,reply',copied⟩ := related
  obtain ⟨memory,own,answer⟩ := here
  obtain ⟨memory',own',answer'⟩ := there
  cases reply
  cases reply'
  cases same with
  | null empty =>
    obtain ⟨failed,barren⟩ := @dry_readCall platform call ⟨memory',_,[]⟩ empty
    simp only [Arguments.read]
    refine ⟨failed.symm,.null (barren.empty empty),_,_,rfl,rfl,copied.io,?_⟩
    rw [barren.memory]
    exact copied.bytes
  | @copy own own' copy =>
    obtain ⟨reached,outcomes⟩ := @alike_readCall platform _ _ layout.twins call _ _ copy
    have left := frame (@safe_readCall platform _ call) copy.io.left
    have right := frame (@safe_readCall platform _ call) copy.io.right
    simp only [Arguments.read]
    refine ⟨rel_eq outcomes,.copy ⟨reached.io,reached.bytes⟩,_,_,rfl,rfl,copied.io,?_⟩
    intro sure
    refine sameBytes_kept layout.twins' (copied.bytes sure) ?_ ?_
    · exact fun x held => left x fun also => layout.apart x also held
    · exact fun x held => right x fun also => layout.apart' x also held

theorem write_related (layout : Layout input input' array array') (related : Related known input input' array array' here there)
    (call : WriteCall) : (here.write platform call).1 = (there.write platform call).1 ∧
      Related known input input' array array' (here.write platform call).2 (there.write platform call).2 := by
  obtain ⟨same,io,twin,reply,reply',copied⟩ := related
  obtain ⟨memory,own,answer⟩ := here
  obtain ⟨memory',own',answer'⟩ := there
  cases reply
  cases reply'
  obtain ⟨reached,outcomes⟩ := @alike_writeCall platform _ _ _ layout.twins' call _ _ copied
  have left := frame (@safe_writeCall platform _ call) copied.io.left
  have right := frame (@safe_writeCall platform _ call) copied.io.right
  simp only [Arguments.write]
  refine ⟨rel_isSome outcomes,?_,_,_,rfl,rfl,reached.io,reached.bytes⟩
  cases same with
  | null empty => exact .null empty
  | copy copy =>
    refine .copy ⟨copy.io,fun sure => sameBytes_kept layout.twins (copy.bytes sure) ?_ ?_⟩
    · exact fun x held => left x fun also => layout.apart x held also
    · exact fun x held => right x fun also => layout.apart' x held also

theorem handler_related (layout : Layout input input' array array') (handler : Handler)
    (related : Related known input input' array array' here there) :
    (handler.run platform here).1 = (handler.run platform there).1 ∧
      Related known input input' array array' (handler.run platform here).2 (handler.run platform there).2 := by
  induction handler generalizing here there with
  | ends result => exact ⟨rfl,related⟩
  | reads call next ih =>
    obtain ⟨same,after⟩ := @read_related platform _ _ _ _ _ _ _ layout related call
    rw [Handler.run,Handler.run,same]
    exact ih _ after
  | writes call next ih =>
    obtain ⟨same,after⟩ := @write_related platform _ _ _ _ _ _ _ layout related call
    rw [Handler.run,Handler.run,same]
    exact ih _ after

end Handlers

/-! The requester. -/

/-- An `IpcIo` as a caller has it: every call succeeded, and its cursors are in order. -/
structure Usable (region : Region) (io : IpcIo) : Prop where
  cursors : Cursors region io
  available : ipcIoAvailable io = true
  whole : sizeSize ∣ io.offsetsCur-io.offsetsBase
  table : region.table ≠ 0
  small : region.tableCount*sizeSize < 2^63

/-- An `IpcIo` over what the driver has put into a region. -/
def received (region : Region) : IpcIo := ⟨region.data,region.table,region.data,region.table,region.dataSize,region.tableCount,true,false⟩

/-- The part of a region that is used. -/
def usedPart (region : Region) (io : IpcIo) (cursors : Cursors region io) : Region where
  data := region.data
  dataSize := usedBuffer io
  table := region.table
  tableCount := usedOffsets io
  apart := by
    have base := cursors.base
    have stop := cursors.stop
    have offsetsBase := cursors.offsetsBase
    have offsetsStop := cursors.offsetsStop
    have apart := region.apart
    simp only [usedBuffer,usedOffsets,sizeSize] at offsetsStop apart ⊢
    omega
  small := by
    have base := cursors.base
    have stop := cursors.stop
    have small := region.small
    simp only [usedBuffer]
    omega

/-- What the driver does: it puts the data and the offsets into an area of the receiver, and changes nothing else. -/
structure Delivers (sent : BinderTransactionData) (memory : Memory) (area : Region) (got : BinderTransactionData) (later : Memory) : Prop where
  code : got.code = sent.code
  flags : got.flags = sent.flags
  buffer : got.buffer = area.data
  dataSize : got.dataSize = sent.dataSize
  dataSize' : area.dataSize = sent.dataSize
  offsets : got.offsets = area.table
  offsetsSize : got.offsetsSize = sent.offsetsSize
  offsetsSize' : area.tableCount = sent.offsetsSize/sizeSize
  table : sent.offsets ≠ 0 → area.table ≠ 0
  bytes : ∀ i, i < sent.dataSize → later (area.data+i) = memory (sent.buffer+i)

/-- The reply comes in some turn of the loop, among commands that `BinderParse` goes over. -/
inductive Answers (answer : BinderTransactionData) : List (Option (List Return)) → Prop
  | now (before after : Nat) (later : List (Option (List Return))) :
    Answers answer (some (List.replicate before .noop ++ .reply answer :: List.replicate after .noop) :: later)
  | waits (count : Nat) {returns : List (Option (List Return))} (answers : Answers answer returns) :
    Answers answer (some (List.replicate count .noop) :: returns)

/-- A request, with what there is of it in both processes: the memories before it and the stack arrays, what the stub's process
gets and where it keeps its result, and what comes back. -/
structure Exchange where
  code : UInt32
  data : Option IpcIo
  reply : IpcIo
  memory : Memory
  tempData : Nat
  server : Memory
  request : BinderTransactionData
  area : Region
  serverTempData : Nat
  status : Nat
  later : Memory
  answer : BinderTransactionData
  back : Region
  returns : List (Option (List Return))

namespace Exchange

/-- Outside an array on the stack. -/
def Outside (tempData x : Nat) : Prop := x < tempData ∨ tempData+maxIoSize ≤ x

/-- What the stub's process does. -/
def handled (exchange : Exchange) (platform : Platform) (stub : OnRemoteRequest) : Memory × Option BinderTransactionData :=
  handleTransaction platform stub exchange.server exchange.request exchange.serverTempData exchange.status

structure Valid (exchange : Exchange) (platform : Platform) (stub : OnRemoteRequest) (handle : UInt32) : Prop where
  tempData : 0 < exchange.tempData
  serverTempData : 0 < exchange.serverTempData
  data : ∀ io, exchange.data = some io → ∃ region, Usable region io ∧ ∀ x, region.Holds x → Outside exchange.tempData x
  request : Delivers (toTransData handle exchange.code tfOpSync exchange.data) exchange.memory exchange.area exchange.request exchange.server
  area : ∀ x, exchange.area.Holds x → Outside exchange.serverTempData x
  status : exchange.status+4 ≤ exchange.serverTempData ∨ exchange.serverTempData+maxIoSize ≤ exchange.status
  answer : ∀ sent, (exchange.handled platform stub).2 = some sent →
    Delivers sent (exchange.handled platform stub).1 exchange.back exchange.answer exchange.later
  returns : Answers exchange.answer exchange.returns

end Exchange

/-- What a list of read calls yields. -/
def readAll (platform : Platform) (memory : Memory) (io : IpcIo) : List ReadCall → List (Option Value)
  | [] => []
  | call :: calls =>
    let (outcome,s) := call.run platform ⟨memory,io,[]⟩
    outcome :: readAll platform s.memory s.io calls

/-- The reply of an answer reads so. -/
def Reads (platform : Platform) (answer : Option Answer) (calls : List ReadCall) (outcomes : List (Option Value)) : Prop :=
  ∃ ended io, answer = some ended ∧ ended.reply = some io ∧ readAll platform ended.memory io calls = outcomes

/-- Whatever the array holds that nobody has written yet, the results are the same and as many bytes are left; and what the first
reply reads as, whatever the array held, the second one does. -/
structure Agrees (platform : Platform) (tempData : Nat) (memory : Memory) (inProcess : Memory → Option Answer) (driver : Option Answer) : Prop where
  ends : ∀ start, (∀ x, Exchange.Outside tempData x → start x = memory x) → ∃ ended other io twin, inProcess start = some ended ∧
    driver = some other ∧ ended.result = other.result ∧ ended.reply = some io ∧ other.reply = some twin ∧ io.bufferLeft = twin.bufferLeft
  reads : ∀ calls outcomes, (∀ start, (∀ x, Exchange.Outside tempData x → start x = memory x) → Reads platform (inProcess start) calls outcomes) →
    Reads platform driver calls outcomes

/-- The stub's function returns 0 and leaves a reply that is not empty and has not overflowed. -/
def Fulfils (platform : Platform) (handler : Handler) (arguments : Arguments) : Prop :=
  (handler.run platform arguments).1 = 0 ∧ ∃ io, (handler.run platform arguments).2.reply = some io ∧ io.bufferBase < io.bufferCur ∧
    io.overflow = false

section Driver
variable {platform : Platform} {answer : BinderTransactionData} {reply : IpcIo} {returns : List (Option (List Return))}

theorem binderParse_noops (buffer : Bool) (state : Int32 × Option IpcIo) (count : Nat) (returns : List Return) :
    binderParse buffer state (List.replicate count .noop ++ returns) = binderParse buffer state returns := by
  induction count with
  | zero => rfl
  | succ count ih =>
    rw [List.replicate_succ,List.cons_append,binderParse]
    exact ih

theorem waitForReply_answers (answers : Answers answer returns) :
    waitForReply true (some reply) returns = some (0,some (toIpcData answer)) := by
  induction answers with
  | now before after later =>
    have ended := binderParse_noops true (0,some (toIpcData answer)) after []
    rw [List.append_nil] at ended
    rw [waitForReply,binderParse_noops,binderParse]
    simp only [handleReply,Option.isNone_some,Bool.false_eq_true,not_true_eq_false,or_self,if_false,ended,binderParse]
    rw [if_pos (by decide)]
  | waits count answers ih =>
    have passed := binderParse_noops true (1,some reply) count []
    rw [List.append_nil] at passed
    rw [waitForReply,passed,binderParse]
    dsimp only
    rw [if_neg (by decide)]
    exact ih

end Driver

section Areas
variable {known : Prop} {first second region area : Region} {io : IpcIo} {memory later : Memory} {sent got : BinderTransactionData}

theorem valid_array {tempData : Nat} (some : 0 < tempData) : ValidInit tempData maxIoSize maxObjNum :=
  ⟨Nat.ne_of_gt some,by decide,by decide,by decide,by decide⟩

/-- The region of an array `tempData`. -/
def arrayOf (tempData : Nat) (some : 0 < tempData) : Region := .ofBuffer tempData maxIoSize maxObjNum (valid_array some)

theorem tempIo_received {tempData : Nat} (some : 0 < tempData) : tempIo tempData = received (arrayOf tempData some) :=
  ipcIoInit_valid _ (valid_array some)

theorem holds_array {tempData x : Nat} {some : 0 < tempData} (held : (arrayOf tempData some).Holds x) :
    ¬ Exchange.Outside tempData x := by
  simp only [Exchange.Outside,maxIoSize]
  rcases held with ⟨low,high⟩ | ⟨low,high⟩
  · simp only [arrayOf,Region.ofBuffer,maxIoSize,maxObjNum,sizeSize] at low high
    omega
  · simp only [arrayOf,Region.ofBuffer,maxObjNum,sizeSize] at low high
    omega

theorem arrays_twins {tempData other : Nat} (some : 0 < tempData) (some' : 0 < other) : Twins (arrayOf tempData some) (arrayOf other some') :=
  ⟨rfl,Nat.ne_of_gt some,Nat.ne_of_gt some'⟩

theorem received_copy (dataSize : first.dataSize = second.dataSize) (tableCount : first.tableCount = second.tableCount)
    (bytes : known → SameBytes first second memory later) : Copy known first second ⟨memory,received first,[]⟩ ⟨later,received second,[]⟩ := by
  refine ⟨⟨(Started.received first).cursors,(Started.received second).cursors,Nat.add_comm ..,dataSize,Nat.add_comm ..,?_,tableCount,
    ⟨rfl,rfl⟩,rfl⟩,bytes⟩
  simp only [received,Nat.sub_self]
  exact ⟨0,rfl⟩

theorem rewind_received (cursors : Cursors region io) (initialized : io.initialized = true) (overflow : io.overflow = false) :
    rewind io = received (usedPart region io cursors) := by
  simp only [rewind,received,usedPart,cursors.base,cursors.offsetsBase,initialized,overflow]

theorem toIpcData_received (delivers : Delivers sent memory area got later) : toIpcData got = received area := by
  simp only [toIpcData,received,delivers.buffer,delivers.offsets,delivers.dataSize,delivers.offsetsSize,delivers.dataSize',
    delivers.offsetsSize']

theorem holds_usedPart {cursors : Cursors region io} {x : Nat} (held : (usedPart region io cursors).Holds x) : region.Holds x := by
  have base := cursors.base
  have start := cursors.start
  have stop := cursors.stop
  have offsetsBase := cursors.offsetsBase
  have offsetsStart := cursors.offsetsStart
  have offsetsStop := cursors.offsetsStop
  rcases held with ⟨low,high⟩ | ⟨low,high⟩
  · simp only [usedPart,usedBuffer] at low high
    exact .inl ⟨low,by simp only; omega⟩
  · simp only [usedPart,usedOffsets,sizeSize] at low high offsetsStop
    exact .inr ⟨low,by simp only [sizeSize]; omega⟩

theorem ioAlign_whole {size : Nat} (whole : sizeSize ∣ size) (small : size < 2^63) : ioAlign size/sizeSize = size/sizeSize := by
  obtain ⟨count,rfl⟩ := whole
  rw [ioAlign_of_small small]
  simp only [sizeSize]
  omega

theorem aligned_used {twin : IpcIo} (aligned : Aligned first second io twin) :
    usedBuffer io = usedBuffer twin ∧ io.offsetsCur-io.offsetsBase = twin.offsetsCur-twin.offsetsBase := by
  have cur := aligned.bufferCur
  have offsets := aligned.offsetsCur
  have base := aligned.left.base
  have base' := aligned.right.base
  have start := aligned.left.start
  have start' := aligned.right.start
  have offsetsBase := aligned.left.offsetsBase
  have offsetsBase' := aligned.right.offsetsBase
  have offsetsStart := aligned.left.offsetsStart
  have offsetsStart' := aligned.right.offsetsStart
  simp only [usedBuffer]
  exact ⟨by omega,by omega⟩

/-- The used part of what one side has, and the area where the other one gets what a twin of it has. -/
theorem delivered_copy {twin : IpcIo} (cursors : Cursors region io)
    (used : usedBuffer io = usedBuffer twin ∧ io.offsetsCur-io.offsetsBase = twin.offsetsCur-twin.offsetsBase)
    (whole : sizeSize ∣ io.offsetsCur-io.offsetsBase) (small : region.tableCount*sizeSize < 2^63) {handle code flags : UInt32}
    (delivers : Delivers (toTransData handle code flags (some twin)) memory area got later) {before : Memory}
    (bytes : known → ∀ i, i < usedBuffer io → before (region.data+i) = memory (twin.bufferBase+i)) :
    Copy known (usedPart region io cursors) area ⟨before,received (usedPart region io cursors),[]⟩ ⟨later,toIpcData got,[]⟩ := by
  have stop := cursors.offsetsStop
  have base := cursors.offsetsBase
  have dataSize := delivers.dataSize'
  have tableCount := delivers.offsetsSize'
  have there := delivers.bytes
  simp only [toTransData,Option.map_some,Option.getD_some] at dataSize tableCount there
  rw [← used.1] at dataSize there
  rw [← used.2,ioAlign_whole whole (by omega)] at tableCount
  rw [toIpcData_received delivers]
  refine received_copy dataSize.symm tableCount.symm ?_
  intro sure i inside
  exact (bytes sure i inside).trans (there i inside).symm

theorem delivered_twins {twin : IpcIo} (cursors : Cursors region io) (used : usedBuffer io = usedBuffer twin) (table : region.table ≠ 0)
    (table' : twin.offsetsBase ≠ 0) {handle code flags : UInt32}
    (delivers : Delivers (toTransData handle code flags (some twin)) memory area got later) : Twins (usedPart region io cursors) area :=
  ⟨used.trans delivers.dataSize'.symm,table,delivers.table table'⟩

end Areas

section Copies
variable {platform : Platform} {first second : Region} {io twin : IpcIo} {memory other : Memory}

theorem readAll_copy (twins : Twins first second) (calls : List ReadCall)
    (copy : Copy True first second ⟨memory,io,[]⟩ ⟨other,twin,[]⟩) : readAll platform memory io calls = readAll platform other twin calls := by
  induction calls generalizing memory other io twin with
  | nil => rfl
  | cons call calls ih =>
    obtain ⟨reached,outcomes⟩ := @alike_readCall platform _ _ twins call _ _ copy
    rw [readAll,readAll]
    refine List.cons_eq_cons.mpr ⟨rel_eq outcomes,ih ⟨reached.io,reached.bytes⟩⟩

end Copies

section Exchanges
variable {platform : Platform} {stub : OnRemoteRequest} {exchange : Exchange} {handle : UInt32} {start : Memory}

namespace Exchange

/-- What the stub's function is called with in the requester's process. -/
def here (exchange : Exchange) (start : Memory) : Arguments := ⟨start,exchange.data.map rewind,some (tempIo exchange.tempData)⟩

/-- What it is called with in its own process. -/
def there (exchange : Exchange) : Arguments :=
  ⟨exchange.server,some (toIpcData exchange.request),some (tempIo exchange.serverTempData)⟩

end Exchange

/-- A region that holds nothing. -/
def nowhere : Region := ⟨1,0,1,0,.inl le_rfl,by decide⟩

theorem holds_nowhere {x : Nat} : ¬ nowhere.Holds x := by
  rintro (⟨low,high⟩ | ⟨low,high⟩)
  · simp only [nowhere] at low high
    omega
  · simp only [nowhere,sizeSize] at low high
    omega

theorem begins (valid : exchange.Valid platform stub handle) (outside : ∀ x, Exchange.Outside exchange.tempData x → start x = exchange.memory x)
    {known : Prop} (bytes : known → SameBytes (arrayOf _ valid.tempData) (arrayOf _ valid.serverTempData) start exchange.server) :
    ∃ input input', Layout input input' (arrayOf _ valid.tempData) (arrayOf _ valid.serverTempData) ∧
      Related known input input' (arrayOf _ valid.tempData) (arrayOf _ valid.serverTempData) (exchange.here start) exchange.there := by
  have twins := arrays_twins valid.tempData valid.serverTempData
  have reply : ∃ io twin, (exchange.here start).reply = some io ∧ exchange.there.reply = some twin ∧
      Copy known (arrayOf _ valid.tempData) (arrayOf _ valid.serverTempData) ⟨start,io,[]⟩ ⟨exchange.server,twin,[]⟩ := by
    refine ⟨_,_,rfl,rfl,?_⟩
    rw [tempIo_received valid.tempData,tempIo_received valid.serverTempData]
    exact received_copy twins.dataSize rfl bytes
  cases has : exchange.data with
  | none =>
    refine ⟨nowhere,nowhere,⟨⟨rfl,by decide,by decide⟩,twins,fun _ held => absurd held holds_nowhere,fun _ held => absurd held holds_nowhere⟩,?_,
      reply⟩
    have delivers := valid.request
    rw [has] at delivers
    simp only [Exchange.here,has,Option.map_none]
    refine .null ⟨?_,?_⟩
    · exact delivers.dataSize
    · simp only [toIpcData,delivers.offsetsSize,toTransData,Option.map_none,Option.getD_none]
      decide
  | some io =>
    obtain ⟨region,usable,apart⟩ := valid.data io has
    have delivers := valid.request
    rw [has] at delivers
    have flags := usable.available
    rw [ipcIoAvailable,Bool.and_eq_true,Bool.not_eq_true'] at flags
    have table : io.offsetsBase ≠ 0 := usable.cursors.offsetsBase ▸ usable.table
    refine ⟨usedPart region io usable.cursors,exchange.area,⟨delivered_twins usable.cursors rfl usable.table table delivers,twins,?_,?_⟩,?_,reply⟩
    · exact fun x held also => holds_array also (apart x (holds_usedPart held))
    · exact fun x held also => holds_array also (valid.area x held)
    · simp only [Exchange.here,Exchange.there,has,Option.map_some]
      refine .copy ?_
      rw [rewind_received usable.cursors flags.1 flags.2]
      refine delivered_copy usable.cursors ⟨rfl,rfl⟩ usable.whole usable.small delivers ?_
      intro _ i inside
      rw [usable.cursors.base]
      have base := usable.cursors.base
      have stop := usable.cursors.stop
      simp only [usedBuffer] at inside
      exact outside _ (apart _ (.inl ⟨Nat.le_add_right ..,by simp only; omega⟩))

theorem ends (valid : exchange.Valid platform stub handle) (outside : ∀ x, Exchange.Outside exchange.tempData x → start x = exchange.memory x)
    {known : Prop} (bytes : known → SameBytes (arrayOf _ valid.tempData) (arrayOf _ valid.serverTempData) start exchange.server) :
    ((stub exchange.code).run platform (exchange.here start)).1 = ((stub exchange.code).run platform exchange.there).1 ∧
      ∃ io twin, ((stub exchange.code).run platform (exchange.here start)).2.reply = some io ∧
        ((stub exchange.code).run platform exchange.there).2.reply = some twin ∧
          Copy known (arrayOf _ valid.tempData) (arrayOf _ valid.serverTempData)
            ⟨((stub exchange.code).run platform (exchange.here start)).2.memory,io,[]⟩
            ⟨((stub exchange.code).run platform exchange.there).2.memory,twin,[]⟩ := by
  obtain ⟨input,input',layout,related⟩ := begins valid outside bytes
  obtain ⟨same,after⟩ := @handler_related platform _ _ _ _ _ _ _ layout (stub exchange.code) related
  exact ⟨same,after.reply⟩

theorem handled_sends (valid : exchange.Valid platform stub handle) {twin : IpcIo}
    (reply : ((stub exchange.code).run platform exchange.there).2.reply = some twin) :
    exchange.handled platform stub = (((stub exchange.code).run platform exchange.there).2.memory.store exchange.status
      ((stub exchange.code).run platform exchange.there).1,some (sendReply twin exchange.status)) := by
  have code : exchange.request.code = exchange.code := valid.request.code
  have flags : exchange.request.flags = tfOpSync := valid.request.flags
  simp only [Exchange.there] at reply
  rw [Exchange.handled,handleTransaction,code,flags]
  simp only [Exchange.there,reply,Option.map_some]
  rw [if_neg (by decide)]

theorem replied (valid : exchange.Valid platform stub handle) {memory : Memory} {io twin : IpcIo} {known : Prop}
    (reply : ((stub exchange.code).run platform exchange.there).2.reply = some twin) (nonempty : twin.bufferBase < twin.bufferCur)
    (copy : Copy known (arrayOf _ valid.tempData) (arrayOf _ valid.serverTempData) ⟨memory,io,[]⟩
      ⟨((stub exchange.code).run platform exchange.there).2.memory,twin,[]⟩) :
    Copy known (usedPart _ io copy.io.left) exchange.back ⟨memory,received (usedPart _ io copy.io.left),[]⟩
      ⟨exchange.later,toIpcData exchange.answer,[]⟩ ∧ Twins (usedPart _ io copy.io.left) exchange.back := by
  have aligned : Aligned _ _ io twin := copy.io
  have sends := handled_sends valid reply
  have delivers := valid.answer (sendReply twin exchange.status) (by rw [sends])
  rw [sends,sendReply,if_pos nonempty] at delivers
  dsimp only at delivers
  have used := aligned_used aligned
  have whole : sizeSize ∣ io.offsetsCur-io.offsetsBase := by
    rw [aligned.left.offsetsBase]
    exact aligned.whole
  have table : twin.offsetsBase ≠ 0 := by
    rw [aligned.right.offsetsBase]
    exact Nat.ne_of_gt valid.serverTempData
  refine ⟨delivered_copy aligned.left used whole (show maxObjNum*sizeSize < 2^63 by decide) delivers ?_,
    delivered_twins aligned.left used.1 (Nat.ne_of_gt valid.tempData) table delivers⟩
  intro sure i inside
  have base := aligned.left.base
  have base' := aligned.right.base
  have stop := aligned.left.stop
  have size : (arrayOf _ valid.tempData).dataSize = 7936 := rfl
  have place : (arrayOf _ valid.serverTempData).data = exchange.serverTempData+256 := rfl
  simp only [usedBuffer] at inside
  -- the result lies outside the array
  have apart : (((stub exchange.code).run platform exchange.there).2.memory.store exchange.status
      ((stub exchange.code).run platform exchange.there).1) (twin.bufferBase+i) =
        ((stub exchange.code).run platform exchange.there).2.memory (twin.bufferBase+i) := by
    apply Memory.writeBytes_outside
    rw [Word.bytes_length]
    have status := valid.status
    simp only [maxIoSize] at status
    simp only [Word.width]
    omega
  rw [apart,base']
  exact copy.bytes sure i (by omega)

/-- The requester's memory with what the other array holds in its own. -/
def likeServer (exchange : Exchange) : Memory := fun x =>
  if exchange.tempData ≤ x ∧ x < exchange.tempData+maxIoSize then exchange.server (exchange.serverTempData+(x-exchange.tempData))
  else exchange.memory x

theorem likeServer_outside {x : Nat} (outside : Exchange.Outside exchange.tempData x) : likeServer exchange x = exchange.memory x := by
  simp only [Exchange.Outside] at outside
  rw [likeServer,if_neg (by omega)]

theorem likeServer_same (valid : exchange.Valid platform stub handle) :
    SameBytes (arrayOf _ valid.tempData) (arrayOf _ valid.serverTempData) (likeServer exchange) exchange.server := by
  intro i inside
  have size : (arrayOf _ valid.tempData).dataSize = 7936 := rfl
  have place : (arrayOf _ valid.tempData).data = exchange.tempData+256 := rfl
  have place' : (arrayOf _ valid.serverTempData).data = exchange.serverTempData+256 := rfl
  rw [likeServer,place,place',if_pos ⟨by omega,by simp only [maxIoSize]; omega⟩]
  congr 1
  omega

/-- The two requests. -/
def inProcess (exchange : Exchange) (platform : Platform) (target : SvcIdentity) (stub : OnRemoteRequest) (start : Memory) : Option Answer :=
  ipcSendRequest platform target (some stub) exchange.code exchange.data (some exchange.reply) tfOpSync true start exchange.tempData []

def throughDriver (exchange : Exchange) (platform : Platform) (target : SvcIdentity) : Option Answer :=
  ipcSendRequest platform target none exchange.code exchange.data (some exchange.reply) tfOpSync true exchange.later exchange.tempData
    exchange.returns

theorem inProcess_ends (valid : exchange.Valid platform stub handle) {target : SvcIdentity} (own : target.handle < 0) {io : IpcIo}
    (reply : ((stub exchange.code).run platform (exchange.here start)).2.reply = some io) :
    inProcess exchange platform target stub start = some ⟨((stub exchange.code).run platform (exchange.here start)).1,
      ((stub exchange.code).run platform (exchange.here start)).2.memory,some (rewind io)⟩ := by
  have data : exchange.data.map (fun io => if ipcIoAvailable io then rewind io else io) = exchange.data.map rewind := by
    cases has : exchange.data with
    | none => rfl
    | some io =>
      obtain ⟨region,usable,-⟩ := valid.data io has
      rw [Option.map_some,Option.map_some,if_pos usable.available]
  simp only [inProcess,ipcSendRequest,if_pos own,internalRequest,data,Option.map_some,if_true]
  simp only [Exchange.here] at reply ⊢
  rw [reply,Option.map_some]

theorem throughDriver_ends (valid : exchange.Valid platform stub handle) {target : SvcIdentity} (remote : 0 ≤ target.handle) :
    throughDriver exchange platform target = some ⟨0,exchange.later,some (toIpcData exchange.answer)⟩ := by
  have sync : tfOpSync ≠ tfOpAsync := by decide
  simp only [throughDriver,ipcSendRequest,if_neg (Int32.not_lt.mpr remote),if_pos sync,waitForReply_answers valid.returns,Option.map_some]

theorem empty_replied (valid : exchange.Valid platform stub handle) {twin : IpcIo}
    (reply : ((stub exchange.code).run platform exchange.there).2.reply = some twin) (empty : ¬ twin.bufferCur > twin.bufferBase) :
    (toIpcData exchange.answer).bufferLeft = 4 := by
  have sends := handled_sends valid reply
  have delivers := valid.answer (sendReply twin exchange.status) (by rw [sends])
  rw [sendReply,if_neg empty] at delivers
  exact delivers.dataSize

theorem byte_read {memory : Memory} {region : Region} (nonempty : 0 < region.dataSize) :
    readAll platform memory (received region) [.plain .boolUnaligned trivial] ≠ [none] := by
  have popped := @ioPopUnaligned_run (Word.width Bool) ⟨memory,received region,[]⟩ rfl nonempty
  have yields : (readWordUnaligned Bool ⟨memory,received region,[]⟩).1 = some (memory.load Bool region.data) := by
    rw [readWordUnaligned,bind_some popped]
    rfl
  intro same
  have read : ((ReadCall.plain .boolUnaligned trivial).run platform ⟨memory,received region,[]⟩).1 = none := (List.cons.inj same).1
  simp only [ReadCall.run,Kind.read,map_fst,readBoolUnaligned,yields] at read
  cases read

theorem overflowed_read {memory : Memory} {io : IpcIo} (overflow : io.overflow = true) :
    readAll platform memory io [.plain .boolUnaligned trivial] = [none] := by
  have closed : Closed ((ReadCall.plain .boolUnaligned trivial).run platform) := ((closed_readWordUnaligned Bool).bind _).bind _
  simp only [readAll,(closed ⟨memory,io,[]⟩ overflow).1]

theorem agrees_of_fulfils (valid : exchange.Valid platform stub handle) {target remote : SvcIdentity} (own : target.handle < 0)
    (other : 0 ≤ remote.handle) (fulfils : Fulfils platform (stub exchange.code) (exchange.here exchange.memory)) :
    Agrees platform exchange.tempData exchange.memory (inProcess exchange platform target stub) (throughDriver exchange platform remote) := by
  obtain ⟨zero,first,had,nonempty,sound⟩ := fulfils
  -- the run of the statement, next to the one in the other process
  obtain ⟨result,io,twin,reply,reply',copy⟩ := @ends platform stub exchange handle exchange.memory valid (fun _ _ => rfl) False False.elim
  rw [had] at reply
  cases reply
  have aligned : Aligned _ _ first twin := copy.io
  have some_ : twin.bufferBase < twin.bufferCur := by
    have used := (aligned_used aligned).1
    simp only [usedBuffer] at used
    omega
  have whole : twin.overflow = false := aligned.overflow ▸ sound
  have driver := throughDriver_ends valid other
  refine ⟨?_,?_⟩
  · intro start outside
    obtain ⟨result',io,twin',reply,again,copy'⟩ := @ends platform stub exchange handle start valid outside False False.elim
    rw [reply'] at again
    cases again
    obtain ⟨copied,-⟩ := replied valid reply' some_ copy'
    refine ⟨_,_,rewind io,toIpcData exchange.answer,inProcess_ends valid own reply,driver,?_,rfl,rfl,copied.io.bufferLeft⟩
    exact result'.trans (result.symm.trans zero)
  · intro calls outcomes reads
    -- what the first reply reads as does not depend on what the array held: it may have held what the other one did
    obtain ⟨-,io,twin',reply,again,copy'⟩ := @ends platform stub exchange handle (likeServer exchange) valid
      (fun _ => likeServer_outside) True (fun _ => likeServer_same valid)
    rw [reply'] at again
    cases again
    obtain ⟨copied,twins⟩ := replied valid reply' some_ copy'
    obtain ⟨ended,answer,same,there,read⟩ := reads (likeServer exchange) (fun _ => likeServer_outside)
    rw [inProcess_ends valid own reply] at same
    cases same
    cases there
    have aligned' : Aligned _ _ io twin := copy'.io
    have clean : io.overflow = false := aligned'.overflow.trans whole
    refine ⟨_,_,driver,rfl,?_⟩
    rw [← read,rewind_received aligned'.left aligned'.initialized.1 clean]
    exact (readAll_copy twins calls copied).symm

theorem fulfils_of_agrees (valid : exchange.Valid platform stub handle) {target remote : SvcIdentity} (own : target.handle < 0)
    (other : 0 ≤ remote.handle) (agrees : Agrees platform exchange.tempData exchange.memory (inProcess exchange platform target stub)
      (throughDriver exchange platform remote)) : Fulfils platform (stub exchange.code) (exchange.here exchange.memory) := by
  have driver := throughDriver_ends valid other
  obtain ⟨-,io,twin,reply,reply',copy⟩ := @ends platform stub exchange handle exchange.memory valid (fun _ _ => rfl) False False.elim
  have aligned : Aligned _ _ io twin := copy.io
  have used := (aligned_used aligned).1
  obtain ⟨ended,answer,rewound,delivered,same,same',results,there,there',left⟩ := agrees.ends exchange.memory (fun _ _ => rfl)
  rw [inProcess_ends valid own reply] at same
  cases same
  cases there
  rw [driver] at same'
  cases same'
  cases there'
  have nonempty : twin.bufferBase < twin.bufferCur := by
    by_contra empty
    have four := empty_replied valid reply' empty
    simp only [usedBuffer] at used
    rw [← left] at four
    simp only [rewind,usedBuffer] at four
    omega
  obtain ⟨copied,-⟩ := replied valid reply' nonempty copy
  have more : io.bufferBase < io.bufferCur := by
    simp only [usedBuffer] at used
    omega
  refine ⟨results,io,reply,more,Bool.eq_false_of_not_eq_true fun overflow => ?_⟩
  -- nothing is read of the first reply, and a byte of the second
  have read := agrees.reads [.plain .boolUnaligned trivial] [none] ?_
  · obtain ⟨_,_,same,there,read⟩ := read
    rw [driver] at same
    cases same
    cases there
    have sends := handled_sends valid reply'
    have delivers := valid.answer (sendReply twin exchange.status) (by rw [sends])
    rw [toIpcData_received delivers] at read
    refine byte_read ?_ read
    rw [delivers.dataSize',sendReply,if_pos nonempty]
    simp only [toTransData,Option.map_some,Option.getD_some,usedBuffer]
    omega
  · intro start outside
    obtain ⟨-,io',twin',reply'',again,copy'⟩ := @ends platform stub exchange handle start valid outside False False.elim
    rw [reply'] at again
    cases again
    have aligned' : Aligned _ _ io' twin := copy'.io
    refine ⟨_,_,inProcess_ends valid own reply'',rfl,overflowed_read ?_⟩
    exact aligned'.overflow.trans (aligned.overflow.symm.trans overflow)

end Exchanges

/-- For every function of a stub and every synchronous request, the request to the stub in the process and the one through the
driver agree if and only if the function returns 0 and leaves a reply that is not empty and has not overflowed. -/
theorem requests_agree_iff (platform : Platform) (stub : OnRemoteRequest) (exchange : Exchange) {target remote : SvcIdentity}
    (own : target.handle < 0) (other : 0 ≤ remote.handle) (valid : exchange.Valid platform stub remote.handle.toUInt32) :
    Agrees platform exchange.tempData exchange.memory (inProcess exchange platform target stub) (throughDriver exchange platform remote) ↔
      Fulfils platform (stub exchange.code) (exchange.here exchange.memory) :=
  ⟨fulfils_of_agrees valid own other,agrees_of_fulfils valid own other⟩

/-! A request with one integer. -/

def plainPlatform : Platform := ⟨fun _ _ => .done,fun _ _ => .done,fun _ => true⟩

/-- A byte at an address. -/
def byteAt (address : Nat) (byte : UInt8) : Memory := fun x => if x = address then byte else 0

def fourBytes (address : Nat) : Region := ⟨address,4,address+100,0,.inl (by omega),by decide⟩

/-- The integer is 7; the first byte that comes back is `byte`. -/
def oneInteger (byte : UInt8) (answer : BinderTransactionData) : Exchange where
  code := 1
  data := some ⟨1000,900,1004,900,60,2,true,false⟩
  reply := tempIo 40000
  memory := byteAt 1000 7
  tempData := 20000
  server := byteAt 2000 7
  request := ⟨0,1,tfOpSync,4,2000,0,2100⟩
  area := fourBytes 2000
  serverTempData := 10000
  status := 30000
  later := byteAt 3000 byte
  answer := answer
  back := fourBytes 3000
  returns := [some [.noop],some [.noop,.reply answer]]

theorem oneInteger_valid {stub : OnRemoteRequest} {handle : UInt32} {byte : UInt8} {answer sent : BinderTransactionData}
    (sends : ((oneInteger byte answer).handled plainPlatform stub).2 = some sent)
    (delivers : Delivers sent ((oneInteger byte answer).handled plainPlatform stub).1 (fourBytes 3000) answer (byteAt 3000 byte)) :
    (oneInteger byte answer).Valid plainPlatform stub handle := by
  have small : ∀ {address x : Nat}, (fourBytes address).Holds x → address ≤ x ∧ x ≤ address+104 := by
    rintro address x (⟨low,high⟩ | ⟨low,high⟩)
    · simp only [fourBytes] at low high
      omega
    · simp only [fourBytes,sizeSize] at low high
      omega
  refine ⟨show 0 < 20000 by decide,show 0 < 10000 by decide,?_,⟨rfl,rfl,rfl,rfl,rfl,rfl,show 0 = ioAlign 0 by decide,show 0 = ioAlign 0/sizeSize by decide,?_,?_⟩,?_,
    .inr (show 10000+maxIoSize ≤ 30000 by decide),?_,?_⟩
  · intro io same
    cases same
    refine ⟨⟨1000,64,900,2,.inr (by decide),by decide⟩,⟨⟨rfl,by decide,by decide,rfl,by decide,by decide⟩,rfl,by decide,by decide,by decide⟩,?_⟩
    rintro x (⟨low,high⟩ | ⟨low,high⟩)
    · exact .inl (show x < 20000 by simp only at low high; omega)
    · exact .inl (show x < 20000 by simp only [sizeSize] at low high; omega)
  · exact fun _ => show 2000+100 ≠ 0 by decide
  · exact show ∀ i, i < 4 → byteAt 2000 7 (2000+i) = byteAt 1000 7 (1000+i) by decide
  · intro x held
    have bounds := small held
    exact .inl (show x < 10000 by omega)
  · intro other same
    rw [sends] at same
    cases same
    exact delivers
  · exact .waits 1 (.now 1 0 [])

/-- Sends back what it is given. -/
def echo : OnRemoteRequest := fun _ => .reads (.plain .int32 trivial) fun value =>
  match value with
  | some (.item item) => .writes (.plain item) fun _ => .ends 0
  | _ => .ends 1

def echoed : BinderTransactionData := ⟨0,0,0,4,3000,0,3100⟩

theorem requests_agree_echo :
    (oneInteger 7 echoed).Valid plainPlatform echo (5 : Int32).toUInt32 ∧
      Agrees plainPlatform 20000 (byteAt 1000 7) (inProcess (oneInteger 7 echoed) plainPlatform ⟨-1,0,0⟩ echo)
        (throughDriver (oneInteger 7 echoed) plainPlatform ⟨5,0,0⟩) := by
  have sends : ((oneInteger 7 echoed).handled plainPlatform echo).2 = some ⟨0,0,0,4,10256,0,10000⟩ := by decide +kernel
  have valid : (oneInteger 7 echoed).Valid plainPlatform echo (5 : Int32).toUInt32 :=
    oneInteger_valid sends ⟨rfl,rfl,rfl,rfl,rfl,rfl,rfl,rfl,fun _ => by decide,by decide +kernel⟩
  refine ⟨valid,(requests_agree_iff plainPlatform echo (oneInteger 7 echoed) (by decide) (by decide) valid).mpr ?_⟩
  exact ⟨by decide +kernel,⟨20256,20000,20260,20000,7932,32,true,false⟩,by decide +kernel,by decide,rfl⟩

/-- Refuses, and leaves no reply. -/
def refusing : OnRemoteRequest := fun _ => .ends 5

def statusReply : BinderTransactionData := ⟨0,0,tfOpStatusCode,4,3000,0,3100⟩

theorem refusal_lost :
    (oneInteger 5 statusReply).Valid plainPlatform refusing (5 : Int32).toUInt32 ∧
      ¬ Agrees plainPlatform 20000 (byteAt 1000 7) (inProcess (oneInteger 5 statusReply) plainPlatform ⟨-1,0,0⟩ refusing)
        (throughDriver (oneInteger 5 statusReply) plainPlatform ⟨5,0,0⟩) := by
  have sends : ((oneInteger 5 statusReply).handled plainPlatform refusing).2 = some ⟨0,0,tfOpStatusCode,4,30000,0,0⟩ := by decide +kernel
  have valid : (oneInteger 5 statusReply).Valid plainPlatform refusing (5 : Int32).toUInt32 :=
    oneInteger_valid sends ⟨rfl,rfl,rfl,rfl,rfl,rfl,rfl,rfl,fun _ => by decide,by decide +kernel⟩
  refine ⟨valid,?_⟩
  intro agrees
  obtain ⟨ended,other,io,twin,same,same',results,-,-,left⟩ := agrees.ends (byteAt 1000 7) (fun _ _ => rfl)
  have five : (inProcess (oneInteger 5 statusReply) plainPlatform ⟨-1,0,0⟩ refusing (byteAt 1000 7)).map Answer.result = some 5 := by
    decide +kernel
  have zero : (throughDriver (oneInteger 5 statusReply) plainPlatform ⟨5,0,0⟩).map Answer.result = some 0 := by decide +kernel
  rw [same,Option.map_some,results] at five
  rw [same',Option.map_some] at zero
  cases five.symm.trans zero

end CommunicationIpc.IpcCalls
