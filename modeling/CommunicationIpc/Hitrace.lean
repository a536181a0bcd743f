import CommunicationIpc.CommandStream
import CommunicationIpc.Kernel.Hitrace

/-! What the trace identifier leaves of a transaction: which data comes out of `TraceServerReceive` as it went into
`TraceClientSend`, and what becomes of data with a trailer that nobody wrote. -/
namespace CommunicationIpc.Hitrace
open CommunicationIpc.Library CommunicationIpc.Kernel.Hitrace
open CommunicationIpc.Kernel.BinderTransaction (tfHitrace)

section Sender
variable {handle : Int32} {data : List UInt8} {flags : UInt32} {traceId : ThreadTrace} {sending : Sending}

def Traced (handle : Int32) (flags : UInt32) (traceId : ThreadTrace) (sending : Sending) : Prop :=
  isClientTraced handle flags traceId = true ∧ sending.isOwner = true

def Written (sending : Sending) : Prop :=
  sending.toBytes = hitraceIdLen ∧ sending.writeBuffer = true ∧ sending.writeUint8 = true

def Appends (handle : Int32) (flags : UInt32) (traceId : ThreadTrace) (sending : Sending) : Prop :=
  Traced handle flags traceId sending ∧ Written sending

theorem writeBuffer_id (data : List UInt8) (id : HiTraceId) : Kernel.CommandStream.Parcel.writeBuffer data id.bytes = data ++ id.bytes :=
  CommandStream.writeBuffer_aligned data (by rw [id.size]; decide)

theorem traceClientSend_appends (appends : Appends handle flags traceId sending) :
    traceClientSend handle data flags traceId sending =
      (data ++ (sending.childId.bytes ++ toLE 4 hitraceIdLen),flags ||| tfHitrace) := by
  obtain ⟨⟨traced,owner⟩,whole,buffer,word⟩ := appends
  have length : (data ++ sending.childId.bytes).length-data.length = hitraceIdLen := by
    rw [List.length_append,sending.childId.size,Nat.add_sub_cancel_left]
  rw [traceClientSend,if_pos ⟨traced,owner⟩,if_neg (not_not_intro whole),if_neg (not_not_intro buffer)]
  simp only [word,not_true_eq_false,if_false,writeBuffer_id,writeUint8,length,List.append_assoc]
  rfl

/-- A sender that gives up takes back what it wrote, and leaves the flags as the caller set them. -/
theorem traceClientSend_givesUp (traced : Traced handle flags traceId sending) (failed : ¬ Written sending) :
    traceClientSend handle data flags traceId sending = (data,flags) := by
  unfold Traced at traced
  rw [traceClientSend,if_pos traced]
  split
  · rfl
  · rename_i whole
    split
    · rw [Kernel.CommandStream.Parcel.rewindWrite,List.take_length]
    · rename_i buffer
      have word : ¬ sending.writeUint8 = true := fun word => failed ⟨not_not.mp whole,not_not.mp buffer,word⟩
      rw [if_pos word,writeBuffer_id,Kernel.CommandStream.Parcel.rewindWrite,List.take_left]

theorem without_clear (clear : flags &&& tfHitrace = 0) : flags &&& ~~~tfHitrace = flags := by
  have every : ~~~tfHitrace ||| tfHitrace = -1 := rfl
  calc
    flags &&& ~~~tfHitrace = flags &&& ~~~tfHitrace ||| flags &&& tfHitrace := by rw [clear,UInt32.or_zero]
    _ = flags &&& (~~~tfHitrace ||| tfHitrace) := (UInt32.toBitVec_inj.1 BitVec.and_or_distrib_left).symm
    _ = flags := by rw [every,UInt32.and_neg_one]

theorem traceClientSend_untraced (untraced : ¬ Traced handle flags traceId sending) :
    traceClientSend handle data flags traceId sending = (data,flags &&& ~~~tfHitrace) := by
  unfold Traced at untraced
  rw [traceClientSend,if_neg untraced]
  split
  · rfl
  · rename_i clear
    rw [without_clear (not_not.mp clear)]

end Sender

theorem cleared (flags : UInt32) : flags &&& ~~~tfHitrace &&& tfHitrace = 0 := by
  rw [UInt32.and_assoc]
  exact UInt32.and_zero

theorem flagged (flags : UInt32) : (flags ||| tfHitrace) &&& tfHitrace ≠ 0 := by
  have kept : (flags ||| tfHitrace) &&& tfHitrace = tfHitrace := by
    apply UInt32.toBitVec_inj.1
    rw [UInt32.toBitVec_and,UInt32.toBitVec_or]
    ext i bound
    simp only [BitVec.getElem_and,BitVec.getElem_or,Bool.and_eq_right_iff_imp,Bool.or_eq_true]
    exact Or.inr
  rw [kept]
  decide

section Receiver
variable {bytes : List UInt8} {parcel : Parcel} {reader : Parcel.StringReader} {flags : UInt32}

/-- A parcel that holds the bytes, read only where they are. -/
structure Reading (bytes : List UInt8) (parcel : Parcel) : Prop where
  holds : parcel.bytes = bytes
  within : ∀ read ∈ parcel.reads, read.1+read.2 ≤ bytes.length

theorem Reading.rewindRead (reading : Reading bytes parcel) (position : Nat) : Reading bytes (parcel.rewindRead position) := by
  unfold Parcel.rewindRead
  split
  · exact reading
  · exact ⟨reading.holds,reading.within⟩

theorem Reading.readUnpadBuffer (reading : Reading bytes parcel) (length : Nat) : Reading bytes (parcel.readUnpadBuffer length).2 := by
  unfold Parcel.readUnpadBuffer
  split
  · exact reading
  · rename_i room
    refine ⟨reading.holds,?_⟩
    intro read member
    rcases List.mem_append.mp member with before | last
    · exact reading.within read before
    · rw [List.mem_singleton.mp last,← reading.holds]
      exact Nat.le_of_not_lt room

theorem Reading.readInterfaceToken (reading : Reading bytes parcel) (reader : Parcel.StringReader) : Reading bytes (parcel.readInterfaceToken reader) :=
  ((reading.readUnpadBuffer 4).readUnpadBuffer 4).readUnpadBuffer _

theorem Reading.rewindRead_eq {position : Nat} (reading : Reading bytes parcel) (before : position ≤ bytes.length) :
    parcel.rewindRead position = ⟨bytes,position,parcel.reads⟩ := by
  have size : parcel.dataSize = bytes.length := congrArg List.length reading.holds
  rw [Parcel.rewindRead,size,if_neg (Nat.not_lt.mpr before),reading.holds]

theorem Reading.readUnpadBuffer_eq {length : Nat} (reading : Reading bytes parcel) (room : parcel.readCursor+length ≤ bytes.length) :
    parcel.readUnpadBuffer length = (some ((bytes.drop parcel.readCursor).take length),
      ⟨bytes,parcel.readCursor+length,parcel.reads ++ [(parcel.readCursor,length)]⟩) := by
  have size : parcel.dataSize = bytes.length := congrArg List.length reading.holds
  rw [Parcel.readUnpadBuffer,size,if_neg (Nat.not_lt.mpr room),reading.holds]

def idLenOf (bytes : List UInt8) : Nat := ofLE (bytes.drop (bytes.length-4)) % 256

theorem recoveryDataAndFlag_removes {idLen position : Nat} (reading : Reading bytes parcel) (room : idLen+4 ≤ bytes.length)
    (before : position ≤ bytes.length) :
    recoveryDataAndFlag parcel flags position idLen =
      (⟨bytes.take (bytes.length-4-idLen),position,parcel.reads⟩,flags &&& ~~~tfHitrace) := by
  have size : parcel.dataSize = bytes.length := congrArg List.length reading.holds
  rw [recoveryDataAndFlag,paddedSizeOfParcel,size,if_neg (Nat.not_lt.mpr room),reading.rewindRead_eq before]
  rfl

theorem recoveryDataAndFlag_leaves {idLen : Nat} (reading : Reading bytes parcel) (room : bytes.length < idLen+4) (position : Nat) :
    recoveryDataAndFlag parcel flags position idLen = (parcel,flags) := by
  have size : parcel.dataSize = bytes.length := congrArg List.length reading.holds
  rw [recoveryDataAndFlag,paddedSizeOfParcel,size,if_pos room]

section Flagged
variable {position : Nat}

theorem receive_short (on : flags &&& tfHitrace ≠ 0) (short : bytes.length < 4) :
    traceServerReceive reader ⟨bytes,position,[]⟩ flags = ⟨false,none,⟨bytes,position,[]⟩,flags⟩ := by
  rw [traceServerReceive,if_neg on]
  exact if_pos short

def counted (bytes : List UInt8) : Parcel := ⟨bytes,bytes.length,[(bytes.length-4,4)]⟩

theorem counted_reading (long : 4 ≤ bytes.length) : Reading bytes (counted bytes) where
  holds := rfl
  within := by
    intro read member
    rw [List.mem_singleton.mp member]
    exact Nat.le_of_eq (Nat.sub_add_cancel long)

theorem count_idLen (long : 4 ≤ bytes.length) :
    ((⟨bytes,position,[]⟩ : Parcel).rewindRead (bytes.length-4)).readUint8 = (idLenOf bytes,counted bytes) := by
  have reading : Reading bytes (⟨bytes,bytes.length-4,[]⟩ : Parcel) := ⟨rfl,by intro read member; cases member⟩
  have whole : (bytes.drop (bytes.length-4)).take 4 = bytes.drop (bytes.length-4) :=
    List.take_of_length_le (by rw [List.length_drop]; omega)
  have from_start : Reading bytes (⟨bytes,position,[]⟩ : Parcel) := ⟨rfl,reading.within⟩
  have room : bytes.length-4+4 ≤ bytes.length := Nat.le_of_eq (Nat.sub_add_cancel long)
  rw [from_start.rewindRead_eq (Nat.sub_le _ _),Parcel.readUint8,reading.readUnpadBuffer_eq room]
  simp only [whole,Nat.sub_add_cancel long,idLenOf,counted,List.nil_append]

/-- A trailer that is too short for an identifier is removed all the same, and one that is too long is not, but the parcel is
left read to its end. -/
theorem receive_malformed (reader : Parcel.StringReader) (position : Nat) (on : flags &&& tfHitrace ≠ 0) (long : 4 ≤ bytes.length)
    (malformed : ¬ (hitraceIdLen ≤ idLenOf bytes ∧ idLenOf bytes ≤ bytes.length-4)) :
    traceServerReceive reader ⟨bytes,position,[]⟩ flags =
      let recovered := recoveryDataAndFlag (counted bytes) flags position (idLenOf bytes)
      ⟨true,none,recovered.1,recovered.2⟩ := by
  rw [traceServerReceive,if_neg on]
  simp only [Parcel.dataSize,paddedSizeOfParcel,if_neg (Nat.not_lt.mpr long),count_idLen long,if_neg malformed]

theorem receive_wellFormed (on : flags &&& tfHitrace ≠ 0) (long : 4 ≤ bytes.length) (before : position ≤ bytes.length)
    (least : hitraceIdLen ≤ idLenOf bytes) (most : idLenOf bytes ≤ bytes.length-4) :
    ∃ reads, Reading bytes ⟨bytes,position,reads⟩ ∧ traceServerReceive reader ⟨bytes,position,[]⟩ flags =
      ⟨true,HiTraceId.ofBytes ((bytes.drop (bytes.length-4-idLenOf bytes)).take hitraceIdLen),
        ⟨bytes.take (bytes.length-4-idLenOf bytes),position,reads⟩,flags &&& ~~~tfHitrace⟩ := by
  have read := counted_reading long
  have start : bytes.length-4-idLenOf bytes ≤ bytes.length := by omega
  have room : bytes.length-4-idLenOf bytes+hitraceIdLen ≤ bytes.length := by omega
  have marked := read.rewindRead (bytes.length-4-idLenOf bytes)
  rw [read.rewindRead_eq start] at marked
  have found := marked.readUnpadBuffer hitraceIdLen
  rw [marked.readUnpadBuffer_eq room] at found
  have token := (found.rewindRead position).readInterfaceToken reader
  dsimp only at token
  refine ⟨_,⟨rfl,token.within⟩,?_⟩
  rw [traceServerReceive,if_neg on]
  simp only [Parcel.dataSize,paddedSizeOfParcel,if_neg (Nat.not_lt.mpr long),count_idLen long,if_pos (And.intro least most)]
  have size : (counted bytes).bytes.length = bytes.length := rfl
  rw [size,read.rewindRead_eq start,marked.readUnpadBuffer_eq room]
  dsimp only
  rw [recoveryDataAndFlag_removes token (show idLenOf bytes+4 ≤ bytes.length by omega) before]

/-- The flag goes exactly when the data holds what its last word counts. -/
theorem receive_flags (reader : Parcel.StringReader) (process : Kernel.BinderTransaction.Process)
    (recovered : process.traceRecovered = decide (idLenOf bytes+4 ≤ bytes.length)) (before : position ≤ bytes.length) :
    (traceServerReceive reader ⟨bytes,position,[]⟩ flags).flags = Kernel.BinderTransaction.traceServerReceive process flags := by
  rw [Kernel.BinderTransaction.traceServerReceive,recovered]
  by_cases on : flags &&& tfHitrace ≠ 0
  · by_cases room : idLenOf bytes+4 ≤ bytes.length
    · have long : 4 ≤ bytes.length := by omega
      rw [if_pos ⟨on,decide_eq_true room⟩]
      by_cases whole : hitraceIdLen ≤ idLenOf bytes ∧ idLenOf bytes ≤ bytes.length-4
      · obtain ⟨reads,-,received⟩ := receive_wellFormed on long before whole.1 whole.2
        rw [received]
      · rw [receive_malformed reader position on long whole,recoveryDataAndFlag_removes (counted_reading long) room before]
    · rw [if_neg fun given => room (of_decide_eq_true given.2)]
      by_cases long : 4 ≤ bytes.length
      · rw [receive_malformed reader position on long (by omega),
          recoveryDataAndFlag_leaves (counted_reading long) (Nat.lt_of_not_le room)]
      · rw [receive_short on (Nat.lt_of_not_le long)]
  · rw [if_neg fun given => on given.1,traceServerReceive,if_pos (not_not.mp on)]

end Flagged

end Receiver

section Transparent
variable (reader : Parcel.StringReader)

/-- Data that is sent with the flag arrives without it as it was, wherever the receiver has read to, and with the identifier; and
data that is sent without the flag is as it was. -/
def SendTransparent (handle : Int32) (data : List UInt8) (flags : UInt32) (traceId : ThreadTrace) (sending : Sending) : Prop :=
  let (sent,newFlags) := traceClientSend handle data flags traceId sending
  if newFlags &&& tfHitrace ≠ 0 then
    ∀ position ≤ data.length,
      let received := traceServerReceive reader ⟨sent,position,[]⟩ newFlags
      received.traceId = some sending.childId ∧ received.flags = newFlags &&& ~~~tfHitrace ∧
        received.data.bytes = data ∧ received.data.readCursor = position
  else sent = data

/-- An identifier, and behind it the word that counts its bytes. -/
def WellFormed (trailer : List UInt8) : Prop :=
  ∃ id word : List UInt8, trailer = id ++ word ∧ word.length = 4 ∧ hitraceIdLen ≤ id.length ∧ ofLE word % 256 = id.length

/-- The receiver reads inside the data, and removes a trailer or leaves the data as received. -/
def ReceiveClean (bytes : List UInt8) (position : Fin (bytes.length+1)) (flags : UInt32) : Prop :=
  flags &&& tfHitrace ≠ 0 →
    let received := (traceServerReceive reader (.parseFrom bytes position) flags).data
    (∀ read ∈ received.reads, read.1+read.2 ≤ bytes.length) ∧
      ((∃ trailer, WellFormed trailer ∧ bytes = received.bytes ++ trailer ∧ received.readCursor = position) ∨
        (received.bytes = bytes ∧ received.readCursor = position))

section Sent
variable {handle : Int32} {data : List UInt8} {flags : UInt32} {traceId : ThreadTrace} {sending : Sending}

theorem ofBytes_self (id : HiTraceId) : HiTraceId.ofBytes id.bytes = some id := by
  rw [HiTraceId.ofBytes,dif_pos id.size]

theorem send_appended (appends : Appends handle flags traceId sending) : SendTransparent reader handle data flags traceId sending := by
  rw [SendTransparent,traceClientSend_appends appends]
  simp only [if_pos (flagged flags)]
  intro position before
  generalize bytes_eq : data ++ (sending.childId.bytes ++ toLE 4 hitraceIdLen) = bytes
  have length : bytes.length = data.length+20 := by
    rw [← bytes_eq,List.length_append,List.length_append,sending.childId.size,toLE_length,hitraceIdLen]
  have last : bytes.drop (bytes.length-4) = toLE 4 hitraceIdLen := by
    rw [length,← bytes_eq,← List.append_assoc]
    apply List.drop_left'
    rw [List.length_append,sending.childId.size,hitraceIdLen]
    rfl
  have count : idLenOf bytes = hitraceIdLen := by
    rw [idLenOf,last]
    decide
  have head : bytes.length-4-idLenOf bytes = data.length := by
    rw [count,length,hitraceIdLen]
    rfl
  have id : (bytes.drop data.length).take hitraceIdLen = sending.childId.bytes := by
    rw [← bytes_eq,List.drop_left]
    exact List.take_left' sending.childId.size
  have untraced : bytes.take data.length = data := by rw [← bytes_eq,List.take_left]
  obtain ⟨reads,-,received⟩ := receive_wellFormed (flagged flags) (by omega) (show position ≤ bytes.length by omega)
    (Nat.le_of_eq count.symm) (by rw [count,length,hitraceIdLen]; omega)
  rw [head,id,ofBytes_self,untraced] at received
  rw [received]
  exact ⟨rfl,rfl,rfl,rfl⟩

theorem receive_kept (on : flags &&& tfHitrace ≠ 0)
    (kept : (traceServerReceive reader ⟨data,0,[]⟩ flags).data.bytes = data) :
    (traceServerReceive reader ⟨data,0,[]⟩ flags).flags = flags := by
  by_cases long : 4 ≤ data.length
  · by_cases whole : hitraceIdLen ≤ idLenOf data ∧ idLenOf data ≤ data.length-4
    · obtain ⟨reads,-,received⟩ := receive_wellFormed on long (Nat.zero_le _) whole.1 whole.2
      rw [received] at kept
      have size := congrArg List.length kept
      simp only [List.length_take] at size
      omega
    · rw [receive_malformed reader 0 on long whole] at kept ⊢
      by_cases room : idLenOf data+4 ≤ data.length
      · rw [recoveryDataAndFlag_removes (counted_reading long) room (Nat.zero_le _)] at kept
        have size := congrArg List.length kept
        simp only [List.length_take] at size
        omega
      · rw [recoveryDataAndFlag_leaves (counted_reading long) (Nat.lt_of_not_le room)]
  · rw [receive_short on (Nat.lt_of_not_le long)]

theorem send_iff : SendTransparent reader handle data flags traceId sending ↔
    ¬ (flags &&& tfHitrace ≠ 0 ∧ Traced handle flags traceId sending ∧ ¬ Written sending) := by
  by_cases traced : Traced handle flags traceId sending
  · by_cases written : Written sending
    · exact iff_of_true (send_appended reader ⟨traced,written⟩) fun given => given.2.2 written
    · rw [SendTransparent,traceClientSend_givesUp traced written]
      by_cases on : flags &&& tfHitrace ≠ 0
      · simp only [if_pos on]
        refine iff_of_false ?_ (not_not_intro ⟨on,traced,written⟩)
        intro transparent
        obtain ⟨-,clear,kept,-⟩ := transparent 0 (Nat.zero_le _)
        rw [receive_kept reader on kept] at clear
        rw [clear] at on
        exact on (cleared flags)
      · simp only [if_neg on]
        exact iff_of_true trivial fun given => on given.1
  · rw [SendTransparent,traceClientSend_untraced traced]
    simp only [cleared,ne_eq,not_true_eq_false,if_false]
    exact iff_of_true trivial fun given => traced given.2.1

end Sent

section Arrived
variable {bytes : List UInt8} {position : Fin (bytes.length+1)} {flags : UInt32}

theorem wellFormed_of_last (long : 4 ≤ bytes.length) (least : hitraceIdLen ≤ idLenOf bytes) (most : idLenOf bytes ≤ bytes.length-4) :
    WellFormed (bytes.drop (bytes.length-4-idLenOf bytes)) := by
  have back : bytes.length-4-idLenOf bytes+idLenOf bytes = bytes.length-4 := by omega
  refine ⟨(bytes.drop (bytes.length-4-idLenOf bytes)).take (idLenOf bytes),bytes.drop (bytes.length-4),?_,?_,?_,?_⟩
  · rw [← back,← List.drop_drop,back,List.take_append_drop]
  · rw [List.length_drop]
    omega
  · rw [List.length_take,List.length_drop]
    omega
  · rw [List.length_take,List.length_drop,← idLenOf]
    omega

/-- The bytes in front of a trailer are shorter by what its last word says, and that is enough for an identifier. -/
theorem last_of_wellFormed {body trailer : List UInt8} (wellFormed : WellFormed trailer) (parts : bytes = body ++ trailer) :
    hitraceIdLen ≤ idLenOf bytes ∧ bytes.length = body.length+idLenOf bytes+4 := by
  obtain ⟨id,word,rfl,width,least,count⟩ := wellFormed
  have length : bytes.length = body.length+id.length+4 := by
    rw [parts,List.length_append,List.length_append,width,Nat.add_assoc]
  have last : bytes.drop (bytes.length-4) = word := by
    rw [length,parts,← List.append_assoc]
    apply List.drop_left'
    rw [List.length_append,Nat.add_sub_cancel]
  rw [idLenOf,last,count]
  exact ⟨least,length⟩

theorem clean_wellFormed (long : 4 ≤ bytes.length) (least : hitraceIdLen ≤ idLenOf bytes) (most : idLenOf bytes ≤ bytes.length-4) :
    ReceiveClean reader bytes position flags := by
  intro on
  obtain ⟨reads,reading,received⟩ := receive_wellFormed on long (Nat.le_of_lt_succ position.isLt) least most
  rw [Parcel.parseFrom,received]
  exact ⟨reading.within,.inl ⟨_,wellFormed_of_last long least most,(List.take_append_drop _ bytes).symm,rfl⟩⟩

theorem clean_too_long (long : 4 ≤ bytes.length) (room : bytes.length < idLenOf bytes+4) (on : flags &&& tfHitrace ≠ 0) :
    ReceiveClean reader bytes position flags ↔ position = bytes.length := by
  have malformed : ¬ (hitraceIdLen ≤ idLenOf bytes ∧ idLenOf bytes ≤ bytes.length-4) := by omega
  have received := receive_malformed reader position on long malformed
  rw [recoveryDataAndFlag_leaves (counted_reading long) room] at received
  rw [ReceiveClean,Parcel.parseFrom,received]
  constructor
  · intro clean
    rcases (clean on).2 with ⟨trailer,-,-,same⟩ | ⟨-,same⟩
    · exact same.symm
    · exact same.symm
  · intro last _
    exact ⟨(counted_reading long).within,.inr ⟨rfl,last.symm⟩⟩

theorem not_clean_too_short (room : idLenOf bytes+4 ≤ bytes.length) (short : idLenOf bytes < hitraceIdLen)
    (on : flags &&& tfHitrace ≠ 0) : ¬ ReceiveClean reader bytes position flags := by
  have long : 4 ≤ bytes.length := by omega
  have malformed : ¬ (hitraceIdLen ≤ idLenOf bytes ∧ idLenOf bytes ≤ bytes.length-4) := by omega
  have received := receive_malformed reader position on long malformed
  rw [recoveryDataAndFlag_removes (counted_reading long) room (Nat.le_of_lt_succ position.isLt)] at received
  intro clean
  have outcome := (clean on).2
  rw [Parcel.parseFrom,received] at outcome
  rcases outcome with ⟨trailer,wellFormed,parts,-⟩ | ⟨same,-⟩
  · have least := (last_of_wellFormed wellFormed parts).1
    omega
  · have size := congrArg List.length same
    simp only [List.length_take] at size
    omega

/-- The flag is set, there is a last word, and either it counts too few bytes for an identifier or more than there are; in the
second case the parcel must not have been read to its end already. -/
def Mistaken (bytes : List UInt8) (position : Nat) (flags : UInt32) : Prop :=
  flags &&& tfHitrace ≠ 0 ∧ 4 ≤ bytes.length ∧
    (idLenOf bytes+4 ≤ bytes.length ∧ idLenOf bytes < hitraceIdLen ∨ bytes.length < idLenOf bytes+4 ∧ position ≠ bytes.length)

theorem receive_iff : ReceiveClean reader bytes position flags ↔ ¬ Mistaken bytes position flags := by
  by_cases on : flags &&& tfHitrace ≠ 0
  · by_cases long : 4 ≤ bytes.length
    · by_cases room : idLenOf bytes+4 ≤ bytes.length
      · by_cases short : idLenOf bytes < hitraceIdLen
        · exact iff_of_false (not_clean_too_short reader room short on) (not_not_intro ⟨on,long,.inl ⟨room,short⟩⟩)
        · refine iff_of_true (clean_wellFormed reader long (Nat.le_of_not_lt short) (by omega)) ?_
          rintro ⟨-,-,⟨-,few⟩ | ⟨many,-⟩⟩
          · exact short few
          · omega
      · rw [clean_too_long reader long (Nat.lt_of_not_le room) on]
        constructor
        · rintro last ⟨-,-,⟨fits,-⟩ | ⟨-,unread⟩⟩
          · exact room fits
          · exact unread last
        · intro fine
          by_contra unread
          exact fine ⟨on,long,.inr ⟨Nat.lt_of_not_le room,unread⟩⟩
    · refine iff_of_true ?_ fun mistaken => long mistaken.2.1
      intro _
      rw [Parcel.parseFrom,receive_short on (Nat.lt_of_not_le long)]
      refine ⟨?_,.inr ⟨rfl,rfl⟩⟩
      intro read member
      cases member
  · exact iff_of_true (fun set => absurd set on) fun mistaken => on mistaken.1

end Arrived

/-- Data goes through unchanged unless the caller set the flag itself and the sender gives up a trace that is due; data that arrives is
treated well unless it carries the flag and its last word is mistaken for the end of a trailer. -/
theorem tracing_transparent_iff (handle : Int32) (data bytes : List UInt8) (flags newFlags : UInt32) (traceId : ThreadTrace)
    (sending : Sending) (position : Fin (bytes.length+1)) :
    (SendTransparent reader handle data flags traceId sending ↔
      ¬ (flags &&& tfHitrace ≠ 0 ∧ Traced handle flags traceId sending ∧ ¬ Written sending)) ∧
    (ReceiveClean reader bytes position newFlags ↔ ¬ Mistaken bytes position newFlags) :=
  ⟨send_iff reader,receive_iff reader⟩

end Transparent

def noStrings : Parcel.StringReader := ⟨fun _ => 0,fun _ => Nat.zero_le _⟩

/-- Two words of data with the flag and no trailer: the last word is 0, and is removed. -/
theorem last_word_removed :
    (traceServerReceive noStrings ⟨[1,0,0,0,0,0,0,0],0,[]⟩ 0x80).data.bytes = [1,0,0,0] ∧
      ¬ ReceiveClean noStrings [1,0,0,0,0,0,0,0] 0 0x80 :=
  ⟨by decide,fun clean => (receive_iff noStrings).mp clean ⟨by decide,by decide,.inl ⟨by decide,by decide⟩⟩⟩

end CommunicationIpc.Hitrace
