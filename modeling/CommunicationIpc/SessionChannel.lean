import CommunicationIpc.Framing
import CommunicationIpc.Kernel.SessionChannel
import CommunicationIpc.RawData
import CommunicationIpc.SendBuffer

/-! What becomes of the packages of a session, from `ProcessNormalData` at one end to `StartProcessLoop` at the other. -/
namespace CommunicationIpc.SessionChannel
open CommunicationIpc.Library CommunicationIpc.Kernel.Package CommunicationIpc.Kernel.Translate CommunicationIpc.Kernel.Marshal
open CommunicationIpc.Kernel.Framing CommunicationIpc.Kernel.Transaction CommunicationIpc.Kernel.SessionChannel
open CommunicationIpc.Package CommunicationIpc.Framing CommunicationIpc.Marshal CommunicationIpc.SessionSlots CommunicationIpc.RawData
open CommunicationIpc.SendBuffer (pending Stranded sendData_spec moveTransData2Buffer_spec wellFormed_new)

section Message
variable {sessionOf : Nat → Nat → Nat → Nat → Option Session} {message : Message} {transData : Memory}

theorem hasFlag_or (flags mask : Nat) (nonzero : mask ≠ 0) : hasFlag (flags ||| mask) mask = true := by
  simp only [hasFlag,bne_iff_ne]
  rw [Nat.and_comm,Nat.and_or_distrib_left,Nat.and_self]
  intro zero
  exact nonzero (Nat.or_eq_zero_iff.mp zero).2

/-- The package of a message is one that `HasCompletePackage` accepts. -/
theorem transData_wellFormed (made : message.transData sessionOf = some transData) : WellFormed (TransactionData.decode transData) := by
  simp only [Message.transData,processNormalData] at made
  generalize size : wrap32 _ = sendSize at made
  generalize started : (constructTransData sendSize _ _ _ _).write 24 8 _ = memory at made
  have magic : memory.read 4 4 = dbinderMagicword := by
    rw [← started,constructTransData]
    simp (disch := decide) only [Memory.read_write_apart]
    rw [Memory.read_write]
    rfl
  rcases moveMessageParcel2TransData_cases made with ⟨removed,sender,filled,accepted,sent,rfl⟩ | ⟨empty,rfl⟩
  · have header : TransactionData.decode sender.memory = TransactionData.decode removed :=
      decode_congr fun x inside => header_of_translated accepted sent x inside
    rw [header]
    refine ⟨?_,?_,accepted⟩
    · rw [← magic]
      exact filled.read (by decide) (by decide)
    · have limited := (checkTransactionData_spec accepted).1
      omega
  · have width : sendSize = 72 := by
      rw [← size,empty,message.objects empty]
      rfl
    subst width
    have small : (TransactionData.decode memory).flags < 2^32 := memory.read_lt 20 4
    have flagged : ((TransactionData.decode memory).flags ||| tfStatusCode) % 256^4 = (TransactionData.decode memory).flags ||| tfStatusCode :=
      Nat.mod_eq_of_lt (Nat.or_lt_two_pow small (by decide))
    have wide : memory.read 0 4 = 72 := by
      rw [← started,constructTransData]
      simp (disch := decide) only [Memory.read_write_apart]
      rw [Memory.read_write]
      rfl
    have status : hasFlag ((TransactionData.decode memory).flags ||| tfStatusCode) tfStatusCode = true := hasFlag_or _ _ (by decide)
    generalize (TransactionData.decode memory).flags ||| tfStatusCode = flags at flagged status ⊢
    simp only [WellFormed,TransactionData.decode]
    simp (disch := decide) only [Memory.read_write_apart,Memory.read_write,magic,wide,flagged]
    simp [checkTransactionData,status,socketMaxBuffSize,headerSize,binderSize,wrap64]

theorem transData_size (made : message.transData sessionOf = some transData) :
    headerSize < (TransactionData.decode transData).sizeOfSelf :=
  wellFormed_covered _ (transData_wellFormed made)

/-- What a package tells about itself. -/
structure Carries (package : List UInt8) (message : Message) : Prop where
  accepted : packages.IsFrame package
  cmd : (TransactionData.decode (.ofBytes package)).cmd = message.cmd
  seqNumber : (TransactionData.decode (.ofBytes package)).seqNumber = message.seqNum.toNat

theorem command_small (message : Message) : message.cmd % 256^4 = message.cmd := by
  rcases message.command with same | same
  · rw [same]
    rfl
  · rw [same]
    rfl

theorem packageOf_carries (made : message.transData sessionOf = some transData) : Carries (packageOf transData).bytes message := by
  have covered := transData_size made
  have header : TransactionData.decode (.ofBytes (packageOf transData).bytes) = TransactionData.decode transData :=
    decode_sentBytes (Nat.le_of_lt covered)
  have length : (packageOf transData).bytes.length = (TransactionData.decode transData).sizeOfSelf := Memory.readBytes_length ..
  obtain ⟨command,number⟩ := processNormalData_header made
  generalize (packageOf transData).bytes = package at header length ⊢
  refine ⟨?_,?_,?_⟩
  · have size : announced WellFormed package = package.length := by
      simp only [announced,header]
      rw [if_pos ⟨transData_wellFormed made,Nat.le_of_eq length.symm⟩,length]
    have positive : 0 < package.length := by omega
    exact ⟨positive.trans_eq size.symm,size⟩
  · rw [header,command]
    exact command_small message
  · rw [header,number]
    exact Nat.mod_eq_of_lt message.seqNum.toNat_lt

end Message

section Receiver
variable {parts : List (List UInt8)} {socket : Int}

/-- A package that is not raw data. -/
def Plain (package : List UInt8) : Prop := ∃ message, Carries package message

theorem Carries.plain {package : List UInt8} {message : Message} (carries : Carries package message) : Plain package := ⟨message,carries⟩

theorem Plain.header {package : List UInt8} (plain : Plain package) : headerSize < package.length := by
  obtain ⟨message,carries⟩ := plain
  obtain ⟨found,size⟩ := carries.accepted
  obtain ⟨wellFormed,received,_⟩ := announced_spec found
  have covered := wellFormed_covered _ wellFormed
  omega

theorem Plain.cmd {package : List UInt8} (plain : Plain package) : (TransactionData.decode (.ofBytes package)).cmd ≠ bcSendRawdata := by
  obtain ⟨message,carries⟩ := plain
  rw [carries.cmd]
  rcases message.command with same | same
  · rw [same]
    decide
  · rw [same]
    decide

/-- A run of packages that arrives at once is started package by package. -/
theorem onMessageAvailable_parts (plain : ∀ part ∈ parts, Plain part) (some_ : parts ≠ []) (positive : 0 < socket)
    (small : parts.flatten.length ≤ maxRawdataSize) :
    ∃ slices, onMessageAvailable (parts.flatten.length+1) socket (some (.ofBytes parts.flatten)) (.ofNat parts.flatten.length) =
        some ⟨none,slices⟩ ∧ slices.map (Slice.bytes (.ofBytes parts.flatten)) = parts := by
  have frames : ∀ part ∈ parts, packages.IsFrame part := by
    intro part member
    obtain ⟨_,carries⟩ := plain part member
    exact carries.accepted
  have length : (UInt32.ofNat parts.flatten.length).toNat = parts.flatten.length := by
    simp only [maxRawdataSize] at small
    rw [UInt32.toNat_ofNat_of_lt' (by simp only [UInt32.size]; omega)]
  obtain ⟨slices,returned,framed⟩ := readPackages_spec (.ofBytes parts.flatten) small (parts.flatten.length) 0 (Nat.le_refl _)
  refine ⟨slices,?_,?_⟩
  · cases parts with
    | nil => exact absurd rfl some_
    | cons first rest =>
      have header := (plain first List.mem_cons_self).header
      have cmd := (plain first List.mem_cons_self).cmd
      have whole : (first :: rest).flatten.length = first.length+rest.flatten.length := by simp
      have raw : hasRawDataPackage (.ofBytes (first :: rest).flatten) (first :: rest).flatten.length = 0 := by
        simp only [hasRawDataPackage,List.flatten_cons]
        rw [decode_ofBytes_append (Nat.le_of_lt header)]
        split
        · rfl
        · rw [if_neg fun all => cmd all.2.1]
      simp only [onMessageAvailable,length]
      rw [if_neg (by omega),raw,if_neg (Nat.lt_irrefl 0),returned _ (Nat.le_refl _)]
      rfl
  · have longest := framed.longest
    rw [Nat.sub_zero,Memory.readBytes_ofBytes] at longest
    exact longest.unique (Framer.longest_flatten frames)

/-- A raw data package is not started. -/
theorem onMessageAvailable_raw {data : MessageParcel} {seqNum : UInt64} {package : List UInt8}
    (made : rawDataPackage data seqNum.toNat = some package) (fuel : Nat) :
    ∃ rawData, onMessageAvailable fuel socket (some (.ofBytes package)) (.ofNat package.length) = some ⟨rawData,[]⟩ := by
  simp only [rawDataPackage] at made
  split at made
  · cases made
  rename_i small
  cases made
  simp only [secureMemMaxLen] at small
  obtain ⟨size,magic,cmd,_⟩ := @decode_rawData data.rawData.length (by simp only [headerSize]; omega) seqNum
  generalize constructTransData _ _ _ _ _ = memory at *
  have width := Memory.readBytes_length memory 0 headerSize
  have same : TransactionData.decode (.ofBytes (memory.readBytes 0 headerSize ++ data.rawData)) = TransactionData.decode memory := by
    rw [decode_ofBytes_append (Nat.le_of_eq width.symm),decode_readBytes (Nat.le_refl _)]
    apply decode_congr
    intro i _
    rw [Memory.shift,Nat.zero_add]
  have length : (memory.readBytes 0 headerSize ++ data.rawData).length = headerSize+data.rawData.length := by
    rw [List.length_append,width]
  generalize memory.readBytes 0 headerSize ++ data.rawData = package at same length ⊢
  have number : (UInt32.ofNat package.length).toNat = package.length := by
    rw [length,UInt32.toNat_ofNat_of_lt' (by simp only [UInt32.size,headerSize]; omega)]
  simp only [onMessageAvailable,number]
  split
  · exact ⟨none,rfl⟩
  · rename_i taken
    have raw : 0 < hasRawDataPackage (.ofBytes package) package.length := by
      simp only [hasRawDataPackage,same]
      rw [if_neg (by omega),if_pos ⟨magic,cmd,size.trans length.symm⟩]
      split
      · decide
      · rw [size]
        simp only [headerSize]
        omega
    rw [if_pos raw]
    exact ⟨_,rfl⟩

end Receiver

section Run
variable {channel : Channel} {socket : Int} {event : Event}

/-- A package that was made of the message in one of the events. -/
def Written (events : List Event) (package : List UInt8) (message : Message) : Prop :=
  ∃ thread sessionOf acquiring expanding transData, .moveTransData2Buffer thread sessionOf message acquiring expanding ∈ events ∧
    message.transData sessionOf = some transData ∧ package = (packageOf transData).bytes

theorem Written.mono {events more : List Event} {package : List UInt8} {message : Message} (written : Written events package message)
    (subset : events ⊆ more) : Written more package message := by
  obtain ⟨thread,sessionOf,acquiring,expanding,transData,member,made⟩ := written
  exact ⟨thread,sessionOf,acquiring,expanding,transData,subset member,made⟩

theorem Written.carries {events : List Event} {package : List UInt8} {message : Message} (written : Written events package message) :
    Carries package message := by
  obtain ⟨_,_,_,_,transData,_,made,rfl⟩ := written
  exact packageOf_carries made

/-- The packages that are waiting make up the pending bytes, and come behind the started ones. -/
structure Sound (channel : Channel) (waiting : List (List UInt8)) : Prop where
  formed : SendBuffer.WellFormed channel.session.buffer
  pending : SendBuffer.pending channel.session.buffer = waiting.flatten
  plain : ∀ package ∈ channel.session.appended, Plain package
  ordered : (channel.started ++ waiting).Sublist channel.session.appended
  sent : channel.session.sent = channel.started.flatten

/-- The buffer is not stranded. -/
def roomy (channel : Channel) : Event → Prop
  | .moveTransData2Buffer _ sessionOf message acquiring expanding =>
    ∀ transData, message.transData sessionOf = some transData →
      ¬ Stranded channel.session.buffer (packageOf transData).sizeOfSelf acquiring expanding
  | .sendData _ acquiring expanding _ => ¬ Stranded channel.session.buffer 0 acquiring expanding
  | _ => True

theorem sound_new : Sound .new [] where
  formed := wellFormed_new
  pending := rfl
  plain := nofun
  ordered := .slnil
  sent := rfl

theorem Sound.limited {waiting : List (List UInt8)} (sound : Sound channel waiting) : waiting.flatten.length ≤ maxRawdataSize := by
  have length := sound.formed.pending_length
  have inside := sound.formed.inside
  have limited := sound.formed.limited
  have start := sound.formed.readStart
  rw [sound.pending] at length
  simp only [Kernel.SendBuffer.socketBuffSizeUserHuge] at limited
  simp only [maxRawdataSize]
  omega

theorem Sound.waiting_plain {waiting : List (List UInt8)} (sound : Sound channel waiting) : ∀ package ∈ waiting, Plain package :=
  fun package member => sound.plain package (sound.ordered.subset (List.mem_append_right _ member))

theorem Sound.waiting_nil {waiting : List (List UInt8)} (sound : Sound channel waiting) (empty : waiting.flatten = []) : waiting = [] := by
  cases waiting with
  | nil => rfl
  | cons first rest =>
    have header := (sound.waiting_plain first List.mem_cons_self).header
    rw [List.flatten_cons,List.append_eq_nil_iff] at empty
    rw [empty.1] at header
    cases header

/-- The packages that arrive together are started. -/
theorem onBytesReceived_parts {parts : List (List UInt8)} (plain : ∀ part ∈ parts, Plain part) (some_ : parts ≠ [])
    (positive : 0 < socket) (small : parts.flatten.length ≤ maxRawdataSize) :
    (channel.onBytesReceived socket parts.flatten).started = channel.started ++ parts ∧
      (channel.onBytesReceived socket parts.flatten).session = channel.session := by
  obtain ⟨slices,returned,whole⟩ := onMessageAvailable_parts plain some_ positive small
  simp only [Channel.onBytesReceived,returned,whole,and_self]

theorem processRawData_kept (thread : Nat) (message : Message) (sendBytes : Int) :
    (channel.step socket (.processRawData thread message sendBytes)).started = channel.started ∧
      (channel.step socket (.processRawData thread message sendBytes)).session = channel.session := by
  simp only [Channel.step]
  split
  · exact ⟨rfl,rfl⟩
  · split
    · exact ⟨rfl,rfl⟩
    · rename_i package made
      split
      · obtain ⟨rawData,returned⟩ := @onMessageAvailable_raw socket _ _ _ made (package.length+1)
        simp only [Channel.onBytesReceived,returned,List.map_nil,List.append_nil,and_self]
      · exact ⟨rfl,rfl⟩

theorem session_moved {session : Kernel.SendBuffer.Session} (formed : SendBuffer.WellFormed session.buffer) (thread : Nat)
    (package : Kernel.SendBuffer.Package) (acquiring expanding : Kernel.SendBuffer.Allocation) :
    (Stranded session.buffer package.sizeOfSelf acquiring expanding ∧
      ∃ dropped, session.step (.moveTransData2Buffer thread package acquiring expanding) = { session with buffer := dropped } ∧
        SendBuffer.WellFormed dropped ∧ pending dropped = []) ∨
    (∃ refused, session.step (.moveTransData2Buffer thread package acquiring expanding) = { session with buffer := refused } ∧
      SendBuffer.WellFormed refused ∧ pending refused = pending session.buffer) ∨
    ∃ appended, session.step (.moveTransData2Buffer thread package acquiring expanding) =
        { session with buffer := appended, appended := session.appended ++ [package.bytes] } ∧
      SendBuffer.WellFormed appended ∧ pending appended = pending session.buffer ++ package.bytes := by
  rcases moveTransData2Buffer_spec formed package acquiring expanding with
    ⟨stuck,dropped,result,dead,empty⟩ | ⟨-,⟨refused,result,keeps,-⟩ | ⟨appended,result,kept,extended⟩⟩
  · exact .inl ⟨stuck,dropped,by simp [Kernel.SendBuffer.Session.step,result],dead,empty⟩
  · exact .inr (.inl ⟨refused,by simp [Kernel.SendBuffer.Session.step,result],keeps.formed,keeps.same⟩)
  · exact .inr (.inr ⟨appended,by simp [Kernel.SendBuffer.Session.step,result],kept,extended⟩)

theorem session_sent {session : Kernel.SendBuffer.Session} (formed : SendBuffer.WellFormed session.buffer) (thread : Nat)
    (acquiring expanding : Kernel.SendBuffer.Allocation) (sendBytes : Int) :
    ∃ after payload, (session.buffer.sendData acquiring expanding sendBytes).2.1 = payload ∧
      session.step (.sendData thread acquiring expanding sendBytes) = { session with buffer := after, sent := session.sent ++ payload } ∧
      SendBuffer.WellFormed after ∧
      ((Stranded session.buffer 0 acquiring expanding ∧ payload = [] ∧ pending after = []) ∨
        (payload = [] ∧ pending after = pending session.buffer) ∨ (payload = pending session.buffer ∧ pending after = [])) := by
  rcases sendData_spec formed acquiring expanding sendBytes with
    ⟨stuck,dropped,result,dead,empty⟩ | ⟨-,after,payload,code,result,kept,⟨none_,same,-⟩ | ⟨handed,emptied,-⟩⟩
  · exact ⟨dropped,[],by rw [result],by simp [Kernel.SendBuffer.Session.step,result],dead,.inl ⟨stuck,rfl,empty⟩⟩
  · exact ⟨after,payload,by rw [result],by simp [Kernel.SendBuffer.Session.step,result],kept,.inr (.inl ⟨none_,same⟩)⟩
  · exact ⟨after,payload,by rw [result],by simp [Kernel.SendBuffer.Session.step,result],kept,.inr (.inr ⟨handed,emptied⟩)⟩

/-- What one step does to the packages that are waiting. -/
theorem step_sound (positive : 0 < socket) {waiting : List (List UInt8)} (sound : Sound channel waiting) :
    ∃ later, Sound (channel.step socket event) later ∧
      (roomy channel event → channel.session.appended = channel.started ++ waiting →
        (channel.step socket event).session.appended = (channel.step socket event).started ++ later) := by
  have started_only : (channel.started ++ []).Sublist channel.session.appended := by
    rw [List.append_nil]
    exact (List.sublist_append_left _ _).trans sound.ordered
  cases event with
  | processRawData thread message sendBytes =>
    obtain ⟨started,session⟩ := @processRawData_kept channel socket thread message sendBytes
    generalize channel.step socket _ = next at started session ⊢
    obtain ⟨_,_,_⟩ := next
    subst started session
    exact ⟨waiting,⟨sound.formed,sound.pending,sound.plain,sound.ordered,sound.sent⟩,fun _ => id⟩
  | moveTransData2Buffer thread sessionOf message acquiring expanding =>
    simp only [Channel.step]
    cases made : message.transData sessionOf with
    | none => exact ⟨waiting,sound,fun _ => id⟩
    | some transData =>
      have carries := packageOf_carries made
      dsimp only
      rcases session_moved sound.formed thread (packageOf transData) acquiring expanding with
        ⟨stuck,dropped,stepped,dead,empty⟩ | ⟨refused,stepped,formed,same⟩ | ⟨appended,stepped,formed,extended⟩
      · rw [stepped]
        exact ⟨[],⟨dead,empty,sound.plain,started_only,sound.sent⟩,fun room => absurd stuck (room transData made)⟩
      · rw [stepped]
        exact ⟨waiting,⟨formed,same.trans sound.pending,sound.plain,sound.ordered,sound.sent⟩,fun _ => id⟩
      · rw [stepped]
        generalize (packageOf transData).bytes = package at carries extended ⊢
        refine ⟨waiting ++ [package],⟨formed,?_,?_,?_,sound.sent⟩,fun _ all => ?_⟩
        · rw [extended,sound.pending,List.flatten_append,List.flatten_singleton]
        · intro other member
          rcases List.mem_append.mp member with before | new
          · exact sound.plain other before
          · rw [List.mem_singleton.mp new]
            exact carries.plain
        · rw [← List.append_assoc]
          exact sound.ordered.append (List.Sublist.refl _)
        · rw [← List.append_assoc]
          exact congrArg (· ++ [package]) all
  | sendData thread acquiring expanding sendBytes =>
    obtain ⟨after,payload,taken,stepped,formed,cases_⟩ := session_sent sound.formed thread acquiring expanding sendBytes
    simp only [Channel.step,taken,stepped]
    rcases cases_ with ⟨stuck,rfl,empty⟩ | ⟨rfl,same⟩ | ⟨handed,emptied⟩
    · rw [if_pos rfl,List.append_nil]
      exact ⟨[],⟨formed,empty,sound.plain,started_only,sound.sent⟩,fun room => absurd stuck room⟩
    · rw [if_pos rfl,List.append_nil]
      exact ⟨waiting,⟨formed,same.trans sound.pending,sound.plain,sound.ordered,sound.sent⟩,fun _ => id⟩
    · rw [sound.pending] at handed
      subst handed
      split
      · rename_i none_
        obtain rfl := sound.waiting_nil none_
        rw [none_,List.append_nil]
        exact ⟨[],⟨formed,emptied,sound.plain,started_only,sound.sent⟩,fun _ => id⟩
      · rename_i busy
        have some_ : waiting ≠ [] := by
          rintro rfl
          exact busy rfl
        generalize sending_ : Channel.mk _ channel.started channel.rawData = sending
        obtain ⟨started,session⟩ := @onBytesReceived_parts sending socket waiting sound.waiting_plain some_ positive sound.limited
        subst sending_
        generalize Channel.onBytesReceived _ socket waiting.flatten = next at started session ⊢
        obtain ⟨_,_,_⟩ := next
        subst started session
        refine ⟨[],⟨formed,emptied,sound.plain,?_,?_⟩,fun _ => ?_⟩
        · rw [List.append_nil]
          exact sound.ordered
        · rw [List.flatten_append]
          exact congrArg (· ++ waiting.flatten) sound.sent
        · rw [List.append_nil]
          exact id

/-- A step appends no package but the one of its message. -/
theorem step_appended {package : List UInt8} (formed : SendBuffer.WellFormed channel.session.buffer)
    (member : package ∈ (channel.step socket event).session.appended) :
    package ∈ channel.session.appended ∨ ∃ message, Written [event] package message := by
  have kept (next : Channel) (bytes : List UInt8) : (next.onBytesReceived socket bytes).session = next.session := by
    simp only [Channel.onBytesReceived]
    split <;> rfl
  cases event with
  | processRawData thread message sendBytes =>
    rw [(processRawData_kept thread message sendBytes).2] at member
    exact .inl member
  | moveTransData2Buffer thread sessionOf message acquiring expanding =>
    simp only [Channel.step] at member
    cases made : message.transData sessionOf with
    | none =>
      rw [made] at member
      exact .inl member
    | some transData =>
      simp only [made] at member
      rcases session_moved formed thread (packageOf transData) acquiring expanding with
        ⟨_,_,stepped,_⟩ | ⟨_,stepped,_⟩ | ⟨_,stepped,_⟩
      · rw [stepped] at member
        exact .inl member
      · rw [stepped] at member
        exact .inl member
      · rw [stepped] at member
        rcases List.mem_append.mp member with before | new
        · exact .inl before
        · exact .inr ⟨message,thread,sessionOf,acquiring,expanding,transData,List.mem_singleton_self _,made,List.mem_singleton.mp new⟩
  | sendData thread acquiring expanding sendBytes =>
    obtain ⟨after,payload,taken,stepped,_⟩ := session_sent formed thread acquiring expanding sendBytes
    simp only [Channel.step,taken,stepped] at member
    split at member
    · exact .inl member
    · rw [kept] at member
      exact .inl member

end Run

/-- In every run, whatever the threads of the process, the allocations and `SendBytes` do: what the peer starts are packages that
were appended, whole, in the order in which they were appended and each once, and each has the command and the sequence number of the
message it was made of; what was sent is what was started. And in a run in which the buffer was never stranded the others are waiting
in the buffer. -/
theorem messages_arrive {socket : Int} (positive : 0 < socket) {events : List Event} {channel : Channel}
    (run : Reaches (does (Channel.step socket)) .new events channel) :
    ∃ waiting, pending channel.session.buffer = waiting.flatten ∧
      (channel.started ++ waiting).Sublist channel.session.appended ∧ channel.session.sent = channel.started.flatten ∧
      (∀ package ∈ channel.session.appended, ∃ message, Written events package message ∧ Carries package message) ∧
      (Reaches (guarded (does (Channel.step socket)) roomy) .new events channel →
        channel.session.appended = channel.started ++ waiting) := by
  have both : (∃ waiting, Sound channel waiting) ∧ ∀ package ∈ channel.session.appended, ∃ message, Written events package message := by
    refine run.trace_invariant (fun events channel => (∃ waiting, Sound channel waiting) ∧
      ∀ package ∈ channel.session.appended, ∃ message, Written events package message) ⟨⟨[],sound_new⟩,nofun⟩ ?_
    rintro events before event _ ⟨⟨waiting,sound⟩,known⟩ rfl
    obtain ⟨later,after,_⟩ := @step_sound before socket event positive waiting sound
    refine ⟨⟨later,after⟩,fun package member => ?_⟩
    rcases step_appended sound.formed member with earlier | ⟨message,written⟩
    · obtain ⟨message,written⟩ := known package earlier
      exact ⟨message,written.mono (List.subset_append_left _ _)⟩
    · exact ⟨message,written.mono (List.subset_append_right _ _)⟩
  obtain ⟨⟨waiting,sound⟩,known⟩ := both
  refine ⟨waiting,sound.pending,sound.ordered,sound.sent,?_,?_⟩
  · intro package member
    obtain ⟨message,written⟩ := known package member
    exact ⟨message,written,written.carries⟩
  intro roomy_
  have exact_ : ∃ waiting, Sound channel waiting ∧ channel.session.appended = channel.started ++ waiting := by
    refine roomy_.invariant (fun channel => ∃ waiting, Sound channel waiting ∧ channel.session.appended = channel.started ++ waiting)
      ⟨[],sound_new,rfl⟩ ?_
    rintro before event _ ⟨waiting,sound,all⟩ ⟨room,rfl⟩
    obtain ⟨later,sound,kept⟩ := @step_sound before socket event positive waiting sound
    exact ⟨later,sound,kept room all⟩
  obtain ⟨others,also,all⟩ := exact_
  -- the pending bytes can be cut in one way only
  have frames {parts : List (List UInt8)} (plain : ∀ part ∈ parts, Plain part) : Longest packages.IsFrame parts.flatten parts := by
    refine Framer.longest_flatten fun part member => ?_
    obtain ⟨_,carries⟩ := plain part member
    exact carries.accepted
  have same := frames also.waiting_plain
  rw [← also.pending,sound.pending] at same
  rw [(frames sound.waiting_plain).unique same]
  exact all

/-- A reply that has a status and no data. -/
def statusReply (seqNum : UInt64) : Message := ⟨.empty,0,seqNum,bcReply,0,0,0,fun _ => rfl,.inr rfl⟩

def twoReplies : List Event :=
  [.moveTransData2Buffer 1 (fun _ _ _ _ => none) (statusReply 5) (some fun _ => 0) (some fun _ => 0),
    .moveTransData2Buffer 2 (fun _ _ _ _ => none) (statusReply 6) (some fun _ => 0) (some fun _ => 0),
    .sendData 2 none none 0]

/-- The second thread sends both packages, and its peer starts them one by one. -/
theorem messages_arrive_together : ∃ channel, Reaches (does (Channel.step 3)) .new twoReplies channel ∧
    channel.started.map List.length = [72,72] ∧ channel.session.sent = channel.started.flatten := by
  have run := Reaches.of_foldl (Channel.step 3) twoReplies .new
  obtain ⟨_,_,_,sent,_⟩ := messages_arrive (by decide) run
  exact ⟨_,run,by decide +kernel,sent⟩

end CommunicationIpc.SessionChannel
