import CommunicationIpc.Kernel.NegotiationData
import CommunicationIpc.Library.Unicode

/-! What a proxy recovers of the negotiation data of a stub: everything but the descriptor, of which half the bytes are sent. -/
namespace CommunicationIpc.NegotiationData
open CommunicationIpc.Library CommunicationIpc.Kernel.NegotiationData

section Arrays

theorem memcpyS_zeros {size : Nat} {src : List UInt8} (fits : src.length ≤ size) :
    memcpyS (zeros (size+1)) size src = some (src ++ zeros (size+1-src.length)) := by
  rw [memcpyS,if_neg (Nat.not_lt.mpr fits),zeros,List.drop_replicate,zeros]

theorem memcpyS_none {dest src : List UInt8} {size : Nat} (long : size < src.length) : memcpyS dest size src = none := if_pos long

theorem cString_zeros {name : List UInt8} (plain : 0 ∉ name) (count : Nat) : cString (name ++ zeros count) = name := by
  have whole := (cString_eq_self_iff name).mpr plain
  cases count with
  | zero => rwa [zeros,List.replicate_zero,List.append_nil]
  | succ count => rwa [zeros,List.replicate_succ,cString_append_zero]

theorem array_eq (id : DeviceId) : id.array.take deviceidLength ++ zeros 1 = id.array := by
  obtain ⟨inside,last⟩ := List.getElem?_eq_some_iff.mp id.terminated
  have rest : id.array.drop deviceidLength = [0] := by
    rw [List.drop_eq_getElem_cons inside,last,List.drop_of_length_le (Nat.le_of_eq id.size)]
  calc
    id.array.take deviceidLength ++ zeros 1 = id.array.take deviceidLength ++ id.array.drop deviceidLength := by rw [rest]; rfl
    _ = id.array := List.take_append_drop _ _

end Arrays

section Descriptor

/-- The first `count` bytes of a text of units, the last unit completed by a zero. -/
def halve : Nat → List UInt16 → List UInt16
  | 0,_ => []
  | _,[] => []
  | 1,unit :: _ => [UInt16.ofNat (unit.toNat % 256)]
  | count+2,unit :: rest => unit :: halve count rest

/-- What is left of a descriptor. -/
def front (descriptor : List UInt16) : List UInt16 := (halve descriptor.length descriptor).takeWhile fun unit => unit ≠ 0

theorem units_zeros (count : Nat) : ∃ rest, units (zeros count) = List.replicate rest 0 := by
  induction count using Nat.twoStepInduction with
  | zero => exact ⟨0,rfl⟩
  | one => exact ⟨0,rfl⟩
  | more count ih _ =>
    obtain ⟨rest,same⟩ := ih
    refine ⟨rest+1,?_⟩
    rw [List.replicate_succ,← same]
    rfl

theorem array_cons (unit : UInt16) (rest : List UInt16) :
    Word.array (unit :: rest) = UInt8.ofNat (unit.toNat % 256) :: UInt8.ofNat (unit.toNat/256 % 256) :: Word.array rest := rfl

theorem toNat_byte (number : Nat) : (UInt8.ofNat (number % 256)).toNat = number % 256 := by
  rw [UInt8.toNat_ofNat']
  exact Nat.mod_mod _ _

theorem unit_bytes (unit : UInt16) :
    UInt16.ofNat ((UInt8.ofNat (unit.toNat % 256)).toNat+256*(UInt8.ofNat (unit.toNat/256 % 256)).toNat) = unit := by
  have bound := unit.toNat_lt
  have whole : unit.toNat % 256+256*(unit.toNat/256 % 256) = unit.toNat := by omega
  rw [toNat_byte,toNat_byte,whole,UInt16.ofNat_toNat]

theorem units_halve (count : Nat) (descriptor : List UInt16) {more : Nat} (some_ : 0 < more) :
    ∃ rest, units ((Word.array descriptor).take count ++ zeros more) = halve count descriptor ++ List.replicate rest 0 := by
  fun_induction halve count descriptor with
  | case1 descriptor => exact units_zeros more
  | case2 count =>
    have none_ : (Word.array ([] : List UInt16)).take count = [] := List.take_nil
    rw [none_]
    exact units_zeros more
  | case3 unit rest =>
    obtain ⟨before,rfl⟩ : ∃ before, more = before+1 := ⟨more-1,by omega⟩
    obtain ⟨left,same⟩ := units_zeros before
    refine ⟨left,?_⟩
    rw [← same,array_cons,List.take_succ_cons,List.take_zero,zeros,List.replicate_succ]
    simp only [List.cons_append,List.nil_append,units,zeros,toNat_byte]
    rfl
  | case4 count unit rest ih =>
    obtain ⟨left,same⟩ := ih
    refine ⟨left,?_⟩
    rw [array_cons,List.take_succ_cons,List.take_succ_cons]
    simp only [List.cons_append,units,unit_bytes,same]

theorem string16_array {descriptor : List UInt16} {more : Nat} (some_ : 0 < more) :
    string16 ((Word.array descriptor).take descriptor.length ++ zeros more) = front descriptor := by
  obtain ⟨rest,same⟩ := units_halve descriptor.length descriptor some_
  have stop : (List.replicate rest (0 : UInt16)).takeWhile (fun unit => unit ≠ 0) = [] := by
    cases rest with
    | zero => rfl
    | succ rest => rfl
  rw [string16,same,front,List.takeWhile_append,stop,List.append_nil]
  split
  · rename_i full
    exact ((List.takeWhile_sublist _).eq_of_length full).symm
  · rfl

theorem halve_length (count : Nat) (descriptor : List UInt16) : (halve count descriptor).length ≤ (count+1)/2 := by
  fun_induction halve count descriptor with
  | case1 descriptor => exact Nat.zero_le _
  | case2 count => exact Nat.zero_le _
  | case3 unit rest => exact Nat.le_refl 1
  | case4 count unit rest ih =>
    rw [List.length_cons]
    omega

theorem front_eq_self_iff (descriptor : List UInt16) :
    front descriptor = descriptor ↔ descriptor = [] ∨ ∃ unit, descriptor = [unit] ∧ unit ≠ 0 ∧ unit.toNat < 256 := by
  cases descriptor with
  | nil => exact iff_of_true rfl (.inl rfl)
  | cons unit rest =>
    cases rest with
    | nil =>
      have bound := unit.toNat_lt
      have one : front [unit] = if UInt16.ofNat (unit.toNat % 256) = 0 then [] else [UInt16.ofNat (unit.toNat % 256)] := by
        rw [front,List.length_singleton,halve,List.takeWhile_cons]
        by_cases zero : UInt16.ofNat (unit.toNat % 256) = 0
        · rw [if_pos zero,zero]
          rfl
        · rw [if_neg zero,decide_eq_true zero]
          rfl
      rw [one]
      constructor
      · intro same
        split at same
        · cases same
        · rename_i some_
          have low := (List.cons.inj same).1
          rw [low] at some_
          refine .inr ⟨unit,rfl,some_,?_⟩
          have value := congrArg UInt16.toNat low
          rw [UInt16.toNat_ofNat'] at value
          omega
      · rintro (none_ | ⟨only,same,some_,low⟩)
        · cases none_
        · cases same
          rw [Nat.mod_eq_of_lt low,UInt16.ofNat_toNat,if_neg some_]
    | cons next rest =>
      refine iff_of_false ?_ ?_
      · intro same
        have short : (front (unit :: next :: rest)).length ≤ (rest.length+3)/2 :=
          (List.takeWhile_sublist _).length_le.trans (halve_length _ _)
        rw [same,List.length_cons,List.length_cons] at short
        omega
      · rintro (none_ | ⟨only,one,-⟩)
        · cases none_
        · cases one

end Descriptor

section Secure
variable {str16ToStr8 : List UInt16 → List UInt8} {text : List UInt16}

def dot : UInt16 := 46

/-- The conversion gives the UTF-8 text of a text of paired surrogates, and an empty one of any other. -/
structure Converts (str16ToStr8 : List UInt16 → List UInt8) : Prop where
  converts : ∀ text chars, ofUtf16 text = some chars → str16ToStr8 text = utf8 chars
  fails : ∀ text, ofUtf16 text = none → str16ToStr8 text = []

theorem dot_plain : isSurrogate dot = false := by decide

theorem utf8_dot (chars : List Char) : utf8 (Char.ofNat dot.toNat :: chars) = 46 :: utf8 chars := rfl

theorem mark_iff {chars : List Char} (decoded : ofUtf16 text = some chars) : 46 ∈ utf8 chars ↔ dot ∈ text :=
  mem_utf8_ofUtf16 decoded (by decide) rfl

/-- A text is secured before or after its conversion. -/
theorem secure_of_converted (converts : Converts str16ToStr8) {chars : List Char} (decoded : ofUtf16 text = some chars) :
    (dot ∉ text ∧ convertToSecureDesc (str16ToStr8 text) = str16ToStr8 text) ∨
      ∃ tail rest, fromLast dot text = some tail ∧ ofUtf16 tail = some rest ∧
        convertToSecureDesc (str16ToStr8 text) = 42 :: utf8 rest := by
  have bytes := converts.converts text chars decoded
  cases found : fromLast dot text with
  | none =>
    have absent := fromLast_eq_none_iff.mp found
    left
    refine ⟨absent,?_⟩
    rw [convertToSecureDesc,bytes,fromLast_eq_none_iff.mpr (mt (mark_iff decoded).mp absent)]
  | some tail =>
    right
    obtain ⟨front,back,rfl,last,rfl⟩ := append_of_fromLast found
    rw [ofUtf16_split dot_plain] at decoded
    obtain ⟨first,-,more⟩ := Option.bind_eq_some_iff.mp decoded
    obtain ⟨second,behind,rfl⟩ := Option.map_eq_some_iff.mp more
    have tail : ofUtf16 (dot :: back) = some (Char.ofNat dot.toNat :: second) := by rw [ofUtf16_cons dot_plain,behind]; rfl
    refine ⟨dot :: back,Char.ofNat dot.toNat :: second,rfl,tail,?_⟩
    rw [convertToSecureDesc,bytes,utf8_append,utf8_dot,fromLast_append (mt (mark_iff behind).mp last)]

theorem secure_failed (converts : Converts str16ToStr8) (failed : ofUtf16 text = none) :
    convertToSecureDesc (str16ToStr8 text) = [] := by
  rw [converts.fails text failed]
  rfl

theorem utf8_eq_nil {chars : List Char} (none_ : utf8 chars = []) : chars = [] := utf8_injective none_

theorem secure_eq_nil_iff (converts : Converts str16ToStr8) : convertToSecureDesc (str16ToStr8 text) = [] ↔ text = [] ∨ ofUtf16 text = none := by
  cases decoded : ofUtf16 text with
  | none => exact iff_of_true (secure_failed converts decoded) (.inr rfl)
  | some chars =>
    have bytes := converts.converts text chars decoded
    rcases secure_of_converted converts decoded with ⟨-,same⟩ | ⟨tail,rest,found,-,same⟩
    · rw [same,bytes]
      constructor
      · intro none_
        rw [utf8_eq_nil none_] at decoded
        exact .inl (ofUtf16_injective decoded rfl)
      · rintro (none_ | never)
        · rw [none_] at decoded
          cases decoded
          rfl
        · cases never
    · rw [same]
      refine iff_of_false (List.cons_ne_nil _ _) ?_
      rintro (none_ | never)
      · rw [none_] at found
        cases found
      · cases never

theorem dot_mem_of_fromLast {tail : List UInt16} (found : fromLast dot text = some tail) : dot ∈ text ∧ dot ∈ tail := by
  obtain ⟨front,back,rfl,-,rfl⟩ := append_of_fromLast found
  exact ⟨List.mem_append_right _ List.mem_cons_self,List.mem_cons_self⟩

theorem plain_ne_secured {part tail : List UInt16} {chars rest : List Char} (decoded : ofUtf16 part = some chars) (absent : dot ∉ part)
    (found : fromLast dot text = some tail) (behind : ofUtf16 tail = some rest) : utf8 chars ≠ 42 :: utf8 rest := by
  intro same
  apply absent
  rw [← mark_iff decoded,same]
  exact List.mem_cons_of_mem _ ((mark_iff behind).mpr (dot_mem_of_fromLast found).2)

/-- When the secured texts are equal: the texts, their parts from the last dot, or neither can be converted. -/
theorem secure_eq_iff (converts : Converts str16ToStr8) {part : List UInt16} (empty : text = [] → part = text) :
    convertToSecureDesc (str16ToStr8 part) = convertToSecureDesc (str16ToStr8 text) ↔
      part = text ∨ (ofUtf16 text ≠ none ∧ ofUtf16 part ≠ none ∧ ∃ tail, fromLast dot part = some tail ∧ fromLast dot text = some tail) ∨
        (ofUtf16 text = none ∧ (part = [] ∨ ofUtf16 part = none)) := by
  cases whole : ofUtf16 text with
  | none =>
    rw [secure_failed converts whole,secure_eq_nil_iff converts]
    constructor
    · exact fun nothing => .inr (.inr ⟨rfl,nothing⟩)
    · rintro (same | ⟨never,-⟩ | ⟨-,nothing⟩)
      · exact .inr (same ▸ whole)
      · exact absurd rfl never
      · exact nothing
  | some chars =>
    cases piece : ofUtf16 part with
    | none =>
      rw [secure_failed converts piece,eq_comm,secure_eq_nil_iff converts,whole]
      constructor
      · rintro (none_ | never)
        · exact .inl (empty none_)
        · cases never
      · rintro (same | ⟨-,never,-⟩ | ⟨never,-⟩)
        · rw [same,whole] at piece
          cases piece
        · exact absurd rfl never
        · cases never
    | some units =>
      have partBytes := converts.converts part units piece
      have textBytes := converts.converts text chars whole
      rcases secure_of_converted converts piece with ⟨partPlain,partSame⟩ | ⟨partTail,partRest,partFound,partDecoded,partSame⟩
      · rcases secure_of_converted converts whole with ⟨textPlain,textSame⟩ | ⟨textTail,textRest,textFound,textDecoded,textSame⟩
        · rw [partSame,textSame,partBytes,textBytes]
          constructor
          · intro same
            rw [utf8_injective same] at piece
            exact .inl (ofUtf16_injective piece whole)
          · rintro (same | ⟨-,-,tail,found,-⟩ | ⟨never,-⟩)
            · rw [same,whole] at piece
              rw [Option.some.inj piece]
            · exact absurd (dot_mem_of_fromLast found).1 partPlain
            · cases never
        · rw [partSame,textSame,partBytes]
          refine iff_of_false (plain_ne_secured piece partPlain textFound textDecoded) ?_
          rintro (same | ⟨-,-,tail,found,-⟩ | ⟨never,-⟩)
          · rw [same] at partPlain
            exact partPlain (dot_mem_of_fromLast textFound).1
          · exact partPlain (dot_mem_of_fromLast found).1
          · cases never
      · rcases secure_of_converted converts whole with ⟨textPlain,textSame⟩ | ⟨textTail,textRest,textFound,textDecoded,textSame⟩
        · rw [partSame,textSame,textBytes]
          refine iff_of_false (fun same => plain_ne_secured whole textPlain partFound partDecoded same.symm) ?_
          rintro (same | ⟨-,-,tail,-,found⟩ | ⟨never,-⟩)
          · rw [same] at partFound
            exact textPlain (dot_mem_of_fromLast partFound).1
          · exact textPlain (dot_mem_of_fromLast found).1
          · cases never
        · rw [partSame,textSame]
          constructor
          · intro same
            rw [utf8_injective (List.cons.inj same).2] at partDecoded
            rw [ofUtf16_injective partDecoded textDecoded] at partFound
            exact .inr (.inl ⟨Option.some_ne_none _,Option.some_ne_none _,textTail,partFound,textFound⟩)
          · intro equal
            have tails : partTail = textTail := by
              rcases equal with same | ⟨-,-,tail,one,two⟩ | ⟨never,-⟩
              · rw [same,textFound] at partFound
                exact (Option.some.inj partFound).symm
              · rw [partFound] at one
                rw [textFound] at two
                exact (Option.some.inj one).trans (Option.some.inj two).symm
              · cases never
            rw [tails,textDecoded] at partDecoded
            rw [Option.some.inj partDecoded]

/-- The part of a descriptor that is left is as good as the whole: it is the whole, or has the same part from the last dot, or neither
can be converted. -/
def Kept (descriptor : List UInt16) : Prop :=
  (descriptor = [] ∨ ∃ unit, descriptor = [unit] ∧ unit ≠ 0 ∧ unit.toNat < 256) ∨
    (ofUtf16 descriptor ≠ none ∧ ofUtf16 (front descriptor) ≠ none ∧
      ∃ tail, fromLast dot (front descriptor) = some tail ∧ fromLast dot descriptor = some tail) ∨
    (ofUtf16 descriptor = none ∧ (front descriptor = [] ∨ ofUtf16 (front descriptor) = none))

theorem secure_front_iff (converts : Converts str16ToStr8) (descriptor : List UInt16) :
    convertToSecureDesc (str16ToStr8 (front descriptor)) = convertToSecureDesc (str16ToStr8 descriptor) ↔ Kept descriptor := by
  have empty : descriptor = [] → front descriptor = descriptor := by
    rintro rfl
    rfl
  rw [secure_eq_iff converts empty,front_eq_self_iff,Kept]

end Secure

section Stubs

inductive Stub
  | callback (stub : DBinderCallbackStub)
  | service (stub : DBinderServiceStub)

def Stub.saveDBinderData : Stub → List UInt8 → Except Nat Block
  | .callback stub => stub.saveDBinderData
  | .service stub => stub.saveDBinderData

def Stub.descriptor : Stub → List UInt16
  | .callback stub => stub.descriptor
  | .service stub => stub.descriptor

/-- The session of a stub. -/
structure Session where
  stubIndex : UInt64
  tokenId : UInt32
  targetName : List UInt8
  targetDevice : List UInt8
  localDevice : List UInt8
deriving DecidableEq

/-- None where there is no session, or no block to fill in. -/
def Stub.session : Stub → Option Session
  | .callback stub =>
    if stub.allocated then some ⟨stub.stubIndex,stub.tokenId,stub.serviceName,stub.deviceID,stub.localDeviceID⟩ else none
  | .service stub =>
    if stub.service ∧ stub.allocated then
      stub.session.map fun session =>
        ⟨session.stubIndex,session.tokenId,session.serviceName,cString session.toDeviceId.array,cString session.fromDeviceId.array⟩
    else none

/-- Every field has room for its text. -/
def Fits (session : Session) (localName : List UInt8) (descriptor : List UInt16) : Prop :=
  session.targetName.length ≤ sessionNameLength ∧ session.targetDevice.length ≤ deviceidLength ∧
    session.localDevice.length ≤ deviceidLength ∧ localName.length ≤ sessionNameLength ∧ descriptor.length ≤ dbinderDescLength

/-- No text of a session has a NUL character. -/
def Terminated (session : Session) (localName : List UInt8) : Prop :=
  0 ∉ session.targetName ∧ 0 ∉ session.targetDevice ∧ 0 ∉ session.localDevice ∧ 0 ∉ localName

variable {stub : Stub} {session : Session} {localName : List UInt8}

/-- What `fill` leaves in the arrays. -/
structure Filled (data : Block) (session : Session) (localName : List UInt8) (descriptor : List UInt16) : Prop where
  proto : data.proto = .databus
  tokenid : data.tokenid = session.tokenId
  stubIndex : data.stubIndex = session.stubIndex
  targetName : cString data.targetName = session.targetName
  localName : cString data.localName = localName
  targetDevice : cString data.targetDevice = session.targetDevice
  localDevice : cString data.localDevice = session.localDevice
  desc : string16 data.desc = front descriptor

theorem units_length (descriptor : List UInt16) :
    ((Word.array descriptor).take descriptor.length).length = descriptor.length := by
  have width : Word.width UInt16 = 2 := rfl
  rw [List.length_take,Word.array_length,width]
  omega

/-- A device id as it is copied, and as it is read. -/
structure Copied (copy id : List UInt8) : Prop where
  read : cString (copy ++ zeros (deviceidLength+1-copy.length)) = id
  room : copy.length ≤ deviceidLength ↔ id.length ≤ deviceidLength

theorem copied_text {id : List UInt8} (terminated : 0 ∉ id) : Copied id id := ⟨cString_zeros terminated _,Iff.rfl⟩

theorem copied_array (id : DeviceId) : Copied (id.array.take deviceidLength) (cString id.array) := by
  have size : (id.array.take deviceidLength).length = deviceidLength := by
    rw [List.length_take,id.size]
    exact Nat.min_eq_left (Nat.le_succ _)
  have same : cString id.array = cString (id.array.take deviceidLength) := by
    rw [← cString_append_zero (id.array.take deviceidLength) []]
    exact congrArg cString (array_eq id).symm
  constructor
  · rw [size,Nat.add_sub_cancel_left,array_eq]
  · rw [size,same]
    exact iff_of_true (Nat.le_refl _) ((cString_length_le _).trans (Nat.le_of_eq size))

theorem fill_cases {descriptor : List UInt16} {targetDevice localDevice : List UInt8} (target : Copied targetDevice session.targetDevice)
    (local_ : Copied localDevice session.localDevice) (terminated : Terminated session localName) :
    (Fits session localName descriptor ∧
        ∃ data, fill session.stubIndex session.tokenId session.targetName targetDevice localDevice localName descriptor = some data ∧
          Filled data session localName descriptor) ∨
      (¬Fits session localName descriptor ∧
        fill session.stubIndex session.tokenId session.targetName targetDevice localDevice localName descriptor = none) := by
  have units := units_length descriptor
  rw [Fits,← target.room,← local_.room]
  by_cases fits : session.targetName.length ≤ sessionNameLength ∧ targetDevice.length ≤ deviceidLength ∧
      localDevice.length ≤ deviceidLength ∧ localName.length ≤ sessionNameLength ∧ descriptor.length ≤ dbinderDescLength
  · left
    obtain ⟨name,first,second,other,desc⟩ := fits
    have copied : memcpyS (zeros (2*(dbinderDescLength+1))) dbinderDescLength ((Word.array descriptor).take descriptor.length) =
        some ((Word.array descriptor).take descriptor.length ++ zeros (2*(dbinderDescLength+1)-descriptor.length)) := by
      rw [memcpyS,if_neg (by rw [units]; exact Nat.not_lt.mpr desc),units,zeros,List.drop_replicate]
      rfl
    rw [fill,memcpyS_zeros name,memcpyS_zeros first,memcpyS_zeros second,memcpyS_zeros other,copied]
    exact ⟨⟨name,first,second,other,desc⟩,_,rfl,⟨rfl,rfl,rfl,cString_zeros terminated.1 _,cString_zeros terminated.2.2.2 _,target.read,
      local_.read,string16_array (by simp only [dbinderDescLength] at desc ⊢; omega)⟩⟩
  · right
    refine ⟨fits,?_⟩
    rw [fill]
    by_cases name : session.targetName.length ≤ sessionNameLength
    · rw [memcpyS_zeros name]
      by_cases first : targetDevice.length ≤ deviceidLength
      · rw [memcpyS_zeros first]
        by_cases second : localDevice.length ≤ deviceidLength
        · rw [memcpyS_zeros second]
          by_cases other : localName.length ≤ sessionNameLength
          · rw [memcpyS_zeros other]
            have desc : dbinderDescLength < ((Word.array descriptor).take descriptor.length).length := by
              rw [units]
              exact Nat.lt_of_not_le fun desc => fits ⟨name,first,second,other,desc⟩
            rw [memcpyS_none desc]
            rfl
          · rw [memcpyS_none (Nat.lt_of_not_le other)]
            rfl
        · rw [memcpyS_none (Nat.lt_of_not_le second)]
          rfl
      · rw [memcpyS_none (Nat.lt_of_not_le first)]
        rfl
    · rw [memcpyS_none (Nat.lt_of_not_le name)]
      rfl

theorem save_cases (found : stub.session = some session) (terminated : Terminated session localName) :
    (Fits session localName stub.descriptor ∧ ∃ data, stub.saveDBinderData localName = .ok data ∧ Filled data session localName stub.descriptor) ∨
      (¬Fits session localName stub.descriptor ∧ ∃ error, stub.saveDBinderData localName = .error error) := by
  cases stub with
  | callback stub =>
    rw [Stub.session] at found
    split at found
    · rename_i allocated
      cases found
      simp only [Stub.saveDBinderData,DBinderCallbackStub.saveDBinderData,allocated,not_true,if_false]
      have filled := @fill_cases ⟨stub.stubIndex,stub.tokenId,stub.serviceName,stub.deviceID,stub.localDeviceID⟩ localName stub.descriptor _ _
        (copied_text terminated.2.1) (copied_text terminated.2.2.1) terminated
      rcases filled with ⟨fits,data,done,filled⟩ | ⟨long,failed⟩
      · simp only at done
        rw [done]
        exact .inl ⟨fits,data,rfl,filled⟩
      · simp only at failed
        rw [failed]
        exact .inr ⟨long,_,rfl⟩
    · cases found
  | service stub =>
    rw [Stub.session] at found
    split at found
    · rename_i ready
      obtain ⟨there,same,rfl⟩ := Option.map_eq_some_iff.mp found
      simp only [Stub.saveDBinderData,DBinderServiceStub.saveDBinderData,ready.1,ready.2,same,not_true,if_false]
      have filled := @fill_cases ⟨there.stubIndex,there.tokenId,there.serviceName,cString there.toDeviceId.array,
        cString there.fromDeviceId.array⟩ localName stub.descriptor _ _ (copied_array there.toDeviceId) (copied_array there.fromDeviceId)
        terminated
      rcases filled with ⟨fits,data,done,filled⟩ | ⟨long,failed⟩
      · simp only at done
        rw [done]
        exact .inl ⟨fits,data,rfl,filled⟩
      · simp only at failed
        rw [failed]
        exact .inr ⟨long,_,rfl⟩
    · cases found

theorem save_none (none_ : stub.session = none) : ∃ error, stub.saveDBinderData localName = .error error := by
  cases stub with
  | callback stub =>
    rw [Stub.session] at none_
    split at none_
    · cases none_
    · rename_i refused
      rw [Stub.saveDBinderData,DBinderCallbackStub.saveDBinderData,if_pos refused]
      exact ⟨_,rfl⟩
  | service stub =>
    rw [Stub.session] at none_
    rw [Stub.saveDBinderData,DBinderServiceStub.saveDBinderData]
    by_cases service : stub.service = true
    · rw [if_neg (not_not.mpr service)]
      cases same : stub.session with
      | none => exact ⟨_,rfl⟩
      | some there =>
        by_cases allocated : stub.allocated = true
        · rw [if_pos ⟨service,allocated⟩,same] at none_
          cases none_
        · simp only [if_pos allocated]
          exact ⟨_,rfl⟩
    · rw [if_pos service]
      exact ⟨_,rfl⟩

end Stubs

section Recovery
variable (str16ToStr8 : List UInt16 → List UInt8) (makeDBinderTransSession : DBinderNegotiationData → Bool)
variable (stub : Stub) (localName : List UInt8)

/-- What a proxy of the session works with. -/
def negotiated (session : Session) (localName : List UInt8) (peer : Int32 × Int32) : DBinderNegotiationData :=
  ⟨peer.1,peer.2,session.tokenId,session.stubIndex,session.targetName,session.targetDevice,localName,session.localDevice⟩

/-- The target name is one of a process, to which a session can be opened. -/
def Opens (session : Session) (localName : List UInt8) : Prop :=
  ∃ peer, getPidAndUidFromServiceName session.targetName = some peer ∧ makeDBinderTransSession (negotiated session localName peer) = true

/-- Any proxy that is given the block has the session and the descriptor afterwards. -/
def Recovers (data : Block) (session : Session) (localName : List UInt8) (descriptor : List UInt16) : Prop :=
  ∀ (checkHaveSession : Bool) (proxy : IPCObjectProxy) (after : IPCObjectProxy),
    (proxy.updateProto str16ToStr8 makeDBinderTransSession checkHaveSession (some data)).2 = after →
      after.remoteDescriptor = convertToSecureDesc (str16ToStr8 descriptor) ∧
        ∃ got, getDBinderNegotiationData after.dbinderData = some got ∧ got.stubIndex = session.stubIndex ∧
          got.peerTokenId = session.tokenId ∧ got.peerServiceName = session.targetName ∧ got.localServiceName = localName ∧
          got.peerDeviceId = session.targetDevice ∧ got.localDeviceId = session.localDevice

/-- A saved block is recovered whole, and no text is saved that does not fit. -/
def Met : Prop :=
  (∀ data, stub.saveDBinderData localName = .ok data →
    ∃ session, stub.session = some session ∧ Recovers str16ToStr8 makeDBinderTransSession data session localName stub.descriptor) ∧
  ∀ session, stub.session = some session → ¬Fits session localName stub.descriptor → ∃ error, stub.saveDBinderData localName = .error error

variable {str16ToStr8 makeDBinderTransSession stub localName} {session : Session} {data : Block} {descriptor : List UInt16}

theorem Filled.negotiation (filled : Filled data session localName descriptor) :
    getDBinderNegotiationData (some data) = (getPidAndUidFromServiceName session.targetName).map (negotiated session localName) := by
  simp only [getDBinderNegotiationData,Option.bind_eq_bind,Option.bind_some,filled.targetName,filled.localName,filled.targetDevice,
    filled.localDevice,filled.tokenid,filled.stubIndex]
  cases getPidAndUidFromServiceName session.targetName <;> rfl

theorem Filled.opened (filled : Filled data session localName descriptor) :
    updateDatabusClientSession makeDBinderTransSession (some data) = true ↔ Opens makeDBinderTransSession session localName := by
  rw [updateDatabusClientSession,filled.negotiation,Opens]
  cases getPidAndUidFromServiceName session.targetName with
  | none => exact iff_of_false Bool.false_ne_true (by rintro ⟨peer,never,-⟩; cases never)
  | some peer =>
    constructor
    · exact fun made => ⟨peer,rfl,made⟩
    · rintro ⟨other,same,made⟩
      cases same
      exact made

theorem Filled.recovers_iff (filled : Filled data session localName descriptor) (converts : Converts str16ToStr8) :
    Recovers str16ToStr8 makeDBinderTransSession data session localName descriptor ↔
      Opens makeDBinderTransSession session localName ∧ Kept descriptor := by
  rw [← secure_front_iff converts,← filled.opened,← filled.desc]
  by_cases opened : updateDatabusClientSession makeDBinderTransSession (some data) = true
  · have after (checkHaveSession : Bool) (proxy : IPCObjectProxy) :
        (proxy.updateProto str16ToStr8 makeDBinderTransSession checkHaveSession (some data)).2 =
          {proxy with proto := .databus,dbinderData := some data,
                      remoteDescriptor := convertToSecureDesc (str16ToStr8 (string16 data.desc))} := by
      simp only [IPCObjectProxy.updateProto,filled.proto,if_true,opened,not_true,if_false]
    constructor
    · intro recovers
      exact ⟨opened,(recovers false ⟨false,.binder,none,[]⟩ _ (after _ _)).1⟩
    · rintro ⟨-,same⟩ checkHaveSession proxy result updated
      rw [after] at updated
      subst updated
      obtain ⟨peer,found,-⟩ := filled.opened.mp opened
      refine ⟨same,negotiated session localName peer,?_,rfl,rfl,rfl,rfl,rfl,rfl⟩
      exact filled.negotiation.trans (by rw [found]; rfl)
  · refine iff_of_false ?_ fun both => opened both.1
    intro recovers
    have after : ((⟨false,.binder,none,[]⟩ : IPCObjectProxy).updateProto str16ToStr8 makeDBinderTransSession false (some data)).2 =
        ⟨true,.error,none,[]⟩ := by
      simp only [IPCObjectProxy.updateProto,filled.proto,if_true,opened]
      rfl
    obtain ⟨-,got,found,-⟩ := recovers false _ _ after
    cases found

/-- The session is recovered when it can be opened, and the descriptor when half of it is as good as the whole. -/
theorem met_iff_kept (converts : Converts str16ToStr8)
    (terminated : ∀ session, stub.session = some session → Terminated session localName) :
    Met str16ToStr8 makeDBinderTransSession stub localName ↔
      ∀ session, stub.session = some session → Fits session localName stub.descriptor →
        Opens makeDBinderTransSession session localName ∧ Kept stub.descriptor := by
  cases found : stub.session with
  | none =>
    obtain ⟨error,failed⟩ := @save_none stub localName found
    refine iff_of_true ⟨?_,?_⟩ ?_
    · intro data saved
      rw [failed] at saved
      cases saved
    · intro session never
      rw [found] at never
      cases never
    · intro session never
      cases never
  | some session =>
    rcases save_cases found (terminated session found) with ⟨fits,data,saved,filled⟩ | ⟨long,error,failed⟩
    · constructor
      · rintro ⟨whole,-⟩ other same _
        cases same
        obtain ⟨there,also,recovers⟩ := whole data saved
        rw [found] at also
        cases also
        exact (filled.recovers_iff converts).mp recovers
      · intro condition
        refine ⟨?_,?_⟩
        · intro other also
          rw [saved] at also
          cases also
          exact ⟨session,found,(filled.recovers_iff converts).mpr (condition session rfl fits)⟩
        · intro other same long
          rw [found] at same
          cases same
          exact absurd fits long
    · refine iff_of_true ⟨?_,fun _ _ _ => ⟨error,failed⟩⟩ ?_
      · intro data saved
        rw [failed] at saved
        cases saved
      · intro other same fits
        cases same
        exact absurd fits long

/-- A conversion as `Converts` describes it. -/
def toUtf8 (text : List UInt16) : List UInt8 :=
  match ofUtf16 text with
  | some chars => utf8 chars
  | none => []

theorem converts_toUtf8 : Converts toUtf8 := by
  constructor
  · intro text chars decoded
    rw [toUtf8,decoded]
  · intro text failed
    rw [toUtf8,failed]

/-- A stub for `DBinder1_2` with a descriptor. -/
def stubOf (descriptor : List UInt16) : Stub :=
  .callback ⟨[68,66,105,110,100,101,114,49,95,50],[97],[98],7,8,descriptor,true⟩

theorem terminated_stubOf (descriptor : List UInt16) :
    ∀ session, (stubOf descriptor).session = some session → Terminated session [99] := by
  have texts : Terminated ⟨7,8,[68,66,105,110,100,101,114,49,95,50],[97],[98]⟩ [99] := ⟨by decide,by decide,by decide,by decide⟩
  intro session found
  cases found
  exact texts

/-- Of `a.b.b` the part `a.b` is left. -/
theorem met_iff_kept_dotted : Met toUtf8 (fun _ => true) (stubOf [97,46,98,46,98]) [99] := by
  refine (met_iff_kept converts_toUtf8 (terminated_stubOf _)).mpr ?_
  intro session found _
  cases found
  exact ⟨⟨(2,1),by decide,rfl⟩,.inr (.inl ⟨by decide,by decide,[46,98],by decide,by decide⟩)⟩

/-- Of `ab` only `a` is left. -/
theorem half_descriptor : ¬ ∀ (str16ToStr8 : List UInt16 → List UInt8) (makeDBinderTransSession : DBinderNegotiationData → Bool) (stub : Stub)
    (localName : List UInt8), Converts str16ToStr8 → (∀ data, makeDBinderTransSession data = true) →
    (∀ session, stub.session = some session → Terminated session localName) →
    Met str16ToStr8 makeDBinderTransSession stub localName := by
  intro claim
  have met := claim toUtf8 (fun _ => true) (stubOf [97,98]) [99] converts_toUtf8 (fun _ => rfl) (terminated_stubOf _)
  obtain ⟨session,-,recovers⟩ := met.1 _ (rfl : (stubOf [97,98]).saveDBinderData [99] = .ok _)
  have descriptor := (recovers false ⟨false,.binder,none,[]⟩ _ rfl).1
  revert descriptor
  decide

end Recovery

end CommunicationIpc.NegotiationData
