import CommunicationIpc.Kernel.Translate

/-! A flattened session: what of it arrives when its slot is read again. -/
namespace CommunicationIpc.SessionCodec
open CommunicationIpc.Library CommunicationIpc.Kernel.Package CommunicationIpc.Kernel.Translate

def readSession (memory : Memory) (slot : Nat) : Option Session := (unFlattenSession memory slot supportTokenidVersionNum).2

/-- What arrives of a session that was flattened: names end at a zero byte, and are cut where
their length does not fit the field. -/
def carried (session : Session) : Option Session :=
  if session.stubIndex = 0 then none
  else some { session with
    serviceName := cString (session.serviceName.take (session.serviceName.length % 2^16)),
    deviceId := cString (session.deviceId.take (session.deviceId.length % 2^16)) }

def Flattens (session : Session) : Prop :=
  0 < session.deviceId.length % 2^16 ∧ session.deviceId.length % 2^16 ≤ 64 ∧
    0 < session.serviceName.length % 2^16 ∧ session.serviceName.length % 2^16 ≤ 64

/-- A session that arrives as it was sent. -/
def Representable (session : Session) : Prop :=
  session.stubIndex ≠ 0 ∧ session.deviceId.length ≤ 64 ∧ 0 ∉ session.deviceId ∧
    session.serviceName.length ≤ 64 ∧ 0 ∉ session.serviceName

private theorem cut_name_eq_iff {name : List UInt8} (short : name.length % 2^16 ≤ 64) :
    cString (name.take (name.length % 2^16)) = name ↔ name.length ≤ 64 ∧ 0 ∉ name := by
  constructor
  · intro same
    have length := cString_length_le (name.take (name.length % 2^16))
    rw [same,List.length_take] at length
    have fits : name.length ≤ 64 := by omega
    rw [Nat.mod_eq_of_lt (by omega),List.take_length,cString_eq_self_iff] at same
    exact ⟨fits,same⟩
  · intro holds
    obtain ⟨fits,whole⟩ := holds
    rw [Nat.mod_eq_of_lt (by omega),List.take_length,cString_eq_self_iff]
    exact whole

theorem carried_eq_iff {session : Session} (flattens : Flattens session) :
    carried session = some session ↔ Representable session := by
  obtain ⟨-,device,-,service⟩ := flattens
  have devices := cut_name_eq_iff device
  have services := cut_name_eq_iff service
  unfold carried Representable
  split
  · rename_i zero
    simp [zero]
  · rename_i nonzero
    obtain ⟨serviceName,deviceId,stubIndex,tokenId⟩ := session
    simp only [Option.some.injEq,Session.mk.injEq,and_true] at devices services ⊢
    rw [devices,services]
    constructor
    · intro holds
      obtain ⟨⟨serviceFits,serviceWhole⟩,deviceFits,deviceWhole⟩ := holds
      exact ⟨nonzero,deviceFits,deviceWhole,serviceFits,serviceWhole⟩
    · intro holds
      obtain ⟨-,deviceFits,deviceWhole,serviceFits,serviceWhole⟩ := holds
      exact ⟨⟨serviceFits,serviceWhole⟩,deviceFits,deviceWhole⟩

theorem flattenSession_outside {memory flat : Memory} {slot size version : Nat} {session : Session}
    (flattened : flattenSession memory slot session version = (flat,size)) {i : Nat}
    (outside : i < slot ∨ slot+flatSessionLen ≤ i) : flat i = memory i := by
  simp only [flatSessionLen] at outside
  simp only [flattenSession] at flattened
  have zeros : (List.replicate flatSessionLen (0 : UInt8)).length = 280 := List.length_replicate
  have device : (session.deviceId.take (session.deviceId.length % 2^16)).length = session.deviceId.length % 2^16 := by
    rw [List.length_take]
    omega
  have service : (session.serviceName.take (session.serviceName.length % 2^16)).length =
      session.serviceName.length % 2^16 := by
    rw [List.length_take]
    omega
  split at flattened
  · rw [← (Prod.mk.inj flattened).1]
    simp (disch := omega) only [Memory.write_outside,Memory.writeBytes_outside]
  rename_i goodDevice
  simp only [deviceidLength] at goodDevice
  split at flattened
  · rw [← (Prod.mk.inj flattened).1]
    simp (disch := omega) only [Memory.write_outside,Memory.writeBytes_outside]
  · rename_i goodService
    simp only [supportTokenidServicenameLength] at goodService
    rw [← (Prod.mk.inj flattened).1]
    simp (disch := omega) only [Memory.write_outside,Memory.writeBytes_outside]

theorem readSession_flattenSession {memory flat : Memory} {slot size : Nat} {session : Session}
    (flattened : flattenSession memory slot session supportTokenidVersionNum = (flat,size)) (written : size ≠ 0) :
    size = flatSessionLen ∧ Flattens session ∧ readSession flat slot = carried session := by
  simp only [flattenSession] at flattened
  split at flattened
  · cases flattened
    exact absurd rfl written
  split at flattened
  · cases flattened
    exact absurd rfl written
  rename_i badDevice badService
  simp only [not_or,gt_iff_lt,Nat.not_lt,deviceidLength,supportTokenidServicenameLength] at badDevice badService
  obtain ⟨deviceSome,deviceFits⟩ := badDevice
  obtain ⟨serviceSome,serviceFits⟩ := badService
  generalize deviceLength : session.deviceId.length % 2^16 = deviceIdLength at *
  generalize serviceLength : session.serviceName.length % 2^16 = serviceNameLength at *
  have device : (session.deviceId.take deviceIdLength).length = deviceIdLength := by
    rw [List.length_take]
    omega
  have service : (session.serviceName.take serviceNameLength).length = serviceNameLength := by
    rw [List.length_take]
    omega
  have result := Prod.mk.inj flattened
  obtain ⟨chain,rfl⟩ := result
  refine ⟨rfl,⟨by omega,by omega,by omega,by omega⟩,?_⟩
  -- the words, each behind the writes that came after it
  have index : flat.read slot 8 = session.stubIndex.toNat := by
    rw [← chain]
    simp (disch := omega) only [Memory.read_write_apart,Memory.read_writeBytes_apart]
    rw [Memory.read_write]
    exact Nat.mod_eq_of_lt session.stubIndex.toNat_lt
  have version : flat.read (slot+142) 2 = supportTokenidVersionNum := by
    rw [← chain]
    simp (disch := omega) only [Memory.read_write_apart,Memory.read_writeBytes_apart]
    rw [Memory.read_write]
    rfl
  have magic : flat.read (slot+144) 4 = tokenidMagic := by
    rw [← chain]
    simp (disch := omega) only [Memory.read_write_apart,Memory.read_writeBytes_apart]
    rw [Memory.read_write]
    rfl
  have token : flat.read (slot+148) 4 = session.tokenId.toNat := by
    rw [← chain]
    simp (disch := omega) only [Memory.read_write_apart,Memory.read_writeBytes_apart]
    rw [Memory.read_write]
    exact Nat.mod_eq_of_lt session.tokenId.toNat_lt
  -- the names, in the memory where the receiver has set the last byte of each to zero
  have deviceName : cString (((flat.write (slot+12+64) 1 0).write (slot+77+64) 1 0).readBytes (slot+12) (64+1)) =
      cString (session.deviceId.take deviceIdLength) := by
    apply cString_readBytes (by omega)
    · rw [← chain]
      simp (disch := omega) only [Memory.readBytes_write_apart,Memory.readBytes_writeBytes_apart]
      exact Memory.readBytes_writeBytes _ _ _
    · rw [device,Memory.write_outside (by omega)]
      by_cases full : deviceIdLength = 64
      · rw [full]
        exact Memory.write_zero_byte _ _
      · rw [Memory.write_outside (by omega),← chain]
        simp (disch := omega) only [Memory.write_outside,Memory.writeBytes_outside]
        exact Memory.write_zero_byte _ _
  have serviceName : cString (((flat.write (slot+12+64) 1 0).write (slot+77+64) 1 0).readBytes (slot+77) (64+1)) =
      cString (session.serviceName.take serviceNameLength) := by
    apply cString_readBytes (by omega)
    · rw [← chain]
      simp (disch := omega) only [Memory.readBytes_write_apart]
      exact Memory.readBytes_writeBytes _ _ _
    · rw [service]
      by_cases full : serviceNameLength = 64
      · rw [full]
        exact Memory.write_zero_byte _ _
      · rw [Memory.write_outside (by omega),Memory.write_outside (by omega),← chain]
        exact Memory.write_zero_byte _ _
  have indexAgain : ((flat.write (slot+12+64) 1 0).write (slot+77+64) 1 0).read slot 8 = session.stubIndex.toNat := by
    rw [Memory.read_write_apart (by omega),Memory.read_write_apart (by omega),index]
  unfold readSession unFlattenSession carried
  rw [deviceLength,serviceLength]
  by_cases zero : session.stubIndex = 0
  · rw [if_pos zero,if_pos (by rw [index,zero]; rfl)]
  · have nonzero : ¬ flat.read slot 8 = 0 := by
      rw [index]
      exact fun none => zero (UInt64.toNat_inj.mp none)
    rw [if_neg zero,if_neg nonzero]
    simp only [version,magic,token,Nat.le_refl,true_and,if_true,deviceidLength,supportTokenidServicenameLength,deviceName,
      serviceName,indexAgain,UInt64.ofNat_toNat,UInt32.ofNat_toNat]

theorem unFlattenSession_outside (memory : Memory) (slot version : Nat) {i : Nat}
    (outside : i < slot ∨ slot+flatSessionLen ≤ i) : (unFlattenSession memory slot version).1 i = memory i := by
  simp only [flatSessionLen] at outside
  unfold unFlattenSession
  by_cases zero : memory.read slot 8 = 0
  · rw [if_pos zero]
  · rw [if_neg zero]
    simp only [deviceidLength,supportTokenidServicenameLength]
    rw [Memory.write_outside (by omega),Memory.write_outside (by omega)]

theorem unFlattenSession_congr {memory other : Memory} {slot : Nat}
    (same : ∀ i, slot ≤ i → i < slot+flatSessionLen → memory i = other i) (version : Nat) :
    (unFlattenSession memory slot version).2 = (unFlattenSession other slot version).2 := by
  simp only [flatSessionLen] at same
  have patched : ∀ i, slot ≤ i → i < slot+280 →
      ((memory.write (slot+12+64) 1 0).write (slot+77+64) 1 0) i =
        ((other.write (slot+12+64) 1 0).write (slot+77+64) 1 0) i := by
    intro i low high
    exact Memory.write_congr (Memory.write_congr (same i low high) _ _ _) _ _ _
  have word (offset width : Nat) (inside : offset+width ≤ 280) : memory.read (slot+offset) width = other.read (slot+offset) width :=
    Memory.read_congr fun i low high => same i (by omega) (by omega)
  have index : memory.read slot 8 = other.read slot 8 := word 0 8 (by omega)
  unfold unFlattenSession
  rw [index,word 142 2 (by omega),word 144 4 (by omega),word 148 4 (by omega)]
  by_cases zero : other.read slot 8 = 0
  · rw [if_pos zero,if_pos zero]
  · rw [if_neg zero,if_neg zero]
    simp only [deviceidLength,supportTokenidServicenameLength]
    rw [Memory.readBytes_congr fun i low high => patched i (by omega) (by omega),
      Memory.readBytes_congr fun i low high => patched i (by omega) (by omega),
      Memory.read_congr fun i low high => patched i (by omega) (by omega)]

theorem readSession_congr {memory other : Memory} {slot : Nat}
    (same : ∀ i, slot ≤ i → i < slot+flatSessionLen → memory i = other i) :
    readSession memory slot = readSession other slot :=
  unFlattenSession_congr same supportTokenidVersionNum

def Fits (session : Session) : Prop :=
  (1 ≤ session.deviceId.length ∧ session.deviceId.length ≤ deviceidLength) ∧
    1 ≤ session.serviceName.length ∧ session.serviceName.length ≤ supportTokenidServicenameLength

theorem flattenSession_nonzero_iff (memory : Memory) (slot version : Nat) (session : Session) :
    (flattenSession memory slot session version).2 ≠ 0 ↔ Flattens session := by
  simp only [flattenSession,Flattens,deviceidLength,supportTokenidServicenameLength]
  by_cases badDevice : session.deviceId.length % 2^16 = 0 ∨ session.deviceId.length % 2^16 > 64
  · simp only [badDevice,if_true]
    exact iff_of_false (not_not_intro rfl) (by omega)
  simp only [badDevice,if_false]
  by_cases badService : session.serviceName.length % 2^16 = 0 ∨ session.serviceName.length % 2^16 > 64
  · simp only [badService,if_true]
    exact iff_of_false (not_not_intro rfl) (by omega)
  · simp only [badService,if_false]
    exact iff_of_true (by decide) (by omega)

theorem readSession_carried {memory : Memory} {slot : Nat} {session : Session}
    (written : (flattenSession memory slot session supportTokenidVersionNum).2 ≠ 0) :
    readSession (flattenSession memory slot session supportTokenidVersionNum).1 slot = carried session := by
  have flattened : flattenSession memory slot session supportTokenidVersionNum =
      ((flattenSession memory slot session supportTokenidVersionNum).1,
        (flattenSession memory slot session supportTokenidVersionNum).2) := rfl
  exact (readSession_flattenSession flattened written).2.2

/-- A flattened session comes back: the structure is written exactly for the names that fit, nothing else is, and it is read back
as the session. -/
def RoundTrips (memory : Memory) (slot : Nat) (session : Session) : Prop :=
  let flat := flattenSession memory slot session supportTokenidVersionNum
  (flat.2 ≠ 0 ↔ Fits session) ∧
    (flat.2 ≠ 0 → (∀ i, i < slot ∨ slot+flatSessionLen ≤ i → flat.1 i = memory i) ∧ readSession flat.1 slot = some session)

/-- Only the structure is looked at: what is read does not depend on the bytes around it, and both names end inside it, however
many bytes could be read there. -/
def ReadsInside (memory : Memory) (slot version : Nat) : Prop :=
  let read := unFlattenSession memory slot version
  (∀ i, i < slot ∨ slot+flatSessionLen ≤ i → read.1 i = memory i) ∧
    (∀ other : Memory, (∀ i, slot ≤ i → i < slot+flatSessionLen → memory i = other i) →
      (unFlattenSession other slot version).2 = read.2) ∧
    ∀ session, read.2 = some session → ∀ more,
      cString (read.1.readBytes (slot+12) (deviceidLength+1+more)) = session.deviceId ∧
        cString (read.1.readBytes (slot+77) (supportTokenidServicenameLength+1+more)) = session.serviceName

theorem cString_readBytes_more {memory : Memory} {address limit : Nat} (stop : memory (address+limit) = 0) (more : Nat) :
    cString (memory.readBytes address (limit+1+more)) = cString (memory.readBytes address (limit+1)) := by
  have length := Memory.readBytes_length memory address limit
  have ended (count : Nat) (room : limit < count) :
      cString (memory.readBytes address count) = cString (memory.readBytes address limit) :=
    cString_readBytes (by rw [length]; exact room) (by rw [length]) (by rw [length,stop])
  rw [ended (limit+1+more) (by omega),ended (limit+1) (by omega)]

theorem readsInside (memory : Memory) (slot version : Nat) : ReadsInside memory slot version := by
  refine ⟨fun i outside => unFlattenSession_outside memory slot version outside,
    fun other same => (unFlattenSession_congr same version).symm,?_⟩
  intro session read more
  unfold unFlattenSession at read ⊢
  by_cases zero : memory.read slot 8 = 0
  · rw [if_pos zero] at read
    cases read
  · rw [if_neg zero] at read ⊢
    cases read
    have deviceStop : ((memory.write (slot+12+deviceidLength) 1 0).write (slot+77+supportTokenidServicenameLength) 1 0)
        (slot+12+deviceidLength) = 0 := by
      rw [Memory.write_outside (by simp only [deviceidLength,supportTokenidServicenameLength]; omega)]
      exact Memory.write_zero_byte _ _
    exact ⟨cString_readBytes_more deviceStop more,cString_readBytes_more (Memory.write_zero_byte _ _) more⟩

/-- A session with a stub index and a service name without zero bytes comes back exactly if it is not flattened, or fits and its
device id has no zero byte either; whatever bytes are read, only those of the structure are. -/
theorem flat_session_iff (memory : Memory) (slot : Nat) (session : Session) (named : 0 ∉ session.serviceName)
    (indexed : session.stubIndex ≠ 0) :
    (RoundTrips memory slot session ↔ (Flattens session → Fits session ∧ 0 ∉ session.deviceId)) ∧
      ∀ (content : Memory) (place version : Nat), ReadsInside content place version := by
  refine ⟨?_,readsInside⟩
  have written := flattenSession_nonzero_iff memory slot supportTokenidVersionNum session
  have fitting : Fits session → Flattens session := by
    simp only [Fits,Flattens,deviceidLength,supportTokenidServicenameLength]
    omega
  simp only [RoundTrips,written]
  constructor
  · rintro ⟨exactly,back⟩ flattens
    obtain ⟨-,same⟩ := back flattens
    rw [readSession_carried (written.mpr flattens),carried_eq_iff flattens] at same
    exact ⟨exactly.mp flattens,same.2.2.1⟩
  · intro good
    refine ⟨⟨fun flattens => (good flattens).1,fitting⟩,?_⟩
    intro flattens
    obtain ⟨fits,whole⟩ := good flattens
    have flattened : flattenSession memory slot session supportTokenidVersionNum =
        ((flattenSession memory slot session supportTokenidVersionNum).1,
          (flattenSession memory slot session supportTokenidVersionNum).2) := rfl
    refine ⟨fun i outside => flattenSession_outside flattened outside,?_⟩
    rw [readSession_carried (written.mpr flattens),carried_eq_iff flattens]
    exact ⟨indexed,fits.1.2,whole,fits.2.2,named⟩

def namedSession (deviceId : List UInt8) : Session := ⟨[115,118,99],deviceId,1,7⟩

theorem flat_session_longest : RoundTrips (fun _ => 255) 0 (namedSession (List.replicate 64 97)) := by
  refine (flat_session_iff _ 0 (namedSession (List.replicate 64 97)) (by decide) (by decide)).1.mpr ?_
  intro _
  refine ⟨?_,by decide⟩
  simp only [Fits,namedSession,List.length_replicate]
  decide

/-- A device id of 2^16+1 characters is flattened as its first one, and one with a zero byte inside comes back without what
follows it. -/
theorem flat_device_altered :
    Flattens (namedSession (List.replicate (2^16+1) 97)) ∧
      ¬ RoundTrips (fun _ => 255) 0 (namedSession (List.replicate (2^16+1) 97)) ∧
      readSession (flattenSession (fun _ => 255) 0 (namedSession [97,0,98]) supportTokenidVersionNum).1 0 =
        some (namedSession [97]) ∧
      ¬ RoundTrips (fun _ => 255) 0 (namedSession [97,0,98]) := by
  have long : Flattens (namedSession (List.replicate (2^16+1) 97)) := by
    simp only [Flattens,namedSession,List.length_replicate]
    decide
  have short : Flattens (namedSession [97,0,98]) := by
    unfold Flattens
    decide
  have written := (flattenSession_nonzero_iff (fun _ => 255) 0 supportTokenidVersionNum (namedSession [97,0,98])).mpr short
  have read : readSession (flattenSession (fun _ => 255) 0 (namedSession [97,0,98]) supportTokenidVersionNum).1 0 =
      some (namedSession [97]) := by
    rw [readSession_carried written]
    decide
  refine ⟨long,?_,read,?_⟩
  · intro trips
    have fits := trips.1.mp ((flattenSession_nonzero_iff _ _ _ _).mpr long)
    simp only [Fits,namedSession,List.length_replicate,deviceidLength] at fits
    omega
  · intro trips
    have same := (trips.2 written).2
    rw [read] at same
    exact absurd same (by decide)

end CommunicationIpc.SessionCodec
