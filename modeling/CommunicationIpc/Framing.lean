import CommunicationIpc.Kernel.Framing
import CommunicationIpc.Library.Framing
import CommunicationIpc.Package

/-! A received buffer is cut into the packages it consists of. -/
namespace CommunicationIpc.Framing
open CommunicationIpc.Library CommunicationIpc.Kernel.Package CommunicationIpc.Kernel.Framing CommunicationIpc.Kernel.Translate
open CommunicationIpc.Package

theorem wrap32_of_lt {value : Nat} (small : value < 2^32) : wrap32 value = value := Nat.mod_eq_of_lt small

theorem decode_ofBytes_append {bytes : List UInt8} (header : headerSize ≤ bytes.length) (more : List UInt8) :
    TransactionData.decode (.ofBytes (bytes ++ more)) = TransactionData.decode (.ofBytes bytes) := by
  apply decode_congr
  intro i inside
  simp only [Memory.ofBytes,List.getD_eq_getElem?_getD]
  rw [List.getElem?_append_left (by omega)]

theorem decode_readBytes {memory : Memory} {address count : Nat} (header : headerSize ≤ count) :
    TransactionData.decode (.ofBytes (memory.readBytes address count)) = TransactionData.decode (memory.shift address) := by
  apply decode_congr
  intro i inside
  exact Memory.ofBytes_readBytes (by omega)

section Headed
variable (good : TransactionData → Prop) [DecidablePred good]

/-- The size a well-formed header announces, when that much has been received. -/
def announced (bytes : List UInt8) : Nat :=
  let tr := TransactionData.decode (.ofBytes bytes)
  if good tr ∧ tr.sizeOfSelf ≤ bytes.length then tr.sizeOfSelf else 0

variable {good}

theorem announced_spec {bytes : List UInt8} (found : 0 < announced good bytes) :
    good (TransactionData.decode (.ofBytes bytes)) ∧ (TransactionData.decode (.ofBytes bytes)).sizeOfSelf ≤ bytes.length ∧
      announced good bytes = (TransactionData.decode (.ofBytes bytes)).sizeOfSelf := by
  simp only [announced] at found ⊢
  split at found
  · rename_i complete
    rw [if_pos complete]
    exact ⟨complete.1,complete.2,rfl⟩
  · cases found

theorem announced_append {bytes : List UInt8} (covered : ∀ tr, good tr → headerSize < tr.sizeOfSelf)
    (found : 0 < announced good bytes) (more : List UInt8) : announced good (bytes ++ more) = announced good bytes := by
  obtain ⟨wellFormed,received,value⟩ := announced_spec found
  have header := covered _ wellFormed
  rw [value]
  simp only [announced]
  rw [decode_ofBytes_append (by omega) more,if_pos]
  refine ⟨wellFormed,?_⟩
  rw [List.length_append]
  omega

theorem announced_take {bytes : List UInt8} (covered : ∀ tr, good tr → headerSize < tr.sizeOfSelf)
    (found : 0 < announced good bytes) :
    announced good (bytes.take (announced good bytes)) = announced good bytes := by
  obtain ⟨wellFormed,received,value⟩ := announced_spec found
  have header := covered _ wellFormed
  have width : (bytes.take (announced good bytes)).length = announced good bytes := List.length_take_of_le (by omega)
  have same := decode_ofBytes_append (Nat.le_of_lt (by rwa [width,value])) (bytes.drop (announced good bytes))
  rw [List.take_append_drop] at same
  rw [announced,← same,width]
  rw [if_pos ⟨wellFormed,Nat.le_of_eq value.symm⟩,value]

def headed (covered : ∀ tr, good tr → headerSize < tr.sizeOfSelf) : Framer UInt8 where
  size := announced good
  size_le := by
    intro bytes
    simp only [announced]
    split
    · rename_i complete
      exact complete.2
    · exact Nat.zero_le _
  alone := fun _ found => announced_take covered found
  extend := fun _ more found => announced_append covered found more

theorem announced_readBytes (covered : ∀ tr, good tr → headerSize < tr.sizeOfSelf) (memory : Memory) (address count : Nat) :
    announced good (memory.readBytes address count) =
      if good (TransactionData.decode (memory.shift address)) ∧
        (TransactionData.decode (memory.shift address)).sizeOfSelf ≤ count then
        (TransactionData.decode (memory.shift address)).sizeOfSelf else 0 := by
  simp only [announced,Memory.readBytes_length]
  by_cases header : headerSize ≤ count
  · rw [decode_readBytes header]
  · -- too short for a header, and no well-formed header announces that little
    rw [if_neg,if_neg]
    · intro complete
      have more := covered _ complete.1
      omega
    · intro complete
      have more := covered _ complete.1
      omega

end Headed

/-- A package that `HasCompletePackage` accepts, the whole of it and nothing more. -/
def Accepted (package : List UInt8) : Prop :=
  0 < hasCompletePackage (.ofBytes package) package.length ∧
    hasCompletePackage (.ofBytes package) package.length = package.length

def WellFormed (tr : TransactionData) : Prop :=
  tr.magic = dbinderMagicword ∧ tr.sizeOfSelf ≤ socketMaxBuffSize+headerSize ∧ checkTransactionData tr = true

instance : DecidablePred WellFormed := fun tr => by
  unfold WellFormed
  infer_instance

theorem wellFormed_covered (tr : TransactionData) (wellFormed : WellFormed tr) : headerSize < tr.sizeOfSelf := by
  obtain ⟨-,-,checked⟩ := wellFormed
  obtain ⟨-,positive,-,covers,-⟩ := checkTransactionData_spec checked
  omega

theorem hasCompletePackage_eq (memory : Memory) (received : Nat) :
    hasCompletePackage memory received =
      if WellFormed (TransactionData.decode memory) ∧ (TransactionData.decode memory).sizeOfSelf ≤ received then
        (TransactionData.decode memory).sizeOfSelf else 0 := by
  unfold hasCompletePackage
  split
  · rename_i short
    rw [if_neg]
    intro complete
    have header := wellFormed_covered _ complete.1
    omega
  · apply if_congr
    · simp only [WellFormed,and_assoc,ge_iff_le]
      constructor
      · intro checks
        exact ⟨checks.1,checks.2.1,checks.2.2.2,checks.2.2.1⟩
      · intro checks
        exact ⟨checks.1,checks.2.1,checks.2.2.2,checks.2.2.1⟩
    · rfl
    · rfl

def packages : Framer UInt8 := headed wellFormed_covered

theorem accepted_eq : Accepted = packages.IsFrame := by
  funext package
  have same : hasCompletePackage (.ofBytes package) package.length = announced WellFormed package :=
    hasCompletePackage_eq (.ofBytes package) package.length
  rw [Accepted,same]
  rfl

theorem hasCompletePackage_readBytes (memory : Memory) (address count : Nat) :
    hasCompletePackage (memory.shift address) count = packages.size (memory.readBytes address count) := by
  rw [hasCompletePackage_eq]
  exact (announced_readBytes wellFormed_covered memory address count).symm

theorem packages_size_readBytes {memory : Memory} {address count size : Nat}
    (value : packages.size (memory.readBytes address count) = size) (found : 0 < size) :
    headerSize < size ∧ size ≤ count ∧ size = (TransactionData.decode (memory.shift address)).sizeOfSelf := by
  have read : packages.size (memory.readBytes address count) = _ := announced_readBytes wellFormed_covered memory address count
  rw [← value,read] at found ⊢
  split at found
  · rename_i complete
    rw [if_pos complete]
    exact ⟨wellFormed_covered _ complete.1,complete.2,rfl⟩
  · cases found

/-- The slices from `readSize` on are the longest run of packages there, one behind the other. -/
structure Framed (memory : Memory) (len readSize : Nat) (slices : List Slice) : Prop where
  longest : Longest packages.IsFrame (memory.readBytes readSize (len-readSize)) (slices.map (Slice.bytes memory))
  inside : ∀ slice ∈ slices, readSize ≤ slice.offset ∧ slice.offset+slice.size ≤ len
  sized : ∀ slice ∈ slices, slice.size = (TransactionData.decode (memory.shift slice.offset)).sizeOfSelf
  apart : slices.Pairwise fun first later => first.offset+first.size ≤ later.offset

theorem framed_nil {memory : Memory} {len readSize : Nat} (none : packages.size (memory.readBytes readSize (len-readSize)) = 0) :
    Framed memory len readSize [] where
  longest := Framer.longest_nil none
  inside := fun _ member => absurd member List.not_mem_nil
  sized := fun _ member => absurd member List.not_mem_nil
  apart := .nil

theorem readBytes_split (memory : Memory) {address count size : Nat} (room : size ≤ count) :
    (memory.readBytes address count).take size = memory.readBytes address size ∧
      (memory.readBytes address count).drop size = memory.readBytes (address+size) (count-size) := by
  have cut := memory.readBytes_add address size (count-size)
  have width := memory.readBytes_length address size
  rw [Nat.add_sub_cancel' room] at cut
  rw [cut]
  exact ⟨List.take_left' width,List.drop_left' width⟩

theorem framed_cons {memory : Memory} {len readSize size : Nat} {slices : List Slice}
    (value : packages.size (memory.readBytes readSize (len-readSize)) = size) (found : 0 < size)
    (rest : Framed memory len (readSize+size) slices) : Framed memory len readSize (⟨readSize,size⟩ :: slices) := by
  obtain ⟨-,room,announces⟩ := packages_size_readBytes value found
  obtain ⟨head,tail⟩ := readBytes_split memory room
  refine ⟨?_,?_,?_,?_⟩
  · have later := rest.longest
    rw [← Nat.sub_sub,← tail,← value] at later
    rw [← value] at found
    have whole := Framer.longest_cons found later
    rw [value,head] at whole
    exact whole
  · intro slice member
    rcases List.mem_cons.mp member with first | later
    · subst first
      exact ⟨Nat.le_refl _,by dsimp only; omega⟩
    · have bounds := rest.inside slice later
      exact ⟨by omega,bounds.2⟩
  · intro slice member
    rcases List.mem_cons.mp member with first | later
    · subst first
      exact announces
    · exact rest.sized slice later
  · exact List.pairwise_cons.mpr ⟨fun slice member => (rest.inside slice member).1,rest.apart⟩

theorem readPackages_none {memory : Memory} {len readSize : Nat}
    (none : packages.size (memory.readBytes readSize (len-readSize)) = 0) {fuel : Nat} (enough : 0 < fuel) :
    readPackages memory len fuel readSize = some [] := by
  obtain ⟨less,rfl⟩ : ∃ less, fuel = less+1 := ⟨fuel-1,by omega⟩
  rw [readPackages,hasCompletePackage_readBytes,none]
  rfl

theorem readPackages_spec (memory : Memory) {len : Nat} (small : len ≤ maxRawdataSize) (room : Nat) :
    ∀ readSize, len-readSize ≤ room → ∃ slices,
      (∀ fuel, room < fuel → readPackages memory len fuel readSize = some slices) ∧ Framed memory len readSize slices := by
  -- each package takes more than a header from what is left
  induction room with
  | zero =>
    intro readSize left
    have none : packages.size (memory.readBytes readSize (len-readSize)) = 0 := by
      have limit := packages.size_le (memory.readBytes readSize (len-readSize))
      rw [Memory.readBytes_length] at limit
      omega
    exact ⟨[],fun _ enough => readPackages_none none enough,framed_nil none⟩
  | succ room ih =>
    intro readSize left
    obtain ⟨size,value⟩ : ∃ size, packages.size (memory.readBytes readSize (len-readSize)) = size := ⟨_,rfl⟩
    rcases Nat.eq_zero_or_pos size with none | found
    · subst none
      exact ⟨[],fun _ enough => readPackages_none value (by omega),framed_nil value⟩
    obtain ⟨header,limit,-⟩ := packages_size_readBytes value found
    have stays : wrap32 (readSize+size) = readSize+size := by
      apply wrap32_of_lt
      simp only [maxRawdataSize] at small
      omega
    obtain ⟨slices,returned,framed⟩ := ih (readSize+size) (by omega)
    by_cases more : readSize+size+headerSize < len
    · refine ⟨_,?_,framed_cons value found framed⟩
      intro fuel enough
      obtain ⟨less,rfl⟩ : ∃ less, fuel = less+1 := ⟨fuel-1,by omega⟩
      rw [readPackages,hasCompletePackage_readBytes,value]
      simp only [stays,if_pos found,if_pos more,returned less (by omega),Option.map_some]
    · have last : packages.size (memory.readBytes (readSize+size) (len-(readSize+size))) = 0 := by
        by_contra other
        have again := packages_size_readBytes rfl (Nat.pos_of_ne_zero other)
        omega
      refine ⟨_,?_,framed_cons value found (framed_nil last)⟩
      intro fuel enough
      obtain ⟨less,rfl⟩ : ∃ less, fuel = less+1 := ⟨fuel-1,by omega⟩
      rw [readPackages,hasCompletePackage_readBytes,value]
      simp only [stays,if_pos found,if_neg more]

theorem packages_size_short {bytes : List UInt8} (short : bytes.length < headerSize) : packages.size bytes = 0 := by
  by_contra other
  have found : 0 < announced WellFormed bytes := Nat.pos_of_ne_zero other
  obtain ⟨wellFormed,received,-⟩ := announced_spec found
  have header := wellFormed_covered _ wellFormed
  omega

/-- The loop returns, and what it has passed on are the packages at the head of the buffer. A socket
that is not positive, a buffer above `MAX_RAWDATA_SIZE` and one filled by a raw data package start nothing. -/
theorem onMessageAvailable_starts_longest (socketId : Int) (memory : Memory) (len : UInt32) :
    ∃ delivery : Delivery,
      (∃ enough, ∀ fuel, enough ≤ fuel → onMessageAvailable fuel socketId (some memory) len = some delivery) ∧
      (∀ slice ∈ delivery.started, slice.offset+slice.size ≤ len.toNat ∧
        slice.size = (TransactionData.decode (memory.shift slice.offset)).sizeOfSelf) ∧
      (delivery.started.Pairwise fun first later => first.offset+first.size ≤ later.offset) ∧
      (socketId ≤ 0 ∨ maxRawdataSize < len.toNat ∨ 0 < hasRawDataPackage memory len.toNat → delivery.started = []) ∧
      (0 < socketId → len.toNat ≤ maxRawdataSize → hasRawDataPackage memory len.toNat = 0 →
        Longest Accepted (memory.readBytes 0 len.toNat) (delivery.started.map (Slice.bytes memory)) ∧
        ∀ parts : List (List UInt8), (∀ part ∈ parts, Accepted part) → parts.flatten = memory.readBytes 0 len.toNat →
          delivery.started.map (Slice.bytes memory) = parts) := by
  rw [accepted_eq]
  by_cases refused : socketId ≤ 0 ∨ len.toNat > maxRawdataSize ∨ len.toNat < headerSize
  · refine ⟨ignored,⟨0,fun _ _ => if_pos refused⟩,fun _ member => absurd member List.not_mem_nil,.nil,fun _ => rfl,?_⟩
    intro positive small _
    have short : (memory.readBytes 0 len.toNat).length < headerSize := by
      rw [Memory.readBytes_length]
      omega
    have longest := Framer.longest_nil (packages_size_short short)
    refine ⟨longest,?_⟩
    intro parts framed whole
    rw [← whole] at longest
    exact longest.unique (Framer.longest_flatten framed)
  rcases Nat.eq_zero_or_pos (hasRawDataPackage memory len.toNat) with plain | raw
  · simp only [not_or,Int.not_le,gt_iff_lt,Nat.not_lt] at refused
    obtain ⟨slices,returned,framed⟩ := readPackages_spec memory refused.2.1 len.toNat 0 (Nat.le_refl _)
    refine ⟨⟨none,slices⟩,⟨len.toNat+1,?_⟩,fun slice member => ⟨(framed.inside slice member).2,framed.sized slice member⟩,
      framed.apart,?_,?_⟩
    · intro fuel enough
      simp only [onMessageAvailable]
      rw [if_neg (by omega),plain,if_neg (Nat.lt_irrefl 0),returned fuel enough,Option.map_some]
    · intro excluded
      omega
    · intro _ _ _
      have longest := framed.longest
      rw [Nat.sub_zero] at longest
      refine ⟨longest,?_⟩
      intro parts accepted whole
      rw [← whole] at longest
      exact longest.unique (Framer.longest_flatten accepted)
  · refine ⟨⟨some ((TransactionData.decode memory).seqNumber,hasRawDataPackage memory len.toNat),[]⟩,⟨0,?_⟩,
      fun _ member => absurd member List.not_mem_nil,.nil,fun _ => rfl,?_⟩
    · intro fuel _
      simp only [onMessageAvailable]
      rw [if_neg refused,if_pos raw]
    · intro _ _ plain
      omega

/-- A raw data package of 65 bytes that `HasCompletePackage` accepts as well. -/
def rawPackage : Memory := .ofBytes
  (toLE 4 65 ++ toLE 4 dbinderMagicword ++ toLE 4 2 ++ toLE 4 CommunicationIpc.Kernel.Marshal.bcSendRawdata ++ toLE 4 0 ++
    toLE 4 0 ++ toLE 8 0 ++ toLE 8 1 ++ toLE 8 1 ++ toLE 8 0 ++ toLE 8 1 ++ [0])

/-- It is the longest run of packages in its buffer, and no package is started. -/
theorem raw_package_not_started :
    Accepted (rawPackage.readBytes 0 65) ∧
      (∀ fuel, onMessageAvailable fuel 1 (some rawPackage) 65 = some ⟨some (1,65),[]⟩) ∧
      ¬ Longest Accepted (rawPackage.readBytes 0 65) [] := by
  have accepted : Accepted (rawPackage.readBytes 0 65) := by
    unfold Accepted
    decide +kernel
  refine ⟨accepted,?_,?_⟩
  · intro fuel
    have raw : hasRawDataPackage rawPackage 65 = 65 := by decide +kernel
    have number : (TransactionData.decode rawPackage).seqNumber = 1 := by decide +kernel
    have width : (65 : UInt32).toNat = 65 := rfl
    simp only [onMessageAvailable,width,raw,number]
    rfl
  · intro longest
    have more := longest.covers [rawPackage.readBytes 0 65] (by simpa using accepted) (by simp)
    simp at more

end CommunicationIpc.Framing
