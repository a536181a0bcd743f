import CommunicationIpc.Framing

/-! The C invoker finds the packages of a buffer as the databus invoker does, and passes
the head of the buffer on for each of them. -/
namespace CommunicationIpc.LiteFraming
open CommunicationIpc.Library CommunicationIpc.Kernel.Framing.Lite
open CommunicationIpc.Kernel.Package (TransactionData dbinderMagicword socketMaxBuffSize)
open CommunicationIpc.Kernel.Framing (Slice)
open CommunicationIpc.Kernel.Translate (wrap32)
open CommunicationIpc.Package (wrap64_of_lt)
open CommunicationIpc.Framing (announced announced_readBytes headed readBytes_split wrap32_of_lt)

def Accepted (package : List UInt8) : Prop :=
  0 < hasCompletePackage (.ofBytes package) 0 package.length ∧
    hasCompletePackage (.ofBytes package) 0 package.length = package.length

def WellFormed (tr : TransactionData) : Prop :=
  tr.magic = dbinderMagicword ∧ tr.sizeOfSelf ≤ socketMaxBuffSize+headerSize ∧ checkTransactionData tr = true

instance : DecidablePred WellFormed := fun tr => by
  unfold WellFormed
  infer_instance

theorem wellFormed_header {tr : TransactionData} (wellFormed : WellFormed tr) : headerSize < tr.sizeOfSelf := by
  obtain ⟨-,-,checked⟩ := wellFormed
  unfold checkTransactionData at checked
  split at checked
  · cases checked
  rename_i sizes
  simp only [not_or,Nat.not_lt,gt_iff_lt] at sizes
  obtain ⟨-,-,capped,positive,-,covers⟩ := sizes
  simp only [socketMaxBuffSize] at capped
  rw [wrap64_of_lt (by simp only [headerSize]; omega)] at covers
  omega

theorem wellFormed_covered (tr : TransactionData) (wellFormed : WellFormed tr) :
    CommunicationIpc.Kernel.Package.headerSize < tr.sizeOfSelf :=
  Nat.lt_trans (by decide) (wellFormed_header wellFormed)

def packages : Framer UInt8 := headed wellFormed_covered

theorem hasCompletePackage_eq (memory : Memory) (readCursor len : Nat) :
    hasCompletePackage memory readCursor len =
      if WellFormed (TransactionData.decode (memory.shift readCursor)) ∧
          wrap32 (readCursor+(TransactionData.decode (memory.shift readCursor)).sizeOfSelf) ≤ len then
        (TransactionData.decode (memory.shift readCursor)).sizeOfSelf else 0 := by
  unfold hasCompletePackage
  apply if_congr
  · simp only [WellFormed,and_assoc]
    constructor
    · intro checks
      exact ⟨checks.1,checks.2.1,checks.2.2.2,checks.2.2.1⟩
    · intro checks
      exact ⟨checks.1,checks.2.1,checks.2.2.2,checks.2.2.1⟩
  · rfl
  · rfl

theorem shift_zero (memory : Memory) : memory.shift 0 = memory := by
  funext i
  simp only [Memory.shift,Nat.zero_add]

theorem accepted_eq : Accepted = packages.IsFrame := by
  funext package
  have same : hasCompletePackage (.ofBytes package) 0 package.length = announced WellFormed package := by
    rw [hasCompletePackage_eq,shift_zero,announced,Nat.zero_add]
    apply if_congr
    · apply and_congr_right
      intro wellFormed
      have limit := wellFormed.2.1
      simp only [socketMaxBuffSize,headerSize] at limit
      rw [wrap32_of_lt (by omega)]
    · rfl
    · rfl
  rw [Accepted,same]
  rfl

/-- The header at the cursor is well formed, and its size takes the cursor past the last 32-bit value. -/
def Overruns (memory : Memory) (len readCursor : Nat) : Prop :=
  readCursor+headerSize < len ∧ WellFormed (TransactionData.decode (memory.shift readCursor)) ∧
    2^32 ≤ readCursor+(TransactionData.decode (memory.shift readCursor)).sizeOfSelf

section Cursor
variable {memory : Memory} {len readSize size : Nat}

theorem packages_size_readBytes (value : packages.size (memory.readBytes readSize (len-readSize)) = size) (found : 0 < size) :
    WellFormed (TransactionData.decode (memory.shift readSize)) ∧ size ≤ len-readSize ∧
      size = (TransactionData.decode (memory.shift readSize)).sizeOfSelf := by
  have read : packages.size (memory.readBytes readSize (len-readSize)) = _ :=
    announced_readBytes wellFormed_covered memory readSize (len-readSize)
  rw [← value,read] at found ⊢
  split at found
  · rename_i complete
    rw [if_pos complete]
    exact ⟨complete.1,complete.2,rfl⟩
  · cases found

theorem hasCompletePackage_of_size (value : packages.size (memory.readBytes readSize (len-readSize)) = size)
    (found : 0 < size) (reach : readSize ≤ len) (small : len < 2^32) : hasCompletePackage memory readSize len = size := by
  obtain ⟨wellFormed,room,announces⟩ := packages_size_readBytes value found
  rw [hasCompletePackage_eq,← announces,wrap32_of_lt (by omega),if_pos ⟨wellFormed,by omega⟩]

theorem overruns_of_found (none : packages.size (memory.readBytes readSize (len-readSize)) = 0)
    (header : readSize+headerSize < len) (found : 0 < hasCompletePackage memory readSize len) :
    Overruns memory len readSize := by
  rw [hasCompletePackage_eq] at found
  split at found
  · rename_i complete
    refine ⟨header,complete.1,?_⟩
    by_contra below
    rw [Nat.not_le] at below
    have fits := complete.2
    rw [wrap32_of_lt below] at fits
    have read : packages.size (memory.readBytes readSize (len-readSize)) = _ :=
      announced_readBytes wellFormed_covered memory readSize (len-readSize)
    rw [none,if_pos ⟨complete.1,by omega⟩] at read
    omega
  · cases found

theorem Overruns.found (overruns : Overruns memory len readSize) (small : len < 2^32) :
    0 < hasCompletePackage memory readSize len := by
  obtain ⟨header,wellFormed,past⟩ := overruns
  have limit := wellFormed.2.1
  have positive := wellFormed_header wellFormed
  rw [hasCompletePackage_eq,if_pos]
  · omega
  · refine ⟨wellFormed,?_⟩
    simp only [socketMaxBuffSize,headerSize] at limit header
    simp only [wrap32]
    omega

theorem Overruns.none (overruns : Overruns memory len readSize) (small : len < 2^32) :
    packages.size (memory.readBytes readSize (len-readSize)) = 0 := by
  by_contra other
  obtain ⟨-,room,announces⟩ := packages_size_readBytes rfl (Nat.pos_of_ne_zero other)
  obtain ⟨header,-,past⟩ := overruns
  omega

end Cursor

def fromStart (package : List UInt8) : Slice := ⟨0,package.length⟩

theorem readPackages_none {memory : Memory} {len readSize : Nat}
    (none : packages.size (memory.readBytes readSize (len-readSize)) = 0) (fits : ¬ Overruns memory len readSize)
    {fuel : Nat} (enough : 0 < fuel) : readPackages memory len fuel readSize = some [] := by
  obtain ⟨less,rfl⟩ : ∃ less, fuel = less+1 := ⟨fuel-1,by omega⟩
  rw [readPackages]
  split
  · rename_i header
    have absent : ¬ 0 < hasCompletePackage memory readSize len := fun found => fits (overruns_of_found none header found)
    exact if_neg absent
  · rfl

theorem readPackages_overruns {memory : Memory} {len readSize : Nat} (small : len < 2^32)
    (overruns : Overruns memory len readSize) {fuel : Nat} {handed : List Slice}
    (returned : readPackages memory len fuel readSize = some handed) : 0 < handed.length := by
  cases fuel with
  | zero => cases returned
  | succ fuel =>
    rw [readPackages,if_pos overruns.1] at returned
    simp only [if_pos (overruns.found small)] at returned
    obtain ⟨rest,-,rfl⟩ := Option.map_eq_some_iff.mp returned
    rw [List.length_cons]
    omega

/-- With `parts` the packages from the cursor on, one slice is handed over for each of them, always from
the start of the buffer, and more than that when the header behind them overruns. -/
structure Scanned (memory : Memory) (len readSize : Nat) (parts : List (List UInt8)) : Prop where
  longest : Longest packages.IsFrame (memory.readBytes readSize (len-readSize)) parts
  fits : ¬ Overruns memory len (readSize+parts.flatten.length) →
    ∀ fuel, parts.length < fuel → readPackages memory len fuel readSize = some (parts.map fromStart)
  overruns : Overruns memory len (readSize+parts.flatten.length) →
    ∀ fuel handed, readPackages memory len fuel readSize = some handed → parts.length < handed.length

theorem scanned_nil {memory : Memory} {len readSize : Nat} (small : len < 2^32)
    (none : packages.size (memory.readBytes readSize (len-readSize)) = 0) : Scanned memory len readSize [] where
  longest := Framer.longest_nil none
  fits := fun fits _ enough => readPackages_none none fits enough
  overruns := fun overruns _ _ returned => readPackages_overruns small overruns returned

theorem exists_scanned (memory : Memory) {len : Nat} (small : len < 2^32) (room : Nat) :
    ∀ readSize, readSize ≤ len → len-readSize ≤ room → ∃ parts, Scanned memory len readSize parts := by
  induction room with
  | zero =>
    intro readSize reach left
    refine ⟨[],scanned_nil small ?_⟩
    have limit := packages.size_le (memory.readBytes readSize (len-readSize))
    rw [Memory.readBytes_length] at limit
    omega
  | succ room ih =>
    intro readSize reach left
    obtain ⟨size,value⟩ : ∃ size, packages.size (memory.readBytes readSize (len-readSize)) = size := ⟨_,rfl⟩
    rcases Nat.eq_zero_or_pos size with none | found
    · subst none
      exact ⟨[],scanned_nil small value⟩
    obtain ⟨wellFormed,limit,announces⟩ := packages_size_readBytes value found
    have header : readSize+headerSize < len := by
      have covered := wellFormed_header wellFormed
      omega
    have complete := hasCompletePackage_of_size value found reach small
    have stays : wrap32 (readSize+size) = readSize+size := wrap32_of_lt (by omega)
    obtain ⟨head,tail⟩ := readBytes_split memory limit
    obtain ⟨parts,longest,hands,more⟩ := ih (readSize+size) (by omega) (by omega)
    have advance (fuel : Nat) : readPackages memory len (fuel+1) readSize =
        (readPackages memory len fuel (readSize+size)).map (⟨0,size⟩ :: ·) := by
      rw [readPackages,if_pos header,complete]
      simp only [if_pos found,stays]
    have width : (memory.readBytes readSize size).length = size := memory.readBytes_length readSize size
    have cursor : readSize+(memory.readBytes readSize size :: parts).flatten.length = readSize+size+parts.flatten.length := by
      rw [List.flatten_cons,List.length_append,width,Nat.add_assoc]
    refine ⟨memory.readBytes readSize size :: parts,?_,?_,?_⟩
    · rw [← Nat.sub_sub,← tail,← value] at longest
      rw [← value] at found
      have whole := Framer.longest_cons found longest
      rw [value,head] at whole
      exact whole
    · intro fits fuel enough
      rw [cursor] at fits
      obtain ⟨less,rfl⟩ : ∃ less, fuel = less+1 := ⟨fuel-1,by omega⟩
      rw [advance,hands fits less (by simpa using enough),Option.map_some,List.map_cons,fromStart,width]
    · intro overruns fuel handed returned
      rw [cursor] at overruns
      cases fuel with
      | zero => cases returned
      | succ fuel =>
        rw [advance] at returned
        obtain ⟨rest,later,rfl⟩ := Option.map_eq_some_iff.mp returned
        have counted := more overruns fuel rest later
        simpa using counted

/-- The loop returns, and what it has handed over is the longest run of packages at the head of the
buffer, each with its own bytes. -/
def HandsOver (sessionId : Int) (memory : Memory) (len : UInt32) : Prop :=
  ∃ handed : List Slice,
    (∃ enough, ∀ fuel, enough ≤ fuel → onMessageAvailable fuel sessionId (some memory) len = some handed) ∧
    Longest Accepted (memory.readBytes 0 len.toNat) (handed.map (Slice.bytes memory)) ∧
    ∀ slice ∈ handed, slice.offset+slice.size ≤ len.toNat

/-- Every package of the leading run has the bytes of the first. The session is open when there is one,
and no well-formed header behind the run takes the cursor past 32 bits. -/
def Repeats (sessionId : Int) (memory : Memory) (len : UInt32) : Prop :=
  ∀ parts : List (List UInt8), Longest Accepted (memory.readBytes 0 len.toNat) parts →
    (parts = [] ∨ 0 ≤ sessionId) ∧ (∀ part ∈ parts, ∀ other ∈ parts, part = other) ∧
      ¬ Overruns memory len.toNat parts.flatten.length

theorem isFrame_length {memory : Memory} {part : List UInt8} (frame : packages.IsFrame part)
    (same : memory.readBytes 0 part.length = part) : part.length = (TransactionData.decode memory).sizeOfSelf := by
  have value : packages.size (memory.readBytes 0 (part.length-0)) = part.length := by
    rw [Nat.sub_zero,same,frame.2]
  have positive := frame.1
  rw [frame.2] at positive
  have announces := (packages_size_readBytes value positive).2.2
  rwa [shift_zero] at announces

theorem not_overruns_start {memory : Memory} {len : Nat} : ¬ Overruns memory len 0 := by
  intro overruns
  obtain ⟨-,wellFormed,past⟩ := overruns
  have limit := wellFormed.2.1
  simp only [socketMaxBuffSize,headerSize] at limit
  rw [Nat.zero_add] at past
  omega

theorem bytes_fromStart {memory : Memory} {len : Nat} {parts : List (List UInt8)} {first : List UInt8}
    (leads : (first :: parts).flatten <+: memory.readBytes 0 len) (repeated : ∀ part ∈ parts, part = first) :
    ((first :: parts).map fromStart).map (Slice.bytes memory) = first :: parts := by
  have head : first <+: memory.readBytes 0 len := (List.prefix_append first parts.flatten).trans leads
  have own : memory.readBytes 0 first.length = first := by
    have room := head.length_le
    rw [Memory.readBytes_length] at room
    rw [← (readBytes_split memory room).1]
    exact (List.prefix_iff_eq_take.mp head).symm
  rw [List.map_map]
  nth_rewrite 2 [← List.map_id (first :: parts)]
  apply List.map_congr_left
  intro part member
  have same : part = first := by
    rcases List.mem_cons.mp member with same | later
    · exact same
    · exact repeated part later
  rw [same]
  exact own

theorem handsOver_repeats {sessionId : Int} {memory : Memory} {len : UInt32} (hands : HandsOver sessionId memory len) :
    Repeats sessionId memory len := by
  intro parts longest
  obtain ⟨handed,⟨enough,returned⟩,own,-⟩ := hands
  have same := own.unique longest
  by_cases refused : sessionId < 0 ∨ len.toNat < headerSize
  · have nothing : handed = [] := by
      have result := returned enough (Nat.le_refl _)
      simp only [onMessageAvailable,if_pos refused] at result
      exact (Option.some.inj result).symm
    rw [nothing] at same
    rw [← same]
    exact ⟨.inl rfl,fun _ member => absurd member List.not_mem_nil,not_overruns_start⟩
  have reads (fuel : Nat) (more : enough ≤ fuel) : readPackages memory len.toNat fuel 0 = some handed := by
    have result := returned fuel more
    simpa only [onMessageAvailable,if_neg refused] using result
  obtain ⟨scanned,found⟩ := exists_scanned memory len.toNat_lt len.toNat 0 (Nat.zero_le _) (Nat.le_refl _)
  have equal : scanned = parts := by
    rw [accepted_eq] at longest
    have other := found.longest
    rw [Nat.sub_zero] at other
    exact other.unique longest
  rw [equal] at found
  have fits := found.fits
  rw [Nat.zero_add] at fits
  have bounded : ¬ Overruns memory len.toNat parts.flatten.length := by
    intro overruns
    rw [← Nat.zero_add parts.flatten.length] at overruns
    have more := found.overruns overruns enough handed (reads enough (Nat.le_refl _))
    have count := congrArg List.length same
    rw [List.length_map] at count
    omega
  have slices : handed = parts.map fromStart := by
    have result := fits bounded (max enough (parts.length+1)) (by omega)
    rw [reads _ (by omega)] at result
    exact Option.some.inj result
  refine ⟨.inr (by omega),?_,bounded⟩
  -- each package reads the same first word, so all have one length and with it the same bytes
  have start (part : List UInt8) (member : part ∈ parts) : memory.readBytes 0 part.length = part := by
    have mapped : parts.map (fun part => memory.readBytes 0 part.length) = parts.map id := by
      rw [List.map_id]
      rw [slices,List.map_map] at same
      exact same
    exact List.map_inj_left.mp mapped part member
  intro part member other among
  rw [accepted_eq] at longest
  have width := isFrame_length (longest.framed part member) (start part member)
  have other_width := isFrame_length (longest.framed other among) (start other among)
  rw [← start part member,← start other among,width,other_width]

theorem repeats_handsOver {sessionId : Int} {memory : Memory} {len : UInt32} (repeats : Repeats sessionId memory len) :
    HandsOver sessionId memory len := by
  obtain ⟨parts,found⟩ := exists_scanned memory len.toNat_lt len.toNat 0 (Nat.zero_le _) (Nat.le_refl _)
  have longest := found.longest
  rw [Nat.sub_zero,← accepted_eq] at longest
  obtain ⟨opened,repeated,fits⟩ := repeats parts longest
  have slices := found.fits
  rw [Nat.zero_add] at slices
  have own : (parts.map fromStart).map (Slice.bytes memory) = parts := by
    cases parts with
    | nil => rfl
    | cons first parts =>
      exact bytes_fromStart longest.leads fun part member =>
        repeated part (List.mem_cons_of_mem first member) first List.mem_cons_self
  refine ⟨parts.map fromStart,⟨parts.length+1,?_⟩,?_,?_⟩
  · intro fuel enough
    simp only [onMessageAvailable]
    split
    · rename_i refused
      have none : parts = [] := by
        rcases opened with none | opened
        · exact none
        have short := longest.leads.length_le
        rw [Memory.readBytes_length] at short
        cases parts with
        | nil => rfl
        | cons first parts =>
          rw [accepted_eq] at longest
          have frame := longest.framed first List.mem_cons_self
          obtain ⟨wellFormed,-,announces⟩ := CommunicationIpc.Framing.announced_spec frame.1
          have header := wellFormed_header wellFormed
          have width : announced WellFormed first = first.length := frame.2
          rw [List.flatten_cons,List.length_append] at short
          omega
      rw [none]
      rfl
    · exact slices fits fuel enough
  · rwa [own]
  · intro slice member
    obtain ⟨part,among,rfl⟩ := List.mem_map.mp member
    have room := longest.leads.length_le
    have part_le := (List.sublist_flatten_of_mem among).length_le
    rw [Memory.readBytes_length] at room
    simp only [fromStart]
    omega

theorem handsOver_iff_repeats (sessionId : Int) (memory : Memory) (len : UInt32) :
    HandsOver sessionId memory len ↔ Repeats sessionId memory len :=
  ⟨handsOver_repeats,repeats_handsOver⟩

def samplePackage (code : Nat) : List UInt8 :=
  toLE 4 73 ++ toLE 4 dbinderMagicword ++ toLE 4 1 ++ toLE 4 bcTransaction ++ toLE 4 code ++
    toLE 4 0 ++ toLE 8 7 ++ toLE 8 1 ++ toLE 8 1 ++ toLE 8 0 ++ toLE 8 1 ++ toLE 8 0 ++ [0]

/-- Two requests in one buffer: the first is handed over twice and the second never. -/
theorem second_package_lost :
    Accepted (samplePackage 1) ∧ Accepted (samplePackage 2) ∧
      onMessageAvailable 3 1 (some (.ofBytes (samplePackage 1 ++ samplePackage 2))) 146 = some [⟨0,73⟩,⟨0,73⟩] ∧
      ¬ HandsOver 1 (.ofBytes (samplePackage 1 ++ samplePackage 2)) 146 := by
  have first : Accepted (samplePackage 1) := by
    unfold Accepted
    decide +kernel
  have second : Accepted (samplePackage 2) := by
    unfold Accepted
    decide +kernel
  refine ⟨first,second,by decide +kernel,?_⟩
  intro hands
  have whole : [samplePackage 1,samplePackage 2].flatten =
      Memory.readBytes (.ofBytes (samplePackage 1 ++ samplePackage 2)) 0 (146 : UInt32).toNat := by decide +kernel
  have longest : Longest Accepted [samplePackage 1,samplePackage 2].flatten [samplePackage 1,samplePackage 2] := by
    rw [accepted_eq] at first second ⊢
    apply Framer.longest_flatten
    simp only [List.forall_mem_cons,List.not_mem_nil]
    exact ⟨first,second,fun _ member => member.elim⟩
  rw [whole] at longest
  have same := (handsOver_repeats hands _ longest).2.1 (samplePackage 1) (by simp) (samplePackage 2) (by simp)
  exact absurd same (by decide +kernel)

end CommunicationIpc.LiteFraming
