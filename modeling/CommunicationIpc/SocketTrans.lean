import CommunicationIpc.Kernel.SocketTrans
import CommunicationIpc.LiteFraming

/-! A connection of the socket transport hands on the packages its peer has written exactly if each read brings copies of one
package: the reads follow the stream, and not its packages. -/
namespace CommunicationIpc.SocketTrans
open CommunicationIpc.Library CommunicationIpc.Kernel.Framing.Lite CommunicationIpc.Kernel.SocketTrans
open CommunicationIpc.Kernel.Package (socketMaxBuffSize)
open CommunicationIpc.Kernel.Framing (Slice)
open CommunicationIpc.Framing (readBytes_split)
open CommunicationIpc.LiteFraming

theorem isFrame_header {part : List UInt8} (frame : packages.IsFrame part) : headerSize < part.length := by
  obtain ⟨wellFormed,-,announces⟩ := CommunicationIpc.Framing.announced_spec frame.1
  have header := wellFormed_header wellFormed
  have width : packages.size part = part.length := frame.2
  have read : packages.size part = _ := announces
  omega

theorem not_overruns_small {memory : Memory} {len readCursor : Nat} (small : len ≤ defaultPacketSize) :
    ¬ Overruns memory len readCursor := by
  intro overruns
  obtain ⟨header,wellFormed,past⟩ := overruns
  have limit := wellFormed.2.1
  simp only [socketMaxBuffSize,headerSize] at limit header
  simp only [defaultPacketSize] at small
  omega

theorem bytes_fromStart_take {chunk part : List UInt8} (room : part.length ≤ chunk.length) :
    (fromStart part).bytes (.ofBytes chunk) = chunk.take part.length := by
  rw [fromStart,Slice.bytes,← (readBytes_split (.ofBytes chunk) room).1,Memory.readBytes_ofBytes]

theorem length_le_flatten {parts : List (List UInt8)} (framed : ∀ part ∈ parts, packages.IsFrame part) :
    parts.length ≤ parts.flatten.length := by
  induction parts with
  | nil => exact Nat.le_refl 0
  | cons part parts ih =>
    have header := isFrame_header (framed part List.mem_cons_self)
    have rest := ih fun other member => framed other (List.mem_cons_of_mem part member)
    rw [List.flatten_cons,List.length_append,List.length_cons]
    omega

/-- One read: a package starts for each package at the head of the chunk, always with the first bytes of the chunk. -/
theorem onRecieved_heads {fd : Int} (opened : 0 ≤ fd) {chunk : List UInt8} (small : chunk.length ≤ defaultPacketSize) :
    ∃ parts, Longest packages.IsFrame chunk parts ∧
      onRecieved fd chunk = some ((Framer.heads chunk parts).map .startProcessLoop) := by
  have width : (UInt32.ofNat chunk.length).toNat = chunk.length := by
    apply UInt32.toNat_ofNat_of_lt'
    simp only [defaultPacketSize] at small
    exact Nat.lt_of_le_of_lt small (by decide)
  obtain ⟨parts,scanned⟩ := exists_scanned (.ofBytes chunk) (UInt32.ofNat chunk.length).toNat_lt chunk.length 0
    (Nat.zero_le _) (by rw [width]; exact Nat.sub_le _ _)
  rw [width] at scanned
  have longest := scanned.longest
  rw [Nat.sub_zero,Memory.readBytes_ofBytes] at longest
  refine ⟨parts,longest,?_⟩
  have room := longest.leads.length_le
  have started : onMessageAvailable (chunk.length+1) fd (some (.ofBytes chunk)) (UInt32.ofNat chunk.length) =
      some (parts.map fromStart) := by
    simp only [onMessageAvailable,width]
    split
    · rename_i refused
      cases parts with
      | nil => rfl
      | cons part parts =>
        have header := isFrame_header (longest.framed part List.mem_cons_self)
        rw [List.flatten_cons,List.length_append] at room
        omega
    · apply scanned.fits (not_overruns_small small)
      have count := length_le_flatten longest.framed
      omega
  rw [onRecieved,started,Option.map_some,Framer.heads,List.map_map,List.map_map]
  apply congrArg some
  apply List.map_congr_left
  intro part member
  have part_le := (List.sublist_flatten_of_mem member).length_le
  exact congrArg Call.startProcessLoop (bytes_fromStart_take (Nat.le_trans part_le room))

theorem handleSendReply_heads {fd : Int} {chunks : List (List UInt8)} {run : List UInt8 → List (List UInt8)}
    (each : ∀ chunk ∈ chunks, onRecieved fd chunk = some ((Framer.heads chunk (run chunk)).map .startProcessLoop)) :
    handleSendReply fd (chunks.map .bytes ++ [.closed]) =
      some ((chunks.flatMap fun chunk => Framer.heads chunk (run chunk)).map .startProcessLoop ++ [.onDisconnected,.tcpShutDown]) := by
  induction chunks with
  | nil => rfl
  | cons chunk chunks ih =>
    have rest := ih fun other member => each other (List.mem_cons_of_mem chunk member)
    rw [List.map_cons,List.cons_append,handleSendReply,each chunk List.mem_cons_self,rest,List.flatMap_cons,List.map_append,
      List.append_assoc]
    rfl

/-- A peer writes packages and closes. However TCP cuts the stream into reads, the thread hands on these packages, in this
order and no others, if and only if every read brings one package, some number of times. -/
theorem packages_arrive {fd : Int} (opened : 0 ≤ fd) {written chunks : List (List UInt8)}
    (accepted : ∀ package ∈ written, Accepted package) (whole : chunks.flatten = written.flatten)
    (reads : ∀ chunk ∈ chunks, chunk ≠ [] ∧ chunk.length ≤ defaultPacketSize) :
    ∃ started : List (List UInt8),
      handleSendReply fd (chunks.map .bytes ++ [.closed]) = some (started.map .startProcessLoop ++ [.onDisconnected,.tcpShutDown]) ∧
      handleAccept fd true (chunks.map .bytes ++ [.closed]) =
        some (.onConnected :: (started.map .startProcessLoop ++ [.onDisconnected,.tcpShutDown])) ∧
      (started = written ↔
        ∀ chunk ∈ chunks, ∃ package count, Accepted package ∧ chunk = (List.replicate count package).flatten) := by
  rw [accepted_eq] at accepted ⊢
  have found (chunk : List UInt8) : ∃ parts, chunk ∈ chunks → Longest packages.IsFrame chunk parts ∧
      onRecieved fd chunk = some ((Framer.heads chunk parts).map .startProcessLoop) := by
    by_cases member : chunk ∈ chunks
    · obtain ⟨parts,heads⟩ := onRecieved_heads opened (reads chunk member).2
      exact ⟨parts,fun _ => heads⟩
    · exact ⟨[],fun other => absurd other member⟩
  choose run heads using found
  have handed := handleSendReply_heads fun chunk member => (heads chunk member).2
  refine ⟨_,handed,?_,?_⟩
  · rw [handleAccept,if_pos rfl,handed]
    rfl
  · exact Framer.flatMap_heads_iff accepted whole (fun chunk member => (reads chunk member).1)
      fun chunk member => (heads chunk member).1

/-- Two requests that one read brings: the second does not come out. -/
theorem packages_arrive_together :
    ∃ started : List (List UInt8),
      handleSendReply 3 ([samplePackage 1 ++ samplePackage 2].map .bytes ++ [.closed]) =
        some (started.map .startProcessLoop ++ [.onDisconnected,.tcpShutDown]) ∧
      started ≠ [samplePackage 1,samplePackage 2] := by
  have accepted : ∀ package ∈ [samplePackage 1,samplePackage 2], Accepted package := by
    simp only [List.forall_mem_cons,List.not_mem_nil]
    unfold Accepted
    exact ⟨by decide +kernel,by decide +kernel,fun _ member => member.elim⟩
  obtain ⟨started,sent,-,arrived⟩ := @packages_arrive 3 (by decide) [samplePackage 1,samplePackage 2]
    [samplePackage 1 ++ samplePackage 2] accepted (by decide +kernel) (by
      simp only [List.forall_mem_cons,List.not_mem_nil]
      exact ⟨⟨by decide +kernel,by decide +kernel⟩,fun _ member => member.elim⟩)
  refine ⟨started,sent,?_⟩
  intro same
  obtain ⟨package,count,other,made⟩ := arrived.mp same _ List.mem_cons_self
  rw [accepted_eq] at accepted other
  have copies : List.replicate count package = [samplePackage 1,samplePackage 2] := by
    apply Framer.flatten_unique _ accepted
    · rw [← made]
      decide +kernel
    · intro part member
      rw [List.eq_of_mem_replicate member]
      exact other
  have first : samplePackage 1 = package := List.eq_of_mem_replicate (copies ▸ List.mem_cons_self)
  have second : samplePackage 2 = package := List.eq_of_mem_replicate (copies ▸ List.mem_cons_of_mem _ List.mem_cons_self)
  exact absurd (first.trans second.symm) (by decide +kernel)

end CommunicationIpc.SocketTrans
