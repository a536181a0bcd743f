import Mathlib.Data.List.Basic

/-! Splitting a stream into frames that carry their own size. A run of frames at the
head of the stream that cannot be continued contains every other such run. -/
namespace CommunicationIpc.Library

variable {α : Type*}

/-- `size` is the size of the frame at the head of a stream, 0 when there is none. It looks at
nothing behind that frame. -/
structure Framer (α : Type*) where
  size : List α → Nat
  size_le : ∀ stream, size stream ≤ stream.length
  alone : ∀ stream, 0 < size stream → size (stream.take (size stream)) = size stream
  extend : ∀ frame more, 0 < size frame → size (frame ++ more) = size frame

/-- The frames lead the stream, and so does no run of frames that is not among them. -/
structure Longest (frame : List α → Prop) (stream : List α) (frames : List (List α)) : Prop where
  framed : ∀ part ∈ frames, frame part
  leads : frames.flatten <+: stream
  covers : ∀ others : List (List α), (∀ part ∈ others, frame part) → others.flatten <+: stream → others <+: frames

theorem Longest.unique {frame : List α → Prop} {stream : List α} {frames others : List (List α)}
    (longest : Longest frame stream frames) (other : Longest frame stream others) : frames = others := by
  have less := other.covers frames longest.framed longest.leads
  have more := longest.covers others other.framed other.leads
  exact less.eq_of_length (Nat.le_antisymm less.length_le more.length_le)

namespace Framer

variable (framer : Framer α)

def IsFrame (part : List α) : Prop := 0 < framer.size part ∧ framer.size part = part.length

variable {framer}

theorem take_isFrame {stream : List α} (found : 0 < framer.size stream) :
    framer.IsFrame (stream.take (framer.size stream)) := by
  have width : (stream.take (framer.size stream)).length = framer.size stream :=
    List.length_take_of_le (framer.size_le stream)
  rw [IsFrame,framer.alone stream found,width]
  exact ⟨found,rfl⟩

theorem size_of_prefix {part stream : List α} (frame : framer.IsFrame part) (leads : part <+: stream) :
    framer.size stream = part.length := by
  obtain ⟨more,rfl⟩ := leads
  rw [framer.extend part more frame.1,frame.2]

theorem longest_nil {stream : List α} (none : framer.size stream = 0) : Longest framer.IsFrame stream [] where
  framed := by
    intro part member
    cases member
  leads := List.nil_prefix
  covers := by
    intro others framed leads
    cases others with
    | nil => exact List.nil_prefix
    | cons part others =>
      have frame := framed part List.mem_cons_self
      have whole : part <+: stream := (List.prefix_append part others.flatten).trans leads
      have size := size_of_prefix frame whole
      have positive := frame.1
      rw [frame.2] at positive
      omega

theorem longest_cons {stream : List α} {frames : List (List α)} (found : 0 < framer.size stream)
    (rest : Longest framer.IsFrame (stream.drop (framer.size stream)) frames) :
    Longest framer.IsFrame stream (stream.take (framer.size stream) :: frames) where
  framed := by
    intro part member
    rcases List.mem_cons.mp member with first | later
    · rw [first]
      exact take_isFrame found
    · exact rest.framed part later
  leads := by
    obtain ⟨more,same⟩ := rest.leads
    refine ⟨more,?_⟩
    rw [List.flatten_cons,List.append_assoc,same,List.take_append_drop]
  covers := by
    intro others framed leads
    cases others with
    | nil => exact List.nil_prefix
    | cons part others =>
      have frame := framed part List.mem_cons_self
      have whole : part <+: stream := (List.prefix_append part others.flatten).trans leads
      have size := size_of_prefix frame whole
      have head : part = stream.take (framer.size stream) := by
        rw [size]
        exact List.prefix_iff_eq_take.mp whole
      obtain ⟨more,same⟩ := leads
      have tail : others.flatten <+: stream.drop (framer.size stream) := by
        refine ⟨more,?_⟩
        rw [size,← same,List.flatten_cons,List.append_assoc,List.drop_left]
      rw [← head]
      exact List.cons_prefix_cons.mpr
        ⟨rfl,rest.covers others (fun other member => framed other (List.mem_cons_of_mem part member)) tail⟩

theorem longest_flatten {frames : List (List α)} (framed : ∀ part ∈ frames, framer.IsFrame part) :
    Longest framer.IsFrame frames.flatten frames := by
  induction frames with
  | nil => exact longest_nil (Nat.le_zero.mp (framer.size_le []))
  | cons first frames ih =>
    have frame := framed first List.mem_cons_self
    have size := size_of_prefix frame (List.prefix_append first frames.flatten)
    have rest := ih fun part member => framed part (List.mem_cons_of_mem first member)
    have found : 0 < framer.size (first ++ frames.flatten) := by
      rw [size,← frame.2]
      exact frame.1
    have whole : Longest framer.IsFrame (first ++ frames.flatten) _ := longest_cons found (by
      rw [size,List.drop_left]
      exact rest)
    rwa [size,List.take_left] at whole

theorem flatten_unique {frames others : List (List α)} (framed : ∀ part ∈ frames, framer.IsFrame part)
    (other : ∀ part ∈ others, framer.IsFrame part) (same : frames.flatten = others.flatten) : frames = others := by
  have longest := longest_flatten framed
  rw [same] at longest
  exact longest.unique (longest_flatten other)

/-! A reader that finds the frames of a chunk and takes for each of them as many elements from the head of the chunk. -/

def heads (chunk : List α) (parts : List (List α)) : List (List α) := parts.map fun part => chunk.take part.length

section Heads
variable {chunk : List α} {parts : List (List α)}

theorem heads_lengths (longest : Longest framer.IsFrame chunk parts) :
    (heads chunk parts).map List.length = parts.map List.length := by
  rw [heads,List.map_map]
  apply List.map_congr_left
  intro part member
  exact List.length_take_of_le (Nat.le_trans (List.sublist_flatten_of_mem member).length_le longest.leads.length_le)

/-- The heads are the frames themselves only if one frame is repeated. -/
theorem repeated_of_heads (longest : Longest framer.IsFrame chunk parts) (own : heads chunk parts = parts) :
    parts = List.replicate parts.length (chunk.take (framer.size chunk)) := by
  apply List.eq_replicate_of_mem
  intro part member
  have mapped : parts.map (fun part => chunk.take part.length) = parts.map id := by
    rw [List.map_id]
    exact own
  have head : chunk.take part.length = part := List.map_inj_left.mp mapped part member
  have leads : part <+: chunk := List.prefix_iff_eq_take.mpr head.symm
  have size : framer.size chunk = part.length := size_of_prefix (longest.framed part member) leads
  rw [size]
  exact head.symm

theorem heads_of_repeated {frame : List α} {count : Nat} (framed : framer.IsFrame frame)
    (filled : chunk = (List.replicate count frame).flatten) (longest : Longest framer.IsFrame chunk parts) :
    parts = List.replicate count frame ∧ heads chunk parts = parts := by
  have every : ∀ part ∈ List.replicate count frame, framer.IsFrame part := by
    intro part member
    rw [List.eq_of_mem_replicate member]
    exact framed
  have run : parts = List.replicate count frame := by
    rw [filled] at longest
    exact longest.unique (longest_flatten every)
  refine ⟨run,?_⟩
  cases count with
  | zero =>
    rw [run]
    rfl
  | succ count =>
    have leads : frame <+: chunk := by
      rw [filled,List.replicate_succ,List.flatten_cons]
      exact List.prefix_append frame _
    rw [run,heads,List.map_replicate,← List.prefix_iff_eq_take.mp leads]

end Heads

section Chunks
variable {chunks : List (List α)} {run : List α → List (List α)}

theorem flatMap_flatten_le (leads : ∀ chunk ∈ chunks, (run chunk).flatten <+: chunk) :
    (chunks.flatMap run).flatten.length ≤ chunks.flatten.length := by
  induction chunks with
  | nil => exact Nat.le_refl 0
  | cons chunk chunks ih =>
    have first := (leads chunk List.mem_cons_self).length_le
    have rest := ih fun other member => leads other (List.mem_cons_of_mem chunk member)
    rw [List.flatMap_cons,List.flatten_append,List.flatten_cons,List.length_append,List.length_append]
    omega

theorem filled_of_total (leads : ∀ chunk ∈ chunks, (run chunk).flatten <+: chunk)
    (total : chunks.flatten.length ≤ (chunks.flatMap run).flatten.length) :
    ∀ chunk ∈ chunks, (run chunk).flatten = chunk := by
  induction chunks with
  | nil =>
    intro chunk member
    cases member
  | cons chunk chunks ih =>
    have first := (leads chunk List.mem_cons_self).length_le
    have behind : ∀ other ∈ chunks, (run other).flatten <+: other :=
      fun other member => leads other (List.mem_cons_of_mem chunk member)
    have rest := flatMap_flatten_le behind
    rw [List.flatMap_cons,List.flatten_append,List.flatten_cons,List.length_append,List.length_append] at total
    intro other member
    rcases List.mem_cons.mp member with same | later
    · rw [same]
      exact (leads chunk List.mem_cons_self).eq_of_length (by omega)
    · exact ih behind (by omega) other later

theorem flatMap_flatten (filled : ∀ chunk ∈ chunks, (run chunk).flatten = chunk) :
    (chunks.flatMap run).flatten = chunks.flatten := by
  induction chunks with
  | nil => rfl
  | cons chunk chunks ih =>
    rw [List.flatMap_cons,List.flatten_append,List.flatten_cons,filled chunk List.mem_cons_self]
    exact congrArg (chunk ++ ·) (ih fun other member => filled other (List.mem_cons_of_mem chunk member))

theorem flatMap_inj_of_length {other : List α → List (List α)}
    (widths : ∀ chunk ∈ chunks, (run chunk).length = (other chunk).length) (same : chunks.flatMap run = chunks.flatMap other) :
    ∀ chunk ∈ chunks, run chunk = other chunk := by
  induction chunks with
  | nil =>
    intro chunk member
    cases member
  | cons first chunks ih =>
    rw [List.flatMap_cons,List.flatMap_cons] at same
    obtain ⟨head,tail⟩ := List.append_inj same (widths first List.mem_cons_self)
    intro chunk member
    rcases List.mem_cons.mp member with here | later
    · rw [here]
      exact head
    · exact ih (fun chunk member => widths chunk (List.mem_cons_of_mem first member)) tail chunk later

/-- Chunks of a stream of frames, each read on its own by a reader that takes heads: it gets the frames of the stream
exactly if each chunk is one frame, some number of times. -/
theorem flatMap_heads_iff {frames : List (List α)} (framed : ∀ part ∈ frames, framer.IsFrame part)
    (whole : chunks.flatten = frames.flatten) (filled : ∀ chunk ∈ chunks, chunk ≠ [])
    (longest : ∀ chunk ∈ chunks, Longest framer.IsFrame chunk (run chunk)) :
    chunks.flatMap (fun chunk => heads chunk (run chunk)) = frames ↔
      ∀ chunk ∈ chunks, ∃ frame count, framer.IsFrame frame ∧ chunk = (List.replicate count frame).flatten := by
  have runs : ∀ part ∈ chunks.flatMap run, framer.IsFrame part := by
    intro part member
    obtain ⟨chunk,among,within⟩ := List.mem_flatMap.mp member
    exact (longest chunk among).framed part within
  have leads : ∀ chunk ∈ chunks, (run chunk).flatten <+: chunk := fun chunk member => (longest chunk member).leads
  constructor
  · intro own
    have widths : (chunks.flatMap fun chunk => heads chunk (run chunk)).flatten.length = (chunks.flatMap run).flatten.length := by
      rw [List.length_flatten,List.length_flatten,List.map_flatMap,List.map_flatMap]
      exact congrArg List.sum (List.flatMap_congr fun chunk member => heads_lengths (longest chunk member))
    have total : chunks.flatten.length = (chunks.flatMap run).flatten.length := by
      rw [← widths,own,whole]
    have covered := filled_of_total leads (Nat.le_of_eq total)
    have found : chunks.flatMap run = frames := flatten_unique runs framed ((flatMap_flatten covered).trans whole)
    have each : ∀ chunk ∈ chunks, heads chunk (run chunk) = run chunk :=
      flatMap_inj_of_length (fun chunk _ => List.length_map _) (own.trans found.symm)
    intro chunk member
    have repeated := repeated_of_heads (longest chunk member) (each chunk member)
    refine ⟨chunk.take (framer.size chunk),(run chunk).length,?_,?_⟩
    · have some : run chunk ≠ [] := by
        intro none
        have empty := covered chunk member
        rw [none] at empty
        exact filled chunk member empty.symm
      obtain ⟨part,among⟩ := List.exists_mem_of_ne_nil _ some
      have same := among
      rw [repeated] at same
      rw [← List.eq_of_mem_replicate same]
      exact (longest chunk member).framed part among
    · rw [← repeated]
      exact (covered chunk member).symm
  · intro each
    have own : ∀ chunk ∈ chunks, heads chunk (run chunk) = run chunk ∧ (run chunk).flatten = chunk := by
      intro chunk member
      obtain ⟨frame,count,frames,made⟩ := each chunk member
      obtain ⟨repeated,same⟩ := heads_of_repeated frames made (longest chunk member)
      rw [repeated] at same ⊢
      exact ⟨same,made.symm⟩
    rw [List.flatMap_congr fun chunk member => (own chunk member).1]
    exact flatten_unique runs framed ((flatMap_flatten fun chunk member => (own chunk member).2).trans whole)

end Chunks

end Framer

end CommunicationIpc.Library
