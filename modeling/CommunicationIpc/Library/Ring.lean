import Mathlib.Data.List.Cycle

/-! Cells that are linked both ways in a circle, the empty circle being one cell linked to itself. Putting a
cell in and taking one out keep the circle, and leave alone every circle they do not touch. -/
namespace CommunicationIpc.Library

/-- What each cell points to; `none` is the null pointer. -/
structure Links (α : Type*) where
  next : α → Option α
  prev : α → Option α

namespace Links

variable {α : Type*}

/-- The two cells point to each other. -/
def Joined (links : Links α) (a b : α) : Prop := links.next a = some b ∧ links.prev b = some a

/-- The cells point to each other all the way round. -/
def Linked (links : Links α) (ring : Cycle α) : Prop := ring.Chain links.Joined

/-- The pointers in `cell` are the same. -/
def Same (links other : Links α) (cell : α) : Prop := other.next cell = links.next cell ∧ other.prev cell = links.prev cell

theorem Same.trans {links other last : Links α} {cell : α} (first : links.Same other cell) (second : other.Same last cell) :
    links.Same last cell :=
  ⟨second.1.trans first.1,second.2.trans first.2⟩

theorem chain_frame {links other : Links α} {cells : List α} (chain : cells.IsChain links.Joined)
    (next : ∀ a ∈ cells.dropLast, other.next a = links.next a) (prev : ∀ b ∈ cells.tail, other.prev b = links.prev b) :
    cells.IsChain other.Joined := by
  induction chain with
  | nil => exact .nil
  | singleton a => exact .singleton a
  | @cons_cons a b rest joined _ ih =>
    rw [List.dropLast_cons_cons,List.forall_mem_cons] at next
    rw [List.tail_cons,List.forall_mem_cons] at prev
    exact .cons_cons ⟨next.1.trans joined.1,prev.1.trans joined.2⟩ (ih next.2 prev.2)

theorem linked_frame {links other : Links α} {ring : Cycle α} (linked : links.Linked ring)
    (next : ∀ a ∈ ring, other.next a = links.next a) (prev : ∀ b ∈ ring, other.prev b = links.prev b) : other.Linked ring := by
  induction ring using Cycle.induction_on with
  | nil => exact Cycle.Chain.nil _
  | cons a rest _ =>
    rw [Linked,Cycle.chain_coe_cons] at linked ⊢
    refine chain_frame linked ?_ ?_
    · intro b member
      rw [← List.cons_append,List.dropLast_concat] at member
      exact next b member
    · intro b member
      rw [List.tail_cons,List.mem_append,List.mem_singleton] at member
      rcases member with member | rfl
      · exact prev b (List.mem_cons_of_mem a member)
      · exact prev b List.mem_cons_self

theorem linked_single {links : Links α} {a : α} : links.Linked ([a] : List α) ↔ links.Joined a a := Cycle.chain_singleton _ a

theorem linked_pair {links : Links α} {a b : α} {rest : List α} (linked : links.Linked (a :: b :: rest : List α)) :
    links.Joined a b :=
  List.rel_of_isChain_cons_cons ((Cycle.chain_coe_cons _ _ _).mp linked)

/-- The cell that follows `a` in the circle `a :: rest`. -/
def following (a : α) (rest : List α) : α := rest.headD a

/-- The cell before `a` in the circle `a :: rest`. -/
def preceding (a : α) (rest : List α) : α := rest.getLastD a

theorem linked_following {links : Links α} {a : α} {rest : List α} (linked : links.Linked (a :: rest : List α)) :
    links.Joined a (following a rest) := by
  cases rest with
  | nil => exact linked_single.mp linked
  | cons b rest => exact linked_pair linked

theorem linked_preceding {links : Links α} {a : α} {rest : List α} (linked : links.Linked (a :: rest : List α)) :
    links.Joined (preceding a rest) a := by
  rcases List.eq_nil_or_concat rest with rfl | ⟨front,b,rfl⟩
  · exact linked_single.mp linked
  · rw [List.concat_eq_append] at linked ⊢
    have turned : ((b :: a :: front : List α) : Cycle α) = ((a :: (front ++ [b]) : List α) : Cycle α) :=
      Cycle.coe_cons_eq_coe_append (a :: front) b
    rw [← turned] at linked
    have last : preceding a (front ++ [b]) = b := by simp [preceding]
    rw [last]
    exact linked_pair linked

theorem turned (front back : List α) : ((front ++ back : List α) : Cycle α) = (back ++ front : List α) :=
  Cycle.coe_eq_coe.mpr List.isRotated_append

theorem following_append (a : α) (front : List α) (b : α) (back : List α) : following a (front ++ b :: back) = front.headD b := by
  cases front <;> rfl

theorem preceding_append (a : α) (front : List α) (b : α) (back : List α) :
    preceding a (front ++ b :: back) = back.getLastD b := by
  simp only [preceding,List.getLastD_eq_getLast?,List.getLast?_append,List.getLast?_cons,Option.some_or,Option.getD_some]

/-- The neighbours of a cell in the middle of a circle. -/
theorem linked_middle {links : Links α} {first a : α} {front back : List α}
    (linked : links.Linked (first :: (front ++ a :: back) : List α)) :
    links.Linked (a :: (back ++ first :: front) : List α) ∧ links.next a = some (back.headD first) ∧
      links.prev a = some (front.getLastD first) := by
  have round : ((first :: (front ++ a :: back) : List α) : Cycle α) = (a :: (back ++ first :: front) : List α) :=
    turned (first :: front) (a :: back)
  rw [round] at linked
  refine ⟨linked,?_,?_⟩
  · rw [(linked_following linked).1,following_append]
  · rw [(linked_preceding linked).2,preceding_append]

section Change
variable [DecidableEq α]

def join (links : Links α) (a b : α) : Links α :=
  ⟨Function.update links.next a (some b),Function.update links.prev b (some a)⟩

def clear (links : Links α) (a : α) : Links α :=
  ⟨Function.update links.next a none,Function.update links.prev a none⟩

/-- The cell between `a` and `b`, which follow each other. -/
def insert (links : Links α) (a cell b : α) : Links α := (links.join cell b).join a cell

/-- The cell between `a` and `b` goes. -/
def remove (links : Links α) (a cell b : α) : Links α := (links.join a b).clear cell

theorem join_next_other (links : Links α) {a b c : α} (apart : c ≠ a) : (links.join a b).next c = links.next c :=
  Function.update_of_ne apart _ _

theorem join_prev_other (links : Links α) {a b c : α} (apart : c ≠ b) : (links.join a b).prev c = links.prev c :=
  Function.update_of_ne apart _ _

theorem clear_next_other (links : Links α) {a c : α} (apart : c ≠ a) : (links.clear a).next c = links.next c :=
  Function.update_of_ne apart _ _

theorem clear_prev_other (links : Links α) {a c : α} (apart : c ≠ a) : (links.clear a).prev c = links.prev c :=
  Function.update_of_ne apart _ _

theorem join_joined (links : Links α) (a b : α) : (links.join a b).Joined a b :=
  ⟨Function.update_self a _ _,Function.update_self b _ _⟩

theorem join_same (links : Links α) {a b c : α} (first : c ≠ a) (second : c ≠ b) : links.Same (links.join a b) c :=
  ⟨join_next_other links first,join_prev_other links second⟩

theorem insert_same (links : Links α) {a cell b c : α} (first : c ≠ a) (own : c ≠ cell) (second : c ≠ b) :
    links.Same (links.insert a cell b) c :=
  (join_same links own second).trans (join_same _ first own)

theorem remove_same (links : Links α) {a cell b c : α} (first : c ≠ a) (own : c ≠ cell) (second : c ≠ b) :
    links.Same (links.remove a cell b) c :=
  (join_same links first second).trans ⟨clear_next_other _ own,clear_prev_other _ own⟩

/-- A cell linked to itself is an empty circle. -/
theorem linked_alone (links : Links α) (a : α) : (links.join a a).Linked ([a] : List α) := linked_single.mpr (links.join_joined a a)

theorem insert_linked {links : Links α} {a cell : α} {rest : List α} (linked : links.Linked (a :: rest : List α))
    (distinct : (a :: rest).Nodup) (fresh : cell ∉ a :: rest) :
    (links.insert a cell (following a rest)).Linked (a :: cell :: rest : List α) := by
  obtain ⟨notFirst,inside⟩ := List.ne_and_not_mem_of_not_mem_cons fresh
  obtain ⟨outside,others⟩ := List.nodup_cons.mp distinct
  rw [Linked,Cycle.chain_coe_cons] at linked ⊢
  have first : (links.insert a cell (following a rest)).Joined a cell := join_joined _ a cell
  refine .cons_cons first ?_
  cases rest with
  | nil =>
    refine .cons_cons ⟨?_,?_⟩ (.singleton a)
    · exact (join_next_other _ notFirst).trans (join_joined links cell a).1
    · exact (join_prev_other _ (Ne.symm notFirst)).trans (join_joined links cell a).2
  | cons b rest =>
    have notA := (List.ne_and_not_mem_of_not_mem_cons outside).1
    obtain ⟨notCell,free⟩ := List.ne_and_not_mem_of_not_mem_cons inside
    have old : (b :: rest ++ [a]).IsChain links.Joined := linked.tail
    have kept : (b :: rest ++ [a]).IsChain (links.insert a cell b).Joined := by
      refine chain_frame old ?_ ?_
      · intro c member
        rw [List.dropLast_concat] at member
        have notFirst : c ≠ a := ne_of_mem_of_not_mem member outside
        exact (join_next_other _ notFirst).trans (join_next_other _ (ne_of_mem_of_not_mem member inside))
      · intro c member
        rw [List.cons_append,List.tail_cons,List.mem_append,List.mem_singleton] at member
        have notNew : c ≠ cell := by
          rintro rfl
          exact member.elim free notFirst
        have notSecond : c ≠ b := by
          rintro rfl
          exact member.elim (List.nodup_cons.mp others).1 (Ne.symm notA)
        exact (join_prev_other _ notNew).trans (join_prev_other _ notSecond)
    refine .cons_cons ⟨?_,?_⟩ kept
    · exact (join_next_other _ notFirst).trans (join_joined links cell b).1
    · exact (join_prev_other _ (Ne.symm notCell)).trans (join_joined links cell b).2

theorem remove_linked {links : Links α} {cell : α} {rest : List α} (linked : links.Linked (cell :: rest : List α))
    (distinct : (cell :: rest).Nodup) (more : rest ≠ []) :
    (links.remove (preceding cell rest) cell (following cell rest)).Linked (rest : List α) := by
  obtain ⟨outside,others⟩ := List.nodup_cons.mp distinct
  have last : rest.getLast more = preceding cell rest := by
    cases rest with
    | nil => exact absurd rfl more
    | cons b rest => rw [preceding,List.getLastD_cons,List.getLast_eq_getLastD]
  have notLast : preceding cell rest ≠ cell := ne_of_mem_of_not_mem (last ▸ List.getLast_mem more) outside
  have split := List.dropLast_append_getLast more
  rw [Linked,Cycle.chain_ne_nil _ more,last]
  rw [last] at split
  rw [Linked,Cycle.chain_coe_cons] at linked
  obtain ⟨b,rest,rfl⟩ := List.exists_cons_of_ne_nil more
  have notFirst : b ≠ cell := ne_of_mem_of_not_mem List.mem_cons_self outside
  have kept : (b :: rest).IsChain (links.remove (preceding cell (b :: rest)) cell b).Joined := by
    refine chain_frame (linked.tail.left_of_append) ?_ ?_
    · intro c inside
      have notCell : c ≠ cell := ne_of_mem_of_not_mem (List.mem_of_mem_dropLast inside) outside
      have notEnd : c ≠ preceding cell (b :: rest) := by
        rintro rfl
        rw [← split] at others
        exact List.disjoint_of_nodup_append others inside (List.mem_singleton_self _)
      exact (clear_next_other _ notCell).trans (join_next_other _ notEnd)
    · intro c inside
      have notCell : c ≠ cell := ne_of_mem_of_not_mem (List.mem_cons_of_mem b inside) outside
      have notStart : c ≠ b := ne_of_mem_of_not_mem inside (List.nodup_cons.mp others).1
      exact (clear_prev_other _ notCell).trans (join_prev_other _ notStart)
  refine .cons_cons ⟨?_,?_⟩ kept
  · exact (clear_next_other _ notLast).trans (join_joined links _ b).1
  · exact (clear_prev_other _ notFirst).trans (join_joined links _ b).2

theorem insert_apart {links : Links α} {a cell b : α} {ring : Cycle α} (linked : links.Linked ring) (notFirst : a ∉ ring)
    (notCell : cell ∉ ring) (notLast : b ∉ ring) : (links.insert a cell b).Linked ring := by
  refine linked_frame linked ?_ ?_
  · intro c member
    exact (join_next_other _ (ne_of_mem_of_not_mem member notFirst)).trans (join_next_other _ (ne_of_mem_of_not_mem member notCell))
  · intro c member
    exact (join_prev_other _ (ne_of_mem_of_not_mem member notCell)).trans (join_prev_other _ (ne_of_mem_of_not_mem member notLast))

theorem remove_apart {links : Links α} {a cell b : α} {ring : Cycle α} (linked : links.Linked ring) (notFirst : a ∉ ring)
    (notCell : cell ∉ ring) (notLast : b ∉ ring) : (links.remove a cell b).Linked ring := by
  refine linked_frame linked ?_ ?_
  · intro c member
    exact (clear_next_other _ (ne_of_mem_of_not_mem member notCell)).trans (join_next_other _ (ne_of_mem_of_not_mem member notFirst))
  · intro c member
    exact (clear_prev_other _ (ne_of_mem_of_not_mem member notCell)).trans (join_prev_other _ (ne_of_mem_of_not_mem member notLast))

/-- The circles that start at the cells of `lists` are linked, each through the cells of its list, and have no cell in common. -/
structure Represents (links : Links α) (lists : α → Option (List α)) : Prop where
  linked : ∀ {list nodes}, lists list = some nodes → links.Linked (list :: nodes : List α)
  distinct : ∀ {list nodes}, lists list = some nodes → (list :: nodes).Nodup
  apart : ∀ {list nodes other more}, lists list = some nodes → lists other = some more → list ≠ other →
    List.Disjoint (list :: nodes) (other :: more)

/-- No list has the cell. -/
def Free (lists : α → Option (List α)) (cell : α) : Prop := ∀ list nodes, lists list = some nodes → cell ∉ list :: nodes

theorem Represents.replace {links other : Links α} {lists : α → Option (List α)} (represented : links.Represents lists) {list : α}
    {nodes : List α} (linked : other.Linked (list :: nodes : List α)) (distinct : (list :: nodes).Nodup)
    (others : ∀ first more, lists first = some more → first ≠ list →
      other.Linked (first :: more : List α) ∧ List.Disjoint (list :: nodes) (first :: more)) :
    other.Represents (Function.update lists list (some nodes)) := by
  refine ⟨?_,?_,?_⟩
  · intro first more held
    by_cases same : first = list
    · subst same
      rw [Function.update_self] at held
      cases held
      exact linked
    · rw [Function.update_of_ne same] at held
      exact (others first more held same).1
  · intro first more held
    by_cases same : first = list
    · subst same
      rw [Function.update_self] at held
      cases held
      exact distinct
    · rw [Function.update_of_ne same] at held
      exact represented.distinct held
  · intro first more second rest held kept differ
    by_cases same : first = list
    · subst same
      rw [Function.update_self] at held
      rw [Function.update_of_ne differ.symm] at kept
      cases held
      exact (others second rest kept differ.symm).2
    · rw [Function.update_of_ne same] at held
      by_cases again : second = list
      · subst again
        rw [Function.update_self] at kept
        cases kept
        exact (others first more held same).2.symm
      · rw [Function.update_of_ne again] at kept
        exact represented.apart held kept differ

variable {links : Links α} {lists : α → Option (List α)} {list node : α} {nodes front back : List α}

omit [DecidableEq α] in
theorem Represents.frame {other : Links α} (represented : links.Represents lists) (same : ∀ cell, ¬Free lists cell → links.Same other cell) :
    other.Represents lists := by
  refine ⟨fun {list nodes} held => ?_,represented.distinct,represented.apart⟩
  have taken (cell : α) (member : cell ∈ list :: nodes) : ¬Free lists cell := fun free => free list nodes held member
  exact linked_frame (represented.linked held) (fun a member => (same a (taken a member)).1) fun b member => (same b (taken b member)).2

/-- A node that was taken out of its list is free. -/
theorem Represents.free_deleted (represented : links.Represents lists) (held : lists list = some (front ++ node :: back)) :
    Free (Function.update lists list (some (front ++ back))) node := by
  have distinct := represented.distinct held
  intro other more kept member
  by_cases same : other = list
  · subst same
    rw [Function.update_self] at kept
    cases kept
    have perm : (other :: (front ++ node :: back)).Perm (node :: (other :: (front ++ back))) :=
      @List.perm_middle _ node (other :: front) back
    exact (List.nodup_cons.mp (perm.nodup_iff.mp distinct)).1 member
  · rw [Function.update_of_ne same] at kept
    exact represented.apart held kept (Ne.symm same) (by simp) member

theorem Represents.init (represented : links.Represents lists) (free : Free lists list) :
    (links.join list list).Represents (Function.update lists list (some [])) := by
  refine represented.replace (linked_alone links list) (List.nodup_singleton list) ?_
  intro first more held _
  have outside := free first more held
  refine ⟨linked_frame (represented.linked held) ?_ ?_,List.singleton_disjoint.mpr outside⟩
  · exact fun a member => join_next_other _ (ne_of_mem_of_not_mem member outside)
  · exact fun b member => join_prev_other _ (ne_of_mem_of_not_mem member outside)

/-- Another list, when a free node goes in between two cells of this one. -/
theorem Represents.insert_others (represented : links.Represents lists) (held : lists list = some nodes) (free : Free lists node)
    {a b : α} (first_ : a ∈ list :: nodes) (second : b ∈ list :: nodes) {first : α} {more : List α} (kept : lists first = some more)
    (differ : first ≠ list) : (links.insert a node b).Linked (first :: more : List α) := by
  have separate := represented.apart held kept differ.symm
  exact insert_apart (represented.linked kept) (separate first_) (free first more kept) (separate second)

theorem Represents.add (represented : links.Represents lists) (held : lists list = some nodes) (free : Free lists node) :
    (links.insert list node (nodes.headD list)).Represents (Function.update lists list (some (node :: nodes))) := by
  have outside := free list nodes held
  have distinct := represented.distinct held
  have near : nodes.headD list ∈ list :: nodes := by cases nodes <;> simp
  refine represented.replace (insert_linked (represented.linked held) distinct outside) ?_ ?_
  · exact (List.Perm.swap list node nodes).nodup_iff.mp (List.nodup_cons.mpr ⟨outside,distinct⟩)
  · intro first more kept differ
    refine ⟨represented.insert_others held free List.mem_cons_self near kept differ,?_⟩
    have separate := represented.apart held kept differ.symm
    have open_ := free first more kept
    simp only [List.disjoint_cons_left] at separate ⊢
    exact ⟨separate.1,open_,separate.2⟩

theorem Represents.tailInsert (represented : links.Represents lists) (held : lists list = some nodes) (free : Free lists node) :
    (links.insert (nodes.getLastD list) node list).Represents (Function.update lists list (some (nodes ++ [node]))) := by
  have outside := free list nodes held
  have distinct := represented.distinct held
  have near : nodes.getLastD list ∈ list :: nodes := List.getLastD_mem_cons
  have linked : (links.insert (nodes.getLastD list) node list).Linked (list :: (nodes ++ [node]) : List α) := by
    rcases List.eq_nil_or_concat nodes with rfl | ⟨front,last,rfl⟩
    · exact insert_linked (represented.linked held) distinct outside
    · rw [List.concat_eq_append] at held distinct outside ⊢
      have round := (linked_middle (represented.linked held)).1
      have perm : (last :: list :: front).Perm (list :: (front ++ [last])) :=
        (List.Perm.swap list last front).trans ((List.perm_append_singleton last front).symm.cons list)
      have ring := insert_linked round (perm.nodup_iff.mpr distinct) (fun member => outside (perm.mem_iff.mp member))
      rw [List.getLastD_concat]
      have same : ((list :: (front ++ [last] ++ [node]) : List α) : Cycle α) = (last :: node :: list :: front : List α) := by
        rw [List.append_assoc]
        exact turned (list :: front) [last,node]
      rw [same]
      exact ring
  refine represented.replace linked ?_ ?_
  · rw [← List.cons_append,List.nodup_append]
    refine ⟨distinct,List.nodup_singleton node,?_⟩
    rintro a member b single rfl
    rw [List.mem_singleton] at single
    exact outside (single ▸ member)
  · intro first more kept differ
    refine ⟨represented.insert_others held free near List.mem_cons_self kept differ,?_⟩
    rw [← List.cons_append,List.disjoint_append_left]
    exact ⟨represented.apart held kept differ.symm,List.singleton_disjoint.mpr (free first more kept)⟩

theorem Represents.delete (represented : links.Represents lists) (held : lists list = some (front ++ node :: back)) :
    (links.remove (front.getLastD list) node (back.headD list)).Represents (Function.update lists list (some (front ++ back))) := by
  have distinct := represented.distinct held
  have perm : (node :: (back ++ list :: front)).Perm (list :: (front ++ node :: back)) :=
    @List.perm_append_comm _ (node :: back) (list :: front)
  have fewer : (list :: (front ++ back)).Sublist (list :: (front ++ node :: back)) :=
    (((List.sublist_cons_self node back).append_left front)).cons_cons list
  obtain ⟨ring,_,_⟩ := linked_middle (represented.linked held)
  have cut := remove_linked ring (perm.nodup_iff.mpr distinct) (by simp)
  rw [following_append,preceding_append,turned] at cut
  refine represented.replace cut (distinct.sublist fewer) ?_
  intro first more kept differ
  have separate := represented.apart held kept differ.symm
  refine ⟨remove_apart (represented.linked kept) (separate ?_) (separate (by simp)) (separate ?_),?_⟩
  · rcases List.eq_nil_or_concat front with rfl | ⟨front,last,rfl⟩ <;> simp
  · cases back <;> simp
  · exact List.disjoint_of_subset_left fewer.subset separate

end Change

end Links

end CommunicationIpc.Library
