import CommunicationIpc.Kernel.DoublyLinkedList
import CommunicationIpc.Library.Run
import CommunicationIpc.Library.Table

/-! The linked lists of the C sources against plain lists: what a sequence of list operations leaves in memory,
and what the loops over a list see while they delete from it. -/
namespace CommunicationIpc.LinkedLists
open CommunicationIpc.Library CommunicationIpc.Kernel.DoublyLinkedList
open Links (Represents Free Linked)

variable {α : Type} [DecidableEq α]

inductive Operation (α : Type) where
  | init (list : α)
  | add (list node : α)
  | tailInsert (list node : α)
  | delete (node : α)
  deriving DecidableEq, Repr

def Operation.run : Operation α → Heap α Unit
  | .init list => dlListInit list
  | .add list node => dlListAdd list node
  | .tailInsert list node => dlListTailInsert list node
  | .delete node => dlListDelete node

def runAll : List (Operation α) → Heap α Unit
  | [] => pure ()
  | operation :: operations => do
    operation.run
    runAll operations

def Operation.names : Operation α → List α
  | .init list => [list]
  | .add list node | .tailInsert list node => [list,node]
  | .delete node => [node]

/-- The lists by the cells they start at. -/
abbrev Lists (α : Type) := Table α (List α)

def Lists.has (lists : Lists α) (cell : α) : Bool := lists.entries.any fun entry => cell ∈ entry.1 :: entry.2

def Lists.owner (lists : Lists α) (node : α) : Option (Sigma fun _ : α => List α) := lists.entries.find? fun entry => node ∈ entry.2

/-- What an operation does to plain lists: a cell starts or joins a list only where no list has it, and only a node of a list
is deleted. -/
def Lists.apply (lists : Lists α) : Operation α → Option (Lists α)
  | .init list => if lists.has list then none else some (lists.insert list [])
  | .add list node => (lists.lookup list).bind fun nodes => if lists.has node then none else some (lists.insert list (node :: nodes))
  | .tailInsert list node =>
    (lists.lookup list).bind fun nodes => if lists.has node then none else some (lists.insert list (nodes ++ [node]))
  | .delete node => (lists.owner node).map fun entry => lists.insert entry.1 (entry.2.erase node)

theorem lookup_insert (lists : Lists α) (list : α) (nodes : List α) :
    (lists.insert list nodes).lookup = Function.update lists.lookup list (some nodes) := by
  funext other
  by_cases same : other = list
  · subst same
    rw [AList.lookup_insert,Function.update_self]
  · rw [AList.lookup_insert_ne same,Function.update_of_ne same]

theorem free_of_has {lists : Lists α} {cell : α} (absent : lists.has cell = false) : Free lists.lookup cell := by
  intro list nodes held member
  have entry : ⟨list,nodes⟩ ∈ lists.entries := AList.mem_lookup_iff.mp held
  rw [Lists.has,List.any_eq_false] at absent
  exact absent _ entry (decide_eq_true member)

theorem owner_some {lists : Lists α} {node : α} {entry : Sigma fun _ : α => List α} (found : lists.owner node = some entry) :
    lists.lookup entry.1 = some entry.2 ∧ node ∈ entry.2 := by
  rw [Lists.owner] at found
  have test := List.find?_some found
  exact ⟨AList.mem_lookup_iff.mpr (List.mem_of_find?_eq_some found),of_decide_eq_true test⟩

section Operations
variable {links : Links α} {list node a b : α}

theorem dlListInit_run (links : Links α) (list : α) : dlListInit list links = (some (),links.join list list) := rfl

theorem dlListAdd_run (next : links.next list = some b) (apart : list ≠ node) (other : b ≠ node) :
    dlListAdd list node links = (some (),links.insert list node b) := by
  have still : Function.update links.next node (some b) list = some b := (Function.update_of_ne apart _ _).trans next
  have swap := Function.update_comm other (some node) (some list) links.prev
  simp only [dlListAdd,getNext,setNext,setPrev,Program.observe,Program.update,bind,next,still,deref,pure,Links.insert,Links.join,swap]

theorem dlListDelete_run (next : links.next node = some b) (prev : links.prev node = some a) (after : b ≠ node) :
    dlListDelete node links = (some (),links.remove a node b) := by
  have stillPrev : Function.update links.prev b (some a) node = some a := (Function.update_of_ne after.symm _ _).trans prev
  simp only [dlListDelete,getNext,getPrev,setNext,setPrev,Program.observe,Program.update,bind,next,prev,stillPrev,deref,pure,
    Links.remove,Links.join,Links.clear]

theorem dlListTailInsert_run (prev : links.prev list = some a) (next : links.next a = some list) (apart : a ≠ node)
    (other : list ≠ node) : dlListTailInsert list node links = (some (),links.insert a node list) := by
  have added := dlListAdd_run next apart other
  simp only [dlListTailInsert,getPrev,Program.observe,bind,prev,deref,pure,added]

end Operations

/-- The pointers of a cell that neither the lists nor the operation name stay as they are. -/
def Frame (links after : Links α) (lists : α → Option (List α)) (named : List α) : Prop :=
  ∀ cell, Free lists cell → cell ∉ named → links.Same after cell

section Represented
variable {links : Links α} {lists : α → Option (List α)} {list node : α} {nodes front back : List α}

omit [DecidableEq α] in
theorem head_pointers (represented : Represents links lists) (held : lists list = some nodes) :
    links.next list = some (nodes.headD list) ∧ links.prev list = some (nodes.getLastD list) :=
  ⟨(Links.linked_following (represented.linked held)).1,(Links.linked_preceding (represented.linked held)).2⟩

omit [DecidableEq α] in
theorem headD_mem (list : α) (nodes : List α) : nodes.headD list ∈ list :: nodes := by
  cases nodes <;> simp

theorem dlListInit_represents (represented : Represents links lists) (free : Free lists list) :
    ∃ after, dlListInit list links = (some (),after) ∧ Represents after (Function.update lists list (some [])) ∧
      Frame links after lists [list] := by
  refine ⟨_,dlListInit_run links list,represented.init free,?_⟩
  intro cell _ absent
  have apart : cell ≠ list := by simpa using absent
  exact Links.join_same links apart apart

theorem dlListAdd_represents (represented : Represents links lists) (held : lists list = some nodes) (free : Free lists node) :
    ∃ after, dlListAdd list node links = (some (),after) ∧
      Represents after (Function.update lists list (some (node :: nodes))) ∧ Frame links after lists [list,node] := by
  have outside := free list nodes held
  have near := headD_mem list nodes
  have added := dlListAdd_run (head_pointers represented held).1 (ne_of_mem_of_not_mem List.mem_cons_self outside)
    (ne_of_mem_of_not_mem near outside)
  refine ⟨_,added,represented.add held free,?_⟩
  intro cell open_ absent
  obtain ⟨first,own⟩ : cell ≠ list ∧ cell ≠ node := by simpa using absent
  exact Links.insert_same links first own (ne_of_mem_of_not_mem near (open_ list nodes held)).symm

theorem dlListTailInsert_represents (represented : Represents links lists) (held : lists list = some nodes) (free : Free lists node) :
    ∃ after, dlListTailInsert list node links = (some (),after) ∧
      Represents after (Function.update lists list (some (nodes ++ [node]))) ∧ Frame links after lists [list,node] := by
  have outside := free list nodes held
  have near : nodes.getLastD list ∈ list :: nodes := List.getLastD_mem_cons
  obtain ⟨next,prev⟩ := Links.linked_preceding (represented.linked held)
  have added := dlListTailInsert_run prev next (ne_of_mem_of_not_mem near outside) (ne_of_mem_of_not_mem List.mem_cons_self outside)
  refine ⟨_,added,represented.tailInsert held free,?_⟩
  intro cell open_ absent
  obtain ⟨first,own⟩ : cell ≠ list ∧ cell ≠ node := by simpa using absent
  exact Links.insert_same links (ne_of_mem_of_not_mem near (open_ list nodes held)).symm own first

theorem dlListDelete_represents (represented : Represents links lists) (held : lists list = some (front ++ node :: back)) :
    ∃ after, dlListDelete node links = (some (),after) ∧
      Represents after (Function.update lists list (some (front ++ back))) ∧ Frame links after lists [node] ∧ after.next node = none := by
  obtain ⟨_,next,prev⟩ := Links.linked_middle (represented.linked held)
  have distinct := represented.distinct held
  rw [← List.cons_append,List.nodup_append] at distinct
  have last : front.getLastD list ∈ list :: (front ++ node :: back) := by
    rcases List.eq_nil_or_concat front with rfl | ⟨front,last,rfl⟩ <;> simp
  have first : back.headD list ∈ list :: (front ++ node :: back) := by cases back <;> simp
  have apart : back.headD list ≠ node := by
    cases back with
    | nil => exact distinct.2.2 list List.mem_cons_self node List.mem_cons_self
    | cons other back =>
      rintro rfl
      exact (List.nodup_cons.mp distinct.2.1).1 List.mem_cons_self
  refine ⟨_,dlListDelete_run next prev apart,represented.delete held,?_,Function.update_self node _ _⟩
  intro cell open_ absent
  have own : cell ≠ node := by simpa using absent
  have outside := open_ list _ held
  exact Links.remove_same links (ne_of_mem_of_not_mem last outside).symm own (ne_of_mem_of_not_mem first outside).symm

end Represented

theorem run_represents {links : Links α} {lists next : Lists α} {operation : Operation α} (represented : Represents links lists.lookup)
    (applied : lists.apply operation = some next) :
    ∃ after, operation.run links = (some (),after) ∧ Represents after next.lookup ∧
      Frame links after lists.lookup operation.names := by
  cases operation with
  | init list =>
    obtain ⟨free,same⟩ := Option.ite_none_left_eq_some.mp applied
    cases same
    rw [lookup_insert]
    exact dlListInit_represents represented (free_of_has (Bool.eq_false_of_not_eq_true free))
  | add list node =>
    obtain ⟨nodes,held,done⟩ := Option.bind_eq_some_iff.mp applied
    obtain ⟨free,same⟩ := Option.ite_none_left_eq_some.mp done
    cases same
    rw [lookup_insert]
    exact dlListAdd_represents represented held (free_of_has (Bool.eq_false_of_not_eq_true free))
  | tailInsert list node =>
    obtain ⟨nodes,held,done⟩ := Option.bind_eq_some_iff.mp applied
    obtain ⟨free,same⟩ := Option.ite_none_left_eq_some.mp done
    cases same
    rw [lookup_insert]
    exact dlListTailInsert_represents represented held (free_of_has (Bool.eq_false_of_not_eq_true free))
  | delete node =>
    obtain ⟨⟨list,nodes⟩,found,rfl⟩ := Option.map_eq_some_iff.mp applied
    obtain ⟨held,member⟩ := owner_some found
    obtain ⟨front,back,rfl⟩ := List.append_of_mem member
    have outside : node ∉ front := by
      intro early
      have distinct := (List.nodup_cons.mp (represented.distinct held)).2
      exact List.disjoint_of_nodup_append distinct early List.mem_cons_self
    obtain ⟨after,ran,kept,frame,_⟩ := dlListDelete_represents represented held
    rw [lookup_insert]
    refine ⟨after,ran,?_,frame⟩
    rwa [List.erase_append_right _ outside,List.erase_cons_head]

theorem free_apply {lists next : Lists α} {operation : Operation α} {cell : α} (applied : lists.apply operation = some next)
    (free : Free lists.lookup cell) (absent : cell ∉ operation.names) : Free next.lookup cell := by
  have replaced (list : α) (nodes : List α) (outside : cell ∉ list :: nodes) : Free (lists.insert list nodes).lookup cell := by
    intro other more held
    rw [lookup_insert] at held
    by_cases same : other = list
    · subst same
      rw [Function.update_self] at held
      cases held
      exact outside
    · rw [Function.update_of_ne same] at held
      exact free other more held
  cases operation with
  | init list =>
    obtain ⟨_,same⟩ := Option.ite_none_left_eq_some.mp applied
    cases same
    exact replaced list [] absent
  | add list node =>
    obtain ⟨nodes,held,done⟩ := Option.bind_eq_some_iff.mp applied
    obtain ⟨_,same⟩ := Option.ite_none_left_eq_some.mp done
    cases same
    have outside := free list nodes held
    simp only [Operation.names,List.mem_cons,not_or] at absent outside
    exact replaced list _ (by simp [absent,outside])
  | tailInsert list node =>
    obtain ⟨nodes,held,done⟩ := Option.bind_eq_some_iff.mp applied
    obtain ⟨_,same⟩ := Option.ite_none_left_eq_some.mp done
    cases same
    have outside := free list nodes held
    simp only [Operation.names,List.mem_cons,not_or] at absent outside
    exact replaced list _ (by simp [absent,outside])
  | delete node =>
    obtain ⟨⟨list,nodes⟩,found,rfl⟩ := Option.map_eq_some_iff.mp applied
    have outside := free list nodes (owner_some found).1
    exact replaced list _ fun member => outside (List.Sublist.subset (List.erase_sublist.cons_cons list) member)

theorem runAll_represents {operations : List (Operation α)} {links : Links α} {start lists : Lists α}
    (represented : Represents links start.lookup) (applied : operations.foldlM Lists.apply start = some lists) :
    ∃ after, runAll operations links = (some (),after) ∧ Represents after lists.lookup ∧
      Frame links after start.lookup (operations.flatMap Operation.names) := by
  induction operations generalizing links start with
  | nil =>
    cases applied
    exact ⟨links,rfl,represented,fun _ _ _ => ⟨rfl,rfl⟩⟩
  | cons operation operations ih =>
    rw [List.foldlM_cons] at applied
    obtain ⟨middle,first,rest⟩ := Option.bind_eq_some_iff.mp applied
    obtain ⟨between,ran,kept,frame⟩ := run_represents represented first
    obtain ⟨after,done,ends,more⟩ := ih kept rest
    refine ⟨after,(Program.bind_some ran).trans done,ends,?_⟩
    intro cell free absent
    rw [List.flatMap_cons,List.mem_append,not_or] at absent
    exact (frame cell free absent.1).trans (more cell (free_apply first free absent.1) absent.2)

theorem represents_nothing (links : Links α) : Represents links (∅ : Lists α).lookup := by
  refine ⟨?_,?_,?_⟩ <;> intro list nodes <;> simp

/-- From any memory, a sequence of operations that makes sense for plain lists follows no `NULL`, leaves each list linked both
ways through its nodes in their order, and changes no pointer outside of the cells it names. -/
theorem list_operations {operations : List (Operation α)} {lists : Lists α} (allowed : operations.foldlM Lists.apply ∅ = some lists)
    (links : Links α) :
    ∃ after, runAll operations links = (some (),after) ∧ Represents after lists.lookup ∧
      ∀ cell, cell ∉ operations.flatMap Operation.names → links.Same after cell := by
  obtain ⟨after,ran,represented,frame⟩ := runAll_represents (represents_nothing links) allowed
  refine ⟨after,ran,represented,fun cell absent => frame cell ?_ absent⟩
  intro list nodes held
  simp at held

theorem list_operations_run :
    let operations : List (Operation Nat) := [.init 0,.add 0 1,.tailInsert 0 2,.delete 1]
    ∃ lists, operations.foldlM Lists.apply ∅ = some lists ∧ lists.lookup 0 = some [2] ∧
      ∃ after, runAll operations ⟨fun _ => none,fun _ => none⟩ = (some (),after) ∧ Represents after lists.lookup ∧
        ∀ cell, cell ∉ operations.flatMap Operation.names → Links.Same ⟨fun _ => none,fun _ => none⟩ after cell :=
  ⟨_,rfl,rfl,list_operations rfl _⟩

/-- What is left of the nodes where a loop keeps some and ends with the first that has a result. -/
def sweep {β : Type} (keeps : α → Bool) (result : α → Option β) : List α → List α
  | [] => []
  | item :: items => [item].filter keeps ++ if (result item).isSome then items else sweep keeps result items

section Loops
variable {β : Type} {lists : α → Option (List α)} {list : α}

/-- Run on a node of the list, the body gives `result` and keeps the node or takes it out. -/
def Turn (list : α) (body : α → Heap α (Option β)) (keeps : α → Bool) (result : α → Option β) : Prop :=
  ∀ (links : Links α) (lists : α → Option (List α)) (front : List α) (item : α) (back : List α), Represents links lists →
    lists list = some (front ++ item :: back) →
    ∃ after, body item links = (some (result item),after) ∧
      Represents after (Function.update lists list (some (front ++ ([item].filter keeps ++ back))))

omit [DecidableEq α] in
theorem next_pointer {links : Links α} {front : List α} {item : α} {back : List α} (represented : Represents links lists)
    (held : lists list = some (front ++ item :: back)) : links.next item = some (back.headD list) :=
  (Links.linked_middle (represented.linked held)).2.1

omit [DecidableEq α] in
theorem not_list {links : Links α} {nodes : List α} {item : α} (represented : Represents links lists) (held : lists list = some nodes)
    (member : item ∈ nodes) : item ≠ list :=
  ne_of_mem_of_not_mem member (List.nodup_cons.mp (represented.distinct held)).1

omit [DecidableEq α] in
/-- The cell that the loop looks at has the pointer it holds next; at the end it is the list itself. -/
theorem next_after {links : Links α} {front todo : List α} (represented : Represents links lists)
    (held : lists list = some (front ++ todo)) : ∃ after, links.next (todo.headD list) = some after ∧
      ∀ item rest, todo = item :: rest → after = rest.headD list := by
  cases todo with
  | nil => exact ⟨_,(head_pointers represented held).1,fun _ _ empty => by cases empty⟩
  | cons item rest =>
    refine ⟨_,next_pointer represented held,?_⟩
    rintro _ _ same
    cases same
    rfl

/-- A turn of the loop that looks one node ahead. -/
theorem safeTurns_entry {body : α → Heap α (Option β)} {fuel : Nat} {item : α} (next : Option α) (apart : item ≠ list) :
    safeTurns list body (fuel+1) (some item) next = (do
      match ← body item with
      | some found => pure (some found)
      | none =>
        let after ← getNext (← deref next)
        safeTurns list body fuel next after : Heap α (Option β)) := by
  rw [safeTurns,if_neg (by simpa using apart)]
  rfl

theorem safeTurns_run {body : α → Heap α (Option β)} {keeps : α → Bool} {result : α → Option β} (turn : Turn list body keeps result)
    {todo : List α} : ∀ {fuel : Nat} {links : Links α} {lists : α → Option (List α)} {front : List α} {next : Option α},
    Represents links lists → lists list = some (front ++ todo) → todo.length < fuel →
    (∀ item rest, todo = item :: rest → next = some (rest.headD list)) →
    ∃ after, safeTurns list body fuel (some (todo.headD list)) next links = (some (todo.findSome? result),after) ∧
      Represents after (Function.update lists list (some (front ++ sweep keeps result todo))) := by
  induction todo with
  | nil =>
    intro fuel links lists front next represented held enough _
    obtain ⟨fuel,rfl⟩ := Nat.exists_eq_succ_of_ne_zero (by omega : fuel ≠ 0)
    refine ⟨links,by simp [safeTurns,pure],?_⟩
    have same : some (front ++ sweep keeps result []) = lists list := held.symm
    rwa [same,Function.update_eq_self]
  | cons item rest ih =>
    intro fuel links lists front next represented held enough pointed
    obtain ⟨fuel,rfl⟩ := Nat.exists_eq_succ_of_ne_zero (by omega : fuel ≠ 0)
    have apart : item ≠ list := not_list represented held (by simp)
    obtain ⟨between,ran,kept⟩ := turn links lists front item rest represented held
    rw [List.headD_cons,safeTurns_entry next apart,Program.bind_some ran,sweep,List.findSome?_cons]
    cases found : result item with
    | some value => exact ⟨between,rfl,by simpa using kept⟩
    | none =>
      rw [pointed item rest rfl]
      rw [← List.append_assoc] at kept
      have holds : Function.update lists list (some (front ++ [item].filter keeps ++ rest)) list =
          some (front ++ [item].filter keeps ++ rest) := Function.update_self _ _ _
      obtain ⟨after,pointer,later⟩ := next_after kept holds
      obtain ⟨last,done,ends⟩ := @ih fuel _ _ _ (some after) kept holds (by simpa using enough)
        (fun other more same => congrArg some (later other more same))
      refine ⟨last,?_,?_⟩
      · simp only [deref,getNext,Program.observe,bind,pure,pointer]
        exact done
      · rwa [Function.update_idem,List.append_assoc] at ends

/-- `DL_LIST_FOR_EACH_ENTRY_SAFE` sees every node up to the first with a result, also where its body takes out the node it is at. -/
theorem forEachEntrySafe_run {body : α → Heap α (Option β)} {keeps : α → Bool} {result : α → Option β}
    (turn : Turn list body keeps result) {links : Links α} {nodes : List α} {fuel : Nat} (represented : Represents links lists)
    (held : lists list = some nodes) (enough : nodes.length < fuel) :
    ∃ after, forEachEntrySafe list body fuel links = (some (nodes.findSome? result),after) ∧
      Represents after (Function.update lists list (some (sweep keeps result nodes))) := by
  obtain ⟨pointer,next,later⟩ := @next_after _ _ _ _ [] nodes represented held
  obtain ⟨after,ran,kept⟩ := @safeTurns_run _ _ _ _ _ _ _ turn nodes fuel links lists [] (some pointer) represented held enough
    (fun item rest same => congrArg some (later item rest same))
  refine ⟨after,?_,kept⟩
  simp only [forEachEntrySafe,getNext,Program.observe,deref,bind,pure,(head_pointers represented held).1,next]
  exact ran

/-- A turn of the loop. -/
theorem entryTurns_entry {body : α → Heap α (Option β)} {fuel : Nat} {item : α} (apart : item ≠ list) :
    entryTurns list body (fuel+1) (some item) = (do
      match ← body item with
      | some found => pure (some found)
      | none =>
        let next ← getNext item
        entryTurns list body fuel next : Heap α (Option β)) :=
  if_neg apart

section Entries
variable {body : α → Heap α (Option β)} {leaves : α → Bool} {links : Links α} {nodes : List α} {fuel : Nat}

theorem entryTurns_run (represented : Represents links lists) (held : lists list = some nodes)
    (passes : ∀ item ∈ nodes, leaves item = false → body item links = (some none,links))
    (ends : ∀ item ∈ nodes, leaves item = true → ∃ value after, body item links = (some (some value),after))
    (front todo : List α) (split : nodes = front ++ todo) (enough : todo.length < fuel) :
    entryTurns list body fuel (some (todo.headD list)) links = match todo.find? leaves with
      | none => (some none,links)
      | some item => body item links := by
  induction todo generalizing front fuel with
  | nil =>
    obtain ⟨fuel,rfl⟩ := Nat.exists_eq_succ_of_ne_zero (by omega : fuel ≠ 0)
    simp [entryTurns,pure]
  | cons item rest ih =>
    obtain ⟨fuel,rfl⟩ := Nat.exists_eq_succ_of_ne_zero (by omega : fuel ≠ 0)
    have member : item ∈ nodes := by simp [split]
    have apart : item ≠ list := not_list represented held member
    rw [List.headD_cons,entryTurns_entry apart]
    cases test : leaves item with
    | true =>
      obtain ⟨value,after,ran⟩ := ends item member test
      rw [Program.bind_some ran,List.find?_cons_of_pos test]
      exact ran.symm
    | false =>
      have next := next_pointer represented (held.trans (congrArg some split))
      rw [Program.bind_some (passes item member test),List.find?_cons_of_neg (by simp [test])]
      simp only [getNext,Program.observe,bind,next]
      exact ih (front ++ [item]) (by simp [split]) (by simpa using enough)

/-- `DL_LIST_FOR_EACH_ENTRY` over a list, with a body that passes over the nodes that fail the test and leaves the loop at the others. -/
theorem forEachEntry_run (represented : Represents links lists) (held : lists list = some nodes) (enough : nodes.length < fuel)
    (passes : ∀ item ∈ nodes, leaves item = false → body item links = (some none,links))
    (ends : ∀ item ∈ nodes, leaves item = true → ∃ value after, body item links = (some (some value),after)) :
    forEachEntry list body fuel links = match nodes.find? leaves with
      | none => (some none,links)
      | some item => body item links := by
  simp only [forEachEntry,getNext,Program.observe,bind,(head_pointers represented held).1]
  exact entryTurns_run represented held passes ends [] nodes rfl enough

end Entries

end Loops

end CommunicationIpc.LinkedLists
