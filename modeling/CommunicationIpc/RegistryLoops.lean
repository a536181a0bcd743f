import CommunicationIpc.LinkedLists

/-! The registries of the C sources over linked memory: each function does to the circle of its registry what it
would do to a plain list. -/
namespace CommunicationIpc.RegistryLoops
open CommunicationIpc.Library CommunicationIpc.Kernel.DoublyLinkedList CommunicationIpc.LinkedLists
open Links (Represents Free)

variable {α : Type} [DecidableEq α] {links : Links α} {lists : α → Option (List α)} {list : α} {nodes : List α} {fuel : Nat}

theorem queryEntry_run (represented : Represents links lists) (held : lists list = some nodes) (enough : nodes.length < fuel)
    (same : α → Bool) : queryEntry same list fuel links = (some (nodes.find? same),links) := by
  have passes (item : α) (_ : item ∈ nodes) (test : same item = false) : queryBody same item links = (some none,links) := by
    simp [queryBody,test,pure]
  have ends (item : α) (test : same item = true) : queryBody same item links = (some (some item),links) := by
    simp [queryBody,test,pure]
  have ran := forEachEntry_run represented held enough passes fun item _ test => ⟨item,links,ends item test⟩
  rw [queryEntry,ran]
  cases found : nodes.find? same with
  | none => rfl
  | some item => exact ends item (List.find?_some found)

theorem getIdleDataThread_run (represented : Represents links lists) (held : lists list = some nodes) (enough : nodes.length < fuel) :
    getIdleDataThread list fuel links = (some nodes.head?,links) := by
  have ran := @forEachEntry_run _ _ _ _ _ (fun node => pure (some node)) (fun _ => true) _ _ _ represented held enough
    (fun _ _ test => by cases test) fun item _ _ => ⟨item,links,rfl⟩
  rw [getIdleDataThread,ran]
  cases nodes <;> rfl

/-- Deleting a node, and whatever `free` then leaves in it, keep the rest of the list. -/
theorem delete_free (represented : Represents links lists) {front back : List α} {node : α}
    (held : lists list = some (front ++ node :: back)) (left : α → Links α) :
    ∃ between after, dlListDelete node links = (some (),between) ∧ free left node between = (some (),after) ∧
      Represents after (Function.update lists list (some (front ++ back))) := by
  obtain ⟨between,ran,kept,_,_⟩ := dlListDelete_represents represented held
  refine ⟨between,_,ran,rfl,kept.frame ?_⟩
  intro cell taken
  have apart : cell ≠ node := by
    rintro rfl
    exact taken (represented.free_deleted held)
  exact ⟨Function.update_of_ne apart _ _,Function.update_of_ne apart _ _⟩

theorem deleteAllBody_turn (left : α → Links α) : Turn list (deleteAllBody left) (fun _ => false) fun _ => none := by
  intro links lists front item back represented held
  obtain ⟨between,after,deleted,freed,kept⟩ := delete_free represented held left
  exact ⟨after,(Program.bind_some deleted).trans (Program.bind_some freed),by simpa using kept⟩

theorem handleBody_turn (handleOf : α → Int32) (left : α → Links α) (handle : Int32) :
    Turn list (handleBody handleOf left handle) (fun item => !decide (handleOf item = handle))
      fun item => if handleOf item = handle then some () else none := by
  intro links lists front item back represented held
  by_cases same : handleOf item = handle
  · obtain ⟨between,after,deleted,freed,kept⟩ := delete_free represented held left
    refine ⟨after,?_,by simpa [same] using kept⟩
    rw [handleBody,if_pos same]
    refine (Program.bind_some deleted).trans ((Program.bind_some freed).trans ?_)
    simp [same,pure]
  · refine ⟨links,?_,?_⟩
    · rw [handleBody,if_neg same]
      simp [same,pure]
    · have whole : some (front ++ ([item].filter (fun item => !decide (handleOf item = handle)) ++ back)) = lists list := by
        simp [held,same]
      rwa [whole,Function.update_eq_self]

theorem queryBody_turn (same : α → Bool) : Turn list (queryBody same) (fun _ => true) fun item => if same item then some item else none := by
  intro links lists front item back represented held
  have whole : some (front ++ ([item].filter (fun _ => true) ++ back)) = lists list := by simp [held]
  refine ⟨links,rfl,?_⟩
  rwa [whole,Function.update_eq_self]

section Sweep
omit [DecidableEq α]

theorem sweep_all {β : Type} (items : List α) : sweep (fun _ => false) (fun _ => (none : Option β)) items = [] := by
  induction items with
  | nil => rfl
  | cons item items ih => simpa [sweep] using ih

theorem sweep_first (test : α → Prop) [DecidablePred test] (items : List α) :
    sweep (fun item => !decide (test item)) (fun item => if test item then some () else none) items = items.eraseP test := by
  induction items with
  | nil => rfl
  | cons item items ih => by_cases met : test item <;> simp [sweep,met,ih]

theorem sweep_none {β : Type} {result : α → Option β} (items : List α) : sweep (fun _ => true) result items = items := by
  induction items with
  | nil => rfl
  | cons item items ih => simp [sweep,ih]

theorem findSome?_test {β : Type} (test : α → Prop) [DecidablePred test] (value : α → β) (items : List α) :
    (items.findSome? fun item => if test item then some (value item) else none) = (items.find? fun item => test item).map value := by
  induction items with
  | nil => rfl
  | cons item items ih => by_cases met : test item <;> simp [met,ih]

end Sweep

theorem deleteAllNode_run (represented : Represents links lists) (held : lists list = some nodes) (enough : nodes.length < fuel)
    (left : α → Links α) :
    ∃ after, deleteAllNode left list fuel links = (some (),after) ∧ Represents after (Function.update lists list (some [])) := by
  obtain ⟨after,ran,kept⟩ := forEachEntrySafe_run (deleteAllBody_turn left) represented held enough
  rw [sweep_all] at kept
  exact ⟨after,Program.bind_some ran,kept⟩

theorem deleteHandle_run (represented : Represents links lists) (held : lists list = some nodes) (enough : nodes.length < fuel)
    (handleOf : α → Int32) (left : α → Links α) (handle : Int32) :
    ∃ after, deleteHandle handleOf left list handle fuel links = (some (nodes.any fun node => handleOf node = handle),after) ∧
      Represents after (Function.update lists list (some (nodes.eraseP fun node => handleOf node = handle))) := by
  obtain ⟨after,ran,kept⟩ := forEachEntrySafe_run (handleBody_turn handleOf left handle) represented held enough
  rw [sweep_first] at kept
  refine ⟨after,(Program.bind_some ran).trans ?_,kept⟩
  rw [findSome?_test,Option.isSome_map,List.isSome_find?]
  rfl

/-- No memory for a node. -/
theorem firstAddObject_refused (represented : Represents links lists) (held : lists list = some nodes) (enough : nodes.length < fuel)
    (handleOf : α → Int32) (handle : Int32) :
    ∃ after, firstAddObject handleOf list handle none fuel links = (some false,after) ∧ Represents after lists := by
  obtain ⟨after,ran,kept⟩ := forEachEntrySafe_run (queryBody_turn fun entry => handleOf entry = handle) represented held enough
  rw [sweep_none,← held,Function.update_eq_self] at kept
  refine ⟨after,?_,kept⟩
  rw [firstAddObject,Program.bind_some ran]
  generalize List.findSome? _ nodes = found
  cases found <;> rfl

theorem firstAddObject_run (represented : Represents links lists) (held : lists list = some nodes) (enough : nodes.length < fuel)
    (handleOf : α → Int32) (handle : Int32) {node : α} (fresh : Free lists node) :
    ∃ after, firstAddObject handleOf list handle (some node) fuel links = (some (!nodes.any fun node => handleOf node = handle),after) ∧
      Represents after
        (Function.update lists list (some (if nodes.any fun node => handleOf node = handle then nodes else node :: nodes))) := by
  obtain ⟨between,ran,kept⟩ := forEachEntrySafe_run (queryBody_turn fun entry => handleOf entry = handle) represented held enough
  simp only [decide_eq_true_eq] at ran
  rw [findSome?_test,Option.map_id'] at ran
  rw [sweep_none] at kept
  rw [firstAddObject,Program.bind_some ran,← List.isSome_find?]
  cases found : nodes.find? fun node => decide (handleOf node = handle) with
  | some other => exact ⟨between,rfl,kept⟩
  | none =>
    have whole : Function.update lists list (some nodes) = lists := by rw [← held,Function.update_eq_self]
    rw [whole] at kept
    obtain ⟨after,added,ends,_⟩ := dlListAdd_represents kept held fresh
    exact ⟨after,Program.bind_some added,ends⟩

theorem popBody_represents (represented : Represents links lists) {front back : List α} {item : α}
    (held : lists list = some (front ++ item :: back)) {threadIdOf : α → Nat} {threadId : Nat} (test : threadIdOf item = threadId) :
    ∃ after, popBody threadIdOf threadId item links = (some (some item),after) ∧
      Represents after (Function.update lists list (some (front ++ back))) := by
  obtain ⟨after,deleted,kept,_,_⟩ := dlListDelete_represents represented held
  refine ⟨after,?_,kept⟩
  rw [popBody,if_pos test]
  exact Program.bind_some deleted

/-- The loop passes over the other threads' data and runs its body once, at the first that is the thread's. -/
theorem popDataInfoFromThread_eq (represented : Represents links lists) (held : lists list = some nodes) (enough : nodes.length < fuel)
    (threadIdOf : α → Nat) (threadId : Nat) :
    popDataInfoFromThread threadIdOf list threadId fuel links = match nodes.find? fun node => threadIdOf node = threadId with
      | none => (some none,links)
      | some item => popBody threadIdOf threadId item links := by
  refine forEachEntry_run represented held enough ?_ ?_
  · intro item _ test
    rw [popBody,if_neg (of_decide_eq_false test)]
    rfl
  · intro item member test
    obtain ⟨front,back,split⟩ := List.append_of_mem member
    obtain ⟨after,popped,_⟩ := popBody_represents represented (held.trans (congrArg some split)) (of_decide_eq_true test)
    exact ⟨item,after,popped⟩

/-- What is popped, and what is left, do not depend on the bound on the turns. -/
theorem popDataInfoFromThread_run (represented : Represents links lists) (held : lists list = some nodes) (threadIdOf : α → Nat)
    (threadId : Nat) :
    ∃ after, (∀ fuel, nodes.length < fuel → popDataInfoFromThread threadIdOf list threadId fuel links =
        (some (nodes.find? fun node => threadIdOf node = threadId),after)) ∧
      Represents after (Function.update lists list (some (nodes.eraseP fun node => threadIdOf node = threadId))) := by
  have ran (fuel : Nat) (enough : nodes.length < fuel) := popDataInfoFromThread_eq represented held enough threadIdOf threadId
  cases found : nodes.find? fun node => decide (threadIdOf node = threadId) with
  | none =>
    rw [found] at ran
    have absent : nodes.eraseP (fun node => decide (threadIdOf node = threadId)) = nodes :=
      List.eraseP_of_forall_not fun node member => by simpa using List.find?_eq_none.mp found node member
    refine ⟨links,ran,?_⟩
    rwa [absent,← held,Function.update_eq_self]
  | some item =>
    rw [found] at ran
    obtain ⟨test,front,back,split,early⟩ := List.find?_eq_some_iff_append.mp found
    obtain ⟨after,popped,kept⟩ := popBody_represents represented (held.trans (congrArg some split)) (of_decide_eq_true test)
    refine ⟨after,fun fuel enough => (ran fuel enough).trans popped,?_⟩
    rwa [split,List.eraseP_append_right _ (fun node member => by simpa using early node member),List.eraseP_cons,test,cond_true]

/-- Over a list of any length, with any memory left behind by `free`, the loops of the registries end and do what they would do to
the plain list, with all other lists unchanged: the first matching entry is found, popped or deleted, a handle is added once,
and `DeleteAllNode` leaves nothing. -/
theorem registry_functions (represented : Represents links lists) (held : lists list = some nodes) (enough : nodes.length < fuel)
    (same : α → Bool) (threadIdOf : α → Nat) (threadId : Nat) (handleOf : α → Int32) (handle : Int32) (left : α → Links α) {node : α}
    (fresh : Free lists node) :
    queryEntry same list fuel links = (some (nodes.find? same),links) ∧
      (∃ after, popDataInfoFromThread threadIdOf list threadId fuel links =
          (some (nodes.find? fun node => threadIdOf node = threadId),after) ∧
        Represents after (Function.update lists list (some (nodes.eraseP fun node => threadIdOf node = threadId)))) ∧
      (∃ after, firstAddObject handleOf list handle (some node) fuel links =
          (some (!nodes.any fun node => handleOf node = handle),after) ∧
        Represents after
          (Function.update lists list (some (if nodes.any fun node => handleOf node = handle then nodes else node :: nodes)))) ∧
      (∃ after, firstAddObject handleOf list handle none fuel links = (some false,after) ∧ Represents after lists) ∧
      (∃ after, deleteHandle handleOf left list handle fuel links = (some (nodes.any fun node => handleOf node = handle),after) ∧
        Represents after (Function.update lists list (some (nodes.eraseP fun node => handleOf node = handle)))) ∧
      ∃ after, deleteAllNode left list fuel links = (some (),after) ∧ Represents after (Function.update lists list (some [])) := by
  obtain ⟨popped,ran,kept⟩ := popDataInfoFromThread_run represented held threadIdOf threadId
  exact ⟨queryEntry_run represented held enough same,⟨popped,ran fuel enough,kept⟩,
    firstAddObject_run represented held enough handleOf handle fresh,firstAddObject_refused represented held enough handleOf handle,
    deleteHandle_run represented held enough handleOf left handle,
    deleteAllNode_run represented held enough left⟩

theorem registry_functions_run :
    ∃ (links : Links Nat) (lists : Nat → Option (List Nat)), Represents links lists ∧ lists 0 = some [1,2] ∧
      queryEntry (fun node => node == 2) 0 3 links = (some (some 2),links) ∧
      ∃ after, deleteAllNode (fun _ => ⟨fun _ => none,fun _ => none⟩) 0 3 links = (some (),after) ∧
        Represents after (Function.update lists 0 (some [])) := by
  obtain ⟨links,_,represented,_⟩ := @runAll_represents Nat _ [.init 0,.add 0 2,.add 0 1] ⟨fun _ => none,fun _ => none⟩ ∅ _
    (represents_nothing _) rfl
  have functions := @registry_functions Nat _ links _ 0 [1,2] 3 represented rfl (by decide) (fun node => node == 2) id 0
    (fun _ => 0) 0 (fun _ => ⟨fun _ => none,fun _ => none⟩) 7 (free_of_has rfl)
  exact ⟨links,_,represented,rfl,functions.1,functions.2.2.2.2.2⟩

end CommunicationIpc.RegistryLoops
