import Mathlib.Algebra.GroupWithZero.Nat
import Mathlib.Algebra.Order.BigOperators.Group.List
import Mathlib.Algebra.Order.Group.Nat
import Mathlib.Data.List.Basic
import Mathlib.Data.List.Nodup

/-! Lists whose elements are looked up, taken out one at a time, and changed in place. -/
namespace CommunicationIpc.Library.Entries

variable {α β : Type*} {items : List α} {item : α}

/-- What a search finds is what `eraseP` takes out. -/
theorem perm_eraseP {test : α → Bool} (found : items.find? test = some item) : items.Perm (item :: items.eraseP test) := by
  induction items with
  | nil => cases found
  | cons head tail ih =>
    cases passed : test head with
    | true =>
      rw [List.find?_cons_of_pos passed] at found
      rw [List.eraseP_cons_of_pos passed,Option.some.inj found]
    | false =>
      rw [List.find?_cons_of_neg (by simp [passed])] at found
      rw [List.eraseP_cons_of_neg (by simp [passed])]
      exact ((ih found).cons head).trans (.swap item head _)

section InPlace
variable {index other : Nat} {value : α}

/-- What a list that gathers over its elements gathers from the others. -/
theorem flatMap_set (gather : α → List β) (at_ : items[index]? = some item) :
    ∃ rest, (items.flatMap gather).Perm (gather item ++ rest) ∧
      ∀ value, ((items.set index value).flatMap gather).Perm (gather value ++ rest) := by
  obtain ⟨bound,same⟩ := List.getElem?_eq_some_iff.mp at_
  have split : items = items.take index ++ item :: items.drop (index+1) := by
    rw [← same,List.getElem_cons_drop,List.take_append_drop]
  refine ⟨(items.take index).flatMap gather ++ (items.drop (index+1)).flatMap gather,?_,?_⟩
  · nth_rewrite 1 [split]
    rw [List.flatMap_append,List.flatMap_cons]
    exact List.perm_append_comm_assoc ..
  · intro value
    rw [List.set_eq_take_append_cons_drop,if_pos bound,List.flatMap_append,List.flatMap_cons]
    exact List.perm_append_comm_assoc ..

theorem at_set (at_ : (items.set index value)[other]? = some item) :
    other = index ∧ item = value ∨ other ≠ index ∧ items[other]? = some item := by
  by_cases same : other = index
  · subst same
    obtain ⟨bound,value_⟩ := List.getElem?_eq_some_iff.mp at_
    rw [List.getElem_set_self] at value_
    exact .inl ⟨rfl,value_.symm⟩
  · rw [List.getElem?_set_ne (Ne.symm same)] at at_
    exact .inr ⟨same,at_⟩

theorem at_set_self (at_ : items[index]? = some item) : (items.set index value)[index]? = some value :=
  List.getElem?_set_self (List.getElem?_eq_some_iff.mp at_).1

theorem at_set_other (apart : other ≠ index) : (items.set index value)[other]? = items[other]? :=
  List.getElem?_set_ne (Ne.symm apart)

theorem at_modify_of (change : α → α) (at_ : items[other]? = some item) :
    (items.modify index change)[other]? = some (if index = other then change item else item) := by
  rw [List.getElem?_modify,at_]
  rfl

theorem at_concat_last (at_ : (items ++ [value])[index]? = some item) :
    items[index]? = some item ∨ index = items.length ∧ item = value := by
  by_cases bound : index < items.length
  · rw [List.getElem?_append_left bound] at at_
    exact .inl at_
  · have whole := (List.getElem?_eq_some_iff.mp at_).1
    rw [List.length_append,List.length_singleton] at whole
    rw [List.getElem?_append_right (Nat.le_of_not_lt bound)] at at_
    exact .inr ⟨by omega,List.mem_singleton.mp (List.mem_of_getElem? at_)⟩

theorem at_concat (at_ : (items ++ [value])[index]? = some item) : items[index]? = some item ∨ item = value :=
  (at_concat_last at_).imp_right And.right

theorem at_concat_of (at_ : items[index]? = some item) : (items ++ [value])[index]? = some item := by
  rw [List.getElem?_append_left (List.getElem?_eq_some_iff.mp at_).1,at_]

theorem at_most_one {test : α → Bool} (once : items.countP test ≤ 1) {found : α} (at_ : items[index]? = some item)
    (at_' : items[other]? = some found) (passed : test item = true) (passed' : test found = true) : index = other := by
  induction items generalizing index other with
  | nil => cases at_
  | cons head tail ih =>
    rw [List.countP_cons] at once
    -- behind a head that passes nothing passes
    have alone : ∀ {position : Nat} {later : α}, test head = true → tail[position]? = some later → test later = true → False := by
      intro position later first there second
      have positive := List.countP_pos_iff.mpr ⟨later,List.mem_of_getElem? there,second⟩
      rw [if_pos first] at once
      omega
    cases index with
    | zero =>
      cases at_
      cases other with
      | zero => rfl
      | succ other => exact absurd (alone passed at_' passed') id
    | succ index =>
      cases other with
      | zero =>
        cases at_'
        exact absurd (alone passed' at_ passed) id
      | succ other => exact congrArg (·+1) (ih (by omega) at_ at_')

theorem countP_set_same {test : α → Bool} (at_ : items[index]? = some item) (same : test value = test item) :
    (items.set index value).countP test = items.countP test := by
  obtain ⟨bound,there⟩ := List.getElem?_eq_some_iff.mp at_
  rw [List.countP_set bound,there,same]
  split
  · rename_i passed
    have positive := List.countP_pos_iff.mpr ⟨item,List.mem_of_getElem? at_,passed⟩
    omega
  · rfl

end InPlace

section Keyed
variable {κ : Type*}

/-- No two elements have the same key; some have none. -/
def Apart (key : α → Option κ) (items : List α) : Prop :=
  ∀ (one two : Nat) first second k, items[one]? = some first → items[two]? = some second → key first = some k → key second = some k →
    one = two

variable {key : α → Option κ} {index : Nat} {value : α}

theorem Apart.nil : Apart key [] := by
  intro one two first second k at_
  cases at_

theorem Apart.concat (apart : Apart key items) (none_ : key value = none) : Apart key (items ++ [value]) := by
  have old : ∀ {position : Nat} {found : α} {k : κ}, (items ++ [value])[position]? = some found → key found = some k →
      items[position]? = some found := by
    intro position found k at_ keyed
    rcases at_concat at_ with before | rfl
    · exact before
    · rw [none_] at keyed
      cases keyed
  intro one two first second k at_ at_' keyed keyed'
  exact apart one two first second k (old at_ keyed) (old at_' keyed') keyed keyed'

theorem Apart.set (apart : Apart key items) (at_ : items[index]? = some item)
    (known : ∀ k, key value = some k → key item = some k ∨ ∀ other ∈ items, key other ≠ some k) : Apart key (items.set index value) := by
  -- nobody else has the key that the element has now
  have alone : ∀ {position : Nat} {other : α} {k : κ}, position ≠ index → items[position]? = some other → key value = some k →
      key other ≠ some k := by
    intro position other k elsewhere there keyed same
    rcases known k keyed with had | fresh
    · exact elsewhere (apart position index other item k there at_ same had)
    · exact fresh other (List.mem_of_getElem? there) same
  intro one two first second k there there' keyed keyed'
  rcases at_set there with ⟨rfl,rfl⟩ | ⟨elsewhere,old⟩
  · rcases at_set there' with ⟨rfl,rfl⟩ | ⟨elsewhere',old'⟩
    · rfl
    · exact absurd keyed' (alone elsewhere' old' keyed)
  · rcases at_set there' with ⟨rfl,rfl⟩ | ⟨-,old'⟩
    · exact absurd keyed (alone elsewhere old keyed')
    · exact apart one two first second k old old' keyed keyed'

theorem Apart.map (apart : Apart key items) {change : α → α} (same : ∀ item, key (change item) = key item) :
    Apart key (items.map change) := by
  intro one two first second k at_ at_' keyed keyed'
  rw [List.getElem?_map] at at_ at_'
  obtain ⟨before,there,rfl⟩ := Option.map_eq_some_iff.mp at_
  obtain ⟨before',there',rfl⟩ := Option.map_eq_some_iff.mp at_'
  rw [same] at keyed keyed'
  exact apart one two before before' k there there' keyed keyed'

end Keyed

theorem sum_set {index : Nat} {value : α} (weight : α → Nat) (at_ : items[index]? = some item) :
    ((items.set index value).map weight).sum+weight item = (items.map weight).sum+weight value := by
  induction items generalizing index with
  | nil => cases at_
  | cons head tail ih =>
    cases index with
    | zero =>
      cases at_
      simp only [List.set_cons_zero,List.map_cons,List.sum_cons]
      omega
    | succ index =>
      have later := ih at_
      simp only [List.set_cons_succ,List.map_cons,List.sum_cons]
      omega

theorem entry_unique {γ : Type*} {key : α → γ} (distinct : (items.map key).Nodup) {other : α} (member : item ∈ items)
    (also : other ∈ items) (same : key item = key other) : item = other :=
  List.inj_on_of_nodup_map distinct member also same

end CommunicationIpc.Library.Entries
