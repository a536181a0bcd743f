import Mathlib.Algebra.BigOperators.Group.List.Basic
import Mathlib.Algebra.GroupWithZero.Nat
import Mathlib.Data.List.Basic
import Mathlib.Data.List.Nodup
import Mathlib.Data.List.Sort

/-! Items gathered under their keys as they come in: an ordered map with one value for each key, which stands for the items with that
key. -/
namespace CommunicationIpc.Library

variable {κ ν α : Type*} [DecidableEq κ]

/-- A key that is not there is entered with a fresh value; the value of one that is there is changed. -/
def upsert (le : κ → κ → Prop) [DecidableRel le] (entries : List (κ × ν)) (key : κ) (fresh : ν) (change : ν → ν) : List (κ × ν) :=
  match entries.find? fun entry => entry.1 = key with
  | none => entries.orderedInsert (fun left right => le left.1 right.1) (key,fresh)
  | some _ => entries.map fun entry => if entry.1 = key then (entry.1,change entry.2) else entry

/-- The items with a key. -/
def part (key : α → κ) (items : List α) (wanted : κ) : List α := items.filter fun item => key item = wanted

section Part
variable {key : α → κ} {items : List α} {wanted : κ} {item : α}

theorem mem_part : item ∈ part key items wanted ↔ item ∈ items ∧ key item = wanted := by
  rw [part,List.mem_filter,decide_eq_true_iff]

theorem part_snoc_same (same : key item = wanted) : part key (items ++ [item]) wanted = part key items wanted ++ [item] := by
  rw [part,List.filter_append,List.filter_singleton,decide_eq_true same]
  rfl

theorem part_snoc_other (other : key item ≠ wanted) : part key (items ++ [item]) wanted = part key items wanted := by
  rw [part,List.filter_append,List.filter_singleton,decide_eq_false other]
  exact List.append_nil _

theorem part_eq_nil_iff : part key items wanted = [] ↔ ∀ item ∈ items, key item ≠ wanted := by
  simp only [part,List.filter_eq_nil_iff,decide_eq_true_eq,ne_eq]

/-- Over keys that are all different, and include those of the items, the parts weigh as much as the items. -/
theorem sum_parts {keys : List κ} (distinct : keys.Nodup) (entered : ∀ item ∈ items, key item ∈ keys) (weight : α → Nat) :
    (keys.map fun wanted => ((part key items wanted).map weight).sum).sum = (items.map weight).sum := by
  induction items with
  | nil => exact List.sum_map_zero
  | cons item items ih =>
    have split : ∀ wanted, ((part key (item :: items) wanted).map weight).sum =
        (if wanted = key item then weight item else 0)+((part key items wanted).map weight).sum := by
      intro wanted
      by_cases same : key item = wanted
      · rw [part,List.filter_cons_of_pos (by simpa using same),List.map_cons,List.sum_cons,if_pos same.symm]
        rfl
      · rw [part,List.filter_cons_of_neg (by simpa using same),if_neg (Ne.symm same),Nat.zero_add]
        rfl
    have once : (keys.map fun wanted => if wanted = key item then weight item else 0).sum = weight item := by
      rw [List.sum_map_eq_nsmul_single (key item) _ fun other apart _ => if_neg apart,if_pos rfl,
        List.count_eq_one_of_mem distinct (entered item List.mem_cons_self),one_nsmul]
    calc
      (keys.map fun wanted => ((part key (item :: items) wanted).map weight).sum).sum =
          (keys.map fun wanted => (if wanted = key item then weight item else 0)+((part key items wanted).map weight).sum).sum := by
        simp only [split]
      _ = weight item+(items.map weight).sum := by
        rw [List.sum_map_add,once,ih fun other member => entered other (List.mem_cons_of_mem _ member)]
      _ = ((item :: items).map weight).sum := by rw [List.map_cons,List.sum_cons]

end Part

/-- There is one entry for each key of the items, and its value stands for the items with the key. -/
structure Grouped (key : α → κ) (Holds : ν → List α → Prop) (entries : List (κ × ν)) (items : List α) : Prop where
  distinct : (entries.map Prod.fst).Nodup
  entered : ∀ item ∈ items, key item ∈ entries.map Prod.fst
  holds : ∀ entry ∈ entries, part key items entry.1 ≠ [] ∧ Holds entry.2 (part key items entry.1)

namespace Grouped
variable {key : α → κ} {Holds : ν → List α → Prop} {entries : List (κ × ν)} {items : List α} {item : α}

theorem nil : Grouped key Holds [] [] :=
  ⟨List.nodup_nil,fun _ member => absurd member List.not_mem_nil,fun _ member => absurd member List.not_mem_nil⟩

theorem find_cases (grouped : Grouped key Holds entries items) (wanted : κ) :
    entries.find? (fun entry => entry.1 = wanted) = none ∧ part key items wanted = [] ∨
      ∃ value, entries.find? (fun entry => entry.1 = wanted) = some (wanted,value) ∧ part key items wanted ≠ [] ∧
        Holds value (part key items wanted) := by
  cases found : entries.find? fun entry => entry.1 = wanted with
  | none =>
    refine .inl ⟨rfl,part_eq_nil_iff.mpr fun item member same => ?_⟩
    obtain ⟨entry,inside,named⟩ := List.mem_map.mp (grouped.entered item member)
    exact absurd (decide_eq_true (named.trans same)) (List.find?_eq_none.mp found entry inside)
  | some entry =>
    obtain ⟨name,value⟩ := entry
    have same : name = wanted := by simpa using List.find?_some found
    subst same
    exact .inr ⟨value,rfl,grouped.holds _ (List.mem_of_find?_eq_some found)⟩

theorem mem_keys_iff (grouped : Grouped key Holds entries items) (wanted : κ) :
    wanted ∈ entries.map Prod.fst ↔ ∃ item ∈ items, key item = wanted := by
  constructor
  · intro member
    obtain ⟨entry,inside,rfl⟩ := List.mem_map.mp member
    obtain ⟨item,there⟩ := List.exists_mem_of_ne_nil _ (grouped.holds entry inside).1
    exact ⟨item,mem_part.mp there⟩
  · rintro ⟨item,member,rfl⟩
    exact grouped.entered item member

/-- What the values weigh together, if each weighs as much as the items it stands for. -/
theorem sum_eq (grouped : Grouped key Holds entries items) {value : ν → Nat} {weight : α → Nat}
    (same : ∀ {held some_}, some_.Sublist items → Holds held some_ → value held = (some_.map weight).sum) :
    (entries.map fun entry => value entry.2).sum = (items.map weight).sum := by
  rw [← sum_parts grouped.distinct grouped.entered weight,List.map_map]
  refine congrArg List.sum (List.map_congr_left fun entry member => ?_)
  exact same List.filter_sublist (grouped.holds entry member).2

theorem upsert (le : κ → κ → Prop) [DecidableRel le] (grouped : Grouped key Holds entries items) (item : α) {fresh : ν} {change : ν → ν}
    (begins : Holds fresh [item])
    (goesOn : ∀ {held others}, others ≠ [] → (∀ other ∈ others, key other = key item) → Holds held others →
      Holds (change held) (others ++ [item])) :
    Grouped key Holds (Library.upsert le entries (key item) fresh change) (items ++ [item]) := by
  rcases grouped.find_cases (key item) with ⟨found,nothing⟩ | ⟨value,found,-,-⟩
  · have inserted : Library.upsert le entries (key item) fresh change =
        entries.orderedInsert (fun left right => le left.1 right.1) (key item,fresh) := by
      rw [Library.upsert,found]
    have order := List.perm_orderedInsert (fun left right : κ × ν => le left.1 right.1) (key item,fresh) entries
    have new_ : key item ∉ entries.map Prod.fst := by
      intro there
      obtain ⟨other,member,same⟩ := (grouped.mem_keys_iff _).mp there
      exact part_eq_nil_iff.mp nothing other member same
    rw [inserted]
    refine ⟨?_,?_,?_⟩
    · rw [(order.map Prod.fst).nodup_iff]
      exact List.nodup_cons.mpr ⟨new_,grouped.distinct⟩
    · intro other member
      rw [(order.map Prod.fst).mem_iff]
      rcases List.mem_append.mp member with old | last
      · exact List.mem_cons_of_mem _ (grouped.entered other old)
      · rw [List.mem_singleton.mp last]
        exact List.mem_cons_self
    · intro entry member
      rcases List.mem_cons.mp (order.mem_iff.mp member) with rfl | old
      · rw [part_snoc_same rfl,nothing]
        exact ⟨List.cons_ne_nil _ _,begins⟩
      · have apart : key item ≠ entry.1 := fun same => new_ (same ▸ List.mem_map_of_mem old)
        rw [part_snoc_other apart]
        exact grouped.holds entry old
  · have changed : Library.upsert le entries (key item) fresh change =
        entries.map fun entry => if entry.1 = key item then (entry.1,change entry.2) else entry := by
      rw [Library.upsert,found]
    have names : (Library.upsert le entries (key item) fresh change).map Prod.fst = entries.map Prod.fst := by
      rw [changed,List.map_map]
      refine List.map_congr_left fun entry _ => ?_
      rw [Function.comp_apply]
      split
      · rfl
      · rfl
    refine ⟨names ▸ grouped.distinct,?_,?_⟩
    · intro other member
      rw [names]
      rcases List.mem_append.mp member with old | last
      · exact grouped.entered other old
      · rw [List.mem_singleton.mp last]
        exact List.mem_map_of_mem (List.mem_of_find?_eq_some found)
    · intro entry member
      rw [changed] at member
      obtain ⟨before,inside,rfl⟩ := List.mem_map.mp member
      obtain ⟨some_,held⟩ := grouped.holds before inside
      split
      · rename_i same
        rw [part_snoc_same same.symm]
        exact ⟨by simp,goesOn some_ (fun other there => (mem_part.mp there).2.trans same) held⟩
      · rename_i apart
        rw [part_snoc_other (Ne.symm apart)]
        exact ⟨some_,held⟩

end Grouped

end CommunicationIpc.Library
