import CommunicationIpc.Library.Memory
import Mathlib.Data.List.TakeWhile

/-! Character arrays that end at their first zero byte, and the part of a text from the last mark in it. -/
namespace CommunicationIpc.Library

def cString (chars : List UInt8) : List UInt8 := chars.takeWhile (fun char => char ≠ 0)

theorem cString_append_zero (name rest : List UInt8) : cString (name ++ 0 :: rest) = cString name := by
  induction name with
  | nil => simp [cString]
  | cons char name ih =>
    simp only [cString,List.cons_append] at ih ⊢
    by_cases zero : char = 0
    · simp [zero]
    · simp only [List.takeWhile_cons,decide_eq_true zero,ne_eq,if_true,ih]

theorem cString_length_le (chars : List UInt8) : (cString chars).length ≤ chars.length :=
  (List.takeWhile_sublist _).length_le

theorem cString_eq_self {name : List UInt8} (full : (cString name).length = name.length) : cString name = name :=
  (List.takeWhile_sublist _).eq_of_length full

theorem cString_eq_self_iff (name : List UInt8) : cString name = name ↔ 0 ∉ name := by
  rw [cString,List.takeWhile_eq_self_iff]
  constructor
  · intro all member
    simpa using all 0 member
  · intro absent char member
    have nonzero : char ≠ 0 := by
      intro same
      subst same
      exact absent member
    simpa using nonzero

theorem cString_readBytes {memory : Memory} {address count : Nat} {name : List UInt8} (room : name.length < count)
    (front : memory.readBytes address name.length = name) (stop : memory (address+name.length) = 0) :
    cString (memory.readBytes address count) = cString name := by
  obtain ⟨rest,rfl⟩ : ∃ rest, count = name.length+(1+rest) := ⟨count-name.length-1,by omega⟩
  have zero : memory.readBytes (address+name.length) 1 = [0] := by
    simp only [Memory.readBytes,List.range_one,List.map_cons,List.map_nil,Nat.add_zero,stop]
  rw [Memory.readBytes_add,Memory.readBytes_add,front,zero,List.singleton_append,cString_append_zero]

theorem append_separator {α : Type} {separator : α} {left right first second : List α} (leftFree : separator ∉ left)
    (rightFree : separator ∉ right) (same : left ++ separator :: first = right ++ separator :: second) : left = right ∧ first = second := by
  induction left generalizing right with
  | nil =>
    cases right with
    | nil => exact ⟨rfl,(List.cons.inj same).2⟩
    | cons head right => exact absurd (List.mem_cons.mpr (.inl (List.cons.inj same).1)) rightFree
  | cons head left ih =>
    cases right with
    | nil => exact absurd (List.mem_cons.mpr (.inl (List.cons.inj same).1.symm)) leftFree
    | cons other right =>
      obtain ⟨rfl,rest⟩ := List.cons.inj same
      obtain ⟨rfl,ends⟩ := ih (fun member => leftFree (List.mem_cons_of_mem _ member))
        (fun member => rightFree (List.mem_cons_of_mem _ member)) rest
      exact ⟨rfl,ends⟩

section Last
variable {α : Type} [DecidableEq α] {mark : α}

/-- What begins at the last `mark`. -/
def fromLast (mark : α) : List α → Option (List α)
  | [] => none
  | char :: rest => (fromLast mark rest).or (if char = mark then some (char :: rest) else none)

theorem fromLast_eq_none_iff {text : List α} : fromLast mark text = none ↔ mark ∉ text := by
  induction text with
  | nil => exact iff_of_true rfl List.not_mem_nil
  | cons char rest ih =>
    rw [fromLast,Option.or_eq_none_iff,ih,List.mem_cons,not_or,and_comm]
    refine and_congr_left fun _ => ?_
    split
    · rename_i same
      exact iff_of_false (Option.some_ne_none _) fun other => other same.symm
    · rename_i other
      exact iff_of_true rfl fun same => other same.symm

theorem fromLast_append {front back : List α} (last : mark ∉ back) : fromLast mark (front ++ mark :: back) = some (mark :: back) := by
  induction front with
  | nil => rw [List.nil_append,fromLast,fromLast_eq_none_iff.mpr last,if_pos rfl,Option.none_or]
  | cons char front ih => rw [List.cons_append,fromLast,ih,Option.some_or]

theorem append_of_fromLast {text tail : List α} (found : fromLast mark text = some tail) :
    ∃ front back, text = front ++ mark :: back ∧ mark ∉ back ∧ tail = mark :: back := by
  induction text with
  | nil => cases found
  | cons char rest ih =>
    rw [fromLast,Option.or_eq_some_iff] at found
    rcases found with later | ⟨none_,here⟩
    · obtain ⟨front,back,rfl,last,rfl⟩ := ih later
      exact ⟨char :: front,back,rfl,last,rfl⟩
    · split at here
      · rename_i same
        cases here
        exact ⟨[],rest,by rw [same]; rfl,fromLast_eq_none_iff.mp none_,by rw [same]⟩
      · cases here

end Last

end CommunicationIpc.Library
