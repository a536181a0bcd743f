import Mathlib.Algebra.Order.Ring.Int
import Mathlib.Data.List.Basic

/-! Windows of a list: the block between two positions, and the effect of
overwriting, growing and compacting the list around it. -/
namespace CommunicationIpc.Library

variable {α : Type*}

/-- The block of `items` from position `start` up to position `stop`. -/
def window (items : List α) (start stop : Nat) : List α := (items.drop start).take (stop-start)

/-- `items` with the block at `position` replaced by `block`. -/
def overwrite (items : List α) (position : Nat) (block : List α) : List α :=
  items.take position ++ block ++ items.drop (position+block.length)

@[simp] theorem window_self (items : List α) (position : Nat) : window items position position = [] := by
  simp [window]

theorem window_length {items : List α} (start : Nat) {stop : Nat} (bound : stop ≤ items.length) :
    (window items start stop).length = stop-start := by
  simp only [window,List.length_take,List.length_drop]
  omega

theorem overwrite_length {items : List α} {position : Nat} {block : List α}
    (room : position+block.length ≤ items.length) :
    (overwrite items position block).length = items.length := by
  simp only [overwrite,List.length_append,List.length_take,List.length_drop]
  omega

theorem window_overwrite_end {items : List α} {start stop : Nat} {block : List α}
    (order : start ≤ stop) (room : stop ≤ items.length) :
    window (overwrite items stop block) start (stop+block.length) = window items start stop ++ block := by
  have front : (items.take stop).length = stop := by simp only [List.length_take]; omega
  have kept : ((items.take stop).drop start).length = stop-start := by
    simp only [List.length_drop,front]
  have width : stop+block.length-start = (stop-start)+block.length := by omega
  simp only [window,overwrite]
  rw [List.append_assoc,List.drop_append_of_le_length (by omega),width,← kept,List.take_length_add_append,
    List.take_left,List.drop_take]
  simp only [List.length_take,List.length_drop]
  congr 2
  omega

theorem window_of_prefix {items rest : List α} {start stop : Nat} (room : stop ≤ items.length) :
    window (items ++ rest) start stop = window items start stop := by
  by_cases order : start ≤ stop
  · simp only [window]
    rw [List.drop_append_of_le_length (by omega),List.take_append_of_le_length]
    simp only [List.length_drop]
    omega
  · have empty : stop-start = 0 := by omega
    simp only [window,empty,List.take_zero]

theorem window_overwrite_front (items : List α) (start stop : Nat) (room : stop ≤ items.length) :
    window (overwrite items 0 (window items start stop)) 0 (stop-start) = window items start stop := by
  have width := window_length start room
  simp only [overwrite,List.take_zero,List.nil_append]
  rw [window,List.drop_zero,Nat.sub_zero,← width,List.take_left]

end CommunicationIpc.Library
