import Mathlib.Algebra.Order.Ring.Int
import Mathlib.Data.List.Basic

/-! What a session's send buffer is for: a byte stream with many writers. A block
is taken whole or refused, and what waits is handed over in order. -/
namespace CommunicationIpc.Semantics

variable {α : Type*}

structure SendStream (α : Type*) where
  delivered : List α
  queued : List α
  accepted : List (List α)

namespace SendStream

inductive Step (stream : SendStream α) : SendStream α → Prop
  | accept (block : List α) :
      Step stream ⟨stream.delivered,stream.queued ++ block,stream.accepted ++ [block]⟩
  | flush : Step stream ⟨stream.delivered ++ stream.queued,[],stream.accepted⟩
  | idle : Step stream stream

/-- Everything accepted, in order, is either delivered or still queued. -/
def Exact (stream : SendStream α) : Prop :=
  stream.delivered ++ stream.queued = stream.accepted.flatten

theorem Step.exact {stream next : SendStream α} (step : Step stream next) (exact : stream.Exact) :
    next.Exact := by
  cases step with
  | accept block =>
    simp only [Exact,List.flatten_append,List.flatten_singleton] at exact ⊢
    rw [← exact,List.append_assoc]
  | flush =>
    simp only [Exact,List.append_nil] at exact ⊢
    exact exact
  | idle => exact exact

end SendStream

end CommunicationIpc.Semantics
