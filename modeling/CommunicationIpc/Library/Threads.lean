import CommunicationIpc.Library.Run

/-! Tasks that interleave over shared state. One step is one atomic section of one task;
the others stay where they are. -/
namespace CommunicationIpc.Library

structure Pool (σ τ : Type*) where
  shared : σ
  tasks : Nat → τ

namespace Pool

variable {σ τ χ : Type*}

/-- A task with its next atomic section, and what the surroundings choose in it. -/
abbrev Move (χ : Type*) := Nat × χ

def step (advance : σ → τ → χ → Option (σ × τ)) (pool : Pool σ τ) (move : Move χ) : Option (Pool σ τ) :=
  (advance pool.shared (pool.tasks move.1) move.2).map fun after =>
    ⟨after.1,fun i => if i = move.1 then after.2 else pool.tasks i⟩

variable {advance : σ → τ → χ → Option (σ × τ)} {pool next : Pool σ τ} {move : Move χ}

theorem step_cases (taken : fires (step advance) pool move next) :
    ∃ after : σ × τ, advance pool.shared (pool.tasks move.1) move.2 = some after ∧ next.shared = after.1 ∧
      next.tasks move.1 = after.2 ∧ ∀ i, i ≠ move.1 → next.tasks i = pool.tasks i := by
  obtain ⟨after,advanced,made⟩ := Option.map_eq_some_iff.mp taken
  subst made
  exact ⟨after,advanced,rfl,if_pos rfl,fun i other => if_neg other⟩

theorem untouched {start : Pool σ τ} {moves : List (Move χ)} (run : Reaches (fires (step advance)) start moves pool) {i : Nat}
    (absent : ∀ move ∈ moves, move.1 ≠ i) : pool.tasks i = start.tasks i := by
  induction run with
  | nil => rfl
  | snoc move _ taken ih =>
    obtain ⟨_,_,_,_,others⟩ := step_cases taken
    rw [others i (absent move (by simp)).symm]
    exact ih fun before member => absent before (List.mem_append_left _ member)

/-- The next section of a task does not come in between two sections of another that it would disturb. -/
def Undisturbed (disturbs : σ → τ → τ → Bool) (pool : Pool σ τ) (move : Move χ) : Prop :=
  ∀ i, i ≠ move.1 → disturbs pool.shared (pool.tasks move.1) (pool.tasks i) = false

/-- A run that can be computed, where the tasks that have not begun disturb nobody and are not disturbed. -/
theorem exists_of_foldlM_undisturbed (advance : σ → τ → χ → Option (σ × τ)) (disturbs : σ → τ → τ → Bool)
    (guard : Pool σ τ → Move χ → Prop) [∀ pool move, Decidable (guard pool move)] (start : Pool σ τ) (moves : List (Move χ))
    (bound : Nat) (few : ∀ move ∈ moves, move.1 < bound)
    (idle : ∀ shared task i, bound ≤ i → disturbs shared task (start.tasks i) = false) (test : Pool σ τ → Bool)
    (computed : (moves.foldlM (fun pool move =>
      if (∀ i < bound, i ≠ move.1 → disturbs pool.shared (pool.tasks move.1) (pool.tasks i) = false) ∧ guard pool move
      then step advance pool move else none) start).any test = true) :
    ∃ pool, Reaches (guarded (fires (step advance)) fun pool move => Undisturbed disturbs pool move ∧ guard pool move) start moves pool ∧
      test pool = true := by
  obtain ⟨pool,run,tested⟩ := Reaches.exists_of_foldlM_guarded (step advance)
    (fun pool move => (∀ i < bound, i ≠ move.1 → disturbs pool.shared (pool.tasks move.1) (pool.tasks i) = false) ∧ guard pool move)
    start moves test computed
  refine ⟨pool,?_,tested⟩
  clear computed tested
  induction run with
  | nil => exact .nil
  | @snoc events _ _ move before taken ih =>
    have fewer := ih fun earlier member => few earlier (List.mem_append_left _ member)
    obtain ⟨⟨apart,allowed⟩,fired⟩ := taken
    refine .snoc move fewer ⟨⟨?_,allowed⟩,fired⟩
    intro i other
    by_cases small : i < bound
    · exact apart i small other
    · have absent : ∀ earlier ∈ events, earlier.1 ≠ i := by
        intro earlier member same
        have below := few earlier (List.mem_append_left _ member)
        omega
      rw [untouched (before.mono fun _ _ _ taken => taken.2) absent]
      exact idle _ _ i (Nat.le_of_not_lt small)

/-- Tasks whose work shrinks with each of their sections take only so many of them, however they interleave. -/
theorem sections_bounded (plain : τ → Prop) (work : τ → Nat)
    (shrinks : ∀ (shared : σ) (task : τ) (choice : χ) (after : σ × τ), advance shared task choice = some after →
      plain after.2 → plain task ∧ work after.2 < work task)
    {start : Pool σ τ} {moves : List (Move χ)} (run : Reaches (fires (step advance)) start moves pool) {i : Nat}
    (ends : plain (pool.tasks i)) :
    moves.countP (fun move => move.1 = i)+work (pool.tasks i) ≤ work (start.tasks i) := by
  induction run with
  | nil => simp
  | snoc move _ taken ih =>
    obtain ⟨after,advanced,_,task,others⟩ := step_cases taken
    rw [List.countP_append]
    by_cases same : i = move.1
    · subst same
      rw [task] at ends ⊢
      obtain ⟨before,less⟩ := shrinks _ _ move.2 after advanced ends
      have earlier := ih before
      have own : [move].countP (fun other => other.1 = move.1) = 1 := by simp
      omega
    · rw [others i same] at ends ⊢
      have earlier := ih ends
      have other : [move].countP (fun other => other.1 = i) = 0 := by simpa using fun equal => same equal.symm
      omega

end Pool

end CommunicationIpc.Library
