import Mathlib.Data.Option.Defs
import Mathlib.Order.Defs.PartialOrder

/-! Programs that change a state and may fail, keeping the state they failed in, with the rules for
what a program keeps, when it is sure to fail, when two of them do the same, and for loops. -/
namespace CommunicationIpc.Library

def Program (σ α : Type) := σ → Option α × σ

namespace Program

variable {σ α β : Type}

instance : Monad (Program σ) where
  pure value := fun s => (some value,s)
  bind first rest := fun s =>
    match first s with
    | (none,t) => (none,t)
    | (some value,t) => rest value t

instance : LawfulMonad (Program σ) := by
  refine LawfulMonad.mk' _ ?_ ?_ ?_
  · intro α program
    funext s
    cases ran : program s with
    | mk outcome t =>
      cases outcome with
      | none => simp only [Functor.map,ran]
      | some value =>
        simp only [Functor.map,ran]
        rfl
  · intro α β value rest
    rfl
  · intro α β γ first rest last
    funext s
    cases ran : first s with
    | mk outcome t => cases outcome <;> simp only [bind,ran]

def fail : Program σ α := fun s => (none,s)

/-- Goes on also where `program` failed. -/
def attempt (program : Program σ α) : Program σ (Option α) := fun s => (some (program s).1,(program s).2)

def observe (view : σ → α) : Program σ α := fun s => (some (view s),s)

def update (change : σ → σ) : Program σ Unit := fun s => (some (),change s)

def forEach (body : α → Program σ β) : List α → Program σ (List β)
  | [] => pure []
  | item :: items => do
    let value ← body item
    let values ← forEach body items
    pure (value :: values)

theorem bind_some {first : Program σ α} {rest : α → Program σ β} {s t : σ} {value : α} (done : first s = (some value,t)) :
    (first >>= rest) s = rest value t := by
  simp only [bind,done]

theorem bind_none {first : Program σ α} {rest : α → Program σ β} {s t : σ} (failed : first s = (none,t)) :
    (first >>= rest) s = (none,t) := by
  simp only [bind,failed]

theorem map_fst (f : α → β) (program : Program σ α) (s : σ) : ((f <$> program) s).1 = (program s).1.map f := by
  cases ran : program s with
  | mk outcome t =>
    cases outcome with
    | none => exact congrArg Prod.fst (bind_none ran)
    | some value => exact congrArg Prod.fst (bind_some ran)

theorem bind_success {first : Program σ α} {rest : α → Program σ β} {s u : σ} {result : β}
    (done : (first >>= rest) s = (some result,u)) :
    ∃ value t, first s = (some value,t) ∧ rest value t = (some result,u) := by
  cases ran : first s with
  | mk outcome t =>
    cases outcome with
    | none =>
      rw [bind_none ran] at done
      cases done
    | some value =>
      rw [bind_some ran] at done
      exact ⟨value,t,rfl,done⟩

/-- A preorder on states: what a program may change. -/
structure Effect (σ : Type) where
  rel : σ → σ → Prop
  refl : ∀ s, rel s s
  trans : ∀ {s t u}, rel s t → rel t u → rel s u

/-- From a state in `before` the program changes no more than `effect` allows, and it ends in `failed`
or returns a value in `after`. -/
def Meets (effect : Effect σ) (failed before : σ → Prop) (program : Program σ α) (after : α → σ → Prop) : Prop :=
  ∀ s, before s → effect.rel s (program s).2 ∧
    ((program s).1 = none → failed (program s).2) ∧ ∀ value, (program s).1 = some value → after value (program s).2

namespace Meets

variable {effect : Effect σ} {failed before : σ → Prop} {after wider : α → σ → Prop} {last : β → σ → Prop}

theorem pure {value : α} (holds : ∀ s, before s → after value s) : Meets effect failed before (Pure.pure value) after := by
  intro s held
  refine ⟨effect.refl s,(fun absent => by cases absent),?_⟩
  intro returned same
  cases same
  exact holds s held

theorem fail (holds : ∀ s, before s → failed s) : Meets effect failed before (Program.fail : Program σ α) after := by
  intro s held
  exact ⟨effect.refl s,fun _ => holds s held,fun _ returned => by cases returned⟩

theorem observe {view : σ → α} (holds : ∀ s, before s → after (view s) s) :
    Meets effect failed before (Program.observe view) after := by
  intro s held
  refine ⟨effect.refl s,(fun absent => by cases absent),?_⟩
  intro returned same
  cases same
  exact holds s held

theorem update {change : σ → σ} {done : Unit → σ → Prop} (allowed : ∀ s, before s → effect.rel s (change s))
    (holds : ∀ s, before s → done () (change s)) : Meets effect failed before (Program.update change) done := by
  intro s held
  exact ⟨allowed s held,(fun absent => by cases absent),fun _ _ => holds s held⟩

theorem bind {first : Program σ α} {rest : α → Program σ β} (begins : Meets effect failed before first after)
    (goesOn : ∀ value, Meets effect failed (after value) (rest value) last) :
    Meets effect failed before (first >>= rest) last := by
  intro s held
  obtain ⟨reached,stopped,returned⟩ := begins s held
  cases ran : first s with
  | mk outcome t =>
    rw [ran] at reached stopped returned
    cases outcome with
    | none =>
      rw [bind_none ran]
      exact ⟨reached,fun _ => stopped rfl,fun _ absent => by cases absent⟩
    | some value =>
      rw [bind_some ran]
      obtain ⟨ends,result⟩ := goesOn value t (returned value rfl)
      exact ⟨effect.trans reached ends,result⟩

theorem mono {program : Program σ α} (met : Meets effect failed before program after)
    (weaker : ∀ value s, after value s → wider value s) : Meets effect failed before program wider := by
  intro s held
  obtain ⟨rel,stopped,returned⟩ := met s held
  exact ⟨rel,stopped,fun value result => weaker value _ (returned value result)⟩

theorem strengthen {stronger : σ → Prop} {program : Program σ α} (met : Meets effect failed before program after)
    (more : ∀ s, stronger s → before s) : Meets effect failed stronger program after :=
  fun s held => met s (more s held)

theorem attempt {program : Program σ α} {outcome : Option α → σ → Prop} (met : Meets effect failed before program after)
    (none : ∀ s, failed s → outcome none s) (some : ∀ value s, after value s → outcome (some value) s) :
    Meets effect failed before program.attempt outcome := by
  intro s held
  obtain ⟨rel,stopped,returned⟩ := met s held
  refine ⟨rel,(fun absent => by cases absent),?_⟩
  intro result same
  cases same
  cases ran : (program s).1 with
  | none => exact none _ (stopped ran)
  | some value => exact some value _ (returned value ran)

/-- A loop: `invariant` counts the turns that are left. -/
theorem forEach {body : α → Program σ β} {invariant : Nat → σ → Prop} (items : List α)
    (each : ∀ item ∈ items, ∀ turns, Meets effect failed (invariant (turns+1)) (body item) fun _ => invariant turns) :
    Meets effect failed (invariant items.length) (Program.forEach body items) fun _ => invariant 0 := by
  induction items with
  | nil => exact pure fun _ held => held
  | cons item items ih =>
    have later := ih fun other member => each other (List.mem_cons_of_mem item member)
    exact (each item List.mem_cons_self items.length).bind fun _ => later.bind fun _ => pure fun _ held => held

end Meets

/-- From a state in `stuck` the program fails and leaves the state in `same`. -/
def Refuses (stuck : σ → Prop) (same : σ → σ → Prop) (program : Program σ α) : Prop :=
  ∀ s, stuck s → (program s).1 = none ∧ same s (program s).2

theorem Refuses.bind {stuck : σ → Prop} {same : σ → σ → Prop} {first : Program σ α} (refused : Refuses stuck same first)
    (rest : α → Program σ β) : Refuses stuck same (first >>= rest) := by
  intro s held
  obtain ⟨failed,left⟩ := refused s held
  have ran : first s = (none,(first s).2) := Prod.ext failed rfl
  rw [bind_none ran]
  exact ⟨rfl,left⟩

theorem Refuses.fail {stuck : σ → Prop} {same : σ → σ → Prop} (refl : ∀ s, same s s) :
    Refuses stuck same (Program.fail : Program σ α) := fun s _ => ⟨rfl,refl s⟩

theorem Refuses.observe {stuck : σ → Prop} {same : σ → σ → Prop} {view : σ → α} {known : α → Prop} {rest : α → Program σ β}
    (sure : ∀ s, stuck s → known (view s)) (refused : ∀ value, known value → Refuses stuck same (rest value)) :
    Refuses stuck same (Program.observe view >>= rest) :=
  fun s held => refused (view s) (sure s held) s held

theorem Refuses.attempt {stuck : σ → Prop} {same : σ → σ → Prop} {first : Program σ α} {rest : Option α → Program σ β}
    (stays : ∀ {s t}, same s t → stuck s → stuck t) (trans : ∀ {s t u}, same s t → same t u → same s u)
    (caught : Refuses stuck same first) (refused : Refuses stuck same (rest none)) :
    Refuses stuck same (first.attempt >>= rest) := by
  intro s held
  obtain ⟨failed,left⟩ := caught s held
  have ran : first.attempt s = (some none,(first s).2) := by rw [Program.attempt,failed]
  rw [bind_some ran]
  obtain ⟨again,after⟩ := refused _ (stays left held)
  exact ⟨again,trans left after⟩

/-- From states in `rel` both programs fail, or both return results in `values`, in states in `rel`. -/
def Alike {τ : Type} (rel : σ → τ → Prop) (program : Program σ α) (twin : Program τ β) (values : α → β → Prop) : Prop :=
  ∀ s t, rel s t → rel (program s).2 (twin t).2 ∧ Option.Rel values (program s).1 (twin t).1

namespace Alike

variable {τ γ δ : Type} {rel : σ → τ → Prop} {values wider : α → β → Prop} {last : γ → δ → Prop}

theorem pure {value : α} {twin : β} (same : values value twin) :
    Alike rel (Pure.pure value : Program σ α) (Pure.pure twin : Program τ β) values :=
  fun _ _ related => ⟨related,.some same⟩

theorem fail : Alike rel (Program.fail : Program σ α) (Program.fail : Program τ β) values :=
  fun _ _ related => ⟨related,.none⟩

theorem observe {view : σ → α} {twin : τ → β} (same : ∀ s t, rel s t → values (view s) (twin t)) :
    Alike rel (Program.observe view) (Program.observe twin) values :=
  fun s t related => ⟨related,.some (same s t related)⟩

theorem update {change : σ → σ} {twin : τ → τ} (kept : ∀ s t, rel s t → rel (change s) (twin t)) :
    Alike rel (Program.update change) (Program.update twin) fun _ _ => True :=
  fun s t related => ⟨kept s t related,.some trivial⟩

theorem bind {first : Program σ α} {second : Program τ β} {rest : α → Program σ γ} {others : β → Program τ δ}
    (begins : Alike rel first second values) (goesOn : ∀ value twin, values value twin → Alike rel (rest value) (others twin) last) :
    Alike rel (first >>= rest) (second >>= others) last := by
  intro s t related
  obtain ⟨reached,outcomes⟩ := begins s t related
  cases left : first s with
  | mk outcome s' =>
    cases right : second t with
    | mk other t' =>
      rw [left,right] at reached outcomes
      cases outcomes with
      | none =>
        rw [bind_none left,bind_none right]
        exact ⟨reached,.none⟩
      | some same =>
        rw [bind_some left,bind_some right]
        exact goesOn _ _ same s' t' reached

theorem mono {program : Program σ α} {twin : Program τ β} (alike : Alike rel program twin values)
    (weaker : ∀ value other, values value other → wider value other) : Alike rel program twin wider := by
  intro s t related
  obtain ⟨reached,outcomes⟩ := alike s t related
  refine ⟨reached,?_⟩
  generalize (program s).1 = outcome,(twin t).1 = other at outcomes
  cases outcomes with
  | none => exact .none
  | some same => exact .some (weaker _ _ same)

theorem attempt {program : Program σ α} {twin : Program τ β} (alike : Alike rel program twin values) :
    Alike rel program.attempt twin.attempt (Option.Rel values) :=
  fun s t related => ⟨(alike s t related).1,.some (alike s t related).2⟩

theorem forEach {body : α → Program σ γ} {twin : α → Program τ γ} (each : ∀ item, Alike rel (body item) (twin item) Eq)
    (items : List α) : Alike rel (Program.forEach body items) (Program.forEach twin items) Eq := by
  induction items with
  | nil => exact pure rfl
  | cons item items ih =>
    apply (each item).bind
    rintro value _ rfl
    apply ih.bind
    rintro values _ rfl
    exact pure rfl

end Alike

end Program

end CommunicationIpc.Library
