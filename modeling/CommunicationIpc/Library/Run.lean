import Mathlib.Data.List.Induction

/-! Runs of a labelled transition relation, with the induction rules that turn
what one step keeps into what a whole run keeps. -/
namespace CommunicationIpc.Library

variable {σ α : Type*}

/-- `Reaches step s events t`: the events, oldest first, lead from `s` to `t`. -/
inductive Reaches (step : σ → α → σ → Prop) (s : σ) : List α → σ → Prop
  | nil : Reaches step s [] s
  | snoc {events : List α} {t u : σ} (event : α) :
      Reaches step s events t → step t event u → Reaches step s (events ++ [event]) u

/-- The steps of a relation that are taken in a state meeting `guard`. -/
def guarded (step : σ → α → σ → Prop) (guard : σ → α → Prop) (s : σ) (event : α) (t : σ) : Prop :=
  guard s event ∧ step s event t

def does (step : σ → α → σ) (s : σ) (event : α) (t : σ) : Prop :=
  step s event = t

def fires (step : σ → α → Option σ) (s : σ) (event : α) (t : σ) : Prop :=
  step s event = some t

namespace Reaches

theorem single {step : σ → α → σ → Prop} {s t : σ} {event : α} (taken : step s event t) : Reaches step s [event] t :=
  .snoc event .nil taken

theorem append {step : σ → α → σ → Prop} {s t u : σ} {events more : List α} (run : Reaches step s events t)
    (rest : Reaches step t more u) : Reaches step s (events ++ more) u := by
  induction rest with
  | nil =>
    rw [List.append_nil]
    exact run
  | snoc event _ taken ih =>
    rw [← List.append_assoc]
    exact .snoc event ih taken

theorem trace_invariant {step : σ → α → σ → Prop} {s : σ} (inv : List α → σ → Prop)
    (initial : inv [] s)
    (keep : ∀ events t event u, inv events t → step t event u → inv (events ++ [event]) u)
    {events : List α} {t : σ} (run : Reaches step s events t) : inv events t := by
  induction run with
  | nil => exact initial
  | snoc event _ taken ih => exact keep _ _ event _ ih taken

theorem invariant {step : σ → α → σ → Prop} {s : σ} (inv : σ → Prop) (initial : inv s)
    (keep : ∀ t event u, inv t → step t event u → inv u)
    {events : List α} {t : σ} (run : Reaches step s events t) : inv t :=
  run.trace_invariant (fun _ => inv) initial (fun _ => keep)

theorem mono {step wider : σ → α → σ → Prop} (more : ∀ s event t, step s event t → wider s event t)
    {s : σ} {events : List α} {t : σ} (run : Reaches step s events t) : Reaches wider s events t := by
  induction run with
  | nil => exact .nil
  | snoc event _ taken ih => exact .snoc event ih (more _ event _ taken)

theorem of_foldl (step : σ → α → σ) (events : List α) (s : σ) : Reaches (does step) s events (events.foldl step s) := by
  induction events using List.reverseRecOn with
  | nil => exact .nil
  | append_singleton events event ih =>
    rw [List.foldl_append]
    exact .snoc event ih rfl

theorem foldl_eq {step : σ → α → σ} {guard : σ → α → Prop} {s t : σ} {events : List α}
    (run : Reaches (guarded (does step) guard) s events t) : t = events.foldl step s := by
  induction run with
  | nil => rfl
  | snoc event _ taken ih =>
    rw [List.foldl_append,← ih]
    exact taken.2.symm

/-- Where what a step shows is right, and a property kept, exactly when its guard is met, both are so all through a run exactly when
every step meets the guard. To see this of a step, one may use what all steps keep, and what those keep that meet their guard. -/
theorem guarded_iff_shown_kept_within {step : σ → α → σ} {guard shows_ : σ → α → Prop} {sound within good : σ → Prop} {s : σ}
    (start : sound s) (inside : within s) (initial : good s) (keeps : ∀ s event, sound s → sound (step s event))
    (stays : ∀ s event, sound s → within s → guard s event → within (step s event))
    (exactly : ∀ s event, sound s → within s → good s → (shows_ s event ∧ good (step s event) ↔ guard s event)) (events : List α) :
    (∀ front event, front ++ [event] <+: events → shows_ (front.foldl step s) event ∧ good (step (front.foldl step s) event)) ↔
      Reaches (guarded (does step) guard) s events (events.foldl step s) := by
  have kept {events : List α} (run : Reaches (guarded (does step) guard) s events (events.foldl step s)) :
      sound (events.foldl step s) ∧ within (events.foldl step s) ∧ good (events.foldl step s) := by
    refine run.invariant (fun t => sound t ∧ within t ∧ good t) ⟨start,inside,initial⟩ ?_
    rintro before event _ ⟨held,within_,well⟩ ⟨met,rfl⟩
    exact ⟨keeps before event held,stays before event held within_ met,((exactly before event held within_ well).mpr met).2⟩
  induction events using List.reverseRecOn with
  | nil =>
    refine ⟨fun _ => .nil,?_⟩
    rintro - front event before
    exact absurd (List.prefix_nil.mp before) (by simp)
  | append_singleton events event ih =>
    constructor
    · intro all
      have earlier := ih.mp fun front other before => all front other (before.trans (List.prefix_append _ _))
      have last := all events event (List.prefix_refl _)
      obtain ⟨held,within_,well⟩ := kept earlier
      rw [List.foldl_append]
      exact .snoc event earlier ⟨(exactly _ event held within_ well).mp last,rfl⟩
    · intro run front other before
      generalize whole : (events ++ [event]).foldl step s = t at run
      generalize same : events ++ [event] = all at run
      cases run with
      | nil => simp at same
      | @snoc others middle _ last first taken =>
        obtain ⟨rfl,single⟩ := List.append_inj' same rfl
        cases single
        have middle_eq : middle = events.foldl step s := first.foldl_eq
        subst middle_eq
        rcases List.prefix_concat_iff.mp before with here | before
        · obtain ⟨rfl,single⟩ := List.append_inj' here rfl
          cases single
          obtain ⟨held,within_,well⟩ := kept first
          exact (exactly _ event held within_ well).mpr taken.1
        · exact ih.mpr first front other before

theorem guarded_iff_shown_kept {step : σ → α → σ} {guard shows_ : σ → α → Prop} {sound good : σ → Prop} {s : σ} (start : sound s)
    (initial : good s) (keeps : ∀ s event, sound s → sound (step s event))
    (exactly : ∀ s event, sound s → good s → (shows_ s event ∧ good (step s event) ↔ guard s event)) (events : List α) :
    (∀ front event, front ++ [event] <+: events → shows_ (front.foldl step s) event ∧ good (step (front.foldl step s) event)) ↔
      Reaches (guarded (does step) guard) s events (events.foldl step s) :=
  @guarded_iff_shown_kept_within _ _ step guard shows_ sound (fun _ => True) good s start trivial initial keeps (fun _ _ _ _ _ => trivial)
    (fun s event held _ => exactly s event held) events

/-- Where a step keeps a property exactly when its guard is met, a run keeps it throughout exactly when every step meets the guard. -/
theorem guarded_iff {step : σ → α → σ} {guard : σ → α → Prop} {sound good : σ → Prop} {s : σ} (start : sound s) (initial : good s)
    (keeps : ∀ s event, sound s → sound (step s event))
    (exactly : ∀ s event, sound s → good s → (good (step s event) ↔ guard s event)) (events : List α) :
    (∀ front, front <+: events → good (front.foldl step s)) ↔ Reaches (guarded (does step) guard) s events (events.foldl step s) := by
  have both : (∀ front event, front ++ [event] <+: events → True ∧ good (step (front.foldl step s) event)) ↔
      Reaches (guarded (does step) guard) s events (events.foldl step s) :=
    @guarded_iff_shown_kept _ _ step guard (fun _ _ => True) sound good s start initial keeps
      (fun s event held well => (iff_of_eq (true_and _)).trans (exactly s event held well)) events
  rw [← both]
  constructor
  · intro all front event before
    have last := all _ before
    rw [List.foldl_append] at last
    exact ⟨trivial,last⟩
  · intro all front before
    rcases List.eq_nil_or_concat front with rfl | ⟨front,event,rfl⟩
    · exact initial
    · rw [List.concat_eq_append] at before ⊢
      rw [List.foldl_append]
      exact (all front event before).2

/-- Where what a step shows is right exactly when its guard is met, it is right all through a run exactly when every step meets the
guard. -/
theorem guarded_iff_shown {step : σ → α → σ} {guard shows_ : σ → α → Prop} {sound : σ → Prop} {s : σ} (start : sound s)
    (keeps : ∀ s event, sound s → sound (step s event)) (exactly : ∀ s event, sound s → (shows_ s event ↔ guard s event))
    (events : List α) :
    (∀ front event, front ++ [event] <+: events → shows_ (front.foldl step s) event) ↔
      Reaches (guarded (does step) guard) s events (events.foldl step s) := by
  have both : (∀ front event, front ++ [event] <+: events → shows_ (front.foldl step s) event ∧ True) ↔
      Reaches (guarded (does step) guard) s events (events.foldl step s) :=
    @guarded_iff_shown_kept _ _ step guard shows_ sound (fun _ => True) s start trivial keeps
      (fun s event held _ => (iff_of_eq (and_true _)).trans (exactly s event held)) events
  rw [← both]
  exact ⟨fun all front event before => ⟨all front event before,trivial⟩,fun all front event before => (all front event before).1⟩

/-- Where each step that misses its guard adds one to a deficit, and no other step changes it, a run ends without one exactly if
all its steps meet the guard. -/
theorem guarded_iff_of_deficit {step : σ → α → σ → Prop} {guard : σ → α → Prop} [∀ s event, Decidable (guard s event)]
    (sound : σ → Prop) (deficit : σ → Int) {s : σ} (start : sound s) (none_ : deficit s = 0)
    (adds : ∀ before event after, sound before → step before event after →
      sound after ∧ deficit after = deficit before+if guard before event then 0 else 1)
    {events : List α} {t : σ} (run : Reaches step s events t) : deficit t = 0 ↔ Reaches (guarded step guard) s events t := by
  constructor
  · intro ended
    have kept : sound t ∧ 0 ≤ deficit t ∧ (deficit t = 0 → Reaches (guarded step guard) s events t) := by
      refine run.trace_invariant
        (fun events t => sound t ∧ 0 ≤ deficit t ∧ (deficit t = 0 → Reaches (guarded step guard) s events t))
        ⟨start,Int.le_of_eq none_.symm,fun _ => .nil⟩ ?_
      rintro events before event after ⟨held,positive,all⟩ taken
      obtain ⟨kept,added⟩ := adds before event after held taken
      refine ⟨kept,?_⟩
      by_cases met : guard before event
      · rw [if_pos met] at added
        refine ⟨by omega,?_⟩
        intro ended
        exact .snoc event (all (by omega)) ⟨met,taken⟩
      · rw [if_neg met] at added
        refine ⟨by omega,?_⟩
        omega
    exact kept.2.2 ended
  · intro met
    refine (met.invariant (fun t => sound t ∧ deficit t = 0) ⟨start,none_⟩ ?_).2
    rintro before event after ⟨held,zero⟩ taken
    obtain ⟨kept,added⟩ := adds before event after held taken.2
    rw [if_pos taken.1] at added
    exact ⟨kept,by omega⟩

/-- Where a step that misses its guard spoils a state, no other does, and a spoiled state stays spoiled, a run ends unspoiled exactly
if all its steps meet the guard. -/
theorem guarded_iff_of_spoiled {step : σ → α → σ → Prop} {guard : σ → α → Prop} (sound spoiled : σ → Prop) {s : σ} (start : sound s)
    (fresh : ¬spoiled s) (keeps : ∀ before event after, sound before → step before event after → sound after)
    (stays : ∀ before event after, sound before → step before event after → spoiled before → spoiled after)
    (spoils : ∀ before event after, sound before → step before event after → ¬spoiled before → (spoiled after ↔ ¬guard before event))
    {events : List α} {t : σ} (run : Reaches step s events t) : ¬spoiled t ↔ Reaches (guarded step guard) s events t := by
  have reached {events : List α} {t : σ} (run : Reaches step s events t) : sound t := run.invariant sound start keeps
  constructor
  · intro clean
    induction run with
    | nil => exact .nil
    | @snoc _ before after event earlier taken ih =>
      have still : ¬spoiled before := fun early => clean (stays before event after (reached earlier) taken early)
      have met : guard before event := by
        by_contra missed
        exact clean ((spoils before event after (reached earlier) taken still).mpr missed)
      exact .snoc event (ih still) ⟨met,taken⟩
  · intro met
    induction met with
    | nil => exact fresh
    | @snoc _ before after event earlier taken ih =>
      have plain : Reaches step s _ before := earlier.mono fun _ _ _ taken => taken.2
      have still := ih plain
      intro spoiled_
      exact (spoils before event after (reached plain) taken.2 still).mp spoiled_ taken.1

theorem of_foldlM {step : σ → α → Option σ} {s t : σ} (events : List α)
    (computed : events.foldlM step s = some t) : Reaches (fires step) s events t := by
  induction events using List.reverseRecOn generalizing t with
  | nil =>
    cases computed
    exact .nil
  | append_singleton events event ih =>
    rw [List.foldlM_append] at computed
    obtain ⟨middle,first,last⟩ := Option.bind_eq_some_iff.mp computed
    simp only [List.foldlM_cons,List.foldlM_nil,bind_pure] at last
    exact .snoc event (ih first) last

theorem of_foldlM_guarded {step : σ → α → Option σ} {guard : σ → α → Prop} [∀ s event, Decidable (guard s event)]
    {s t : σ} (events : List α)
    (computed : events.foldlM (fun s event => if guard s event then step s event else none) s = some t) :
    Reaches (guarded (fires step) guard) s events t := by
  refine (of_foldlM events computed).mono ?_
  intro before event after taken
  simp only [fires] at taken
  split at taken
  · exact ⟨‹_›,taken⟩
  · cases taken

/-- A run that can be computed, with a test of where it ends. -/
theorem exists_of_foldlM (step : σ → α → Option σ) (s : σ) (events : List α) (test : σ → Bool)
    (computed : (events.foldlM step s).any test = true) : ∃ t, Reaches (fires step) s events t ∧ test t = true := by
  cases reached : events.foldlM step s with
  | none =>
    rw [reached] at computed
    cases computed
  | some t =>
    rw [reached] at computed
    exact ⟨t,of_foldlM events reached,computed⟩

theorem exists_of_foldlM_guarded (step : σ → α → Option σ) (guard : σ → α → Prop) [∀ s event, Decidable (guard s event)]
    (s : σ) (events : List α) (test : σ → Bool)
    (computed : (events.foldlM (fun s event => if guard s event then step s event else none) s).any test = true) :
    ∃ t, Reaches (guarded (fires step) guard) s events t ∧ test t = true := by
  cases reached : events.foldlM (fun s event => if guard s event then step s event else none) s with
  | none =>
    rw [reached] at computed
    cases computed
  | some t =>
    rw [reached] at computed
    exact ⟨t,of_foldlM_guarded events reached,computed⟩

end Reaches

end CommunicationIpc.Library
