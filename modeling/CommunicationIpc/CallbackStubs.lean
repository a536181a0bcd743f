import CommunicationIpc.Kernel.CallbackStubs
import CommunicationIpc.Library.Entries
import CommunicationIpc.Library.Run

/-! The fake stubs of dbinder proxies: the table holds those that are attached and not yet destroyed, and a call fails exactly if it
attaches a stub while there is one for its proxy. -/
namespace CommunicationIpc.CallbackStubs
open CommunicationIpc.Library CommunicationIpc.Kernel.CallbackStubs

/-- The stub that the call has made is in the table. -/
def standing (call : Call) : Bool := call.fake.any fun fake => fake.attached && !fake.destroyed

/-- The stub of the call is in the table, for the proxy of the call. -/
def Stands (system : System) (stub : Nat) : Prop := ∃ maker, system.calls[stub]? = some maker ∧ standing maker = true

structure Sound (system : System) : Prop where
  keys : (system.dbinderSentCallback.map Prod.fst).Nodup
  entries : ∀ proxy stub, (proxy,stub) ∈ system.dbinderSentCallback ↔
    ∃ maker, system.calls[stub]? = some maker ∧ maker.proxy = proxy ∧ standing maker = true
  fresh : ∀ index : Nat, ∀ call, system.calls[index]? = some call → call.state = .begun ∨ call.state = .missed → call.fake = none
  made : ∀ index : Nat, ∀ call, system.calls[index]? = some call → call.state = .made → call.fake = some ⟨0,false,false⟩
  used : ∀ index : Nat, ∀ call, system.calls[index]? = some call → ∀ stub, call.state.uses stub = true → Stands system stub
  held : ∀ index : Nat, ∀ call, system.calls[index]? = some call → ∀ fake, call.fake = some fake → 0 < fake.holders → standing call = true

theorem sound_new : Sound System.new := by
  refine ⟨List.nodup_nil,?_,?_,?_,?_,?_⟩
  · intro proxy stub
    simp [System.new]
  · intro index call at_
    cases at_
  · intro index call at_
    cases at_
  · intro index call at_
    cases at_
  · intro index call at_
    cases at_

section Step
variable {system next : System} {index stub : Nat} {call maker : Call} {state : State}

theorem Sound.referenced_cases (sound : Sound system) (referenced : system.referenced stub = true) :
    ∃ maker, system.calls[stub]? = some maker ∧ (maker.state = .made ∨ standing maker = true) := by
  rw [System.referenced,Bool.or_eq_true,List.any_eq_true,Option.any_eq_true] at referenced
  rcases referenced with ⟨call,member,uses⟩ | ⟨maker,at_,reference⟩
  · obtain ⟨index,at_⟩ := List.mem_iff_getElem?.mp member
    obtain ⟨maker,at_,stands⟩ := sound.used index call at_ stub uses
    exact ⟨maker,at_,.inr stands⟩
  · rw [Bool.or_eq_true,decide_eq_true_iff,Option.any_eq_true] at reference
    rcases reference with made | ⟨fake,has,positive⟩
    · exact ⟨maker,at_,.inl made⟩
    · exact ⟨maker,at_,.inr (sound.held stub maker at_ fake has (of_decide_eq_true positive))⟩

/-- A change of one call. The table afterwards holds its stub if that stands then, and the others as before. -/
theorem Sound.change (sound : Sound system) (at_ : system.calls[index]? = some call) {change : Call → Call} {table : List (Nat × Nat)}
    (keys : (table.map Prod.fst).Nodup) (proxy : (change call).proxy = call.proxy)
    (entries : ∀ key stub, (key,stub) ∈ table ↔
      if stub = index then key = call.proxy ∧ standing (change call) = true else (key,stub) ∈ system.dbinderSentCallback)
    (fresh : (change call).state = .begun ∨ (change call).state = .missed → (change call).fake = none)
    (made : (change call).state = .made → (change call).fake = some ⟨0,false,false⟩)
    (used : ∀ stub, (change call).state.uses stub = true → if stub = index then standing (change call) = true else Stands system stub)
    (others : standing (change call) = true ∨
      ∀ other : Nat, ∀ call, system.calls[other]? = some call → call.state.uses index = false)
    (held : ∀ fake, (change call).fake = some fake → 0 < fake.holders → standing (change call) = true) :
    Sound {system with dbinderSentCallback := table,calls := system.calls.modify index change} := by
  have own : (system.calls.modify index change)[index]? = some (change call) := by
    rw [Entries.at_modify_of change at_,if_pos rfl]
  have beside : ∀ {other : Nat}, other ≠ index → (system.calls.modify index change)[other]? = system.calls[other]? := by
    intro other apart
    exact List.getElem?_modify_ne _ _ apart.symm
  -- a stub that stands afterwards
  have stands : ∀ stub, (if stub = index then standing (change call) = true else Stands system stub) →
      Stands {system with dbinderSentCallback := table,calls := system.calls.modify index change} stub := by
    intro stub after
    by_cases same : stub = index
    · subst same
      rw [if_pos rfl] at after
      exact ⟨_,own,after⟩
    · rw [if_neg same] at after
      obtain ⟨maker,was,standing_⟩ := after
      exact ⟨maker,(beside same).trans was,standing_⟩
  refine ⟨keys,?_,?_,?_,?_,?_⟩
  · intro key stub
    rw [entries]
    by_cases same : stub = index
    · subst same
      rw [if_pos rfl]
      constructor
      · rintro ⟨rfl,standing_⟩
        exact ⟨_,own,proxy,standing_⟩
      · rintro ⟨maker,there,rfl,standing_⟩
        rw [own,Option.some.injEq] at there
        subst there
        exact ⟨proxy,standing_⟩
    · rw [if_neg same,sound.entries,beside same]
  · intro other after there
    by_cases same : other = index
    · subst same
      rw [own,Option.some.injEq] at there
      subst there
      exact fresh
    · rw [beside same] at there
      exact sound.fresh other after there
  · intro other after there
    by_cases same : other = index
    · subst same
      rw [own,Option.some.injEq] at there
      subst there
      exact made
    · rw [beside same] at there
      exact sound.made other after there
  · intro other after there stub uses
    by_cases same : other = index
    · subst same
      rw [own,Option.some.injEq] at there
      subst there
      exact stands stub (used stub uses)
    · rw [beside same] at there
      refine stands stub ?_
      have before := sound.used other after there stub uses
      split
      · rename_i own_
        subst own_
        refine others.resolve_right fun none_ => ?_
        rw [none_ other after there] at uses
        cases uses
      · exact before
  · intro other after there
    by_cases same : other = index
    · subst same
      rw [own,Option.some.injEq] at there
      subst there
      exact held
    · rw [beside same] at there
      exact sound.held other after there

/-- A change that leaves the call its proxy, and its stub in the table or out of it. -/
theorem Sound.keep (sound : Sound system) (at_ : system.calls[index]? = some call) {change : Call → Call}
    (proxy : (change call).proxy = call.proxy) (stands : standing (change call) = standing call)
    (fresh : (change call).state = .begun ∨ (change call).state = .missed → (change call).fake = none)
    (made : (change call).state = .made → (change call).fake = some ⟨0,false,false⟩)
    (used : ∀ stub, (change call).state.uses stub = true → Stands system stub)
    (held : ∀ fake, (change call).fake = some fake → 0 < fake.holders → standing call = true) :
    Sound {system with calls := system.calls.modify index change} := by
  have own : ∀ key stub, stub = index → ((key,stub) ∈ system.dbinderSentCallback ↔ key = call.proxy ∧ standing call = true) := by
    rintro key stub rfl
    rw [sound.entries]
    constructor
    · rintro ⟨maker,there,rfl,standing_⟩
      rw [at_,Option.some.injEq] at there
      subst there
      exact ⟨rfl,standing_⟩
    · rintro ⟨rfl,standing_⟩
      exact ⟨call,at_,rfl,standing_⟩
  have of_stands : Stands system index → standing call = true := by
    rintro ⟨maker,there,standing_⟩
    rw [at_,Option.some.injEq] at there
    exact there ▸ standing_
  refine sound.change at_ sound.keys proxy ?_ fresh made ?_ ?_ ?_
  · intro key stub
    split
    · rename_i same
      rw [stands]
      exact own key stub same
    · rfl
  · intro stub uses
    have before := used stub uses
    split
    · rename_i same
      rw [stands]
      exact of_stands (same ▸ before)
    · exact before
  · rw [stands]
    by_cases standing_ : standing call = true
    · exact .inl standing_
    · refine .inr ?_
      intro other after there
      by_contra uses
      exact standing_ (of_stands (sound.used other after there index (Bool.not_eq_false _ ▸ uses)))
  · rw [stands]
    exact held

theorem Sound.stands_of_mem (sound : Sound system) {proxy : Nat} (member : (proxy,stub) ∈ system.dbinderSentCallback) :
    Stands system stub := by
  obtain ⟨maker,there,-,standing_⟩ := (sound.entries proxy stub).mp member
  exact ⟨maker,there,standing_⟩

theorem Sound.setState (sound : Sound system) (at_ : system.calls[index]? = some call)
    (fresh : state = .begun ∨ state = .missed → call.fake = none) (made : state ≠ .made)
    (used : ∀ stub, state.uses stub = true → Stands system stub) : Sound (system.setState index state) :=
  sound.keep at_ rfl rfl fresh (fun same => absurd same made) used (sound.held index call at_)

theorem Sound.changeHolders (sound : Sound system) (stands : Stands system stub) (change : Nat → Nat) :
    Sound (system.changeFake stub fun fake => {fake with holders := change fake.holders}) := by
  obtain ⟨maker,at_,standing_⟩ := stands
  have same : standing {maker with fake := maker.fake.map fun fake => {fake with holders := change fake.holders}} = standing maker := by
    simp only [standing,Option.any_map]
  refine sound.keep at_ rfl same ?_ ?_ (sound.used stub maker at_) fun _ _ _ => standing_
  · intro starts
    have none_ := sound.fresh stub maker at_ starts
    simp only [none_,Option.map_none]
  · intro makes
    have known := sound.made stub maker at_ makes
    rw [standing,known] at standing_
    cases standing_

theorem Sound.begin (sound : Sound system) (proxy : Nat) :
    Sound {system with calls := system.calls ++ [⟨proxy,.begun,none⟩]} := by
  have old : ∀ {other : Nat} {after : Call}, (system.calls ++ [⟨proxy,.begun,none⟩])[other]? = some after →
      system.calls[other]? = some after ∨ after = ⟨proxy,.begun,none⟩ := Entries.at_concat
  have keeps : ∀ {other : Nat} {before : Call}, system.calls[other]? = some before →
      (system.calls ++ [⟨proxy,.begun,none⟩])[other]? = some before := by
    intro other before was
    rw [List.getElem?_append_left (List.getElem?_eq_some_iff.mp was).1]
    exact was
  refine ⟨sound.keys,?_,?_,?_,?_,?_⟩
  · intro key stub
    rw [sound.entries]
    constructor
    · rintro ⟨maker,was,rfl,standing_⟩
      exact ⟨maker,keeps was,rfl,standing_⟩
    · rintro ⟨maker,there,rfl,standing_⟩
      rcases old there with was | rfl
      · exact ⟨maker,was,rfl,standing_⟩
      · cases standing_
  · intro other after there starts
    rcases old there with was | rfl
    · exact sound.fresh other after was starts
    · rfl
  · intro other after there makes
    rcases old there with was | rfl
    · exact sound.made other after was makes
    · cases makes
  · intro other after there stub uses
    rcases old there with was | rfl
    · obtain ⟨maker,at_,standing_⟩ := sound.used other after was stub uses
      exact ⟨maker,keeps at_,standing_⟩
    · cases uses
  · intro other after there fake has
    rcases old there with was | rfl
    · exact sound.held other after was fake has
    · cases has

theorem Sound.any_entry (sound : Sound system) (proxy : Nat) :
    (system.dbinderSentCallback.any fun entry => entry.1 = proxy) = system.calls.any fun other => decide (other.proxy = proxy) && standing other := by
  rw [Bool.eq_iff_iff,List.any_eq_true,List.any_eq_true]
  constructor
  · rintro ⟨⟨key,stub⟩,member,same⟩
    cases of_decide_eq_true same
    obtain ⟨maker,there,rfl,standing_⟩ := (sound.entries _ _).mp member
    exact ⟨maker,List.mem_of_getElem? there,by simp [standing_]⟩
  · rintro ⟨maker,member,both⟩
    obtain ⟨same,standing_⟩ := Bool.and_eq_true_iff.mp both
    obtain ⟨stub,there⟩ := List.mem_iff_getElem?.mp member
    exact ⟨(proxy,stub),(sound.entries _ _).mpr ⟨maker,there,of_decide_eq_true same,standing_⟩,by simp⟩

theorem Sound.attach (sound : Sound system) {proxy : Nat} {fake : Option Fake} (at_ : system.calls[index]? = some ⟨proxy,.made,fake⟩)
    (free : (system.dbinderSentCallback.any fun entry => entry.1 = proxy) = false) :
    Sound {system with
      dbinderSentCallback := system.dbinderSentCallback ++ [(proxy,index)]
      calls := system.calls.modify index fun call =>
        {call with state := .found index,fake := call.fake.map fun fake => {fake with attached := true}}} := by
  have known : fake = some ⟨0,false,false⟩ := sound.made index _ at_ rfl
  subst known
  have absent : ∀ key, (key,index) ∉ system.dbinderSentCallback := by
    intro key member
    obtain ⟨maker,there,-,standing_⟩ := (sound.entries key index).mp member
    rw [at_,Option.some.injEq] at there
    subst there
    cases standing_
  refine sound.change at_ ?_ rfl ?_ ?_ ?_ ?_ (.inl rfl) ?_
  · rw [List.map_append,List.map_singleton]
    refine List.nodup_append.mpr ⟨sound.keys,List.nodup_singleton _,?_⟩
    rintro key member _ single rfl
    obtain ⟨entry,there,rfl⟩ := List.mem_map.mp member
    have taken := List.any_eq_false.mp free entry there
    rw [List.mem_singleton.mp single] at taken
    exact taken (decide_eq_true rfl)
  · intro key stub
    rw [List.mem_append,List.mem_singleton,Prod.mk.injEq]
    split
    · rename_i same
      subst same
      simp [absent key,standing]
    · rename_i apart
      simp [apart]
  · rintro (starts | starts) <;> cases starts
  · intro makes
    cases makes
  · intro stub uses
    rw [if_pos (of_decide_eq_true uses).symm]
    rfl
  · intro fake _ _
    rfl

/-- The entry of a stub is gone once its destructor has been through the table. -/
theorem Sound.mem_eraseP (sound : Sound system) {key other : Nat} :
    (key,other) ∈ (system.dbinderSentCallback.eraseP fun entry => entry.2 = stub) ↔
      other ≠ stub ∧ (key,other) ∈ system.dbinderSentCallback := by
  by_cases same : other = stub
  · subst same
    refine iff_of_false ?_ fun both => both.1 rfl
    intro member
    have inside := List.mem_of_mem_eraseP member
    cases found : system.dbinderSentCallback.find? fun entry => entry.2 = other with
    | none => exact List.find?_eq_none.mp found _ inside (decide_eq_true rfl)
    | some entry =>
      have value : entry.2 = other := by simpa using List.find?_some found
      obtain ⟨first,second⟩ := entry
      cases value
      obtain ⟨maker,there,same,-⟩ := (sound.entries _ _).mp inside
      obtain ⟨maker',there',same',-⟩ := (sound.entries _ _).mp (List.mem_of_find?_eq_some found)
      rw [there,Option.some.injEq] at there'
      subst there'
      have twice := (Entries.perm_eraseP found).nodup_iff.mp (List.Nodup.of_map _ sound.keys)
      rw [← same',same] at twice
      exact (List.nodup_cons.mp twice).1 member
  · rw [List.mem_eraseP_of_neg (by simpa using same)]
    exact (and_iff_right same).symm

theorem Sound.destroy (sound : Sound system) {fake : Fake} (at_ : system.calls[stub]? = some call) (has : call.fake = some fake)
    (unreferenced : system.referenced stub = false) :
    Sound ((system.detachDBinderCallbackStub stub).changeFake stub fun fake => {fake with destroyed := true}) := by
  rw [System.referenced,Bool.or_eq_false_iff,at_,Option.any_some,Bool.or_eq_false_iff,has,Option.any_some] at unreferenced
  obtain ⟨unused,unmade,unheld⟩ := unreferenced
  have fallen : standing {call with fake := call.fake.map fun fake => {fake with destroyed := true}} = false := by
    rw [has,standing,Option.map_some,Option.any_some,Bool.not_true,Bool.and_false]
  refine sound.change at_ ?_ rfl ?_ ?_ ?_ ?_ ?_ ?_
  · exact (List.eraseP_sublist.map Prod.fst).nodup sound.keys
  · intro key other
    rw [System.detachDBinderCallbackStub,sound.mem_eraseP,fallen]
    split
    · simp_all
    · simp_all
  · intro starts
    rw [sound.fresh stub call at_ starts] at has
    cases has
  · intro makes
    exact absurd makes (of_decide_eq_false unmade)
  · intro other uses
    have free := List.any_eq_false.mp unused call (List.mem_of_getElem? at_)
    have before := sound.used stub call at_ other uses
    split
    · rename_i same
      exact absurd (same ▸ uses) free
    · exact before
  · refine .inr ?_
    intro other after there
    exact Bool.eq_false_iff.mpr (List.any_eq_false.mp unused after (List.mem_of_getElem? there))
  · intro changed made positive
    rw [has,Option.map_some,Option.some.injEq] at made
    subst made
    exact absurd positive (of_decide_eq_false unheld)

/-- The stubs attached for the proxy of the call are destroyed. -/
def met (system : System) : Event → Bool
  | .attachDBinderCallbackStub index =>
    match system.calls[index]? with
    | some call => !(system.calls.any fun other => decide (other.proxy = call.proxy) && standing other)
    | none => true
  | _ => true

def failures (system : System) : Int := system.failed.length

theorem query_stands (sound : Sound system) {proxy : Nat} (found : system.queryDBinderCallbackStub proxy = some stub) :
    Stands system stub := by
  simp only [System.queryDBinderCallbackStub] at found
  split at found
  · rename_i entry there
    split at found
    · cases found
      exact sound.stands_of_mem (List.mem_of_find?_eq_some there)
    · cases found
  · cases found

theorem step_sound {event : Event} (sound : Sound system) (taken : fires System.step system event next) : Sound next := by
  cases event with
  | begin proxy =>
    cases taken
    exact sound.begin proxy
  | queryDBinderCallbackStub index =>
    simp only [fires,System.step] at taken
    split at taken
    · rename_i proxy fake at_
      have unmade : fake = none := sound.fresh index _ at_ (.inl rfl)
      split at taken
      · rename_i stub found
        cases taken
        refine sound.setState at_ (fun _ => unmade) (by simp) ?_
        intro other uses
        cases of_decide_eq_true uses
        exact query_stands sound found
      · cases taken
        refine sound.setState at_ (fun _ => unmade) (by simp) ?_
        intro other uses
        cases uses
    · cases taken
  | newStub index =>
    simp only [fires,System.step] at taken
    split at taken
    · rename_i proxy fake at_
      have unmade : fake = none := sound.fresh index _ at_ (.inr rfl)
      subst unmade
      cases taken
      refine sound.keep at_ rfl rfl (by simp) (fun _ => rfl) (by simp [State.uses]) ?_
      intro fake has positive
      cases has
      cases positive
    · cases taken
  | attachDBinderCallbackStub index =>
    simp only [fires,System.step,System.attachDBinderCallbackStub] at taken
    split at taken
    · rename_i proxy fake at_
      cases present : system.dbinderSentCallback.any fun entry => entry.1 = proxy with
      | true =>
        simp only [present,if_true,Bool.false_eq_true,if_false,Option.some.injEq] at taken
        subst taken
        have kept : Sound (system.setState index (.returned false)) := sound.setState at_ (by simp) (by simp) (by simp [State.uses])
        exact ⟨kept.keys,kept.entries,kept.fresh,kept.made,kept.used,kept.held⟩
      | false =>
        simp only [present,if_true,Bool.false_eq_true,if_false,Option.some.injEq] at taken
        subst taken
        exact sound.attach at_ present
    · cases taken
  | writeRemoteObject index =>
    simp only [fires,System.step] at taken
    split at taken
    · rename_i proxy stub fake at_
      cases taken
      have changed := sound.changeHolders (sound.used index _ at_ stub (decide_eq_true rfl)) (·+1)
      obtain ⟨call,there,same⟩ : ∃ call : Call,
          (system.changeFake stub fun fake => {fake with holders := fake.holders+1}).calls[index]? = some call ∧ call.state = .found stub := by
        refine ⟨_,Entries.at_modify_of _ at_,?_⟩
        split <;> rfl
      refine changed.setState there (by simp) (by simp) ?_
      intro other uses
      cases of_decide_eq_true uses
      exact changed.used index call there stub (by rw [same]; exact decide_eq_true rfl)
    · cases taken
  | finish index =>
    simp only [fires,System.step] at taken
    split at taken
    · rename_i at_
      cases taken
      exact sound.setState at_ (by simp) (by simp) (by simp [State.uses])
    · cases taken
  | acquire stub =>
    simp only [fires,System.step] at taken
    split at taken
    · rename_i fake at_
      split at taken
      · cases taken
        exact sound.changeHolders ⟨_,at_,sound.held stub _ at_ fake rfl ‹_›⟩ (·+1)
      · cases taken
    · cases taken
  | release stub =>
    simp only [fires,System.step] at taken
    split at taken
    · rename_i fake at_
      split at taken
      · cases taken
        exact sound.changeHolders ⟨_,at_,sound.held stub _ at_ fake rfl ‹_›⟩ (·-1)
      · cases taken
    · cases taken
  | destroy stub =>
    simp only [fires,System.step] at taken
    split at taken
    · rename_i at_
      split at taken
      · cases taken
      · rename_i free
        cases taken
        exact sound.destroy at_ rfl (Bool.eq_false_iff.mpr (not_or.mp free).1)
    · cases taken

/-- A call fails exactly where it attaches a stub while one of its proxy stands. -/
theorem step_failures {event : Event} (sound : Sound system) (taken : fires System.step system event next) :
    failures next = failures system+if met system event then 0 else 1 := by
  cases event with
  | attachDBinderCallbackStub index =>
    simp only [fires,System.step,System.attachDBinderCallbackStub] at taken
    split at taken
    · rename_i proxy fake at_
      have entry := sound.any_entry proxy
      have condition : met system (.attachDBinderCallbackStub index) = !(system.dbinderSentCallback.any fun entry => entry.1 = proxy) := by
        rw [entry,met,at_]
      rw [condition]
      cases present : system.dbinderSentCallback.any fun entry => entry.1 = proxy with
      | true =>
        simp only [present,if_true,Bool.false_eq_true,if_false,Option.some.injEq] at taken
        subst taken
        simp [failures]
      | false =>
        simp only [present,if_true,Bool.false_eq_true,if_false,Option.some.injEq] at taken
        subst taken
        simp [failures]
    · cases taken
  | _ =>
    simp only [fires,System.step] at taken
    simp only [met,if_true,Int.add_zero]
    repeat' split at taken
    all_goals first
      | cases taken; rfl
      | cases taken

end Step

/-- The stub was attached, and it has a strong reference. -/
def Live (system : System) (stub proxy : Nat) : Prop :=
  ∃ fake, (∃ maker, system.calls[stub]? = some maker ∧ maker.proxy = proxy ∧ maker.fake = some fake) ∧ fake.attached = true ∧
    system.referenced stub = true

structure Correct (system : System) : Prop where
  unfailed : system.failed = []
  single : ∀ one two proxy, Live system one proxy → Live system two proxy → one = two
  mapped : ∀ stub proxy, Live system stub proxy → system.queryDBinderCallbackProxy stub = some proxy

section Results
variable {system : System} {stub proxy : Nat}

theorem Sound.mem_of_live (sound : Sound system) (live : Live system stub proxy) : (proxy,stub) ∈ system.dbinderSentCallback := by
  obtain ⟨fake,⟨maker,at_,rfl,has⟩,attached,referenced⟩ := live
  obtain ⟨found,there,made | standing_⟩ := sound.referenced_cases referenced
  · rw [at_,Option.some.injEq] at there
    subst there
    rw [sound.made stub maker at_ made,Option.some.injEq] at has
    subst has
    cases attached
  · rw [at_,Option.some.injEq] at there
    subst there
    exact (sound.entries maker.proxy stub).mpr ⟨maker,at_,rfl,standing_⟩

theorem Sound.single (sound : Sound system) {one two : Nat} (live : Live system one proxy) (live' : Live system two proxy) : one = two :=
  congrArg Prod.snd (Entries.entry_unique sound.keys (sound.mem_of_live live) (sound.mem_of_live live') rfl)

theorem Sound.mapped (sound : Sound system) (live : Live system stub proxy) : system.queryDBinderCallbackProxy stub = some proxy := by
  have member := sound.mem_of_live live
  obtain ⟨fake,-,-,referenced⟩ := live
  cases found : system.dbinderSentCallback.find? fun entry => decide (entry.2 = stub) && system.referenced entry.2 with
  | none =>
    have refused := List.find?_eq_none.mp found _ member
    simp [referenced] at refused
  | some entry =>
    have passed := List.find?_some found
    obtain ⟨key,value⟩ := entry
    rw [Bool.and_eq_true,decide_eq_true_iff] at passed
    obtain ⟨rfl,-⟩ := passed
    obtain ⟨maker,there,same,-⟩ := (sound.entries _ _).mp member
    obtain ⟨maker',there',same',-⟩ := (sound.entries _ _).mp (List.mem_of_find?_eq_some found)
    rw [there,Option.some.injEq] at there'
    subst there'
    rw [System.queryDBinderCallbackProxy,found,Option.map_some,← same',same]

end Results

/-- A run is correct up to its end exactly if each call attaches its stub when those attached for its proxy before are destroyed. -/
theorem correct_iff_met {events : List Event} {system : System} (run : Reaches (fires System.step) System.new events system) :
    Correct system ↔ Reaches (guarded (fires System.step) fun system event => met system event = true) System.new events system := by
  have sound : Sound system := run.invariant Sound sound_new fun _ _ _ => step_sound
  have counted : failures system = 0 ↔
      Reaches (guarded (fires System.step) fun system event => met system event = true) System.new events system :=
    run.guarded_iff_of_deficit Sound failures sound_new rfl (by
      intro before event after held taken
      exact ⟨step_sound held taken,step_failures held taken⟩)
  have empty : failures system = 0 ↔ system.failed = [] := by
    rw [failures,← List.length_eq_zero_iff]
    omega
  rw [← counted,empty]
  constructor
  · exact Correct.unfailed
  · intro unfailed
    exact ⟨unfailed,fun _ _ _ => sound.single,fun _ _ => sound.mapped⟩

/-- Two calls that share a stub, its destruction, and a call that makes a new one. -/
def shared : List Event :=
  [.begin 7,.queryDBinderCallbackStub 0,.newStub 0,.attachDBinderCallbackStub 0,.begin 7,.queryDBinderCallbackStub 1,.writeRemoteObject 0,
    .finish 0,.release 0,.writeRemoteObject 1,.finish 1,.release 0,.begin 7,.queryDBinderCallbackStub 2,.destroy 0,.newStub 2,
    .attachDBinderCallbackStub 2,.writeRemoteObject 2,.finish 2]

theorem correct_iff_met_shared :
    ∃ system, Reaches (fires System.step) System.new shared system ∧ system.dbinderSentCallback = [(7,2)] ∧ Correct system := by
  obtain ⟨system,run,reached⟩ := Reaches.exists_of_foldlM_guarded System.step (fun system event => met system event = true) System.new shared
    (fun system => decide (system.dbinderSentCallback = [(7,2)])) (by decide)
  have plain : Reaches (fires System.step) System.new shared system := run.mono fun _ _ _ => And.right
  exact ⟨system,plain,of_decide_eq_true reached,(correct_iff_met plain).mpr run⟩

/-- Two calls that both find no stub for proxy 7, and one that finds the stub of proxy 8 dead, in front of its destructor. -/
def crossed : List Event :=
  [.begin 7,.begin 7,.queryDBinderCallbackStub 0,.queryDBinderCallbackStub 1,.newStub 0,.newStub 1,.attachDBinderCallbackStub 0,
    .attachDBinderCallbackStub 1,.begin 8,.queryDBinderCallbackStub 2,.newStub 2,.attachDBinderCallbackStub 2,.writeRemoteObject 2,
    .finish 2,.release 2,.begin 8,.queryDBinderCallbackStub 3,.newStub 3,.attachDBinderCallbackStub 3,.destroy 2]

theorem crossed_calls_fail : ∃ system, Reaches (fires System.step) System.new crossed system ∧ system.failed = [1,3] ∧ ¬ Correct system := by
  obtain ⟨system,run,reached⟩ := Reaches.exists_of_foldlM System.step System.new crossed (fun system => decide (system.failed = [1,3])) (by decide)
  have failed := of_decide_eq_true reached
  refine ⟨system,run,failed,?_⟩
  intro correct
  rw [correct.unfailed] at failed
  cases failed

end CommunicationIpc.CallbackStubs
