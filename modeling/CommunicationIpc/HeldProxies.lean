import CommunicationIpc.ProxyLife

/-! Which of the proxies of a handle callers hold, and which one the table names. -/
namespace CommunicationIpc.HeldProxies
open CommunicationIpc.Library CommunicationIpc.Kernel.ProxyLife CommunicationIpc.ProxyLife

section Placed
variable {state next : State} {event : Event} {index : Nat}

/-- The proxy that a query without the mutex looks at. -/
def looks : Call → Option Nat
  | .looked index => some index
  | .checked index => some index
  | _ => none

/-- Nobody else has taken up a proxy that a failed call is about to take from the table, or is about to. -/
def quiet (state : State) : Event → Bool
  | .call call _ =>
    match state.calls[call]? with
    | some (.detaching index) => strongAt state.proxies index ≤ detachProxyRefCount ∧ ∀ place ∈ state.calls, looks place ≠ some index
    | _ => true
  | _ => true

/-- All references to the proxy belong to one call, which is before `AttachObject` or after `DetachObject`. -/
structure Sole (state : State) (index call : Nat) (place : Call) : Prop where
  at_ : state.calls[call]? = some place
  alone : place = .attaching index ∨ place = .dropping index
  all : strongAt state.proxies index = refs index place
  unlooked : ∀ other ∈ state.calls, looks other ≠ some index
  unnamed : ∀ descriptor, state.objects descriptor ≠ some index

structure Placed (state : State) : Prop where
  missing : ∀ (call : Nat) (handle : Int32), state.calls[call]? = some (.missing handle) →
    ∀ index, state.objects (makeHandleDescriptor handle) = some index → strongAt state.proxies index = 0
  attaching : ∀ (call index : Nat), state.calls[call]? = some (.attaching index) →
    (∃ other place, Sole state index other place) ∧
      ∀ proxy other, state.proxies[index]? = some proxy → state.objects (makeHandleDescriptor proxy.handle) = some other →
        strongAt state.proxies other = 0
  bounded : ∀ place ∈ state.calls, ∀ index, looks place = some index → index < state.proxies.length
  placed : ∀ (index : Nat) (proxy : Proxy), state.proxies[index]? = some proxy → 0 < proxy.strong →
    state.objects (makeHandleDescriptor proxy.handle) = some index ∨ ∃ call place, Sole state index call place

theorem refs_le_of_other (sound : Sound state) {call other : Nat} {place old : Call} (apart : other ≠ call)
    (at_ : state.calls[call]? = some place) (there : state.calls[other]? = some old) :
    refs index place+refs index old ≤ strongAt state.proxies index := by
  have first := refsOf_set at_ (.returned none) index
  have second := refsOf_set ((@Entries.at_set_other _ state.calls call other (.returned none) apart).trans there) (.returned none) index
  have before := sound.counted index
  have none_ : refs index (.returned none) = 0 := rfl
  omega

theorem strongAt_set {proxies : List Proxy} {proxy later : Proxy} (there : proxies[index]? = some proxy) (other : Nat) :
    strongAt (proxies.set index later) other = if other = index then later.strong else strongAt proxies other := by
  split
  · subst other
    exact strongAt_of (Entries.at_set_self there)
  · simp only [strongAt]
    rw [Entries.at_set_other ‹_›]

/-- A proxy without a reference does not get one. -/
theorem step_zero (sound : Sound state) (step : Step state event next) (inside : index < state.proxies.length)
    (zero : strongAt state.proxies index = 0) : strongAt next.proxies index = 0 := by
  have put {other : Nat} {proxy later : Proxy} (there : state.proxies[other]? = some proxy) (own : 0 < proxy.strong ∨ later.strong = 0) :
      strongAt (state.proxies.set other later) index = 0 := by
    rw [strongAt_set there]
    split
    · subst other
      rw [strongAt_of there] at zero
      omega
    · exact zero
  cases step with
  | opened handle free => exact zero
  | queried handle => exact zero
  | turned choice at_ turn => exact zero
  | ended choice at_ => exact zero
  | attempted choice at_ there positive => exact put there (.inl positive)
  | made choice at_ =>
    simp only [strongAt,List.getElem?_append_left inside] at zero ⊢
    exact zero
  | attached choice at_ there => exact zero
  | unlocked choice at_ there =>
    have few := sound.counted.refs_le there at_
    simp only [refs,if_true] at few
    exact put there (.inl (by omega))
  | initialised choice at_ there =>
    have few := sound.counted.refs_le there at_
    simp only [refs,if_true] at few
    exact put there (.inl (by omega))
  | detached choice at_ there free =>
    simp only [moveCall_proxies,detachObject_proxies]
    exact zero
  | dropped choice at_ there =>
    have few := sound.counted.refs_le there at_
    simp only [refs,if_true] at few
    exact put there (.inl (by omega))
  | recovered choice at_ there positive => exact put there (.inl positive)
  | copied there held =>
    have few := sound.counted.held_le there
    exact put there (.inl (by omega))
  | gave there held =>
    have few := sound.counted.held_le there
    exact put there (.inl (by omega))
  | reset there stage invalid =>
    have own := sound.staged _ _ there
    rw [stage] at own
    exact put there (.inr (by simpa using own))
  | released there stage valid =>
    have own := sound.staged _ _ there
    rw [stage] at own
    exact put there (.inr (by simpa using own))
  | forgotten there stage free =>
    have own := sound.staged _ _ there
    rw [stage] at own
    simp only [put_proxies,detachObject_proxies]
    exact put there (.inr (by simpa using own))
  | destroyed there stage =>
    have own := sound.staged _ _ there
    rw [stage] at own
    exact put there (.inr (by simpa using own))

namespace Sole
variable {call other : Nat} {place old : Call}

theorem positive (sole : Sole state index call place) : 0 < strongAt state.proxies index := by
  rw [sole.all]
  rcases sole.alone with rfl | rfl <;> simp [refs]

theorem there (sole : Sole state index call place) :
    ∃ proxy, state.proxies[index]? = some proxy ∧ proxy.strong = refs index place ∧ 0 < proxy.strong := by
  have positive := sole.positive
  cases at_ : state.proxies[index]? with
  | none => simp [strongAt,at_] at positive
  | some proxy =>
    have strong := strongAt_of at_
    exact ⟨proxy,rfl,strong.symm.trans sole.all,by omega⟩

theorem apart (sole : Sole state index call place) (at_ : state.calls[other]? = some old) (attaching : old ≠ .attaching index)
    (dropping : old ≠ .dropping index) : other ≠ call := by
  rintro rfl
  cases at_.symm.trans sole.at_
  rcases sole.alone with rfl | rfl
  · exact attaching rfl
  · exact dropping rfl

/-- No other call has a reference. -/
theorem refs_other (sole : Sole state index call place) (sound : Sound state) (at_ : state.calls[other]? = some old)
    (different : other ≠ call) : refs index old = 0 := by
  have both := @refs_le_of_other _ index sound _ _ _ _ different sole.at_ at_
  rw [sole.all] at both
  omega

theorem unheld (sole : Sole state index call place) (sound : Sound state) {proxy : Proxy} (there : state.proxies[index]? = some proxy) :
    proxy.held = 0 := by
  have few := sound.counted.refs_le there sole.at_
  have all := sole.all
  rw [strongAt_of there] at all
  omega

theorem referenced (sole : Sole state index call place) (sound : Sound state) {proxy : Proxy} (there : state.proxies[index]? = some proxy) :
    proxy.stage = .referenced := by
  have positive := sole.positive
  rw [strongAt_of there] at positive
  exact (sound.staged _ _ there).mpr positive

theorem kept (sole : Sole state index call place) {later : State} (at_ : later.calls[call]? = some place)
    (strong : strongAt later.proxies index = strongAt state.proxies index)
    (others : ∀ other ∈ later.calls, other ∈ state.calls ∨ looks other ≠ some index)
    (objects : ∀ descriptor, later.objects descriptor = some index → state.objects descriptor = some index) :
    Sole later index call place where
  at_ := at_
  alone := sole.alone
  all := strong.trans sole.all
  unlooked := by
    intro other member
    rcases others other member with before | new
    · exact sole.unlooked other before
    · exact new
  unnamed := fun descriptor named => sole.unnamed descriptor (objects descriptor named)

/-- Another call takes a step. -/
theorem keptSet (sole : Sole state index call place) (different : other ≠ call) {later : State}
    (calls : later.calls = state.calls.set other old) (strong : strongAt later.proxies index = strongAt state.proxies index)
    (objects : ∀ descriptor, later.objects descriptor = some index → state.objects descriptor = some index)
    (new : looks old ≠ some index) : Sole later index call place := by
  refine sole.kept ?_ strong ?_ objects
  · rw [calls,Entries.at_set_other different.symm]
    exact sole.at_
  · intro item member
    rw [calls] at member
    rcases List.mem_or_eq_of_mem_set member with before | rfl
    · exact .inl before
    · exact .inr new

/-- A new call begins, with no proxy that it looks at. -/
theorem appended (sole : Sole state index call place) {later : State} (calls : later.calls = state.calls ++ [old])
    (strong : strongAt later.proxies index = strongAt state.proxies index)
    (objects : ∀ descriptor, later.objects descriptor = some index → state.objects descriptor = some index)
    (new : looks old ≠ some index) : Sole later index call place := by
  refine sole.kept ?_ strong ?_ objects
  · rw [calls]
    exact (List.getElem?_append_left (List.getElem?_eq_some_iff.mp sole.at_).1).trans sole.at_
  · intro other member
    rw [calls] at member
    rcases List.mem_append.mp member with before | new_
    · exact .inl before
    · rw [List.mem_singleton.mp new_]
      exact .inr new

end Sole

theorem strongAt_elsewhere {proxies : List Proxy} {proxy later : Proxy} {other : Nat} (there : proxies[other]? = some proxy)
    (apart : other ≠ index) : strongAt (proxies.set other later) index = strongAt proxies index := by
  rw [strongAt_set there,if_neg (Ne.symm apart)]

/-- What a call alone refers to stays so, until it is named by the table or let go. -/
theorem step_sole (sound : Sound state) (step : Step state event next) {call : Nat} {place : Call}
    (sole : Sole state index call place) :
    Sole next index call place ∨ next.calls[call]? ≠ some place ∧ (strongAt next.proxies index = 0 ∨
      ∃ proxy, next.proxies[index]? = some proxy ∧ next.objects (makeHandleDescriptor proxy.handle) = some index) := by
  cases step with
  | opened handle free => exact .inl (sole.appended rfl rfl (fun _ => id) (by simp [looks]))
  | queried handle => exact .inl (sole.appended rfl rfl (fun _ => id) (by simp [looks]))
  | turned choice at_ turn =>
    have different := sole.apart at_ (by rintro rfl; cases turn) (by rintro rfl; cases turn)
    refine .inl (sole.keptSet different rfl rfl (fun _ => id) ?_)
    cases turn with
    | seen free named =>
      intro same
      cases same
      exact sole.unnamed _ named
    | checked => exact fun same => sole.unlooked _ (List.mem_of_getElem? at_) same
    | _ => simp [looks]
  | ended choice at_ => exact .inl (sole.keptSet (sole.apart at_ (by simp) (by simp)) rfl rfl (fun _ => id) (by simp [looks]))
  | @attempted _ other handle proxy choice at_ there positive =>
    have apart : other ≠ index := by
      rintro rfl
      exact sole.unnamed _ (sound.finding _ _ _ _ at_ rfl)
    exact .inl (sole.keptSet (sole.apart at_ (by simp) (by simp)) rfl (strongAt_elsewhere there apart) (fun _ => id) (by simp [looks]))
  | made choice at_ =>
    obtain ⟨proxy,there,_,_⟩ := sole.there
    refine .inl (sole.keptSet (sole.apart at_ (by simp) (by simp)) rfl ?_ (fun _ => id) (by simp [looks]))
    simp only [strongAt]
    rw [List.getElem?_append_left (List.getElem?_eq_some_iff.mp there).1]
  | @attached caller other proxy choice at_ there =>
    by_cases same : other = index
    · subst same
      have own : caller = call := by
        by_contra different
        have none_ := sole.refs_other sound at_ different
        simp [refs] at none_
      subst own
      cases at_.symm.trans sole.at_
      refine .inr ⟨?_,.inr ⟨proxy,there,Function.update_self ..⟩⟩
      rw [moveCall_calls,Entries.at_set_self at_]
      simp
    · refine .inl (sole.keptSet (sole.apart at_ (by simpa using same) (by simp)) rfl rfl (fun descriptor named => ?_) (by simp [looks]))
      simp only [moveCall_objects] at named
      by_cases own : descriptor = makeHandleDescriptor proxy.handle
      · subst own
        rw [Function.update_self] at named
        exact absurd (Option.some.inj named) same
      · rw [Function.update_of_ne own] at named
        exact named
  | @unlocked caller other proxy choice at_ there =>
    have different := sole.apart at_ (by simp) (by simp)
    have apart : other ≠ index := by
      rintro rfl
      have none_ := sole.refs_other sound at_ different
      simp [refs] at none_
    exact .inl (sole.keptSet different rfl (strongAt_elsewhere there apart) (fun _ => id) (by simp [looks]))
  | @initialised caller other proxy choice at_ there =>
    have different := sole.apart at_ (by simp) (by simp)
    have apart : other ≠ index := by
      rintro rfl
      have none_ := sole.refs_other sound at_ different
      simp [refs] at none_
    exact .inl (sole.keptSet different rfl (strongAt_elsewhere there apart) (fun _ => id) (by simp [looks]))
  | detached choice at_ there free =>
    have different := sole.apart at_ (by simp) (by simp)
    refine .inl (sole.keptSet different (congrArg (List.set · _ _) (detachObject_calls _ _)) ?_ ?_ (by simp [looks]))
    · rw [moveCall_proxies,detachObject_proxies]
    · exact fun descriptor named => (detachObject_objects.mp named).1
  | @dropped caller other proxy choice at_ there =>
    by_cases same : other = index
    · subst same
      have own : caller = call := by
        by_contra different
        have none_ := sole.refs_other sound at_ different
        simp [refs] at none_
      subst own
      cases at_.symm.trans sole.at_
      have all := sole.all
      rw [strongAt_of there] at all
      refine .inr ⟨?_,.inl ((strongAt_set there other).trans ?_)⟩
      · rw [moveCall_calls,put_calls,Entries.at_set_self at_]
        simp
      · simp [Proxy.decStrong,all,refs]
    · exact .inl (sole.keptSet (sole.apart at_ (by simp) (by simpa using same)) rfl (strongAt_elsewhere there same) (fun _ => id) (by simp [looks]))
  | @recovered caller other proxy choice at_ there positive =>
    have apart : other ≠ index := by
      rintro rfl
      exact sole.unlooked _ (List.mem_of_getElem? at_) rfl
    exact .inl (sole.keptSet (sole.apart at_ (by simp) (by simp)) rfl (strongAt_elsewhere there apart) (fun _ => id) (by simp [looks]))
  | @copied other proxy there held =>
    have apart : other ≠ index := by
      rintro rfl
      have none_ := sole.unheld sound there
      omega
    exact .inl (sole.kept sole.at_ (strongAt_elsewhere there apart) (fun _ => .inl) fun _ => id)
  | @gave other proxy there held =>
    have apart : other ≠ index := by
      rintro rfl
      have none_ := sole.unheld sound there
      omega
    exact .inl (sole.kept sole.at_ (strongAt_elsewhere there apart) (fun _ => .inl) fun _ => id)
  | @reset other proxy there stage invalid =>
    have apart : other ≠ index := by
      rintro rfl
      cases stage.symm.trans (sole.referenced sound there)
    exact .inl (sole.kept sole.at_ (strongAt_elsewhere there apart) (fun _ => .inl) fun _ => id)
  | @released other proxy there stage valid =>
    have apart : other ≠ index := by
      rintro rfl
      cases stage.symm.trans (sole.referenced sound there)
    exact .inl (sole.kept sole.at_ (strongAt_elsewhere there apart) (fun _ => .inl) fun _ => id)
  | @forgotten other proxy there stage free =>
    have apart : other ≠ index := by
      rintro rfl
      cases stage.symm.trans (sole.referenced sound there)
    refine .inl (sole.kept ?_ ?_ ?_ ?_)
    · rw [put_calls,detachObject_calls]
      exact sole.at_
    · rw [put_proxies,detachObject_proxies]
      exact strongAt_elsewhere there apart
    · rw [put_calls,detachObject_calls]
      exact fun _ => .inl
    · exact fun descriptor named => (detachObject_objects.mp named).1
  | @destroyed other proxy there stage =>
    have apart : other ≠ index := by
      rintro rfl
      cases stage.symm.trans (sole.referenced sound there)
    exact .inl (sole.kept sole.at_ (strongAt_elsewhere there apart) (fun _ => .inl) fun _ => id)

theorem step_length (step : Step state event next) : state.proxies.length ≤ next.proxies.length := by
  cases step with
  | made choice at_ => simp
  | detached choice at_ there free => simp
  | forgotten there stage free => simp
  | _ => simp

/-- What a call finds in a proxy's place was there before, or is what it made. -/
theorem step_at (step : Step state event next) {later : Proxy} (there : next.proxies[index]? = some later) :
    (∃ before, state.proxies[index]? = some before ∧ later.handle = before.handle) ∨
      ∃ call handle, state.calls[call]? = some (.missing handle) ∧ index = state.proxies.length ∧ later = ⟨handle,1,0,.referenced⟩ ∧
        next.calls = state.calls.set call (.attaching index) ∧ next.proxies = state.proxies ++ [⟨handle,1,0,.referenced⟩] ∧
        next.objects = state.objects := by
  have put {other : Nat} {proxy changed : Proxy} (at_ : state.proxies[other]? = some proxy)
      (there : (state.proxies.set other changed)[index]? = some later) (handle : changed.handle = proxy.handle) :
      ∃ before, state.proxies[index]? = some before ∧ later.handle = before.handle := by
    rcases Entries.at_set there with ⟨rfl,rfl⟩ | ⟨_,before⟩
    · exact ⟨proxy,at_,handle⟩
    · exact ⟨later,before,rfl⟩
  cases step with
  | made choice at_ =>
    rcases Nat.lt_or_ge index state.proxies.length with inside | outside
    · rw [List.getElem?_append_left inside] at there
      exact .inl ⟨later,there,rfl⟩
    · have bound := (List.getElem?_eq_some_iff.mp there).1
      simp only [List.length_append,List.length_cons,List.length_nil] at bound
      obtain rfl : index = state.proxies.length := by omega
      rw [List.getElem?_concat_length] at there
      cases there
      exact .inr ⟨_,_,at_,rfl,rfl,rfl,rfl,rfl⟩
  | attempted choice at_ before positive => exact .inl (put before there rfl)
  | unlocked choice at_ before => exact .inl (put before there rfl)
  | initialised choice at_ before => exact .inl (put before there rfl)
  | dropped choice at_ before => exact .inl (put before there rfl)
  | recovered choice at_ before positive => exact .inl (put before there rfl)
  | copied before held => exact .inl (put before there rfl)
  | gave before held => exact .inl (put before there rfl)
  | reset before stage invalid => exact .inl (put before there rfl)
  | released before stage valid => exact .inl (put before there rfl)
  | forgotten before stage free =>
    rw [put_proxies,detachObject_proxies] at there
    exact .inl (put before there rfl)
  | destroyed before stage => exact .inl (put before there rfl)
  | detached choice at_ before free =>
    rw [moveCall_proxies,detachObject_proxies] at there
    exact .inl ⟨later,there,rfl⟩
  | _ => exact .inl ⟨later,there,rfl⟩

/-- While a call with the mutex stays where it is the table does too. -/
theorem step_objects (sound : Sound state) (step : Step state event next) {call : Nat} {place : Call}
    (at_ : state.calls[call]? = some place) (busy : hasMutex place = true) (still : next.calls[call]? = some place) :
    next.objects = state.objects := by
  have mine := (sound.locked call).mpr ⟨place,at_,busy⟩
  cases step with
  | @attached caller index proxy choice here there =>
    have own : caller = call := Option.some.inj (((sound.locked caller).mpr ⟨_,here,rfl⟩).symm.trans mine)
    subst own
    cases here.symm.trans at_
    rw [moveCall_calls,Entries.at_set_self here] at still
    cases still
  | detached choice here there free => exact nomatch free.symm.trans mine
  | forgotten there stage free => exact nomatch free.symm.trans mine
  | _ => rfl

/-- A call stays where it is, or its step put it there. -/
theorem step_place (step : Step state event next) {call : Nat} {place : Call} (there : next.calls[call]? = some place) :
    state.calls[call]? = some place ∨ (∃ handle, place = .querying handle ∨ place = .looking handle) ∨
      (∃ old, state.calls[call]? = some old ∧ Turn state old place ∧ next.objects = state.objects) ∨
      (∃ result, place = .returned result) ∨ (∃ index, place = .unlocking (some index) ∨ place = .initialising index ∨
        place = .dropping index) ∨
      ∃ handle index, state.calls[call]? = some (.missing handle) ∧ place = .attaching index ∧ index = state.proxies.length ∧
        next.calls = state.calls.set call (.attaching index) ∧ next.proxies = state.proxies ++ [⟨handle,1,0,.referenced⟩] ∧
        next.objects = state.objects := by
  cases step with
  | opened handle free =>
    rcases Entries.at_concat there with before | rfl
    · exact .inl before
    · exact .inr (.inl ⟨handle,.inl rfl⟩)
  | queried handle =>
    rcases Entries.at_concat there with before | rfl
    · exact .inl before
    · exact .inr (.inl ⟨handle,.inr rfl⟩)
  | turned choice at_ turn =>
    rcases Entries.at_set there with ⟨rfl,rfl⟩ | ⟨_,before⟩
    · exact .inr (.inr (.inl ⟨_,at_,turn,rfl⟩))
    · exact .inl before
  | ended choice at_ =>
    rcases Entries.at_set there with ⟨rfl,rfl⟩ | ⟨_,before⟩
    · exact .inr (.inr (.inr (.inl ⟨_,rfl⟩)))
    · exact .inl before
  | attempted choice at_ here positive =>
    rcases Entries.at_set there with ⟨rfl,rfl⟩ | ⟨_,before⟩
    · exact .inr (.inr (.inr (.inr (.inl ⟨_,.inl rfl⟩))))
    · exact .inl before
  | made choice at_ =>
    rcases Entries.at_set there with ⟨rfl,rfl⟩ | ⟨_,before⟩
    · exact .inr (.inr (.inr (.inr (.inr ⟨_,_,at_,rfl,rfl,rfl,rfl,rfl⟩))))
    · exact .inl before
  | attached choice at_ here =>
    rcases Entries.at_set there with ⟨rfl,rfl⟩ | ⟨_,before⟩
    · exact .inr (.inr (.inr (.inr (.inl ⟨_,.inl rfl⟩))))
    · exact .inl before
  | unlocked choice at_ here =>
    rcases Entries.at_set there with ⟨rfl,rfl⟩ | ⟨_,before⟩
    · exact .inr (.inr (.inr (.inr (.inl ⟨_,.inr (.inl rfl)⟩))))
    · exact .inl before
  | initialised choice at_ here =>
    rcases Entries.at_set there with ⟨rfl,rfl⟩ | ⟨_,before⟩
    · exact .inr (.inr (.inr (.inl ⟨_,rfl⟩)))
    · exact .inl before
  | detached choice at_ here free =>
    rw [moveCall_calls,detachObject_calls] at there
    rcases Entries.at_set there with ⟨rfl,rfl⟩ | ⟨_,before⟩
    · exact .inr (.inr (.inr (.inr (.inl ⟨_,.inr (.inr rfl)⟩))))
    · exact .inl before
  | dropped choice at_ here =>
    rcases Entries.at_set there with ⟨rfl,rfl⟩ | ⟨_,before⟩
    · exact .inr (.inr (.inr (.inl ⟨_,rfl⟩)))
    · exact .inl before
  | recovered choice at_ here positive =>
    rcases Entries.at_set there with ⟨rfl,rfl⟩ | ⟨_,before⟩
    · exact .inr (.inr (.inr (.inl ⟨_,rfl⟩)))
    · exact .inl before
  | forgotten here stage free =>
    rw [put_calls,detachObject_calls] at there
    exact .inl there
  | _ => exact .inl there

theorem Placed.step_missing (placed : Placed state) (sound : Sound state) (step : Step state event next) {call : Nat} {handle : Int32}
    (there : next.calls[call]? = some (.missing handle)) {index : Nat}
    (named : next.objects (makeHandleDescriptor handle) = some index) : strongAt next.proxies index = 0 := by
  have zero (named : state.objects (makeHandleDescriptor handle) = some index) (zero : strongAt state.proxies index = 0) :
      strongAt next.proxies index = 0 := by
    obtain ⟨proxy,at_,_,_⟩ := sound.tabled _ _ named
    exact step_zero sound step (List.getElem?_eq_some_iff.mp at_).1 zero
  rcases step_place step there with
    before | ⟨_,place | place⟩ | ⟨old,at_,turn,objects⟩ | ⟨_,place⟩ | ⟨_,place | place | place⟩ | ⟨_,_,_,place,_⟩
  · rw [step_objects sound step before rfl there] at named
    exact zero named (placed.missing call handle before index named)
  · cases place
  · cases place
  · rw [objects] at named
    refine zero named ?_
    cases turn with
    | absent none_ => exact nomatch none_.symm.trans named
    | @invalid _ other proxy here stage =>
      cases (sound.finding _ _ _ _ at_ rfl).symm.trans named
      have own := sound.staged _ _ here
      rw [stage] at own
      rw [strongAt_of here]
      simpa using own
    | @late _ other proxy here none_ =>
      cases (sound.finding _ _ _ _ at_ rfl).symm.trans named
      rw [strongAt_of here]
      exact none_
  · cases place
  · cases place
  · cases place
  · cases place
  · cases place

/-- The proxy that a call has just made is nowhere else. -/
theorem Placed.sole_made (placed : Placed state) (sound : Sound state) {call : Nat} {handle : Int32}
    (at_ : state.calls[call]? = some (.missing handle)) (calls : next.calls = state.calls.set call (.attaching state.proxies.length))
    (proxies : next.proxies = state.proxies ++ [⟨handle,1,0,.referenced⟩]) (objects : next.objects = state.objects) :
    Sole next state.proxies.length call (.attaching state.proxies.length) where
  at_ := by rw [calls,Entries.at_set_self at_]
  alone := .inl rfl
  all := by simp [proxies,strongAt,refs]
  unlooked := by
    intro other member same
    rw [calls] at member
    rcases List.mem_or_eq_of_mem_set member with before | rfl
    · exact absurd (placed.bounded other before _ same) (Nat.lt_irrefl _)
    · cases same
  unnamed := by
    intro descriptor named
    rw [objects] at named
    obtain ⟨proxy,there,_,_⟩ := sound.tabled _ _ named
    exact absurd (List.getElem?_eq_some_iff.mp there).1 (Nat.lt_irrefl _)

theorem Placed.step_attaching (placed : Placed state) (sound : Sound state) (step : Step state event next) {call index : Nat}
    (there : next.calls[call]? = some (.attaching index)) :
    (∃ other place, Sole next index other place) ∧
      ∀ proxy other, next.proxies[index]? = some proxy → next.objects (makeHandleDescriptor proxy.handle) = some other →
        strongAt next.proxies other = 0 := by
  rcases step_place step there with
    before | ⟨_,place | place⟩ | ⟨old,at_,turn,objects⟩ | ⟨_,place⟩ | ⟨_,place | place | place⟩ | ⟨handle,_,at_,place,new,calls,proxies,objects⟩
  · obtain ⟨⟨other,place,sole⟩,displaced⟩ := placed.attaching call index before
    have own : call = other := by
      by_contra different
      have none_ := sole.refs_other sound before different
      simp [refs] at none_
    subst own
    cases before.symm.trans sole.at_
    constructor
    · rcases step_sole sound step sole with still | ⟨moved,_⟩
      · exact ⟨_,_,still⟩
      · exact absurd there moved
    · intro proxy other here named
      rw [step_objects sound step before rfl there] at named
      obtain ⟨found,at_,own,_⟩ := sound.tabled _ _ named
      rcases step_at step here with ⟨earlier,was,handle⟩ | ⟨_,_,_,beyond,_⟩
      · rw [handle] at named
        exact step_zero sound step (List.getElem?_eq_some_iff.mp at_).1 (displaced earlier other was named)
      · obtain ⟨earlier,was,_⟩ := sole.there
        exact absurd (List.getElem?_eq_some_iff.mp was).1 (by omega)
  · cases place
  · cases place
  · cases turn
  · cases place
  · cases place
  · cases place
  · cases place
  · cases place
    subst new
    refine ⟨⟨_,_,placed.sole_made sound at_ calls proxies objects⟩,?_⟩
    intro proxy other here named
    rw [proxies,List.getElem?_concat_length] at here
    cases here
    rw [objects] at named
    obtain ⟨found,was,_,_⟩ := sound.tabled _ _ named
    exact step_zero sound step (List.getElem?_eq_some_iff.mp was).1 (placed.missing call handle at_ other named)

theorem Placed.step_bounded (placed : Placed state) (sound : Sound state) (step : Step state event next) {place : Call}
    (member : place ∈ next.calls) {index : Nat} (looked : looks place = some index) : index < next.proxies.length := by
  have longer := step_length step
  obtain ⟨call,there⟩ := List.mem_iff_getElem?.mp member
  rcases step_place step there with
    before | ⟨_,rfl | rfl⟩ | ⟨old,at_,turn,objects⟩ | ⟨_,rfl⟩ | ⟨_,rfl | rfl | rfl⟩ | ⟨_,_,_,rfl,_⟩
  · have bound := placed.bounded place (List.mem_of_getElem? before) index looked
    omega
  · cases looked
  · cases looked
  · cases turn with
    | seen free named =>
      cases looked
      obtain ⟨proxy,here,_,_⟩ := sound.tabled _ _ named
      have bound := (List.getElem?_eq_some_iff.mp here).1
      omega
    | checked =>
      cases looked
      have bound := placed.bounded _ (List.mem_of_getElem? at_) index rfl
      omega
    | _ => cases looked
  · cases looked
  · cases looked
  · cases looked
  · cases looked
  · cases looked

/-- The table goes on naming a proxy that has references, or a failed call was the last to have it. -/
theorem Placed.step_named (placed : Placed state) (sound : Sound state) (step : Step state event next) (still : quiet state event = true)
    {index : Nat} {proxy : Proxy} (there : state.proxies[index]? = some proxy) (positive : 0 < proxy.strong)
    (named : state.objects (makeHandleDescriptor proxy.handle) = some index) :
    next.objects (makeHandleDescriptor proxy.handle) = some index ∨ ∃ call place, Sole next index call place := by
  cases step with
  | @attached call other made choice at_ here =>
    refine .inl ?_
    rw [moveCall_objects]
    by_cases same : makeHandleDescriptor proxy.handle = makeHandleDescriptor made.handle
    · rw [same] at named
      have zero := (placed.attaching call other at_).2 made index here named
      rw [strongAt_of there] at zero
      omega
    · simp only [Function.update_of_ne same]
      exact named
  | @detached call other failed choice at_ here free =>
    by_cases same : other = index
    · subst same
      cases there.symm.trans here
      simp only [quiet,at_,decide_eq_true_eq] at still
      have few := sound.counted.refs_le here at_
      have set := @Entries.at_set_self _ _ _ _ (.dropping other) at_
      rw [strongAt_of here] at still
      simp only [refs,if_true,detachProxyRefCount] at few still
      refine .inr ⟨call,.dropping other,?_,.inr rfl,?_,?_,?_⟩
      · rw [moveCall_calls,detachObject_calls]
        exact set
      · rw [moveCall_proxies,detachObject_proxies,strongAt_of here]
        simp only [refs,if_true]
        omega
      · intro item member
        rw [moveCall_calls,detachObject_calls] at member
        rcases List.mem_or_eq_of_mem_set member with before | rfl
        · exact still.2 item before
        · simp [looks]
      · exact sound.tabled.detached here
    · refine .inl ?_
      rw [moveCall_objects]
      exact detachObject_objects.mpr ⟨named,fun _ => Ne.symm same⟩
  | @forgotten other ended here stage free =>
    refine .inl ?_
    rw [put_objects]
    refine detachObject_objects.mpr ⟨named,?_⟩
    rintro - rfl
    cases there.symm.trans here
    cases stage.symm.trans ((sound.staged _ _ there).mpr positive)
  | _ => exact .inl named

theorem Placed.step (placed : Placed state) (sound : Sound state) (step : Step state event next) (still : quiet state event = true) :
    Placed next where
  missing := fun _ _ there _ named => placed.step_missing sound step there named
  attaching := fun _ _ there => placed.step_attaching sound step there
  bounded := fun _ member _ looked => placed.step_bounded sound step member looked
  placed := by
    intro index later there positive
    rcases step_at step there with ⟨before,was,handle⟩ | ⟨call,_,at_,rfl,rfl,calls,proxies,objects⟩
    · have earlier : 0 < before.strong := by
        by_contra none_
        have zero := step_zero sound step (List.getElem?_eq_some_iff.mp was).1 (by rw [strongAt_of was]; omega)
        rw [strongAt_of there] at zero
        omega
      rcases placed.placed index before was earlier with named | ⟨call,place,sole⟩
      · rw [handle]
        exact placed.step_named sound step still was earlier named
      · rcases step_sole sound step sole with kept | ⟨_,zero | ⟨proxy,here,named⟩⟩
        · exact .inr ⟨call,place,kept⟩
        · rw [strongAt_of there] at zero
          omega
        · cases there.symm.trans here
          exact .inl named
    · exact .inr ⟨_,_,placed.sole_made sound at_ calls proxies objects⟩

theorem placed_new : Placed State.new :=
  ⟨nofun,nofun,nofun,nofun⟩

/-- What callers hold is what the table names. -/
theorem Placed.named (placed : Placed state) (sound : Sound state) {proxy : Proxy} (there : state.proxies[index]? = some proxy)
    (held : 0 < proxy.held) : state.objects (makeHandleDescriptor proxy.handle) = some index := by
  have few := sound.counted.held_le there
  rcases placed.placed index proxy there (by omega) with named | ⟨call,place,sole⟩
  · exact named
  · have none_ := sole.unheld sound there
    omega

end Placed

theorem placed_run {events : List Event} {state : State}
    (run : Reaches (guarded (fires State.step) fun before event => quiet before event = true) State.new events state) :
    Sound state ∧ Placed state := by
  refine run.invariant (fun state => Sound state ∧ Placed state) ⟨sound_new,placed_new⟩ ?_
  rintro before event after ⟨sound,placed⟩ ⟨still,taken⟩
  exact ⟨sound.step (step_cases taken),placed.step sound (step_cases taken) still⟩

/-- As long as nobody has taken up a proxy since a failed call's look at its reference count when the call comes to its `DetachObject`, and
no `QueryObject` that read it from the table has still to take its reference then, a proxy that a caller holds is the one that the table
names, so that there is one for each handle at most. -/
theorem held_proxy_unique {events : List Event} {state : State}
    (run : Reaches (guarded (fires State.step) fun before event => quiet before event = true) State.new events state)
    {index : Nat} {proxy : Proxy} (there : state.proxies[index]? = some proxy) (held : 0 < proxy.held) :
    state.objects (makeHandleDescriptor proxy.handle) = some index ∧
      ∀ (other : Nat) (found : Proxy), state.proxies[other]? = some found → 0 < found.held → found.handle = proxy.handle →
        other = index := by
  obtain ⟨sound,placed⟩ := placed_run run
  have named := placed.named sound there held
  refine ⟨named,?_⟩
  intro other found at_ also same
  have theirs := placed.named sound at_ also
  rw [same,named] at theirs
  exact (Option.some.inj theirs).symm

theorem held_proxy_found_again : ∃ state,
    Reaches (guarded (fires State.step) fun before event => quiet before event = true) State.new findsTwice state ∧
      state.objects (makeHandleDescriptor 7) = some 0 ∧ heldAt state.proxies 0 = 2 := by
  obtain ⟨state,run,test⟩ := Reaches.exists_of_foldlM_guarded State.step (fun before event => quiet before event = true) State.new findsTwice
    (fun state => state.proxies[0]? = some ⟨7,2,2,.referenced⟩) (by decide +kernel)
  have there := of_decide_eq_true test
  exact ⟨state,run,(held_proxy_unique run there (by decide)).1,heldAt_of there⟩

end CommunicationIpc.HeldProxies
