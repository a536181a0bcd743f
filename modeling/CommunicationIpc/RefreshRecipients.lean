import CommunicationIpc.Kernel.RefreshRecipients
import CommunicationIpc.Library.Run

/-! When `RemoveDeathRecipient` changes nothing where it returns false, and refresh recipients are left only beside death recipients.
It erases the recipient first, and only then finds out that it refuses, or does not look for refresh recipients at all. -/
namespace CommunicationIpc.RefreshRecipients
open CommunicationIpc.Library CommunicationIpc.Kernel.RefreshRecipients
open CommunicationIpc.Kernel.ProxyDeathRecipients (dbinderHandleBase)

structure Unchanged (before after : Proxy) : Prop where
  recipients : after.recipients = before.recipients
  refreshRecipients : after.refreshRecipients = before.refreshRecipients
  deathRegistered : after.deathRegistered = before.deathRegistered
  refreshRegistered : after.refreshRegistered = before.refreshRegistered

/-- Where `RemoveDeathRecipient` returns false it leaves everything as it was. -/
def RefusesUnchanged (proxy : Proxy) : Event → Prop
  | .removeDeathRecipient recipient answers =>
    (proxy.removeDeathRecipient recipient answers).2 = false → Unchanged proxy (proxy.removeDeathRecipient recipient answers).1
  | _ => True

/-- There are refresh recipients only where there are death recipients. -/
def Covered (proxy : Proxy) : Prop := proxy.refreshRecipients ≠ [] → proxy.recipients ≠ []

/-- The invoker, and the remote stub where it was asked, take the registration back. -/
def Unregisters (proxy : Proxy) (answers : Answers) : Prop :=
  answers.invoker = true ∧ answers.removeRecipient = true ∧ (proxy.proto = .databus ∨ proxy.proto = .error → answers.dbinder = true)

/-- A recipient that is there is removed while there are no refresh recipients, and the last one if it can be unregistered; from a proxy
of another device also while another one is left. No refresh recipient is added when the death recipients are gone since it was looked
for them. -/
def Met (proxy : Proxy) : Event → Prop
  | .removeDeathRecipient (some recipient) answers => proxy.isRemoteDead = false → recipient ∈ proxy.recipients →
    if dbinderHandleBase ≤ proxy.handle then 1 < proxy.recipients.length ∨ proxy.refreshRecipients = []
    else proxy.refreshRecipients = [] ∧ (1 < proxy.recipients.length ∨ Unregisters proxy answers)
  | .lockRefreshRecipient call soPath answers => proxy.recipients = [] → (∃ recipient, proxy.waiting[call]? = some recipient) →
    proxy.isRemoteDead = false → soPath = true →
      ¬ dbinderHandleBase ≤ proxy.handle ∧ ¬ (answers.invoker = true ∧ answers.addRecipient = true)
  | _ => True

section Remove
variable {proxy : Proxy} {recipient : Nat} {answers : Answers}

theorem erase_eq_nil_iff {recipients : List Nat} (member : recipient ∈ recipients) :
    recipients.erase recipient = [] ↔ ¬ 1 < recipients.length := by
  have length := List.length_erase_of_mem member
  have some_ := List.length_pos_of_mem member
  rw [← List.length_eq_zero_iff,length]
  omega

theorem remove_none : proxy.removeDeathRecipient none answers = (proxy,false) := rfl

theorem remove_dead (dead : proxy.isRemoteDead = true) : proxy.removeDeathRecipient (some recipient) answers = (proxy,false) := if_pos dead

theorem remove_absent (absent : recipient ∉ proxy.recipients) : proxy.removeDeathRecipient (some recipient) answers = (proxy,false) := by
  simp only [Proxy.removeDeathRecipient,decide_eq_false absent,List.erase_of_not_mem absent,Bool.false_eq_true,and_false,false_and,
    if_false,Bool.not_true,ite_self]

theorem remove_remote (alive : proxy.isRemoteDead = false) (member : recipient ∈ proxy.recipients)
    (remote : dbinderHandleBase ≤ proxy.handle) :
    proxy.removeDeathRecipient (some recipient) answers = ({ proxy with recipients := proxy.recipients.erase recipient },true) := by
  simp only [Proxy.removeDeathRecipient,alive,Bool.false_eq_true,if_false,decide_eq_true member,and_true,if_pos remote]

theorem unRegister_spec (proxy : Proxy) (answers : Answers) :
    (proxy.unRegisterBinderDeathRecipient answers).1.recipients = proxy.recipients ∧
    (proxy.unRegisterBinderDeathRecipient answers).1.refreshRecipients = proxy.refreshRecipients ∧
    ((proxy.unRegisterBinderDeathRecipient answers).2 = true ↔ Unregisters proxy answers) := by
  unfold Proxy.unRegisterBinderDeathRecipient Unregisters
  cases answers.invoker with
  | false => exact ⟨rfl,rfl,iff_of_false Bool.false_ne_true fun unregisters => absurd unregisters.1 Bool.false_ne_true⟩
  | true =>
    cases answers.removeRecipient with
    | false => exact ⟨rfl,rfl,iff_of_false Bool.false_ne_true fun unregisters => absurd unregisters.2.1 Bool.false_ne_true⟩
    | true =>
      refine ⟨rfl,rfl,?_⟩
      simp only [Bool.not_true,Bool.false_eq_true,if_false,if_true,Bool.true_and,true_and]
      split
      · rename_i asked
        exact ⟨fun answered _ => answered,fun all => all asked⟩
      · rename_i unasked
        exact iff_of_true rfl fun asked => absurd asked unasked

/-- A proxy of this device: the recipient is gone whatever is returned. -/
theorem remove_local (answers : Answers) (alive : proxy.isRemoteDead = false) (member : recipient ∈ proxy.recipients)
    (own : ¬ dbinderHandleBase ≤ proxy.handle) :
    (proxy.removeDeathRecipient (some recipient) answers).1.recipients = proxy.recipients.erase recipient ∧
      (proxy.removeDeathRecipient (some recipient) answers).1.refreshRecipients = proxy.refreshRecipients ∧
      ((proxy.removeDeathRecipient (some recipient) answers).2 = true ↔
        proxy.refreshRecipients = [] ∧ (1 < proxy.recipients.length ∨ Unregisters proxy answers)) := by
  have last := erase_eq_nil_iff member
  obtain ⟨recipients,refreshRecipients,unregisters⟩ :=
    unRegister_spec { proxy with recipients := proxy.recipients.erase recipient } answers
  have few : 1 ≤ proxy.refreshRecipients.length ↔ ¬ proxy.refreshRecipients = [] := List.length_pos_iff
  have living : ¬ proxy.isRemoteDead = true := Bool.eq_false_iff.mp alive
  unfold Proxy.removeDeathRecipient
  dsimp only
  rw [if_neg living]
  simp only [if_false,decide_eq_true member,and_true,true_and,own,last]
  by_cases more : 1 < proxy.recipients.length
  · simp only [more,not_true_eq_false,if_false,Bool.not_true,Bool.false_eq_true,few,true_or,and_true]
    by_cases none_ : proxy.refreshRecipients = []
    · simp only [none_,not_true_eq_false,if_false,and_self]
    · simp only [none_,not_false_eq_true,if_true,Bool.false_eq_true,and_self]
  · change _ ↔ Unregisters proxy answers at unregisters
    simp only [more,not_false_eq_true,if_true,false_or]
    rw [← unregisters]
    generalize Proxy.unRegisterBinderDeathRecipient _ answers = result at recipients refreshRecipients ⊢
    obtain ⟨left,unregistered⟩ := result
    dsimp only at recipients refreshRecipients
    cases unregistered with
    | false => exact ⟨recipients,refreshRecipients,iff_of_false Bool.false_ne_true fun both => absurd both.2 Bool.false_ne_true⟩
    | true =>
      simp only [Bool.not_true,Bool.false_eq_true,if_false,refreshRecipients,few,and_true]
      by_cases none_ : proxy.refreshRecipients = []
      · simp only [none_,not_true_eq_false,if_false,recipients,refreshRecipients,and_self]
      · simp only [none_,not_false_eq_true,if_true,recipients,refreshRecipients,Bool.false_eq_true,and_self]

theorem remove_exact (proxy : Proxy) (recipient : Option Nat) (answers : Answers) (covered : Covered proxy) :
    RefusesUnchanged proxy (.removeDeathRecipient recipient answers) ∧
        Covered (proxy.removeDeathRecipient recipient answers).1 ↔
      Met proxy (.removeDeathRecipient recipient answers) := by
  have still : proxy.removeDeathRecipient recipient answers = (proxy,false) →
      RefusesUnchanged proxy (.removeDeathRecipient recipient answers) ∧ Covered (proxy.removeDeathRecipient recipient answers).1 := by
    intro same
    rw [RefusesUnchanged,same]
    exact ⟨fun _ => ⟨rfl,rfl,rfl,rfl⟩,covered⟩
  cases recipient with
  | none => exact iff_of_true (still remove_none) trivial
  | some recipient =>
    cases alive : proxy.isRemoteDead with
    | true =>
      refine iff_of_true (still (remove_dead alive)) fun living => ?_
      rw [alive] at living
      cases living
    | false =>
      by_cases member : recipient ∈ proxy.recipients
      · have shorter := List.length_erase_of_mem member
        have some_ := List.length_pos_of_mem member
        have last := erase_eq_nil_iff member
        rw [Met,forall_prop_of_true alive,forall_prop_of_true member]
        by_cases remote : dbinderHandleBase ≤ proxy.handle
        · rw [if_pos remote,RefusesUnchanged,remove_remote alive member remote]
          refine (and_iff_right fun refused => ?_).trans ?_
          · cases refused
          · unfold Covered
            dsimp only
            rw [ne_eq,ne_eq,last,not_not,or_comm]
            exact Decidable.imp_iff_not_or.trans (by rw [not_not])
        · obtain ⟨recipients,refreshRecipients,returned⟩ := remove_local answers alive member remote
          rw [if_neg remote,← returned]
          constructor
          · rintro ⟨refuses,-⟩
            by_contra refused
            have same := (refuses (Bool.eq_false_iff.mpr refused)).recipients
            rw [recipients] at same
            rw [same] at shorter
            omega
          · intro accepted
            refine ⟨fun refused => absurd accepted (Bool.eq_false_iff.mp refused),?_⟩
            intro some_refresh
            rw [refreshRecipients] at some_refresh
            exact absurd (returned.mp accepted).1 some_refresh
      · exact iff_of_true (still (remove_absent member)) fun _ present => absurd present member

end Remove

section Others
variable {proxy : Proxy} {answers : Answers}

theorem register_spec (proxy : Proxy) (answers : Answers) :
    (proxy.registerBinderDeathRecipient answers).1.recipients = proxy.recipients ∧
      (proxy.registerBinderDeathRecipient answers).1.refreshRecipients = proxy.refreshRecipients := by
  unfold Proxy.registerBinderDeathRecipient
  repeat' split
  all_goals exact ⟨rfl,rfl⟩

theorem registerRefresh_spec (proxy : Proxy) (answers : Answers) :
    (proxy.registerBinderRefreshRecipient answers).1.recipients = proxy.recipients ∧
      (proxy.registerBinderRefreshRecipient answers).1.refreshRecipients = proxy.refreshRecipients ∧
      ((proxy.registerBinderRefreshRecipient answers).2 = true ↔ answers.invoker = true ∧ answers.addRecipient = true) := by
  unfold Proxy.registerBinderRefreshRecipient
  cases answers.invoker with
  | false => exact ⟨rfl,rfl,iff_of_false Bool.false_ne_true fun both => absurd both.1 Bool.false_ne_true⟩
  | true =>
    cases answers.addRecipient with
    | false => exact ⟨rfl,rfl,iff_of_false Bool.false_ne_true fun both => absurd both.2 Bool.false_ne_true⟩
    | true => exact ⟨rfl,rfl,iff_of_true rfl ⟨rfl,rfl⟩⟩

theorem covered_add (covered : Covered proxy) (recipient : Option Nat) (soPath : Bool) :
    Covered (proxy.addDeathRecipient recipient soPath answers).1 := by
  unfold Proxy.addDeathRecipient
  split
  · exact covered
  split
  · exact covered
  split
  · exact covered
  dsimp only
  split
  · intro _ none_
    simp at none_
  · rename_i recipient _ _ _
    obtain ⟨recipients,refreshRecipients⟩ := register_spec { proxy with recipients := proxy.recipients ++ [recipient] } answers
    generalize Proxy.registerBinderDeathRecipient _ answers = result at recipients refreshRecipients ⊢
    obtain ⟨registered,success⟩ := result
    dsimp only at recipients refreshRecipients
    cases success with
    | false =>
      intro some_
      have some_ : registered.refreshRecipients ≠ [] := some_
      change registered.recipients.dropLast ≠ []
      rw [recipients,List.dropLast_concat]
      exact covered (refreshRecipients ▸ some_)
    | true =>
      intro _ none_
      have none_ : registered.recipients = [] := none_
      rw [recipients] at none_
      simp at none_

theorem unRegisterRefresh_spec (proxy : Proxy) (answers : Answers) :
    (proxy.unRegisterBinderRefreshRecipient answers).1.recipients = proxy.recipients ∧
      (proxy.unRegisterBinderRefreshRecipient answers).1.refreshRecipients = proxy.refreshRecipients := by
  unfold Proxy.unRegisterBinderRefreshRecipient
  dsimp only
  repeat' split
  all_goals exact ⟨rfl,rfl⟩

theorem removeRefresh_spec (proxy : Proxy) (recipient : Option Nat) (answers : Answers) :
    (proxy.removeRefreshRecipient recipient answers).1.recipients = proxy.recipients ∧
      (proxy.removeRefreshRecipient recipient answers).1.refreshRecipients.Sublist proxy.refreshRecipients := by
  unfold Proxy.removeRefreshRecipient
  split
  · exact ⟨rfl,.refl _⟩
  rename_i recipient
  split
  · exact ⟨rfl,.refl _⟩
  dsimp only
  split
  · exact ⟨rfl,List.erase_sublist⟩
  split
  · obtain ⟨recipients,refreshRecipients⟩ :=
      unRegisterRefresh_spec { proxy with refreshRecipients := proxy.refreshRecipients.erase recipient } answers
    generalize Proxy.unRegisterBinderRefreshRecipient _ answers = result at recipients refreshRecipients ⊢
    obtain ⟨left,unregistered⟩ := result
    dsimp only at recipients refreshRecipients
    have kept : left.recipients = proxy.recipients ∧ left.refreshRecipients.Sublist proxy.refreshRecipients :=
      ⟨recipients,refreshRecipients ▸ List.erase_sublist⟩
    cases unregistered with
    | false => exact kept
    | true => exact kept
  · exact ⟨rfl,List.erase_sublist⟩

theorem covered_removeRefresh (covered : Covered proxy) (recipient : Option Nat) :
    Covered (proxy.removeRefreshRecipient recipient answers).1 := by
  obtain ⟨recipients,fewer⟩ := removeRefresh_spec proxy recipient answers
  intro some_
  rw [recipients]
  refine covered fun none_ => some_ ?_
  rw [none_] at fewer
  exact List.sublist_nil.mp fewer

theorem lock_recipients (proxy : Proxy) (call : Nat) (soPath : Bool) (answers : Answers) :
    (proxy.lockRefreshRecipient call soPath answers).1.recipients = proxy.recipients := by
  unfold Proxy.lockRefreshRecipient
  split
  · rfl
  rename_i recipient _
  dsimp only
  split
  · rfl
  split
  · rfl
  split
  · rfl
  · obtain ⟨recipients,-⟩ := registerRefresh_spec { proxy with
      waiting := proxy.waiting.eraseIdx call, refreshRecipients := proxy.refreshRecipients ++ [recipient] } answers
    generalize Proxy.registerBinderRefreshRecipient _ answers = result at recipients ⊢
    obtain ⟨registered,success⟩ := result
    cases success with
    | false => exact recipients
    | true => exact recipients

/-- The first refresh recipient stays away if it is refused. -/
theorem lock_first (none_ : proxy.refreshRecipients = []) (call : Nat) (soPath : Bool) (answers : Answers) :
    (proxy.lockRefreshRecipient call soPath answers).1.refreshRecipients = [] ↔
      ((∃ recipient, proxy.waiting[call]? = some recipient) → proxy.isRemoteDead = false → soPath = true →
        ¬ dbinderHandleBase ≤ proxy.handle ∧ ¬ (answers.invoker = true ∧ answers.addRecipient = true)) := by
  unfold Proxy.lockRefreshRecipient
  cases looked : proxy.waiting[call]? with
  | none => exact iff_of_true none_ (by rintro ⟨recipient,found⟩; cases found)
  | some recipient =>
    dsimp only
    rw [forall_prop_of_true ⟨recipient,rfl⟩]
    cases alive : proxy.isRemoteDead with
    | true => exact iff_of_true none_ (by intro living; cases living)
    | false =>
      rw [forall_prop_of_true rfl]
      cases soPath with
      | false => exact iff_of_true none_ (by intro found; cases found)
      | true =>
        rw [forall_prop_of_true rfl]
        simp only [Bool.false_eq_true,if_false,Bool.not_true,none_,List.nil_append,List.length_singleton,Nat.lt_irrefl,false_or]
        by_cases remote : dbinderHandleBase ≤ proxy.handle
        · rw [if_pos remote]
          exact iff_of_false (List.cons_ne_nil _ _) fun both => both.1 remote
        · rw [if_neg remote,and_iff_right remote]
          obtain ⟨-,refreshRecipients,returned⟩ := registerRefresh_spec { proxy with
            isRemoteDead := false, waiting := proxy.waiting.eraseIdx call, refreshRecipients := [recipient] } answers
          rw [← returned]
          generalize Proxy.registerBinderRefreshRecipient _ answers = result at refreshRecipients ⊢
          obtain ⟨registered,success⟩ := result
          have refreshRecipients : registered.refreshRecipients = [recipient] := refreshRecipients
          cases success with
          | false =>
            refine iff_of_true ?_ Bool.false_ne_true
            change registered.refreshRecipients.dropLast = []
            rw [refreshRecipients]
            rfl
          | true =>
            refine iff_of_false ?_ fun refused => refused rfl
            change registered.refreshRecipients ≠ []
            rw [refreshRecipients]
            exact List.cons_ne_nil _ _

theorem lock_exact (covered : Covered proxy) (call : Nat) (soPath : Bool) :
    Covered (proxy.lockRefreshRecipient call soPath answers).1 ↔ Met proxy (.lockRefreshRecipient call soPath answers) := by
  rw [Covered,lock_recipients,Met]
  by_cases empty : proxy.recipients = []
  · have none_ : proxy.refreshRecipients = [] := by_contra fun some_ => covered some_ empty
    rw [forall_prop_of_true empty,← lock_first none_]
    exact ⟨fun held => by_contra fun some_ => held some_ empty,fun none_ some_ => absurd none_ some_⟩
  · exact iff_of_true (fun _ => empty) fun none_ => absurd none_ empty

theorem covered_look (covered : Covered proxy) (recipient : Option Nat) : Covered (proxy.addRefreshRecipient recipient) := by
  unfold Proxy.addRefreshRecipient
  split
  · exact covered
  · split
    · exact covered
    · exact covered

end Others

theorem step_exact (proxy : Proxy) (event : Event) (covered : Covered proxy) :
    RefusesUnchanged proxy event ∧ Covered (proxy.step event) ↔ Met proxy event := by
  cases event with
  | addDeathRecipient recipient soPath answers => exact iff_of_true ⟨trivial,covered_add covered recipient soPath⟩ trivial
  | removeDeathRecipient recipient answers => exact remove_exact proxy recipient answers covered
  | addRefreshRecipient recipient => exact iff_of_true ⟨trivial,covered_look covered recipient⟩ trivial
  | lockRefreshRecipient call soPath answers => exact (and_iff_right trivial).trans (lock_exact covered call soPath)
  | removeRefreshRecipient recipient answers => exact iff_of_true ⟨trivial,covered_removeRefresh covered recipient⟩ trivial

/-- All through a run of calls a removal that returns false changes nothing, and there are refresh recipients only beside death
recipients, exactly if every call meets its condition. -/
theorem refresh_recipients_covered_iff (handle : UInt32) (proto : Kernel.NegotiationData.Proto) (isRemoteDead : Bool)
    (events : List Event) :
    (∀ front event, front ++ [event] <+: events →
      RefusesUnchanged (front.foldl Proxy.step (.new handle proto isRemoteDead)) event ∧
        Covered ((front.foldl Proxy.step (.new handle proto isRemoteDead)).step event)) ↔
      Reaches (guarded (does Proxy.step) Met) (.new handle proto isRemoteDead) events
        (events.foldl Proxy.step (.new handle proto isRemoteDead)) :=
  @Reaches.guarded_iff_shown_kept _ _ Proxy.step Met RefusesUnchanged (fun _ => True) Covered _ trivial (fun some_ => absurd rfl some_)
    (fun _ _ _ => trivial) (fun proxy event _ covered => step_exact proxy event covered) events

/-- A proxy with one death recipient and one refresh recipient. -/
def both : Proxy :=
  [.addDeathRecipient (some 1) true ⟨true,true,true,true⟩,.addRefreshRecipient (some 2),
    .lockRefreshRecipient 0 true ⟨true,true,true,true⟩].foldl Proxy.step (.new 5 .binder false)

/-- The removal is refused, but the recipient and the registration are gone. -/
theorem refused_but_removed : (both.removeDeathRecipient (some 1) ⟨true,true,true,true⟩).2 = false ∧
    both.recipients = [1] ∧ both.deathRegistered = true ∧
    (both.removeDeathRecipient (some 1) ⟨true,true,true,true⟩).1.recipients = [] ∧
    (both.removeDeathRecipient (some 1) ⟨true,true,true,true⟩).1.deathRegistered = false ∧
    (both.removeDeathRecipient (some 1) ⟨true,true,true,true⟩).1.refreshRecipients = [2] :=
  ⟨rfl,rfl,rfl,rfl,rfl,rfl⟩

end CommunicationIpc.RefreshRecipients
