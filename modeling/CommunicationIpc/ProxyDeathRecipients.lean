import CommunicationIpc.Kernel.ProxyDeathRecipients
import CommunicationIpc.Library.Entries
import CommunicationIpc.Library.Run
import Mathlib.Data.List.Count

/-! Who is told of the death of a proxy's object. The recipients are taken in one step and the object is marked as dead in
a later one; what is added in between is never reported. -/
namespace CommunicationIpc.ProxyDeathRecipients
open CommunicationIpc.Library CommunicationIpc.Kernel.ProxyDeathRecipients

def leftOf : Obituary → List DeathRecipientAddrInfo
  | .dying toBeReport | .clearing toBeReport | .reporting toBeReport => toBeReport
  | .completed => []

def isDying : Obituary → Bool
  | .dying _ => true
  | _ => false

/-- Nothing can be added between the swap and the mark, a removal that finds its recipient does not fail, no library
is closed, and a `SendObituary` completes when no other one still has recipients to report. -/
def met (proxy : Proxy) : Event → Bool
  | .addDeathRecipient recipient soPath answer =>
    proxy.obituaries.all (fun obituary => !isDying obituary) || proxy.isRemoteDead || recipient.isNone || !soPath ||
      (!answer && decide (proxy.handle < dbinderHandleBase))
  | .removeDeathRecipient recipient answer =>
    proxy.isRemoteDead || decide (dbinderHandleBase ≤ proxy.handle) ||
      !proxy.recipients.any (fun info => decide (some info.recipient = recipient)) ||
        (decide (proxy.refreshRecipients = 0) && (answer || decide (1 < proxy.recipients.length)))
  | .sendObituary => true
  | .obituary obituary dlclosed =>
    match proxy.obituaries[obituary]? with
    | some (.reporting []) => proxy.obituaries.all fun other => decide (leftOf other = [])
    | some (.reporting (_ :: _)) => !dlclosed
    | _ => true

/-- Registered, with nobody told yet. -/
def pending (proxy : Proxy) : List Nat :=
  (proxy.recipients ++ proxy.obituaries.flatMap leftOf).map DeathRecipientAddrInfo.address

def known (proxy : Proxy) : List Nat := pending proxy ++ proxy.removed ++ proxy.notified

/-- What is so in every run: no info is at two places, and all of them were registered. -/
structure Sound (proxy : Proxy) : Prop where
  counted : ∀ info, (known proxy).count info ≤ proxy.registered.count info
  distinct : proxy.registered.Nodup
  made : ∀ info ∈ proxy.registered, info < proxy.made
  dead : ∀ obituary ∈ proxy.obituaries, isDying obituary = false → proxy.isRemoteDead = true

/-- What is so while `met` holds at every step: no info is lost. -/
structure Kept (proxy : Proxy) : Prop where
  counted : ∀ info, (known proxy).count info = proxy.registered.count info
  swapped : proxy.obituaries ≠ [] → proxy.recipients = []
  reported : Obituary.completed ∈ proxy.obituaries → ∀ obituary ∈ proxy.obituaries, leftOf obituary = []

section Lists
variable {proxy : Proxy}

theorem add_spec (proxy : Proxy) (recipient : Option Nat) (soPath answer : Bool) :
    (∃ made, proxy.made ≤ made ∧ proxy.addDeathRecipient recipient soPath answer = ({ proxy with made := made },false)) ∨
    ∃ given, recipient = some given ∧ proxy.isRemoteDead = false ∧ soPath = true ∧
      (proxy.recipients ≠ [] ∨ dbinderHandleBase ≤ proxy.handle ∨ answer = true) ∧
      proxy.addDeathRecipient recipient soPath answer =
        ({ proxy with made := proxy.made+1, recipients := proxy.recipients ++ [⟨proxy.made,given⟩] },true) := by
  cases recipient with
  | none => exact .inl ⟨proxy.made,Nat.le_refl _,rfl⟩
  | some given =>
    rw [Proxy.addDeathRecipient]
    by_cases dead : proxy.isRemoteDead = true
    · rw [if_pos dead]
      exact .inl ⟨proxy.made,Nat.le_refl _,rfl⟩
    rw [if_neg dead]
    cases soPath with
    | false => exact .inl ⟨proxy.made+1,Nat.le_succ _,rfl⟩
    | true =>
      have pushed : (proxy.recipients ++ [(⟨proxy.made,given⟩ : DeathRecipientAddrInfo)]).length = proxy.recipients.length+1 :=
        List.length_append
      by_cases already : 1 < (proxy.recipients ++ [(⟨proxy.made,given⟩ : DeathRecipientAddrInfo)]).length ∨
          dbinderHandleBase ≤ proxy.handle
      · right
        refine ⟨given,rfl,by simpa using dead,rfl,?_,if_pos already⟩
        rcases already with more | foreign
        · left
          intro empty
          rw [pushed,empty] at more
          exact absurd more (Nat.lt_irrefl 1)
        · exact .inr (.inl foreign)
      · cases answer with
        | true => exact .inr ⟨given,rfl,by simpa using dead,rfl,.inr (.inr rfl),if_neg already⟩
        | false =>
          left
          refine ⟨proxy.made+1,Nat.le_succ _,(if_neg already).trans ?_⟩
          simp only [Bool.not_false,if_true,List.dropLast_concat]

/-- `RemoveDeathRecipient` takes the first info of its recipient out, and under the condition it then returns true. -/
theorem remove_spec (proxy : Proxy) (recipient : Option Nat) (answer : Bool) :
    proxy.removeDeathRecipient recipient answer = (proxy,false) ∨
    ∃ info result, proxy.recipients.find? (fun info => decide (some info.recipient = recipient)) = some info ∧
      proxy.removeDeathRecipient recipient answer =
        ({ proxy with recipients := proxy.recipients.eraseP fun info => decide (some info.recipient = recipient) },result) ∧
      (met proxy (.removeDeathRecipient recipient answer) = true → result = true) := by
  cases recipient with
  | none => exact .inl rfl
  | some given =>
    have test : (fun info : DeathRecipientAddrInfo => decide (some info.recipient = some given)) =
        fun info => decide (info.recipient = given) := by
      funext info
      simp only [Option.some.injEq]
    rw [Proxy.removeDeathRecipient,met,test]
    by_cases dead : proxy.isRemoteDead = true
    · rw [if_pos dead]
      exact .inl rfl
    rw [if_neg dead]
    cases found : proxy.recipients.find? (fun info => decide (info.recipient = given)) with
    | none =>
      have absent : ∀ info ∈ proxy.recipients, ¬ decide (info.recipient = given) = true := List.find?_eq_none.mp found
      have none_ : (proxy.recipients.any fun info => decide (info.recipient = given)) = false := by
        rw [List.any_eq_false]
        exact absent
      left
      simp only [none_,List.eraseP_of_forall_not absent,Bool.false_eq_true,and_false,false_and,if_false,ite_self]
    | some info =>
      have passed := List.find?_some found
      have some_ : (proxy.recipients.any fun info => decide (info.recipient = given)) = true :=
        List.any_eq_true.mpr ⟨info,List.mem_of_find?_eq_some found,passed⟩
      have length := (Entries.perm_eraseP found).length_eq
      right
      simp only [some_,true_and,and_true,Bool.not_true,Bool.or_false]
      by_cases foreign : dbinderHandleBase ≤ proxy.handle
      · exact ⟨info,true,rfl,by rw [if_pos foreign],fun _ => rfl⟩
      rw [if_neg foreign]
      by_cases failed : (proxy.recipients.eraseP fun info => decide (info.recipient = given)) = [] ∧ answer = false
      · refine ⟨info,false,rfl,by rw [if_pos failed],?_⟩
        intro listened
        rw [failed.1] at length
        simp [dead,foreign,failed.2,length] at listened
      rw [if_neg failed]
      by_cases refreshed : 1 ≤ proxy.refreshRecipients
      · refine ⟨info,false,rfl,by rw [if_pos refreshed],?_⟩
        intro listened
        have some_ : proxy.refreshRecipients ≠ 0 := Nat.ne_of_gt refreshed
        simp [dead,foreign,some_] at listened
      · exact ⟨info,true,rfl,by rw [if_neg refreshed],fun _ => rfl⟩

end Lists

section Steps
variable {proxy next : Proxy}

theorem count_known (proxy : Proxy) (info : Nat) : (known proxy).count info =
    (proxy.recipients.map DeathRecipientAddrInfo.address).count info +
      ((proxy.obituaries.flatMap leftOf).map DeathRecipientAddrInfo.address).count info +
        proxy.removed.count info + proxy.notified.count info := by
  simp only [known,pending,List.map_append,List.count_append]

/-- What a step does to the infos that are known: `lost` is whether it may lose some. -/
structure Moves (proxy next : Proxy) (kept : Prop) : Prop where
  counted : ∀ info, (known next).count info + proxy.registered.count info ≤ (known proxy).count info + next.registered.count info
  kept : kept → ∀ info, (known next).count info + proxy.registered.count info = (known proxy).count info + next.registered.count info

theorem Moves.of_balance {kept : Prop} (balance : ∀ info, (known next).count info + proxy.registered.count info =
    (known proxy).count info + next.registered.count info) : Moves proxy next kept :=
  ⟨fun info => Nat.le_of_eq (balance info),fun _ => balance⟩

theorem Moves.still {kept : Prop} (recipients : next.recipients = proxy.recipients) (obituaries : next.obituaries = proxy.obituaries)
    (registered : next.registered = proxy.registered) (removed : next.removed = proxy.removed)
    (notified : next.notified = proxy.notified) : Moves proxy next kept := by
  have same : known next = known proxy := by rw [known,known,pending,pending,recipients,obituaries,removed,notified]
  apply Moves.of_balance
  intro info
  rw [same,registered]

theorem add_moves (proxy : Proxy) (recipient : Option Nat) (soPath answer : Bool) {kept : Prop}
    (taken : fires Proxy.step proxy (.addDeathRecipient recipient soPath answer) next) : Moves proxy next kept := by
  simp only [fires,Proxy.step] at taken
  rcases add_spec proxy recipient soPath answer with ⟨made,-,refused⟩ | ⟨given,-,-,-,-,added⟩
  · simp only [refused,Option.some.injEq] at taken
    subst taken
    exact .still rfl rfl rfl rfl rfl
  · simp only [added,Option.some.injEq] at taken
    subst taken
    apply Moves.of_balance
    intro info
    rw [count_known,count_known]
    simp only [List.map_append,List.map_cons,List.map_nil,List.count_append]
    omega

theorem remove_moves {recipient : Option Nat} {answer : Bool}
    (taken : fires Proxy.step proxy (.removeDeathRecipient recipient answer) next) :
    Moves proxy next (met proxy (.removeDeathRecipient recipient answer) = true) := by
  simp only [fires,Proxy.step] at taken
  rcases remove_spec proxy recipient answer with refused | ⟨info,result,found,erased,listened⟩
  · simp only [refused,Option.some.injEq] at taken
    subst taken
    exact .still rfl rfl rfl rfl rfl
  · have perm := ((Entries.perm_eraseP found).map DeathRecipientAddrInfo.address).count_eq
    simp only [List.map_cons,List.count_cons] at perm
    cases result with
    | true =>
      simp only [erased,found,Option.some.injEq,Option.map_some,Option.toList_some] at taken
      subst taken
      apply Moves.of_balance
      intro at_
      rw [count_known,count_known]
      simp only [List.count_append,List.count_singleton,perm at_]
      omega
    | false =>
      simp only [erased,Option.some.injEq] at taken
      subst taken
      refine ⟨?_,fun kept => absurd (listened kept) Bool.false_ne_true⟩
      intro at_
      rw [count_known,count_known]
      simp only [perm at_]
      omega

theorem swap_moves {kept : Prop} (taken : fires Proxy.step proxy .sendObituary next) : Moves proxy next kept := by
  simp only [fires,Proxy.step,Option.some.injEq] at taken
  subst taken
  apply Moves.of_balance
  intro info
  rw [count_known,count_known]
  simp only [List.flatMap_append,List.flatMap_cons,List.flatMap_nil,leftOf,List.append_nil,List.map_append,List.count_append,
    List.map_nil,List.count_nil]
  omega

theorem Moves.onward {kept : Prop} {obituary : Nat} {before : Obituary} (place : proxy.obituaries[obituary]? = some before)
    (after : Obituary) (same : leftOf after = leftOf before) (obituaries : next.obituaries = proxy.obituaries.set obituary after)
    (recipients : next.recipients = proxy.recipients) (registered : next.registered = proxy.registered)
    (removed : next.removed = proxy.removed) (notified : next.notified = proxy.notified) : Moves proxy next kept := by
  apply Moves.of_balance
  intro info
  obtain ⟨rest,old,new⟩ := Entries.flatMap_set leftOf place
  rw [count_known,count_known,recipients,obituaries,removed,notified,registered,(old.map _).count_eq,((new after).map _).count_eq,same]

theorem obituary_moves {obituary : Nat} {dlclosed : Bool} (taken : fires Proxy.step proxy (.obituary obituary dlclosed) next) :
    Moves proxy next (met proxy (.obituary obituary dlclosed) = true) := by
  simp only [fires,Proxy.step,Proxy.stepObituary] at taken
  cases place : proxy.obituaries[obituary]? with
  | none =>
    simp only [place] at taken
    cases taken
  | some stage =>
    cases stage with
    | completed =>
      simp only [place] at taken
      cases taken
    | dying toBeReport =>
      simp only [place,Option.some.injEq] at taken
      subst taken
      exact .onward place (.clearing toBeReport) rfl rfl rfl rfl rfl rfl
    | clearing toBeReport =>
      simp only [place,Option.some.injEq] at taken
      subst taken
      exact .onward place (.reporting toBeReport) rfl rfl rfl rfl rfl rfl
    | reporting toBeReport =>
      cases toBeReport with
      | nil =>
        simp only [place,Option.some.injEq] at taken
        subst taken
        exact .onward place .completed rfl rfl rfl rfl rfl rfl
      | cons info toBeReport =>
        obtain ⟨rest,old,new⟩ := Entries.flatMap_set leftOf place
        have before := (old.map DeathRecipientAddrInfo.address).count_eq
        have after := ((new (.reporting toBeReport)).map DeathRecipientAddrInfo.address).count_eq
        simp only [leftOf,List.map_append,List.map_cons,List.cons_append,List.count_cons] at before
        simp only [leftOf,List.map_append] at after
        cases dlclosed with
        | true =>
          simp only [place,if_true,Option.some.injEq] at taken
          subst taken
          refine ⟨?_,?_⟩
          · intro at_
            rw [count_known,count_known]
            simp only [Proxy.moveObituary,before at_,after at_]
            omega
          · intro listened
            simp only [met,place,Bool.not_true] at listened
            cases listened
        | false =>
          simp only [place,Bool.false_eq_true,if_false,Option.some.injEq] at taken
          subst taken
          apply Moves.of_balance
          intro at_
          rw [count_known,count_known]
          simp only [Proxy.moveObituary,before at_,after at_,List.count_append,List.count_singleton]
          omega

theorem step_moves {event : Event} (taken : fires Proxy.step proxy event next) : Moves proxy next (met proxy event = true) := by
  cases event with
  | addDeathRecipient recipient soPath answer => exact add_moves proxy recipient soPath answer taken
  | removeDeathRecipient recipient answer => exact remove_moves taken
  | sendObituary => exact swap_moves taken
  | obituary obituary dlclosed => exact obituary_moves taken

end Steps

theorem sound_new (handle : UInt32) (refreshRecipients : Nat) : Sound (Proxy.new handle refreshRecipients) := by
  refine ⟨fun _ => Nat.le_refl _,List.nodup_nil,?_,?_⟩
  · intro info member
    cases member
  · intro obituary member
    cases member

theorem kept_new (handle : UInt32) (refreshRecipients : Nat) : Kept (Proxy.new handle refreshRecipients) := by
  refine ⟨fun _ => rfl,fun _ => rfl,?_⟩
  intro member
  cases member

section Runs
variable {proxy next : Proxy} {event : Event}

theorem step_registered (taken : fires Proxy.step proxy event next) :
    proxy.made ≤ next.made ∧ (next.registered = proxy.registered ∨ next.registered = proxy.registered ++ [proxy.made] ∧ proxy.made < next.made) := by
  cases event with
  | addDeathRecipient recipient soPath answer =>
    simp only [fires,Proxy.step] at taken
    rcases add_spec proxy recipient soPath answer with ⟨made,more,refused⟩ | ⟨given,-,-,-,-,added⟩
    · simp only [refused,Option.some.injEq] at taken
      subst taken
      exact ⟨more,.inl rfl⟩
    · simp only [added,Option.some.injEq] at taken
      subst taken
      exact ⟨Nat.le_succ _,.inr ⟨rfl,Nat.lt_succ_self _⟩⟩
  | removeDeathRecipient recipient answer =>
    simp only [fires,Proxy.step] at taken
    rcases remove_spec proxy recipient answer with refused | ⟨info,result,found,erased,-⟩
    · simp only [refused,Option.some.injEq] at taken
      subst taken
      exact ⟨Nat.le_refl _,.inl rfl⟩
    · cases result with
      | true =>
        simp only [erased,Option.some.injEq] at taken
        subst taken
        exact ⟨Nat.le_refl _,.inl rfl⟩
      | false =>
        simp only [erased,Option.some.injEq] at taken
        subst taken
        exact ⟨Nat.le_refl _,.inl rfl⟩
  | sendObituary =>
    simp only [fires,Proxy.step,Option.some.injEq] at taken
    subst taken
    exact ⟨Nat.le_refl _,.inl rfl⟩
  | obituary obituary dlclosed =>
    simp only [fires,Proxy.step,Proxy.stepObituary] at taken
    split at taken
    · cases taken
    · cases taken
    · cases taken
      exact ⟨Nat.le_refl _,.inl rfl⟩
    · cases taken
      exact ⟨Nat.le_refl _,.inl rfl⟩
    · cases taken
      exact ⟨Nat.le_refl _,.inl rfl⟩
    · split at taken
      · cases taken
        exact ⟨Nat.le_refl _,.inl rfl⟩
      · cases taken
        exact ⟨Nat.le_refl _,.inl rfl⟩

theorem step_obituaries (taken : fires Proxy.step proxy event next) :
    (next.obituaries = proxy.obituaries ∧ next.isRemoteDead = proxy.isRemoteDead) ∨
    (next.obituaries = proxy.obituaries ++ [.dying proxy.recipients] ∧ next.recipients = [] ∧ next.isRemoteDead = proxy.isRemoteDead) ∨
    ∃ index before after, proxy.obituaries[index]? = some before ∧ next.obituaries = proxy.obituaries.set index after ∧
      next.recipients = proxy.recipients ∧ (isDying before = false ∨ next.isRemoteDead = true) ∧
        (proxy.isRemoteDead = true → next.isRemoteDead = true) ∧ isDying after = false ∧
          (leftOf before = [] → leftOf after = []) ∧
            (after = .completed → met proxy event = true → ∀ other ∈ proxy.obituaries, leftOf other = []) := by
  cases event with
  | addDeathRecipient recipient soPath answer =>
    left
    simp only [fires,Proxy.step] at taken
    rcases add_spec proxy recipient soPath answer with ⟨made,-,refused⟩ | ⟨given,-,-,-,-,added⟩
    · simp only [refused,Option.some.injEq] at taken
      subst taken
      exact ⟨rfl,rfl⟩
    · simp only [added,Option.some.injEq] at taken
      subst taken
      exact ⟨rfl,rfl⟩
  | removeDeathRecipient recipient answer =>
    left
    simp only [fires,Proxy.step] at taken
    rcases remove_spec proxy recipient answer with refused | ⟨info,result,found,erased,-⟩
    · simp only [refused,Option.some.injEq] at taken
      subst taken
      exact ⟨rfl,rfl⟩
    · cases result with
      | true =>
        simp only [erased,Option.some.injEq] at taken
        subst taken
        exact ⟨rfl,rfl⟩
      | false =>
        simp only [erased,Option.some.injEq] at taken
        subst taken
        exact ⟨rfl,rfl⟩
  | sendObituary =>
    simp only [fires,Proxy.step,Option.some.injEq] at taken
    subst taken
    exact .inr (.inl ⟨rfl,rfl,rfl⟩)
  | obituary obituary dlclosed =>
    right
    right
    simp only [fires,Proxy.step,Proxy.stepObituary] at taken
    split at taken
    · cases taken
    · cases taken
    · rename_i toBeReport place
      cases taken
      refine ⟨obituary,_,.clearing toBeReport,place,rfl,rfl,.inr rfl,fun _ => rfl,rfl,id,?_⟩
      intro same
      cases same
    · rename_i toBeReport place
      cases taken
      refine ⟨obituary,_,.reporting toBeReport,place,rfl,rfl,.inl rfl,id,rfl,id,?_⟩
      intro same
      cases same
    · rename_i place
      cases taken
      refine ⟨obituary,_,.completed,place,rfl,rfl,.inl rfl,id,rfl,fun _ => rfl,?_⟩
      intro _ listened other member
      simp only [met,place,List.all_eq_true,decide_eq_true_eq] at listened
      exact listened other member
    · rename_i info toBeReport place
      have more : leftOf (.reporting (info :: toBeReport)) = [] → leftOf (.reporting toBeReport) = [] := by
        intro none_
        cases none_
      split at taken
      · cases taken
        refine ⟨obituary,_,.reporting toBeReport,place,rfl,rfl,.inl rfl,id,rfl,more,?_⟩
        intro same
        cases same
      · cases taken
        refine ⟨obituary,_,.reporting toBeReport,place,rfl,rfl,.inl rfl,id,rfl,more,?_⟩
        intro same
        cases same

theorem step_sound (sound : Sound proxy) (taken : fires Proxy.step proxy event next) : Sound next := by
  obtain ⟨more,registered⟩ := step_registered taken
  refine ⟨?_,?_,?_,?_⟩
  · intro info
    have moved := (step_moves taken).counted info
    have before := sound.counted info
    omega
  · rcases registered with same | ⟨added,-⟩
    · rw [same]
      exact sound.distinct
    · rw [added,List.nodup_append]
      refine ⟨sound.distinct,List.nodup_singleton _,?_⟩
      intro info member other also same
      rw [List.mem_singleton.mp also] at same
      exact absurd (sound.made info member) (by omega)
  · intro info member
    rcases registered with same | ⟨added,newer⟩
    · rw [same] at member
      exact Nat.lt_of_lt_of_le (sound.made info member) more
    · rw [added,List.mem_append,List.mem_singleton] at member
      rcases member with old | rfl
      · exact Nat.lt_of_lt_of_le (sound.made info old) more
      · exact newer
  · intro place member gone
    rcases step_obituaries taken with ⟨same,dead⟩ | ⟨added,-,dead⟩ | ⟨index,before,after,at_,set,-,marked,still,-,-,-⟩
    · rw [same] at member
      rw [dead]
      exact sound.dead place member gone
    · rw [added,List.mem_append,List.mem_singleton] at member
      rw [dead]
      rcases member with old | rfl
      · exact sound.dead place old gone
      · cases gone
    · rcases marked with alive | marked
      · exact still (sound.dead before (List.mem_of_getElem? at_) alive)
      · exact marked

/-- Under the condition nothing is added once the recipients have been taken. -/
theorem step_swapped (sound : Sound proxy) (kept : Kept proxy) (listened : met proxy event = true) (taken : fires Proxy.step proxy event next)
    (some_ : next.obituaries ≠ []) : next.recipients = [] := by
  cases event with
  | addDeathRecipient recipient soPath answer =>
    simp only [fires,Proxy.step] at taken
    rcases add_spec proxy recipient soPath answer with ⟨made,-,refused⟩ | ⟨given,rfl,alive,rfl,accepted,added⟩
    · simp only [refused,Option.some.injEq] at taken
      subst taken
      exact kept.swapped some_
    · simp only [added,Option.some.injEq] at taken
      subst taken
      have taken_ : proxy.recipients = [] := kept.swapped some_
      have accepted : dbinderHandleBase ≤ proxy.handle ∨ answer = true := accepted.resolve_left fun more => more taken_
      have refusal : (!answer && decide (proxy.handle < dbinderHandleBase)) = false := by
        rcases accepted with foreign | rfl
        · have local_ : ¬ proxy.handle < dbinderHandleBase := UInt32.not_lt.mpr foreign
          simp [local_]
        · rfl
      have gone : (proxy.obituaries.all fun obituary => !isDying obituary) = true := by
        simpa [met,alive,refusal] using listened
      obtain ⟨place,others,split⟩ := List.exists_cons_of_ne_nil some_
      have member : place ∈ proxy.obituaries := by
        have here : proxy.obituaries = place :: others := split
        rw [here]
        exact List.mem_cons_self
      have dead := sound.dead place member (by simpa using List.all_eq_true.mp gone place member)
      rw [alive] at dead
      cases dead
  | removeDeathRecipient recipient answer =>
    simp only [fires,Proxy.step] at taken
    rcases remove_spec proxy recipient answer with refused | ⟨info,result,found,erased,-⟩
    · simp only [refused,Option.some.injEq] at taken
      subst taken
      exact kept.swapped some_
    · have empty : proxy.recipients.eraseP (fun info => decide (some info.recipient = recipient)) = [] ∨ proxy.obituaries = [] := by
        by_cases none_ : proxy.obituaries = []
        · exact .inr none_
        · rw [kept.swapped none_]
          exact .inl rfl
      cases result with
      | true =>
        simp only [erased,Option.some.injEq] at taken
        subst taken
        exact empty.resolve_right some_
      | false =>
        simp only [erased,Option.some.injEq] at taken
        subst taken
        exact empty.resolve_right some_
  | sendObituary =>
    simp only [fires,Proxy.step,Option.some.injEq] at taken
    subst taken
    rfl
  | obituary obituary dlclosed =>
    have earlier : proxy.obituaries ≠ [] := by
      intro none_
      simp only [fires,Proxy.step,Proxy.stepObituary,none_,List.getElem?_nil] at taken
      cases taken
    have before := kept.swapped earlier
    simp only [fires,Proxy.step,Proxy.stepObituary] at taken
    split at taken
    · cases taken
    · cases taken
    · cases taken
      exact before
    · cases taken
      exact before
    · cases taken
      exact before
    · split at taken
      · cases taken
        exact before
      · cases taken
        exact before

theorem step_kept (sound : Sound proxy) (kept : Kept proxy) (listened : met proxy event = true) (taken : fires Proxy.step proxy event next) :
    Kept next := by
  refine ⟨?_,step_swapped sound kept listened taken,?_⟩
  · intro info
    have moved := (step_moves taken).kept listened info
    have before := kept.counted info
    omega
  · intro completed place member
    rcases step_obituaries taken with ⟨same,-⟩ | ⟨added,-,-⟩ | ⟨index,before,after,at_,set,-,-,-,-,fewer,last⟩
    · rw [same] at completed member
      exact kept.reported completed place member
    · rw [added,List.mem_append,List.mem_singleton] at completed member
      have earlier : Obituary.completed ∈ proxy.obituaries := by
        rcases completed with old | same
        · exact old
        · cases same
      rcases member with old | rfl
      · exact kept.reported earlier place old
      · exact kept.swapped (List.ne_nil_of_mem earlier)
    · rw [set] at completed member
      have all : ∀ other ∈ proxy.obituaries, leftOf other = [] := by
        rcases List.mem_or_eq_of_mem_set completed with old | same
        · exact kept.reported old
        · exact last same.symm listened
      rcases List.mem_or_eq_of_mem_set member with old | rfl
      · exact all place old
      · exact fewer (all before (List.mem_of_getElem? at_))

end Runs

/-- No registration is notified twice, and none that did not succeed. -/
def NotifiedOnce (proxy : Proxy) : Prop :=
  (∀ info, proxy.notified.count info ≤ 1) ∧ ∀ info ∈ proxy.notified, info ∈ proxy.registered

def SilentAfterRemoval (proxy : Proxy) : Prop := ∀ info ∈ proxy.removed, info ∉ proxy.notified

/-- After a `SendObituary` has completed, what is registered and not removed has been notified. -/
def AllNotified (proxy : Proxy) : Prop :=
  Obituary.completed ∈ proxy.obituaries → ∀ info ∈ proxy.registered, info ∉ proxy.removed → info ∈ proxy.notified

section Results
variable {proxy : Proxy}

theorem Sound.notifiedOnce (sound : Sound proxy) : NotifiedOnce proxy := by
  have counted : ∀ info, proxy.notified.count info ≤ proxy.registered.count info := by
    intro info
    have all := sound.counted info
    rw [count_known] at all
    omega
  refine ⟨?_,?_⟩
  · intro info
    exact Nat.le_trans (counted info) (List.nodup_iff_count_le_one.mp sound.distinct info)
  · intro info member
    exact List.count_pos_iff.mp (Nat.lt_of_lt_of_le (List.count_pos_iff.mpr member) (counted info))

theorem Sound.silentAfterRemoval (sound : Sound proxy) : SilentAfterRemoval proxy := by
  intro info removed notified
  have all := sound.counted info
  have once := List.nodup_iff_count_le_one.mp sound.distinct info
  have first := List.count_pos_iff.mpr removed
  have second := List.count_pos_iff.mpr notified
  rw [count_known] at all
  omega

theorem Kept.allNotified (kept : Kept proxy) : AllNotified proxy := by
  intro completed info registered unremoved
  have all := kept.counted info
  have present := List.count_pos_iff.mpr registered
  have absent := List.count_eq_zero.mpr unremoved
  have recipients := kept.swapped (List.ne_nil_of_mem completed)
  have left : proxy.obituaries.flatMap leftOf = [] := List.flatMap_eq_nil_iff.mpr (kept.reported completed)
  rw [count_known,recipients,left,absent] at all
  simp only [List.map_nil,List.count_nil,Nat.zero_add] at all
  rw [← all] at present
  exact List.count_pos_iff.mp present

end Results

theorem met_recipients_notified {handle : UInt32} {refreshRecipients : Nat} {events : List Event} {proxy : Proxy}
    (run : Reaches (guarded (fires Proxy.step) (fun proxy event => met proxy event = true)) (Proxy.new handle refreshRecipients)
      events proxy) : NotifiedOnce proxy ∧ SilentAfterRemoval proxy ∧ AllNotified proxy := by
  have facts := run.invariant (fun proxy => Sound proxy ∧ Kept proxy) ⟨sound_new _ _,kept_new _ _⟩
    (fun _ _ _ before taken => ⟨step_sound before.1 taken.2,step_kept before.1 before.2 taken.1 taken.2⟩)
  exact ⟨facts.1.notifiedOnce,facts.1.silentAfterRemoval,facts.2.allNotified⟩

/-- Three registrations of two recipients, one of them taken back. -/
def metObituary : List Event :=
  List.flatten [[.addDeathRecipient (some 5) true true,.addDeathRecipient (some 6) true true,.addDeathRecipient (some 5) true true,
    .removeDeathRecipient (some 5) true,.sendObituary],List.replicate 5 (.obituary 0 false)]

theorem met_recipients_notified_two :
    ∃ proxy, Reaches (guarded (fires Proxy.step) (fun proxy event => met proxy event = true)) (Proxy.new 9 0) metObituary proxy ∧
      (proxy.obituaries = [.completed] ∧ proxy.registered = [0,1,2] ∧ proxy.removed = [0] ∧ proxy.notified = [1,2]) ∧
      NotifiedOnce proxy ∧ SilentAfterRemoval proxy ∧ AllNotified proxy := by
  obtain ⟨proxy,run,reached⟩ := Reaches.exists_of_foldlM_guarded Proxy.step (fun proxy event => met proxy event = true) (Proxy.new 9 0)
    metObituary (fun proxy => decide (proxy.obituaries = [.completed] ∧ proxy.registered = [0,1,2] ∧ proxy.removed = [0] ∧
      proxy.notified = [1,2])) (by decide)
  exact ⟨proxy,run,of_decide_eq_true reached,met_recipients_notified run⟩

/-- A recipient is added between the swap and the mark. -/
def addedBetween : List Event :=
  List.flatten [[.sendObituary,.addDeathRecipient (some 5) true true],List.replicate 3 (.obituary 0 false)]

theorem added_between_not_notified :
    ∃ proxy, Reaches (fires Proxy.step) (Proxy.new 9 0) addedBetween proxy ∧
      (proxy.obituaries = [.completed] ∧ proxy.registered = [0] ∧ proxy.removed = [] ∧ proxy.notified = []) ∧ ¬ AllNotified proxy := by
  obtain ⟨proxy,run,reached⟩ := Reaches.exists_of_foldlM Proxy.step (Proxy.new 9 0) addedBetween
    (fun proxy => decide (proxy.obituaries = [.completed] ∧ proxy.registered = [0] ∧ proxy.removed = [] ∧ proxy.notified = []))
    (by decide)
  obtain ⟨completed,registered,removed,notified⟩ := of_decide_eq_true reached
  refine ⟨proxy,run,⟨completed,registered,removed,notified⟩,?_⟩
  intro all
  rw [AllNotified,completed,registered,removed,notified] at all
  exact List.not_mem_nil (all (List.mem_singleton.mpr rfl) 0 (List.mem_singleton.mpr rfl) List.not_mem_nil)

end CommunicationIpc.ProxyDeathRecipients
