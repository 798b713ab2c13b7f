import ChatPlan.Proofs.Classifier.Cache
import Mathlib.Order.Monotone.Defs
import Mathlib.Order.Nat

/-
How old an answer may be that is served again. It is kept with the time for which the hook that
received it keeps answers, and this time counts, whichever hook asks for it later
(`served_while_fresh`). So a hook that keeps answers for a short time can be served one that another
hook of the same address has kept for longer (`short_hook_is_served`).
-/
namespace ChatPlan

variable {o : Outside} {s : Session} {url : String} {a : HookAnswer} {kept : StoredAnswer}

namespace HookStep

/-- What the clock shows to the step when it is read first. -/
def firstReading (o : Outside) (step : HookStep) : Nat := o.clock step.before.readings

/-- The step is a call that gives this answer and does not reach the transport. -/
def Serves (a : HookAnswer) (step : HookStep) : Prop :=
  step.result = some (.ok a) ∧ step.after.sent = step.before.sent

end HookStep

/-- The latest step that stored something for the address stored this, and none cleared since. -/
def LastStored (o : Outside) (url : String) (kept : StoredAnswer) (steps : List HookStep) : Prop :=
  Since (fun step => step.use ≠ .clear ∧ ∀ k, ¬step.Stores o url k) (·.Stores o url kept) steps

theorem LastStored.exists_mem {steps : List HookStep} (h : LastStored o url kept steps) :
    ∃ step ∈ steps, step.Stores o url kept := by
  obtain ⟨older, step, newer, rfl, hstores, -⟩ := h
  exact ⟨step, by simp, hstores⟩

namespace Hook

/-- Looking for an answer and keeping one read the clock at most once more. -/
theorem readings_le_looked (h : Hook) : s.readings ≤ (h.looked s).readings := by
  rw [looked]
  split
  · exact Nat.le_refl _
  · exact Nat.le_succ _

theorem readings_le_stored (h : Hook) : s.readings ≤ (h.stored o a s).readings := by
  rw [stored]
  split
  · exact Nat.le_refl _
  · exact Nat.le_succ _

end Hook

namespace HookUse

/-! ## One step -/

theorem serves_iff (millis : Nat) (h : Hook) (vars : Members Json) :
    ((call millis h vars).step o s).Serves a ↔ h.cacheSeconds ≠ none ∧
      ∃ kept, Members.get? s.cache h.url = some kept ∧
        kept.isFresh (o.clock s.readings) = true ∧ kept.answer = a := by
  rw [← Hook.fresh?_eq_some_iff, HookStep.Serves, step, Hook.run_call]
  cases h.fresh? o s with
  | some b => simp
  | none => cases h.answered o none millis vars (h.looked s) <;> simp

theorem served_or_sent (millis : Nat) (h : Hook) (vars : Members Json) :
    (∃ a, ((call millis h vars).step o s).Serves a) ∨
      ((call millis h vars).step o s).after.sent = s.sent ++ [h.request millis vars] := by
  simp only [HookStep.Serves, step, Hook.run_call]
  cases h.fresh? o s with
  | some b => exact .inl ⟨b, rfl, h.looked_sent s⟩
  | none => cases h.answered o none millis vars (h.looked s) <;> simp

theorem readings_le_step (u : HookUse) : s.readings ≤ (u.step o s).after.readings := by
  cases u with
  | clear => exact Nat.le_refl _
  | call millis h vars =>
    rw [step, Hook.run_call]
    cases h.fresh? o s with
    | some b => exact h.readings_le_looked
    | none =>
      cases h.answered o none millis vars (h.looked s) with
      | error stop => exact h.readings_le_looked
      | ok b =>
        -- asking itself does not read the clock
        have hasked : (h.asked o millis vars (h.looked s)).readings = (h.looked s).readings := rfl
        calc s.readings ≤ (h.looked s).readings := h.readings_le_looked
          _ = (h.asked o millis vars (h.looked s)).readings := hasked.symm
          _ ≤ (h.stored o b (h.asked o millis vars (h.looked s))).readings := h.readings_le_stored

/-! ## Histories -/

theorem readings_le_afterAll (us : List HookUse) : s.readings ≤ (afterAll o s us).readings := by
  induction us generalizing s with
  | nil => exact Nat.le_refl _
  | cons u us ih => exact Nat.le_trans (readings_le_step u) ih

theorem readings_le_of_mem_history {us : List HookUse} {step : HookStep}
    (h : step ∈ history o s us) : step.after.readings ≤ (afterAll o s us).readings := by
  induction us generalizing s with
  | nil => cases h
  | cons u us ih =>
    rcases List.mem_cons.1 h with rfl | h
    · exact readings_le_afterAll us
    · exact ih h

theorem exists_of_history_eq {us : List HookUse} {before after : List HookStep} {step : HookStep}
    (h : history o s us = before ++ step :: after) :
    ∃ (vs : List HookUse) (u : HookUse),
      before = history o s vs ∧ step = u.step o (afterAll o s vs) := by
  induction before generalizing s us with
  | nil =>
    cases us with
    | nil => cases h
    | cons u us => exact ⟨[], u, rfl, (List.cons.inj h).1.symm⟩
  | cons first before ih =>
    cases us with
    | nil => cases h
    | cons u us =>
      obtain ⟨rfl, hrest⟩ := List.cons.inj h
      obtain ⟨vs, v, rfl, rfl⟩ := ih hrest
      exact ⟨u :: vs, v, rfl, rfl⟩

/-- What is kept for an address is what was stored for it last. -/
theorem kept_eq_lastStored (hs : s.cache = []) (us : List HookUse) :
    Members.get? (afterAll o s us).cache url = some kept ↔
      LastStored o url kept (history o s us) := by
  induction us using List.reverseRecOn with
  | nil => simp [afterAll, hs, history, LastStored, not_since_nil]
  | append_singleton us u ih =>
    rw [afterAll_concat, history_concat, LastStored, since_concat, stored_step, ih, LastStored]

/-- On a clock that never runs backwards, what a history stores is stored before any later
reading. -/
theorem storedAt_le (hclock : Monotone o.clock) {us : List HookUse} {step : HookStep}
    (hstep : step ∈ history o s us) (hstores : step.Stores o url kept) :
    kept.storedAt ≤ o.clock (afterAll o s us).readings := by
  obtain ⟨h, -, -, -, hat⟩ := hstores
  rw [hat, HookStep.lastReading]
  apply hclock
  exact Nat.le_trans (Nat.sub_le _ _) (readings_le_of_mem_history hstep)

/-- Over any history that starts with nothing kept, on a clock that never runs backwards. A call is
served an answer if its hook keeps answers and the one that was stored last for its address since
the last clear is still younger than the time it was stored for; every other call reaches the
transport. Where no answer was stored for the address for longer than the calling hook keeps its
answers, no served answer is as old as that, and so a hook that keeps its answers for no time is
served none. -/
theorem served_while_fresh (hclock : Monotone o.clock) (hs : s.cache = []) {us : List HookUse}
    {before after : List HookStep} {step : HookStep}
    (hstep : history o s us = before ++ step :: after) {millis : Nat} {h : Hook}
    {vars : Members Json} (huse : step.use = .call millis h vars) :
    (∀ a, step.Serves a ↔ h.cacheSeconds ≠ none ∧ ∃ kept, LastStored o h.url kept before ∧
      kept.storedAt ≤ step.firstReading o ∧
        step.firstReading o - kept.storedAt < 1000 * kept.seconds ∧ kept.answer = a) ∧
    ((¬∃ a, step.Serves a) → step.after.sent = step.before.sent ++ [h.request millis vars]) ∧
    ∀ t, h.cacheSeconds = some t →
      (∀ x ∈ before, ∀ kept, x.Stores o h.url kept → kept.seconds ≤ t) →
        (∀ a, step.Serves a → ∃ kept, LastStored o h.url kept before ∧
          kept.storedAt ≤ step.firstReading o ∧
            step.firstReading o - kept.storedAt < 1000 * t ∧ kept.answer = a) ∧
        (t = 0 → step.after.sent = step.before.sent ++ [h.request millis vars]) := by
  obtain ⟨vs, u, rfl, rfl⟩ := exists_of_history_eq hstep
  cases u with
  | clear => cases huse
  | call millis h vars =>
    cases huse
    have hserved (a : HookAnswer) :
        ((call millis h vars).step o (afterAll o s vs)).Serves a ↔ h.cacheSeconds ≠ none ∧
          ∃ kept, LastStored o h.url kept (history o s vs) ∧
            kept.storedAt ≤ o.clock (afterAll o s vs).readings ∧
              o.clock (afterAll o s vs).readings - kept.storedAt < 1000 * kept.seconds ∧
                kept.answer = a := by
      simp only [serves_iff, kept_eq_lastStored hs, StoredAnswer.isFresh, decide_eq_true_eq]
      refine and_congr_right fun _ => exists_congr fun kept => and_congr_right fun hlast => ?_
      obtain ⟨x, hx, hstores⟩ := hlast.exists_mem
      exact (and_iff_right (storedAt_le hclock hx hstores)).symm
    have hsent := (served_or_sent (o := o) (s := afterAll o s vs) millis h vars).resolve_left
    refine ⟨hserved, hsent, fun t ht hshort => ?_⟩
    have hyoung (a : HookAnswer)
        (ha : ((call millis h vars).step o (afterAll o s vs)).Serves a) :
        ∃ kept, LastStored o h.url kept (history o s vs) ∧
          kept.storedAt ≤ o.clock (afterAll o s vs).readings ∧
            o.clock (afterAll o s vs).readings - kept.storedAt < 1000 * t ∧ kept.answer = a := by
      obtain ⟨-, kept, hlast, hat, hage, ha⟩ := (hserved a).1 ha
      obtain ⟨x, hx, hstores⟩ := hlast.exists_mem
      have hseconds : kept.seconds ≤ t := hshort x hx kept hstores
      exact ⟨kept, hlast, hat, by omega, ha⟩
    refine ⟨hyoung, fun hzero => hsent ?_⟩
    rintro ⟨a, ha⟩
    obtain ⟨kept, -, -, hage, -⟩ := hyoung a ha
    omega

/-- The first call of a hook that keeps answers for a minute. -/
def firstCall : HookStep := (call 5000 (minuteHook "a") []).step oneAnswer {}

/-- The same call again. -/
def secondCall : HookStep := (call 5000 (minuteHook "a") []).step oneAnswer firstCall.after

/-- A hook at the same address that keeps answers for no time. -/
def shortHook : Hook := { minuteHook "a" with cacheSeconds := some 0 }

theorem kept_firstCall : Members.get? firstCall.after.cache "a" =
    some ⟨⟨true, none, some "vip"⟩, 1, 60⟩ := by
  decide +kernel

theorem clock_after_firstCall : oneAnswer.clock firstCall.after.readings = 2 := by
  decide +kernel

/-- What is kept for a minute is served to every call that follows at once and keeps answers. -/
theorem serves_firstCall (h : Hook) (hurl : h.url = "a") (hkeeps : h.cacheSeconds ≠ none) :
    ((call 5000 h []).step oneAnswer firstCall.after).Serves ⟨true, none, some "vip"⟩ := by
  rw [serves_iff, hurl, clock_after_firstCall]
  exact ⟨hkeeps, _, kept_firstCall, by decide, rfl⟩

theorem secondCall_served :
    Monotone oneAnswer.clock ∧ ({} : Session).cache = [] ∧
      history oneAnswer {} [.call 5000 (minuteHook "a") [], .call 5000 (minuteHook "a") []] =
        [firstCall] ++ secondCall :: [] ∧
      secondCall.use = .call 5000 (minuteHook "a") [] ∧
      ∃ kept, LastStored oneAnswer "a" kept [firstCall] ∧
        secondCall.firstReading oneAnswer - kept.storedAt < 1000 * 60 ∧
          kept.answer = ⟨true, none, some "vip"⟩ := by
  have hclock : Monotone oneAnswer.clock := monotone_id
  have hempty : ({} : Session).cache = [] := rfl
  have hsteps : history oneAnswer {}
      [.call 5000 (minuteHook "a") [], .call 5000 (minuteHook "a") []] =
        [firstCall] ++ secondCall :: [] := rfl
  have huse : secondCall.use = .call 5000 (minuteHook "a") [] := rfl
  have hminute : ∀ x ∈ [firstCall], ∀ kept, x.Stores oneAnswer "a" kept → kept.seconds ≤ 60 := by
    intro x hx kept hstores
    rw [List.mem_singleton.1 hx, firstCall, stores_call_iff] at hstores
    obtain ⟨-, hseconds, -⟩ := hstores
    exact Nat.le_of_eq (Option.some.inj hseconds).symm
  obtain ⟨-, -, hyoung⟩ := served_while_fresh hclock hempty hsteps huse
  obtain ⟨kept, hlast, -, hage, hanswer⟩ :=
    (hyoung 60 rfl hminute).1 _ (serves_firstCall (minuteHook "a") rfl nofun)
  exact ⟨hclock, hempty, hsteps, huse, kept, hlast, hage, hanswer⟩

/-- The time for which the calling hook keeps answers does not bound the age of those it is
served. -/
theorem short_hook_is_served :
    ¬∀ (o : Outside) (s : Session) (us : List HookUse) (before after : List HookStep)
      (step : HookStep) (millis : Nat) (h : Hook) (vars : Members Json) (t : Nat) (a : HookAnswer),
      Monotone o.clock → s.cache = [] → history o s us = before ++ step :: after →
        step.use = .call millis h vars → h.cacheSeconds = some t → step.Serves a →
          ∃ x ∈ before, ∃ kept, x.Stores o h.url kept ∧ kept.answer = a ∧
            step.firstReading o - kept.storedAt < 1000 * t := by
  intro hyoung
  have hserved := serves_firstCall shortHook rfl nofun
  obtain ⟨_, -, _, -, -, hage⟩ := hyoung oneAnswer {}
    [.call 5000 (minuteHook "a") [], .call 5000 shortHook []] [firstCall] [] _ 5000 shortHook [] 0 _
    monotone_id rfl rfl rfl rfl hserved
  exact Nat.not_lt_zero _ hage

end HookUse

end ChatPlan
