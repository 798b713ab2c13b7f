import ChatPlan.Proofs.Classifier.Dialog
import ChatPlan.Proofs.Json.Record
import ChatPlan.Proofs.Results
import Mathlib.Data.List.Induction

/-
The answers that are kept, over a history of calls and clears. Each step that is taken is written
down with the sessions before and after it, so that the history says by itself which calls reached
the transport and what that delivered. What is kept for an address is then what the latest call that
keeps answers was delivered for it since the last clear (`cache_of_history`).
-/
namespace ChatPlan

variable {o : Outside} {s : Session} {url : String} {a : HookAnswer}

/-- What is done with the answers that are kept: a hook is called, or all of them are forgotten. -/
inductive HookUse where
  | call (millis : Nat) (hook : Hook) (vars : Members Json)
  | clear

/-- A use of hooks, with the sessions before and after it and what a call gave. -/
structure HookStep where
  use : HookUse
  before : Session
  result : Option (Except Stop HookAnswer)
  after : Session

namespace HookUse

/-- The step that the use is from this session on. -/
def step (o : Outside) (s : Session) : HookUse → HookStep
  | .call millis h vars =>
    let run := (h.call o none millis vars).run.run s
    ⟨.call millis h vars, s, some run.1, run.2⟩
  | .clear => ⟨.clear, s, none, s.clear⟩

/-- The steps of some uses, one after the other. -/
def history (o : Outside) (s : Session) : List HookUse → List HookStep
  | [] => []
  | u :: us => u.step o s :: history o (u.step o s).after us

/-- The session after some uses. -/
def afterAll (o : Outside) (s : Session) (us : List HookUse) : Session :=
  us.foldl (fun s u => (u.step o s).after) s

end HookUse

namespace HookStep

/-- The step is a call of this hook that reached the transport, which delivered this answer. -/
def Receives (o : Outside) (h : Hook) (a : HookAnswer) (step : HookStep) : Prop :=
  ∃ millis vars, step.use = .call millis h vars ∧
    step.after.sent = step.before.sent ++ [h.request millis vars] ∧
    (h.arrival o millis vars step.before).Delivers (h.timeout millis) a

/-- The step is such a call for this address, of a hook that keeps answers. -/
def Keeps (o : Outside) (url : String) (a : HookAnswer) (step : HookStep) : Prop :=
  ∃ h : Hook, h.url = url ∧ h.cacheSeconds ≠ none ∧ step.Receives o h a

/-- What the clock showed when the step read it last. -/
def lastReading (o : Outside) (step : HookStep) : Nat := o.clock (step.after.readings - 1)

/-- The step is such a call, which keeps its answer from its last reading of the clock on, for as
long as its hook keeps answers. -/
def Stores (o : Outside) (url : String) (kept : StoredAnswer) (step : HookStep) : Prop :=
  ∃ h : Hook, h.url = url ∧ h.cacheSeconds = some kept.seconds ∧ step.Receives o h kept.answer ∧
    kept.storedAt = step.lastReading o

theorem keeps_iff_stores {step : HookStep} :
    step.Keeps o url a ↔ ∃ kept, step.Stores o url kept ∧ kept.answer = a := by
  constructor
  · intro hstep
    obtain ⟨h, hurl, hkeeps, hreceives⟩ := hstep
    obtain ⟨seconds, hseconds⟩ := Option.ne_none_iff_exists'.1 hkeeps
    exact ⟨⟨a, step.lastReading o, seconds⟩, ⟨h, hurl, hseconds, hreceives, rfl⟩, rfl⟩
  · intro hstep
    obtain ⟨kept, ⟨h, hurl, hseconds, hreceives, -⟩, rfl⟩ := hstep
    exact ⟨h, hurl, by simp [hseconds], hreceives⟩

/-- A call that failed, that keeps no answers, or that did not reach the transport. -/
def IsIdle (step : HookStep) : Prop :=
  ∃ millis h vars, step.use = .call millis h vars ∧
    ((∃ stop, step.result = some (.error stop)) ∨ h.cacheSeconds = none ∨
      step.after.sent = step.before.sent)

end HookStep

/-- Some item does `P`, and all items behind it do `Q`. -/
def Since {α : Type} (Q P : α → Prop) (xs : List α) : Prop :=
  ∃ older x newer, xs = older ++ x :: newer ∧ P x ∧ ∀ y ∈ newer, Q y

theorem not_since_nil {α : Type} {Q P : α → Prop} : ¬Since Q P [] := by
  rintro ⟨older, x, newer, h, -⟩
  simp at h

theorem since_concat {α : Type} {Q P : α → Prop} {xs : List α} {x : α} :
    Since Q P (xs ++ [x]) ↔ P x ∨ Q x ∧ Since Q P xs := by
  constructor
  · intro h
    obtain ⟨older, y, newer, hxs, hy, hnewer⟩ := h
    -- `y` is the last item, or the last item stands behind it
    rcases List.eq_nil_or_concat newer with rfl | ⟨newer, z, rfl⟩
    · obtain ⟨-, hlast⟩ := List.append_inj' hxs rfl
      obtain rfl := List.singleton_inj.1 hlast
      exact .inl hy
    · have hassoc : xs ++ [x] = (older ++ y :: newer) ++ [z] := by simp [hxs]
      obtain ⟨rfl, hlast⟩ := List.append_inj' hassoc rfl
      obtain rfl := List.singleton_inj.1 hlast
      have hx : Q x := hnewer x (by simp)
      exact .inr ⟨hx, older, y, newer, rfl, hy, fun z hz => hnewer z (by simp [hz])⟩
  · intro h
    rcases h with hx | ⟨hx, older, y, newer, rfl, hy, hnewer⟩
    · exact ⟨xs, x, [], rfl, hx, by simp⟩
    · refine ⟨older, y, newer ++ [x], by simp, hy, ?_⟩
      intro z hz
      rcases List.mem_append.1 hz with hz | hz
      · exact hnewer z hz
      · rwa [List.mem_singleton.1 hz]

/-! ## One step -/

theorem Arrival.Delivers.unique {timeout : Nat} {arrival : Arrival} {b : HookAnswer}
    (ha : arrival.Delivers timeout a) (hb : arrival.Delivers timeout b) : a = b := by
  obtain ⟨-, reply, hreply, -, hparse⟩ := ha
  obtain ⟨-, reply', hreply', -, hparse'⟩ := hb
  rw [hreply] at hreply'
  obtain rfl := Except.ok.inj hreply'
  exact Option.some.inj (hparse.symm.trans hparse')

theorem Hook.answered_eq_ok_iff {millis : Nat} {h : Hook} {vars : Members Json} :
    h.answered o none millis vars s = .ok a ↔
      (h.arrival o millis vars s).Delivers (h.timeout millis) a := by
  rw [Hook.answered_none, mapError_eq_ok_iff, Arrival.answer_eq_ok_iff]

namespace HookUse

variable (millis : Nat) (h : Hook) (vars : Members Json)

/-- A call receives an answer, gives it and may keep it, or it changes nothing that is kept and
gives a kept answer or a failure. -/
theorem call_step (o : Outside) (s : Session) :
    (∃ a, ((call millis h vars).step o s).Receives o h a ∧
      ((call millis h vars).step o s).result = some (.ok a) ∧
      ((call millis h vars).step o s).after.cache = match h.cacheSeconds with
        | none => s.cache
        | some seconds =>
          Members.insert h.url ⟨a, ((call millis h vars).step o s).lastReading o, seconds⟩ s.cache) ∨
    ((∀ a, ¬((call millis h vars).step o s).Receives o h a) ∧
      ((call millis h vars).step o s).after.cache = s.cache ∧
      ((∃ stop, ((call millis h vars).step o s).result = some (.error stop)) ∨
        ∃ kept, Members.get? s.cache h.url = some kept ∧
          ((call millis h vars).step o s).result = some (.ok kept.answer))) := by
  rcases hrun : (h.call o none millis vars).run.run s with ⟨r, s'⟩
  have hstep : (call millis h vars).step o s = ⟨.call millis h vars, s, some r, s'⟩ := by
    rw [step, hrun]
  rw [hstep]
  -- a step that receives an answer is this very call
  have hreceives {b : HookAnswer}
      (hb : HookStep.Receives o h b ⟨.call millis h vars, s, some r, s'⟩) :
      s'.sent = s.sent ++ [h.request millis vars] ∧
        (h.arrival o millis vars s).Delivers (h.timeout millis) b := by
    obtain ⟨millis', vars', huse, hsent, hdelivers⟩ := hb
    cases huse
    exact ⟨hsent, hdelivers⟩
  cases Hook.called_of_run hrun with
  | @served seconds kept hkeeps hkept hfresh =>
    refine .inr ⟨fun b hb => ?_, h.looked_cache s, .inr ⟨kept, hkept, rfl⟩⟩
    -- nothing was sent, so nothing can have been received
    obtain ⟨hsent, -⟩ := hreceives hb
    simp at hsent
  | @refused stop hanswered =>
    refine .inr ⟨fun b hb => ?_, by simp, .inl ⟨stop, rfl⟩⟩
    obtain ⟨-, hdelivers⟩ := hreceives hb
    rw [← Hook.arrival_looked, ← Hook.answered_eq_ok_iff, hanswered] at hdelivers
    cases hdelivers
  | @answered a hanswered =>
    have hdelivers := Hook.answered_eq_ok_iff.1 hanswered
    rw [Hook.arrival_looked] at hdelivers
    refine .inl ⟨a, ⟨millis, vars, rfl, by simp, hdelivers⟩, rfl, ?_⟩
    dsimp only
    rw [Hook.stored_cache, Hook.asked_cache, Hook.looked_cache]
    -- the clock is read last to keep the answer, if it is kept
    cases hseconds : h.cacheSeconds with
    | none => rfl
    | some seconds => simp only [HookStep.lastReading, Hook.stored, hseconds, Nat.add_sub_cancel]

theorem receives_call_iff {h' : Hook} : ((call millis h vars).step o s).Receives o h' a ↔
    h' = h ∧ ((call millis h vars).step o s).Receives o h a := by
  constructor
  · intro hstep
    obtain ⟨millis', vars', huse, hrest⟩ := hstep
    obtain ⟨rfl, rfl, rfl⟩ := HookUse.call.inj huse
    exact ⟨rfl, millis, vars, rfl, hrest⟩
  · intro hstep
    rw [hstep.1]
    exact hstep.2

theorem stores_call_iff {kept : StoredAnswer} :
    ((call millis h vars).step o s).Stores o url kept ↔
      h.url = url ∧ h.cacheSeconds = some kept.seconds ∧
        ((call millis h vars).step o s).Receives o h kept.answer ∧
          kept.storedAt = ((call millis h vars).step o s).lastReading o := by
  constructor
  · intro hstep
    obtain ⟨h', hurl, hseconds, hreceives, hat⟩ := hstep
    obtain ⟨rfl, hreceives⟩ := (receives_call_iff millis h vars).1 hreceives
    exact ⟨hurl, hseconds, hreceives, hat⟩
  · exact fun hstep => ⟨h, hstep⟩

theorem receives_unique {b : HookAnswer}
    (ha : ((call millis h vars).step o s).Receives o h a)
    (hb : ((call millis h vars).step o s).Receives o h b) : a = b := by
  obtain ⟨_, _, huse, -, ha⟩ := ha
  obtain ⟨_, _, huse', -, hb⟩ := hb
  cases huse
  cases huse'
  exact ha.unique hb

theorem not_stores_clear {kept : StoredAnswer} : ¬(HookUse.clear.step o s).Stores o url kept := by
  rintro ⟨h, -, -, ⟨_, _, huse, -⟩, -⟩
  cases huse

/-- After a step, what is kept for an address is what the step stores for it, or what was kept
before if the step neither stores anything for it nor clears. -/
theorem stored_step (u : HookUse) {kept : StoredAnswer} :
    Members.get? (u.step o s).after.cache url = some kept ↔
      (u.step o s).Stores o url kept ∨
        ((u.step o s).use ≠ .clear ∧ ∀ k, ¬(u.step o s).Stores o url k) ∧
          Members.get? s.cache url = some kept := by
  cases u with
  | clear =>
    have hcache : (HookUse.clear.step o s).after.cache = [] := rfl
    have huse : (HookUse.clear.step o s).use = .clear := rfl
    simp [hcache, huse, not_stores_clear]
  | call millis h vars =>
    have huse : ((call millis h vars).step o s).use ≠ .clear := nofun
    rcases call_step millis h vars o s with ⟨b, hb, -, hcache⟩ | ⟨hnone, hcache, -⟩
    · -- the answer that is received is the only one that can be stored, and only for this address
      have hone (c : HookAnswer) : ((call millis h vars).step o s).Receives o h c ↔ c = b :=
        ⟨fun hc => receives_unique millis h vars hc hb, fun hc => hc ▸ hb⟩
      simp only [stores_call_iff, hone]
      rw [hcache]
      cases hseconds : h.cacheSeconds with
      | none => simp [huse]
      | some seconds =>
        by_cases hurl : h.url = url
        · subst hurl
          rw [Members.get?_insert, if_pos rfl]
          constructor
          · intro hkept
            cases hkept
            exact .inl ⟨rfl, rfl, rfl, rfl⟩
          · intro hstep
            rcases hstep with ⟨-, hkept, ha, hat⟩ | ⟨⟨-, hno⟩, -⟩
            · rw [← ha, ← hat, Option.some.inj hkept]
            · exact absurd ⟨rfl, rfl, rfl, rfl⟩ (hno ⟨b, _, seconds⟩)
        · simp [hurl, Members.get?_insert, Ne.symm hurl, huse]
    · have hno (k : StoredAnswer) : ¬((call millis h vars).step o s).Stores o url k := by
        rw [stores_call_iff]
        exact fun hk => hnone _ hk.2.2.1
      simp [hcache, hno, huse]

theorem cache_step (u : HookUse) :
    (Members.get? (u.step o s).after.cache url).map (·.answer) = some a ↔
      (u.step o s).Keeps o url a ∨
        ((u.step o s).use ≠ .clear ∧ ∀ b, ¬(u.step o s).Keeps o url b) ∧
          (Members.get? s.cache url).map (·.answer) = some a := by
  simp only [Option.map_eq_some_iff, stored_step, HookStep.keeps_iff_stores]
  constructor
  · intro h
    obtain ⟨kept, hstores | ⟨⟨huse, hno⟩, hkept⟩, ha⟩ := h
    · exact .inl ⟨kept, hstores, ha⟩
    · exact .inr ⟨⟨huse, fun b hb => hno hb.choose hb.choose_spec.1⟩, kept, hkept, ha⟩
  · intro h
    obtain ⟨kept, hstores, ha⟩ | ⟨⟨huse, hno⟩, kept, hkept, ha⟩ := h
    · exact ⟨kept, .inl hstores, ha⟩
    · exact ⟨kept, .inr ⟨⟨huse, fun k hk => hno k.answer ⟨k, hk, rfl⟩⟩, hkept⟩, ha⟩

theorem kept_step (u : HookUse) :
    (∃ kept, Members.get? (u.step o s).after.cache url = some kept) ↔
      (∃ a, (u.step o s).Keeps o url a) ∨
        (u.step o s).use ≠ .clear ∧ ∃ kept, Members.get? s.cache url = some kept := by
  have hanswer (cache : HookCache) : (∃ kept, Members.get? cache url = some kept) ↔
      ∃ a, (Members.get? cache url).map (·.answer) = some a := by
    cases Members.get? cache url <;> simp
  rw [hanswer, hanswer]
  constructor
  · intro h
    obtain ⟨a, ha⟩ := h
    rcases (cache_step u).1 ha with hkeeps | ⟨⟨huse, -⟩, hbefore⟩
    · exact .inl ⟨a, hkeeps⟩
    · exact .inr ⟨huse, a, hbefore⟩
  · intro h
    by_cases hkeeps : ∃ a, (u.step o s).Keeps o url a
    · obtain ⟨a, ha⟩ := hkeeps
      exact ⟨a, (cache_step u).2 (.inl ha)⟩
    · obtain ⟨huse, a, ha⟩ := h.resolve_left hkeeps
      exact ⟨a, (cache_step u).2 (.inr ⟨⟨huse, not_exists.1 hkeeps⟩, ha⟩)⟩

/-! ## Histories -/

theorem afterAll_concat (us : List HookUse) (u : HookUse) :
    afterAll o s (us ++ [u]) = (u.step o (afterAll o s us)).after := by
  rw [afterAll, List.foldl_append]
  rfl

theorem history_concat (us : List HookUse) (u : HookUse) :
    history o s (us ++ [u]) = history o s us ++ [u.step o (afterAll o s us)] := by
  induction us generalizing s with
  | nil => rfl
  | cons v us ih =>
    rw [List.cons_append, history, ih, history]
    rfl

theorem exists_step_of_mem_history {us : List HookUse} {step : HookStep}
    (h : step ∈ history o s us) : ∃ (u : HookUse) (s' : Session), step = u.step o s' := by
  induction us generalizing s with
  | nil => cases h
  | cons u us ih =>
    rcases List.mem_cons.1 h with rfl | h
    · exact ⟨u, s, rfl⟩
    · exact ih h

/-- What is kept for an address is what was kept by the latest call that kept something for it since
the last clear. -/
theorem cache_eq_latest (hs : s.cache = []) (us : List HookUse) :
    (Members.get? (afterAll o s us).cache url).map (·.answer) = some a ↔
      Since (fun step => step.use ≠ .clear ∧ ∀ b, ¬step.Keeps o url b) (·.Keeps o url a)
        (history o s us) := by
  induction us using List.reverseRecOn with
  | nil => simp [afterAll, hs, history, not_since_nil]
  | append_singleton us u ih => rw [afterAll_concat, history_concat, since_concat, cache_step, ih]

/-- Something is kept for an address if a call kept something for it since the last clear. -/
theorem kept_iff_since (hs : s.cache = []) (us : List HookUse) :
    (∃ kept, Members.get? (afterAll o s us).cache url = some kept) ↔
      Since (fun step => step.use ≠ .clear) (fun step => ∃ a, step.Keeps o url a)
        (history o s us) := by
  induction us using List.reverseRecOn with
  | nil => simp [afterAll, hs, history, not_since_nil]
  | append_singleton us u ih => rw [afterAll_concat, history_concat, since_concat, kept_step, ih]

theorem cache_of_isIdle (u : HookUse) (h : (u.step o s).IsIdle) :
    (u.step o s).after.cache = s.cache := by
  obtain ⟨millis, h, vars, huse, hidle⟩ := h
  cases u with
  | clear => cases huse
  | call millis' h' vars' =>
    obtain ⟨rfl, rfl, rfl⟩ := HookUse.call.inj huse
    rcases call_step millis' h' vars' o s with ⟨b, hb, hresult, hcache⟩ | ⟨-, hcache, -⟩
    · rcases hidle with ⟨stop, hstop⟩ | hnone | hsent
      · rw [hresult] at hstop
        cases hstop
      · rw [hcache, hnone]
      · obtain ⟨_, _, -, hreached, -⟩ := hb
        rw [hsent] at hreached
        simp at hreached
    · exact hcache

theorem result_of_call {millis : Nat} {h : Hook} {vars : Members Json}
    (hresult : ((call millis h vars).step o s).result = some (.ok a)) :
    ((call millis h vars).step o s).Receives o h a ∨
      ∃ kept, Members.get? s.cache h.url = some kept ∧ kept.answer = a := by
  rcases call_step millis h vars o s with ⟨b, hb, hok, -⟩ | ⟨-, -, ⟨stop, hstop⟩ | ⟨kept, hkept, hok⟩⟩
  · rw [hok] at hresult
    cases hresult
    exact .inl hb
  · rw [hstop] at hresult
    cases hresult
  · rw [hok] at hresult
    cases hresult
    exact .inr ⟨kept, hkept, rfl⟩

/-- Over any history that starts with nothing kept: something is kept for exactly the addresses for
which, since the last clear, a call that keeps answers was delivered one, and it is what the latest
such call was delivered. A call that fails, keeps no answers or does not reach the transport leaves
what is kept, and a call gives what it was delivered itself or what was kept for its address. -/
theorem cache_of_history (hs : s.cache = []) (us : List HookUse) :
    (∀ url, (∃ kept, Members.get? (afterAll o s us).cache url = some kept) ↔
      Since (fun step => step.use ≠ .clear) (fun step => ∃ a, step.Keeps o url a)
        (history o s us)) ∧
    (∀ url a, (Members.get? (afterAll o s us).cache url).map (·.answer) = some a ↔
      Since (fun step => step.use ≠ .clear ∧ ∀ b, ¬step.Keeps o url b) (·.Keeps o url a)
        (history o s us)) ∧
    ∀ step ∈ history o s us,
      (step.IsIdle → step.after.cache = step.before.cache) ∧
      ∀ millis h vars a, step.use = .call millis h vars → step.result = some (.ok a) →
        step.Receives o h a ∨
          ∃ kept, Members.get? step.before.cache h.url = some kept ∧ kept.answer = a := by
  refine ⟨fun url => kept_iff_since hs us, fun url a => cache_eq_latest hs us, ?_⟩
  intro step hstep
  obtain ⟨u, s', rfl⟩ := exists_step_of_mem_history hstep
  cases u with
  | clear => exact ⟨fun hidle => cache_of_isIdle .clear hidle, nofun⟩
  | call millis h vars =>
    refine ⟨fun hidle => cache_of_isIdle (.call millis h vars) hidle, ?_⟩
    intro millis' h' vars' a huse hresult
    cases huse
    exact result_of_call hresult

/-- An outside that accepts the first request and has no answer for later ones. -/
def oneAnswer : Outside where
  answer sent _ :=
    if sent.isEmpty then ⟨.ok ⟨200, "\x7b\"valid\": true, \"route\": \"vip\"\x7d"⟩, 3⟩
    else ⟨.ok ⟨503, "down"⟩, 3⟩
  clock n := n
  work _ := .takes 0

/-- A hook at this address that keeps answers for a minute. -/
def minuteHook (url : String) : Hook := ⟨url, "POST", [], none, some 60⟩

/-- One answer is kept, and what comes for another address is none. -/
def twoAddresses : List HookUse :=
  [.clear, .call 5000 (minuteHook "a") [], .call 5000 (minuteHook "a") [],
    .call 5000 (minuteHook "b") []]

theorem cache_of_twoAddresses :
    ({} : Session).cache = [] ∧
      (Members.get? (afterAll oneAnswer {} twoAddresses).cache "a").map (·.answer) =
        some ⟨true, none, some "vip"⟩ ∧
      Since (fun step => step.use ≠ .clear ∧ ∀ b, ¬step.Keeps oneAnswer "a" b)
        (·.Keeps oneAnswer "a" ⟨true, none, some "vip"⟩) (history oneAnswer {} twoAddresses) ∧
      ¬Since (fun step => step.use ≠ .clear) (fun step => ∃ a, step.Keeps oneAnswer "b" a)
        (history oneAnswer {} twoAddresses) := by
  have hrun := cache_of_history (o := oneAnswer) (s := {}) rfl twoAddresses
  have hkept : (Members.get? (afterAll oneAnswer {} twoAddresses).cache "a").map (·.answer) =
      some ⟨true, none, some "vip"⟩ := by decide +kernel
  refine ⟨rfl, hkept, (hrun.2.1 "a" _).1 hkept, ?_⟩
  rw [← hrun.1 "b"]
  rintro ⟨kept, hb⟩
  have hnone : Members.get? (afterAll oneAnswer {} twoAddresses).cache "b" = none := by
    decide +kernel
  rw [hnone] at hb
  cases hb

end HookUse

end ChatPlan
