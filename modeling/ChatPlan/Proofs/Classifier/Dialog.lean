import ChatPlan.Classifier.Hooks

/-
Runs of dialogs. A dialog is taken apart into its steps (`run_bind`), each step says what it gives
and which session it leaves, and a call of a hook is put together from these: a fresh answer that is
kept, or a request whose answer is kept (`Hook.run_call`).
-/
namespace ChatPlan

variable {α β : Type}

namespace Dialog

/-- The second part runs from the session that the first part leaves, unless that stops. -/
theorem run_bind (m : Dialog α) (f : α → Dialog β) (s : Session) :
    (m >>= f).run.run s = match m.run.run s with
      | (.ok a, s') => (f a).run.run s'
      | (.error stop, s') => (.error stop, s') := by
  change (m.run >>= ExceptT.bindCont f).run s = _
  rw [StateT.run_bind]
  rcases h : m.run.run s with ⟨r, s'⟩
  cases r <;> rfl

theorem run_ofExcept (r : Except Failure α) (s : Session) :
    (ofExcept r).run.run s = (r.mapError .failed, s) := by
  cases r <;> rfl

theorem run_nextWork (o : Outside) (s : Session) :
    (nextWork o).run.run s = (.ok (o.work s.works), { s with works := s.works + 1 }) := rfl

theorem run_send (o : Outside) (r : HookRequest) (s : Session) :
    (send o r).run.run s = (.ok (o.answer s.sent r), { s with sent := s.sent ++ [r] }) := rfl

theorem run_wait (patience : Option Nat) (millis : Nat) (s : Session) :
    (wait patience millis).run.run s =
      (if patience.any (· < s.spent + millis) then .error .outOfTime else .ok (),
        { s with spent := s.spent + millis }) := by
  change (if _ then _ else _ : Dialog Unit).run.run { s with spent := s.spent + millis } = _
  split <;> rfl

end Dialog

/-! ## Calls of hooks -/

/-- The answer that an arrival brings, if it comes within `timeout` milliseconds. -/
def Arrival.answer (url : String) (timeout : Nat) (a : Arrival) : Except Failure HookAnswer :=
  if timeout < a.delay then .error (.hookTimeout url timeout)
  else a.result.bind fun reply => reply.answer url

/-- A reply with status 200 comes in time, and its body holds this answer. -/
def Arrival.Delivers (timeout : Nat) (arrival : Arrival) (a : HookAnswer) : Prop :=
  arrival.delay ≤ timeout ∧ ∃ reply, arrival.result = .ok reply ∧ reply.status = 200 ∧
    HookAnswer.parse? reply.body = some a

namespace Hook

variable (o : Outside) (patience : Option Nat) (millis : Nat) (h : Hook) (vars : Members Json)
  (a : HookAnswer) (s : Session)

/-- The fresh answer that a session has for a hook that keeps answers. -/
def fresh? : Option HookAnswer :=
  if h.cacheSeconds.isNone then none
  else ((Members.get? s.cache h.url).filter (·.isFresh (o.clock s.readings))).map (·.answer)

/-- A hook that keeps answers has read the clock. -/
def looked : Session :=
  if h.cacheSeconds.isNone then s else { s with readings := s.readings + 1 }

/-- What arrives for a hook that is asked now. -/
def arrival : Arrival := o.answer s.sent (h.request millis vars)

/-- The hook has been asked. -/
def asked : Session :=
  { s with
    sent := s.sent ++ [h.request millis vars]
    spent := s.spent + min (h.arrival o millis vars s).delay (h.timeout millis) }

/-- The answer of a hook that is asked now, unless the patience ends before. -/
def answered : Except Stop HookAnswer :=
  if patience.any (· < (h.asked o millis vars s).spent) then .error .outOfTime
  else ((h.arrival o millis vars s).answer h.url (h.timeout millis)).mapError .failed

/-- A hook that keeps answers has read the clock and kept this one. -/
def stored : Session :=
  match h.cacheSeconds with
  | none => s
  | some seconds =>
    { s with
      readings := s.readings + 1
      cache := Members.insert h.url ⟨a, o.clock s.readings, seconds⟩ s.cache }

theorem run_kept? : (h.kept? o).run.run s = (.ok (h.fresh? o s), h.looked s) := by
  rw [kept?, fresh?, looked]
  split
  · rfl
  · rfl

theorem run_keep : (h.keep o a).run.run s = (.ok (), h.stored o a s) := by
  cases hs : h.cacheSeconds <;> simp only [keep, stored, hs] <;> rfl

theorem run_ask : (h.ask o patience millis vars).run.run s =
    (h.answered o patience millis vars s, h.asked o millis vars s) := by
  simp only [ask, Dialog.run_bind, Dialog.run_send, Dialog.run_wait]
  by_cases hpatience : patience.any
      (· < s.spent + min (o.answer s.sent (h.request millis vars)).delay (h.timeout millis)) = true
  · have hout : h.answered o patience millis vars s = .error .outOfTime := if_pos hpatience
    rw [hout, if_pos hpatience]
    rfl
  · have hin : h.answered o patience millis vars s =
        ((h.arrival o millis vars s).answer h.url (h.timeout millis)).mapError .failed :=
      if_neg hpatience
    rw [hin, if_neg hpatience, Arrival.answer, arrival]
    by_cases hlate : h.timeout millis < (o.answer s.sent (h.request millis vars)).delay
    · simp only [hlate, ↓reduceIte]
      rfl
    · simp only [hlate, ↓reduceIte, Dialog.run_bind, Dialog.run_ofExcept]
      cases (o.answer s.sent (h.request millis vars)).result <;> rfl

/-- A call gives the fresh answer that is kept, or asks and keeps what it is answered. -/
theorem run_call : (h.call o patience millis vars).run.run s =
    match h.fresh? o s with
    | some a => (.ok a, h.looked s)
    | none =>
      match h.answered o patience millis vars (h.looked s) with
      | .ok a => (.ok a, h.stored o a (h.asked o millis vars (h.looked s)))
      | .error stop => (.error stop, h.asked o millis vars (h.looked s)) := by
  rw [call, Dialog.run_bind, run_kept?]
  cases hfresh : h.fresh? o s with
  | some a => rfl
  | none =>
    dsimp only
    rw [Dialog.run_bind, run_ask]
    cases h.answered o patience millis vars (h.looked s) with
    | error stop => rfl
    | ok a =>
      dsimp only
      rw [Dialog.run_bind, run_keep]
      rfl

theorem answered_none : h.answered o none millis vars s =
    ((h.arrival o millis vars s).answer h.url (h.timeout millis)).mapError .failed := rfl

/-! ### What a call does -/

@[simp] theorem looked_sent : (h.looked s).sent = s.sent := by
  rw [looked]
  split <;> rfl

@[simp] theorem looked_cache : (h.looked s).cache = s.cache := by
  rw [looked]
  split <;> rfl

@[simp] theorem asked_sent :
    (h.asked o millis vars s).sent = s.sent ++ [h.request millis vars] := rfl

@[simp] theorem asked_cache : (h.asked o millis vars s).cache = s.cache := rfl

@[simp] theorem arrival_looked :
    h.arrival o millis vars (h.looked s) = h.arrival o millis vars s := by
  rw [arrival, arrival, looked_sent]

@[simp] theorem stored_sent : (h.stored o a s).sent = s.sent := by
  rw [stored]
  split <;> rfl

theorem stored_cache : (h.stored o a s).cache = match h.cacheSeconds with
    | none => s.cache
    | some seconds => Members.insert h.url ⟨a, o.clock s.readings, seconds⟩ s.cache := by
  rw [stored]
  split <;> rfl

variable {o patience millis h vars a s}

/-- The three ways in which a call can go, with what it gives and the session that it leaves. -/
inductive Called (o : Outside) (patience : Option Nat) (millis : Nat) (h : Hook)
    (vars : Members Json) (s : Session) : Except Stop HookAnswer → Session → Prop where
  | served {seconds : Nat} {kept : StoredAnswer} (hkeeps : h.cacheSeconds = some seconds)
      (hkept : Members.get? s.cache h.url = some kept)
      (hfresh : kept.isFresh (o.clock s.readings) = true) :
      Called o patience millis h vars s (.ok kept.answer) (h.looked s)
  | refused {stop : Stop} (hanswered : h.answered o patience millis vars (h.looked s) = .error stop) :
      Called o patience millis h vars s (.error stop) (h.asked o millis vars (h.looked s))
  | answered {a : HookAnswer} (hanswered : h.answered o patience millis vars (h.looked s) = .ok a) :
      Called o patience millis h vars s (.ok a) (h.stored o a (h.asked o millis vars (h.looked s)))

theorem fresh?_eq_some_iff : h.fresh? o s = some a ↔ h.cacheSeconds ≠ none ∧
    ∃ kept, Members.get? s.cache h.url = some kept ∧ kept.isFresh (o.clock s.readings) = true ∧
      kept.answer = a := by
  cases hkeeps : h.cacheSeconds with
  | none => simp [fresh?, hkeeps]
  | some seconds => simp [fresh?, hkeeps, Option.filter_eq_some_iff, and_assoc]

theorem called_of_run {r : Except Stop HookAnswer} {s' : Session}
    (hrun : (h.call o patience millis vars).run.run s = (r, s')) :
    Called o patience millis h vars s r s' := by
  rw [run_call] at hrun
  cases hfresh : h.fresh? o s with
  | some a =>
    rw [hfresh] at hrun
    obtain ⟨rfl, rfl⟩ := Prod.mk.inj hrun
    obtain ⟨hkeeps, kept, hkept, hage, rfl⟩ := fresh?_eq_some_iff.1 hfresh
    obtain ⟨seconds, hseconds⟩ := Option.ne_none_iff_exists'.1 hkeeps
    exact .served hseconds hkept hage
  | none =>
    rw [hfresh] at hrun
    cases hanswered : h.answered o patience millis vars (h.looked s) with
    | error stop =>
      rw [hanswered] at hrun
      obtain ⟨rfl, rfl⟩ := Prod.mk.inj hrun
      exact .refused hanswered
    | ok a =>
      rw [hanswered] at hrun
      obtain ⟨rfl, rfl⟩ := Prod.mk.inj hrun
      exact .answered hanswered

/-- A call sends its request one time, or nothing. -/
theorem Called.sends {r : Except Stop HookAnswer} {s' : Session}
    (hcall : Called o patience millis h vars s r s') :
    s'.sent = s.sent ∨ s'.sent = s.sent ++ [h.request millis vars] := by
  cases hcall with
  | served => exact .inl (h.looked_sent s)
  | refused | answered => exact .inr (by simp)

end Hook

theorem HookReply.answer_eq_ok_iff {url : String} {r : HookReply} {a : HookAnswer} :
    r.answer url = .ok a ↔ r.status = 200 ∧ HookAnswer.parse? r.body = some a := by
  rw [HookReply.answer]
  split
  · simp_all
  · split <;> simp_all

theorem Arrival.answer_eq_ok_iff {url : String} {timeout : Nat} {arrival : Arrival}
    {a : HookAnswer} : arrival.answer url timeout = .ok a ↔ arrival.Delivers timeout a := by
  rw [Arrival.answer, Arrival.Delivers]
  split
  · rename_i hlate
    simp [Nat.not_le.2 hlate]
  · rename_i hlate
    rw [← Nat.not_lt]
    cases arrival.result with
    | error f => simp [Except.bind]
    | ok reply => simp [Except.bind, hlate, HookReply.answer_eq_ok_iff]

end ChatPlan
