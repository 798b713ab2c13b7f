import ChatPlan.Classifier.Basic
import ChatPlan.Proofs.Classifier.Dialog
import ChatPlan.Proofs.Turns

/-
How a lane ends. Its tests are run in turn, the ones that need nothing from outside before the
patterns, and a lane fails or breaks where the first test does not pass; only behind the last test
is its hook called. That is the relation `Lane.Ends`: for a classifier without a limit for the text
every lane ends in one of its ways (`exists_ends`), and running the lane gives what that way says
(`run_runLane_of_ends`).
-/
namespace ChatPlan

open Json

variable {o : Outside} {c : Classifier} {vars : Members Json} {l : Lane} {s s' : Session}

/-! ## Tests -/

/-- A test of a lane in front of its hook. -/
inductive Test where
  | phrase (t : PhraseTest)
  | rules (r : RuleSet)
  | guard (g : Guard)
  | pattern (m : Matcher)

/-- The tests of a lane, in the order in which they are run. -/
def Lane.tests (l : Lane) : List Test :=
  l.phrases.map .phrase ++ (l.rules.toList.map .rules ++
    (l.guard.toList.map .guard ++ l.matchers.map .pattern))

namespace Test

/-- What a test gives, and the session that it leaves. A field without text passes no test, and only
a pattern needs work, which may break or take too long. -/
def outcome (o : Outside) (c : Classifier) (vars : Members Json) (s : Session) :
    Test → Except Failure Bool × Session
  | .phrase t => (.ok ((fieldText? vars t.field).any (t.holds c.settings.normalizer)), s)
  | .rules r => (.ok (r.holds c.settings.normalizer vars), s)
  | .guard g => (.ok (g.holds (Json.textAt vars)), s)
  | .pattern m =>
    match fieldText? vars m.field with
    | none => (.ok false, s)
    | some text =>
      (supervised m.pattern c.matchMillis (o.work s.works)
          (m.regex.isMatch (c.settings.normalizer.applied text)),
        { s with
          works := s.works + 1
          spent := s.spent + (o.work s.works).millisWithin c.matchMillis })

/-- The test gives this. -/
def Gives (o : Outside) (c : Classifier) (vars : Members Json) (r : Except Failure Bool) (t : Test)
    (s s' : Session) : Prop :=
  t.outcome o c vars s = (r, s')

/-- Tests are run up to the first one that does not pass. -/
def runAll (o : Outside) (c : Classifier) (vars : Members Json) :
    List Test → Session → Except Failure Bool × Session
  | [], s => (.ok true, s)
  | t :: ts, s =>
    match t.outcome o c vars s with
    | (.ok true, s') => runAll o c vars ts s'
    | stop => stop

theorem runAll_cons_of_passes {t : Test} (ts : List Test)
    (ht : t.outcome o c vars s = (.ok true, s')) :
    runAll o c vars (t :: ts) s = runAll o c vars ts s' := by
  rw [runAll, ht]

theorem runAll_cons_of_stops {t : Test} {r : Except Failure Bool} (ts : List Test)
    (ht : t.outcome o c vars s = (r, s')) (hr : r ≠ .ok true) :
    runAll o c vars (t :: ts) s = (r, s') := by
  rw [runAll, ht]
  split
  · rename_i hpass
    exact absurd (Prod.mk.inj hpass).1 hr
  · rfl

/-- The tests pass if each of them does, from the session that the one before it leaves. -/
theorem runAll_eq_true_iff {ts : List Test} :
    runAll o c vars ts s = (.ok true, s') ↔ InTurn (Gives o c vars (.ok true)) ts s s' := by
  induction ts generalizing s with
  | nil => simp [runAll, InTurn]
  | cons t ts ih =>
    rcases hout : t.outcome o c vars s with ⟨r, u⟩
    by_cases hr : r = .ok true
    · subst hr
      rw [runAll_cons_of_passes ts hout, ih]
      simp [InTurn, Gives, hout]
    · rw [runAll_cons_of_stops ts hout hr]
      simp [InTurn, Gives, hout, hr]

/-- The tests give what the first one gives that does not pass. -/
theorem runAll_eq_stop_iff {ts : List Test} {r : Except Failure Bool} (hr : r ≠ .ok true) :
    runAll o c vars ts s = (r, s') ↔
      ∃ i, StopsAt (Gives o c vars (.ok true)) (Gives o c vars r) ts i s s' := by
  induction ts generalizing s with
  | nil => simp [runAll, not_stopsAt_nil, hr.symm]
  | cons t ts ih =>
    rw [exists_stopsAt_cons]
    rcases hout : t.outcome o c vars s with ⟨r', u⟩
    by_cases hr' : r' = .ok true
    · subst hr'
      rw [runAll_cons_of_passes ts hout, ih]
      simp [Gives, hout, hr.symm]
    · rw [runAll_cons_of_stops ts hout hr']
      simp [Gives, hout, hr']

theorem runAll_map_append {α : Type} {f : α → Test} {p : α → Bool}
    (hf : ∀ x s, (f x).outcome o c vars s = (.ok (p x), s)) (xs : List α) (ts : List Test)
    (s : Session) : runAll o c vars (xs.map f ++ ts) s =
      if xs.all p then runAll o c vars ts s else (.ok false, s) := by
  induction xs with
  | nil => rfl
  | cons x xs ih =>
    rw [List.map_cons, List.cons_append, List.all_cons]
    cases hp : p x with
    | true => rw [runAll_cons_of_passes _ (hp ▸ hf x s), ih, Bool.true_and]
    | false =>
      rw [runAll_cons_of_stops _ (hp ▸ hf x s) (by simp), Bool.false_and]
      rfl

end Test

/-- The tests of a lane that need nothing from outside are run first. -/
theorem runAll_tests (l : Lane) (s : Session) : Test.runAll o c vars l.tests s =
    if l.passesInside c.settings.normalizer vars
    then Test.runAll o c vars (l.matchers.map .pattern) s else (.ok false, s) := by
  have hall {α : Type} (p : α → Bool) (x : Option α) : x.toList.all p = x.all p := by
    cases x <;> simp
  rw [Lane.tests, Test.runAll_map_append fun _ _ => rfl, Test.runAll_map_append fun _ _ => rfl,
    Test.runAll_map_append fun _ _ => rfl, hall, hall, Lane.passesInside]
  -- each of the three kinds has passed or not, and the first that has not ends the run
  generalize l.phrases.all _ = phrases, l.rules.all _ = rules, l.guard.all _ = guard
  cases phrases <;> cases rules <;> cases guard <;> rfl

namespace Classifier

theorem patience_eq_none (h : c.timeout = none) : c.patience = none := by
  rw [patience, h, Option.map_none]

theorem run_runMatcher (hpatience : c.patience = none) (m : Matcher) (s : Session) :
    (c.runMatcher o vars m).run.run s =
      (((Test.pattern m).outcome o c vars s).1.mapError .failed,
        ((Test.pattern m).outcome o c vars s).2) := by
  rw [runMatcher, Test.outcome, hpatience]
  cases fieldText? vars m.field with
  | none => rfl
  | some text =>
    simp only [Dialog.run_bind, Dialog.run_nextWork, Dialog.run_wait, Dialog.run_ofExcept,
      Option.any_none, Bool.false_eq_true, ↓reduceIte]

theorem run_runMatchers (hpatience : c.patience = none) (ms : List Matcher) (s : Session) :
    (c.runMatchers o vars ms).run.run s =
      ((Test.runAll o c vars (ms.map .pattern) s).1.mapError .failed,
        (Test.runAll o c vars (ms.map .pattern) s).2) := by
  induction ms generalizing s with
  | nil => rfl
  | cons m ms ih =>
    rw [runMatchers, Dialog.run_bind, run_runMatcher hpatience, List.map_cons]
    rcases hout : (Test.pattern m).outcome o c vars s with ⟨r, u⟩
    rcases r with f | _ | _
    · rw [Test.runAll_cons_of_stops _ hout (by simp)]
      rfl
    · rw [Test.runAll_cons_of_stops _ hout (by simp)]
      rfl
    · rw [Test.runAll_cons_of_passes _ hout, ← ih]
      rfl

/-- A lane runs its tests, and calls its hook if all of them pass. -/
theorem run_runLane (hpatience : c.patience = none) (l : Lane) (s : Session) :
    (c.runLane o vars l).run.run s =
      match Test.runAll o c vars l.tests s with
      | (.ok true, u) => (c.runHook o vars l).run.run u
      | (.ok false, u) => (.ok none, u)
      | (.error f, u) => (.error (.failed f), u) := by
  rw [runLane, runAll_tests]
  cases l.passesInside c.settings.normalizer vars with
  | false => rfl
  | true =>
    simp only [Bool.not_true, Bool.false_eq_true, ↓reduceIte, Dialog.run_bind,
      run_runMatchers hpatience]
    rcases Test.runAll o c vars (l.matchers.map .pattern) s with ⟨f | _ | _, u⟩ <;> rfl

end Classifier

/-! ## Lanes -/

/-- How a lane can end. -/
inductive LaneEnd where
  | fails
  | passes (output : String) (message : Option String)
  | breaks (failure : Failure)

/-- What running a lane gives when it ends in this way. -/
def LaneEnd.result : LaneEnd → Except Stop (Option (String × Option String))
  | .fails => .ok none
  | .passes output message => .ok (some (output, message))
  | .breaks failure => .error (.failed failure)

/-- The call of the hook gives this. -/
def Hook.Gives (o : Outside) (millis : Nat) (vars : Members Json) (r : Except Failure HookAnswer)
    (h : Hook) (s s' : Session) : Prop :=
  (h.call o none millis vars).run.run s = (r.mapError .failed, s')

/-- All tests of the lane pass in turn. -/
def Lane.PassesTests (o : Outside) (c : Classifier) (vars : Members Json) (l : Lane) :
    Session → Session → Prop :=
  InTurn (Test.Gives o c vars (.ok true)) l.tests

/-- The ways in which a lane ends, with the sessions before and after it. -/
inductive Lane.Ends (o : Outside) (c : Classifier) (vars : Members Json) :
    LaneEnd → Lane → Session → Session → Prop where
  | testFails {l : Lane} {i : Nat} {s s' : Session}
      (hstop : StopsAt (Test.Gives o c vars (.ok true)) (Test.Gives o c vars (.ok false))
        l.tests i s s') : Ends o c vars .fails l s s'
  | testBreaks {l : Lane} {i : Nat} {f : Failure} {s s' : Session}
      (hstop : StopsAt (Test.Gives o c vars (.ok true)) (Test.Gives o c vars (.error f))
        l.tests i s s') : Ends o c vars (.breaks f) l s s'
  | unhooked {l : Lane} {s s' : Session} (htests : l.PassesTests o c vars s s')
      (hhook : l.hook = none) : Ends o c vars (.passes l.output none) l s s'
  | hookFails {l : Lane} {h : Hook} {a : HookAnswer} {s u s' : Session}
      (htests : l.PassesTests o c vars s u) (hhook : l.hook = some h)
      (hcall : h.Gives o c.hookMillis vars (.ok a) u s') (hvalid : a.valid = false) :
      Ends o c vars .fails l s s'
  | hookPasses {l : Lane} {h : Hook} {a : HookAnswer} {s u s' : Session}
      (htests : l.PassesTests o c vars s u) (hhook : l.hook = some h)
      (hcall : h.Gives o c.hookMillis vars (.ok a) u s') (hvalid : a.valid = true) :
      Ends o c vars
        (.passes ((a.output.filter fun s => !Text.blank s).getD l.output) a.message) l s s'
  | hookBreaks {l : Lane} {h : Hook} {f : Failure} {s u s' : Session}
      (htests : l.PassesTests o c vars s u) (hhook : l.hook = some h)
      (hcall : h.Gives o c.hookMillis vars (.error f) u s') : Ends o c vars (.breaks f) l s s'

theorem Hook.exists_gives (o : Outside) (millis : Nat) (vars : Members Json) (h : Hook)
    (s : Session) : ∃ r s', h.Gives o millis vars r s s' := by
  rcases hrun : (h.call o none millis vars).run.run s with ⟨r, s'⟩
  cases Hook.called_of_run hrun with
  | served => exact ⟨.ok _, _, hrun⟩
  | answered => exact ⟨.ok _, _, hrun⟩
  | refused hanswered =>
    rw [Hook.answered_none] at hanswered
    rcases hanswer : (h.arrival o millis vars (h.looked s)).answer h.url (h.timeout millis) with f | a
    · rw [hanswer] at hanswered
      cases hanswered
      exact ⟨.error f, _, hrun⟩
    · rw [hanswer] at hanswered
      cases hanswered

namespace Classifier

theorem run_runHook_of_none (o : Outside) (c : Classifier) (vars : Members Json) (s : Session)
    (hhook : l.hook = none) :
    (c.runHook o vars l).run.run s = (.ok (some (l.output, none)), s) := by
  rw [runHook, hhook]
  rfl

theorem run_runHook_of_some {h : Hook} {r : Except Failure HookAnswer}
    (hpatience : c.patience = none) (hhook : l.hook = some h)
    (hcall : h.Gives o c.hookMillis vars r s s') :
    (c.runHook o vars l).run.run s = ((r.map (judged l)).mapError .failed, s') := by
  rw [runHook, hhook, hpatience]
  dsimp only
  rw [Dialog.run_bind, hcall]
  cases r <;> rfl

/-- A lane is run as it ends. -/
theorem run_runLane_of_ends {e : LaneEnd} (hpatience : c.patience = none)
    (h : l.Ends o c vars e s s') : (c.runLane o vars l).run.run s = (e.result, s') := by
  rw [run_runLane hpatience]
  cases h with
  | testFails hstop =>
    rw [(Test.runAll_eq_stop_iff (by simp)).2 ⟨_, hstop⟩]
    rfl
  | testBreaks hstop =>
    rw [(Test.runAll_eq_stop_iff (by simp)).2 ⟨_, hstop⟩]
    rfl
  | unhooked htests hhook =>
    rw [Test.runAll_eq_true_iff.2 htests]
    exact run_runHook_of_none o c vars s' hhook
  | hookFails htests hhook hcall hvalid =>
    rw [Test.runAll_eq_true_iff.2 htests]
    dsimp only
    rw [run_runHook_of_some hpatience hhook hcall]
    simp [Except.map, Except.mapError, judged, hvalid, LaneEnd.result]
  | hookPasses htests hhook hcall hvalid =>
    rw [Test.runAll_eq_true_iff.2 htests]
    dsimp only
    rw [run_runHook_of_some hpatience hhook hcall]
    simp [Except.map, Except.mapError, judged, hvalid, LaneEnd.result]
  | hookBreaks htests hhook hcall =>
    rw [Test.runAll_eq_true_iff.2 htests]
    dsimp only
    rw [run_runHook_of_some hpatience hhook hcall]
    rfl

/-- Every lane ends in one of these ways. -/
theorem exists_ends (o : Outside) (c : Classifier) (vars : Members Json) (l : Lane) (s : Session) :
    ∃ e s', l.Ends o c vars e s s' := by
  rcases hrun : Test.runAll o c vars l.tests s with ⟨f | _ | _, u⟩
  · obtain ⟨i, hstop⟩ := (Test.runAll_eq_stop_iff (by simp)).1 hrun
    exact ⟨.breaks f, u, .testBreaks hstop⟩
  · obtain ⟨i, hstop⟩ := (Test.runAll_eq_stop_iff (by simp)).1 hrun
    exact ⟨.fails, u, .testFails hstop⟩
  · have htests : l.PassesTests o c vars s u := Test.runAll_eq_true_iff.1 hrun
    cases hhook : l.hook with
    | none => exact ⟨_, u, .unhooked htests hhook⟩
    | some h =>
      obtain ⟨r, s', hcall⟩ := h.exists_gives o c.hookMillis vars u
      cases r with
      | error f => exact ⟨_, s', .hookBreaks htests hhook hcall⟩
      | ok a =>
        cases hvalid : a.valid with
        | true => exact ⟨_, s', .hookPasses htests hhook hcall hvalid⟩
        | false => exact ⟨_, s', .hookFails htests hhook hcall hvalid⟩

end Classifier

/-! ## Hooks -/

/-- What hooks have left in a session. -/
def Session.hookSide (s : Session) : HookCache × List HookRequest × Nat :=
  (s.cache, s.sent, s.readings)

theorem Test.Gives.hookSide {t : Test} {r : Except Failure Bool}
    (h : t.Gives o c vars r s s') : s'.hookSide = s.hookSide := by
  cases t with
  | phrase t | rules r | guard g =>
    obtain ⟨-, rfl⟩ := Prod.mk.inj h
    rfl
  | pattern m =>
    rw [Test.Gives, Test.outcome] at h
    cases hfield : fieldText? vars m.field with
    | none =>
      rw [hfield] at h
      obtain ⟨-, rfl⟩ := Prod.mk.inj h
      rfl
    | some text =>
      rw [hfield] at h
      obtain ⟨-, rfl⟩ := Prod.mk.inj h
      rfl

theorem Lane.PassesTests.hookSide (h : l.PassesTests o c vars s s') :
    s'.hookSide = s.hookSide :=
  InTurn.keeps (fun _ _ _ ht => ht.hookSide) h

/-- A lane calls no hook, or it calls its own one time, when all its tests have passed. -/
theorem Lane.Ends.calls {e : LaneEnd} (h : l.Ends o c vars e s s') :
    s'.hookSide = s.hookSide ∨
      ∃ hook u r, l.hook = some hook ∧ l.PassesTests o c vars s u ∧
        hook.Gives o c.hookMillis vars r u s' := by
  cases h with
  | testFails hstop | testBreaks hstop =>
    exact .inl (hstop.keeps (fun _ _ _ ht => ht.hookSide) fun _ _ _ ht => ht.hookSide)
  | unhooked htests => exact .inl htests.hookSide
  | hookFails htests hhook hcall | hookPasses htests hhook hcall | hookBreaks htests hhook hcall =>
    exact .inr ⟨_, _, _, hhook, htests, hcall⟩

/-- What the hook of a lane is asked, if the lane has one. -/
def Lane.request? (c : Classifier) (vars : Members Json) (l : Lane) : Option HookRequest :=
  l.hook.map (·.request c.hookMillis vars)

theorem Lane.Ends.sends {e : LaneEnd} (h : l.Ends o c vars e s s') :
    ∃ asked, s'.sent = s.sent ++ asked ∧ asked.Sublist (l.request? c vars).toList := by
  rcases h.calls with hside | ⟨hook, u, r, hhook, htests, hcall⟩
  · have hsent : s'.sent = s.sent := congrArg (·.2.1) hside
    exact ⟨[], by simp [hsent], List.nil_sublist _⟩
  · have hu : u.sent = s.sent := congrArg (·.2.1) htests.hookSide
    have hrequest : (l.request? c vars).toList = [hook.request c.hookMillis vars] := by
      simp [Lane.request?, hhook]
    rw [hrequest, ← hu]
    rcases (Hook.called_of_run hcall).sends with hsent | hsent
    · exact ⟨[], by simp [hsent], List.nil_sublist _⟩
    · exact ⟨_, hsent, List.Sublist.refl _⟩

end ChatPlan
