import ChatPlan.Classifier.Basic
import ChatPlan.Proofs.Classifier.Lanes
import ChatPlan.Proofs.Results

/-
The first lane that passes decides. Settings that are accepted have passed their check, and each of
their branches has become a lane with the same output, phrases, rules and hook, a guard that was
read from its text and patterns that were compiled (`ready_of_ofSettings`). A classifier that is
switched on and has no limit for the text matches where all lanes before have failed and this one
passes, is exhausted where all lanes fail, and gives the failure of the first lane that breaks;
lanes behind that place do not matter (`classify_first_match`).
-/
namespace ChatPlan

/-! ## Ready classifiers -/

variable {st : Settings} {c : Classifier} {b : Branch} {l : Lane} {index : Nat}

/-- The lane is the branch, made ready. -/
structure Lane.IsMadeOf (b : Branch) (l : Lane) : Prop where
  output : l.output = b.output
  phrases : l.phrases = b.tests.phrases
  rules : l.rules = b.tests.rules
  hook : l.hook = b.tests.hook
  guard : Option.Rel (fun text g => Guard.parse text = .ok g) b.tests.guard l.guard
  matchers : List.Forall₂ (fun (t : PatternTest) (m : Matcher) => m.field = t.field ∧
    m.pattern = t.pattern ∧ Regex.compile t.pattern t.flags = .ok m.regex)
    b.tests.patterns l.matchers

theorem rel_of_readGuard {text : Option String} {g : Option Guard}
    (h : text.mapM (Branch.readGuard index) = .ok g) :
    Option.Rel (fun text g => Guard.parse text = .ok g) text g := by
  cases text with
  | none =>
    cases h
    exact .none
  | some text =>
    rw [Option.mapM_some] at h
    obtain ⟨g, hg, rfl⟩ := map_eq_ok_iff.1 h
    exact .some (mapError_eq_ok_iff.1 hg)

theorem isMadeOf_of_lane (h : b.lane index = .ok l) : l.IsMadeOf b := by
  simp only [Branch.lane, bind_eq_ok_iff, pure_eq_ok_iff, mapM_eq_ok_iff] at h
  obtain ⟨matchers, hmatchers, guard, hguard, rfl⟩ := h
  refine ⟨rfl, rfl, rfl, rfl, rel_of_readGuard hguard, hmatchers.imp ?_⟩
  intro t m hm
  obtain ⟨regex, hregex, rfl⟩ := map_eq_ok_iff.1 hm
  exact ⟨rfl, rfl, hregex⟩

/-- What is known of a classifier that was made of settings. -/
structure Classifier.IsReady (st : Settings) (c : Classifier) : Prop where
  settings : c.settings = st
  checked : st.check = .ok ()
  timeout : st.timeoutNanos = .ok c.timeout
  lanes : List.Forall₂ Lane.IsMadeOf st.branches c.lanes

theorem ready_of_ofSettings (h : Classifier.ofSettings st = .ok c) : c.IsReady st := by
  simp only [Classifier.ofSettings, bind_eq_ok_iff, pure_eq_ok_iff, mapM_eq_ok_iff,
    mapError_eq_ok_iff] at h
  obtain ⟨_, hcheck, timeout, htimeout, lanes, hlanes, rfl⟩ := h
  refine ⟨rfl, hcheck, htimeout, ?_⟩
  have hmade : List.Forall₂ Lane.IsMadeOf (st.branches.zipIdx.map Prod.fst) lanes :=
    List.forall₂_map_left_iff.2 (hlanes.imp fun _ _ h => isMadeOf_of_lane h)
  rwa [List.zipIdx_map_fst] at hmade

theorem not_blank_of_check (h : st.check = .ok ()) (hb : b ∈ st.branches) :
    Text.blank b.output = false := by
  rw [Settings.check] at h
  split at h
  · cases h
  · rename_i hnone
    rw [List.findSome?_eq_none_iff] at hnone
    obtain ⟨i, hi⟩ := List.mem_iff_getElem?.1 hb
    have hfault : b.fault? i = none := hnone (b, i) (List.mem_zipIdx_iff_getElem?.2 hi)
    rw [Branch.fault?] at hfault
    split at hfault
    · cases hfault
    · exact Bool.eq_false_iff.2 ‹_›

end ChatPlan

namespace ChatPlan

/-! ## Lanes in turn -/

open Json

variable {o : Outside} {c : Classifier} {vars : Members Json} {l : Lane} {ls : List Lane}
  {s s' : Session} {e : LaneEnd} {i : Nat}

/-- What is decided where the lane at this place ends in this way. -/
def LaneEnd.decision (i : Nat) : LaneEnd → Except Stop (Option Decision)
  | .fails => .ok none
  | .passes output message => .ok (some (.matched i output message))
  | .breaks failure => .error (.failed failure)

namespace Classifier

theorem run_runLanes_of_inTurn (hpatience : c.patience = none)
    (h : InTurn (Lane.Ends o c vars .fails) ls s s') (index : Nat) :
    (c.runLanes o vars index ls).run.run s = (.ok none, s') := by
  induction ls generalizing s index with
  | nil =>
    obtain rfl := h
    rfl
  | cons l ls ih =>
    obtain ⟨u, hl, hls⟩ := h
    rw [runLanes, Dialog.run_bind, run_runLane_of_ends hpatience hl]
    exact ih hls (index + 1)

/-- The first lane that does not fail decides. -/
theorem run_runLanes_of_stopsAt (hpatience : c.patience = none) (he : e ≠ .fails)
    (h : StopsAt (Lane.Ends o c vars .fails) (Lane.Ends o c vars e) ls i s s') (index : Nat) :
    (c.runLanes o vars index ls).run.run s = (e.decision (index + i), s') := by
  induction ls generalizing s index i with
  | nil => exact absurd h not_stopsAt_nil
  | cons l ls ih =>
    rw [runLanes, Dialog.run_bind]
    cases i with
    | zero =>
      rw [run_runLane_of_ends hpatience (stopsAt_zero.1 h)]
      cases e with
      | fails => exact absurd rfl he
      | passes output message => rfl
      | breaks f => rfl
    | succ i =>
      obtain ⟨u, hl, hls⟩ := stopsAt_succ.1 h
      rw [run_runLane_of_ends hpatience hl]
      have hrun := ih hls (index + 1)
      rwa [Nat.add_assoc, Nat.add_comm 1 i] at hrun

/-- All lanes fail, or there is a first one that does not. -/
theorem fail_or_stop (o : Outside) (c : Classifier) (vars : Members Json) (ls : List Lane)
    (s : Session) : (∃ s', InTurn (Lane.Ends o c vars .fails) ls s s') ∨
      ∃ e i s', e ≠ .fails ∧ StopsAt (Lane.Ends o c vars .fails) (Lane.Ends o c vars e) ls i s s' := by
  have htotal (l : Lane) (s : Session) : (∃ s', l.Ends o c vars .fails s s') ∨
      ∃ s' e, e ≠ .fails ∧ l.Ends o c vars e s s' := by
    obtain ⟨e, s', hends⟩ := exists_ends o c vars l s
    by_cases he : e = .fails
    · subst he
      exact .inl ⟨s', hends⟩
    · exact .inr ⟨s', e, he, hends⟩
  refine (inTurn_or_stopsAt htotal ls s).imp_right fun hstop => ?_
  obtain ⟨i, s', l, u, hl, hturn, e, he, hends⟩ := hstop
  exact ⟨e, i, s', he, l, u, hl, hturn, hends⟩

/-! ## Decisions -/

theorem classify_of_inTurn (henabled : c.settings.enabled = true) (hpatience : c.patience = none)
    (h : InTurn (Lane.Ends o c vars .fails) c.lanes { s with spent := 0 } s') :
    c.classify o vars s = (.ok (.exhausted c.settings.defaultOutput), s') := by
  rw [classify, run_runLanes_of_inTurn hpatience h, henabled]
  rfl

theorem classify_of_passes {output : String} {message : Option String}
    (henabled : c.settings.enabled = true) (hpatience : c.patience = none)
    (h : StopsAt (Lane.Ends o c vars .fails) (Lane.Ends o c vars (.passes output message))
      c.lanes i { s with spent := 0 } s') :
    c.classify o vars s = (.ok (.matched i output message), s') := by
  rw [classify, run_runLanes_of_stopsAt hpatience (by simp) h, henabled, Nat.zero_add]
  rfl

theorem classify_of_breaks {f : Failure} (henabled : c.settings.enabled = true)
    (hpatience : c.patience = none)
    (h : StopsAt (Lane.Ends o c vars .fails) (Lane.Ends o c vars (.breaks f))
      c.lanes i { s with spent := 0 } s') :
    c.classify o vars s = (.error f, s') := by
  rw [classify, run_runLanes_of_stopsAt hpatience (by simp) h, henabled]
  rfl

/-- A classification ends in one of three ways, as its lanes do. -/
theorem classify_cases (o : Outside) (vars : Members Json) (s : Session)
    (henabled : c.settings.enabled = true) (hpatience : c.patience = none) :
    (∃ s', InTurn (Lane.Ends o c vars .fails) c.lanes { s with spent := 0 } s' ∧
      c.classify o vars s = (.ok (.exhausted c.settings.defaultOutput), s')) ∨
    (∃ i output message s', StopsAt (Lane.Ends o c vars .fails)
      (Lane.Ends o c vars (.passes output message)) c.lanes i { s with spent := 0 } s' ∧
      c.classify o vars s = (.ok (.matched i output message), s')) ∨
    ∃ i f s', StopsAt (Lane.Ends o c vars .fails) (Lane.Ends o c vars (.breaks f)) c.lanes i
      { s with spent := 0 } s' ∧ c.classify o vars s = (.error f, s') := by
  rcases fail_or_stop o c vars c.lanes { s with spent := 0 } with ⟨s', h⟩ | ⟨e, i, s', he, h⟩
  · exact .inl ⟨s', h, classify_of_inTurn henabled hpatience h⟩
  · cases e with
    | fails => exact absurd rfl he
    | passes output message =>
      exact .inr (.inl ⟨i, output, message, s', h, classify_of_passes henabled hpatience h⟩)
    | breaks f => exact .inr (.inr ⟨i, f, s', h, classify_of_breaks henabled hpatience h⟩)

/-! ## Requests -/

theorem sends_of_inTurn (h : InTurn (Lane.Ends o c vars .fails) ls s s') :
    ∃ asked, s'.sent = s.sent ++ asked ∧
      asked.Sublist (ls.filterMap (Lane.request? c vars)) := by
  induction ls generalizing s with
  | nil =>
    obtain rfl := h
    exact ⟨[], by simp, List.Sublist.refl _⟩
  | cons l ls ih =>
    obtain ⟨u, hl, hls⟩ := h
    obtain ⟨first, hfirst, hsub⟩ := hl.sends
    obtain ⟨rest, hrest, hsub'⟩ := ih hls
    have hrequests : (l :: ls).filterMap (Lane.request? c vars) =
        (l.request? c vars).toList ++ ls.filterMap (Lane.request? c vars) := by
      rw [List.filterMap_cons]
      cases l.request? c vars <;> rfl
    refine ⟨first ++ rest, by rw [hrest, hfirst, List.append_assoc], ?_⟩
    rw [hrequests]
    exact hsub.append hsub'

theorem sends_of_stopsAt
    (h : StopsAt (Lane.Ends o c vars .fails) (Lane.Ends o c vars e) ls i s s') :
    ∃ asked, s'.sent = s.sent ++ asked ∧
      asked.Sublist (ls.filterMap (Lane.request? c vars)) := by
  obtain ⟨l, u, hl, hturn, hends⟩ := h
  obtain ⟨first, hfirst, hsub⟩ := sends_of_inTurn hturn
  obtain ⟨last, hlast, hsub'⟩ := hends.sends
  -- the lanes that were run are the first ones of all
  have hvisited : (ls.take i ++ [l]).Sublist ls := by
    have htake : ls.take (i + 1) = ls.take i ++ [l] := by
      rw [List.take_add_one, hl]
      rfl
    rw [← htake]
    exact List.take_sublist (i + 1) ls
  have hrequests : (ls.take i ++ [l]).filterMap (Lane.request? c vars) =
      (ls.take i).filterMap (Lane.request? c vars) ++ (l.request? c vars).toList := by
    rw [List.filterMap_append]
    cases hrequest : l.request? c vars <;> simp [hrequest]
  refine ⟨first ++ last, by rw [hlast, hfirst, List.append_assoc], ?_⟩
  have hall := hvisited.filterMap (Lane.request? c vars)
  rw [hrequests] at hall
  exact (hsub.append hsub').trans hall

/-- A classification sends the request of each lane's hook one time at most, in the order of the
lanes. -/
theorem sends_of_classify (o : Outside) (vars : Members Json) (s : Session)
    (henabled : c.settings.enabled = true) (hpatience : c.patience = none) :
    ∃ asked, (c.classify o vars s).2.sent = s.sent ++ asked ∧
      asked.Sublist (c.lanes.filterMap (Lane.request? c vars)) := by
  rcases classify_cases o vars s henabled hpatience with
    ⟨s', h, hrun⟩ | ⟨i, output, message, s', h, hrun⟩ | ⟨i, f, s', h, hrun⟩
  · rw [hrun]
    exact sends_of_inTurn (s := { s with spent := 0 }) h
  · rw [hrun]
    exact sends_of_stopsAt (s := { s with spent := 0 }) h
  · rw [hrun]
    exact sends_of_stopsAt (s := { s with spent := 0 }) h

/-! ## First match -/

/-- How a lane ends does not depend on the other lanes of the classifier. -/
theorem ends_of_lanes (h : l.Ends o c vars e s s') (ls : List Lane) :
    l.Ends o { c with lanes := ls } vars e s s' := by
  cases h with
  | testFails hstop => exact .testFails hstop
  | testBreaks hstop => exact .testBreaks hstop
  | unhooked htests hhook => exact .unhooked htests hhook
  | hookFails htests hhook hcall hvalid => exact .hookFails htests hhook hcall hvalid
  | hookPasses htests hhook hcall hvalid => exact .hookPasses htests hhook hcall hvalid
  | hookBreaks htests hhook hcall => exact .hookBreaks htests hhook hcall

theorem classify_take_append (henabled : c.settings.enabled = true) (hpatience : c.patience = none)
    (he : e ≠ .fails)
    (h : StopsAt (Lane.Ends o c vars .fails) (Lane.Ends o c vars e) c.lanes i
      { s with spent := 0 } s') (rest : List Lane) :
    { c with lanes := c.lanes.take (i + 1) ++ rest }.classify o vars s = c.classify o vars s := by
  have hrest := (h.take_append rest).imp (fun _ _ _ hl => ends_of_lanes hl (c.lanes.take (i + 1) ++ rest))
    fun _ _ _ hl => ends_of_lanes hl (c.lanes.take (i + 1) ++ rest)
  cases e with
  | fails => exact absurd rfl he
  | passes output message =>
    rw [classify_of_passes henabled hpatience h]
    exact classify_of_passes henabled hpatience hrest
  | breaks f =>
    rw [classify_of_breaks henabled hpatience h]
    exact classify_of_breaks henabled hpatience hrest

/-- How the first lane that does not fail decides the classification of a bag of variables. -/
structure FirstMatch (o : Outside) (st : Settings) (c : Classifier) (vars : Members Json)
    (s : Session) : Prop where
  /-- The lanes are the branches of the settings. -/
  lanes : List.Forall₂ Lane.IsMadeOf st.branches c.lanes
  /-- A lane is matched if it passes and all lanes before have failed. -/
  matched : ∀ i output message s',
    c.classify o vars s = (.ok (.matched i output message), s') ↔
      StopsAt (Lane.Ends o c vars .fails) (Lane.Ends o c vars (.passes output message)) c.lanes i
        { s with spent := 0 } s'
  /-- The default output is given if all lanes fail. -/
  exhausted : ∀ output s', c.classify o vars s = (.ok (.exhausted output), s') ↔
    output = st.defaultOutput ∧
      InTurn (Lane.Ends o c vars .fails) c.lanes { s with spent := 0 } s'
  /-- A failure is given if a lane breaks with it and all lanes before have failed. -/
  broken : ∀ f s', c.classify o vars s = (.error f, s') ↔
    ∃ i, StopsAt (Lane.Ends o c vars .fails) (Lane.Ends o c vars (.breaks f)) c.lanes i
      { s with spent := 0 } s'
  /-- There is no other way to end. -/
  decided : (∃ i output message, (c.classify o vars s).1 = .ok (.matched i output message)) ∨
    (∃ output, (c.classify o vars s).1 = .ok (.exhausted output)) ∨
    ∃ f, (c.classify o vars s).1 = .error f
  /-- A match gives the output of its branch, unless the hook asks for one that is not blank, and
  so its output is not blank. -/
  output : ∀ i output message s', c.classify o vars s = (.ok (.matched i output message), s') →
    Text.blank output = false ∧ ∃ b, st.branches[i]? = some b ∧
      (b.tests.hook = none ∧ output = b.output ∨
        ∃ hook a u, b.tests.hook = some hook ∧ hook.Gives o c.hookMillis vars (.ok a) u s' ∧
          a.valid = true ∧ output = (a.output.filter fun s => !Text.blank s).getD b.output)
  /-- Lanes behind the one that decides are not run: with any others there, all is the same. -/
  later : ∀ i e s', e ≠ .fails →
    StopsAt (Lane.Ends o c vars .fails) (Lane.Ends o c vars e) c.lanes i { s with spent := 0 } s' →
    ∀ rest, { c with lanes := c.lanes.take (i + 1) ++ rest }.classify o vars s =
      c.classify o vars s
  /-- A lane calls no hook, or its own one time when all its tests have passed. -/
  calls : ∀ (e : LaneEnd) (l : Lane) (s₁ s₂ : Session), l.Ends o c vars e s₁ s₂ →
    s₂.hookSide = s₁.hookSide ∨
    ∃ hook u r, l.hook = some hook ∧ l.PassesTests o c vars s₁ u ∧
      hook.Gives o c.hookMillis vars r u s₂
  /-- The request of each lane's hook is sent one time at most. -/
  requests : ∃ asked, (c.classify o vars s).2.sent = s.sent ++ asked ∧
    asked.Sublist (c.lanes.filterMap (Lane.request? c vars))

/-- The output of a lane that passes is that of its branch, or one that its hook asks for. -/
theorem output_of_passes {b : Branch} {output : String} {message : Option String}
    (hmade : l.IsMadeOf b) (hblank : Text.blank b.output = false)
    (h : l.Ends o c vars (.passes output message) s s') :
    Text.blank output = false ∧ (b.tests.hook = none ∧ output = b.output ∨
      ∃ hook a u, b.tests.hook = some hook ∧ hook.Gives o c.hookMillis vars (.ok a) u s' ∧
        a.valid = true ∧ output = (a.output.filter fun s => !Text.blank s).getD b.output) := by
  cases h with
  | unhooked htests hhook =>
    rw [hmade.output]
    exact ⟨hblank, .inl ⟨hmade.hook ▸ hhook, rfl⟩⟩
  | @hookPasses _ hook a _ u _ htests hhook hcall hvalid =>
    rw [hmade.output]
    refine ⟨?_, .inr ⟨hook, a, u, hmade.hook ▸ hhook, hcall, hvalid, rfl⟩⟩
    cases hout : a.output.filter fun s => !Text.blank s with
    | none => exact hblank
    | some out => simpa using (Option.filter_eq_some_iff.1 hout).2

/-- Each way in which a classification can end says how its lanes have ended. -/
theorem classify_eq_matched_iff {output : String} {message : Option String}
    (henabled : c.settings.enabled = true) (hpatience : c.patience = none) :
    c.classify o vars s = (.ok (.matched i output message), s') ↔
      StopsAt (Lane.Ends o c vars .fails) (Lane.Ends o c vars (.passes output message)) c.lanes i
        { s with spent := 0 } s' := by
  constructor
  · intro hrun
    rcases classify_cases o vars s henabled hpatience with
      ⟨u, -, h⟩ | ⟨j, out, msg, u, hstop, h⟩ | ⟨j, f, u, -, h⟩
    all_goals
      rw [h] at hrun
      cases hrun
    exact hstop
  · exact classify_of_passes henabled hpatience

theorem classify_eq_exhausted_iff {output : String} (henabled : c.settings.enabled = true)
    (hpatience : c.patience = none) :
    c.classify o vars s = (.ok (.exhausted output), s') ↔ output = c.settings.defaultOutput ∧
      InTurn (Lane.Ends o c vars .fails) c.lanes { s with spent := 0 } s' := by
  constructor
  · intro hrun
    rcases classify_cases o vars s henabled hpatience with
      ⟨u, hturn, h⟩ | ⟨j, out, msg, u, -, h⟩ | ⟨j, f, u, -, h⟩
    all_goals
      rw [h] at hrun
      cases hrun
    exact ⟨rfl, hturn⟩
  · intro h
    obtain ⟨rfl, hturn⟩ := h
    exact classify_of_inTurn henabled hpatience hturn

theorem classify_eq_error_iff {f : Failure} (henabled : c.settings.enabled = true)
    (hpatience : c.patience = none) :
    c.classify o vars s = (.error f, s') ↔
      ∃ i, StopsAt (Lane.Ends o c vars .fails) (Lane.Ends o c vars (.breaks f)) c.lanes i
        { s with spent := 0 } s' := by
  constructor
  · intro hrun
    rcases classify_cases o vars s henabled hpatience with
      ⟨u, -, h⟩ | ⟨j, out, msg, u, -, h⟩ | ⟨j, f, u, hstop, h⟩
    all_goals
      rw [h] at hrun
      cases hrun
    exact ⟨j, hstop⟩
  · intro h
    obtain ⟨i, hstop⟩ := h
    exact classify_of_breaks henabled hpatience hstop

theorem output_of_matched {st : Settings} {output : String} {message : Option String}
    (hready : c.IsReady st) (henabled : c.settings.enabled = true) (hpatience : c.patience = none)
    (h : c.classify o vars s = (.ok (.matched i output message), s')) :
    Text.blank output = false ∧ ∃ b, st.branches[i]? = some b ∧
      (b.tests.hook = none ∧ output = b.output ∨
        ∃ hook a u, b.tests.hook = some hook ∧ hook.Gives o c.hookMillis vars (.ok a) u s' ∧
          a.valid = true ∧ output = (a.output.filter fun s => !Text.blank s).getD b.output) := by
  obtain ⟨l, u, hl, -, hends⟩ := (classify_eq_matched_iff henabled hpatience).1 h
  obtain ⟨b, hb, hmade⟩ := getElem?_of_forall₂ hready.lanes.flip hl
  have hblank : Text.blank b.output = false :=
    not_blank_of_check hready.checked (List.mem_of_getElem? hb)
  obtain ⟨hout, hwhich⟩ := output_of_passes hmade hblank hends
  exact ⟨hout, b, hb, hwhich⟩

theorem firstMatch_of_isReady {st : Settings} (hready : c.IsReady st)
    (henabled : st.enabled = true) (htimeout : c.timeout = none) (o : Outside)
    (vars : Members Json) (s : Session) : FirstMatch o st c vars s := by
  have hswitched : c.settings.enabled = true := by rw [hready.settings, henabled]
  have hpatience : c.patience = none := patience_eq_none htimeout
  refine {
    lanes := hready.lanes
    matched := fun _ _ _ _ => classify_eq_matched_iff hswitched hpatience
    exhausted := fun _ _ => hready.settings ▸ classify_eq_exhausted_iff hswitched hpatience
    broken := fun _ _ => classify_eq_error_iff hswitched hpatience
    decided := ?_
    output := fun _ _ _ _ => output_of_matched hready hswitched hpatience
    later := fun _ _ _ he h => classify_take_append hswitched hpatience he h
    calls := fun _ _ _ _ h => h.calls
    requests := sends_of_classify o vars s hswitched hpatience }
  rcases classify_cases o vars s hswitched hpatience with
    ⟨u, -, h⟩ | ⟨i, output, message, u, -, h⟩ | ⟨i, f, u, -, h⟩
  · exact .inr (.inl ⟨_, congrArg Prod.fst h⟩)
  · exact .inl ⟨i, output, message, congrArg Prod.fst h⟩
  · exact .inr (.inr ⟨f, congrArg Prod.fst h⟩)

/-- Accepted settings that are switched on and set no time decide by the first lane that does not
fail, whatever the outside does; settings that are switched off ask nothing. -/
theorem classify_first_match {st : Settings} (hc : Classifier.ofSettings st = .ok c)
    (matchMillis hookMillis : Nat) (o : Outside) (vars : Members Json) (s : Session) :
    (st.enabled = true → st.timeoutSeconds = none →
      FirstMatch o st { c with matchMillis, hookMillis } vars s) ∧
    (st.enabled = false → { c with matchMillis, hookMillis }.classify o vars s =
      (.ok (.disabled st.defaultOutput), s)) := by
  have hready := ready_of_ofSettings hc
  constructor
  · intro henabled hseconds
    have htimeout : c.timeout = none := by
      have hnanos := hready.timeout
      rw [Settings.timeoutNanos, hseconds] at hnanos
      exact (Except.ok.inj hnanos).symm
    have hready' : IsReady st { c with matchMillis, hookMillis } :=
      ⟨hready.settings, hready.checked, hready.timeout, hready.lanes⟩
    exact firstMatch_of_isReady hready' henabled htimeout o vars s
  · intro hdisabled
    have hoff : c.settings.enabled = false := by rw [hready.settings, hdisabled]
    rw [← hready.settings]
    exact classify_of_disabled o _ vars s hoff

/-- An outside in which hooks accept and name an output, and matches take no time. -/
def helpfulOutside : Outside where
  answer _ _ := ⟨.ok ⟨200, "\x7b\"valid\": true, \"route\": \"vip\"\x7d"⟩, 3⟩
  clock n := n
  work _ := .takes 0

/-- Digits go to `number`, unless a guard or a hook is asked first. -/
def desk : Settings := {
  branches := [
    ⟨"adult", { guard := some "age >= 18" }⟩,
    ⟨"number", {
      patterns := [⟨"value", "^[0-9]+$", ""⟩]
      hook := some ⟨"http://desk", "POST", [], none, none⟩ }⟩,
    ⟨"other", {}⟩] }

theorem classify_desk : ∃ c, Classifier.ofSettings desk = .ok c ∧
    FirstMatch helpfulOutside desk { c with matchMillis := 100, hookMillis := 100 }
      (captured "42") {} ∧
    ({ c with matchMillis := 100, hookMillis := 100 }.classify helpfulOutside (captured "42")
      {}).1 = .ok (.matched 1 "vip" none) := by
  have hrun : ((Classifier.ofSettings desk).map fun c =>
      ({ c with matchMillis := 100, hookMillis := 100 }.classify helpfulOutside (captured "42")
        {}).1.toOption) = .ok (some (.matched 1 "vip" none)) := by decide +kernel
  obtain ⟨c, hc, hdecision⟩ := map_eq_ok_iff.1 hrun
  refine ⟨c, hc, (classify_first_match hc 100 100 helpfulOutside (captured "42") {}).1 rfl rfl, ?_⟩
  rcases hresult : ({ c with matchMillis := 100, hookMillis := 100 }.classify helpfulOutside
      (captured "42") {}).1 with f | d
  · rw [hresult] at hdecision
    cases hdecision
  · rw [hresult] at hdecision
    cases hdecision
    exact hresult

end Classifier

end ChatPlan
