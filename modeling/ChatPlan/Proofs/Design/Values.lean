import ChatPlan.Design.Basic
import ChatPlan.Design.Reader
import ChatPlan.Proofs.Json.Record
import ChatPlan.Proofs.Results

/-
The values of a profile. Every variable of the profile, declared or supplied, is in one of the two
maps and in no other (`Values.splits_ofProfile`). Declaring a variable decides where it is and what
its value is, and leaves all others alone; the rest follows along the declared variables.
-/
namespace ChatPlan

namespace Members

variable {α : Type} {ms : Members α}

theorem get?_erase (ms : Members α) (k l : String) :
    get? (erase ms k) l = if l = k then none else get? ms l := by
  induction ms with
  | nil => simp [erase]
  | cons m ms ih =>
    obtain ⟨n, v⟩ := m
    rw [erase] at ih ⊢
    by_cases hn : n = k
    · rw [List.filter_cons_of_neg (by simp [hn]), ih, get?_cons, hn]
      split <;> rfl
    · rw [List.filter_cons_of_pos (by simp [hn]), get?_cons, get?_cons, ih]
      grind

theorem has_cons (k : String) (v : α) (ms : Members α) (l : String) :
    has ((k, v) :: ms) l = (decide (l = k) || has ms l) := by
  rw [has, List.any_cons, has, Bool.beq_eq_decide_eq, decide_eq_decide.2 eq_comm]

theorem has_eq_isSome (ms : Members α) (k : String) : has ms k = (get? ms k).isSome := by
  rw [Bool.eq_iff_iff, has, get?, Option.isSome_map, List.find?_isSome, List.any_eq_true]

theorem get?_eq_none {k : String} (h : ∀ m ∈ ms, m.1 ≠ k) : get? ms k = none := by
  rw [get?, Option.map_eq_none_iff, List.find?_eq_none]
  simpa using h

theorem Sorted.erase (h : Sorted ms) (k : String) : Sorted (erase ms k) := h.filter _

end Members

/-- The variables of the profile stand in the order of their names, each once. -/
structure Profile.InOrder (p : Profile) : Prop where
  context : Members.Sorted p.context
  supplied : Members.Sorted p.supplied

/-! ## Profiles that are read -/

theorem Json.Slot.sorted_of_orElse {α : Type} {read : Tree → Option α} {s : Slot} {ms : Members α}
    (h : s.orElse (Tree.asMembers? read) [] = some ms) : Members.Sorted ms := by
  cases s with
  | found t =>
    rw [Slot.orElse, Tree.asMembers?.eq_def] at h
    split at h
    · obtain ⟨l, -, rfl⟩ := Option.map_eq_some_iff.1 h
      exact Members.sorted_ofList l
    · cases h
  | absent =>
    cases h
    exact .nil
  | cut =>
    cases h
    exact .nil

theorem Json.Slot.exists_of_optional {α : Type} {read : Tree → Option α} {s : Slot} {a : α}
    (h : s.optional read = some (some a)) : ∃ t, read t = some a := by
  cases s with
  | found t =>
    rw [Slot.optional, Slot.orElse, Tree.asOption?.eq_def] at h
    split at h
    · cases h
    · obtain ⟨b, hb, heq⟩ := Option.map_eq_some_iff.1 h
      exact ⟨t, by rw [hb, heq]⟩
  | absent => cases h
  | cut => cases h

theorem Profile.inOrder_of_ofTree? {t : Json.Tree} {p : Profile} (h : Profile.ofTree? t = some p) :
    p.InOrder := by
  rw [Profile.ofTree?] at h
  split at h
  · simp only [bind_eq_some_iff, pure_eq_some_iff] at h
    obtain ⟨context, hcontext, supplied, hsupplied, rfl⟩ := h
    exact ⟨Json.Slot.sorted_of_orElse hcontext, Json.Slot.sorted_of_orElse hsupplied⟩
  · cases h

theorem Design.inOrder_of_parse? {source : String} {d : Design}
    (h : Design.parse? source = some d) : ∀ p ∈ d.profile, p.InOrder := by
  obtain ⟨t, -, hd⟩ := Option.bind_eq_some_iff.1 h
  rw [Design.ofTree?] at hd
  split at hd
  · simp only [bind_eq_some_iff, pure_eq_some_iff] at hd
    obtain ⟨_, -, _, -, _, -, _, -, _, -, profile, hprofile, _, -, rfl⟩ := hd
    rintro p rfl
    obtain ⟨t, ht⟩ := Json.Slot.exists_of_optional hprofile
    exact Profile.inOrder_of_ofTree? ht
  · cases hd

namespace Values

variable {supplied : Members Json} {v : Values} {name key : String} {var : ContextVar}

/-- The value of a declared variable: what is supplied for it, or else its default, or else nothing.
-/
def declaredValue (supplied : Members Json) (name : String) (var : ContextVar) : Json :=
  ((Members.get? supplied name).or var.default).getD .null

/-! ## One variable -/

theorem get?_persistent_declare (supplied : Members Json) (v : Values) (name : String)
    (var : ContextVar) (key : String) :
    Members.get? (v.declare supplied name var).persistent key =
      if key = name ∧ var.persist = true then some (declaredValue supplied name var)
      else Members.get? v.persistent key := by
  cases hpersist : var.persist with
  | true => simp [declare, hpersist, Members.get?_insert, declaredValue]
  | false => simp [declare, hpersist]

theorem get?_temporary_declare (supplied : Members Json) (v : Values) (name : String)
    (var : ContextVar) (key : String) :
    Members.get? (v.declare supplied name var).temporary key =
      if key = name then
        if var.persist = true then none else some (declaredValue supplied name var)
      else Members.get? v.temporary key := by
  cases hpersist : var.persist with
  | true => simp [declare, hpersist, Members.get?_erase]
  | false => simp [declare, hpersist, Members.get?_insert, declaredValue]

/-- Declaring a variable makes it known, and no other. -/
theorem has_declare (supplied : Members Json) (v : Values) (name : String) (var : ContextVar)
    (key : String) :
    (v.declare supplied name var).has key = (decide (key = name) || v.has key) := by
  simp only [has, Members.has_eq_isSome, get?_persistent_declare, get?_temporary_declare]
  grind

theorem sorted_declare (h : Members.Sorted v.temporary ∧ Members.Sorted v.persistent)
    (supplied : Members Json) (name : String) (var : ContextVar) :
    Members.Sorted (v.declare supplied name var).temporary ∧
      Members.Sorted (v.declare supplied name var).persistent := by
  rw [declare]
  cases var.persist with
  | true => exact ⟨h.1.erase name, h.2.insert name _⟩
  | false => exact ⟨h.1.insert name _, h.2⟩

/-! ## All variables -/

/-- Declares variables one after the other. -/
def declareAll (supplied : Members Json) (v : Values) (context : Members ContextVar) : Values :=
  context.foldl (fun v m => v.declare supplied m.1 m.2) v

theorem declareAll_cons (supplied : Members Json) (v : Values) (name : String) (var : ContextVar)
    (context : Members ContextVar) : declareAll supplied v ((name, var) :: context) =
      declareAll supplied (v.declare supplied name var) context := rfl

theorem has_declareAll (supplied : Members Json) (v : Values) (context : Members ContextVar)
    (key : String) :
    (declareAll supplied v context).has key = (Members.has context key || v.has key) := by
  induction context generalizing v with
  | nil => rfl
  | cons m context ih =>
    obtain ⟨name, var⟩ := m
    rw [declareAll_cons, ih, has_declare, Members.has_cons, Bool.or_left_comm, Bool.or_assoc]

theorem sorted_declareAll (h : Members.Sorted v.temporary ∧ Members.Sorted v.persistent)
    (supplied : Members Json) (context : Members ContextVar) :
    Members.Sorted (declareAll supplied v context).temporary ∧
      Members.Sorted (declareAll supplied v context).persistent := by
  induction context generalizing v with
  | nil => exact h
  | cons m context ih => exact ih (sorted_declare h supplied m.1 m.2)

/-- Where the variables are declared once each, a look at both maps: a declared variable is where
its declaration puts it, and any other where it was. -/
theorem get?_declareAll {context : Members ContextVar} (h : Members.Sorted context)
    (supplied : Members Json) (v : Values) (key : String) :
    Members.get? (declareAll supplied v context).persistent key =
        (match Members.get? context key with
        | some var =>
          if var.persist = true then some (declaredValue supplied key var)
          else Members.get? v.persistent key
        | none => Members.get? v.persistent key) ∧
      Members.get? (declareAll supplied v context).temporary key =
        (match Members.get? context key with
        | some var =>
          if var.persist = true then none else some (declaredValue supplied key var)
        | none => Members.get? v.temporary key) := by
  induction context generalizing v with
  | nil => exact ⟨rfl, rfl⟩
  | cons m context ih =>
    obtain ⟨name, var⟩ := m
    obtain ⟨hlater, hcontext⟩ := List.pairwise_cons.1 h
    rw [declareAll_cons, (ih hcontext _).1, (ih hcontext _).2, Members.get?_cons,
      get?_persistent_declare, get?_temporary_declare]
    by_cases hkey : key = name
    · subst hkey
      have hrest : Members.get? context key = none :=
        Members.get?_eq_none fun m hm => (hlater m hm).ne'
      rw [hrest]
      cases hpersist : var.persist <;> simp [hpersist]
    · simp [hkey]

/-- The variables of a profile, split into temporary and persistent ones. -/
structure Splits (v : Values) (p : Profile) : Prop where
  /-- Both maps have each of their names once. -/
  sorted : Members.Sorted v.temporary ∧ Members.Sorted v.persistent
  /-- No name is in both. -/
  disjoint : ∀ key, ¬(Members.has v.temporary key = true ∧ Members.has v.persistent key = true)
  /-- The names are those that are declared or supplied. -/
  names : ∀ key, v.has key = (Members.has p.context key || Members.has p.supplied key)
  /-- Persistent are those that are declared so. -/
  persistent : ∀ key, v.isPersistent key = true ↔
    ∃ var, Members.get? p.context key = some var ∧ var.persist = true
  /-- A value is supplied, or else it is the declared default, or else null. -/
  value : ∀ key, v.has key = true → v.get? key =
    some (((Members.get? p.supplied key).or
      ((Members.get? p.context key).bind (·.default))).getD .null)

theorem ofProfile_eq (p : Profile) :
    ofProfile p = declareAll p.supplied ⟨p.supplied, []⟩ p.context := rfl

theorem has_ofProfile (p : Profile) (key : String) :
    (ofProfile p).has key = (Members.has p.context key || Members.has p.supplied key) := by
  rw [ofProfile_eq, has_declareAll]
  rfl

theorem splits_ofProfile {p : Profile} (h : p.InOrder) : (ofProfile p).Splits p := by
  have hlook (key : String) := get?_declareAll h.context p.supplied ⟨p.supplied, []⟩ key
  simp only [← ofProfile_eq, Members.get?_nil] at hlook
  refine ⟨sorted_declareAll (v := ⟨p.supplied, []⟩) ⟨h.supplied, .nil⟩ _ _, fun key => ?_,
    has_ofProfile p, fun key => ?_, fun key hkey => ?_⟩
  · rw [Members.has_eq_isSome, Members.has_eq_isSome, (hlook key).1, (hlook key).2]
    cases Members.get? p.context key with
    | none => simp
    | some var => cases var.persist <;> simp
  · rw [isPersistent, Members.has_eq_isSome, (hlook key).1]
    cases Members.get? p.context key with
    | none => simp
    | some var => cases hpersist : var.persist <;> simp [hpersist]
  · rw [has_ofProfile, Members.has_eq_isSome, Members.has_eq_isSome] at hkey
    rw [get?, (hlook key).1, (hlook key).2]
    cases hdeclared : Members.get? p.context key with
    | none =>
      rw [hdeclared] at hkey
      obtain ⟨value, hvalue⟩ := Option.isSome_iff_exists.1 hkey
      simp [hvalue]
    | some var => cases var.persist <;> simp [declaredValue]

end Values

end ChatPlan
