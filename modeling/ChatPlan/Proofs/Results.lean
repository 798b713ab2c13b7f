import Mathlib.Data.List.Forall2

/-
Computations that may fail. Each lemma says when one succeeds, so that the success of a whole is
taken apart into the successes of its parts; and a whole fails as the first of its parts that does.
-/
namespace ChatPlan

variable {ε ε' α β γ : Type}

theorem bind_eq_ok_iff {x : Except ε α} {f : α → Except ε β} {b : β} :
    (x >>= f) = .ok b ↔ ∃ a, x = .ok a ∧ f a = .ok b := by
  cases x with
  | error e => simp [bind, Except.bind]
  | ok a => simp [bind, Except.bind]

theorem pure_eq_ok_iff {a b : α} : (pure a : Except ε α) = .ok b ↔ a = b := by
  simp [pure, Except.pure]

theorem map_eq_ok_iff {x : Except ε α} {f : α → β} {b : β} :
    x.map f = .ok b ↔ ∃ a, x = .ok a ∧ f a = b := by
  cases x with
  | error e => simp [Except.map]
  | ok a => simp [Except.map]

theorem mapError_eq_ok_iff {x : Except ε α} {f : ε → ε'} {a : α} :
    x.mapError f = .ok a ↔ x = .ok a := by
  cases x with
  | error e => simp [Except.mapError]
  | ok b => simp [Except.mapError]

theorem mapM_eq_ok_iff {f : α → Except ε β} {l : List α} {rs : List β} :
    l.mapM f = .ok rs ↔ List.Forall₂ (fun a r => f a = .ok r) l rs := by
  induction l generalizing rs with
  | nil =>
    rw [List.mapM_nil, List.forall₂_nil_left_iff, pure_eq_ok_iff]
    exact eq_comm
  | cons a l ih =>
    simp only [List.mapM_cons, List.forall₂_cons_left_iff, bind_eq_ok_iff, pure_eq_ok_iff, ih]
    constructor
    · intro h
      obtain ⟨r, hr, rs', hrs, rfl⟩ := h
      exact ⟨r, rs', hr, hrs, rfl⟩
    · intro h
      obtain ⟨r, rs', hr, hrs, rfl⟩ := h
      exact ⟨r, hr, rs', hrs, rfl⟩

theorem bind_eq_some_iff {x : Option α} {f : α → Option β} {b : β} :
    (x >>= f) = some b ↔ ∃ a, x = some a ∧ f a = some b := Option.bind_eq_some_iff

theorem pure_eq_some_iff {a b : α} : (pure a : Option α) = some b ↔ a = b := Option.some_inj

theorem mapM_eq_some_iff {f : α → Option β} {l : List α} {rs : List β} :
    l.mapM f = some rs ↔ List.Forall₂ (fun a r => f a = some r) l rs := by
  induction l generalizing rs with
  | nil =>
    rw [List.mapM_nil, List.forall₂_nil_left_iff, pure_eq_some_iff]
    exact eq_comm
  | cons a l ih =>
    simp only [List.mapM_cons, List.forall₂_cons_left_iff, bind_eq_some_iff, pure_eq_some_iff, ih]
    constructor
    · intro h
      obtain ⟨r, hr, rs', hrs, rfl⟩ := h
      exact ⟨r, rs', hr, hrs, rfl⟩
    · intro h
      obtain ⟨r, rs', hr, hrs, rfl⟩ := h
      exact ⟨r, hr, rs', hrs, rfl⟩

theorem mapM_congr_forall₂ {f : α → Except ε β} {l m : List α}
    (h : List.Forall₂ (fun a b => f a = f b) l m) : l.mapM f = m.mapM f := by
  induction h with
  | nil => rfl
  | cons hab _ ih => rw [List.mapM_cons, List.mapM_cons, hab, ih]

/-! ## Failures -/

/-- How a computation fails, if it does. -/
def failure? : Except ε α → Option ε
  | .ok _ => none
  | .error e => some e

theorem failure?_eq_some_iff {x : Except ε α} {e : ε} : failure? x = some e ↔ x = .error e := by
  cases x <;> simp [failure?]

theorem failure?_eq_none_iff {x : Except ε α} : failure? x = none ↔ ∃ a, x = .ok a := by
  cases x <;> simp [failure?]

theorem failure?_map (x : Except ε α) (f : α → β) : failure? (x.map f) = failure? x := by
  cases x <;> rfl

theorem failure?_mapError (x : Except ε α) (f : ε → ε') :
    failure? (x.mapError f) = (failure? x).map f := by
  cases x <;> rfl

/-- One computation after the other fails as the first, or else as the second; here this one fails
in one way, whatever it goes on from. -/
theorem failure?_bind {x : Except ε α} {f : α → Except ε β} {o : Option ε}
    (hf : ∀ a, failure? (f a) = o) : failure? (x >>= f) = (failure? x).or o := by
  cases x with
  | error e => rfl
  | ok a => exact hf a

/-- A list of results fails as the first member that has none. -/
theorem failure?_mapM (f : α → Except ε β) (l : List α) :
    failure? (l.mapM f) = l.findSome? fun a => failure? (f a) := by
  induction l with
  | nil => rfl
  | cons a l ih =>
    rw [List.mapM_cons, List.findSome?_cons]
    cases hfa : f a with
    | error e => rfl
    | ok b =>
      have hcons (bs : List β) : failure? (pure (b :: bs) : Except ε (List β)) = none := rfl
      change failure? (l.mapM f >>= fun bs => pure (b :: bs)) = _
      rw [failure?_bind hcons, Option.or_none, ih]
      rfl

/-! ## Lists with related members -/

theorem forall₂_trans {R : α → β → Prop} {S : β → γ → Prop} {l : List α} {m : List β} {n : List γ}
    (h : List.Forall₂ R l m) (h' : List.Forall₂ S m n) :
    List.Forall₂ (fun a c => ∃ b, R a b ∧ S b c) l n := by
  induction h generalizing n with
  | nil =>
    rw [List.forall₂_nil_left_iff] at h'
    rw [h']
    exact .nil
  | cons hR _ ih =>
    obtain ⟨c, n', hS, hrest, rfl⟩ := List.forall₂_cons_left_iff.1 h'
    exact .cons ⟨_, hR, hS⟩ (ih hrest)

theorem map_eq_of_forall₂ {R : α → β → Prop} {f : α → γ} {g : β → γ} {l : List α} {m : List β}
    (h : List.Forall₂ R l m) (heq : ∀ a b, R a b → g b = f a) : m.map g = l.map f := by
  induction h with
  | nil => rfl
  | cons hR _ ih => rw [List.map_cons, List.map_cons, heq _ _ hR, ih]

theorem getElem?_of_forall₂ {R : α → β → Prop} {l : List α} {m : List β} (h : List.Forall₂ R l m)
    {i : Nat} {a : α} (ha : l[i]? = some a) : ∃ b, m[i]? = some b ∧ R a b := by
  induction h generalizing i with
  | nil => simp at ha
  | @cons x y l m hR _ ih =>
    cases i with
    | zero =>
      cases ha
      exact ⟨y, rfl, hR⟩
    | succ i => exact ih ha

theorem exists_mem_of_forall₂ {R : α → β → Prop} {l : List α} {m : List β} (h : List.Forall₂ R l m)
    {b : β} (hb : b ∈ m) : ∃ a ∈ l, R a b := by
  induction h with
  | nil => cases hb
  | @cons x y l m hR _ ih =>
    rcases List.mem_cons.1 hb with rfl | hb
    · exact ⟨x, List.mem_cons_self, hR⟩
    · obtain ⟨a, ha, hab⟩ := ih hb
      exact ⟨a, List.mem_cons_of_mem x ha, hab⟩

end ChatPlan
