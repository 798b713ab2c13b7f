import Mathlib.Data.List.Basic

/-
Items that act in turn. Each item takes one state to the next; a list of them may act to its end, or
up to a place at which an item does something else.
-/
namespace ChatPlan

variable {α σ : Type} {R S : α → σ → σ → Prop} {x : α} {xs ys : List α} {i : Nat} {s s' : σ}

/-- All items do `R`, each from the state that the one before it leaves. -/
def InTurn (R : α → σ → σ → Prop) : List α → σ → σ → Prop
  | [], s, s' => s = s'
  | x :: xs, s, s' => ∃ u, R x s u ∧ InTurn R xs u s'

/-- The items in front of this place do `R` in turn, and then the item at this place does `S`. -/
def StopsAt (R S : α → σ → σ → Prop) (xs : List α) (i : Nat) (s s' : σ) : Prop :=
  ∃ x u, xs[i]? = some x ∧ InTurn R (xs.take i) s u ∧ S x u s'

theorem not_stopsAt_nil : ¬StopsAt R S [] i s s' := by
  rintro ⟨x, u, hx, -⟩
  simp at hx

theorem stopsAt_zero : StopsAt R S (x :: xs) 0 s s' ↔ S x s s' := by
  simp [StopsAt, InTurn]

theorem stopsAt_succ :
    StopsAt R S (x :: xs) (i + 1) s s' ↔ ∃ u, R x s u ∧ StopsAt R S xs i u s' := by
  constructor
  · intro h
    obtain ⟨y, v, hy, ⟨u, hx, hturn⟩, hstop⟩ := h
    exact ⟨u, hx, y, v, hy, hturn, hstop⟩
  · intro h
    obtain ⟨u, hx, y, v, hy, hturn, hstop⟩ := h
    exact ⟨y, v, hy, ⟨u, hx, hturn⟩, hstop⟩

theorem exists_stopsAt_cons : (∃ i, StopsAt R S (x :: xs) i s s') ↔
    S x s s' ∨ ∃ u, R x s u ∧ ∃ i, StopsAt R S xs i u s' := by
  constructor
  · intro h
    obtain ⟨i, hi⟩ := h
    cases i with
    | zero => exact .inl (stopsAt_zero.1 hi)
    | succ i =>
      obtain ⟨u, hx, hstop⟩ := stopsAt_succ.1 hi
      exact .inr ⟨u, hx, i, hstop⟩
  · intro h
    rcases h with hx | ⟨u, hx, i, hstop⟩
    · exact ⟨0, stopsAt_zero.2 hx⟩
    · exact ⟨i + 1, stopsAt_succ.2 ⟨u, hx, hstop⟩⟩

theorem InTurn.imp {R' : α → σ → σ → Prop} (hR : ∀ x s s', R x s s' → R' x s s')
    (h : InTurn R xs s s') : InTurn R' xs s s' := by
  induction xs generalizing s with
  | nil => exact h
  | cons x xs ih =>
    obtain ⟨u, hx, hxs⟩ := h
    exact ⟨u, hR x s u hx, ih hxs⟩

theorem StopsAt.imp {R' S' : α → σ → σ → Prop} (hR : ∀ x s s', R x s s' → R' x s s')
    (hS : ∀ x s s', S x s s' → S' x s s') (h : StopsAt R S xs i s s') :
    StopsAt R' S' xs i s s' := by
  obtain ⟨x, u, hx, hturn, hstop⟩ := h
  exact ⟨x, u, hx, hturn.imp hR, hS x u s' hstop⟩

/-- Items behind the place at which one stops do not matter. -/
theorem StopsAt.take_append (h : StopsAt R S xs i s s') (ys : List α) :
    StopsAt R S (xs.take (i + 1) ++ ys) i s s' := by
  obtain ⟨x, u, hx, hturn, hstop⟩ := h
  have hlt : i < xs.length := (List.getElem?_eq_some_iff.1 hx).1
  refine ⟨x, u, ?_, ?_, hstop⟩
  · rw [List.getElem?_append_left (by simp; omega), List.getElem?_take_of_lt (by omega), hx]
  · rwa [List.take_append_of_le_length (by simp; omega), List.take_take, Nat.min_eq_left (by omega)]

/-- If every item can do one of the two from any state, the items act to the end or one stops. -/
theorem inTurn_or_stopsAt (h : ∀ x s, (∃ s', R x s s') ∨ ∃ s', S x s s') (xs : List α) (s : σ) :
    (∃ s', InTurn R xs s s') ∨ ∃ i s', StopsAt R S xs i s s' := by
  induction xs generalizing s with
  | nil => exact .inl ⟨s, rfl⟩
  | cons x xs ih =>
    rcases h x s with ⟨u, hx⟩ | ⟨u, hx⟩
    · rcases ih u with ⟨s', hturn⟩ | ⟨i, s', hstop⟩
      · exact .inl ⟨s', u, hx, hturn⟩
      · exact .inr ⟨i + 1, s', stopsAt_succ.2 ⟨u, hx, hstop⟩⟩
    · exact .inr ⟨0, u, stopsAt_zero.2 hx⟩

theorem InTurn.keeps {β : Type} {f : σ → β} (hR : ∀ x s s', R x s s' → f s' = f s)
    (h : InTurn R xs s s') : f s' = f s := by
  induction xs generalizing s with
  | nil =>
    obtain rfl := h
    rfl
  | cons x xs ih =>
    obtain ⟨u, hx, hxs⟩ := h
    exact (ih hxs).trans (hR x s u hx)

theorem StopsAt.keeps {β : Type} {f : σ → β} (hR : ∀ x s s', R x s s' → f s' = f s)
    (hS : ∀ x s s', S x s s' → f s' = f s) (h : StopsAt R S xs i s s') : f s' = f s := by
  obtain ⟨x, u, -, hturn, hstop⟩ := h
  exact (hS x u s' hstop).trans (hturn.keeps hR)

end ChatPlan
