import ChatPlan.Text.Basic
import Mathlib.Data.List.DropRight

/-
Cutting and trimming texts. Pieces stand between dividing characters. A text is its trimmed text
between two runs of blanks, and blanks that are put at its ends do not change what is left.
-/
namespace ChatPlan.Text

/-! ## Pieces -/

variable {c : Char}

theorem mem_intercalate {sep : List Char} {xs : List (List Char)} (h : c ∈ sep.intercalate xs) :
    c ∈ sep ∨ ∃ x ∈ xs, c ∈ x := by
  induction xs with
  | nil => simp at h
  | cons x xs ih =>
    cases xs with
    | nil => exact .inr ⟨x, by simp, by simpa using h⟩
    | cons y xs =>
      rw [List.intercalate_cons_cons, List.append_assoc, List.mem_append, List.mem_append] at h
      rcases h with h | h | h
      · exact .inr ⟨x, List.mem_cons_self, h⟩
      · exact .inl h
      · refine (ih h).imp_right fun hxs => ?_
        obtain ⟨z, hz, hcz⟩ := hxs
        exact ⟨z, List.mem_cons_of_mem x hz, hcz⟩

theorem pieces_eq_splitOnP (p : Char → Bool) (cs : List Char) : pieces p cs = cs.splitOnP p := by
  induction cs with
  | nil => rw [pieces, List.splitOnP_nil]
  | cons c cs ih =>
    rw [pieces, List.splitOnP_cons_eq_if_modifyHead, ih]
    obtain ⟨q, qs, hq⟩ := List.exists_cons_of_ne_nil (List.splitOnP_ne_nil p cs)
    rw [hq]
    rfl

theorem segments_eq_splitOn (cs : List Char) : segments cs = cs.splitOn '.' := by
  rw [segments, pieces_eq_splitOnP, List.splitOn_eq_splitOnP]

/-- A dividing character divides: the pieces are those in front of it and those behind it. -/
theorem pieces_append_cons {p : Char → Bool} (hc : p c = true) (a b : List Char) :
    pieces p (a ++ c :: b) = pieces p a ++ pieces p b := by
  simp only [pieces_eq_splitOnP, List.splitOnP_append_cons a b hc]

/-- A text without dividing characters is one piece. -/
theorem pieces_of_undivided {p : Char → Bool} {a : List Char} (h : ∀ c ∈ a, p c = false) :
    pieces p a = [a] := by
  rw [pieces_eq_splitOnP, List.splitOnP_eq_singleton fun c hc => h c hc]

end ChatPlan.Text

namespace ChatPlan.Text

/-! ## Trimming -/

variable {a b cs x y : List Char}

/-- All characters are blanks. -/
def Blanks (cs : List Char) : Prop := ∀ c ∈ cs, isBlank c = true

theorem Blanks.nil : Blanks [] := fun _ hc => nomatch hc

theorem Blanks.space : Blanks [' '] := by
  intro c hc
  rw [List.mem_singleton.1 hc]
  decide

theorem Blanks.append (ha : Blanks a) (hb : Blanks b) : Blanks (a ++ b) := by
  intro c hc
  rcases List.mem_append.1 hc with hc | hc
  · exact ha c hc
  · exact hb c hc

theorem blank_iff {s : String} : blank s = true ↔ Blanks s.toList := by
  rw [blank, List.all_eq_true]
  rfl

theorem trim_eq (cs : List Char) : trim cs = (cs.dropWhile isBlank).rdropWhile isBlank := rfl

/-- A text lies between blanks. -/
theorem exists_trim (cs : List Char) : ∃ a b, Blanks a ∧ Blanks b ∧ cs = a ++ trim cs ++ b := by
  refine ⟨cs.takeWhile isBlank, (cs.dropWhile isBlank).rtakeWhile isBlank, ?_, ?_, ?_⟩
  · exact fun c hc => List.mem_takeWhile_imp hc
  · exact fun c hc => List.mem_rtakeWhile_imp hc
  · rw [trim_eq, List.append_assoc, List.rdropWhile_append_rtakeWhile,
      List.takeWhile_append_dropWhile]

theorem trim_append_left (ha : Blanks a) : trim (a ++ cs) = trim cs := by
  rw [trim_eq, trim_eq, List.dropWhile_append_of_pos ha]

theorem rdropWhile_append_of_forall {p : Char → Bool} (hb : ∀ c ∈ b, p c = true) :
    (cs ++ b).rdropWhile p = cs.rdropWhile p := by
  rw [List.rdropWhile, List.rdropWhile, List.reverse_append, List.dropWhile_append_of_pos]
  exact fun c hc => hb c (List.mem_reverse.1 hc)

theorem trim_append_right (hb : Blanks b) : trim (cs ++ b) = trim cs := by
  rw [trim_eq, trim_eq, List.dropWhile_append]
  split
  · rename_i h
    rw [List.isEmpty_iff.1 h, List.dropWhile_eq_nil_iff.2 hb]
  · rw [rdropWhile_append_of_forall hb]

/-- Blanks around a text are all that is trimmed away of them. -/
theorem trim_between (ha : Blanks a) (hb : Blanks b) : trim (a ++ cs ++ b) = trim cs := by
  rw [trim_append_right hb, trim_append_left ha]

theorem trim_eq_nil_iff : trim cs = [] ↔ Blanks cs := by
  constructor
  · intro h
    obtain ⟨a, b, ha, hb, hcs⟩ := exists_trim cs
    rw [hcs, h, List.append_nil]
    exact ha.append hb
  · intro h
    have htrim : trim (cs ++ []) = trim [] := trim_append_left h
    rwa [List.append_nil] at htrim

theorem trim_eq_self (hfirst : ∀ c, cs.head? = some c → isBlank c = false)
    (hlast : ∀ c, cs.getLast? = some c → isBlank c = false) : trim cs = cs := by
  have hdrop : cs.dropWhile isBlank = cs := by
    cases cs with
    | nil => rfl
    | cons c r => simp [hfirst c rfl]
  rw [trim_eq, hdrop, List.rdropWhile_eq_self_iff]
  intro hne hblank
  rw [hlast _ (List.getLast?_eq_getLast_of_ne_nil hne)] at hblank
  cases hblank

theorem isBlank_of_getLast?_trim {c : Char} (h : (trim cs).getLast? = some c) :
    isBlank c = false := by
  have hne : trim cs ≠ [] := by
    intro hnil
    simp [hnil] at h
  rw [List.getLast?_eq_getLast_of_ne_nil hne, Option.some.injEq] at h
  rw [← h]
  exact Bool.eq_false_iff.2 (List.rdropWhile_last_not isBlank (cs.dropWhile isBlank) hne)

theorem trim_append_eq_self (hx : x ≠ []) (hfirst : ∀ c, x.head? = some c → isBlank c = false)
    (hy : y ≠ []) (hlast : ∀ c, y.getLast? = some c → isBlank c = false) :
    trim (x ++ y) = x ++ y := by
  refine trim_eq_self ?_ ?_
  · rwa [List.head?_append_of_ne_nil x hx]
  · rwa [List.getLast?_append_of_ne_nil x hy]

theorem trim_trim (cs : List Char) : trim (trim cs) = trim cs := by
  obtain ⟨a, b, ha, hb, hcs⟩ := exists_trim cs
  conv_rhs => rw [hcs, trim_between ha hb]

end ChatPlan.Text
