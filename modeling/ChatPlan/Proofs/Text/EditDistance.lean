import ChatPlan.Classifier.Phrases
import Mathlib.Data.List.Basic
import Mathlib.Order.Bounds.Basic
import Mathlib.Order.MinMax

/-
The edit distance is the least number of edits (`editDistance_isLeast`). An edit changes a text at
any place. Edits in any order can be put in the order of the text: then they are an alignment, which
goes through both texts once and counts the differences. Every row of the computation holds the
least counts of alignments with the beginnings of the other text (`IsRow`); a further character
takes a row to the next.
-/
namespace ChatPlan.Text

variable {a b c a' b' : List Char} {m n : Nat}

/-! ## Edits -/

/-- One character is put in, taken out or replaced. -/
inductive Edit : List Char → List Char → Prop where
  | insert (l : List Char) (d : Char) (r : List Char) : Edit (l ++ r) (l ++ d :: r)
  | delete (l : List Char) (c : Char) (r : List Char) : Edit (l ++ c :: r) (l ++ r)
  | replace (l : List Char) (c d : Char) (r : List Char) : Edit (l ++ c :: r) (l ++ d :: r)

/-- So many edits, one after the other, turn the first text into the second. -/
inductive EditsIn : Nat → List Char → List Char → Prop where
  | none (a : List Char) : EditsIn 0 a a
  | more {n : Nat} {a b c : List Char} : EditsIn n a b → Edit b c → EditsIn (n + 1) a c

theorem Edit.exists_segments (h : Edit a b) : ∃ l x y r, a = l ++ (x ++ r) ∧ b = l ++ (y ++ r) ∧
    x.length ≤ 1 ∧ y.length ≤ 1 := by
  cases h with
  | insert l d r => exact ⟨l, [], [d], r, rfl, rfl, Nat.zero_le 1, Nat.le_refl 1⟩
  | delete l c r => exact ⟨l, [c], [], r, rfl, rfl, Nat.le_refl 1, Nat.zero_le 1⟩
  | replace l c d r => exact ⟨l, [c], [d], r, rfl, rfl, Nat.le_refl 1, Nat.le_refl 1⟩

theorem Edit.cons (x : Char) (h : Edit a b) : Edit (x :: a) (x :: b) := by
  cases h with
  | insert l d r => exact .insert (x :: l) d r
  | delete l c r => exact .delete (x :: l) c r
  | replace l c d r => exact .replace (x :: l) c d r

namespace EditsIn

theorem cons (x : Char) (h : EditsIn n a b) : EditsIn n (x :: a) (x :: b) := by
  induction h with
  | none a => exact .none _
  | more _ hedit ih => exact ih.more (hedit.cons x)

theorem trans (h : EditsIn m a b) (h' : EditsIn n b c) : EditsIn (m + n) a c := by
  induction h' with
  | none => exact h
  | more _ hedit ih => exact (ih h).more hedit

theorem eq_of_zero (h : EditsIn 0 a b) : a = b := by
  cases h
  rfl

end EditsIn

/-! ## Alignments -/

/-- The texts can be gone through together, from the front, with so many differences. -/
inductive Aligned : Nat → List Char → List Char → Prop where
  | nil : Aligned 0 [] []
  | keep {n : Nat} {a b : List Char} (c : Char) : Aligned n a b → Aligned n (c :: a) (c :: b)
  | insert {n : Nat} {a b : List Char} (d : Char) : Aligned n a b → Aligned (n + 1) a (d :: b)
  | delete {n : Nat} {a b : List Char} (c : Char) : Aligned n a b → Aligned (n + 1) (c :: a) b
  | replace {n : Nat} {a b : List Char} (c d : Char) :
      Aligned n a b → Aligned (n + 1) (c :: a) (d :: b)

namespace Aligned

theorem refl (a : List Char) : Aligned 0 a a := by
  induction a with
  | nil => exact .nil
  | cons c a ih => exact .keep c ih

theorem symm (h : Aligned n a b) : Aligned n b a := by
  induction h with
  | nil => exact .nil
  | keep c _ ih => exact .keep c ih
  | insert d _ ih => exact .delete d ih
  | delete c _ ih => exact .insert c ih
  | replace c d _ ih => exact .replace d c ih

theorem append (h : Aligned m a b) (h' : Aligned n a' b') : Aligned (m + n) (a ++ a') (b ++ b') := by
  induction h with
  | nil => simpa using h'
  | keep c _ ih => exact .keep c ih
  | insert d _ ih => exact Nat.succ_add _ n ▸ ih.insert d
  | delete c _ ih => exact Nat.succ_add _ n ▸ ih.delete c
  | replace c d _ ih => exact Nat.succ_add _ n ▸ ih.replace c d

theorem reverse (h : Aligned n a b) : Aligned n a.reverse b.reverse := by
  induction h with
  | nil => exact .nil
  | keep c _ ih => simpa using ih.append (.keep c .nil)
  | insert d _ ih => simpa using ih.append (.insert d .nil)
  | delete c _ ih => simpa using ih.append (.delete c .nil)
  | replace c d _ ih => simpa using ih.append (.replace c d .nil)

/-- Where the second text has two parts, so has the first. -/
theorem exists_append (h : Aligned n a (b ++ b')) : ∃ l r i j, a = l ++ r ∧ i + j = n ∧
    Aligned i l b ∧ Aligned j r b' := by
  generalize hbb : b ++ b' = bb at h
  induction h generalizing b with
  | nil =>
    obtain ⟨rfl, rfl⟩ := List.append_eq_nil_iff.1 hbb
    exact ⟨[], [], 0, 0, rfl, rfl, .nil, .nil⟩
  | keep c h ih =>
    rcases List.append_eq_cons_iff.1 hbb with ⟨rfl, rfl⟩ | ⟨b₀, rfl, htail⟩
    · exact ⟨[], _, 0, _, rfl, Nat.zero_add _, .nil, .keep c h⟩
    · obtain ⟨l, r, i, j, rfl, hn, hl, hr⟩ := ih htail.symm
      exact ⟨c :: l, r, i, j, rfl, hn, .keep c hl, hr⟩
  | insert d h ih =>
    rcases List.append_eq_cons_iff.1 hbb with ⟨rfl, rfl⟩ | ⟨b₀, rfl, htail⟩
    · exact ⟨[], _, 0, _, rfl, Nat.zero_add _, .nil, .insert d h⟩
    · obtain ⟨l, r, i, j, rfl, hn, hl, hr⟩ := ih htail.symm
      exact ⟨l, r, i + 1, j, rfl, by omega, .insert d hl, hr⟩
  | delete c h ih =>
    obtain ⟨l, r, i, j, rfl, hn, hl, hr⟩ := ih hbb
    exact ⟨c :: l, r, i + 1, j, rfl, by omega, .delete c hl, hr⟩
  | replace c d h ih =>
    rcases List.append_eq_cons_iff.1 hbb with ⟨rfl, rfl⟩ | ⟨b₀, rfl, htail⟩
    · exact ⟨[], _, 0, _, rfl, Nat.zero_add _, .nil, .replace c d h⟩
    · obtain ⟨l, r, i, j, rfl, hn, hl, hr⟩ := ih htail.symm
      exact ⟨c :: l, r, i + 1, j, rfl, by omega, .replace c d hl, hr⟩

theorem length_le (h : Aligned n a b) : a.length ≤ n + b.length := by
  induction h with
  | nil => exact Nat.le_refl 0
  | keep _ _ ih => simp only [List.length_cons]; omega
  | insert _ _ ih => simp only [List.length_cons]; omega
  | delete _ _ ih => simp only [List.length_cons]; omega
  | replace _ _ _ ih => simp only [List.length_cons]; omega

/-- Any two texts can be aligned, character by character. -/
theorem exists_le_max (a b : List Char) : ∃ n ≤ max a.length b.length, Aligned n a b := by
  induction a generalizing b with
  | nil =>
    induction b with
    | nil => exact ⟨0, Nat.le_refl 0, .nil⟩
    | cons d b ih =>
      obtain ⟨n, hn, h⟩ := ih
      exact ⟨n + 1, by simpa using hn, .insert d h⟩
  | cons c a ih =>
    cases b with
    | nil =>
      obtain ⟨n, hn, h⟩ := ih []
      exact ⟨n + 1, by simpa using hn, .delete c h⟩
    | cons d b =>
      obtain ⟨n, hn, h⟩ := ih b
      exact ⟨n + 1, by simp only [List.length_cons]; omega, .replace c d h⟩

/-- One more edit is at most one more difference. -/
theorem exists_edit (h : Aligned n a b) (hedit : Edit b c) : ∃ k ≤ n + 1, Aligned k a c := by
  obtain ⟨l, x, y, r, rfl, rfl, hx, hy⟩ := hedit.exists_segments
  obtain ⟨al, axr, i, j, rfl, rfl, hl, hxr⟩ := h.exists_append
  obtain ⟨ax, ar, p, q, rfl, rfl, hax, hr⟩ := hxr.exists_append
  -- what stands in front of the edit and behind it stays aligned; what it replaces is aligned anew
  obtain ⟨k, hk, hay⟩ := exists_le_max ax y
  have hlength : ax.length ≤ p + x.length := hax.length_le
  exact ⟨i + (k + q), by omega, hl.append (hay.append hr)⟩

theorem editsIn (h : Aligned n a b) : EditsIn n a b := by
  induction h with
  | nil => exact .none []
  | keep c _ ih => exact ih.cons c
  | insert d _ ih => exact ih.more (.insert [] d _)
  | delete c _ ih => exact (ih.cons c).more (.delete [] c _)
  | replace c d _ ih => exact (ih.cons c).more (.replace [] c d _)

end Aligned

/-- Edits in any order amount to an alignment. -/
theorem EditsIn.exists_aligned (h : EditsIn n a b) : ∃ k ≤ n, Aligned k a b := by
  induction h with
  | none a => exact ⟨0, Nat.le_refl 0, .refl a⟩
  | more _ hedit ih =>
    obtain ⟨k, hk, h⟩ := ih
    obtain ⟨l, hl, h⟩ := h.exists_edit hedit
    exact ⟨l, by omega, h⟩

/-! ## Rows -/

/-- The least number of differences between the texts. -/
def IsDistance (a b : List Char) (n : Nat) : Prop := IsLeast {m | Aligned m a b} n

namespace IsDistance

theorem nil_left (b : List Char) : IsDistance [] b b.length := by
  obtain ⟨n, hn, h⟩ := Aligned.exists_le_max [] b
  have hle : b.length ≤ n := by simpa using h.symm.length_le
  have hlength : n = b.length := by
    rw [List.length_nil] at hn
    omega
  exact ⟨hlength ▸ h, fun m hm => by simpa using hm.symm.length_le⟩

theorem symm (h : IsDistance a b n) : IsDistance b a n := ⟨h.1.symm, fun _ hm => h.2 hm.symm⟩

theorem of_reverse (h : IsDistance a.reverse b.reverse n) : IsDistance a b n :=
  ⟨by simpa using h.1.reverse, fun _ hm => h.2 hm.reverse⟩

/-- The distance of longer texts from those of three shorter pairs. -/
theorem cons_cons {c d : Char} {corner above left : Nat} (hcorner : IsDistance a b corner)
    (habove : IsDistance a (d :: b) above) (hleft : IsDistance (c :: a) b left) :
    IsDistance (c :: a) (d :: b)
      (min (corner + if c = d then 0 else 1) (min (above + 1) (left + 1))) := by
  constructor
  -- whichever of the three is least, one more step gives an alignment
  · change Aligned _ _ _
    rcases min_choice (corner + if c = d then 0 else 1) (min (above + 1) (left + 1)) with h | h
    · rw [h]
      split
      · rename_i heq
        exact heq ▸ .keep c hcorner.1
      · exact .replace c d hcorner.1
    · rw [h]
      rcases min_choice (above + 1) (left + 1) with h | h
      · rw [h]
        exact .delete c habove.1
      · rw [h]
        exact .insert d hleft.1
  -- and without its first step, an alignment is one of a shorter pair
  · intro m hm
    cases hm with
    | keep _ hm =>
      have := hcorner.2 hm
      rw [if_pos rfl]
      omega
    | insert _ hm =>
      have := hleft.2 hm
      omega
    | delete _ hm =>
      have := habove.2 hm
      omega
    | replace _ _ hm =>
      have := hcorner.2 hm
      split <;> omega

end IsDistance

/-- A row: the distances of a text from the beginnings of another. Of the other text `seen` is what
has been gone through, backwards, and the rest is still to come; the text itself stands backwards,
too. -/
inductive IsRow (a : List Char) : List Char → List Char → List Nat → Prop where
  | last {seen : List Char} {n : Nat} : IsDistance a seen n → IsRow a seen [] [n]
  | more {seen : List Char} {d : Char} {ds : List Char} {n : Nat} {row : List Nat} :
      IsDistance a seen n → IsRow a (d :: seen) ds row → IsRow a seen (d :: ds) (n :: row)

namespace IsRow

variable {seen ds : List Char} {row : List Nat}

theorem range (seen ds : List Char) :
    IsRow [] seen ds (List.range' seen.length (ds.length + 1)) := by
  induction ds generalizing seen with
  | nil => exact .last (.nil_left seen)
  | cons d ds ih => exact .more (.nil_left seen) (ih (d :: seen))

theorem getLastD (h : IsRow a seen ds row) (x : Nat) :
    IsDistance a (ds.reverse ++ seen) (row.getLastD x) := by
  induction h generalizing x with
  | last h => exact h
  | @more seen d ds n row _ _ ih =>
    rw [List.reverse_cons, List.append_assoc, List.getLastD_cons]
    exact ih n

/-- Each entry of the next row comes from the one in front of it and the two above these. -/
theorem nextEntries {c : Char} {left corner : Nat} (h : IsRow a seen ds (corner :: row))
    (hleft : IsDistance (c :: a) seen left) :
    IsRow (c :: a) seen ds (left :: nextEntries c left ds (corner :: row)) := by
  induction ds generalizing seen left corner row with
  | nil => exact .last hleft
  | cons d ds ih =>
    cases h with
    | more hcorner h =>
      cases h with
      | last habove => exact .more hleft (ih (.last habove) (hcorner.cons_cons habove hleft))
      | more habove h => exact .more hleft (ih (.more habove h) (hcorner.cons_cons habove hleft))

theorem nextRow {other : List Char} (h : IsRow a [] other row) (c : Char) :
    IsRow (c :: a) [] other (nextRow other row c) := by
  have hfirst {n : Nat} (hn : IsDistance a [] n) : IsDistance (c :: a) [] (n + 1) := by
    rw [hn.unique (IsDistance.nil_left a).symm]
    exact (IsDistance.nil_left (c :: a)).symm
  cases h with
  | last hn => exact .last (hfirst hn)
  | more hn h => exact (IsRow.more hn h).nextEntries (hfirst hn)

/-- One character after the other takes the first row to the last. -/
theorem foldl_nextRow {other : List Char} (h : IsRow a [] other row) (cs : List Char) :
    IsRow (cs.reverse ++ a) [] other (cs.foldl (Text.nextRow other) row) := by
  induction cs generalizing a row with
  | nil => exact h
  | cons c cs ih =>
    rw [List.reverse_cons, List.append_assoc]
    exact ih (h.nextRow c)

end IsRow

theorem isDistance_editDistance (a b : List Char) : IsDistance a b (editDistance a b) := by
  have hfirst : IsRow [] [] b (List.range (b.length + 1)) := by
    rw [List.range_eq_range']
    exact .range [] b
  have hlast := (hfirst.foldl_nextRow a).getLastD 0
  rw [List.append_nil, List.append_nil] at hlast
  exact hlast.of_reverse

theorem isLeast_editsIn (a b : List Char) : IsLeast {n | EditsIn n a b} (editDistance a b) := by
  obtain ⟨haligned, hlower⟩ := isDistance_editDistance a b
  refine ⟨Aligned.editsIn haligned, fun n hn => ?_⟩
  obtain ⟨k, hk, h⟩ := EditsIn.exists_aligned hn
  exact (hlower h).trans hk

example : editDistance "kitten".toList "sitting".toList = 3 := by decide

theorem editDistance_eq_zero_iff : editDistance a b = 0 ↔ a = b := by
  constructor
  · intro hzero
    exact EditsIn.eq_of_zero (hzero ▸ (isLeast_editsIn a b).1)
  · rintro rfl
    exact Nat.le_zero.1 ((isLeast_editsIn a a).2 (.none a))

theorem editDistance_le_max (a b : List Char) : editDistance a b ≤ max a.length b.length := by
  obtain ⟨n, hn, h⟩ := Aligned.exists_le_max a b
  exact ((isDistance_editDistance a b).2 h).trans hn

/-- The computed distance is the least number of insertions, deletions and replacements of single
characters that turn one text into the other. It is zero only between equal texts, the same both
ways, no longer than over a third text, and at most the length of the longer text. -/
theorem editDistance_isLeast (a b : List Char) :
    IsLeast {n | EditsIn n a b} (editDistance a b) ∧
      (editDistance a b = 0 ↔ a = b) ∧
      editDistance b a = editDistance a b ∧
      (∀ c, editDistance a c ≤ editDistance a b + editDistance b c) ∧
      editDistance a b ≤ max a.length b.length := by
  refine ⟨isLeast_editsIn a b, editDistance_eq_zero_iff, ?_, fun c => ?_, editDistance_le_max a b⟩
  · exact (isDistance_editDistance b a).unique (isDistance_editDistance a b).symm
  · have hover := EditsIn.trans (isLeast_editsIn a b).1 (isLeast_editsIn b c).1
    exact (isLeast_editsIn a c).2 hover

end ChatPlan.Text
