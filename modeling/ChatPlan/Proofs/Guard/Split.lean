import ChatPlan.Proofs.Guard.Grammar
import ChatPlan.Proofs.Results

/-
Cutting a guard at its separators. The cut of the parser is the only one that the grammar allows
(`splitOutside_eq_iff`), and blanks at the ends of a text go into its first and its last part
(`forall₂_splitOutside`), so that they change nothing for the parts that follow.
-/
namespace ChatPlan.Guard

open Text

variable {sep c : Char} {quote : Option Char} {a b cs p rest : List Char} {ps : List (List Char)}

theorem quoteBehind_append (quote : Option Char) (a b : List Char) :
    quoteBehind quote (a ++ b) = quoteBehind (quoteBehind quote a) b :=
  List.foldl_append

theorem isWhole_nil (sep : Char) (quote : Option Char) : IsWhole sep quote [] := by
  intro a b h
  simp at h

theorem isWhole_cons : IsWhole sep quote (c :: cs) ↔
    (c = sep → cs.head? = some sep → quote ≠ none) ∧ IsWhole sep (quoteAfter quote c) cs := by
  constructor
  · intro h
    constructor
    · intro hc hhead
      obtain ⟨r, rfl⟩ := List.head?_eq_some_iff.1 hhead
      exact h [] r (by rw [hc]; rfl)
    · intro a b hcs
      exact h (c :: a) b (by rw [hcs]; rfl)
  · intro h a b hcs
    obtain ⟨hfirst, hrest⟩ := h
    cases a with
    | nil =>
      obtain ⟨rfl, rfl⟩ := List.cons.inj hcs
      exact hfirst rfl rfl
    | cons d a =>
      obtain ⟨rfl, htail⟩ := List.cons.inj hcs
      exact hrest a b htail

theorem splitOutside_cons (sep : Char) (quote : Option Char) (c : Char) (cs : List Char) :
    splitOutside sep quote (c :: cs) =
      if quote = none ∧ c = sep ∧ cs.head? = some sep then [] :: splitOutside sep none cs.tail
      else consPiece c (splitOutside sep (quoteAfter quote c) cs) := by
  cases cs with
  | nil => simp [splitOutside, consPiece]
  | cons d cs =>
    rw [splitOutside]
    simp [Option.isNone_iff_eq_none, and_assoc]

/-- One more character belongs to the first part, unless it begins a pair. -/
theorem Parts.cons (h : Parts sep (quoteAfter quote c) cs ps)
    (hpair : c = sep → cs.head? = some sep → quote ≠ none) :
    Parts sep quote (c :: cs) (consPiece c ps) := by
  cases h with
  | last hwhole => exact .last (isWhole_cons.2 ⟨hpair, hwhole⟩)
  | @more _ p rest ps hclosed hwhole hrest =>
    refine .more (p := c :: p) hclosed (isWhole_cons.2 ⟨?_, hwhole⟩) hrest
    intro hc hhead
    refine hpair hc ?_
    cases p with
    | nil => rfl
    | cons d p => exact hhead

/-- The parser cuts as the grammar says. -/
theorem parts_splitOutside (sep : Char) (quote : Option Char) (cs : List Char) :
    Parts sep quote cs (splitOutside sep quote cs) := by
  -- on the length, since a pair takes two characters at once
  induction hn : cs.length using Nat.strong_induction_on generalizing quote cs with
  | _ n ih =>
    cases cs with
    | nil => exact .last (isWhole_nil sep quote)
    | cons c cs =>
      rw [splitOutside_cons]
      split
      · rename_i hpair
        obtain ⟨rfl, rfl, hhead⟩ := hpair
        obtain ⟨r, rfl⟩ := List.head?_eq_some_iff.1 hhead
        have hone : IsWhole c none [c] := isWhole_cons.2 ⟨by simp, isWhole_nil c _⟩
        exact .more (p := []) rfl hone (ih r.length (by simp at hn; omega) none r rfl)
      · rename_i hpair
        exact (ih cs.length (by simp at hn; omega) _ cs rfl).cons
          fun hc hhead hquote => hpair ⟨hquote, hc, hhead⟩

theorem splitOutside_of_isWhole (h : IsWhole sep quote p) : splitOutside sep quote p = [p] := by
  induction p generalizing quote with
  | nil => rfl
  | cons c p ih =>
    obtain ⟨hpair, hp⟩ := isWhole_cons.1 h
    rw [splitOutside_cons, if_neg fun h => hpair h.2.1 h.2.2 h.1, ih hp]
    rfl

theorem splitOutside_pair (hclosed : quoteBehind quote p = none)
    (hwhole : IsWhole sep quote (p ++ [sep])) (rest : List Char) :
    splitOutside sep quote (p ++ sep :: sep :: rest) = p :: splitOutside sep none rest := by
  induction p generalizing quote with
  | nil =>
    rw [List.nil_append, splitOutside_cons, if_pos ⟨hclosed, rfl, rfl⟩]
    rfl
  | cons c p ih =>
    obtain ⟨hpair, hp⟩ := isWhole_cons.1 hwhole
    have hhead : (p ++ sep :: sep :: rest).head? = (p ++ [sep]).head? := by cases p <;> rfl
    rw [List.cons_append, splitOutside_cons, hhead, if_neg fun h => hpair h.2.1 h.2.2 h.1,
      ih hclosed hp]
    rfl

/-- The grammar allows no other cut. -/
theorem splitOutside_eq_iff : splitOutside sep quote cs = ps ↔ Parts sep quote cs ps := by
  constructor
  · intro h
    rw [← h]
    exact parts_splitOutside sep quote cs
  · intro h
    induction h with
    | last hwhole => exact splitOutside_of_isWhole hwhole
    | more hclosed hwhole _ ih => rw [splitOutside_pair hclosed hwhole, ih]

/-! ## Blanks at the ends -/

/-- The second text is the first with blanks at its ends. -/
def Padded (x y : List Char) : Prop := ∃ a b, Blanks a ∧ Blanks b ∧ y = a ++ x ++ b

theorem Padded.refl (x : List Char) : Padded x x := ⟨[], [], .nil, .nil, by simp⟩

theorem padded_trim (cs : List Char) : Padded (trim cs) cs := exists_trim cs

theorem Padded.trim_eq {x y : List Char} (h : Padded x y) : trim y = trim x := by
  obtain ⟨a, b, ha, hb, rfl⟩ := h
  exact trim_between ha hb

theorem Padded.trans {x y z : List Char} (hxy : Padded x y) (hyz : Padded y z) : Padded x z := by
  obtain ⟨a, b, ha, hb, rfl⟩ := hxy
  obtain ⟨a', b', ha', hb', rfl⟩ := hyz
  exact ⟨a' ++ a, b ++ b', ha'.append ha, hb.append hb', by simp [List.append_assoc]⟩

theorem isQuote_of_isBlank (h : isBlank c = true) : isQuote c = false := by
  cases hq : isQuote c with
  | false => rfl
  | true =>
    rw [isQuote, Bool.or_eq_true, beq_iff_eq, beq_iff_eq] at hq
    rcases hq with rfl | rfl <;> exact absurd h (by decide)

theorem quoteBehind_of_forall (h : ∀ c ∈ cs, isQuote c = false) : quoteBehind none cs = none := by
  induction cs with
  | nil => rfl
  | cons c cs ih =>
    have hc : quoteAfter none c = none := by simp [quoteAfter, h c List.mem_cons_self]
    rw [quoteBehind, List.foldl_cons, hc]
    exact ih fun d hd => h d (List.mem_cons_of_mem c hd)

theorem quoteBehind_blanks (ha : Blanks a) : quoteBehind none a = none :=
  quoteBehind_of_forall fun c hc => isQuote_of_isBlank (ha c hc)

theorem IsWhole.blanks_append (hsep : isBlank sep = false) (ha : Blanks a)
    (h : IsWhole sep none cs) : IsWhole sep none (a ++ cs) := by
  induction a with
  | nil => exact h
  | cons c a ih =>
    have hblank := ha c List.mem_cons_self
    refine isWhole_cons.2 ⟨?_, ?_⟩
    · intro hc
      rw [← hc, hblank] at hsep
      cases hsep
    · simp only [quoteAfter, isQuote_of_isBlank hblank, Bool.false_eq_true, ↓reduceIte]
      exact ih fun d hd => ha d (List.mem_cons_of_mem c hd)

theorem IsWhole.append_blanks (hsep : isBlank sep = false) (hb : Blanks b)
    (h : IsWhole sep quote cs) : IsWhole sep quote (cs ++ b) := by
  have hnot : sep ∉ b := by
    intro hmem
    rw [hb sep hmem] at hsep
    cases hsep
  induction cs generalizing quote with
  | nil =>
    intro x y hxy
    rw [List.nil_append] at hxy
    exact absurd (by simp [hxy]) hnot
  | cons c cs ih =>
    obtain ⟨hpair, hcs⟩ := isWhole_cons.1 h
    refine isWhole_cons.2 ⟨?_, ih hcs⟩
    intro hc hhead
    -- a pair cannot begin with the last character, for a blank is no separator
    cases cs with
    | nil => exact absurd (List.mem_of_mem_head? hhead) hnot
    | cons d cs => exact hpair hc hhead

theorem Parts.blanks_append (hsep : isBlank sep = false) (ha : Blanks a)
    (h : Parts sep none cs ps) :
    ∃ qs, Parts sep none (a ++ cs) qs ∧ List.Forall₂ Padded ps qs := by
  have hpad (p : List Char) : Padded p (a ++ p) := ⟨a, [], ha, .nil, by simp⟩
  cases h with
  | last hwhole => exact ⟨_, .last (hwhole.blanks_append hsep ha), .cons (hpad _) .nil⟩
  | @more _ p rest ps hclosed hwhole hrest =>
    refine ⟨(a ++ p) :: ps, ?_, .cons (hpad p) (List.forall₂_same.2 fun q _ => .refl q)⟩
    rw [← List.append_assoc]
    refine .more ?_ ?_ hrest
    · rw [quoteBehind_append, quoteBehind_blanks ha, hclosed]
    · rw [List.append_assoc]
      exact hwhole.blanks_append hsep ha

theorem Parts.append_blanks (hsep : isBlank sep = false) (hb : Blanks b)
    (h : Parts sep quote cs ps) :
    ∃ qs, Parts sep quote (cs ++ b) qs ∧ List.Forall₂ Padded ps qs := by
  induction h with
  | @last quote p hwhole =>
    exact ⟨[p ++ b], .last (hwhole.append_blanks hsep hb),
      .cons ⟨[], b, .nil, hb, by simp⟩ .nil⟩
  | @more quote p rest ps hclosed hwhole _ ih =>
    obtain ⟨qs, hparts, hqs⟩ := ih
    refine ⟨p :: qs, ?_, .cons (.refl p) hqs⟩
    rw [List.append_assoc]
    exact .more hclosed hwhole hparts

theorem forall₂_splitOutside (hsep : isBlank sep = false) {x y : List Char} (h : Padded x y) :
    List.Forall₂ Padded (splitOutside sep none x) (splitOutside sep none y) := by
  obtain ⟨a, b, ha, hb, rfl⟩ := h
  obtain ⟨qs, hqs, hleft⟩ := (parts_splitOutside sep none x).blanks_append hsep ha
  obtain ⟨rs, hrs, hright⟩ := hqs.append_blanks hsep hb
  rw [splitOutside_eq_iff.2 hrs]
  refine (forall₂_trans hleft hright).imp ?_
  intro p r hpr
  obtain ⟨q, hpq, hqr⟩ := hpr
  exact hpq.trans hqr

end ChatPlan.Guard
