import ChatPlan.Proofs.Guard.Written

/-
Guards that are joined as texts. A text whose quotes are closed can be followed by a separator and
another text: the parts of the two stay as they are, apart from blanks at their ends (`Parts.join`).
Behind the separator of clauses, which is none of alternatives, the last part of the first text runs
on into the first part of the second (`Parts.append`), and joins it clause by clause.
-/
namespace ChatPlan.Guard

open Text

variable {sep : Char} {quote : Option Char} {x y p q : List Char} {ps qs : List (List Char)}
  {clauses clauses' : List Clause} {g h : Guard}

/-! ## Parts of joined texts -/

/-- Two texts can stand one behind the other if no pair begins in the first and ends in the
second. -/
theorem IsWhole.append (hp : IsWhole sep quote p) (hclosed : quoteBehind quote p = none)
    (hseam : p.getLast? = some sep → q.head? ≠ some sep) (hq : IsWhole sep none q) :
    IsWhole sep quote (p ++ q) := by
  induction p generalizing quote with
  | nil =>
    obtain rfl : quote = none := hclosed
    exact hq
  | cons c p ih =>
    obtain ⟨hpair, hwhole⟩ := isWhole_cons.1 hp
    cases p with
    | nil =>
      refine isWhole_cons.2 ⟨fun hc hhead => ?_, ih hwhole hclosed nofun⟩
      exact absurd hhead (hseam (by rw [hc]; rfl))
    | cons d p => exact isWhole_cons.2 ⟨hpair, ih hwhole hclosed hseam⟩

/-- What is open behind a pair is what the text behind it opens. -/
theorem quoteBehind_pair (hsep : isQuote sep = false) (hp : quoteBehind quote p = none) :
    quoteBehind quote (p ++ sep :: sep :: q) = quoteBehind none q := by
  have hafter : quoteAfter none sep = none := by simp [quoteAfter, hsep]
  rw [quoteBehind_append, hp, quoteBehind, List.foldl_cons, hafter, List.foldl_cons, hafter]
  rfl

theorem IsWhole.parts_append (hp : IsWhole sep quote p) (hclosed : quoteBehind quote p = none)
    (hseam : p.getLast? = some sep → y.head? ≠ some sep) (hy : Parts sep none y (q :: qs)) :
    Parts sep quote (p ++ y) ((p ++ q) :: qs) := by
  cases hy with
  | last hq => exact .last (hp.append hclosed hseam hq)
  | @more _ _ rest _ hq hqsep hrest =>
    rw [← List.append_assoc]
    refine .more ?_ ?_ hrest
    · rw [quoteBehind_append, hclosed, hq]
    · rw [List.append_assoc]
      refine hp.append hclosed (fun hlast => ?_) hqsep
      -- what stands behind the seam begins alike with the whole pair and with half of it
      have hhead : (q ++ [sep]).head? = (q ++ sep :: sep :: rest).head? := by cases q <;> rfl
      rw [hhead]
      exact hseam hlast

theorem Parts.append {parts : List (List Char)} (hsep : isQuote sep = false)
    (hx : Parts sep quote x parts) (hclosed : quoteBehind quote x = none)
    (hseam : x.getLast? = some sep → y.head? ≠ some sep) (hy : Parts sep none y (q :: qs)) :
    ∃ ps p, parts = ps ++ [p] ∧ (quote = none → quoteBehind none p = none) ∧
      Parts sep quote (x ++ y) (ps ++ (p ++ q) :: qs) := by
  induction hx with
  | last hwhole =>
    exact ⟨[], _, rfl, fun hquote => hquote ▸ hclosed, hwhole.parts_append hclosed hseam hy⟩
  | @more quote r rest parts hr hrsep hrest ih =>
    rw [quoteBehind_pair hsep hr] at hclosed
    have hseam' : rest.getLast? = some sep → y.head? ≠ some sep := by
      intro hlast
      refine hseam ?_
      rw [List.getLast?_append, List.getLast?_cons, List.getLast?_cons, hlast]
      rfl
    obtain ⟨ps, p, rfl, hp, hparts⟩ := ih hclosed hseam'
    refine ⟨r :: ps, p, rfl, fun _ => hp rfl, ?_⟩
    rw [List.append_assoc]
    exact .more hr hrsep hparts

/-- The parts of two texts with a separator between them are those of the two, up to blanks at
their ends. -/
theorem Parts.join (hblank : isBlank sep = false) (hsep : isQuote sep = false)
    (hx : Parts sep none x ps) (hclosed : quoteBehind none x = none) (hy : Parts sep none y qs) :
    ∃ ps' qs', Parts sep none (x ++ ([' ', sep, sep, ' '] ++ y)) (ps' ++ qs') ∧
      List.Forall₂ Padded ps ps' ∧ List.Forall₂ Padded qs qs' := by
  have hspace : Blanks [' '] := .space
  obtain ⟨ps', hps', hleft⟩ := hx.append_blanks hblank hspace
  obtain ⟨qs', hqs', hright⟩ := hy.blanks_append hblank hspace
  have hne : sep ≠ ' ' := by
    rintro rfl
    exact absurd hblank (by decide)
  -- a separator in front of a text is a part of its own, which has nothing in it
  have hpair : Parts sep none (sep :: sep :: ([' '] ++ y)) ([] :: qs') :=
    .more (p := []) rfl (isWhole_cons.2 ⟨nofun, isWhole_nil sep _⟩) hqs'
  have hclosed' : quoteBehind none (x ++ [' ']) = none := by
    rw [quoteBehind_append, hclosed, quoteBehind_blanks hspace]
  obtain ⟨front, p, rfl, -, hparts⟩ := hps'.append hsep hclosed'
    (fun hlast => absurd (by simpa using hlast) (Ne.symm hne)) hpair
  refine ⟨front ++ [p], qs', ?_, hleft, hright⟩
  simpa using hparts

/-! ## Joined conjunctions and guards -/

theorem forall₂_padded {α : Type} {R : List Char → α → Prop} {items : List α}
    (hR : ∀ x y i, Padded x y → R x i → R y i) (h : List.Forall₂ R ps items)
    (hpadded : List.Forall₂ Padded ps qs) : List.Forall₂ R qs items := by
  refine (forall₂_trans (List.Forall₂.flip hpadded) h).imp ?_
  intro y i hyi
  obtain ⟨x, hxy, hxi⟩ := hyi
  exact hR x y i hxy hxi

theorem exists_concat_of_forall₂ {α : Type} {R : List Char → α → Prop} {items : List α}
    (h : List.Forall₂ R (ps ++ [p]) items) :
    ∃ front last, items = front ++ [last] ∧ List.Forall₂ R ps front ∧ R p last := by
  have hfront := List.forall₂_take_append items ps [p] h.flip
  obtain ⟨last, rest, hlast, hnil, hdrop⟩ :=
    List.forall₂_cons_left_iff.1 (List.forall₂_drop_append items ps [p] h.flip).flip
  obtain rfl := List.forall₂_nil_left_iff.1 hnil
  exact ⟨items.take ps.length, last, by rw [← hdrop, List.take_append_drop], hfront.flip, hlast⟩

theorem conjunctionText_and (hx : ConjunctionText AnyText x clauses)
    (hclosed : quoteBehind none x = none) (hy : ConjunctionText AnyText y clauses') :
    ConjunctionText AnyText (x ++ ([' ', '&', '&', ' '] ++ y)) (clauses ++ clauses') := by
  obtain ⟨ps, hps, hclauses⟩ := hx
  obtain ⟨qs, hqs, hclauses'⟩ := hy
  obtain ⟨ps', qs', hparts, hleft, hright⟩ := hps.join (by decide) (by decide) hclosed hqs
  have hpad (x y : List Char) (c : Clause) : Padded x y → ClauseText AnyText x c →
      ClauseText AnyText y c := clauseText_padded
  exact ⟨_, hparts, List.rel_append (forall₂_padded hpad hclauses hleft)
    (forall₂_padded hpad hclauses' hright)⟩

theorem guardText_or (hx : GuardText AnyText x g) (hclosed : quoteBehind none x = none)
    (hy : GuardText AnyText y h) :
    GuardText AnyText (x ++ ([' ', '|', '|', ' '] ++ y)) ⟨g.anyOf ++ h.anyOf⟩ := by
  obtain ⟨ps, hps, hg⟩ := hx
  obtain ⟨qs, hqs, hh⟩ := hy
  obtain ⟨ps', qs', hparts, hleft, hright⟩ := hps.join (by decide) (by decide) hclosed hqs
  have hpad (x y : List Char) (c : List Clause) : Padded x y → ConjunctionText AnyText x c →
      ConjunctionText AnyText y c := conjunctionText_padded
  exact ⟨_, hparts, List.rel_append (forall₂_padded hpad hg hleft)
    (forall₂_padded hpad hh hright)⟩

/-- The separator of clauses is a text without a separator of alternatives. -/
theorem isWhole_glue : IsWhole '|' none [' ', '&', '&', ' '] :=
  IsSolid.isWhole (isSolid_of_all rfl)

theorem guardText_and (hx : GuardText AnyText x g) (hclosed : quoteBehind none x = none)
    (hy : GuardText AnyText y h) :
    ∃ front last first rest, g.anyOf = front ++ [last] ∧ h.anyOf = first :: rest ∧
      GuardText AnyText (x ++ ([' ', '&', '&', ' '] ++ y)) ⟨front ++ (last ++ first) :: rest⟩ := by
  obtain ⟨ps, hps, hg⟩ := hx
  obtain ⟨qs, hqs, hh⟩ := hy
  obtain ⟨first, rest, hfirst⟩ := List.exists_cons_of_ne_nil (hqs.items_ne_nil hh)
  rw [hfirst] at hh
  obtain ⟨q, qs, hq, hrest, rfl⟩ := List.forall₂_cons_right_iff.1 hh
  -- the glue is one part with the beginning of the second text, and so is the end of the first
  have hbehind := isWhole_glue.parts_append rfl (fun hlast => by simp at hlast) hqs
  obtain ⟨front, p, rfl, hp, hparts⟩ :=
    hps.append (by decide) hclosed (fun _ hhead => by simp at hhead) hbehind
  obtain ⟨gs, last, hgs, hfront, hlast⟩ := exists_concat_of_forall₂ hg
  have hjoined := conjunctionText_and hlast (hp rfl) hq
  exact ⟨gs, last, first, rest, hgs, hfirst, _, hparts,
    List.rel_append hfront (.cons hjoined hrest)⟩

/-! ## What joined guards hold of -/

theorem holds_append (resolve : String → String) {as bs : List (List Clause)} (ha : as ≠ [])
    (hb : bs ≠ []) : holds resolve ⟨as ++ bs⟩ = (holds resolve ⟨as⟩ || holds resolve ⟨bs⟩) := by
  have hne : as ++ bs ≠ [] := List.append_ne_nil_of_left_ne_nil ha bs
  simp only [holds, List.isEmpty_eq_false_iff.2 hne, List.isEmpty_eq_false_iff.2 ha,
    List.isEmpty_eq_false_iff.2 hb, List.any_append, Bool.false_or]

theorem holds_singleton_append (resolve : String → String) (clauses clauses' : List Clause) :
    holds resolve ⟨[clauses ++ clauses']⟩ =
      (holds resolve ⟨[clauses]⟩ && holds resolve ⟨[clauses']⟩) := by
  simp [holds]

/-- Two guards can be joined as texts, if the quotes of the first are closed. Behind `||` the second
adds its alternatives. Behind `&&` its first alternative extends the last one of the first guard,
and the others follow. So `||` makes the guard that holds where one of the two holds, and between
guards of one alternative `&&` makes the one that holds where both do. -/
theorem guards_compose {a b : String} (ha : parse a = .ok g) (hb : parse b = .ok h)
    (hna : blank a = false) (hnb : blank b = false) (hclosed : quoteBehind none a.toList = none) :
    parse (a ++ " || " ++ b) = .ok ⟨g.anyOf ++ h.anyOf⟩ ∧
    (∃ front last first rest, g.anyOf = front ++ [last] ∧ h.anyOf = first :: rest ∧
      parse (a ++ " && " ++ b) = .ok ⟨front ++ (last ++ first) :: rest⟩) ∧
    ∀ resolve,
      (parse (a ++ " || " ++ b)).map (holds resolve) = .ok (g.holds resolve || h.holds resolve) ∧
      (g.anyOf.length = 1 → h.anyOf.length = 1 →
        (parse (a ++ " && " ++ b)).map (holds resolve) =
          .ok (g.holds resolve && h.holds resolve)) := by
  have hga : GuardText AnyText a.toList g := by simpa [hna] using parse_eq_ok_iff.1 ha
  have hhb : GuardText AnyText b.toList h := by simpa [hnb] using parse_eq_ok_iff.1 hb
  have hor : parse (a ++ " || " ++ b) = .ok ⟨g.anyOf ++ h.anyOf⟩ :=
    parse_of_guardText (by simpa using guardText_or hga hclosed hhb)
  obtain ⟨front, last, first, rest, hfront, hrest, htext⟩ := guardText_and hga hclosed hhb
  have hand : parse (a ++ " && " ++ b) = .ok ⟨front ++ (last ++ first) :: rest⟩ :=
    parse_of_guardText (by simpa using htext)
  refine ⟨hor, ⟨front, last, first, rest, hfront, hrest, hand⟩, fun resolve => ⟨?_, ?_⟩⟩
  · rw [hor, Except.map,
      holds_append resolve (isKeyed_of_guardText hga).1 (isKeyed_of_guardText hhb).1]
  · intro hgone hhone
    -- with one alternative each, nothing stands in front and nothing follows
    obtain rfl : front = [] := List.length_eq_zero_iff.1 (by simpa [hfront] using hgone)
    obtain rfl : rest = [] := List.length_eq_zero_iff.1 (by simpa [hrest] using hhone)
    have hg : g = ⟨[last]⟩ := congrArg Guard.mk hfront
    have hh : h = ⟨[first]⟩ := congrArg Guard.mk hrest
    rw [hand, hg, hh]
    exact congrArg Except.ok (holds_singleton_append resolve last first)

/-- A guard with a separator in quotes and a quote inside others. -/
def quotedText : String := "größe > 3 || name == \"a || it\x27s\""

/-- A guard with a separator without blanks. -/
def denseText : String := "!done && n = 1||ok"

theorem quotedText_composes :
    parse quotedText =
        .ok ⟨[[.compare "größe" .gt "3"], [.compare "name" .eq "a || it\x27s"]]⟩ ∧
      parse denseText =
        .ok ⟨[[.truthy "done" true, .compare "n" .eq "1"], [.truthy "ok" false]]⟩ ∧
      blank quotedText = false ∧ blank denseText = false ∧
      quoteBehind none quotedText.toList = none ∧
      parse (quotedText ++ " || " ++ denseText) = .ok ⟨[[.compare "größe" .gt "3"],
        [.compare "name" .eq "a || it\x27s"], [.truthy "done" true, .compare "n" .eq "1"],
        [.truthy "ok" false]]⟩ := by
  have hquoted : parse quotedText =
      .ok ⟨[[.compare "größe" .gt "3"], [.compare "name" .eq "a || it\x27s"]]⟩ := by
    decide +kernel
  have hdense : parse denseText =
      .ok ⟨[[.truthy "done" true, .compare "n" .eq "1"], [.truthy "ok" false]]⟩ := by
    decide +kernel
  have hnq : blank quotedText = false := by decide +kernel
  have hnd : blank denseText = false := by decide +kernel
  have hclosed : quoteBehind none quotedText.toList = none := by decide +kernel
  exact ⟨hquoted, hdense, hnq, hnd, hclosed, (guards_compose hquoted hdense hnq hnd hclosed).1⟩

end ChatPlan.Guard
