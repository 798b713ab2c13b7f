import ChatPlan.Proofs.Guard.Clause

/-
Which texts are guards. A text is read exactly if it is blank or written as the grammar says with
any text as a value (`parse_eq_ok_iff`). The documented grammar asks for one literal there, and
nothing checks that: what stands behind the first operator of a clause is its value, be it the rest
of a mistyped operator, two words or a quote that is never closed.
-/
namespace ChatPlan.Guard

open Text

variable {cs p x y sign rest value : List Char} {clauses : List Clause} {clause : Clause} {g : Guard}

/-! ## Conjunctions and guards -/

theorem conjunctionText_iff {Value : List Char → List Char → List Char → Prop} :
    ConjunctionText Value cs clauses ↔
      List.Forall₂ (ClauseText Value) (splitOutside '&' none cs) clauses := by
  simp only [ConjunctionText, ← splitOutside_eq_iff, exists_eq_left']

theorem guardText_iff {Value : List Char → List Char → List Char → Prop} :
    GuardText Value cs g ↔
      List.Forall₂ (ConjunctionText Value) (splitOutside '|' none cs) g.anyOf := by
  simp only [GuardText, ← splitOutside_eq_iff, exists_eq_left']

theorem parseConjunction_eq_ok_iff :
    parseConjunction cs = .ok clauses ↔ ConjunctionText AnyText cs clauses := by
  simp only [parseConjunction, mapM_eq_ok_iff, parseClause_eq_ok_iff, conjunctionText_iff]

/-- Blanks at the ends of a conjunction change nothing. -/
theorem parseConjunction_padded (h : Padded x y) : parseConjunction y = parseConjunction x := by
  rw [parseConjunction, parseConjunction]
  refine (mapM_congr_forall₂ ((forall₂_splitOutside (by decide) h).imp ?_)).symm
  intro p q hpq
  rw [hpq.trim_eq]

theorem parse_eq (s : String) : parse s = if blank s then .ok ⟨[]⟩ else
    ((splitOutside '|' none s.toList).mapM parseConjunction).map Guard.mk := by
  have hblank : (trim s.toList).isEmpty = blank s := by
    rw [Bool.eq_iff_iff, List.isEmpty_iff, trim_eq_nil_iff, blank_iff]
  have hparts : List.Forall₂ Padded (splitOutside '|' none (trim s.toList))
      (splitOutside '|' none s.toList) := forall₂_splitOutside (by decide) (padded_trim s.toList)
  -- the parser trims before it cuts, and this changes the parts by blanks only
  rw [parse, hblank, mapM_congr_forall₂ (hparts.imp fun _ _ h => (parseConjunction_padded h).symm)]

theorem not_blanks_of_clauseText (h : ClauseText AnyText p clause) : ¬Blanks p := by
  intro hp
  have hread := parseClause_of_clauseText h
  rw [trim_eq_nil_iff.2 hp] at hread
  cases hread

/-- A text is read exactly if it is blank or written as the grammar says, with any text as value. -/
theorem parse_eq_ok_iff {s : String} : parse s = .ok g ↔
    blank s = true ∧ g = ⟨[]⟩ ∨ blank s = false ∧ GuardText AnyText s.toList g := by
  rw [parse_eq]
  cases hs : blank s with
  | true => simp [eq_comm]
  | false =>
    simp only [Bool.false_eq_true, ↓reduceIte, false_and, true_and, false_or, map_eq_ok_iff,
      mapM_eq_ok_iff, parseConjunction_eq_ok_iff, guardText_iff]
    constructor
    · intro h
      obtain ⟨anyOf, hparts, rfl⟩ := h
      exact hparts
    · intro h
      exact ⟨g.anyOf, h, rfl⟩

theorem parts_of_blanks {sep : Char} {ps : List (List Char)} (hsep : isBlank sep = false)
    (hcs : Blanks cs) (h : Parts sep none cs ps) : ps = [cs] := by
  have hwhole : IsWhole sep none (cs ++ []) := (isWhole_nil sep none).blanks_append hsep hcs
  rw [List.append_nil] at hwhole
  rw [← splitOutside_eq_iff.2 h, splitOutside_of_isWhole hwhole]

theorem not_blanks_of_guardText (h : GuardText AnyText cs g) : ¬Blanks cs := by
  intro hcs
  obtain ⟨ps, hps, hguard⟩ := h
  obtain rfl := parts_of_blanks (by decide) hcs hps
  obtain ⟨clauses, -, ⟨qs, hqs, hclauses⟩, -, -⟩ := List.forall₂_cons_left_iff.1 hguard
  obtain rfl := parts_of_blanks (by decide) hcs hqs
  obtain ⟨clause, -, hclause, -, -⟩ := List.forall₂_cons_left_iff.1 hclauses
  exact not_blanks_of_clauseText hclause hcs

/-- A text of the grammar is read as the guard that it writes. -/
theorem parse_of_guardText {s : String} (hs : GuardText AnyText s.toList g) : parse s = .ok g := by
  have hblank : blank s = false := by
    refine Bool.eq_false_iff.2 fun h => ?_
    exact not_blanks_of_guardText hs (blank_iff.1 h)
  exact parse_eq_ok_iff.2 (.inr ⟨hblank, hs⟩)

/-! ## Values -/

theorem IsLiteral.ne_nil (h : IsLiteral x value) : x ≠ [] := by
  cases h with
  | quoted => exact List.cons_ne_nil _ _
  | word hne => exact hne

theorem IsLiteral.unquote_eq (h : IsLiteral x value) : unquote x = value := by
  cases h with
  | @quoted q _ hq hbody => simp [unquote, hq]
  | word hne hchars =>
    obtain ⟨c, r, rfl⟩ := List.exists_cons_of_ne_nil hne
    simp [unquote, (hchars c List.mem_cons_self).2.1]

theorem IsLiteral.head_ne (h : IsLiteral x value) : x.head? ≠ some '=' := by
  intro hhead
  cases h with
  | @quoted q _ hq =>
    obtain rfl := Option.some.inj hhead
    cases hq
  | word hne hchars => exact (hchars _ (List.mem_of_mem_head? hhead)).2.2 (by decide)

theorem not_blank_of_isQuote {c : Char} (h : isQuote c = true) : isBlank c = false := by
  cases hb : isBlank c with
  | false => rfl
  | true =>
    rw [isQuote_of_isBlank hb] at h
    cases h

theorem IsLiteral.trim_eq (h : IsLiteral x value) : trim x = x := by
  cases h with
  | @quoted q _ hq =>
    refine trim_eq_self ?_ ?_
    · intro c hc
      obtain rfl := Option.some.inj hc
      exact not_blank_of_isQuote hq
    · intro c hc
      rw [← List.cons_append, List.getLast?_concat] at hc
      obtain rfl := Option.some.inj hc
      exact not_blank_of_isQuote hq
  | word _ hchars =>
    exact trim_eq_self (fun c hc => (hchars c (List.mem_of_mem_head? hc)).1)
      fun c hc => (hchars c (List.mem_of_getLast? hc)).1

/-- One literal is a text, and a text is one literal if it is one when it is trimmed. -/
theorem oneLiteral_iff :
    OneLiteral sign rest value ↔ AnyText sign rest value ∧ ∃ t, IsLiteral (trim rest) t := by
  constructor
  · intro h
    obtain ⟨a, t, b, ha, hb, rfl, ht⟩ := h
    rw [AnyText, trim_between ha hb, ht.trim_eq]
    refine ⟨⟨ht.ne_nil, fun _ hhead => ?_, ht.unquote_eq.symm⟩, value, ht⟩
    cases a with
    | nil =>
      rw [List.nil_append, List.head?_append_of_ne_nil t ht.ne_nil] at hhead
      exact ht.head_ne hhead
    | cons c a =>
      obtain rfl := Option.some.inj hhead
      exact absurd (ha _ List.mem_cons_self) (by decide)
  · intro h
    obtain ⟨⟨-, -, rfl⟩, t, ht⟩ := h
    obtain ⟨a, b, ha, hb, hrest⟩ := exists_trim rest
    exact ⟨a, trim rest, b, ha, hb, hrest, ht.unquote_eq ▸ ht⟩

/-- The text behind the operator of a clause. -/
def valueOf? (p : List Char) : Option (List Char) :=
  (cutOperator none (trim p)).map fun cut => trim cut.2.2

/-- The texts behind the operators of a guard. -/
def values (cs : List Char) : List (List Char) :=
  ((splitOutside '|' none cs).flatMap (splitOutside '&' none)).filterMap valueOf?

theorem clauseText_oneLiteral_iff : ClauseText OneLiteral p clause ↔
    (∀ v, valueOf? p = some v → ∃ t, IsLiteral v t) ∧ ClauseText AnyText p clause := by
  constructor
  · intro h
    cases h with
    | key ha hk hb =>
      obtain ⟨htrim, hcut⟩ := cutOperator_key ha hk hb
      refine ⟨fun v hv => ?_, .key ha hk hb⟩
      rw [valueOf?, htrim, hcut] at hv
      cases hv
    | notKey ha hb hk hc =>
      obtain ⟨htrim, hcut⟩ := cutOperator_notKey ha hb hk hc
      refine ⟨fun v hv => ?_, .notKey ha hb hk hc⟩
      rw [valueOf?, htrim, hcut] at hv
      cases hv
    | compare ha hk hb hsign hvalue =>
      obtain ⟨hany, t, ht⟩ := oneLiteral_iff.1 hvalue
      obtain ⟨x, hx, hcut⟩ := cutOperator_comparison ha hk hb hsign hany.1 hany.2.1
      refine ⟨fun v hv => ⟨t, ?_⟩, .compare ha hk hb hsign hany⟩
      rw [valueOf?, hcut, Option.map_some, Option.some.injEq, trim_append_left hx, trim_trim] at hv
      rwa [← hv]
  · intro h
    obtain ⟨hliteral, htext⟩ := h
    cases htext with
    | key ha hk hb => exact .key ha hk hb
    | notKey ha hb hk hc => exact .notKey ha hb hk hc
    | @compare a k b sign rest value op ha hk hb hsign hvalue =>
      obtain ⟨x, hx, hcut⟩ := cutOperator_comparison ha hk hb hsign hvalue.1 hvalue.2.1
      refine .compare ha hk hb hsign (oneLiteral_iff.2 ⟨hvalue, hliteral _ ?_⟩)
      rw [valueOf?, hcut, Option.map_some, trim_append_left hx, trim_trim]

theorem conjunctionText_oneLiteral_iff : ConjunctionText OneLiteral cs clauses ↔
    (∀ p ∈ splitOutside '&' none cs, ∀ v, valueOf? p = some v → ∃ t, IsLiteral v t) ∧
      ConjunctionText AnyText cs clauses := by
  rw [conjunctionText_iff, conjunctionText_iff, ← List.forall₂_and_left]
  simp only [← clauseText_oneLiteral_iff]

/-- A guard follows the documented grammar if it is read and its values are literals. -/
theorem guardText_oneLiteral_iff : GuardText OneLiteral cs g ↔
    (∀ v ∈ values cs, ∃ t, IsLiteral v t) ∧ GuardText AnyText cs g := by
  have hvalues : (∀ v ∈ values cs, ∃ t, IsLiteral v t) ↔ ∀ q ∈ splitOutside '|' none cs,
      ∀ p ∈ splitOutside '&' none q, ∀ v, valueOf? p = some v → ∃ t, IsLiteral v t := by
    simp only [values, List.mem_filterMap, List.mem_flatMap]
    constructor
    · intro h q hq p hp v hv
      exact h v ⟨p, ⟨q, hq, hp⟩, hv⟩
    · intro h v hmem
      obtain ⟨p, ⟨q, hq, hp⟩, hv⟩ := hmem
      exact h q hq p hp v hv
  rw [hvalues, guardText_iff, guardText_iff, ← List.forall₂_and_left]
  exact ⟨fun h => h.imp fun _ _ => conjunctionText_oneLiteral_iff.1,
    fun h => h.imp fun _ _ => conjunctionText_oneLiteral_iff.2⟩

/-- Accepted are the blank texts and those that the grammar has with any text as a value, each as
the guard that it writes. A text of the documented grammar is accepted, and an accepted text follows
it exactly if every text behind an operator is one literal. -/
theorem accepted_iff (s : String) :
    (∀ g, parse s = .ok g ↔
      blank s = true ∧ g = ⟨[]⟩ ∨ blank s = false ∧ GuardText AnyText s.toList g) ∧
    ∀ g, GuardText OneLiteral s.toList g ↔
      parse s = .ok g ∧ blank s = false ∧ ∀ v ∈ values s.toList, ∃ t, IsLiteral v t := by
  refine ⟨fun g => parse_eq_ok_iff, fun g => ?_⟩
  have hblank : blank s = true → ¬GuardText AnyText s.toList g :=
    fun hs hg => not_blanks_of_guardText hg (blank_iff.1 hs)
  rw [guardText_oneLiteral_iff, parse_eq_ok_iff]
  cases hs : blank s with
  | true => simp [hblank hs]
  | false => simp [and_comm]

/-- A third `=` goes into the value, which is then no literal. -/
theorem accepted_triple_equals :
    ¬∀ s : String, (∃ g, parse s = .ok g) ↔
      blank s = true ∨ ∃ g, GuardText OneLiteral s.toList g := by
  intro h
  have hread : parse "age === 30" = .ok ⟨[[.compare "age" .eq "= 30"]]⟩ := by decide +kernel
  have hvalues : values "age === 30".toList = ["= 30".toList] := by decide +kernel
  rcases (h "age === 30").1 ⟨_, hread⟩ with hblank | ⟨g, hg⟩
  · exact absurd hblank (by decide +kernel)
  · obtain ⟨t, ht⟩ := (guardText_oneLiteral_iff.1 hg).1 "= 30".toList (by rw [hvalues]; exact List.mem_singleton_self _)
    exact ht.head_ne rfl

end ChatPlan.Guard
