import ChatPlan.Proofs.Guard.Accepted

/-
Writing guards and reading them back. Alternatives are joined by ` || `, clauses by ` && `, and a
value stands in quotes of a kind that it does not have. Inside its quotes a value can have
separators, operators and blanks: the parts that the parser cuts are the ones that were joined
(`parts_intercalate`), and each of them is the text of its clause. What the parser accepts is in
turn a guard over keys, so that only the quotes of values stand between the two.
-/
namespace ChatPlan

open Guard

/-- The quote in which a value is written. -/
def quoteFor (value : List Char) : Char := if '"' ∈ value then '\x27' else '"'

/-- A clause as a text, with these signs for the operators. -/
def Clause.written (sign : Comparison → List Char) : Clause → List Char
  | .truthy key false => key.toList
  | .truthy key true => '!' :: key.toList
  | .compare key op value =>
    key.toList ++ ' ' :: (sign op ++ ' ' :: quoteFor value.toList ::
      (value.toList ++ [quoteFor value.toList]))

/-- The value of a clause has quotes of one kind at most. -/
def Clause.IsQuotable : Clause → Prop
  | .compare _ _ value => '"' ∉ value.toList ∨ '\x27' ∉ value.toList
  | .truthy _ _ => True

instance : DecidablePred Clause.IsQuotable
  | .compare _ _ value => inferInstanceAs (Decidable ('"' ∉ value.toList ∨ '\x27' ∉ value.toList))
  | .truthy _ _ => inferInstanceAs (Decidable True)

namespace Guard

open Text

variable {sep c q : Char} {a b x y : List Char} {xs : List (List Char)}
  {sign : Comparison → List Char} {clauses : List Clause} {clause : Clause} {g : Guard}

/-- A conjunction as a text. -/
def writtenConjunction (sign : Comparison → List Char) (clauses : List Clause) : List Char :=
  [' ', '&', '&', ' '].intercalate (clauses.map (Clause.written sign))

/-- A guard as a text. -/
def written (sign : Comparison → List Char) (g : Guard) : String :=
  String.ofList ([' ', '|', '|', ' '].intercalate (g.anyOf.map (writtenConjunction sign)))

/-! ## Texts without separators -/

/-- Quotes are closed at the end of the text, and `sep` stands inside quotes only. -/
def IsSolid (sep : Char) (cs : List Char) : Prop :=
  quoteBehind none cs = none ∧ ∀ a b, cs = a ++ sep :: b → quoteBehind none a ≠ none

/-- A separator outside quotes stands behind a solid text. -/
theorem IsSolid.of_append_eq (ha : IsSolid sep a) (h : a ++ b = x ++ sep :: y) :
    quoteBehind none x ≠ none ∨ ∃ z, x = a ++ z ∧ b = z ++ sep :: y := by
  rcases List.append_eq_append_iff.1 h with ⟨z, rfl, hb⟩ | ⟨z, rfl, hz⟩
  · exact .inr ⟨z, rfl, hb⟩
  · cases z with
    | nil => exact .inr ⟨[], by simp, hz.symm⟩
    | cons c z =>
      obtain ⟨rfl, -⟩ := List.cons.inj hz
      exact .inl (ha.2 x z rfl)

theorem IsSolid.append (ha : IsSolid sep a) (hb : IsSolid sep b) : IsSolid sep (a ++ b) := by
  refine ⟨by rw [quoteBehind_append, ha.1, hb.1], ?_⟩
  intro x y h
  rcases ha.of_append_eq h with hx | ⟨z, rfl, hz⟩
  · exact hx
  · rw [quoteBehind_append, ha.1]
    exact hb.2 z y hz

theorem IsSolid.intercalate {glue : List Char} (hglue : IsSolid sep glue)
    (h : ∀ x ∈ xs, IsSolid sep x) : IsSolid sep (glue.intercalate xs) := by
  induction xs with
  | nil => exact ⟨rfl, fun a b hab => by simp at hab⟩
  | cons x xs ih =>
    have hx := h x List.mem_cons_self
    have hxs := ih fun y hy => h y (List.mem_cons_of_mem x hy)
    cases xs with
    | nil => simpa using hx
    | cons y xs =>
      rw [List.intercalate_cons_cons]
      exact (hx.append hglue).append hxs

theorem isSolid_of_forall (h : ∀ c ∈ x, isQuote c = false ∧ c ≠ sep) : IsSolid sep x := by
  refine ⟨quoteBehind_of_forall fun c hc => (h c hc).1, ?_⟩
  intro a b hab
  exact absurd rfl (h sep (by simp [hab])).2

theorem isSolid_of_all (h : x.all (fun c => !isQuote c && c != sep) = true) : IsSolid sep x := by
  refine isSolid_of_forall fun c hc => ?_
  have hgood := List.all_eq_true.1 h c hc
  simpa using hgood

theorem quoteBehind_of_notMem (h : q ∉ x) : quoteBehind (some q) x = some q := by
  induction x with
  | nil => rfl
  | cons c x ih =>
    have hc : quoteAfter (some q) c = some q := by
      simp [quoteAfter, Ne.symm (List.ne_of_not_mem_cons h)]
    rw [quoteBehind, List.foldl_cons, hc]
    exact ih fun hx => h (List.mem_cons_of_mem c hx)

/-- Inside its quotes a text can have any characters. -/
theorem isSolid_quoted (hsep : isQuote sep = false) (hq : isQuote q = true) (hx : q ∉ x) :
    IsSolid sep (q :: (x ++ [q])) := by
  have hopen : quoteAfter none q = some q := by simp [quoteAfter, hq]
  refine ⟨?_, ?_⟩
  · rw [quoteBehind, List.foldl_cons, hopen, List.foldl_append]
    change quoteAfter (quoteBehind (some q) x) q = none
    rw [quoteBehind_of_notMem hx]
    simp [quoteAfter]
  · intro a b h
    cases a with
    | nil =>
      obtain ⟨rfl, -⟩ := List.cons.inj h
      rw [hsep] at hq
      cases hq
    | cons c a =>
      obtain ⟨rfl, hrest⟩ := List.cons.inj h
      -- the separator is not the last quote, so all in front of it stands in the quoted text
      have hbefore : a <+: x := by
        rcases List.append_eq_append_iff.1 hrest.symm with ⟨z, rfl, -⟩ | ⟨z, rfl, hz⟩
        · exact List.prefix_append a z
        · cases z with
          | nil => simp
          | cons d z =>
            have hlen := congrArg List.length hz
            simp at hlen
      rw [quoteBehind, List.foldl_cons, hopen]
      change quoteBehind (some q) a ≠ none
      rw [quoteBehind_of_notMem fun hmem => hx (hbefore.subset hmem)]
      exact Option.some_ne_none q

theorem IsSolid.isWhole_append (ha : IsSolid sep a) (hb : IsWhole sep none b) :
    IsWhole sep none (a ++ b) := by
  intro x y h
  rcases ha.of_append_eq h with hx | ⟨z, rfl, hz⟩
  · exact hx
  · rw [quoteBehind_append, ha.1]
    exact hb z y hz

theorem IsSolid.isWhole (h : IsSolid sep x) : IsWhole sep none x := by
  simpa using h.isWhole_append (isWhole_nil sep none)

/-- The parts of joined texts are these texts, with the blanks of the glue at their ends. -/
theorem parts_intercalate (hblank : isBlank sep = false)
    (hne : xs ≠ []) (h : ∀ x ∈ xs, IsSolid sep x) :
    ∃ ps, Parts sep none ([' ', sep, sep, ' '].intercalate xs) ps ∧ List.Forall₂ Padded xs ps := by
  have hspace : Blanks [' '] := .space
  induction xs with
  | nil => exact absurd rfl hne
  | cons x xs ih =>
    have hx := h x List.mem_cons_self
    cases xs with
    | nil =>
      rw [List.intercalate_singleton]
      exact ⟨[x], .last hx.isWhole, .cons (.refl x) .nil⟩
    | cons y xs =>
      obtain ⟨ps, hps, hpadded⟩ :=
        ih (List.cons_ne_nil y xs) fun z hz => h z (List.mem_cons_of_mem x hz)
      -- of the glue, one blank ends this part and the other begins the next one
      obtain ⟨qs, hqs, hmore⟩ := hps.blanks_append hblank hspace
      have hend : IsWhole sep none [' ', sep] := by
        have hone : IsWhole sep none [sep] := isWhole_cons.2 ⟨by simp, isWhole_nil sep _⟩
        exact hone.blanks_append hblank hspace
      refine ⟨(x ++ [' ']) :: qs, ?_, .cons ⟨[], [' '], .nil, hspace, by simp⟩
        ((forall₂_trans hpadded hmore).imp fun _ _ ⟨_, hpq, hqr⟩ => Padded.trans hpq hqr)⟩
      have hglue : [' ', sep, sep, ' '].intercalate (x :: y :: xs) =
          (x ++ [' ']) ++ sep :: sep :: ([' '] ++ [' ', sep, sep, ' '].intercalate (y :: xs)) := by
        simp [List.intercalate_cons_cons]
      rw [hglue]
      refine .more ?_ ?_ hqs
      · rw [quoteBehind_append, hx.1, quoteBehind_blanks hspace]
      · simpa using hx.isWhole_append hend

/-! ## Reading back -/

theorem isQuote_quoteFor (value : List Char) : isQuote (quoteFor value) = true := by
  rw [quoteFor]
  split <;> rfl

theorem quoteFor_notMem {value : List Char} (h : '"' ∉ value ∨ '\x27' ∉ value) :
    quoteFor value ∉ value := by
  rw [quoteFor]
  split
  · rename_i hmem
    exact h.resolve_left (not_not_intro hmem)
  · assumption

theorem isSolid_of_isKey {k : List Char} (hsep : sep ∈ ['=', '<', '>', '!', '&', '|'])
    (hk : IsKey k) : IsSolid sep k := by
  refine isSolid_of_forall fun c hc => ⟨(hk.isPlain hc).2.1, ?_⟩
  rintro rfl
  exact (hk.isPlain hc).2.2 hsep

theorem isSolid_sign {s : List Char} {op : Comparison} (hsep : sep ∈ ['&', '|'])
    (hs : s ∈ op.spellings) : IsSolid sep s := by
  have hall : op.spellings.all (·.all fun c => !isQuote c && c != sep) = true := by
    rcases List.mem_pair.1 hsep with rfl | rfl <;> cases op <;> rfl
  exact isSolid_of_all (List.all_eq_true.1 hall s hs)

theorem isSolid_written (hsep : sep ∈ ['&', '|']) (hsign : ∀ op, sign op ∈ op.spellings)
    (hkey : IsKey clause.key.toList) (hvalue : clause.IsQuotable) :
    IsSolid sep (clause.written sign) := by
  have hmeaning : sep ∈ ['=', '<', '>', '!', '&', '|'] :=
    List.mem_append_right ['=', '<', '>', '!'] hsep
  have hquote : isQuote sep = false := by
    rcases List.mem_pair.1 hsep with rfl | rfl <;> rfl
  have hmark : IsSolid sep ['!'] ∧ IsSolid sep [' '] := by
    rcases List.mem_pair.1 hsep with rfl | rfl <;> exact ⟨isSolid_of_all rfl, isSolid_of_all rfl⟩
  cases clause with
  | truthy key negated =>
    have hk : IsSolid sep key.toList := isSolid_of_isKey hmeaning hkey
    cases negated with
    | false => exact hk
    | true => exact hmark.1.append hk
  | compare key op value =>
    have hk : IsSolid sep key.toList := isSolid_of_isKey hmeaning hkey
    have hop : IsSolid sep (sign op) := isSolid_sign hsep (hsign op)
    have hv : IsSolid sep (quoteFor value.toList :: (value.toList ++ [quoteFor value.toList])) :=
      isSolid_quoted hquote (isQuote_quoteFor _) (quoteFor_notMem hvalue)
    exact hk.append (hmark.2.append (hop.append (hmark.2.append hv)))

theorem clauseText_written (hsign : ∀ op, sign op ∈ op.spellings)
    (hkey : IsKey clause.key.toList) (hvalue : clause.IsQuotable) :
    ClauseText OneLiteral (clause.written sign) clause := by
  have hspace : Blanks [' '] := .space
  cases clause with
  | truthy key negated =>
    have hk : IsKey key.toList := hkey
    cases negated with
    | false => simpa [Clause.written] using ClauseText.key .nil hk .nil
    | true => simpa [Clause.written] using ClauseText.notKey .nil .nil hk .nil
  | compare key op value =>
    have hk : IsKey key.toList := hkey
    have hliteral : OneLiteral (sign op)
        (' ' :: quoteFor value.toList :: (value.toList ++ [quoteFor value.toList])) value.toList :=
      ⟨[' '], _, [], hspace, .nil, by simp,
        .quoted (isQuote_quoteFor _) (quoteFor_notMem hvalue)⟩
    simpa [Clause.written] using ClauseText.compare .nil hk hspace (hsign op) hliteral

theorem clauseText_padded (h : Padded x y) (hx : ClauseText AnyText x clause) :
    ClauseText AnyText y clause := by
  rw [← parseClause_eq_ok_iff] at hx ⊢
  rwa [h.trim_eq]

theorem conjunctionText_padded (h : Padded x y) (hx : ConjunctionText AnyText x clauses) :
    ConjunctionText AnyText y clauses := by
  rw [← parseConjunction_eq_ok_iff] at hx ⊢
  rwa [parseConjunction_padded h]

/-- Texts that are joined are found again with blanks at their ends, item by item. -/
theorem forall₂_of_padded {α : Type} {R : List Char → α → Prop} {f : α → List Char} {items : List α}
    {ps : List (List Char)} (h : List.Forall₂ Padded (items.map f) ps)
    (hR : ∀ i ∈ items, ∀ p, Padded (f i) p → R p i) : List.Forall₂ R ps items := by
  have hitems := List.forall₂_and_left items ps |>.2 ⟨hR, List.forall₂_map_left_iff.1 h⟩
  exact (hitems.imp fun i p hip => hip.1 p hip.2).flip

theorem conjunctionText_written (hsign : ∀ op, sign op ∈ op.spellings) (hne : clauses ≠ [])
    (hkeys : ∀ c ∈ clauses, IsKey c.key.toList) (hvalues : ∀ c ∈ clauses, c.IsQuotable) :
    ConjunctionText AnyText (writtenConjunction sign clauses) clauses := by
  have hsolid : ∀ x ∈ clauses.map (Clause.written sign), IsSolid '&' x := by
    intro x hx
    obtain ⟨c, hc, rfl⟩ := List.mem_map.1 hx
    exact isSolid_written (by decide) hsign (hkeys c hc) (hvalues c hc)
  obtain ⟨ps, hps, hpadded⟩ := parts_intercalate (by decide) (by simpa using hne) hsolid
  refine ⟨ps, hps, forall₂_of_padded hpadded ?_⟩
  intro c hc p hp
  have htext := clauseText_written hsign (hkeys c hc) (hvalues c hc)
  exact clauseText_padded hp (clauseText_oneLiteral_iff.1 htext).2

/-- A guard over keys is written as a text of the grammar. -/
theorem guardText_written (hsign : ∀ op, sign op ∈ op.spellings) (hkeyed : g.IsKeyed)
    (hvalues : ∀ clauses ∈ g.anyOf, ∀ c ∈ clauses, c.IsQuotable) :
    GuardText AnyText (g.written sign).toList g := by
  obtain ⟨hne, hclauses⟩ := hkeyed
  have hglue : IsSolid '|' [' ', '&', '&', ' '] := isSolid_of_all rfl
  have hsolid : ∀ x ∈ g.anyOf.map (writtenConjunction sign), IsSolid '|' x := by
    intro x hx
    obtain ⟨clauses, hmem, rfl⟩ := List.mem_map.1 hx
    refine hglue.intercalate fun y hy => ?_
    obtain ⟨c, hc, rfl⟩ := List.mem_map.1 hy
    exact isSolid_written (by decide) hsign ((hclauses clauses hmem).2 c hc)
      (hvalues clauses hmem c hc)
  obtain ⟨ps, hps, hpadded⟩ := parts_intercalate (by decide) (by simpa using hne) hsolid
  refine ⟨ps, by rwa [written, String.toList_ofList], forall₂_of_padded hpadded ?_⟩
  intro clauses hmem p hp
  obtain ⟨hne, hkeys⟩ := hclauses clauses hmem
  exact conjunctionText_padded hp (conjunctionText_written hsign hne hkeys (hvalues clauses hmem))

/-- What a guard is written as is read back as this guard. -/
theorem parse_written (hsign : ∀ op, sign op ∈ op.spellings) (hkeyed : g.IsKeyed)
    (hvalues : ∀ clauses ∈ g.anyOf, ∀ c ∈ clauses, c.IsQuotable) :
    parse (g.written sign) = .ok g :=
  parse_of_guardText (guardText_written hsign hkeyed hvalues)

/-! ## What is read -/

theorem isKey_of_clauseText {Value : List Char → List Char → List Char → Prop}
    (h : ClauseText Value x clause) : IsKey clause.key.toList := by
  cases h with
  | key _ hk | notKey _ _ hk | compare _ hk => simpa [Clause.key] using hk

theorem Parts.items_ne_nil {α : Type} {R : List Char → α → Prop} {ps : List (List Char)}
    {items : List α} {quote : Option Char} (h : Parts sep quote x ps)
    (hitems : List.Forall₂ R ps items) : items ≠ [] := by
  rintro rfl
  obtain rfl := List.forall₂_nil_right_iff.1 hitems
  cases h

theorem isKeyed_of_guardText {Value : List Char → List Char → List Char → Prop}
    (h : GuardText Value x g) : g.IsKeyed := by
  obtain ⟨ps, hps, hguard⟩ := h
  refine ⟨hps.items_ne_nil hguard, fun clauses hmem => ?_⟩
  obtain ⟨p, -, qs, hqs, hclauses⟩ := exists_mem_of_forall₂ hguard hmem
  refine ⟨hqs.items_ne_nil hclauses, fun clause hc => ?_⟩
  obtain ⟨q, -, hclause⟩ := exists_mem_of_forall₂ hclauses hc
  exact isKey_of_clauseText hclause

/-- Guards over keys, whose values have quotes of one kind at most, are read back from what they are
written as, and what is read from a text that is not blank is a guard over keys. -/
theorem written_read_back (hsign : ∀ op, sign op ∈ op.spellings) :
    (∀ g : Guard, g.IsKeyed → (∀ clauses ∈ g.anyOf, ∀ c ∈ clauses, c.IsQuotable) →
      parse (g.written sign) = .ok g) ∧
    ∀ s g, parse s = .ok g → blank s = false → g.IsKeyed := by
  refine ⟨fun g => parse_written hsign, ?_⟩
  intro s g hread hs
  rcases parse_eq_ok_iff.1 hread with ⟨hblank, -⟩ | ⟨-, htext⟩
  · rw [hs] at hblank
    cases hblank
  · exact isKeyed_of_guardText htext

/-- Each operator with its first spelling. -/
def firstSpelling (op : Comparison) : List Char := op.spellings.headD []

/-- A guard whose values have separators, operators, quotes and blanks. -/
def mixedGuard : Guard := ⟨[
  [.compare "größe.a_1" .ge "x||y && \"z\"", .truthy "ok" true],
  [.compare "k" .ne "it\x27s >= 3", .compare "k" .eq "", .truthy "名" false]]⟩

theorem mixedGuard_read_back :
    (∀ op, firstSpelling op ∈ op.spellings) ∧ mixedGuard.IsKeyed ∧
      (∀ clauses ∈ mixedGuard.anyOf, ∀ c ∈ clauses, c.IsQuotable) ∧
      parse (mixedGuard.written firstSpelling) = .ok mixedGuard ∧
      blank (mixedGuard.written firstSpelling) = false := by
  have hsign : ∀ op, firstSpelling op ∈ op.spellings := by
    intro op
    cases op <;> decide
  have hkeyed : mixedGuard.IsKeyed := by decide +kernel
  have hvalues : ∀ clauses ∈ mixedGuard.anyOf, ∀ c ∈ clauses, c.IsQuotable := by decide +kernel
  exact ⟨hsign, hkeyed, hvalues, (written_read_back hsign).1 mixedGuard hkeyed hvalues,
    by decide +kernel⟩

end Guard

end ChatPlan
