import ChatPlan.Proofs.Guard.Grammar
import ChatPlan.Proofs.Guard.Split

/-
Single clauses. An operator is found where the first one stands behind a key
(`cutOperator_of_plain`), and a clause is read exactly from the texts that the grammar gives it,
with any text as a value (`parseClause_eq_ok_iff`).
-/
namespace ChatPlan.Guard

open Text

variable {c : Char} {quote : Option Char} {cs k before sign rest p : List Char} {op : Comparison}

/-! ## Operators -/

theorem head?_ne_of_forall (h : ∀ r, cs = c :: r → False) : cs.head? ≠ some c := by
  intro hhead
  obtain ⟨r, rfl⟩ := List.head?_eq_some_iff.1 hhead
  exact h r rfl

/-- The operator with which a text starts is as long as it can be. -/
theorem operatorAt_eq_some_iff : operatorAt cs = some (op, rest) ↔
    ∃ sign ∈ op.spellings, cs = sign ++ rest ∧ (sign.length = 1 → rest.head? ≠ some '=') := by
  constructor
  · intro h
    -- the seven ways to start; where an operator has one character, no `=` follows it
    unfold operatorAt at h
    split at h
    case h_8 => cases h
    all_goals obtain ⟨rfl, rfl⟩ := Prod.mk.inj (Option.some.inj h)
    case h_1 => exact ⟨['!', '='], by decide, rfl, by simp⟩
    case h_2 => exact ⟨['=', '='], by decide, rfl, by simp⟩
    case h_3 r hne => exact ⟨['='], by decide, rfl, fun _ => head?_ne_of_forall hne⟩
    case h_4 => exact ⟨['>', '='], by decide, rfl, by simp⟩
    case h_5 r hne => exact ⟨['>'], by decide, rfl, fun _ => head?_ne_of_forall hne⟩
    case h_6 => exact ⟨['<', '='], by decide, rfl, by simp⟩
    case h_7 r hne => exact ⟨['<'], by decide, rfl, fun _ => head?_ne_of_forall hne⟩
  · intro h
    obtain ⟨sign, hsign, rfl, hlong⟩ := h
    have hnext (hone : sign.length = 1) (r : List Char) (hr : rest = '=' :: r) : False :=
      hlong hone (by rw [hr]; rfl)
    cases op with
    | ne | ge | le =>
      obtain rfl := List.mem_singleton.1 hsign
      rfl
    | eq =>
      rcases List.mem_cons.1 hsign with rfl | hsign
      · rfl
      · obtain rfl := List.mem_singleton.1 hsign
        exact operatorAt.eq_3 rest (hnext rfl)
    | gt =>
      obtain rfl := List.mem_singleton.1 hsign
      exact operatorAt.eq_5 rest (hnext rfl)
    | lt =>
      obtain rfl := List.mem_singleton.1 hsign
      exact operatorAt.eq_7 rest (hnext rfl)

theorem exists_mem_sign (h : sign ∈ op.spellings) : ∃ c ∈ sign, c ∈ ['=', '<', '>'] := by
  cases op with
  | eq =>
    rcases List.mem_cons.1 h with rfl | h
    · exact ⟨'=', by decide, by decide⟩
    · obtain rfl := List.mem_singleton.1 h
      exact ⟨'=', by decide, by decide⟩
  | ne | ge | le =>
    obtain rfl := List.mem_singleton.1 h
    exact ⟨'=', by decide, by decide⟩
  | gt =>
    obtain rfl := List.mem_singleton.1 h
    exact ⟨'>', by decide, by decide⟩
  | lt =>
    obtain rfl := List.mem_singleton.1 h
    exact ⟨'<', by decide, by decide⟩

theorem operatorAt_cons_eq_none (hc : c ∉ ['=', '<', '>', '!']) (cs : List Char) :
    operatorAt (c :: cs) = none := by
  unfold operatorAt
  split
  case h_8 => rfl
  all_goals
    rename_i heq
    cases heq
    simp at hc

theorem operatorAt_of_cutOperator (h : cutOperator quote cs = some (before, op, rest)) :
    ∃ tail, cs = before ++ tail ∧ operatorAt tail = some (op, rest) := by
  induction cs generalizing quote before with
  | nil => cases h
  | cons c cs ih =>
    rw [cutOperator] at h
    split at h
    · rename_i op' r hop
      obtain ⟨rfl, rfl, rfl⟩ : [] = before ∧ op' = op ∧ r = rest := by simpa using h
      split at hop
      · exact ⟨c :: cs, rfl, hop⟩
      · cases hop
    · obtain ⟨⟨key, op', r⟩, hcut, heq⟩ := Option.map_eq_some_iff.1 h
      obtain ⟨rfl, rfl, rfl⟩ : c :: key = before ∧ op' = op ∧ r = rest := by simpa using heq
      obtain ⟨tail, rfl, htail⟩ := ih hcut
      exact ⟨tail, rfl, htail⟩

theorem cutOperator_of_plain {tail : List Char}
    (hbefore : ∀ c ∈ before, isQuote c = false ∧ c ∉ ['=', '<', '>', '!'])
    (h : operatorAt tail = some (op, rest)) :
    cutOperator none (before ++ tail) = some (before, op, rest) := by
  induction before with
  | nil =>
    cases tail with
    | nil => cases h
    | cons c cs => simp [cutOperator, h]
  | cons c before ih =>
    obtain ⟨hquote, hchar⟩ := hbefore c List.mem_cons_self
    have hafter : quoteAfter none c = none := by simp [quoteAfter, hquote]
    rw [List.cons_append, cutOperator, Option.isNone_none, if_pos rfl,
      operatorAt_cons_eq_none hchar, hafter, ih fun d hd => hbefore d (List.mem_cons_of_mem c hd)]
    rfl

theorem cutOperator_eq_none (h : ∀ c ∈ cs, c ∉ ['=', '<', '>']) : cutOperator quote cs = none := by
  cases hcut : cutOperator quote cs with
  | none => rfl
  | some r =>
    obtain ⟨tail, rfl, htail⟩ := operatorAt_of_cutOperator hcut
    obtain ⟨sign, hsign, rfl, -⟩ := operatorAt_eq_some_iff.1 htail
    obtain ⟨c, hc, hmem⟩ := exists_mem_sign hsign
    exact absurd hmem (h c (by simp [hc]))

/-! ## Clauses -/

/-- A text that is cut at an operator is a comparison, if it has a key and a value. -/
theorem parseClause_of_cut {clause : Clause} (h : cutOperator none cs = some (before, op, rest)) :
    parseClause cs = .ok clause ↔ IsKey (trim before) ∧ trim rest ≠ [] ∧
      clause = .compare (String.ofList (trim before)) op (String.ofList (unquote (trim rest))) := by
  have hne : cs.isEmpty = false := by
    cases cs with
    | nil => cases h
    | cons c cs => rfl
  unfold parseClause
  rw [hne, if_neg Bool.false_ne_true]
  split
  · rename_i hnone
    rw [h] at hnone
    cases hnone
  · rename_i before' op' rest' hcut
    obtain ⟨rfl, rfl, rfl⟩ : before = before' ∧ op = op' ∧ rest = rest' := by simpa [h] using hcut
    by_cases hkey : trim before = []
    · have hnot : ¬IsKey (trim before) := fun hk => hk.ne_nil hkey
      simp only [hkey, List.isEmpty_nil, ↓reduceIte]
      exact ⟨fun hthrow => (nomatch hthrow), fun hk => absurd hk.1 (hkey ▸ hnot)⟩
    · simp only [List.isEmpty_iff, hkey, ↓reduceIte, bind_eq_ok_iff, checkKey_eq_ok_iff]
      constructor
      · intro hread
        obtain ⟨key, ⟨hk, rfl⟩, hvalue⟩ := hread
        split at hvalue
        · cases hvalue
        · rename_i hne
          exact ⟨hk, hne, (pure_eq_ok_iff.1 hvalue).symm⟩
      · intro hread
        obtain ⟨hk, hne, rfl⟩ := hread
        exact ⟨_, ⟨hk, rfl⟩, by rw [if_neg hne]; rfl⟩

/-- A text without operator is a key, or a key behind `!`. -/
theorem parseClause_of_uncut {clause : Clause} (h : cutOperator none cs = none) :
    parseClause cs = .ok clause ↔
      (∃ r, cs = '!' :: r ∧ IsKey (trim r) ∧ clause = .truthy (String.ofList (trim r)) true) ∨
        IsKey cs ∧ clause = .truthy (String.ofList cs) false := by
  have hnot (r : List Char) : ¬IsKey ('!' :: r) := fun hk =>
    absurd (hk.isPlain List.mem_cons_self).2.2 (by decide)
  unfold parseClause
  split
  · rename_i hempty
    obtain rfl := List.isEmpty_iff.1 hempty
    have hnil : ¬IsKey [] := fun hk => hk.ne_nil rfl
    simp [hnil]
  · rw [h]
    dsimp only
    split
    · rename_i r _
      rw [map_eq_ok_iff]
      constructor
      · intro hread
        obtain ⟨key, hkey, rfl⟩ := hread
        obtain ⟨hk, rfl⟩ := checkKey_eq_ok_iff.1 hkey
        exact .inl ⟨r, rfl, hk, rfl⟩
      · intro hread
        rcases hread with ⟨r', hr, hk, rfl⟩ | ⟨hk, -⟩
        · obtain rfl := (List.cons.inj hr).2
          exact ⟨_, checkKey_eq_ok_iff.2 ⟨hk, rfl⟩, rfl⟩
        · exact absurd hk (hnot r)
    · rename_i hne
      rw [map_eq_ok_iff]
      constructor
      · intro hread
        obtain ⟨key, hkey, rfl⟩ := hread
        obtain ⟨hk, rfl⟩ := checkKey_eq_ok_iff.1 hkey
        exact .inr ⟨hk, rfl⟩
      · intro hread
        rcases hread with ⟨r, rfl, -⟩ | ⟨hk, rfl⟩
        · exact absurd rfl (hne r)
        · exact ⟨_, checkKey_eq_ok_iff.2 ⟨hk, rfl⟩, rfl⟩

theorem notMem_of_isBlank (h : isBlank c = true) : c ∉ ['=', '<', '>', '!'] := by
  intro hmem
  simp only [List.mem_cons, List.not_mem_nil, or_false] at hmem
  rcases hmem with rfl | rfl | rfl | rfl <;> exact absurd h (by decide)

theorem AnyText.append_blanks {value b : List Char} (h : AnyText sign rest value) (hb : Blanks b) :
    AnyText sign (rest ++ b) value := by
  obtain ⟨hne, hlong, rfl⟩ := h
  have hrest : rest ≠ [] := by
    rintro rfl
    exact hne rfl
  rw [AnyText, trim_append_right hb, List.head?_append_of_ne_nil rest hrest]
  exact ⟨hne, hlong, rfl⟩

theorem cutOperator_comparison {a b : List Char} (ha : Blanks a) (hk : IsKey k) (hb : Blanks b)
    (hsign : sign ∈ op.spellings) (hne : trim rest ≠ [])
    (hlong : sign.length = 1 → rest.head? ≠ some '=') :
    ∃ x, Blanks x ∧ cutOperator none (trim (a ++ (k ++ b) ++ (sign ++ rest))) =
      some (k ++ b, op, x ++ trim rest) := by
  obtain ⟨x, y, hx, hy, hrest⟩ := exists_trim rest
  -- trimming takes `a` and `y` away and stops at the key and at the value
  have hends : trim (k ++ (b ++ (sign ++ x)) ++ trim rest) =
      k ++ (b ++ (sign ++ x)) ++ trim rest := by
    refine trim_append_eq_self (by simp [hk.ne_nil]) ?_ hne fun _ => isBlank_of_getLast?_trim
    rw [List.head?_append_of_ne_nil k hk.ne_nil]
    exact hk.head_not_blank
  have hassoc : a ++ (k ++ b) ++ (sign ++ (x ++ trim rest ++ y)) =
      a ++ (k ++ (b ++ (sign ++ x)) ++ trim rest) ++ y := by simp [List.append_assoc]
  have htext : trim (a ++ (k ++ b) ++ (sign ++ rest)) = (k ++ b) ++ (sign ++ (x ++ trim rest)) := by
    conv_lhs => rw [hrest, hassoc, trim_between ha hy, hends]
    simp [List.append_assoc]
  have hop : operatorAt (sign ++ (x ++ trim rest)) = some (op, x ++ trim rest) := by
    refine operatorAt_eq_some_iff.2 ⟨sign, hsign, rfl, ?_⟩
    rwa [hrest, List.head?_append_of_ne_nil _ (by simp [hne])] at hlong
  have hplain : ∀ d ∈ k ++ b, isQuote d = false ∧ d ∉ ['=', '<', '>', '!'] := by
    intro d hd
    rcases List.mem_append.1 hd with hd | hd
    · exact ⟨(hk.isPlain hd).2.1, notMem_of_isPlain (hk.isPlain hd)⟩
    · exact ⟨isQuote_of_isBlank (hb d hd), notMem_of_isBlank (hb d hd)⟩
  exact ⟨x, hx, by rw [htext, cutOperator_of_plain hplain hop]⟩

theorem cutOperator_key {a b : List Char} (ha : Blanks a) (hk : IsKey k) (hb : Blanks b) :
    trim (a ++ k ++ b) = k ∧ cutOperator none k = none :=
  ⟨by rw [trim_between ha hb, hk.trim_eq], cutOperator_eq_none fun _ hc hmem =>
    notMem_of_isPlain (hk.isPlain hc) (List.mem_append_left ['!'] hmem)⟩

theorem cutOperator_notKey {a b c : List Char} (ha : Blanks a) (hb : Blanks b) (hk : IsKey k)
    (hc : Blanks c) : trim (a ++ '!' :: (b ++ k) ++ c) = '!' :: (b ++ k) ∧
      cutOperator none ('!' :: (b ++ k)) = none := by
  have htrim : trim ('!' :: b ++ k) = '!' :: b ++ k := by
    refine trim_append_eq_self (List.cons_ne_nil _ _) ?_ hk.ne_nil hk.last_not_blank
    intro d hd
    obtain rfl : '!' = d := Option.some.inj hd
    decide
  refine ⟨by rw [trim_between ha hc, ← List.cons_append, htrim], ?_⟩
  refine cutOperator_eq_none fun d hd hmem => ?_
  rcases List.mem_cons.1 hd with rfl | hd
  · exact absurd hmem (by decide)
  · rcases List.mem_append.1 hd with hd | hd
    · exact notMem_of_isBlank (hb d hd) (List.mem_append_left ['!'] hmem)
    · exact notMem_of_isPlain (hk.isPlain hd) (List.mem_append_left ['!'] hmem)

theorem clauseText_of_parseClause {clause : Clause} (h : parseClause (trim p) = .ok clause) :
    ClauseText AnyText p clause := by
  -- the blanks that are trimmed away go back to where the grammar has them
  obtain ⟨a, b, ha, hb, hp⟩ := exists_trim p
  generalize trim p = t at h hp
  subst hp
  cases hcut : cutOperator none t with
  | none =>
    rcases (parseClause_of_uncut hcut).1 h with ⟨r, rfl, hk, rfl⟩ | ⟨hk, rfl⟩
    · obtain ⟨a', b', ha', hb', hr⟩ := exists_trim r
      have htext : ClauseText AnyText _ _ := .notKey ha ha' hk (hb'.append hb)
      rw [hr, trim_between ha' hb', trim_trim]
      simpa [List.append_assoc] using htext
    · exact .key ha hk hb
  | some cut =>
    obtain ⟨before, op, rest⟩ := cut
    obtain ⟨hk, hne, rfl⟩ := (parseClause_of_cut hcut).1 h
    obtain ⟨tail, rfl, hop⟩ := operatorAt_of_cutOperator hcut
    obtain ⟨sign, hsign, rfl, hlong⟩ := operatorAt_eq_some_iff.1 hop
    obtain ⟨a', b', ha', hb', hbefore⟩ := exists_trim before
    have hvalue : AnyText sign (rest ++ b) (unquote (trim rest)) :=
      AnyText.append_blanks ⟨hne, hlong, rfl⟩ hb
    have htext := ClauseText.compare (ha.append ha') hk hb' hsign hvalue
    rw [hbefore, trim_between ha' hb', trim_trim]
    simpa [List.append_assoc] using htext

theorem parseClause_of_clauseText {clause : Clause} (h : ClauseText AnyText p clause) :
    parseClause (trim p) = .ok clause := by
  cases h with
  | @key a k b ha hk hb =>
    obtain ⟨htrim, hcut⟩ := cutOperator_key ha hk hb
    rw [htrim]
    exact (parseClause_of_uncut hcut).2 (.inr ⟨hk, rfl⟩)
  | @notKey a b k c ha hb hk hc =>
    obtain ⟨htrim, hcut⟩ := cutOperator_notKey ha hb hk hc
    rw [htrim]
    refine (parseClause_of_uncut hcut).2 (.inl ⟨b ++ k, rfl, ?_⟩)
    rw [trim_append_left hb, hk.trim_eq]
    exact ⟨hk, rfl⟩
  | @compare a k b sign rest value op ha hk hb hsign hvalue =>
    obtain ⟨hne, hlong, rfl⟩ := hvalue
    obtain ⟨x, hx, hcut⟩ := cutOperator_comparison ha hk hb hsign hne hlong
    refine (parseClause_of_cut hcut).2 ?_
    rw [trim_append_right hb, hk.trim_eq, trim_append_left hx, trim_trim]
    exact ⟨hk, hne, rfl⟩

/-- A clause is read exactly from the texts that the grammar has for it, with any text as value. -/
theorem parseClause_eq_ok_iff {clause : Clause} :
    parseClause (trim p) = .ok clause ↔ ClauseText AnyText p clause :=
  ⟨clauseText_of_parseClause, parseClause_of_clauseText⟩

end ChatPlan.Guard
