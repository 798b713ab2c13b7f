import ChatPlan.Proofs.Json.Printer
import ChatPlan.Proofs.Results

/-
The reader against the printer. A tree that was read has whole numbers that fit a word, and no
nesting beyond what is allowed (`readsWithin`); a value of that kind is read back from its text,
whatever stands behind it (`readValue_chars`).
-/
namespace ChatPlan.Json

/-- The number fits a word of 64 bits, with or without a sign. -/
def IsWord (i : Int) : Prop := -(Nat.pow 2 63 : Nat) ≤ i ∧ i < (Nat.pow 2 64 : Nat)

instance (i : Int) : Decidable (IsWord i) := inferInstanceAs (Decidable (_ ∧ _))

/-- No more than `depth` arrays and objects are open at once, and whole numbers fit a word. What is
unusable stands for a text of any depth. -/
inductive Tree.Within : Nat → Tree → Prop
  | null {depth} : Within depth .null
  | bool {depth} (b : Bool) : Within depth (.bool b)
  | int {depth} {i : Int} (h : IsWord i) : Within depth (.num (.int i))
  | float {depth} (x : FiniteDouble) : Within depth (.num (.float x))
  | str {depth} (s : String) : Within depth (.str s)
  | arr {depth} {items : List Tree} (h : ∀ t ∈ items, Within depth t) :
      Within (depth + 1) (.arr items)
  | obj {depth} {ms : List (String × Tree)} (h : ∀ m ∈ ms, Within depth m.2) :
      Within (depth + 1) (.obj ms)
  | unusable {depth} : Within depth .unusable

/-! ## Numbers -/

/-- What a sign and the parts of a number stand for. -/
def partsTree (negative : Bool) (ws : List Char) (f : Option (List Char)) (e : Option Int) : Tree :=
  match f, e with
  | none, none => wholeNumber negative (ofDigits ws)
  | f, e =>
    match (Decimal.mk negative (ofDigits (ws ++ f.getD []))
        (e.getD 0 - (f.getD []).length)).toDouble with
    | .finite x => .num (.float x)
    | _ => .unusable

theorem readUnsigned_eq (negative : Bool) (cs : List Char) : readUnsigned negative cs =
    (numberParts cs).map fun p => (partsTree negative p.1 p.2.1 p.2.2.1, p.2.2.2) := by
  rw [readUnsigned, numberParts]
  cases wholeDigits cs with
  | none => rfl
  | some w =>
    obtain ⟨ws, r⟩ := w
    dsimp only [Option.bind_some]
    cases fractionDigits r with
    | none => rfl
    | some p =>
      obtain ⟨f, r⟩ := p
      dsimp only [Option.bind_some]
      cases exponentDigits r with
      | none => rfl
      | some q =>
        obtain ⟨e, r⟩ := q
        cases f <;> cases e <;> simp only [partsTree, Option.map_some] <;> split <;> simp_all

theorem readNumber_eq (cs : List Char) : readNumber cs = (signedParts cs).2.map fun p =>
    (partsTree (signedParts cs).1 p.1 p.2.1 p.2.2.1, p.2.2.2) := by
  by_cases hsign : ∃ r, cs = '-' :: r
  · obtain ⟨r, rfl⟩ := hsign
    exact readUnsigned_eq true r
  · have hnone (r : List Char) (h : cs = '-' :: r) : False := hsign ⟨r, h⟩
    rw [readNumber, signedParts]
    · exact readUnsigned_eq false cs
    · exact hnone
    · exact hnone

section Numbers

variable {depth : Nat}

theorem within_wholeNumber (negative : Bool) (n : Nat) :
    (wholeNumber negative n).Within depth := by
  rw [wholeNumber]
  split
  · rename_i h
    simp only [Bool.and_eq_true, decide_eq_true_eq] at h
    exact .int ⟨by omega, Int.ofNat_lt.2 h.2⟩
  · split
    · rename_i h
      simp only [Bool.and_eq_true, decide_eq_true_eq] at h
      exact .int ⟨Int.neg_le_neg (Int.ofNat_le.2 h.2), by omega⟩
    · split
      · exact .float _
      · exact .unusable

theorem within_partsTree (negative : Bool) (ws : List Char) (f : Option (List Char))
    (e : Option Int) : (partsTree negative ws f e).Within depth := by
  unfold partsTree
  split
  · exact within_wholeNumber _ _
  · split
    · exact .float _
    · exact .unusable

theorem within_readNumber {cs r : List Char} {t : Tree} (h : readNumber cs = some (t, r)) :
    t.Within depth := by
  rw [readNumber_eq] at h
  obtain ⟨p, -, hp⟩ := Option.map_eq_some_iff.1 h
  rw [← (Prod.mk.inj hp).1]
  exact within_partsTree _ _ _ _

theorem wholeNumber_natAbs {i : Int} (h : IsWord i) :
    wholeNumber (i < 0) i.natAbs = .num (.int i) := by
  obtain ⟨hlow, hhigh⟩ := h
  rw [wholeNumber]
  by_cases hneg : i < 0
  · have hsize : i.natAbs ≤ Nat.pow 2 63 := by omega
    have hpos : 0 < i.natAbs := by omega
    have hvalue : -(i.natAbs : Int) = i := by omega
    have hsmall : (true && decide (0 < i.natAbs) && decide (i.natAbs ≤ Nat.pow 2 63)) = true := by
      simp only [Bool.true_and, Bool.and_eq_true, decide_eq_true_eq]
      exact ⟨hpos, hsize⟩
    rw [decide_eq_true hneg, Bool.not_true, Bool.false_and, if_neg Bool.false_ne_true,
      if_pos hsmall, hvalue]
  · have hsize : i.natAbs < Nat.pow 2 64 := by omega
    have hvalue : (i.natAbs : Int) = i := by omega
    rw [decide_eq_false hneg, Bool.not_false, Bool.true_and, if_pos (decide_eq_true hsize), hvalue]

theorem IsNumber.partsTree_eq {n : JsonNumber} {b : Bool} {ws : List Char} {f : Option (List Char)}
    {e : Option Int} (h : IsNumber n b ws f e) (hn : Tree.Within depth (.num n)) :
    partsTree b ws f e = .num n := by
  cases h with
  | int i =>
    cases hn with
    | int hword => rw [partsTree, ofDigits_digits, wholeNumber_natAbs hword]
  | float h =>
    rw [partsTree, h.toDouble]
    exact fun hf he => h.marked ⟨hf, he⟩

/-- A number is read back from its text. -/
theorem readNumber_chars {n : JsonNumber} (hn : Tree.Within depth (.num n)) {r : List Char}
    (hr : EndsNumber r) : readNumber (n.chars ++ r) = some (.num n, r) := by
  obtain ⟨b, ws, f, e, hnumber, hparts⟩ := signedParts_chars n hr
  rw [readNumber_eq, hparts, Option.map_some, hnumber.partsTree_eq hn]

end Numbers

/-! ## What is read is within bounds -/

section Within

variable {depth : Nat} {cs r : List Char}

theorem within_atDepth_arr {items : List Tree} (h : ∀ t ∈ items, t.Within (depth - 1)) :
    (atDepth depth (.arr items)).Within depth := by
  cases depth with
  | zero => exact .unusable
  | succ depth => exact .arr h

theorem within_atDepth_objectOf {ms : List (Option String × Tree)}
    (h : ∀ m ∈ ms, m.2.Within (depth - 1)) : (atDepth depth (objectOf ms)).Within depth := by
  rw [objectOf]
  cases hms : ms.mapM fun m => m.1.map (·, m.2) with
  | none => cases depth <;> exact .unusable
  | some named =>
    cases depth with
    | zero => exact .unusable
    | succ depth =>
      refine .obj fun m hm => ?_
      obtain ⟨p, hp, hpm⟩ := exists_mem_of_forall₂ (mapM_eq_some_iff.1 hms) hm
      obtain ⟨k, -, rfl⟩ := Option.map_eq_some_iff.1 hpm
      exact h p hp

/-- With so much fuel, a value, the items of an array and the members of an object are read within
the depth that is left. -/
structure ReadsWithin (fuel : Nat) : Prop where
  value : ∀ {depth cs t r}, readValue fuel depth cs = some (t, r) → t.Within depth
  items : ∀ {depth cs ts r}, readItems fuel depth cs = some (ts, r) → ∀ t ∈ ts, t.Within depth
  members : ∀ {depth cs ms r}, readMembers fuel depth cs = some (ms, r) →
    ∀ m ∈ ms, Tree.Within depth m.2

namespace ReadsWithin

variable {fuel : Nat} (h : ReadsWithin fuel)

include h

theorem value_succ {t : Tree} (hread : readValue (fuel + 1) depth cs = some (t, r)) :
    t.Within depth := by
  rw [readValue] at hread
  split at hread
  · cases hread
    exact .null
  · cases hread
    exact .bool true
  · cases hread
    exact .bool false
  · split at hread
    · cases hread
      exact .str _
    · cases hread
      exact .unusable
    · cases hread
  · split at hread
    · cases hread
      exact within_atDepth_arr (by simp)
    · split at hread
      · rename_i hitems
        cases hread
        exact within_atDepth_arr (h.items hitems)
      · cases hread
  · split at hread
    · cases hread
      have hnone : ∀ m ∈ ([] : List (Option String × Tree)), m.2.Within (depth - 1) := nofun
      exact within_atDepth_objectOf hnone
    · split at hread
      · rename_i hmembers
        cases hread
        exact within_atDepth_objectOf (h.members hmembers)
      · cases hread
  · exact within_readNumber hread

theorem items_succ {ts : List Tree} (hread : readItems (fuel + 1) depth cs = some (ts, r)) :
    ∀ t ∈ ts, t.Within depth := by
  rw [readItems] at hread
  split at hread
  · cases hread
  · rename_i hvalue
    split at hread
    · cases hread
      simpa using h.value hvalue
    · split at hread
      · rename_i hitems
        cases hread
        exact List.forall_mem_cons.2 ⟨h.value hvalue, h.items hitems⟩
      · cases hread
    · cases hread

theorem members_succ {ms : List (Option String × Tree)}
    (hread : readMembers (fuel + 1) depth cs = some (ms, r)) :
    ∀ m ∈ ms, Tree.Within depth m.2 := by
  rw [readMembers] at hread
  split at hread
  · split at hread
    · cases hread
    · split at hread
      · split at hread
        · cases hread
        · rename_i hvalue
          split at hread
          · cases hread
            simpa using h.value hvalue
          · split at hread
            · rename_i hmembers
              cases hread
              exact List.forall_mem_cons.2 ⟨h.value hvalue, h.members hmembers⟩
            · cases hread
          · cases hread
      · cases hread
  · cases hread

end ReadsWithin

/-- Whatever the readers return is within the depth that is left. -/
theorem readsWithin (fuel : Nat) : ReadsWithin fuel := by
  induction fuel with
  | zero =>
    constructor
    case value => simp [readValue]
    case items => simp [readItems]
    case members => simp [readMembers]
  | succ fuel ih => exact ⟨ih.value_succ, ih.items_succ, ih.members_succ⟩

end Within

/-! ## What is printed is read back -/

theorem skipGaps_cons {c : Char} (h : isGap c = false) (r : List Char) :
    skipGaps (c :: r) = c :: r := by
  rw [skipGaps, List.dropWhile_cons_of_neg (by simp [h])]

theorem isGap_of_leadType {c : Char} (h : leadType c ≠ "") : isGap c = false := by
  by_contra hgap
  simp only [Bool.not_eq_false, isGap, Bool.or_eq_true, beq_iff_eq] at hgap
  rcases hgap with ((rfl | rfl) | rfl) | rfl <;> exact h rfl

theorem skipGaps_chars (v : Json) (r : List Char) : skipGaps (v.chars ++ r) = v.chars ++ r := by
  obtain ⟨c, cs, hv, hc⟩ := head_chars v
  have htype : v.typeName ≠ "" := by cases v <;> simp [typeName]
  rw [hv, List.cons_append, skipGaps_cons (isGap_of_leadType (hc ▸ htype))]

/-- What starts like a number is read as one. -/
theorem readValue_number {fuel depth : Nat} {c : Char} {cs : List Char}
    (h : leadType c = "number") : readValue (fuel + 1) depth (c :: cs) = readNumber (c :: cs) := by
  rw [readValue, skipGaps_cons (isGap_of_leadType (by simp [h]))]
  split <;> first | rfl | simp_all [leadType]

theorem objectOf_named (ms : List (String × Tree)) :
    objectOf (ms.map fun m => (some m.1, m.2)) = .obj ms := by
  have hnames : (ms.map fun m => (some m.1, m.2)).mapM (fun m => m.1.map (·, m.2)) = some ms := by
    rw [mapM_eq_some_iff, List.forall₂_map_left_iff, List.forall₂_same]
    exact fun m _ => rfl
  rw [objectOf, hnames]

section Steps

variable {fuel depth : Nat} {cs cs' r : List Char} {v : Tree}

theorem readItems_last (h : readValue fuel depth cs = some (v, ']' :: r)) :
    readItems (fuel + 1) depth cs = some ([v], r) := by
  simp [readItems, h, skipGaps_cons (c := ']') rfl]

theorem readItems_more {vs : List Tree} (h : readValue fuel depth cs = some (v, ',' :: cs'))
    (hrest : readItems fuel depth cs' = some (vs, r)) :
    readItems (fuel + 1) depth cs = some (v :: vs, r) := by
  simp [readItems, h, skipGaps_cons (c := ',') rfl, hrest]

theorem readMembers_last {k : List Char} (hk : readString cs = some (some k, ':' :: cs'))
    (h : readValue fuel depth cs' = some (v, '}' :: r)) :
    readMembers (fuel + 1) depth ('"' :: cs) = some ([(some (String.ofList k), v)], r) := by
  simp [readMembers, skipGaps_cons (c := '"') rfl, hk, skipGaps_cons (c := ':') rfl, h,
    skipGaps_cons (c := '}') rfl]

theorem readMembers_more {k cs'' : List Char} {ms : List (Option String × Tree)}
    (hk : readString cs = some (some k, ':' :: cs'))
    (h : readValue fuel depth cs' = some (v, ',' :: cs''))
    (hrest : readMembers fuel depth cs'' = some (ms, r)) :
    readMembers (fuel + 1) depth ('"' :: cs) = some ((some (String.ofList k), v) :: ms, r) := by
  simp [readMembers, skipGaps_cons (c := '"') rfl, hk, skipGaps_cons (c := ':') rfl, h,
    skipGaps_cons (c := ',') rfl, hrest]

theorem readValue_members {ms : List (String × Tree)}
    (h : readMembers fuel depth ('"' :: cs) = some (ms.map fun m => (some m.1, m.2), r)) :
    readValue (fuel + 1) (depth + 1) ('{' :: '"' :: cs) = some (.obj ms, r) := by
  simp [readValue, skipGaps_cons (c := '{') rfl, skipGaps_cons (c := '"') rfl, h, objectOf_named,
    atDepth]

end Steps

mutual
/-- A value is read back from its text, whatever stands behind it. -/
theorem readValue_chars : ∀ (v : Json) {depth fuel : Nat} {r : List Char}, v.tree.Within depth →
    EndsNumber r → 2 * v.chars.length ≤ fuel →
    readValue fuel depth (v.chars ++ r) = some (v.tree, r)
  | v, depth, 0, r, _, _, hfuel => by
    obtain ⟨c, cs, hv, -⟩ := head_chars v
    simp [hv] at hfuel
  | .null, depth, fuel + 1, r, _, _, _ => by
    rw [readValue, skipGaps_chars]
    rfl
  | .bool b, depth, fuel + 1, r, _, _, _ => by
    rw [readValue, skipGaps_chars]
    cases b <;> rfl
  | .num n, depth, fuel + 1, r, hv, hr, _ => by
    obtain ⟨c, cs, hn, hc⟩ := head_chars (.num n)
    rw [hn, List.cons_append, readValue_number hc, ← List.cons_append, ← hn]
    exact readNumber_chars hv hr
  | .str s, depth, fuel + 1, r, _, _, _ => by
    rw [readValue, skipGaps_chars]
    simp only [chars, quoted, List.cons_append, List.append_assoc, List.nil_append,
      readString_quoted, String.ofList_toList, tree]
  | .arr [], depth, fuel + 1, r, hv, _, _ => by
    rw [readValue, skipGaps_chars]
    cases hv
    rfl
  | .arr (v :: vs), depth, fuel + 1, r, hv, _, hfuel => by
    cases hv with
    | @arr depth _ hitems =>
      have hread : readItems fuel depth (v.chars ++ (charsOfItems vs ++ ']' :: r)) =
          some (treesOf (v :: vs), r) := by
        refine readItems_chars v vs hitems ?_
        simp only [chars, List.length_cons, List.length_append, List.length_nil] at hfuel ⊢
        omega
      rw [readValue, skipGaps_chars]
      simp only [chars, List.cons_append, List.append_assoc, List.nil_append, skipGaps_chars]
      split
      · rename_i hclosing
        exact absurd hclosing chars_ne_closing
      · rw [Nat.add_sub_cancel, hread]
        rfl
  | .obj [], depth, fuel + 1, r, hv, _, _ => by
    rw [readValue, skipGaps_chars]
    cases hv
    rfl
  | .obj ((k, v) :: ms), depth, fuel + 1, r, hv, _, hfuel => by
    cases hv with
    | @obj depth _ hmembers =>
      have hread : readMembers fuel depth
          (quoted k ++ ':' :: (v.chars ++ (charsOfMembers ms ++ '}' :: r))) =
            some ((treeMembers ((k, v) :: ms)).map fun m => (some m.1, m.2), r) := by
        refine readMembers_chars k v ms hmembers ?_
        simp only [chars, List.length_cons, List.length_append, List.length_nil] at hfuel ⊢
        omega
      simp only [chars, List.cons_append, List.append_assoc, List.nil_append, quoted_append]
        at hread ⊢
      exact readValue_members hread
theorem readItems_chars : ∀ (v : Json) (vs : List Json) {depth fuel : Nat} {r : List Char},
    (∀ t ∈ treesOf (v :: vs), t.Within depth) →
    2 * (v.chars ++ charsOfItems vs).length + 1 ≤ fuel →
    readItems fuel depth (v.chars ++ (charsOfItems vs ++ ']' :: r)) = some (treesOf (v :: vs), r)
  | v, vs, depth, 0, r, _, hfuel => by omega
  | v, vs, depth, fuel + 1, r, hvs, hfuel => by
    have hfirst : readValue fuel depth (v.chars ++ (charsOfItems vs ++ ']' :: r)) =
        some (v.tree, charsOfItems vs ++ ']' :: r) := by
      refine readValue_chars v (hvs _ List.mem_cons_self) (endsNumber_items vs r) ?_
      simp only [List.length_append] at hfuel
      omega
    cases vs with
    | nil => exact readItems_last hfirst
    | cons w ws =>
      have hrest : readItems fuel depth (w.chars ++ (charsOfItems ws ++ ']' :: r)) =
          some (treesOf (w :: ws), r) := by
        refine readItems_chars w ws (fun t ht => hvs t (List.mem_cons_of_mem _ ht)) ?_
        simp only [charsOfItems, List.length_cons, List.length_append] at hfuel ⊢
        omega
      simp only [charsOfItems, List.cons_append, List.append_assoc] at hfirst ⊢
      exact readItems_more hfirst hrest
theorem readMembers_chars : ∀ (k : String) (v : Json) (ms : List (String × Json)) {depth fuel : Nat}
    {r : List Char}, (∀ m ∈ treeMembers ((k, v) :: ms), Tree.Within depth m.2) →
    2 * (v.chars ++ charsOfMembers ms).length + 1 ≤ fuel →
    readMembers fuel depth (quoted k ++ ':' :: (v.chars ++ (charsOfMembers ms ++ '}' :: r))) =
      some ((treeMembers ((k, v) :: ms)).map fun m => (some m.1, m.2), r)
  | k, v, ms, depth, 0, r, _, hfuel => by omega
  | k, v, ms, depth, fuel + 1, r, hms, hfuel => by
    have hfirst : readValue fuel depth (v.chars ++ (charsOfMembers ms ++ '}' :: r)) =
        some (v.tree, charsOfMembers ms ++ '}' :: r) := by
      refine readValue_chars v (hms _ List.mem_cons_self) (endsNumber_members ms r) ?_
      simp only [List.length_append] at hfuel
      omega
    have hkey : readString (k.toList.flatMap escapeChar ++ '"' :: ':' ::
        (v.chars ++ (charsOfMembers ms ++ '}' :: r))) =
          some (some k.toList, ':' :: (v.chars ++ (charsOfMembers ms ++ '}' :: r))) :=
      readString_quoted _ _
    cases ms with
    | nil =>
      have hlast := readMembers_last hkey hfirst
      rwa [String.ofList_toList, ← quoted_append] at hlast
    | cons m ms =>
      obtain ⟨l, w⟩ := m
      have hrest : readMembers fuel depth
          (quoted l ++ ':' :: (w.chars ++ (charsOfMembers ms ++ '}' :: r))) =
            some ((treeMembers ((l, w) :: ms)).map fun m => (some m.1, m.2), r) := by
        refine readMembers_chars l w ms (fun m hm => hms m (List.mem_cons_of_mem _ hm)) ?_
        simp only [charsOfMembers, List.length_cons, List.length_append] at hfuel ⊢
        omega
      simp only [charsOfMembers, List.cons_append, List.append_assoc] at hkey hfirst ⊢
      have hmore := readMembers_more hkey hfirst hrest
      rwa [String.ofList_toList, ← quoted_append] at hmore
end

theorem Tree.within_of_parse? {text : String} {t : Tree} (h : Tree.parse? text = some t) :
    t.Within maxDepth := by
  rw [Tree.parse?] at h
  split at h
  · rename_i hread
    split at h
    · cases h
      exact (readsWithin _).value hread
    · cases h
  · cases h

/-- The compact text of a value within bounds says the value. -/
theorem Tree.parse?_compact {v : Json} (h : v.tree.Within maxDepth) :
    Tree.parse? v.compact = some v.tree := by
  have hread : readValue (2 * v.chars.length + 2) maxDepth (v.chars ++ []) = some (v.tree, []) :=
    readValue_chars v h endsNumber_nil (by omega)
  rw [List.append_nil] at hread
  rw [Tree.parse?, compact, String.toList_ofList, hread]
  rfl

end ChatPlan.Json
