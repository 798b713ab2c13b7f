import ChatPlan.Json.Reader
import ChatPlan.Proofs.Number.Rounding

/-
Numbers as JSON writes them. The text of a number falls into digits, digits after a point and an
exponent; the parts of what is printed for a double read back as the double, and a double always has
a point or an exponent, so that no two numbers have the same text.
-/
namespace ChatPlan.Json

open Decimal

/-! ## The parts of a number -/

/-- A character that may go on a number. -/
def continuesNumber (c : Char) : Bool := c.isDigit || c == '.' || c == 'e' || c == 'E'

/-- The text does not go on a number. -/
def EndsNumber (r : List Char) : Prop := ∀ c, r.head? = some c → continuesNumber c = false

/-- The text does not go on digits. -/
def EndsDigits (r : List Char) : Prop := ∀ c, r.head? = some c → c.isDigit = false

theorem endsNumber_nil : EndsNumber [] := by
  intro c hc
  cases hc

theorem endsNumber_cons {c : Char} (h : continuesNumber c = false) (r : List Char) :
    EndsNumber (c :: r) := by
  intro d hd
  cases hd
  exact h

theorem endsDigits_cons {c : Char} (h : c.isDigit = false) (r : List Char) :
    EndsDigits (c :: r) := by
  intro d hd
  cases hd
  exact h

theorem endsDigits_point (r : List Char) : EndsDigits ('.' :: r) := endsDigits_cons rfl r

theorem endsDigits_exponent (r : List Char) : EndsDigits ('e' :: r) := endsDigits_cons rfl r

theorem EndsNumber.endsDigits {r : List Char} (h : EndsNumber r) : EndsDigits r := by
  intro c hc
  have hc := h c hc
  simp only [continuesNumber, Bool.or_eq_false_iff] at hc
  exact hc.1.1.1

theorem EndsNumber.not_point {r : List Char} (h : EndsNumber r) : r.head? ≠ some '.' :=
  fun hc => absurd (h '.' hc) (by decide)

/-- The digits, the digits after the point, the exponent, and the rest of a text. -/
def numberParts (cs : List Char) :
    Option (List Char × Option (List Char) × Option Int × List Char) :=
  (wholeDigits cs).bind fun w => (fractionDigits w.2).bind fun f =>
    (exponentDigits f.2).map fun e => (w.1, f.1, e.1, e.2)

theorem takeDigits_append {ds r : List Char} (hds : ∀ c ∈ ds, c.isDigit = true)
    (hr : EndsDigits r) : takeDigits (ds ++ r) = (ds, r) := by
  have hstop : r.takeWhile Char.isDigit = [] ∧ r.dropWhile Char.isDigit = r := by
    cases r with
    | nil => exact ⟨rfl, rfl⟩
    | cons c r =>
      have hc := hr c rfl
      exact ⟨List.takeWhile_cons_of_neg (by simp [hc]), List.dropWhile_cons_of_neg (by simp [hc])⟩
  rw [takeDigits, List.takeWhile_append_of_pos hds, List.dropWhile_append_of_pos hds, hstop.1,
    hstop.2, List.append_nil]

theorem wholeDigits_append {ds r : List Char} (hne : ds ≠ []) (hds : ∀ c ∈ ds, c.isDigit = true)
    (hhead : ds = ['0'] ∨ ds.head? ≠ some '0') (hr : EndsDigits r) :
    wholeDigits (ds ++ r) = some (ds, r) := by
  rcases hhead with rfl | hhead
  · rfl
  · have hsplit := takeDigits_append hds hr
    cases ds with
    | nil => exact absurd rfl hne
    | cons d ds =>
      have hd : d ≠ '0' := fun h => hhead (by rw [h]; rfl)
      rw [wholeDigits, hsplit]
      · rfl
      · intro r' h
        exact hd (List.cons.inj h).1

theorem fractionDigits_append {ds r : List Char} (hne : ds ≠ []) (hds : ∀ c ∈ ds, c.isDigit = true)
    (hr : EndsDigits r) :
    fractionDigits ('.' :: (ds ++ r)) = some (some ds, r) := by
  rw [fractionDigits, takeDigits_append hds hr]
  cases ds with
  | nil => exact absurd rfl hne
  | cons d ds => rfl

theorem fractionDigits_eq_none {r : List Char} (hr : r.head? ≠ some '.') :
    fractionDigits r = some (none, r) := by
  rw [fractionDigits]
  intro r' h
  subst h
  exact hr rfl

theorem exponentDigits_append {r : List Char} (hr : EndsDigits r) (e : Int) :
    exponentDigits ('e' :: (if e < 0 then '-' else '+') :: (digits e.natAbs ++ r)) =
      some (some e, r) := by
  have hsplit : takeDigits (digits e.natAbs ++ r) = (digits e.natAbs, r) :=
    takeDigits_append (fun c => isDigit_of_mem_digits) hr
  have hne : (digits e.natAbs).isEmpty = false := List.isEmpty_eq_false_iff.2 (digits_ne_nil _)
  by_cases he : e < 0
  · have hvalue : -(ofDigits (digits e.natAbs) : Int) = e := by rw [ofDigits_digits]; omega
    simp only [exponentDigits, decide_true, Bool.true_or, he, if_true, takeSign, hsplit, hne,
      Bool.false_eq_true, if_false, hvalue]
  · have hvalue : (ofDigits (digits e.natAbs) : Int) = e := by rw [ofDigits_digits]; omega
    simp only [exponentDigits, decide_true, Bool.true_or, he, if_true, takeSign, hsplit, hne,
      Bool.false_eq_true, if_false, hvalue]

theorem exponentDigits_eq_none {r : List Char} (hr : EndsNumber r) :
    exponentDigits r = some (none, r) := by
  cases r with
  | nil => rfl
  | cons c r =>
    have hc : (c = 'e' || c = 'E') = false := by
      have := hr c rfl
      simp only [continuesNumber, Bool.or_eq_false_iff, beq_eq_false_iff_ne] at this
      simp [this.1.2, this.2]
    simp [exponentDigits, hc]

theorem numberParts_eq {cs ws r r' r'' : List Char} {f : Option (List Char)} {e : Option Int}
    (hw : wholeDigits cs = some (ws, r)) (hf : fractionDigits r = some (f, r'))
    (he : exponentDigits r' = some (e, r'')) : numberParts cs = some (ws, f, e, r'') := by
  simp [numberParts, hw, hf, he]

theorem head_of_numberParts {cs : List Char}
    {p : List Char × Option (List Char) × Option Int × List Char} (h : numberParts cs = some p) :
    ∃ c r, cs = c :: r ∧ c.isDigit = true := by
  cases cs with
  | nil => cases h
  | cons c r =>
    refine ⟨c, r, rfl, ?_⟩
    by_contra hc
    have hwhole : wholeDigits (c :: r) = none := by
      rw [wholeDigits]
      · simp [takeDigits, hc]
      · intro r' heq
        exact hc (by rw [(List.cons.inj heq).1]; decide)
    simp [numberParts, hwhole] at h

/-! ## What is printed -/

theorem numberParts_digits (n : Nat) {r : List Char} (hr : EndsNumber r) :
    numberParts (digits n ++ r) = some (digits n, none, none, r) := by
  have hhead : digits n = ['0'] ∨ (digits n).head? ≠ some '0' := by
    by_cases hn : n = 0
    · exact .inl (by rw [hn]; rfl)
    · exact .inr (head_digits_ne_zero hn)
  exact numberParts_eq
    (wholeDigits_append (digits_ne_nil n) (fun c => isDigit_of_mem_digits) hhead hr.endsDigits)
    (fractionDigits_eq_none hr.not_point) (exponentDigits_eq_none hr)

/-- The parts of a text that stand for a double. -/
structure IsDouble (x : FiniteDouble) (ws : List Char) (f : Option (List Char)) (e : Option Int) :
    Prop where
  toDouble : toDouble ⟨x.negative, ofDigits (ws ++ f.getD []), e.getD 0 - (f.getD []).length⟩ =
    .finite x
  marked : ¬(f = none ∧ e = none)

/-- The text of a double without its sign. -/
def layout (ds : List Char) (place : Int) : List Char :=
  if -5 < place && place ≤ 16 then
    let (whole, rest) := FiniteDouble.positional ds place
    whole ++ '.' :: (if rest.isEmpty then ['0'] else rest)
  else
    let e := place - 1
    ds.take 1 ++ (if ds.length ≤ 1 then [] else '.' :: ds.drop 1) ++
      ['e', if e < 0 then '-' else '+'] ++ digits e.natAbs

theorem jsonChars_eq (x : FiniteDouble) : x.jsonChars =
    (if x.negative then ['-'] else []) ++
      layout (x.shortestDigits .toEven).1 (x.shortestDigits .toEven).2 := rfl

section Layout

variable {x : FiniteDouble} {ds r : List Char} {place : Int}

theorem numberParts_scientific (h : x.IsLayout ds place) (hr : EndsNumber r) :
    ∃ f, IsDouble x (ds.take 1) f (some (place - 1)) ∧
      numberParts (ds.take 1 ++ (if ds.length ≤ 1 then [] else '.' :: ds.drop 1) ++
        ['e', if place - 1 < 0 then '-' else '+'] ++ digits (place - 1).natAbs ++ r) =
          some (ds.take 1, f, some (place - 1), r) := by
  obtain ⟨d, ds, rfl⟩ := List.exists_cons_of_ne_nil h.ne_nil
  have hexponent := exponentDigits_append hr.endsDigits (place - 1)
  have hd : ∀ c ∈ [d], c.isDigit = true := fun c hc => h.isDigit c (by simp_all)
  have hhead : [d] = ['0'] ∨ [d].head? ≠ some '0' := by
    rcases h.head with ⟨heq, -⟩ | hne
    · exact .inl (by rw [(List.cons.inj heq).1])
    · exact .inr hne
  cases ds with
  | nil =>
    refine ⟨none, ⟨?_, by simp⟩, ?_⟩
    · simpa using h.toDouble
    · exact numberParts_eq (wholeDigits_append (by simp) hd hhead (endsDigits_exponent _))
        (fractionDigits_eq_none (by simp)) hexponent
  | cons d' ds =>
    have hds : ∀ c ∈ d' :: ds, c.isDigit = true := fun c hc => h.isDigit c (List.mem_cons_of_mem _ hc)
    refine ⟨some (d' :: ds), ⟨?_, by simp⟩, ?_⟩
    · have hplace : place - 1 - ((d' :: ds).length : Int) = place - (d :: d' :: ds).length := by
        rw [List.length_cons, List.length_cons, List.length_cons]
        omega
      rw [Option.getD_some, Option.getD_some, hplace]
      exact h.toDouble
    · have hfraction := fractionDigits_append (by simp) hds (endsDigits_exponent
        ((if place - 1 < 0 then '-' else '+') :: (digits (place - 1).natAbs ++ r)))
      have hwhole := wholeDigits_append (by simp) hd hhead (endsDigits_point
        (d' :: ds ++ 'e' :: (if place - 1 < 0 then '-' else '+') ::
          (digits (place - 1).natAbs ++ r)))
      simpa using numberParts_eq hwhole hfraction hexponent

/-- Zeros around the digits of a double do no harm, if the point moves with those behind. -/
theorem isDouble_of_zeros (h : x.IsLayout ds place) {ws fs : List Char} {a b : Nat}
    (hds : ws ++ fs = List.replicate a '0' ++ (ds ++ List.replicate b '0'))
    (hplace : (b : Int) - fs.length = place - ds.length) : IsDouble x ws (some fs) none where
  toDouble := by
    have hexponent : 0 - (fs.length : Int) + b = place - ds.length := by omega
    rw [Option.getD_some, Option.getD_none, hds, ofDigits_zeros_append, ofDigits_append_zeros,
      toDouble_mul_pow, hexponent]
    exact h.toDouble
  marked := by simp

theorem isDigit_of_mem_zeros {n : Nat} {c : Char} (h : c ∈ List.replicate n '0') :
    c.isDigit = true := by
  rw [(List.mem_replicate.1 h).2]
  decide

theorem numberParts_point (h : x.IsLayout ds place) (hr : EndsNumber r) {ws fs : List Char}
    {a b : Nat} (hds : ws ++ fs = List.replicate a '0' ++ (ds ++ List.replicate b '0'))
    (hplace : (b : Int) - fs.length = place - ds.length) (hws : ws ≠ []) (hfs : fs ≠ [])
    (hhead : ws = ['0'] ∨ ws.head? ≠ some '0') :
    IsDouble x ws (some fs) none ∧
      numberParts (ws ++ '.' :: fs ++ r) = some (ws, some fs, none, r) := by
  have hdigits : ∀ c ∈ ws ++ fs, c.isDigit = true := by
    intro c hc
    rw [hds, List.mem_append, List.mem_append] at hc
    rcases hc with hc | hc | hc
    · exact isDigit_of_mem_zeros hc
    · exact h.isDigit c hc
    · exact isDigit_of_mem_zeros hc
  have hwhole := wholeDigits_append hws (fun c hc => hdigits c (List.mem_append_left fs hc)) hhead
    (endsDigits_point (fs ++ r))
  have hfraction := fractionDigits_append hfs
    (fun c hc => hdigits c (List.mem_append_right ws hc)) hr.endsDigits
  refine ⟨isDouble_of_zeros h hds hplace, ?_⟩
  rw [List.append_assoc, List.cons_append]
  exact numberParts_eq hwhole hfraction (exponentDigits_eq_none hr)

/-- Digits with a point before, behind or between them, and zeros to fill the gap. -/
theorem numberParts_positional (h : x.IsLayout ds place) (hr : EndsNumber r) {ws fs : List Char}
    (hp : FiniteDouble.positional ds place = (ws, fs)) :
    IsDouble x ws (some (if fs.isEmpty then ['0'] else fs)) none ∧
      numberParts (ws ++ '.' :: (if fs.isEmpty then ['0'] else fs) ++ r) =
        some (ws, some (if fs.isEmpty then ['0'] else fs), none, r) := by
  have hlength : 0 < ds.length := List.length_pos_iff.2 h.ne_nil
  rw [FiniteDouble.positional] at hp
  split at hp
  · -- the point stands before the digits
    cases hp
    have hne : List.replicate (-place).toNat '0' ++ ds ≠ [] := by simp [h.ne_nil]
    rw [if_neg (by simpa using fun _ => h.ne_nil)]
    apply numberParts_point h hr (a := (-place).toNat + 1) (b := 0) ?_ ?_ (by simp) hne (.inl rfl)
    · simp [List.replicate_succ]
    · rw [List.length_append, List.length_replicate]
      omega
  · rename_i hpositive
    cases hp
    rcases Nat.lt_or_ge place.toNat ds.length with hlt | hge
    · -- the point stands between the digits
      have hne : ds.drop place.toNat ≠ [] := by simp [hlt]
      have hws : ds.take place.toNat ++ List.replicate (place.toNat - ds.length) '0' =
          ds.take place.toNat := by
        rw [Nat.sub_eq_zero_of_le (Nat.le_of_lt hlt), List.replicate_zero, List.append_nil]
      have hhead : (ds.take place.toNat).head? = ds.head? := by
        rw [List.head?_take, if_neg (by omega)]
      have hmany : ds ≠ ['0'] := by
        intro hds
        subst hds
        simp only [List.length_singleton] at hlt
        omega
      rw [if_neg (by simpa using hne), hws]
      apply numberParts_point h hr (a := 0) (b := 0) (by simp) ?_ ?_ hne ?_
      · rw [List.length_drop]
        omega
      · intro hnil
        rw [hnil] at hhead
        exact h.ne_nil (List.head?_eq_none_iff.1 hhead.symm)
      · rw [hhead]
        exact .inr (h.head.resolve_left fun hzero => hmany hzero.1)
    · -- the point stands behind the digits
      have hfs : ds.drop place.toNat = [] := List.drop_eq_nil_of_le hge
      rw [hfs, List.take_of_length_le hge]
      apply numberParts_point h hr (a := 0) (b := place.toNat - ds.length + 1) ?_ ?_
        (by simp [h.ne_nil]) (by simp) ?_
      · simp [List.replicate_succ']
      · simp only [List.isEmpty_nil, if_true, List.length_singleton]
        omega
      · rcases h.head with ⟨rfl, rfl⟩ | hhead
        · exact .inl rfl
        · rw [List.head?_append_of_ne_nil _ h.ne_nil]
          exact .inr hhead

theorem numberParts_layout (h : x.IsLayout ds place) (hr : EndsNumber r) :
    ∃ ws f e, IsDouble x ws f e ∧ numberParts (layout ds place ++ r) = some (ws, f, e, r) := by
  rw [layout]
  split
  · obtain ⟨hdouble, hparts⟩ := numberParts_positional h hr rfl
    exact ⟨_, _, _, hdouble, hparts⟩
  · obtain ⟨f, hdouble, hparts⟩ := numberParts_scientific h hr
    exact ⟨_, _, _, hdouble, hparts⟩

end Layout

/-! ## One text for each number -/

/-- The sign and the parts of a number. -/
def signedParts : List Char →
    Bool × Option (List Char × Option (List Char) × Option Int × List Char)
  | '-' :: r => (true, numberParts r)
  | cs => (false, numberParts cs)

/-- The sign and the parts of a text that stand for a number. -/
inductive IsNumber : JsonNumber → Bool → List Char → Option (List Char) → Option Int → Prop
  | int (i : Int) : IsNumber (.int i) (i < 0) (digits i.natAbs) none none
  | float {x : FiniteDouble} {ws : List Char} {f : Option (List Char)} {e : Option Int}
      (h : IsDouble x ws f e) : IsNumber (.float x) x.negative ws f e

/-- The parts of a text stand for one number only. -/
theorem IsNumber.unique {n m : JsonNumber} {b : Bool} {ws : List Char} {f : Option (List Char)}
    {e : Option Int} (hn : IsNumber n b ws f e) (hm : IsNumber m b ws f e) : n = m := by
  -- the indices of the two are told apart, or `cases` could not match them
  generalize hb : b = b' at hm
  generalize hws : ws = ws' at hm
  cases hn with
  | int i =>
    cases hm with
    | int j =>
      have hsign : i < 0 ↔ j < 0 := by simpa using hb
      have habs : i.natAbs = j.natAbs := digits_inj hws
      rw [show i = j by omega]
    | float h => exact absurd ⟨rfl, rfl⟩ h.marked
  | @float x _ _ _ h =>
    cases hm with
    | int j => exact absurd ⟨rfl, rfl⟩ h.marked
    | @float y _ _ _ h' =>
      have hx := h.toDouble
      rw [hb, hws, h'.toDouble, Double.finite.injEq] at hx
      rw [hx]

theorem signedParts_of_parts {cs : List Char} {b : Bool}
    {p : List Char × Option (List Char) × Option Int × List Char} (h : numberParts cs = some p) :
    signedParts ((if b then ['-'] else []) ++ cs) = (b, some p) := by
  rw [← h]
  cases b with
  | true => rfl
  | false =>
    obtain ⟨c, r, rfl, hc⟩ := head_of_numberParts h
    simp only [Bool.false_eq_true, if_false, List.nil_append]
    rw [signedParts]
    intro r' heq
    rw [(List.cons.inj heq).1] at hc
    cases hc

/-- The text of a number falls into parts that stand for it. -/
theorem signedParts_chars (n : JsonNumber) {r : List Char} (hr : EndsNumber r) :
    ∃ b ws f e, IsNumber n b ws f e ∧ signedParts (n.chars ++ r) = (b, some (ws, f, e, r)) := by
  cases n with
  | int i =>
    refine ⟨_, _, _, _, .int i, ?_⟩
    have hparts := signedParts_of_parts (b := i < 0) (numberParts_digits i.natAbs hr)
    simpa [JsonNumber.chars] using hparts
  | float x =>
    obtain ⟨ws, f, e, hdouble, hparts⟩ := numberParts_layout (x.isLayout_shortestDigits .toEven) hr
    refine ⟨_, ws, f, e, .float hdouble, ?_⟩
    rw [JsonNumber.chars, jsonChars_eq, List.append_assoc]
    exact signedParts_of_parts hparts

theorem head_number (n : JsonNumber) : ∃ c cs, n.chars = c :: cs ∧ (c = '-' ∨ c.isDigit = true) := by
  obtain ⟨b, ws, f, e, -, hparts⟩ := signedParts_chars n endsNumber_nil
  rw [List.append_nil] at hparts
  unfold signedParts at hparts
  split at hparts
  · rename_i r hn
    exact ⟨'-', r, hn, .inl rfl⟩
  · obtain ⟨c, r, hn, hc⟩ := head_of_numberParts (Prod.mk.inj hparts).2
    exact ⟨c, r, hn, .inr hc⟩

/-- Two numbers with the same text are the same, whatever follows them. -/
theorem number_readable {n m : JsonNumber} {r r' : List Char} (hr : EndsNumber r)
    (hr' : EndsNumber r') (h : n.chars ++ r = m.chars ++ r') : n = m ∧ r = r' := by
  obtain ⟨b, ws, f, e, hn, hparts⟩ := signedParts_chars n hr
  obtain ⟨b', ws', f', e', hm, hparts'⟩ := signedParts_chars m hr'
  rw [h, hparts'] at hparts
  simp only [Prod.mk.injEq, Option.some.injEq] at hparts
  obtain ⟨rfl, rfl, rfl, rfl, rfl⟩ := hparts
  exact ⟨hn.unique hm, rfl⟩

end ChatPlan.Json
