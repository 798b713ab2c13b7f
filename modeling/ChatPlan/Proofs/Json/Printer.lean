import ChatPlan.Json.Reader
import ChatPlan.Proofs.Json.Number

/-
The compact text of a JSON value can be read in one way only. What is printed for a string reads
back as the string, whatever follows its closing quote. The first character tells what kind of value
it is, and a value ends where it must, whatever follows it: so two values with the same text are the
same, and so is what follows them.
-/
namespace ChatPlan.Json

/-! ## Strings -/

/-- The reader looks at a second escape behind a first one. -/
theorem readString_hex_cases (r : List Char) :
    (∃ a b c d r', r = '\\' :: 'u' :: a :: b :: c :: d :: r') ∨
      ∀ a b c d r', r = '\\' :: 'u' :: a :: b :: c :: d :: r' → False := by
  by_cases h : ∃ a b c d r', r = '\\' :: 'u' :: a :: b :: c :: d :: r'
  · exact .inl h
  · exact .inr fun a b c d r' hr => h ⟨a, b, c, d, r', hr⟩

theorem readString_hex_eq_none {a b c d : Char} (h : hex4? a b c d = none) (r : List Char) :
    readString ('\\' :: 'u' :: a :: b :: c :: d :: r) = none := by
  rcases readString_hex_cases r with ⟨a', b', c', d', r', rfl⟩ | hr
  · rw [readString, h]
  · rw [readString, h]
    exact hr

theorem readString_hex {a b c d : Char} {n : Nat} (h : hex4? a b c d = some n) (hn : n < 0xd800)
    (r : List Char) : readString ('\\' :: 'u' :: a :: b :: c :: d :: r) =
      (readString r).map (consChar (some (Char.ofNat n))) := by
  have hhigh : isHighSurrogate n = false := by simp [isHighSurrogate]; omega
  have hlow : isLowSurrogate n = false := by simp [isLowSurrogate]; omega
  rcases readString_hex_cases r with ⟨a', b', c', d', r', rfl⟩ | hr
  · rw [readString, h]
    cases h' : hex4? a' b' c' d' with
    | none => simp [readString_hex_eq_none h']
    | some m => simp [hhigh, hlow]
  · rw [readString, h]
    · simp [hhigh, hlow]
    · exact hr

theorem hex4?_hexDigit : ∀ n < 32, hex4? '0' '0' (hexDigit (n / 16)) (hexDigit n) = some n := by
  decide

/-- One character is read back before what follows it. -/
theorem readString_escapeChar (c : Char) (r : List Char) :
    readString (escapeChar c ++ r) = (readString r).map (consChar (some c)) := by
  -- seven characters have an escape of their own, the others below 32 a code
  by_cases hshort : c ∈ ['"', '\\', '\n', '\r', '\t', '\u0008', '\u000c']
  · simp only [List.mem_cons, List.not_mem_nil, or_false] at hshort
    rcases hshort with rfl | rfl | rfl | rfl | rfl | rfl | rfl <;>
      simp [escapeChar, readString, shortEscape?]
  · simp only [List.mem_cons, List.not_mem_nil, or_false, not_or] at hshort
    obtain ⟨hquote, hslash, hn, hr, ht, hb, hf⟩ := hshort
    by_cases hc : c.toNat < 32
    · have hread := readString_hex (hex4?_hexDigit c.toNat hc) (by omega) r
      simpa [escapeChar, hquote, hslash, hn, hr, ht, hb, hf, hc] using hread
    · simp [escapeChar, hquote, hslash, hn, hr, ht, hb, hf, hc, readString]

/-- A string is read back up to its closing quote. -/
theorem readString_quoted (cs r : List Char) :
    readString (cs.flatMap escapeChar ++ '"' :: r) = some (some cs, r) := by
  induction cs with
  | nil => rfl
  | cons c cs ih =>
    rw [List.flatMap_cons, List.append_assoc, readString_escapeChar, ih]
    rfl

theorem quoted_append (s : String) (r : List Char) :
    quoted s ++ r = '"' :: (s.toList.flatMap escapeChar ++ '"' :: r) := by
  simp [quoted]

theorem quoted_readable {s t : String} {r r' : List Char} (h : quoted s ++ r = quoted t ++ r') :
    s = t ∧ r = r' := by
  rw [quoted_append, quoted_append, List.cons.injEq] at h
  have hs := readString_quoted s.toList r
  rw [h.2, readString_quoted, Option.some.injEq, Prod.mk.injEq, Option.some.injEq] at hs
  exact ⟨(String.toList_inj.1 hs.1).symm, hs.2.symm⟩

/-! ## The first character -/

/-- The type of the values that start with this character. -/
def leadType (c : Char) : String :=
  if c = 'n' then "null"
  else if c = 't' || c = 'f' then "boolean"
  else if c = '"' then "string"
  else if c = '[' then "array"
  else if c = '{' then "object"
  else if c = '-' || c.isDigit then "number"
  else ""

theorem leadType_of_isDigit {c : Char} (h : c.isDigit = true) : leadType c = "number" := by
  have hne {d : Char} (hd : d.isDigit = false) : c ≠ d := by
    intro heq
    rw [← heq, h] at hd
    cases hd
  simp [leadType, h, hne (d := 'n') rfl, hne (d := 't') rfl, hne (d := 'f') rfl,
    hne (d := '"') rfl, hne (d := '[') rfl, hne (d := '{') rfl]

theorem head_chars (v : Json) : ∃ c cs, v.chars = c :: cs ∧ leadType c = v.typeName := by
  cases v with
  | null => exact ⟨_, _, rfl, rfl⟩
  | bool b => cases b <;> exact ⟨_, _, rfl, rfl⟩
  | num n =>
    obtain ⟨c, cs, hn, rfl | hc⟩ := head_number n
    · exact ⟨_, _, hn, rfl⟩
    · exact ⟨_, _, hn, leadType_of_isDigit hc⟩
  | str s => exact ⟨_, _, rfl, rfl⟩
  | arr vs => cases vs <;> exact ⟨_, _, rfl, rfl⟩
  | obj ms => cases ms <;> exact ⟨_, _, rfl, rfl⟩

theorem typeName_eq {v w : Json} {r r' : List Char} (h : v.chars ++ r = w.chars ++ r') :
    v.typeName = w.typeName := by
  obtain ⟨c, cs, hv, hc⟩ := head_chars v
  obtain ⟨d, ds, hw, hd⟩ := head_chars w
  rw [hv, hw] at h
  rw [← hc, ← hd, (List.cons.inj h).1]

theorem chars_ne_closing {v : Json} {r r' : List Char} : v.chars ++ r ≠ ']' :: r' := by
  obtain ⟨c, cs, hv, hc⟩ := head_chars v
  rw [hv]
  intro h
  rw [(List.cons.inj h).1] at hc
  cases v <;> simp [leadType, typeName] at hc

/-! ## One reading -/

theorem endsNumber_items (vs : List Json) (r : List Char) :
    EndsNumber (charsOfItems vs ++ ']' :: r) := by
  cases vs <;> exact endsNumber_cons (by decide) _

theorem endsNumber_members (ms : List (String × Json)) (r : List Char) :
    EndsNumber (charsOfMembers ms ++ '}' :: r) := by
  cases ms <;> exact endsNumber_cons (by decide) _

mutual
/-- Two values with the same text are the same, and so is what follows them. -/
theorem chars_readable : ∀ (v w : Json) {r r' : List Char}, EndsNumber r → EndsNumber r' →
    v.chars ++ r = w.chars ++ r' → v = w ∧ r = r'
  | .null, w, r, r', _, _, h => by
    have htype := typeName_eq h
    cases w with
    | null => exact ⟨rfl, List.append_cancel_left h⟩
    | _ => simp [typeName] at htype
  | .bool b, w, r, r', _, _, h => by
    have htype := typeName_eq h
    cases w with
    | bool c => cases b <;> cases c <;> simp_all [chars]
    | _ => simp [typeName] at htype
  | .num n, w, r, r', hr, hr', h => by
    have htype := typeName_eq h
    cases w with
    | num m =>
      obtain ⟨rfl, hrest⟩ := number_readable hr hr' h
      exact ⟨rfl, hrest⟩
    | _ => simp [typeName] at htype
  | .str s, w, r, r', _, _, h => by
    have htype := typeName_eq h
    cases w with
    | str t =>
      obtain ⟨rfl, hrest⟩ := quoted_readable h
      exact ⟨rfl, hrest⟩
    | _ => simp [typeName] at htype
  | .arr [], w, r, r', _, _, h => by
    have htype := typeName_eq h
    cases w with
    | arr ws =>
      cases ws with
      | nil => exact ⟨rfl, List.append_cancel_left h⟩
      | cons w ws =>
        simp only [chars, List.cons_append, List.append_assoc, List.nil_append, List.cons.injEq,
          true_and] at h
        exact absurd h.symm chars_ne_closing
    | _ => simp [typeName] at htype
  | .arr (v :: vs), w, r, r', _, _, h => by
    have htype := typeName_eq h
    cases w with
    | arr ws =>
      cases ws with
      | nil =>
        simp only [chars, List.cons_append, List.append_assoc, List.nil_append, List.cons.injEq,
          true_and] at h
        exact absurd h chars_ne_closing
      | cons w ws =>
        obtain ⟨hitems, hrest⟩ := items_readable (v :: vs) (w :: ws) (by simpa [chars, charsOfItems] using h)
        exact ⟨by rw [hitems], hrest⟩
    | _ => simp [typeName] at htype
  | .obj [], w, r, r', _, _, h => by
    have htype := typeName_eq h
    cases w with
    | obj ns =>
      cases ns with
      | nil => exact ⟨rfl, List.append_cancel_left h⟩
      | cons n ns => simp [chars, quoted] at h
    | _ => simp [typeName] at htype
  | .obj ((k, v) :: ms), w, r, r', _, _, h => by
    have htype := typeName_eq h
    cases w with
    | obj ns =>
      cases ns with
      | nil => simp [chars, quoted] at h
      | cons n ns =>
        obtain ⟨l, w⟩ := n
        obtain ⟨hmembers, hrest⟩ := members_readable ((k, v) :: ms) ((l, w) :: ns)
          (by simpa [chars, charsOfMembers] using h)
        exact ⟨by rw [hmembers], hrest⟩
    | _ => simp [typeName] at htype
theorem items_readable : ∀ (vs ws : List Json) {r r' : List Char},
    charsOfItems vs ++ ']' :: r = charsOfItems ws ++ ']' :: r' → vs = ws ∧ r = r'
  | [], [], _, _, h => ⟨rfl, (List.cons.inj h).2⟩
  | [], w :: ws, _, _, h => by simp [charsOfItems] at h
  | v :: vs, [], _, _, h => by simp [charsOfItems] at h
  | v :: vs, w :: ws, r, r', h => by
    simp only [charsOfItems, List.cons_append, List.append_assoc, List.cons.injEq, true_and] at h
    obtain ⟨rfl, hitems⟩ := chars_readable v w (endsNumber_items vs r) (endsNumber_items ws r') h
    obtain ⟨rfl, hrest⟩ := items_readable vs ws hitems
    exact ⟨rfl, hrest⟩
theorem members_readable : ∀ (ms ns : List (String × Json)) {r r' : List Char},
    charsOfMembers ms ++ '}' :: r = charsOfMembers ns ++ '}' :: r' → ms = ns ∧ r = r'
  | [], [], _, _, h => ⟨rfl, (List.cons.inj h).2⟩
  | [], n :: ns, _, _, h => by simp [charsOfMembers] at h
  | m :: ms, [], _, _, h => by simp [charsOfMembers] at h
  | (k, v) :: ms, (l, w) :: ns, r, r', h => by
    simp only [charsOfMembers, List.cons_append, List.append_assoc, List.cons.injEq, true_and] at h
    obtain ⟨rfl, hvalue⟩ := quoted_readable h
    obtain ⟨rfl, hmembers⟩ := chars_readable v w (endsNumber_members ms r)
      (endsNumber_members ns r') (List.cons.inj hvalue).2
    obtain ⟨rfl, hrest⟩ := members_readable ms ns hmembers
    exact ⟨rfl, hrest⟩
end

/-- Two values with the same compact text are the same. -/
theorem compact_inj {v w : Json} (h : v.compact = w.compact) : v = w := by
  have hchars : v.chars ++ [] = w.chars ++ [] := by
    rw [List.append_nil, List.append_nil]
    exact String.ofList_injective h
  exact (chars_readable v w endsNumber_nil endsNumber_nil hchars).1

end ChatPlan.Json
