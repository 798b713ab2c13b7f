import ChatPlan.Guard.Parser
import ChatPlan.Proofs.Text.Basic

/-
The grammar of guards, as a relation between a text and the guard that it writes.

    guard       = conjunction, separated by `||`
    conjunction = clause, separated by `&&`
    clause      = key | `!` key | key operator value
    key         = name, separated by `.`
    operator    = `==` | `=` | `!=` | `>` | `>=` | `<` | `<=`

Blanks may stand around keys, operators and values. A separator is a pair of its character outside
quotes, and of pairs that overlap the first one separates. What a value may be is left open here:
`OneLiteral` asks for a quoted text or a single word, and `AnyText` takes whatever stands there. A
key has no blank, quote, operator or separator in it (`IsKey.isPlain`), so that trimming and cutting
leave it as it is, and a key is read exactly if it is one (`checkKey_eq_ok_iff`).
-/
namespace ChatPlan

/-- The ways in which an operator may be written. -/
def Comparison.spellings : Comparison → List (List Char)
  | .eq => [['=', '='], ['=']]
  | .ne => [['!', '=']]
  | .gt => [['>']]
  | .ge => [['>', '=']]
  | .lt => [['<']]
  | .le => [['<', '=']]

/-- The key of which a clause speaks. -/
def Clause.key : Clause → String
  | .compare key _ _ | .truthy key _ => key

namespace Guard

open Text

/-- Names of letters, digits and underscores, with points between them. -/
def IsKey (cs : List Char) : Prop :=
  ∃ names, names ≠ [] ∧ (∀ n ∈ names, n ≠ [] ∧ ∀ c ∈ n, isKeyChar c = true) ∧
    cs = ['.'].intercalate names

/-- There are alternatives, each of them has clauses, and all clauses speak of keys. -/
def IsKeyed (g : Guard) : Prop :=
  g.anyOf ≠ [] ∧ ∀ clauses ∈ g.anyOf, clauses ≠ [] ∧ ∀ c ∈ clauses, IsKey c.key.toList

/-- The quote that is open behind a text, where `quote` is open before it. -/
def quoteBehind (quote : Option Char) (cs : List Char) : Option Char := cs.foldl quoteAfter quote

/-- No pair of `sep` stands outside quotes. -/
def IsWhole (sep : Char) (quote : Option Char) (cs : List Char) : Prop :=
  ∀ a b, cs = a ++ sep :: sep :: b → quoteBehind quote a ≠ none

/-- The parts of a text between pairs of `sep` outside quotes. A part in front of a pair has closed
its quotes, and no pair begins earlier. -/
inductive Parts (sep : Char) : Option Char → List Char → List (List Char) → Prop where
  | last {quote : Option Char} {p : List Char} (hwhole : IsWhole sep quote p) :
      Parts sep quote p [p]
  | more {quote : Option Char} {p rest : List Char} {ps : List (List Char)}
      (hclosed : quoteBehind quote p = none) (hwhole : IsWhole sep quote (p ++ [sep]))
      (hrest : Parts sep none rest ps) : Parts sep quote (p ++ sep :: sep :: rest) (p :: ps)

/-- A literal and the text that it stands for: a text in quotes of one kind, or one word. -/
inductive IsLiteral : List Char → List Char → Prop where
  | quoted {q : Char} {body : List Char} (hq : isQuote q = true) (hbody : q ∉ body) :
      IsLiteral (q :: (body ++ [q])) body
  | word {w : List Char} (hne : w ≠ [])
      (hchars : ∀ c ∈ w, isBlank c = false ∧ isQuote c = false ∧ c ∉ ['=', '<', '>']) :
      IsLiteral w w

/-- Behind an operator stands one literal. -/
def OneLiteral (_operator rest value : List Char) : Prop :=
  ∃ a t b, Blanks a ∧ Blanks b ∧ rest = a ++ t ++ b ∧ IsLiteral t value

/-- Behind an operator, which is as long as it can be, stands any text that is not blank. -/
def AnyText (operator rest value : List Char) : Prop :=
  trim rest ≠ [] ∧ (operator.length = 1 → rest.head? ≠ some '=') ∧ value = unquote (trim rest)

/-- A text that writes a clause, with `Value` for what stands behind its operator. -/
inductive ClauseText (Value : List Char → List Char → List Char → Prop) :
    List Char → Clause → Prop where
  | key {a k b : List Char} (ha : Blanks a) (hk : IsKey k) (hb : Blanks b) :
      ClauseText Value (a ++ k ++ b) (.truthy (String.ofList k) false)
  | notKey {a b k c : List Char} (ha : Blanks a) (hb : Blanks b) (hk : IsKey k) (hc : Blanks c) :
      ClauseText Value (a ++ '!' :: (b ++ k) ++ c) (.truthy (String.ofList k) true)
  | compare {a k b sign rest value : List Char} {op : Comparison} (ha : Blanks a) (hk : IsKey k)
      (hb : Blanks b) (hsign : sign ∈ op.spellings) (hvalue : Value sign rest value) :
      ClauseText Value (a ++ (k ++ b) ++ (sign ++ rest))
        (.compare (String.ofList k) op (String.ofList value))

/-- A text that writes the clauses of one alternative. -/
def ConjunctionText (Value : List Char → List Char → List Char → Prop) (cs : List Char)
    (clauses : List Clause) : Prop :=
  ∃ ps, Parts '&' none cs ps ∧ List.Forall₂ (ClauseText Value) ps clauses

/-- A text that writes a guard. -/
def GuardText (Value : List Char → List Char → List Char → Prop) (cs : List Char) (g : Guard) :
    Prop :=
  ∃ ps, Parts '|' none cs ps ∧ List.Forall₂ (ConjunctionText Value) ps g.anyOf

end Guard

/-! ## Keys -/

namespace Text

variable {c : Char}

theorem inRanges_eq_false {t u : List (Nat × Nat)}
    (h : ∀ r ∈ t, ∀ s ∈ u, r.2 < s.1 ∨ s.2 < r.1) (hc : inRanges t c = true) :
    inRanges u c = false := by
  obtain ⟨r, hr, hrc⟩ := List.any_eq_true.1 hc
  refine List.any_eq_false.2 fun s hs hsc => ?_
  simp only [Bool.and_eq_true, decide_eq_true_eq] at hrc hsc
  have hdisjoint := h r hr s hs
  omega

theorem isBlank_of_isAlphanumeric (h : isAlphanumeric c = true) : isBlank c = false := by
  rw [isAlphanumeric, Bool.or_eq_true] at h
  rcases h with h | h
  · exact inRanges_eq_false (by decide +kernel) h
  · exact inRanges_eq_false (by decide +kernel) h

end Text

namespace Guard

open Text

variable {c : Char} {k : List Char}

/-- A character that means nothing to the parser: no blank, quote, operator or separator. -/
def IsPlain (c : Char) : Prop :=
  isBlank c = false ∧ isQuote c = false ∧ c ∉ ['=', '<', '>', '!', '&', '|']

theorem isPlain_of_isKeyChar (h : isKeyChar c = true) : IsPlain c := by
  refine ⟨?_, ?_, ?_⟩
  · rw [isKeyChar, Bool.or_eq_true, beq_iff_eq] at h
    rcases h with h | rfl
    · exact isBlank_of_isAlphanumeric h
    · decide
  · cases hq : isQuote c with
    | false => rfl
    | true =>
      rw [isQuote, Bool.or_eq_true, beq_iff_eq, beq_iff_eq] at hq
      rcases hq with rfl | rfl <;> exact absurd h (by decide +kernel)
  · intro hmem
    simp only [List.mem_cons, List.not_mem_nil, or_false] at hmem
    rcases hmem with rfl | rfl | rfl | rfl | rfl | rfl <;> exact absurd h (by decide +kernel)

theorem notMem_of_isPlain (h : IsPlain c) : c ∉ ['=', '<', '>', '!'] :=
  fun hmem => h.2.2 (List.mem_append_left ['&', '|'] hmem)

theorem isKey_iff : IsKey k ↔ ∀ s ∈ segments k, s ≠ [] ∧ ∀ c ∈ s, isKeyChar c = true := by
  rw [segments_eq_splitOn]
  constructor
  · intro h
    obtain ⟨names, hne, hnames, rfl⟩ := h
    rw [List.splitOn_intercalate '.' ?_ hne]
    · exact hnames
    · intro n hn hpoint
      exact absurd ((hnames n hn).2 '.' hpoint) (by decide +kernel)
  · intro h
    exact ⟨k.splitOn '.', List.splitOn_ne_nil '.' k, h, (List.intercalate_splitOn '.').symm⟩

instance (k : List Char) : Decidable (IsKey k) :=
  decidable_of_iff ((segments k).all fun s => !s.isEmpty && s.all isKeyChar) (by simp [isKey_iff])

instance (g : Guard) : Decidable g.IsKeyed := inferInstanceAs (Decidable (_ ∧ _))

theorem IsKey.ne_nil (h : IsKey k) : k ≠ [] := by
  rintro rfl
  exact (isKey_iff.1 h [] (by simp [segments, pieces])).1 rfl

theorem IsKey.isPlain (h : IsKey k) (hc : c ∈ k) : IsPlain c := by
  obtain ⟨names, -, hnames, rfl⟩ := h
  rcases mem_intercalate hc with hpoint | ⟨n, hn, hcn⟩
  · rw [List.mem_singleton.1 hpoint]
    exact ⟨by decide, by decide, by decide⟩
  · exact isPlain_of_isKeyChar ((hnames n hn).2 c hcn)

theorem IsKey.head_not_blank (h : IsKey k) : ∀ c, k.head? = some c → isBlank c = false :=
  fun _ hc => (h.isPlain (List.mem_of_mem_head? hc)).1

theorem IsKey.last_not_blank (h : IsKey k) : ∀ c, k.getLast? = some c → isBlank c = false :=
  fun _ hc => (h.isPlain (List.mem_of_getLast? hc)).1

theorem IsKey.trim_eq (h : IsKey k) : trim k = k :=
  trim_eq_self h.head_not_blank h.last_not_blank

theorem checkKey_eq_ok_iff {key : String} :
    checkKey k = .ok key ↔ IsKey k ∧ key = String.ofList k := by
  rw [checkKey]
  split
  · rename_i hempty
    have hnot : ¬IsKey k := fun h => h.ne_nil (List.isEmpty_iff.1 hempty)
    simp [hnot]
  · split
    · rename_i s hs
      have hnot : ¬IsKey k := by
        intro h
        obtain ⟨hne, hchars⟩ := isKey_iff.1 h s (List.mem_of_find?_eq_some hs)
        have hbad := List.find?_some hs
        simp only [Bool.or_eq_true, List.isEmpty_iff, hne, Bool.not_eq_true', false_or,
          List.all_eq_false] at hbad
        obtain ⟨c, hc, hbad⟩ := hbad
        exact hbad (hchars c hc)
      simp [hnot]
    · rename_i hnone
      have hkey : IsKey k := by
        refine isKey_iff.2 fun s hs => ?_
        have hgood := List.find?_eq_none.1 hnone s hs
        simpa using hgood
      simp [hkey, eq_comm]

end Guard

end ChatPlan
