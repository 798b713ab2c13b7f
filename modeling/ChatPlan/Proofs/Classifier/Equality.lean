import ChatPlan.Classifier.Rules
import ChatPlan.Proofs.Guard.Comparisons

/-
How rules compare scalars, which are texts, numbers and truth values. Whichever of the ways of
comparing two scalars is taken, equality holds exactly where the order of the two says so
(`equal_iff_order?`), and the order is missing only where both read as numbers and one of them is a
text that says `nan`. So equality is symmetric, and reflexive on all scalars but these texts
(`rules_compare_scalars`).
-/
namespace ChatPlan

open Json

namespace Json

/-- A text, a number or a truth value. -/
def IsScalar (v : Json) : Prop := v.scalarText?.isSome = true

/-- A text that says `nan`. -/
def IsNan : Json → Prop
  | .str s => Text.IsNan s
  | _ => False

/-- JSON has no number that is `nan`, so that only a text reads as one. -/
theorem number?_eq_nan_iff {v : Json} : v.number? = some .nan ↔ v.IsNan := by
  cases v with
  | str s => exact Double.parse?_eq_nan_iff
  | num n =>
    cases n with
    | int i => simp [number?, IsNan, JsonNumber.toDouble, Double.ofInt_ne_nan]
    | float x => simp [number?, IsNan, JsonNumber.toDouble]
  | null => simp [number?, IsNan]
  | bool b => simp [number?, IsNan]
  | arr items => simp [number?, IsNan]
  | obj ms => simp [number?, IsNan]

end Json

namespace Rule

variable {n : Normalizer} {a b : Json}

/-- Both values read as numbers, and one of them is a text that says `nan`. -/
def Unordered (a b : Json) : Prop :=
  a.number?.isSome ∧ b.number?.isSome ∧ (a.IsNan ∨ b.IsNan)

theorem unordered_self_iff : Unordered a a ↔ a.IsNan := by
  constructor
  · rintro ⟨-, -, h⟩
    exact or_self_iff.1 h
  · intro h
    have hnumber : a.number?.isSome := by rw [number?_eq_nan_iff.2 h, Option.isSome_some]
    exact ⟨hnumber, hnumber, .inl h⟩

/-! ## The order of two scalars -/

theorem order?_of_texts {s t : String} (hs : a.scalarText? = some s) (ht : b.scalarText? = some t)
    (hnumbers : a.number? = none ∨ b.number? = none) :
    order? n a b = some (compare (n.applied s) (n.applied t)) := by
  unfold order?
  split
  · rename_i hx hy
    simp [hx, hy] at hnumbers
  · simp [hs, ht]

theorem order?_of_numbers {x y : Double} (hx : a.number? = some x) (hy : b.number? = some y) :
    order? n a b = x.compare? y := by
  simp only [order?, hx, hy]

theorem numbers_cases (a b : Json) :
    (∃ x y, a.number? = some x ∧ b.number? = some y) ∨ a.number? = none ∨ b.number? = none := by
  cases a.number? with
  | none => simp
  | some x => cases b.number? <;> simp

theorem order?_eq_none_iff (ha : a.IsScalar) (hb : b.IsScalar) :
    order? n a b = none ↔ Unordered a b := by
  rw [Unordered, ← number?_eq_nan_iff, ← number?_eq_nan_iff]
  rcases numbers_cases a b with ⟨x, y, hx, hy⟩ | hnone
  · simp [order?_of_numbers hx hy, hx, hy, Double.compare?_eq_none_iff]
  · obtain ⟨s, hs⟩ := Option.isSome_iff_exists.1 ha
    obtain ⟨t, ht⟩ := Option.isSome_iff_exists.1 hb
    rw [order?_of_texts hs ht hnone]
    rcases hnone with h | h <;> simp [h]

theorem order?_swap (ha : a.IsScalar) (hb : b.IsScalar) :
    order? n a b = (order? n b a).map Ordering.swap := by
  rcases numbers_cases a b with ⟨x, y, hx, hy⟩ | hnone
  · rw [order?_of_numbers hx hy, order?_of_numbers hy hx]
    exact Double.compare?_swap x y
  · obtain ⟨s, hs⟩ := Option.isSome_iff_exists.1 ha
    obtain ⟨t, ht⟩ := Option.isSome_iff_exists.1 hb
    rw [order?_of_texts hs ht hnone, order?_of_texts ht hs hnone.symm]
    exact congrArg some Std.OrientedCmp.eq_swap

/-! ## Equality of two scalars -/

/-- No normalizer takes the text of one truth value to that of the other. -/
theorem applied_bool_eq_iff {p q : Bool} :
    n.applied (Json.bool p).compact = n.applied (Json.bool q).compact ↔ p = q := by
  have hdiffer : n.applied (Json.bool true).compact ≠ n.applied (Json.bool false).compact := by
    obtain ⟨trims, collapses, lowers, folds⟩ := n
    cases trims <;> cases collapses <;> cases lowers <;> cases folds <;> decide +kernel
  cases p <;> cases q <;> simp [hdiffer, hdiffer.symm]

theorem equal_of_texts {s t : String} (hs : a.scalarText? = some s) (ht : b.scalarText? = some t)
    (hnumbers : a.number? = none ∨ b.number? = none) :
    equal n a b = true ↔ n.applied s = n.applied t := by
  unfold equal
  split
  · rename_i hx hy
    simp [hx, hy] at hnumbers
  · split
    · cases hs
      cases ht
      rw [beq_iff_eq, applied_bool_eq_iff]
    · simp [hs, ht]

/-- Scalars are equal exactly if their order says so. -/
theorem equal_iff_order? (ha : a.IsScalar) (hb : b.IsScalar) :
    equal n a b = true ↔ order? n a b = some .eq := by
  rcases numbers_cases a b with ⟨x, y, hx, hy⟩ | hnone
  · rw [order?_of_numbers hx hy, ← Double.same_iff]
    simp only [equal, hx, hy]
  · obtain ⟨s, hs⟩ := Option.isSome_iff_exists.1 ha
    obtain ⟨t, ht⟩ := Option.isSome_iff_exists.1 hb
    rw [order?_of_texts hs ht hnone, equal_of_texts hs ht hnone, Option.some.injEq]
    exact Std.LawfulEqCmp.compare_eq_iff_eq.symm

theorem equal_comm (ha : a.IsScalar) (hb : b.IsScalar) : equal n a b = equal n b a := by
  rw [Bool.eq_iff_iff, equal_iff_order? ha hb, equal_iff_order? hb ha, order?_swap ha hb]
  cases order? n b a with
  | none => simp
  | some r => cases r <;> simp

theorem equal_self_iff (ha : a.IsScalar) : equal n a a = true ↔ ¬a.IsNan := by
  rw [equal_iff_order? ha ha, ← unordered_self_iff, ← order?_eq_none_iff (n := n) ha ha]
  -- the order of a scalar and itself is its own opposite
  have hswap := order?_swap (n := n) ha ha
  cases horder : order? n a a with
  | none => simp
  | some r =>
    rw [horder] at hswap
    cases r with
    | lt => simp at hswap
    | eq => simp
    | gt => simp at hswap

/-! ## Rules -/

theorem holds_of_field {vars : Members Json} {field : String} {op : RuleOp}
    (hfield : Json.at? vars field = some a) (hop : op ∉ [.present, .empty]) :
    Rule.holds n vars ⟨field, op, some b⟩ = compares n op a b := by
  simp only [List.mem_cons, List.not_mem_nil, or_false, not_or] at hop
  obtain ⟨hpresent, hempty⟩ := hop
  simp only [Rule.holds, hfield]

theorem ordered_iff {c : Comparison} :
    ordered n c a b = true ↔ ∃ r ∈ c.outcomes, order? n a b = some r := any_accepts_iff

/-- Rules compare scalars in a sound way, apart from texts that say `nan`. A field that is there is
equal to its own value exactly if this is no such text; equality is symmetric, and `!=` is its
negation; exactly one of `<`, `==` and `>` holds, unless both values read as numbers and one of them
is such a text. A value that is none is among any options which list it, and an array holds each of
its items that is none. -/
theorem rules_compare_scalars (n : Normalizer) {a b : Json} (ha : a.IsScalar) (hb : b.IsScalar)
    {vars vars' : Members Json} {f g : String} (hf : Json.at? vars f = some a)
    (hg : Json.at? vars' g = some b) :
    (Rule.holds n vars ⟨f, .eq, some a⟩ = true ↔ ¬a.IsNan) ∧
    Rule.holds n vars ⟨f, .eq, some b⟩ = Rule.holds n vars' ⟨g, .eq, some a⟩ ∧
    Rule.holds n vars ⟨f, .ne, some b⟩ = !Rule.holds n vars ⟨f, .eq, some b⟩ ∧
    (ExactlyOne (Rule.holds n vars ⟨f, .lt, some b⟩ = true)
      (Rule.holds n vars ⟨f, .eq, some b⟩ = true) (Rule.holds n vars ⟨f, .gt, some b⟩ = true) ↔
        ¬Unordered a b) ∧
    (∀ options, a ∈ options → ¬a.IsNan →
      Rule.holds n vars ⟨f, .among, some (.arr options)⟩ = true) ∧
    ∀ (bag : Members Json) (h : String) (items : List Json), Json.at? bag h = some (.arr items) →
      a ∈ items → ¬a.IsNan → Rule.holds n bag ⟨h, .contains, some a⟩ = true := by
  have hself : ¬a.IsNan → equal n a a = true := (equal_self_iff ha).2
  refine ⟨?reflexive, ?symmetric, ?negation, ?order, ?among, ?contains⟩
  case reflexive =>
    rw [holds_of_field hf (by decide)]
    exact equal_self_iff ha
  case symmetric =>
    rw [holds_of_field hf (by decide), holds_of_field hg (by decide)]
    exact equal_comm ha hb
  case negation =>
    rw [holds_of_field hf (by decide), holds_of_field hf (by decide)]
    rfl
  case order =>
    rw [holds_of_field hf (by decide), holds_of_field hf (by decide),
      holds_of_field hf (by decide), ← order?_eq_none_iff (n := n) ha hb, ← ne_eq,
      ← exactlyOne_outcome]
    simp only [compares, ordered_iff, equal_iff_order? ha hb, Comparison.outcomes,
      List.mem_singleton, exists_eq_left]
  case among =>
    intro options hmem hnan
    rw [holds_of_field hf (by decide)]
    exact List.any_eq_true.2 ⟨a, hmem, hself hnan⟩
  case contains =>
    intro bag h items hitems hmem hnan
    rw [holds_of_field hitems (by decide)]
    exact List.any_eq_true.2 ⟨a, hmem, hself hnan⟩

/-- What a player brings: a score beyond all doubles, a name that says `nan`, and a list of names. -/
def player : Members Json := [
  ("level", .num (.int 7)),
  ("name", .str "Nan"),
  ("names", .arr [.str "Nan"]),
  ("score", .str "1e400")]

/-- A score beyond all doubles is equal to itself, compares with the level, and is among options. -/
theorem score_compares : Json.at? player "score" = some (.str "1e400") ∧
    Json.at? player "level" = some (.num (.int 7)) ∧
    Rule.holds .all player ⟨"score", .eq, some (.str "1e400")⟩ = true ∧
    ExactlyOne (Rule.holds .all player ⟨"score", .lt, some (.num (.int 7))⟩ = true)
      (Rule.holds .all player ⟨"score", .eq, some (.num (.int 7))⟩ = true)
      (Rule.holds .all player ⟨"score", .gt, some (.num (.int 7))⟩ = true) ∧
    Rule.holds .all player ⟨"score", .among, some (.arr [.null, .str "1e400"])⟩ = true := by
  have hscore : Json.at? player "score" = some (.str "1e400") := by rfl
  have hlevel : Json.at? player "level" = some (.num (.int 7)) := by rfl
  have hnan : ¬(Json.str "1e400").IsNan := by
    change ¬Text.IsNan "1e400"
    decide
  obtain ⟨hself, -, -, horder, hamong, -⟩ :=
    rules_compare_scalars .all (a := .str "1e400") (b := .num (.int 7)) rfl rfl hscore hlevel
  refine ⟨hscore, hlevel, hself.2 hnan, horder.2 fun h => ?_, hamong _ (by simp) hnan⟩
  obtain ⟨-, -, hunordered⟩ := h
  exact hunordered.elim hnan id

/-- A name that says `nan` is not equal to itself, is not among options which list it, and is not
held by the list in which it stands, although as a text it starts with itself. With a number it
compares in no way. -/
theorem name_equals_nothing :
    Json.at? player "name" = some (.str "Nan") ∧ Json.at? player "names" = some (.arr [.str "Nan"]) ∧
    Rule.holds {} player ⟨"name", .eq, some (.str "Nan")⟩ = false ∧
    Rule.holds {} player ⟨"name", .among, some (.arr [.str "Nan"])⟩ = false ∧
    Rule.holds {} player ⟨"names", .contains, some (.str "Nan")⟩ = false ∧
    Rule.holds {} player ⟨"name", .startsWith, some (.str "Nan")⟩ = true ∧
    ¬ExactlyOne (Rule.holds {} player ⟨"name", .lt, some (.num (.int 5))⟩ = true)
      (Rule.holds {} player ⟨"name", .eq, some (.num (.int 5))⟩ = true)
      (Rule.holds {} player ⟨"name", .gt, some (.num (.int 5))⟩ = true) := by
  have hnone : ∀ op ∈ [RuleOp.lt, .eq, .gt],
      ¬Rule.holds {} player ⟨"name", op, some (.num (.int 5))⟩ = true := by
    decide +kernel
  refine ⟨rfl, rfl, by decide +kernel, by decide +kernel, by decide +kernel, by decide +kernel, ?_⟩
  intro h
  simp [ExactlyOne, hnone] at h

end Rule

end ChatPlan
