import ChatPlan.Guard.Parser
import ChatPlan.Number.Decimal
import ChatPlan.Text.Basic

/-
The six comparisons of guards. Doubles but `nan`, the infinities among them, are ordered by one
number, and `nan` compares with nothing, not even with itself. A double is `nan` only where a text
says so: no decimal, and no whole number, is rounded to it. All six comparisons look at one outcome,
which is missing only where both texts read as numbers and one of these is `nan`. Where there is an
outcome, the comparisons fit together as those of an order do; where there is none, no text is less
than, equal to or greater than the other (`comparisons_coherent`).
-/
namespace ChatPlan

/-! ## How doubles compare -/

/-- One of the three holds, and the other two do not. -/
def ExactlyOne (p q r : Prop) : Prop := (p ∧ ¬q ∧ ¬r) ∨ (¬p ∧ q ∧ ¬r) ∨ (¬p ∧ ¬q ∧ r)

theorem exactlyOne_outcome {o : Option Ordering} :
    ExactlyOne (o = some .lt) (o = some .eq) (o = some .gt) ↔ o ≠ none := by
  cases o with
  | none => simp [ExactlyOne]
  | some o => cases o <;> simp [ExactlyOne]

/-- The text, without blanks at its ends, is `nan` in any case, behind a sign or none. -/
def Text.IsNan (s : String) : Prop :=
  (Decimal.takeSign (Text.trim s.toList)).2.map Char.toLower = "nan".toList

instance (s : String) : Decidable (Text.IsNan s) := by unfold Text.IsNan; infer_instance

namespace Double

variable {x y : Double}

theorem rank_eq_none_iff : x.rank = none ↔ x = .nan := by
  cases x with
  | finite x => exact ⟨nofun, nofun⟩
  | infinite negative => exact ⟨nofun, nofun⟩
  | nan => exact ⟨fun _ => rfl, fun _ => rfl⟩

theorem compare?_eq_none_iff : x.compare? y = none ↔ x = .nan ∨ y = .nan := by
  rw [← rank_eq_none_iff, ← rank_eq_none_iff, compare?]
  cases x.rank <;> cases y.rank <;> simp

theorem compare?_swap (x y : Double) : x.compare? y = (y.compare? x).map Ordering.swap := by
  unfold compare?
  cases x.rank with
  | none => cases y.rank <;> rfl
  | some i =>
    cases y.rank with
    | none => rfl
    | some j => exact congrArg some (Std.OrientedCmp.eq_swap)

theorem same_iff : x.same y = true ↔ x.compare? y = some .eq := by
  rw [same, beq_iff_eq]

/-! ## Where `nan` comes from -/

theorem ofParts_ne_nan (negative : Bool) (mantissa shift : Nat) :
    ofParts negative mantissa shift ≠ .nan := by
  unfold ofParts
  split <;> simp

theorem ofUnits_ne_nan (negative : Bool) (num den : Nat) : ofUnits negative num den ≠ .nan := by
  simp only [ofUnits]
  split
  · exact ofParts_ne_nan _ _ _
  · exact ofParts_ne_nan _ _ _

theorem ofInt_ne_nan (i : Int) : ofInt i ≠ .nan := ofUnits_ne_nan _ _ _

theorem toDouble_ne_nan (d : Decimal) : d.toDouble ≠ .nan := by
  simp only [Decimal.toDouble]
  split
  · simp
  · split
    · simp
    · split
      · simp
      · split
        · exact ofUnits_ne_nan _ _ _
        · exact ofUnits_ne_nan _ _ _

/-- A text reads as `nan` exactly if it says so. -/
theorem parse?_eq_nan_iff {s : String} : parse? (Text.trim s.toList) = some .nan ↔ Text.IsNan s := by
  unfold Text.IsNan
  generalize Text.trim s.toList = cs
  simp only [parse?, Bool.or_eq_true, decide_eq_true_iff]
  generalize (Decimal.takeSign cs).2.map Char.toLower = word
  by_cases hinfinite : word = "inf".toList ∨ word = "infinity".toList
  · rw [if_pos hinfinite]
    rcases hinfinite with rfl | rfl <;> simp
  · rw [if_neg hinfinite]
    by_cases hnan : word = "nan".toList
    · simp [hnan]
    · rw [if_neg hnan, iff_false_right hnan]
      simp [toDouble_ne_nan]

end Double

/-! ## How guards compare -/

/-- The outcomes that the comparison accepts. -/
def Comparison.outcomes : Comparison → List Ordering
  | .eq => [.eq]
  | .ne => [.lt, .gt]
  | .gt => [.gt]
  | .ge => [.gt, .eq]
  | .lt => [.lt]
  | .le => [.lt, .eq]

theorem any_accepts_iff {op : Comparison} {o : Option Ordering} :
    o.any op.accepts = true ↔ ∃ r ∈ op.outcomes, o = some r := by
  cases o with
  | none => simp
  | some r => cases op <;> cases r <;> decide

namespace Guard

/-- Both texts read as numbers, and one of them as `nan`. -/
def Unordered (a b : String) : Prop :=
  (Double.parse? (Text.trim a.toList)).isSome ∧ (Double.parse? (Text.trim b.toList)).isSome ∧
    (Text.IsNan a ∨ Text.IsNan b)

instance (a b : String) : Decidable (Unordered a b) := by unfold Unordered; infer_instance

/-- Texts do not compare exactly if they are numbers, one of which is `nan`. -/
theorem compareTexts?_eq_none_iff {a b : String} : compareTexts? a b = none ↔ Unordered a b := by
  rw [Unordered, ← Double.parse?_eq_nan_iff, ← Double.parse?_eq_nan_iff, compareTexts?]
  cases Double.parse? (Text.trim a.toList) with
  | none => simp
  | some x =>
    cases Double.parse? (Text.trim b.toList) with
    | none => simp
    | some y => simp [Double.compare?_eq_none_iff]

/-- The clause holds that compares the text of a key with a value. -/
abbrev Compares (resolve : String → String) (key : String) (op : Comparison) (value : String) :
    Prop :=
  Clause.holds resolve (.compare key op value) = true

variable {resolve : String → String} {key value : String}

theorem compares_iff {op : Comparison} : Compares resolve key op value ↔
    ∃ r ∈ op.outcomes, compareTexts? (resolve key) value = some r := any_accepts_iff

/-- Six comparisons of one key with one value are coherent. Unless the texts are numbers of which one
is `nan`, exactly one of `<`, `==` and `>` holds, and `!=` holds where `==` does not; otherwise none
of the three holds. Everywhere `>=` is `>` or `==`, and `<=` is `<` or `==`. -/
theorem comparisons_coherent (resolve : String → String) (key value : String) :
    (¬Unordered (resolve key) value →
      ExactlyOne (Compares resolve key .lt value) (Compares resolve key .eq value)
        (Compares resolve key .gt value) ∧
      (Compares resolve key .ne value ↔ ¬Compares resolve key .eq value)) ∧
    (Unordered (resolve key) value → ¬Compares resolve key .lt value ∧
      ¬Compares resolve key .eq value ∧ ¬Compares resolve key .gt value) ∧
    (Compares resolve key .ge value ↔
      Compares resolve key .gt value ∨ Compares resolve key .eq value) ∧
    (Compares resolve key .le value ↔
      Compares resolve key .lt value ∨ Compares resolve key .eq value) := by
  rw [← compareTexts?_eq_none_iff]
  simp only [compares_iff, Comparison.outcomes, List.mem_cons, List.not_mem_nil, or_false,
    exists_eq_left, exists_eq_or_imp, and_true]
  -- `>=` and `<=` accept what their two halves accept; the rest turns on the one outcome
  generalize compareTexts? (resolve key) value = o
  refine ⟨fun hsome => ⟨exactlyOne_outcome.2 hsome, ?_⟩, fun hnone => ?_⟩
  · obtain ⟨r, rfl⟩ := Option.ne_none_iff_exists'.1 hsome
    cases r <;> decide
  · subst hnone
    decide

/-- Below all numbers there is still an order: `-Infinity` is less than ten, and nothing else. -/
theorem negativeInfinity_compares : ¬Unordered "-Infinity" "10" ∧
    ExactlyOne (Compares (fun _ => "-Infinity") "score" .lt "10")
      (Compares (fun _ => "-Infinity") "score" .eq "10")
      (Compares (fun _ => "-Infinity") "score" .gt "10") ∧
    (Compares (fun _ => "-Infinity") "score" .ne "10" ↔
      ¬Compares (fun _ => "-Infinity") "score" .eq "10") := by
  have hordered : ¬Unordered "-Infinity" "10" := by decide +kernel
  obtain ⟨hone, hne⟩ := (comparisons_coherent (fun _ => "-Infinity") "score" "10").1 hordered
  exact ⟨hordered, hone, hne⟩

/-- An answer that reads as `nan` is not less than five, not five and not greater than five; and
although it is not five, it is not different from five either. -/
theorem nan_compares_with_nothing :
    ¬ExactlyOne (Compares (fun _ => "nan") "score" .lt "5")
      (Compares (fun _ => "nan") "score" .eq "5") (Compares (fun _ => "nan") "score" .gt "5") ∧
    ¬(Compares (fun _ => "nan") "score" .ne "5" ↔ ¬Compares (fun _ => "nan") "score" .eq "5") := by
  have hnone (op : Comparison) : ¬Compares (fun _ => "nan") "score" op "5" := by
    cases op <;> decide +kernel
  exact ⟨fun h => by simp [ExactlyOne, hnone] at h, fun h => hnone .ne (h.2 (hnone .eq))⟩

end Guard

end ChatPlan
