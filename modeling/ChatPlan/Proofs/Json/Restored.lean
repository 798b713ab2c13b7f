import ChatPlan.Proofs.Json.Rereading

/-
Values that are written and read. A value as it is kept (`WellFormed`) is read from the tree that
says it, and the tree is nested as deep as the value. What is written of the parts of a record is
read from its fields again: a field that is always written, one that is left out where it is
missing, and one that is left out where it is empty.
-/
namespace ChatPlan.Json

/-! ## Untyped values -/

/-- A value as it is kept: whole numbers fit a word, and the members of an object stand in the order
of their keys, each once. -/
inductive WellFormed : Json → Prop
  | null : WellFormed .null
  | bool (b : Bool) : WellFormed (.bool b)
  | int {i : Int} (h : IsWord i) : WellFormed (.num (.int i))
  | float (x : FiniteDouble) : WellFormed (.num (.float x))
  | str (s : String) : WellFormed (.str s)
  | arr {vs : List Json} (h : ∀ v ∈ vs, WellFormed v) : WellFormed (.arr vs)
  | obj {ms : Members Json} (hsorted : Members.Sorted ms) (h : ∀ m ∈ ms, WellFormed m.2) :
      WellFormed (.obj ms)

mutual
/-- How many arrays and objects of the value are open at once. -/
def nesting : Json → Nat
  | .arr vs => nestingOfItems vs + 1
  | .obj ms => nestingOfMembers ms + 1
  | _ => 0
/-- The deepest of the items. -/
def nestingOfItems : List Json → Nat
  | [] => 0
  | v :: vs => max v.nesting (nestingOfItems vs)
/-- The deepest of the members. -/
def nestingOfMembers : List (String × Json) → Nat
  | [] => 0
  | (_, v) :: ms => max v.nesting (nestingOfMembers ms)
end

theorem nesting_le_of_mem {v : Json} {vs : List Json} (h : v ∈ vs) :
    v.nesting ≤ nestingOfItems vs := by
  induction vs with
  | nil => cases h
  | cons w vs ih =>
    rw [nestingOfItems]
    rcases List.mem_cons.1 h with rfl | h
    · exact le_max_left _ _
    · exact le_max_of_le_right (ih h)

theorem nesting_le_of_member {m : String × Json} {ms : List (String × Json)} (h : m ∈ ms) :
    m.2.nesting ≤ nestingOfMembers ms := by
  induction ms with
  | nil => cases h
  | cons n ms ih =>
    obtain ⟨k, v⟩ := n
    rw [nestingOfMembers]
    rcases List.mem_cons.1 h with rfl | h
    · exact le_max_left _ _
    · exact le_max_of_le_right (ih h)

section Parts

variable {α : Type} {read : Tree → Option α} {write : α → Json} {depth : Nat}

theorem Restored.list {as : List α} (h : ∀ a ∈ as, Restored depth read write a) :
    Restored (depth + 1) (Tree.asList? read) (fun as => .arr (as.map write)) as :=
  restored_items write h

theorem Restored.members {ms : Members α} (hsorted : Members.Sorted ms)
    (h : ∀ m ∈ ms, Restored depth read write m.2) :
    Restored (depth + 1) (Tree.asMembers? read) (objectOfMembers write) ms := by
  obtain ⟨hwithin, hread⟩ := restored_members write h
  refine ⟨hwithin, ?_⟩
  rw [objectOfMembers, tree, Tree.asMembers?]
  change (List.mapM (memberOf read) _).map _ = _
  rw [hread, Option.map_some, Members.ofList_of_sorted hsorted]

/-- A value as it is kept is read again, where its nesting leaves room. -/
theorem WellFormed.restored {v : Json} (hv : v.WellFormed) (hdepth : v.nesting ≤ depth) :
    Restored depth Tree.value? id v := by
  induction hv generalizing depth with
  | null => exact ⟨.null, rfl⟩
  | bool b => exact ⟨.bool b, rfl⟩
  | int h => exact ⟨.int h, rfl⟩
  | float x => exact ⟨.float x, rfl⟩
  | str s => exact ⟨.str s, rfl⟩
  | @arr vs _ ih =>
    obtain ⟨depth, rfl⟩ := Nat.exists_eq_add_of_le' (Nat.one_le_of_lt hdepth)
    have hitems : ∀ v ∈ vs, Restored depth Tree.value? id v := fun v hv =>
      ih v hv ((nesting_le_of_mem hv).trans (Nat.le_of_succ_le_succ hdepth))
    obtain ⟨hwithin, hread⟩ := restored_items id hitems
    rw [List.map_id] at hwithin hread
    refine ⟨hwithin, ?_⟩
    rw [id, tree, Tree.value?, valuesOf_eq_mapM, hread]
    rfl
  | @obj ms hsorted _ ih =>
    obtain ⟨depth, rfl⟩ := Nat.exists_eq_add_of_le' (Nat.one_le_of_lt hdepth)
    have hmembers : ∀ m ∈ ms, Restored depth Tree.value? id m.2 := fun m hm =>
      ih m hm ((nesting_le_of_member hm).trans (Nat.le_of_succ_le_succ hdepth))
    obtain ⟨hwithin, hread⟩ := restored_members id hmembers
    rw [objectOfMembers] at hwithin
    simp only [id, Prod.mk.eta, List.map_id'] at hwithin hread
    refine ⟨hwithin, ?_⟩
    rw [id, tree, Tree.value?, membersOf_eq_mapM, hread, Option.map_some, object,
      Members.ofList_of_sorted hsorted]

/-! ## Values without parts -/

theorem restored_string (s : String) : Restored depth Tree.asString? .str s := ⟨.str s, rfl⟩

theorem restored_bool (b : Bool) : Restored depth Tree.asBool? .bool b := ⟨.bool b, rfl⟩

theorem restored_natBelow {bound n : Nat} (hbound : bound ≤ Nat.pow 2 64) (h : n < bound) :
    Restored depth (Tree.asNatBelow? bound) ofNat n := by
  refine ⟨.int ⟨by omega, Int.ofNat_lt.2 (h.trans_le hbound)⟩, ?_⟩
  exact if_pos h

theorem restored_strings (ss : List String) : Restored (depth + 1) Tree.asStrings? strings ss :=
  Restored.list fun s _ => restored_string s

/-! ## Fields -/

theorem Restored.required {a : α} (h : Restored depth read write a) :
    Kept depth (·.required read) (some (write a)) a :=
  h.kept fun _ => rfl

theorem Restored.orElse {a : α} (h : Restored depth read write a) (d : α) :
    Kept depth (·.orElse read d) (some (write a)) a :=
  h.kept fun _ => rfl

theorem restored_optionalString (o : Option String) :
    Kept depth (·.optional Tree.asString?) (optionalString o) o :=
  Restored.optional (fun s _ => restored_string s) fun _ _ => nofun

theorem Restored.nonEmpty {as : List α} (h : ∀ a ∈ as, Restored depth read write a) :
    Kept (depth + 1) (·.orElse (Tree.asList? read) []) (nonEmptyArray (as.map write)) as := by
  cases as with
  | nil => exact ⟨fun v hv => (nomatch hv), rfl⟩
  | cons a as => exact (Restored.list h).kept fun _ => rfl

theorem restored_values {ms : Members Json} (h : (Json.obj ms).WellFormed)
    (hdepth : (Json.obj ms).nesting ≤ depth) :
    Kept depth (·.orElse Tree.asObject? []) (nonEmptyObject id ms) ms := by
  obtain ⟨depth, rfl⟩ := Nat.exists_eq_add_of_le' (Nat.one_le_of_lt hdepth)
  cases h with
  | obj hsorted hms =>
    cases ms with
    | nil => exact ⟨fun v hv => (nomatch hv), rfl⟩
    | cons m ms =>
      have hmembers : Restored (depth + 1) _ _ (m :: ms) :=
        Restored.members hsorted fun n hn => (hms n hn).restored
          ((nesting_le_of_member hn).trans (Nat.le_of_succ_le_succ hdepth))
      exact hmembers.kept fun _ => rfl

end Parts

end ChatPlan.Json
