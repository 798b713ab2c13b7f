import ChatPlan.Json.Reader

/-
Typed reading of records. A record is written as an object, or as an array of its fields in order.
A key may not occur twice, under its own name or another name of the same field; keys that name no
field are ignored, or refused by a closed record. A field is found, absent from an object, or cut
off at the end of an array, and each field says what it makes of that.
-/
namespace ChatPlan.Json

/-- What a record says about one of its fields. -/
inductive Slot where
  | found (t : Tree)
  | absent
  | cut

namespace Tree

/-- The field with these names, among the members of an object. -/
def slotOf (ms : List (String × Tree)) (names : List String) : Option Slot :=
  match ms.filter fun m => names.contains m.1 with
  | [] => some .absent
  | [m] => some (.found m.2)
  | _ => none

/-- What the record says about each field; every field is given by all its names. -/
def slots (fields : List (List String)) : Tree → Option (List Slot)
  | .obj ms => fields.mapM (slotOf ms)
  | .arr items =>
    if items.length ≤ fields.length then
      some (items.map .found ++ List.replicate (fields.length - items.length) .cut)
    else none
  | _ => none

/-- All keys of an object are among these names. -/
def keysWithin (names : List String) : Tree → Bool
  | .obj ms => ms.all fun m => names.contains m.1
  | _ => true

/-- What a closed record says about each field. -/
def closedSlots (fields : List (List String)) (t : Tree) : Option (List Slot) :=
  if t.keysWithin fields.flatten then t.slots fields else none

def asString? : Tree → Option String
  | .str s => some s
  | _ => none

def asBool? : Tree → Option Bool
  | .bool b => some b
  | _ => none

/-- A whole number below the bound. -/
def asNatBelow? (bound : Nat) : Tree → Option Nat
  | .num (.int (.ofNat n)) => if n < bound then some n else none
  | _ => none

/-- A whole number of 64 bits. -/
def asWord? (t : Tree) : Option Nat := t.asNatBelow? (Nat.pow 2 64)

/-- A whole number of 64 bits with a sign. -/
def asSigned? : Tree → Option Int
  | .num (.int i) => if i < Nat.pow 2 63 then some i else none
  | _ => none

/-- A double; a whole number counts as one. -/
def asFinite? : Tree → Option FiniteDouble
  | .num (.float x) => some x
  | .num (.int i) =>
    match Double.ofInt i with
    | .finite x => some x
    | _ => none
  | _ => none

/-- An array of values of one type. -/
def asList? {α : Type} (read : Tree → Option α) : Tree → Option (List α)
  | .arr items => items.mapM read
  | _ => none

def asStrings? : Tree → Option (List String) := asList? asString?

/-- An object whose members all have one type; the last of members with one key counts. -/
def asMembers? {α : Type} (read : Tree → Option α) : Tree → Option (Members α)
  | .obj ms => (ms.mapM fun m => (read m.2).map (m.1, ·)).map Members.ofList
  | _ => none

/-- An object of untyped values. -/
def asObject? : Tree → Option (Members Json) := asMembers? value?

/-- The name of a choice that carries no data: a string, or an object with that key and `null`. -/
def asChoice? : Tree → Option String
  | .str s => some s
  | .obj [(k, .null)] => some k
  | _ => none

/-- A value that may be `null`. -/
def asOption? {α : Type} (read : Tree → Option α) : Tree → Option (Option α)
  | .null => some none
  | t => (read t).map some

end Tree

namespace Slot

/-- A field that has to be there. -/
def required {α : Type} (read : Tree → Option α) : Slot → Option α
  | .found t => read t
  | _ => none

/-- A field that takes a default where it is missing. -/
def orElse {α : Type} (read : Tree → Option α) (v : α) : Slot → Option α
  | .found t => read t
  | _ => some v

/-- A field that may be missing or `null`. -/
def optional {α : Type} (read : Tree → Option α) (s : Slot) : Option (Option α) :=
  s.orElse (Tree.asOption? read) none

end Slot

end ChatPlan.Json
