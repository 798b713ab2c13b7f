import ChatPlan.Number.Decimal

/-
JSON values. A number is a whole number in the range of 64-bit words or a finite double; the two
kinds are never equal. The members of an object are kept sorted by key, each key once. The compact
text of a value has no blanks, members in key order, and in strings an escape only where JSON
demands one.
-/
namespace ChatPlan

/-! ## Values -/

/-- Members with string keys: sorted by key, each key once. -/
abbrev Members (α : Type) := List (String × α)

namespace Members

variable {α : Type}

/-- The member goes to its place by key; a member with the same key is replaced. -/
def insert (k : String) (v : α) : Members α → Members α
  | [] => [(k, v)]
  | (k', v') :: r =>
    if k < k' then (k, v) :: (k', v') :: r
    else if k = k' then (k, v) :: r
    else (k', v') :: insert k v r

/-- Puts the members of the list in front of all others with the same keys, one after the other. -/
def insertAll (ms : Members α) (new : List (String × α)) : Members α :=
  new.foldl (fun acc m => insert m.1 m.2 acc) ms

/-- Sorts members by key; of members with one key the last stays. -/
def ofList (ms : List (String × α)) : Members α := insertAll [] ms

/-- The member with this key. -/
def get? (ms : Members α) (k : String) : Option α := (ms.find? (·.1 == k)).map (·.2)

/-- A member with this key exists. -/
def has (ms : Members α) (k : String) : Bool := ms.any (·.1 == k)

/-- The members without the one of this key. -/
def erase (ms : Members α) (k : String) : Members α := ms.filter (·.1 != k)

end Members

/-- A JSON number: a whole number, or a double when it was written with a point or an exponent. -/
inductive JsonNumber where
  | int (i : Int)
  | float (x : FiniteDouble)
deriving DecidableEq

/-- A JSON value. -/
inductive Json where
  | null
  | bool (b : Bool)
  | num (n : JsonNumber)
  | str (s : String)
  | arr (items : List Json)
  | obj (members : List (String × Json))

namespace JsonNumber

/-- The number as a double. -/
def toDouble : JsonNumber → Double
  | .int i => Double.ofInt i
  | .float x => .finite x

/-- Equality of two numbers of one kind; the two zeros are equal. -/
def same : JsonNumber → JsonNumber → Bool
  | .int i, .int j => i == j
  | .float x, .float y => x.value == y.value
  | _, _ => false

/-- The number as JSON writes it. -/
def chars : JsonNumber → List Char
  | .int i => (if i < 0 then ['-'] else []) ++ digits i.natAbs
  | .float x => x.jsonChars

end JsonNumber

namespace Json

instance : Inhabited Json := ⟨.null⟩

/-- The object with these members. -/
def object (ms : List (String × Json)) : Json := .obj (Members.ofList ms)

/-- The object with those members that are present. -/
def record (ms : List (String × Option Json)) : Json :=
  object (ms.filterMap fun m => m.2.map (m.1, ·))

/-- A member of an object by key; nothing else has members. -/
def get? (j : Json) (k : String) : Option Json :=
  match j with
  | .obj ms => Members.get? ms k
  | _ => none

def ofNat (n : Nat) : Json := .num (.int n)

def strings (ss : List String) : Json := .arr (ss.map .str)

def asString? : Json → Option String
  | .str s => some s
  | _ => none

def asBool? : Json → Option Bool
  | .bool b => some b
  | _ => none

def asArray? : Json → Option (List Json)
  | .arr items => some items
  | _ => none

def asObject? : Json → Option (List (String × Json))
  | .obj ms => some ms
  | _ => none

/-- What a value is, in a word. -/
def typeName : Json → String
  | .null => "null"
  | .bool _ => "boolean"
  | .num _ => "number"
  | .str _ => "string"
  | .arr _ => "array"
  | .obj _ => "object"

def isNull : Json → Bool
  | .null => true
  | _ => false

mutual
/-- Two values are equal: numbers of one kind by value, objects by key. -/
def same : Json → Json → Bool
  | .null, .null => true
  | .bool a, .bool b => a == b
  | .num a, .num b => a.same b
  | .str a, .str b => a == b
  | .arr a, .arr b => sameItems a b
  | .obj a, .obj b => sameMembers a b
  | _, _ => false
/-- Two arrays are equal item by item. -/
def sameItems : List Json → List Json → Bool
  | [], [] => true
  | a :: as, b :: bs => same a b && sameItems as bs
  | _, _ => false
/-- Two sorted member lists are equal member by member. -/
def sameMembers : List (String × Json) → List (String × Json) → Bool
  | [], [] => true
  | (k, a) :: as, (l, b) :: bs => k == l && same a b && sameMembers as bs
  | _, _ => false
end

end Json

end ChatPlan

namespace ChatPlan.Json

/-! ## Compact texts -/

/-- One hexadecimal digit in lower case. -/
def hexDigit (n : Nat) : Char := Nat.digitChar (n % 16)

/-- One character inside a string. -/
def escapeChar (c : Char) : List Char :=
  if c = '"' then ['\\', '"']
  else if c = '\\' then ['\\', '\\']
  else if c = '\n' then ['\\', 'n']
  else if c = '\r' then ['\\', 'r']
  else if c = '\t' then ['\\', 't']
  else if c = '\u0008' then ['\\', 'b']
  else if c = '\u000c' then ['\\', 'f']
  else if c.toNat < 0x20 then
    ['\\', 'u', '0', '0', hexDigit (c.toNat / 16), hexDigit c.toNat]
  else [c]

/-- A string with its quotes. -/
def quoted (s : String) : List Char := '"' :: (s.toList.flatMap escapeChar ++ ['"'])

mutual
/-- The compact text of a value. -/
def chars : Json → List Char
  | .null => ['n', 'u', 'l', 'l']
  | .bool true => ['t', 'r', 'u', 'e']
  | .bool false => ['f', 'a', 'l', 's', 'e']
  | .num n => n.chars
  | .str s => quoted s
  | .arr [] => ['[', ']']
  | .arr (v :: vs) => '[' :: (chars v ++ (charsOfItems vs ++ [']']))
  | .obj [] => ['{', '}']
  | .obj ((k, v) :: ms) => '{' :: (quoted k ++ ':' :: (chars v ++ (charsOfMembers ms ++ ['}'])))
/-- The items after the first one, each behind a comma. -/
def charsOfItems : List Json → List Char
  | [] => []
  | v :: vs => ',' :: (chars v ++ charsOfItems vs)
/-- The members after the first one, each behind a comma. -/
def charsOfMembers : List (String × Json) → List Char
  | [] => []
  | (k, v) :: ms => ',' :: (quoted k ++ ':' :: (chars v ++ charsOfMembers ms))
end

/-- The compact text of a value. -/
def compact (j : Json) : String := String.ofList j.chars

/-- The text of a value where texts are compared: a string is its own text. -/
def displayText : Json → String
  | .str s => s
  | j => j.compact

end ChatPlan.Json
