/-
The syntax of patterns: groups, flags, classes and repetitions as they are written. What a part
matches depends on the flags in force, so nothing is resolved here.
-/
namespace ChatPlan.Regex

/-- Why a text is no pattern. -/
inductive RegexError where
  | unclosedGroup
  | unopenedGroup
  | lookAround
  | invalidGroupName
  | invalidFlags
  | nothingToRepeat
  | invalidCount
  | invalidEscape
  | unclosedClass
  | invalidClass
  | unknownProperty
  | needsUnicode
  | tooDeep
  | tooLarge
deriving DecidableEq

/-- The error in words. -/
def RegexError.message : RegexError → String
  | .unclosedGroup => "unclosed group"
  | .unopenedGroup => "unopened group"
  | .lookAround => "look-around is not supported"
  | .invalidGroupName => "invalid group name"
  | .invalidFlags => "invalid flags"
  | .nothingToRepeat => "repetition operator missing expression"
  | .invalidCount => "invalid repetition count"
  | .invalidEscape => "invalid escape sequence"
  | .unclosedClass => "unclosed character class"
  | .invalidClass => "invalid character class"
  | .unknownProperty => "unknown Unicode property"
  | .needsUnicode => "not allowed without Unicode"
  | .tooDeep => "nested too deeply"
  | .tooLarge => "too large when compiled"

/-- A switch that changes how the pattern after it is read. -/
inductive Flag where
  | ignoreCase
  | multiLine
  | dotAll
  | swapGreed
  | unicode
  | crlf
  | verbose
deriving DecidableEq

/-- Flags that are switched on, and flags that are switched off. -/
structure FlagChange where
  on : List Flag
  off : List Flag

/-- What the change makes of one flag. -/
def FlagChange.apply (f : FlagChange) (flag : Flag) (before : Bool) : Bool :=
  if f.on.contains flag then true else if f.off.contains flag then false else before

/-- A condition on a place, as it is written. -/
inductive Anchor where
  | lineStart
  | lineEnd
  | textStart
  | textEnd
  | wordEdge
  | noWordEdge
  | wordStart
  | wordEnd
  | noWordBefore
  | noWordAfter
deriving DecidableEq

/-- A class of one letter. -/
inductive Shorthand where
  | digit
  | space
  | word
deriving DecidableEq

/-- A Unicode property: a name alone, or a name with a value. -/
inductive PropertyName where
  | named (name : List Char)
  | valued (name value : List Char)

/-- The operations on classes. -/
inductive ClassOp where
  | inter
  | diff
  | xor
deriving DecidableEq

/-- A class in brackets, or a part of one. A byte is a character written with two hexadecimal
digits. -/
inductive ClassSet where
  | char (c : Char) (byte : Bool)
  | range (low high : Char) (lowByte highByte : Bool)
  | ascii (name : String) (negated : Bool)
  | shorthand (kind : Shorthand) (negated : Bool)
  | property (name : PropertyName) (negated : Bool)
  | union (parts : List ClassSet)
  | binary (op : ClassOp) (a b : ClassSet)
  | bracket (set : ClassSet) (negated : Bool)

/-- A pattern as it is written. -/
inductive Ast where
  | char (c : Char) (byte : Bool)
  | dot
  | anchor (kind : Anchor)
  | shorthand (kind : Shorthand) (negated : Bool)
  | property (name : PropertyName) (negated : Bool)
  | bracket (set : ClassSet)
  | change (f : FlagChange)
  | group (name : Option (List Char)) (f : FlagChange) (body : Ast)
  | repeated (a : Ast) (min : Nat) (max : Option Nat)
  | concat (parts : List Ast)
  | alt (branches : List Ast)

/-- A sequence of parts; one part is that part. -/
def Ast.ofParts : List Ast → Ast
  | [a] => a
  | as => .concat as

/-- A choice between branches; one branch is that branch. -/
def Ast.ofBranches : List Ast → Ast
  | [a] => a
  | as => .alt as

/-- The parts of a class together; one part is that part. -/
def ClassSet.ofParts : List ClassSet → ClassSet
  | [a] => a
  | as => .union as

mutual
/-- How deeply the class is nested. -/
def ClassSet.depth : ClassSet → Nat
  | .union [] => 0
  | .union (a :: as) => Nat.max a.depth (ClassSet.depths as) + 1
  | .binary _ a b => Nat.max a.depth b.depth + 1
  | .bracket a _ => a.depth + 1
  | _ => 0
/-- How deeply any of the classes is nested. -/
def ClassSet.depths : List ClassSet → Nat
  | [] => 0
  | a :: as => Nat.max a.depth (ClassSet.depths as)
end

mutual
/-- How deeply the pattern is nested. -/
def Ast.depth : Ast → Nat
  | .bracket s => s.depth
  | .group _ _ a => a.depth + 1
  | .repeated a _ _ => a.depth + 1
  | .concat [] => 0
  | .concat (a :: as) => Nat.max a.depth (Ast.depths as) + 1
  | .alt as => Ast.depths as + 1
  | _ => 0
/-- How deeply any of the patterns is nested. -/
def Ast.depths : List Ast → Nat
  | [] => 0
  | a :: as => Nat.max a.depth (Ast.depths as)
end

mutual
/-- The names of the groups, in order. -/
def Ast.groupNames : Ast → List (List Char)
  | .group name _ a => name.toList ++ a.groupNames
  | .repeated a _ _ => a.groupNames
  | .concat as => Ast.groupNamesOf as
  | .alt as => Ast.groupNamesOf as
  | _ => []
/-- The names of the groups of all the patterns, in order. -/
def Ast.groupNamesOf : List Ast → List (List Char)
  | [] => []
  | a :: as => a.groupNames ++ Ast.groupNamesOf as
end

end ChatPlan.Regex
