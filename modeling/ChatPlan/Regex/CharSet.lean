import ChatPlan.Text.Alphabetic
import ChatPlan.Text.Basic
import ChatPlan.Text.Case
import ChatPlan.Text.Category
import ChatPlan.Text.Property
import ChatPlan.Text.Script

/-
Sets of characters as patterns build them: tables of ranges under union, intersection, complement
and closure under case. Sets have names: classes of one letter, ASCII classes, and Unicode
categories, properties and scripts.
-/
namespace ChatPlan.Regex

open Text

/-- A set of characters. -/
inductive CharSet where
  | ranges (table : List (Nat × Nat))
  | union (a b : CharSet)
  | inter (a b : CharSet)
  | compl (a : CharSet)
  | fold (a : CharSet)
  | foldAscii (a : CharSet)

namespace CharSet

/-- Membership. A set closed under case has all case variants of its members. -/
def mem : CharSet → Char → Bool
  | .ranges t => fun c => inRanges t c
  | .union a b => fun c => a.mem c || b.mem c
  | .inter a b => fun c => a.mem c && b.mem c
  | .compl a => fun c => !a.mem c
  | .fold a => fun c => (caseVariants c).any a.mem
  | .foldAscii a => fun c => (asciiCaseVariants c).any a.mem

def nothing : CharSet := .ranges []

def any : CharSet := .ranges [(0, 0x10ffff)]

def single (c : Char) : CharSet := .ranges [(c.toNat, c.toNat)]

def unions (ss : List CharSet) : CharSet := ss.foldr .union nothing

def diff (a b : CharSet) : CharSet := .inter a (.compl b)

/-- The characters of exactly one of the two sets. -/
def xor (a b : CharSet) : CharSet := .union (diff a b) (diff b a)

/-- The bytes of UTF-8 that tell the members of a set apart, as a measure of its size. -/
def weight : CharSet → Nat
  | .ranges t => total (fun r => (Char.ofNat r.2).utf8Size) t
  | .union a b => a.weight + b.weight
  | .inter a b => a.weight + b.weight
  | .compl a => a.weight + 10
  | .fold a => 2 * a.weight
  | .foldAscii a => 2 * a.weight

/-- The characters of the categories with these short names. -/
def ofCategories (names : List String) : CharSet :=
  .ranges ((categories.filter fun k => k.1.any names.contains).flatMap (·.2))

def assigned : CharSet := .ranges (categories.flatMap (·.2))

def letters : List String := ["lu", "ll", "lt", "lm", "lo"]

def casedLetters : List String := ["lu", "ll", "lt"]

def marks : List String := ["mn", "mc", "me"]

def numbers : List String := ["nd", "nl", "no"]

def punctuation : List String := ["pc", "pd", "ps", "pe", "pi", "pf", "po"]

def symbols : List String := ["sm", "sc", "sk", "so"]

def separators : List String := ["zs", "zl", "zp"]

/-- Letters, marks, digits and connectors: what Unicode takes for a part of a word. -/
def word : CharSet :=
  unions [.ranges alphabeticRanges, ofCategories (["nd", "pc"] ++ marks),
    .ranges propertyJoinControl]

def digit : CharSet := ofCategories ["nd"]

def space : CharSet := .ranges blankRanges

def asciiDigit : CharSet := .ranges [(0x30, 0x39)]

def asciiSpace : CharSet := .ranges [(0x9, 0xd), (0x20, 0x20)]

def asciiWord : CharSet := .ranges [(0x30, 0x39), (0x41, 0x5a), (0x5f, 0x5f), (0x61, 0x7a)]

/-- The table of the first entry that has the name. -/
def named? (table : List (List String × List (Nat × Nat))) (name : String) : Option CharSet :=
  (table.find? fun e => e.1.contains name).map fun e => .ranges e.2

/-- The ASCII classes. -/
def asciiClass? (name : String) : Option CharSet :=
  named? [(["alnum"], [(0x30, 0x39), (0x41, 0x5a), (0x61, 0x7a)]),
    (["alpha"], [(0x41, 0x5a), (0x61, 0x7a)]), (["ascii"], [(0, 0x7f)]),
    (["blank"], [(0x9, 0x9), (0x20, 0x20)]), (["cntrl"], [(0, 0x1f), (0x7f, 0x7f)]),
    (["digit"], [(0x30, 0x39)]), (["graph"], [(0x21, 0x7e)]), (["lower"], [(0x61, 0x7a)]),
    (["print"], [(0x20, 0x7e)]),
    (["punct"], [(0x21, 0x2f), (0x3a, 0x40), (0x5b, 0x60), (0x7b, 0x7e)]),
    (["space"], [(0x9, 0xd), (0x20, 0x20)]), (["upper"], [(0x41, 0x5a)]),
    (["word"], [(0x30, 0x39), (0x41, 0x5a), (0x5f, 0x5f), (0x61, 0x7a)]),
    (["xdigit"], [(0x30, 0x39), (0x41, 0x46), (0x61, 0x66)])] name

/-- Unions of categories under one name. -/
def categoryGroup? (name : String) : Option CharSet :=
  if ["any"].contains name then some any
  else if ["ascii"].contains name then some (.ranges [(0, 0x7f)])
  else if ["assigned"].contains name then some assigned
  else if ["cn", "unassigned"].contains name then some (.compl assigned)
  else if ["c", "other"].contains name then
    some (.union (ofCategories ["cc", "cf", "co"]) (.compl assigned))
  else if ["l", "letter"].contains name then some (ofCategories letters)
  else if ["lc", "casedletter"].contains name then some (ofCategories casedLetters)
  else if ["m", "mark", "combiningmark"].contains name then some (ofCategories marks)
  else if ["n", "number"].contains name then some (ofCategories numbers)
  else if ["p", "punctuation", "punct"].contains name then some (ofCategories punctuation)
  else if ["s", "symbol"].contains name then some (ofCategories symbols)
  else if ["z", "separator"].contains name then some (ofCategories separators)
  else none

/-- The general category with this name. -/
def category? (name : String) : Option CharSet :=
  (categoryGroup? name).or (named? categories name)

/-- The script with this name. -/
def script? (name : String) : Option CharSet := named? scripts name

def idStart : CharSet :=
  diff (.union (ofCategories (letters ++ ["nl"])) (.ranges otherIdStart)) (.ranges notIdStart)

def idContinue : CharSet :=
  diff (.union (ofCategories (letters ++ ["nl", "mn", "mc", "nd", "pc"])) (.ranges otherIdContinue))
    (.ranges notIdStart)

def graphemeBase : CharSet :=
  diff (ofCategories (letters ++ numbers ++ punctuation ++ symbols ++ ["zs", "mc"]))
    (.ranges notGraphemeBase)

/-- Properties that follow from general categories. -/
def derivedProperty? (name : String) : Option CharSet :=
  if ["alphabetic", "alpha"].contains name then some (.ranges alphabeticRanges)
  else if ["whitespace", "wspace", "space"].contains name then some space
  else if ["cased"].contains name then some (.ranges casedRanges)
  else if ["caseignorable", "ci"].contains name then some (.ranges caseIgnorableRanges)
  else if ["lowercase", "lower"].contains name then
    some (.union (ofCategories ["ll"]) (.ranges otherLowercase))
  else if ["uppercase", "upper"].contains name then
    some (.union (ofCategories ["lu"]) (.ranges otherUppercase))
  else if ["math"].contains name then some (.union (ofCategories ["sm"]) (.ranges otherMath))
  else if ["graphemeextend", "grext"].contains name then
    some (.union (ofCategories ["me", "mn"]) (.ranges otherGraphemeExtend))
  else if ["graphemebase", "grbase"].contains name then some graphemeBase
  else if ["idstart", "ids"].contains name then some idStart
  else if ["idcontinue", "idc"].contains name then some idContinue
  else if ["xidstart", "xids"].contains name then some (diff idStart (.ranges notXidStart))
  else if ["xidcontinue", "xidc"].contains name then some (diff idContinue (.ranges notXidContinue))
  else none

/-- The property with this name. The names `cf`, `sc` and `lc` are those of categories. -/
def property? (name : String) : Option CharSet :=
  if ["cf", "sc", "lc"].contains name then none
  else (derivedProperty? name).or (named? properties name)

/-- The ASCII letters and signs of a name in lower case, without blanks, `_` and `-`. -/
def bareName (cs : List Char) : List Char :=
  (cs.filter fun c => c.toNat < 0x80 && !(c == ' ' || c == '_' || c == '-')).map Char.toLower

/-- A name without case, separators and a leading `is`; `isc` alone is a name of its own. -/
def looseName (cs : List Char) : String :=
  match cs with
  | a :: b :: r =>
    if (a == 'i' || a == 'I') && (b == 's' || b == 'S') then
      if bareName r = ['c'] then "isc" else String.ofList (bareName r)
    else String.ofList (bareName cs)
  | _ => String.ofList (bareName cs)

/-- The set with this name: a property, a category or a script. -/
def ofName? (name : List Char) : Option CharSet :=
  let n := looseName name
  ((property? n).or (category? n)).or (script? n)

/-- The set with this value of the category or the script. -/
def ofValue? (name value : List Char) : Option CharSet :=
  let n := looseName name
  if ["gc", "generalcategory"].contains n then category? (looseName value)
  else if ["sc", "script"].contains n then script? (looseName value)
  else none

end CharSet

end ChatPlan.Regex
