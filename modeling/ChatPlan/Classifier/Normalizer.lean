import ChatPlan.Json.Record
import ChatPlan.Text.Basic
import ChatPlan.Text.Case

/-
Normalizers: what is made of a text before it is compared. The steps come in a fixed order, and
each of them can be left out.
-/
namespace ChatPlan.Text

/-! ## Accents -/

/-- Accented letters with the letter that each of them is built on. -/
def accentGroups : List (List Char × Char) := [
  (['á', 'à', 'â', 'ã', 'ä', 'å', 'ā', 'ă', 'ą'], 'a'),
  (['Á', 'À', 'Â', 'Ã', 'Ä', 'Å', 'Ā', 'Ă', 'Ą'], 'A'),
  (['é', 'è', 'ê', 'ë', 'ē', 'ė', 'ę', 'ě'], 'e'),
  (['É', 'È', 'Ê', 'Ë', 'Ē', 'Ė', 'Ę', 'Ě'], 'E'),
  (['í', 'ì', 'î', 'ï', 'ī', 'į'], 'i'),
  (['Í', 'Ì', 'Î', 'Ï', 'Ī', 'Į'], 'I'),
  (['ó', 'ò', 'ô', 'õ', 'ö', 'ø', 'ō', 'ő'], 'o'),
  (['Ó', 'Ò', 'Ô', 'Õ', 'Ö', 'Ø', 'Ō', 'Ő'], 'O'),
  (['ú', 'ù', 'û', 'ü', 'ū', 'ů', 'ű', 'ų'], 'u'),
  (['Ú', 'Ù', 'Û', 'Ü', 'Ū', 'Ů', 'Ű', 'Ų'], 'U'),
  (['ç', 'ć', 'č'], 'c'), (['Ç', 'Ć', 'Č'], 'C'),
  (['ñ', 'ń', 'ň'], 'n'), (['Ñ', 'Ń', 'Ň'], 'N'),
  (['ý', 'ÿ'], 'y'), (['Ý', 'Ÿ'], 'Y'),
  (['š', 'ś'], 's'), (['Š', 'Ś'], 'S'),
  (['ž', 'ź', 'ż'], 'z'), (['Ž', 'Ź', 'Ż'], 'Z'),
  (['ł'], 'l'), (['Ł'], 'L'), (['ř'], 'r'), (['Ř'], 'R'),
  (['ď'], 'd'), (['Ď'], 'D'), (['ť'], 't'), (['Ť'], 'T')]

/-- The letter without its accent; any other character stays. -/
def withoutAccent (c : Char) : Char :=
  ((accentGroups.find? fun g => g.1.contains c).map (·.2)).getD c

end ChatPlan.Text

namespace ChatPlan

/-! ## Steps -/

open Json

/-- Puts one space in place of every run of blanks; `inRun` says that a run has begun. -/
def Text.collapseFrom (inRun : Bool) : List Char → List Char
  | [] => []
  | c :: cs =>
    if isBlank c then
      if inRun then collapseFrom true cs else ' ' :: collapseFrom true cs
    else c :: collapseFrom false cs

/-- Puts one space in place of every run of blanks. -/
def Text.collapse (cs : List Char) : List Char := collapseFrom false cs

/-- The steps that are taken: trimming, one space for a run of blanks, lower case, no accents. -/
structure Normalizer where
  trims : Bool := false
  collapses : Bool := false
  lowers : Bool := false
  foldsAccents : Bool := false
deriving DecidableEq

namespace Normalizer

/-- All steps. -/
def all : Normalizer := ⟨true, true, true, true⟩

/-- No step is taken. -/
def isIdle (n : Normalizer) : Bool := n == {}

/-- Takes a step if it is switched on. -/
def stepIf (on : Bool) (f : List Char → List Char) (cs : List Char) : List Char :=
  if on then f cs else cs

/-- The text after all steps. -/
def apply (n : Normalizer) (cs : List Char) : List Char :=
  stepIf n.foldsAccents (List.map Text.withoutAccent)
    (stepIf n.lowers Text.lower (stepIf n.collapses Text.collapse (stepIf n.trims Text.trim cs)))

/-- The text after all steps. -/
def applied (n : Normalizer) (s : String) : String := String.ofList (n.apply s.toList)

def toJson (n : Normalizer) : Json :=
  object [("trim", .bool n.trims), ("collapse_whitespace", .bool n.collapses),
    ("lowercase", .bool n.lowers), ("strip_accents", .bool n.foldsAccents)]

def ofTree? (t : Tree) : Option Normalizer :=
  match t.slots [["trim"], ["collapse_whitespace"], ["lowercase"], ["strip_accents"]] with
  | some [trims, collapses, lowers, foldsAccents] => do
    return {
      trims := ← trims.orElse Tree.asBool? false
      collapses := ← collapses.orElse Tree.asBool? false
      lowers := ← lowers.orElse Tree.asBool? false
      foldsAccents := ← foldsAccents.orElse Tree.asBool? false }
  | _ => none

end Normalizer

end ChatPlan
