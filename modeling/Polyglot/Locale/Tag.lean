import Polyglot.Locale.Territory
import Polyglot.Text.Blank
import Polyglot.Text.Case
import Polyglot.Text.Letter
import Polyglot.Value.Basic

/-!
# Locale tags

A locale tag names a language and, after hyphens, a script, a territory and a variant, in
this order and each at most once. A tag with no locale of its own may stand for another tag:
codes have aliases, and a language has a territory that it is most likely spoken in.
-/
namespace Polyglot

/-- The parts of a locale tag. -/
structure LocaleTag where
  language : String
  script : Option String
  territory : Option String
  variant : Option String
  modifier : Option String
  deriving DecidableEq, Repr, Inhabited

namespace LocaleTag

def isDigit (c : Char) : Bool := '0' ≤ c && c ≤ '9'

/-- The first letter in upper case and the others in lower case. -/
def titleCase : List Char → List Char
  | [] => []
  | c :: r => c.toUpper :: r.map Char.toLower

def takePart (form : List Char → Bool) : List (List Char) → Option (List Char) × List (List Char)
  | [] => (none, [])
  | p :: ps => if form p then (some p, ps) else (none, p :: ps)

def isScript (p : List Char) : Bool := p.length == 4 && p.all Text.isLetter

/-- A territory has two letters or three digits. -/
def isTerritory (p : List Char) : Bool :=
  (p.length == 2 && p.all Text.isLetter) || (p.length == 3 && p.all isDigit)

/-- A variant has four characters and starts with a digit, or has more and starts with a
letter. -/
def isVariant : List Char → Bool
  | [] => false
  | c :: r => (r.length == 3 && isDigit c) || (4 ≤ r.length && Text.isLetter c)

/-- Takes a tag apart. What follows an at sign is a modifier, and what follows a point in
front of it does not count. -/
def parse? (tag : String) : Option LocaleTag :=
  let (body, modifier) := Text.cutAt '@' tag.toList
  let (body, _) := Text.cutAt '.' body
  match Text.splitOn '-' body with
  | [] => none
  | first :: parts =>
      let language := (Text.lower (String.ofList first)).toList
      if language.isEmpty || !language.all Text.isLetter then none
      else
        let (script, parts) := takePart isScript parts
        let (territory, parts) := takePart isTerritory parts
        let (variant, parts) :=
          match parts.getLast? with
          | some last =>
              if (parts.head?.map isVariant).getD false then (some last, parts.dropLast)
              else (none, parts)
          | none => (none, parts)
        if !parts.isEmpty then none
        else
          some {
            language := String.ofList language
            script := script.map fun p => String.ofList (titleCase p)
            territory := territory.map fun p => Text.upper (String.ofList p)
            variant := variant.map fun p => Text.upper (String.ofList p)
            modifier := modifier.bind fun p => if p.isEmpty then none else some (String.ofList p) }

/-- The name of a locale: language, script, territory and variant. -/
def name (t : LocaleTag) : String :=
  "_".intercalate (t.language :: (t.script.toList ++ t.territory.toList ++ t.variant.toList))

def text (t : LocaleTag) : String :=
  match t.modifier with
  | none => t.name
  | some m => t.name ++ "@" ++ m

def plain (language : String) (territory : Option String) : LocaleTag :=
  ⟨language, none, territory, none, none⟩

/-- The tag with the usual codes for its language and territory. Codes that stand for an unknown
script or territory are dropped. -/
def canonical (t : LocaleTag) : LocaleTag :=
  { t with
    language := (Entries.get? Territory.languageAliases t.language).getD t.language
    script := t.script.filter (· != "Zzzz")
    territory :=
      (t.territory.map fun c => (Entries.get? Territory.aliases c).getD c).filter (· != "ZZ") }

/-- The tag that a canonical tag most likely means: a language alone means that of its likely
territory; beside anything else only language and territory count. -/
def likely? (t : LocaleTag) : Option LocaleTag :=
  (Entries.get? Territory.likely t.language).map fun territory =>
    if t = plain t.language none then plain t.language (some territory)
    else plain t.language t.territory

end LocaleTag
end Polyglot
