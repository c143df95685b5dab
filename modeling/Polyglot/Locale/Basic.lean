import Polyglot.Locale.Data.Arabic
import Polyglot.Locale.Data.BrazilianPortuguese
import Polyglot.Locale.Data.BritishEnglish
import Polyglot.Locale.Data.English
import Polyglot.Locale.Data.French
import Polyglot.Locale.Data.German
import Polyglot.Locale.Data.Hindi
import Polyglot.Locale.Data.Japanese
import Polyglot.Locale.Data.Polish
import Polyglot.Locale.Data.Russian
import Polyglot.Locale.Data.Spanish
import Polyglot.Locale.Data.SwissGerman
import Polyglot.Locale.Data.Ukrainian
import Polyglot.Locale.Data.Welsh
import Polyglot.Locale.Tag

/-!
# Locales

A locale is a tag together with the data that numbers and dates are printed with. In a library of
locales every language resolves to one: to its own, to that of its base language or to English.
-/
namespace Polyglot

/-- A tag, its data and the weeks of its territory. -/
structure Locale where
  tag : LocaleTag
  data : LocaleData
  week : WeekRule
  deriving Inhabited

namespace Locale

def languages : List (String × LocaleData) := [
  ("ar", .arabic), ("cy", .welsh), ("de", .german), ("en", .english), ("es", .spanish),
  ("fr", .french), ("hi", .hindi), ("ja", .japanese), ("pl", .polish),
  ("pt", .brazilianPortuguese), ("ru", .russian), ("uk", .ukrainian)]

/-- The territories with the English of the United States; the others have British English. -/
def americanEnglish : List String :=
  ["AS", "BI", "GU", "MH", "MP", "PH", "PR", "UM", "US", "VI"]

def data? (language : String) (territory : Option String) : Option LocaleData :=
  match territory with
  | none => Entries.get? languages language
  | some t =>
      if !((Entries.get? Territory.known language).getD []).contains t then none
      else if language = "en" ∧ t ∉ americanEnglish then some .britishEnglish
      else if language = "de" ∧ t = "CH" then some .swissGerman
      else Entries.get? languages language

/-- American English with the plain number patterns of the POSIX standard. -/
def posixEnglish : LocaleData :=
  { LocaleData.english with
    infinity := "INF"
    decimalPattern := "0.######"
    percentPattern := "0%"
    currencyPattern := "¤\u00a00.00" }

/-- The locale of exactly this tag. There are none with a script, and one with a variant. -/
def named? (t : LocaleTag) : Option Locale :=
  let data :=
    match t.script, t.variant with
    | none, none => data? t.language t.territory
    | none, some "POSIX" =>
        if t.language = "en" ∧ t.territory = some "US" then some posixEnglish else none
    | _, _ => none
  data.map fun d => ⟨t, d, Territory.weekRule t.territory⟩

/-- The locale of a tag, or else of the tag that it most likely means. -/
def ofTag? (tag : String) : Option Locale := do
  let t ← LocaleTag.parse? tag
  (named? t).orElse fun _ => t.canonical.likely?.bind named?

def english : Locale := ⟨.plain "en" none, .english, .common⟩

end Locale

/-- A library of locales: which locale a tag has, if it has one, and English, which takes the place
of one that is not there. -/
structure LocaleLibrary where
  ofTag? : String → Option Locale
  english : Locale

/-- The locales whose data is given here. -/
def LocaleLibrary.known : LocaleLibrary := ⟨Locale.ofTag?, .english⟩

namespace Locale

def hyphenated (language : String) : String :=
  String.ofList (language.toList.map fun c => if c = '_' then '-' else c)

/-- The locale of a language itself or of its base language, if the library has one. -/
def resolve? (language : String) (library : LocaleLibrary := .known) : Option Locale :=
  let tag := hyphenated language
  (library.ofTag? tag).orElse fun _ =>
    library.ofTag? (String.ofList (Text.cutAt '-' tag.toList).1)

/-- The locale of a language, English when there is no other. -/
def resolve (language : String) (library : LocaleLibrary := .known) : Locale :=
  (resolve? language library).getD library.english

def text (l : Locale) : String := l.tag.text

end Locale
end Polyglot
