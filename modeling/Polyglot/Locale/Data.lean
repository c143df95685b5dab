import Polyglot.Calendar.Week
import Polyglot.Locale.PluralRule

/-!
# Locale data

What a locale knows: plural rules, number symbols and patterns, and the names and patterns
of its calendar.
-/
namespace Polyglot

/-- Compact patterns by plural form and magnitude. The form is a category name, or `1` for
patterns that belong to exactly one. -/
abbrev CompactTable := List (String × List (Nat × String))

/-- A name in three lengths. -/
structure NameWidths where
  short : String
  long : String
  narrow : String
  deriving DecidableEq, Repr, Inhabited

def NameWidths.same (name : String) : NameWidths := ⟨name, name, name⟩

/-- A part of the day from one minute of the day up to another one, with its name beside a time
and its name alone. A part that ends where it starts is that minute's first second. -/
structure DayPart where
  start : Nat
  stop : Nat
  beside : NameWidths
  alone : NameWidths
  deriving DecidableEq, Repr, Inhabited

/-- Names and patterns of dates. Lists of days start with Monday. -/
structure CalendarData where
  monthsShort : List String
  monthsLong : List String
  monthsNarrow : List String
  monthsAloneShort : List String
  monthsAloneLong : List String
  daysShort : List String
  daysLong : List String
  daysNarrow : List String
  /-- the names of the days with the fewest letters that tell them apart -/
  daysBrief : List String
  daysAloneShort : List String := daysShort
  daysAloneNarrow : List String := daysNarrow
  /-- the words for the halves of the day -/
  halves : List String
  halvesNarrow : List String := halves
  dayParts : List DayPart
  /-- the patterns by their names: short, medium, long and full -/
  datePatterns : List (String × String)
  timePatterns : List (String × String)
  /-- the text between a day and a time -/
  joiner : String
  /-- the text in front of an offset -/
  offsetMark : String
  universalShort : String
  universalLong : String
  /-- the texts around the name of a zone whose region is not known -/
  zoneFront : String
  zoneBack : String
  skeletons : List (String × String)
  erasShort : List String
  erasLong : List String
  erasNarrow : List String
  quartersShort : List String
  quartersLong : List String
  deriving Inhabited

structure LocaleData where
  plural : PluralRules
  ordinal : PluralRules
  point : String
  groupMark : String
  infinity : String
  minus : String := "-"
  plus : String := "+"
  exponentMark : String := "E"
  decimalPattern : String
  percentPattern : String
  currencyPattern : String
  currencySymbols : List (String × String)
  /-- how many digits the fraction of a currency has that does not have two -/
  currencyPlaces : List (String × Nat) := [("JPY", 0)]
  compactShort : Option CompactTable
  compactLong : Option CompactTable
  calendar : CalendarData
  deriving Inhabited

end Polyglot
