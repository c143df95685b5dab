import Polyglot.Calendar.Pattern
import Polyglot.Locale.Basic

/-!
# Dates in a locale

Prints days, times and moments with the patterns of a locale: by the name of a length, by
a pattern or by a skeleton.
-/
namespace Polyglot.Locale

/-- The pattern of a named length; any other text is a pattern itself. -/
def patternOf (named : List (String × String)) (style : String) : String :=
  (named.lookup style).getD style

def printDate (l : Locale) (pattern : String) (s : DatePattern.Subject) :
    Except DateFault String :=
  DatePattern.print l.data.calendar l.week pattern s

def date (l : Locale) (style : String) (d : Date) : Except DateFault String :=
  l.printDate (patternOf l.data.calendar.datePatterns style) (.ofDate d)

def time (l : Locale) (style : String) (m : Moment) : Except DateFault String :=
  l.printDate (patternOf l.data.calendar.timePatterns style) (.timeOf m)

/-- Prints a moment by the fields that a skeleton names. -/
def skeleton (l : Locale) (skeleton : String) (m : Moment) : Except DateFault String :=
  match DatePattern.ofSkeleton l.data.calendar skeleton with
  | .error e => .error e
  | .ok pattern => l.printDate pattern (.ofMoment m)

/-- Prints a moment with its day and its time in medium length. The time is printed first. -/
def moment (l : Locale) (m : Moment) : Except DateFault String :=
  match l.time "medium" m with
  | .error e => .error e
  | .ok time =>
      (l.date "medium" m.date).map fun day => day ++ l.data.calendar.joiner ++ time

end Polyglot.Locale
