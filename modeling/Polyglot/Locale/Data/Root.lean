import Polyglot.Locale.Data

/-!
# Common locale data

What a language has that has none of its own: months by their numbers, short words of English, and
patterns that begin with the year.
-/
namespace Polyglot.LocaleData

def rootCalendar : CalendarData where
  monthsShort := [
    "M01", "M02", "M03", "M04", "M05", "M06", "M07", "M08", "M09", "M10", "M11", "M12"]
  monthsLong := [
    "M01", "M02", "M03", "M04", "M05", "M06", "M07", "M08", "M09", "M10", "M11", "M12"]
  monthsNarrow := ["1", "2", "3", "4", "5", "6", "7", "8", "9", "10", "11", "12"]
  monthsAloneShort := [
    "M01", "M02", "M03", "M04", "M05", "M06", "M07", "M08", "M09", "M10", "M11", "M12"]
  monthsAloneLong := [
    "M01", "M02", "M03", "M04", "M05", "M06", "M07", "M08", "M09", "M10", "M11", "M12"]
  daysShort := ["Mon", "Tue", "Wed", "Thu", "Fri", "Sat", "Sun"]
  daysLong := ["Mon", "Tue", "Wed", "Thu", "Fri", "Sat", "Sun"]
  daysNarrow := ["M", "T", "W", "T", "F", "S", "S"]
  daysBrief := ["Mon", "Tue", "Wed", "Thu", "Fri", "Sat", "Sun"]
  halves := ["AM", "PM"]
  dayParts := []
  datePatterns := [
    ("short", "y-MM-dd"), ("medium", "y MMM d"), ("long", "y MMMM d"), ("full", "y MMMM d, EEEE")]
  timePatterns := [
    ("short", "HH:mm"), ("medium", "HH:mm:ss"), ("long", "HH:mm:ss z"), ("full", "HH:mm:ss zzzz")]
  joiner := " "
  offsetMark := "GMT"
  universalShort := "UTC"
  universalLong := "UTC"
  zoneFront := "ZZ ("
  zoneBack := ")"
  skeletons := [
    ("Bh", "h B"), ("Bhm", "h:mm B"), ("Bhms", "h:mm:ss B"), ("E", "ccc"), ("EBhm", "E h:mm B"),
    ("EBhms", "E h:mm:ss B"), ("EHm", "E HH:mm"), ("EHms", "E HH:mm:ss"), ("Ed", "d, E"),
    ("Ehm", "E h:mm a"), ("Ehms", "E h:mm:ss a"), ("Gy", "G y"), ("GyMMM", "G y MMM"),
    ("GyMMMEd", "G y MMM d, E"), ("GyMMMd", "G y MMM d"), ("GyMd", "GGGGG y-MM-dd"), ("H", "HH"),
    ("Hm", "HH:mm"), ("Hms", "HH:mm:ss"), ("Hmsv", "HH:mm:ss v"), ("Hmv", "HH:mm v"), ("M", "L"),
    ("MEd", "MM-dd, E"), ("MMM", "LLL"), ("MMMEd", "MMM d, E"), ("MMMMW", "'week' W 'of' MMMM"),
    ("MMMMd", "MMMM d"), ("MMMd", "MMM d"), ("Md", "MM-dd"), ("d", "d"), ("h", "h a"),
    ("hm", "h:mm a"), ("hms", "h:mm:ss a"), ("hmsv", "h:mm:ss a v"), ("hmv", "h:mm a v"),
    ("ms", "mm:ss"), ("y", "y"), ("yM", "y-MM"), ("yMEd", "y-MM-dd, E"), ("yMMM", "y MMM"),
    ("yMMMEd", "y MMM d, E"), ("yMMMM", "y MMMM"), ("yMMMd", "y MMM d"), ("yMd", "y-MM-dd"),
    ("yQQQ", "y QQQ"), ("yQQQQ", "y QQQQ"), ("yw", "'week' w 'of' Y")]
  erasShort := ["BCE", "CE"]
  erasLong := ["BCE", "CE"]
  erasNarrow := ["BCE", "CE"]
  quartersShort := ["Q1", "Q2", "Q3", "Q4"]
  quartersLong := ["Q1", "Q2", "Q3", "Q4"]

def rootSymbols : List (String × String) :=
  [("USD", "US$"), ("EUR", "€"), ("GBP", "£"), ("JPY", "JP¥")]

/-- The compact patterns of both lengths. -/
def rootCompact : CompactTable := [
  ("other", [
    (1000, "0K"), (10000, "00K"), (100000, "000K"), (1000000, "0M"), (10000000, "00M"),
    (100000000, "000M"), (1000000000, "0G"), (10000000000, "00G"), (100000000000, "000G"),
    (1000000000000, "0T"), (10000000000000, "00T"), (100000000000000, "000T")])]

end Polyglot.LocaleData
