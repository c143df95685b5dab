import Polyglot.Locale.Data

/-!
# English

The locale data of English.
-/
namespace Polyglot.LocaleData

/-- Names and patterns of dates in English. -/
def englishCalendar : CalendarData where
  monthsShort := [
    "Jan", "Feb", "Mar", "Apr", "May", "Jun", "Jul", "Aug", "Sep", "Oct", "Nov", "Dec"]
  monthsLong := [
    "January", "February", "March", "April", "May", "June", "July", "August", "September",
    "October", "November", "December"]
  monthsNarrow := ["J", "F", "M", "A", "M", "J", "J", "A", "S", "O", "N", "D"]
  monthsAloneShort := [
    "Jan", "Feb", "Mar", "Apr", "May", "Jun", "Jul", "Aug", "Sep", "Oct", "Nov", "Dec"]
  monthsAloneLong := [
    "January", "February", "March", "April", "May", "June", "July", "August", "September",
    "October", "November", "December"]
  daysShort := [
    "Mon", "Tue", "Wed", "Thu", "Fri", "Sat", "Sun"]
  daysLong := [
    "Monday", "Tuesday", "Wednesday", "Thursday", "Friday", "Saturday", "Sunday"]
  daysNarrow := ["M", "T", "W", "T", "F", "S", "S"]
  daysBrief := ["Mo", "Tu", "We", "Th", "Fr", "Sa", "Su"]
  halves := ["AM", "PM"]
  halvesNarrow := ["a", "p"]
  dayParts := [
    ⟨0, 0, ⟨"midnight", "midnight", "mi"⟩, .same "midnight"⟩,
    ⟨720, 720, ⟨"noon", "noon", "n"⟩, .same "noon"⟩,
    ⟨0, 720, .same "in the morning", .same "morning"⟩,
    ⟨720, 1080, .same "in the afternoon", .same "afternoon"⟩,
    ⟨1080, 1260, .same "in the evening", .same "evening"⟩,
    ⟨1260, 1440, .same "at night", .same "night"⟩]
  datePatterns := [
    ("short", "M/d/yy"), ("medium", "MMM d, y"), ("long", "MMMM d, y"),
    ("full", "EEEE, MMMM d, y")]
  timePatterns := [
    ("short", "h:mm\u202fa"), ("medium", "h:mm:ss\u202fa"), ("long", "h:mm:ss\u202fa z"),
    ("full", "h:mm:ss\u202fa zzzz")]
  joiner := ", "
  offsetMark := "GMT"
  universalShort := "UTC"
  universalLong := "Coordinated Universal Time"
  zoneFront := "Unknown Region ("
  zoneBack := ") Time"
  skeletons := [
    ("Bh", "h B"), ("Bhm", "h:mm B"), ("Bhms", "h:mm:ss B"), ("E", "ccc"), ("EBhm", "E h:mm B"),
    ("EBhms", "E h:mm:ss B"), ("EHm", "E HH:mm"), ("EHms", "E HH:mm:ss"), ("Ed", "d E"),
    ("Ehm", "E h:mm a"), ("Ehms", "E h:mm:ss a"), ("Gy", "y G"), ("GyMMM", "MMM y G"),
    ("GyMMMEd", "E, MMM d, y G"), ("GyMMMd", "MMM d, y G"), ("GyMd", "M/d/y G"), ("H", "HH"),
    ("Hm", "HH:mm"), ("Hms", "HH:mm:ss"), ("Hmsv", "HH:mm:ss v"), ("Hmv", "HH:mm v"), ("M", "L"),
    ("MEd", "E, M/d"), ("MMM", "LLL"), ("MMMEd", "E, MMM d"), ("MMMMW", "'week' W 'of' MMMM"),
    ("MMMMd", "MMMM d"), ("MMMd", "MMM d"), ("Md", "M/d"), ("d", "d"), ("h", "h a"),
    ("hm", "h:mm a"), ("hms", "h:mm:ss a"), ("hmsv", "h:mm:ss a v"), ("hmv", "h:mm a v"),
    ("ms", "mm:ss"), ("y", "y"), ("yM", "M/y"), ("yMEd", "E, M/d/y"), ("yMMM", "MMM y"),
    ("yMMMEd", "E, MMM d, y"), ("yMMMM", "MMMM y"), ("yMMMd", "MMM d, y"), ("yMd", "M/d/y"),
    ("yQQQ", "QQQ y"), ("yQQQQ", "QQQQ y"), ("yw", "'week' w 'of' Y")]
  erasShort := ["BC", "AD"]
  erasLong := ["Before Christ", "Anno Domini"]
  erasNarrow := ["B", "A"]
  quartersShort := ["Q1", "Q2", "Q3", "Q4"]
  quartersLong := ["1st quarter", "2nd quarter", "3rd quarter", "4th quarter"]

def english : LocaleData where
  plural := [
    (.one, [[⟨.whole, none, false, [(1, 1)]⟩, ⟨.places, none, false, [(0, 0)]⟩]])]
  ordinal := [
    (.few, [[⟨.value, some 10, false, [(3, 3)]⟩, ⟨.value, some 100, true, [(13, 13)]⟩]]),
    (.one, [[⟨.value, some 10, false, [(1, 1)]⟩, ⟨.value, some 100, true, [(11, 11)]⟩]]),
    (.two, [[⟨.value, some 10, false, [(2, 2)]⟩, ⟨.value, some 100, true, [(12, 12)]⟩]])]
  point := "."
  groupMark := ","
  infinity := "∞"
  decimalPattern := "#,##0.###"
  percentPattern := "#,##0%"
  currencyPattern := "¤#,##0.00"
  currencySymbols := [("USD", "$"), ("EUR", "€"), ("GBP", "£"), ("JPY", "¥")]
  compactShort := some [
    ("one", [
      (1000, "0K"), (10000, "00K"), (100000, "000K"), (1000000, "0M"), (10000000, "00M"),
      (100000000, "000M"), (1000000000, "0B"), (10000000000, "00B"), (100000000000, "000B"),
      (1000000000000, "0T"), (10000000000000, "00T"), (100000000000000, "000T")]),
    ("other", [
      (1000, "0K"), (10000, "00K"), (100000, "000K"), (1000000, "0M"), (10000000, "00M"),
      (100000000, "000M"), (1000000000, "0B"), (10000000000, "00B"), (100000000000, "000B"),
      (1000000000000, "0T"), (10000000000000, "00T"), (100000000000000, "000T")])]
  compactLong := some [
    ("one", [
      (1000, "0 thousand"), (10000, "00 thousand"), (100000, "000 thousand"),
      (1000000, "0 million"), (10000000, "00 million"), (100000000, "000 million"),
      (1000000000, "0 billion"), (10000000000, "00 billion"), (100000000000, "000 billion"),
      (1000000000000, "0 trillion"), (10000000000000, "00 trillion"),
      (100000000000000, "000 trillion")]),
    ("other", [
      (1000, "0 thousand"), (10000, "00 thousand"), (100000, "000 thousand"),
      (1000000, "0 million"), (10000000, "00 million"), (100000000, "000 million"),
      (1000000000, "0 billion"), (10000000000, "00 billion"), (100000000000, "000 billion"),
      (1000000000000, "0 trillion"), (10000000000000, "00 trillion"),
      (100000000000000, "000 trillion")])]
  calendar := englishCalendar

end Polyglot.LocaleData
