import Polyglot.Locale.Data

/-!
# British English

The locale data of British English.
-/
namespace Polyglot.LocaleData

/-- Names and patterns of dates in British English. -/
def britishEnglishCalendar : CalendarData where
  monthsShort := [
    "Jan", "Feb", "Mar", "Apr", "May", "Jun", "Jul", "Aug", "Sept", "Oct", "Nov", "Dec"]
  monthsLong := [
    "January", "February", "March", "April", "May", "June", "July", "August", "September",
    "October", "November", "December"]
  monthsNarrow := ["J", "F", "M", "A", "M", "J", "J", "A", "S", "O", "N", "D"]
  monthsAloneShort := [
    "Jan", "Feb", "Mar", "Apr", "May", "Jun", "Jul", "Aug", "Sept", "Oct", "Nov", "Dec"]
  monthsAloneLong := [
    "January", "February", "March", "April", "May", "June", "July", "August", "September",
    "October", "November", "December"]
  daysShort := [
    "Mon", "Tue", "Wed", "Thu", "Fri", "Sat", "Sun"]
  daysLong := [
    "Monday", "Tuesday", "Wednesday", "Thursday", "Friday", "Saturday", "Sunday"]
  daysNarrow := ["M", "T", "W", "T", "F", "S", "S"]
  daysBrief := ["Mo", "Tu", "We", "Th", "Fr", "Sa", "Su"]
  halves := ["am", "pm"]
  halvesNarrow := ["a", "p"]
  dayParts := [
    ⟨0, 0, ⟨"midnight", "midnight", "mi"⟩, .same "midnight"⟩,
    ⟨720, 720, ⟨"noon", "noon", "n"⟩, .same "noon"⟩,
    ⟨0, 720, .same "in the morning", .same "morning"⟩,
    ⟨720, 1080, .same "in the afternoon", .same "afternoon"⟩,
    ⟨1080, 1260, .same "in the evening", .same "evening"⟩,
    ⟨1260, 1440, .same "at night", .same "night"⟩]
  datePatterns := [
    ("short", "dd/MM/y"), ("medium", "d MMM y"), ("long", "d MMMM y"),
    ("full", "EEEE, d MMMM y")]
  timePatterns := [
    ("short", "HH:mm"), ("medium", "HH:mm:ss"), ("long", "HH:mm:ss z"),
    ("full", "HH:mm:ss zzzz")]
  joiner := ", "
  offsetMark := "GMT"
  universalShort := "UTC"
  universalLong := "Coordinated Universal Time"
  zoneFront := "Unknown Region ("
  zoneBack := ") Time"
  skeletons := [
    ("Bh", "h B"), ("Bhm", "h:mm B"), ("Bhms", "h:mm:ss B"), ("E", "ccc"), ("EBhm", "E h:mm B"),
    ("EBhms", "E h:mm:ss B"), ("EHm", "E HH:mm"), ("EHms", "E HH:mm:ss"), ("Ed", "E d"),
    ("Ehm", "E h:mm a"), ("Ehms", "E h:mm:ss a"), ("Gy", "y G"), ("GyMMM", "MMM y G"),
    ("GyMMMEEEEd", "EEEE, d MMM y G"), ("GyMMMEd", "E, d MMM y G"), ("GyMMMd", "d MMM y G"),
    ("GyMd", "dd/MM/y G"), ("H", "HH"), ("Hm", "HH:mm"), ("Hms", "HH:mm:ss"),
    ("Hmsv", "HH:mm:ss v"), ("Hmv", "HH:mm v"), ("M", "L"), ("MEd", "E dd/MM"), ("MMM", "LLL"),
    ("MMMEEEEd", "EEEE d MMM"), ("MMMEd", "E d MMM"), ("MMMMEEEEd", "EEEE d MMMM"),
    ("MMMMW", "'week' W 'of' MMMM"), ("MMMMd", "d MMMM"), ("MMMd", "d MMM"), ("MMdd", "dd/MM"),
    ("Md", "dd/MM"), ("d", "d"), ("h", "h a"), ("hm", "h:mm a"), ("hms", "h:mm:ss a"),
    ("hmsv", "h:mm:ss a v"), ("hmv", "h:mm a v"), ("ms", "mm:ss"), ("y", "y"), ("yM", "MM/y"),
    ("yMEd", "E, dd/MM/y"), ("yMMM", "MMM y"), ("yMMMEEEEd", "EEEE, d MMM y"),
    ("yMMMEd", "E, d MMM y"), ("yMMMM", "MMMM y"), ("yMMMMEEEEd", "EEEE, d MMMM y"),
    ("yMMMd", "d MMM y"), ("yMd", "dd/MM/y"), ("yQQQ", "QQQ y"), ("yQQQQ", "QQQQ y"),
    ("yw", "'week' w 'of' Y")]
  erasShort := ["BC", "AD"]
  erasLong := ["Before Christ", "Anno Domini"]
  erasNarrow := ["B", "A"]
  quartersShort := ["Q1", "Q2", "Q3", "Q4"]
  quartersLong := ["1st quarter", "2nd quarter", "3rd quarter", "4th quarter"]

def britishEnglish : LocaleData where
  plural := [
    (.one, [[⟨.whole, none, false, [(1, 1)]⟩, ⟨.places, none, false, [(0, 0)]⟩]])]
  ordinal := [
    (.few, [[⟨.value, some 10, false, [(3, 3)]⟩, ⟨.value, some 100, true, [(13, 13)]⟩]]),
    (.one, [[⟨.value, some 10, false, [(1, 1)]⟩, ⟨.value, some 100, true, [(11, 11)]⟩]]),
    (.two, [[⟨.value, some 10, false, [(2, 2)]⟩, ⟨.value, some 100, true, [(12, 12)]⟩]])]
  point := "."
  groupMark := ","
  infinity := "∞"
  decimalPattern := "#,##0.###"
  percentPattern := "#,##0%"
  currencyPattern := "¤#,##0.00"
  currencySymbols := [("USD", "US$"), ("EUR", "€"), ("GBP", "£"), ("JPY", "JP¥")]
  compactShort := some [
    ("one", [
      (1000, "0K"), (10000, "00K"), (100000, "000K"), (1000000, "0M"), (10000000, "00M"),
      (100000000, "000M"), (1000000000, "0B"), (10000000000, "00B"), (100000000000, "000B"),
      (1000000000000, "0T"), (10000000000000, "00T"), (100000000000000, "000T")]),
    ("other", [
      (1000, "0K"), (10000, "00K"), (100000, "000K"), (1000000, "0M"), (10000000, "00M"),
      (100000000, "000M"), (1000000000, "0B"), (10000000000, "00B"), (100000000000, "000B"),
      (1000000000000, "0T"), (10000000000000, "00T"), (100000000000000, "000T")])]
  compactLong := some [
    ("one", [
      (1000, "0 thousand"), (10000, "00 thousand"), (100000, "000 thousand"),
      (1000000, "0 million"), (10000000, "00 million"), (100000000, "000 million"),
      (1000000000, "0 billion"), (10000000000, "00 billion"), (100000000000, "000 billion"),
      (1000000000000, "0 trillion"), (10000000000000, "00 trillion"),
      (100000000000000, "000 trillion")]),
    ("other", [
      (1000, "0 thousand"), (10000, "00 thousand"), (100000, "000 thousand"),
      (1000000, "0 million"), (10000000, "00 million"), (100000000, "000 million"),
      (1000000000, "0 billion"), (10000000000, "00 billion"), (100000000000, "000 billion"),
      (1000000000000, "0 trillion"), (10000000000000, "00 trillion"),
      (100000000000000, "000 trillion")])]
  calendar := britishEnglishCalendar

end Polyglot.LocaleData
