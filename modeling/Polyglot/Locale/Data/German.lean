import Polyglot.Locale.Data

/-!
# German

The locale data of German.
-/
namespace Polyglot.LocaleData

/-- Names and patterns of dates in German. -/
def germanCalendar : CalendarData where
  monthsShort := [
    "Jan.", "Feb.", "März", "Apr.", "Mai", "Juni", "Juli", "Aug.", "Sept.", "Okt.", "Nov.",
    "Dez."]
  monthsLong := [
    "Januar", "Februar", "März", "April", "Mai", "Juni", "Juli", "August", "September",
    "Oktober", "November", "Dezember"]
  monthsNarrow := ["J", "F", "M", "A", "M", "J", "J", "A", "S", "O", "N", "D"]
  monthsAloneShort := [
    "Jan", "Feb", "Mär", "Apr", "Mai", "Jun", "Jul", "Aug", "Sep", "Okt", "Nov", "Dez"]
  monthsAloneLong := [
    "Januar", "Februar", "März", "April", "Mai", "Juni", "Juli", "August", "September",
    "Oktober", "November", "Dezember"]
  daysShort := [
    "Mo.", "Di.", "Mi.", "Do.", "Fr.", "Sa.", "So."]
  daysLong := [
    "Montag", "Dienstag", "Mittwoch", "Donnerstag", "Freitag", "Samstag", "Sonntag"]
  daysNarrow := ["M", "D", "M", "D", "F", "S", "S"]
  daysBrief := ["Mo.", "Di.", "Mi.", "Do.", "Fr.", "Sa.", "So."]
  daysAloneShort := ["Mo", "Di", "Mi", "Do", "Fr", "Sa", "So"]
  halves := ["AM", "PM"]
  dayParts := [
    ⟨0, 0, ⟨"Mitternacht", "um Mitternacht", "Mitternacht"⟩, .same "Mitternacht"⟩,
    ⟨300, 600, .same "morgens", .same "Morgen"⟩,
    ⟨600, 720, .same "vormittags", .same "Vormittag"⟩,
    ⟨720, 780, .same "mittags", .same "Mittag"⟩,
    ⟨780, 1080, .same "nachmittags", .same "Nachmittag"⟩,
    ⟨1080, 1440, .same "abends", .same "Abend"⟩,
    ⟨0, 300, .same "nachts", .same "Nacht"⟩]
  datePatterns := [
    ("short", "dd.MM.yy"), ("medium", "dd.MM.y"), ("long", "d. MMMM y"),
    ("full", "EEEE, d. MMMM y")]
  timePatterns := [
    ("short", "HH:mm"), ("medium", "HH:mm:ss"), ("long", "HH:mm:ss z"),
    ("full", "HH:mm:ss zzzz")]
  joiner := ", "
  offsetMark := "GMT"
  universalShort := "UTC"
  universalLong := "Koordinierte Weltzeit"
  zoneFront := "Unbekannte Region ("
  zoneBack := ") (Ortszeit)"
  skeletons := [
    ("Bh", "h B"), ("Bhm", "h:mm B"), ("Bhms", "h:mm:ss B"), ("E", "ccc"), ("EBhm", "E h:mm B"),
    ("EBhms", "E h:mm:ss B"), ("EHm", "E, HH:mm"), ("EHms", "E, HH:mm:ss"), ("Ed", "E, d."),
    ("Ehm", "E h:mm\u202fa"), ("Ehms", "E, h:mm:ss\u202fa"), ("Gy", "y G"), ("GyMMM", "MMM y G"),
    ("GyMMMEd", "E, d. MMM y G"), ("GyMMMd", "d. MMM y G"), ("GyMd", "dd.MM.y G"),
    ("H", "HH 'Uhr'"), ("Hm", "HH:mm"), ("Hms", "HH:mm:ss"), ("Hmsv", "HH:mm:ss v"),
    ("Hmv", "HH:mm v"), ("M", "L"), ("MEd", "E, d.M."), ("MMM", "LLL"), ("MMMEd", "E, d. MMM"),
    ("MMMMEd", "E, d. MMMM"), ("MMMMW", "'Woche' W 'im' MMMM"), ("MMMMd", "d. MMMM"),
    ("MMMd", "d. MMM"), ("MMd", "d.MM."), ("MMdd", "dd.MM."), ("Md", "d.M."), ("d", "d"),
    ("h", "h 'Uhr' a"), ("hm", "h:mm\u202fa"), ("hms", "h:mm:ss\u202fa"),
    ("hmsv", "h:mm:ss\u202fa v"), ("hmv", "h:mm\u202fa v"), ("ms", "mm:ss"), ("y", "y"),
    ("yM", "M/y"), ("yMEd", "E, d.M.y"), ("yMM", "MM.y"), ("yMMM", "MMM y"),
    ("yMMMEd", "E, d. MMM y"), ("yMMMM", "MMMM y"), ("yMMMd", "d. MMM y"), ("yMMdd", "dd.MM.y"),
    ("yMd", "d.M.y"), ("yQQQ", "QQQ y"), ("yQQQQ", "QQQQ y"),
    ("yw", "'Woche' w 'des' 'Jahres' Y")]
  erasShort := ["v. Chr.", "n. Chr."]
  erasLong := ["v. Chr.", "n. Chr."]
  erasNarrow := ["v. Chr.", "n. Chr."]
  quartersShort := ["Q1", "Q2", "Q3", "Q4"]
  quartersLong := ["1. Quartal", "2. Quartal", "3. Quartal", "4. Quartal"]

def german : LocaleData where
  plural := [
    (.one, [[⟨.whole, none, false, [(1, 1)]⟩, ⟨.places, none, false, [(0, 0)]⟩]])]
  ordinal := []
  point := ","
  groupMark := "."
  infinity := "∞"
  decimalPattern := "#,##0.###"
  percentPattern := "#,##0\u00a0%"
  currencyPattern := "#,##0.00\u00a0¤"
  currencySymbols := [("USD", "$"), ("EUR", "€"), ("GBP", "£"), ("JPY", "¥")]
  compactShort := some [
    ("one", [
      (1000, "0"), (10000, "0"), (100000, "0"), (1000000, "0\u00a0Mio'.'"),
      (10000000, "00\u00a0Mio'.'"), (100000000, "000\u00a0Mio'.'"),
      (1000000000, "0\u00a0Mrd'.'"), (10000000000, "00\u00a0Mrd'.'"),
      (100000000000, "000\u00a0Mrd'.'"), (1000000000000, "0\u00a0Bio'.'"),
      (10000000000000, "00\u00a0Bio'.'"), (100000000000000, "000\u00a0Bio'.'")]),
    ("other", [
      (1000, "0"), (10000, "0"), (100000, "0"), (1000000, "0\u00a0Mio'.'"),
      (10000000, "00\u00a0Mio'.'"), (100000000, "000\u00a0Mio'.'"),
      (1000000000, "0\u00a0Mrd'.'"), (10000000000, "00\u00a0Mrd'.'"),
      (100000000000, "000\u00a0Mrd'.'"), (1000000000000, "0\u00a0Bio'.'"),
      (10000000000000, "00\u00a0Bio'.'"), (100000000000000, "000\u00a0Bio'.'")])]
  compactLong := some [
    ("one", [
      (1000, "0 Tausend"), (10000, "00 Tausend"), (100000, "000 Tausend"),
      (1000000, "0 Million"), (10000000, "00 Millionen"), (100000000, "000 Millionen"),
      (1000000000, "0 Milliarde"), (10000000000, "00 Milliarden"),
      (100000000000, "000 Milliarden"), (1000000000000, "0 Billion"),
      (10000000000000, "00 Billionen"), (100000000000000, "000 Billionen")]),
    ("other", [
      (1000, "0 Tausend"), (10000, "00 Tausend"), (100000, "000 Tausend"),
      (1000000, "0 Millionen"), (10000000, "00 Millionen"), (100000000, "000 Millionen"),
      (1000000000, "0 Milliarden"), (10000000000, "00 Milliarden"),
      (100000000000, "000 Milliarden"), (1000000000000, "0 Billionen"),
      (10000000000000, "00 Billionen"), (100000000000000, "000 Billionen")])]
  calendar := germanCalendar

end Polyglot.LocaleData
