import Polyglot.Locale.Data

/-!
# French

The locale data of French.
-/
namespace Polyglot.LocaleData

/-- Names and patterns of dates in French. -/
def frenchCalendar : CalendarData where
  monthsShort := [
    "janv.", "févr.", "mars", "avr.", "mai", "juin", "juil.", "août", "sept.", "oct.", "nov.",
    "déc."]
  monthsLong := [
    "janvier", "février", "mars", "avril", "mai", "juin", "juillet", "août", "septembre",
    "octobre", "novembre", "décembre"]
  monthsNarrow := ["J", "F", "M", "A", "M", "J", "J", "A", "S", "O", "N", "D"]
  monthsAloneShort := [
    "janv.", "févr.", "mars", "avr.", "mai", "juin", "juil.", "août", "sept.", "oct.", "nov.",
    "déc."]
  monthsAloneLong := [
    "janvier", "février", "mars", "avril", "mai", "juin", "juillet", "août", "septembre",
    "octobre", "novembre", "décembre"]
  daysShort := [
    "lun.", "mar.", "mer.", "jeu.", "ven.", "sam.", "dim."]
  daysLong := [
    "lundi", "mardi", "mercredi", "jeudi", "vendredi", "samedi", "dimanche"]
  daysNarrow := ["L", "M", "M", "J", "V", "S", "D"]
  daysBrief := ["lu", "ma", "me", "je", "ve", "sa", "di"]
  halves := ["AM", "PM"]
  dayParts := [
    ⟨0, 0, .same "minuit", .same "minuit"⟩,
    ⟨720, 720, .same "midi", .same "midi"⟩,
    ⟨240, 720, ⟨"mat.", "du matin", "mat."⟩, ⟨"mat.", "matin", "mat."⟩⟩,
    ⟨720, 1080, ⟨"après-midi", "de l’après-midi", "ap.-m."⟩, ⟨"ap.-m.", "après-midi", "ap.-m."⟩⟩,
    ⟨1080, 1440, ⟨"soir", "du soir", "soir"⟩, .same "soir"⟩,
    ⟨0, 240, ⟨"nuit", "du matin", "nuit"⟩, .same "nuit"⟩]
  datePatterns := [
    ("short", "dd/MM/y"), ("medium", "d MMM y"), ("long", "d MMMM y"), ("full", "EEEE d MMMM y")]
  timePatterns := [
    ("short", "HH:mm"), ("medium", "HH:mm:ss"), ("long", "HH:mm:ss z"),
    ("full", "HH:mm:ss zzzz")]
  joiner := ", "
  offsetMark := "UTC"
  universalShort := "TU"
  universalLong := "temps universel coordonné"
  zoneFront := "heure : région indéterminée ("
  zoneBack := ")"
  skeletons := [
    ("Bh", "h B"), ("Bhm", "h:mm B"), ("Bhms", "h:mm:ss B"), ("E", "E"), ("EBhm", "E h:mm B"),
    ("EBhms", "E h:mm:ss B"), ("EHm", "E HH:mm"), ("EHms", "E HH:mm:ss"), ("Ed", "E d"),
    ("Ehm", "E h:mm\u202fa"), ("Ehms", "E h:mm:ss\u202fa"), ("Gy", "y G"), ("GyMMM", "MMM y G"),
    ("GyMMMEd", "E d MMM y G"), ("GyMMMd", "d MMM y G"), ("GyMd", "dd/MM/y GGGGG"),
    ("H", "HH 'h'"), ("Hm", "HH:mm"), ("Hms", "HH:mm:ss"), ("Hmsv", "HH:mm:ss v"),
    ("Hmv", "HH:mm v"), ("M", "L"), ("MEd", "E dd/MM"), ("MMM", "LLL"), ("MMMEd", "E d MMM"),
    ("MMMMW", "'semaine' W (MMMM)"), ("MMMMd", "d MMMM"), ("MMMd", "d MMM"), ("Md", "dd/MM"),
    ("d", "d"), ("h", "h\u202fa"), ("hm", "h:mm\u202fa"), ("hms", "h:mm:ss\u202fa"),
    ("hmsv", "h:mm:ss\u202fa v"), ("hmv", "h:mm\u202fa v"), ("ms", "mm:ss"), ("y", "y"),
    ("yM", "MM/y"), ("yMEd", "E dd/MM/y"), ("yMMM", "MMM y"), ("yMMMEd", "E d MMM y"),
    ("yMMMM", "MMMM y"), ("yMMMd", "d MMM y"), ("yMd", "dd/MM/y"), ("yQQQ", "QQQ y"),
    ("yQQQQ", "QQQQ y"), ("yw", "'semaine' w 'de' Y")]
  erasShort := ["av. J.-C.", "ap. J.-C."]
  erasLong := ["avant Jésus-Christ", "après Jésus-Christ"]
  erasNarrow := ["av. J.-C.", "ap. J.-C."]
  quartersShort := ["T1", "T2", "T3", "T4"]
  quartersLong := ["1er trimestre", "2e trimestre", "3e trimestre", "4e trimestre"]

def french : LocaleData where
  plural := [
    (.many, [[⟨.exponent, none, false, [(0, 0)]⟩, ⟨.whole, none, true, [(0, 0)]⟩,
      ⟨.whole, some 1000000, false, [(0, 0)]⟩, ⟨.places, none, false, [(0, 0)]⟩],
      [⟨.exponent, none, true, [(0, 5)]⟩]]),
    (.one, [[⟨.whole, none, false, [(0, 0), (1, 1)]⟩]])]
  ordinal := [
    (.one, [[⟨.value, none, false, [(1, 1)]⟩]])]
  point := ","
  groupMark := "\u202f"
  infinity := "∞"
  decimalPattern := "#,##0.###"
  percentPattern := "#,##0\u00a0%"
  currencyPattern := "#,##0.00\u00a0¤"
  currencySymbols := [("USD", "$US"), ("EUR", "€"), ("GBP", "£GB"), ("JPY", "JPY")]
  compactShort := some [
    ("one", [
      (1000, "0\u00a0k"), (10000, "00\u00a0k"), (100000, "000\u00a0k"), (1000000, "0\u00a0M"),
      (10000000, "00\u00a0M"), (100000000, "000\u00a0M"), (1000000000, "0\u00a0Md"),
      (10000000000, "00\u00a0Md"), (100000000000, "000\u00a0Md"), (1000000000000, "0\u00a0Bn"),
      (10000000000000, "00\u00a0Bn"), (100000000000000, "000\u00a0Bn")]),
    ("other", [
      (1000, "0\u00a0k"), (10000, "00\u00a0k"), (100000, "000\u00a0k"), (1000000, "0\u00a0M"),
      (10000000, "00\u00a0M"), (100000000, "000\u00a0M"), (1000000000, "0\u00a0Md"),
      (10000000000, "00\u00a0Md"), (100000000000, "000\u00a0Md"), (1000000000000, "0\u00a0Bn"),
      (10000000000000, "00\u00a0Bn"), (100000000000000, "000\u00a0Bn")])]
  compactLong := some [
    ("1", [
      (1000, "mille")]),
    ("one", [
      (1000, "0 millier"), (10000, "00 mille"), (100000, "000 mille"), (1000000, "0 million"),
      (10000000, "00 million"), (100000000, "000 million"), (1000000000, "0 milliard"),
      (10000000000, "00 milliard"), (100000000000, "000 milliard"), (1000000000000, "0 billion"),
      (10000000000000, "00 billion"), (100000000000000, "000 billion")]),
    ("other", [
      (1000, "0 mille"), (10000, "00 mille"), (100000, "000 mille"), (1000000, "0 millions"),
      (10000000, "00 millions"), (100000000, "000 millions"), (1000000000, "0 milliards"),
      (10000000000, "00 milliards"), (100000000000, "000 milliards"),
      (1000000000000, "0 billions"), (10000000000000, "00 billions"),
      (100000000000000, "000 billions")])]
  calendar := frenchCalendar

end Polyglot.LocaleData
