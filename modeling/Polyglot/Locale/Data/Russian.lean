import Polyglot.Locale.Data

/-!
# Russian

The locale data of Russian.
-/
namespace Polyglot.LocaleData

/-- Names and patterns of dates in Russian. -/
def russianCalendar : CalendarData where
  monthsShort := [
    "янв.", "февр.", "мар.", "апр.", "мая", "июн.", "июл.", "авг.", "сент.", "окт.", "нояб.",
    "дек."]
  monthsLong := [
    "января", "февраля", "марта", "апреля", "мая", "июня", "июля", "августа", "сентября",
    "октября", "ноября", "декабря"]
  monthsNarrow := ["Я", "Ф", "М", "А", "М", "И", "И", "А", "С", "О", "Н", "Д"]
  monthsAloneShort := [
    "янв.", "февр.", "март", "апр.", "май", "июнь", "июль", "авг.", "сент.", "окт.", "нояб.",
    "дек."]
  monthsAloneLong := [
    "январь", "февраль", "март", "апрель", "май", "июнь", "июль", "август", "сентябрь",
    "октябрь", "ноябрь", "декабрь"]
  daysShort := [
    "пн", "вт", "ср", "чт", "пт", "сб", "вс"]
  daysLong := [
    "понедельник", "вторник", "среда", "четверг", "пятница", "суббота", "воскресенье"]
  daysNarrow := ["пн", "вт", "ср", "чт", "пт", "сб", "вс"]
  daysBrief := ["пн", "вт", "ср", "чт", "пт", "сб", "вс"]
  daysAloneNarrow := ["П", "В", "С", "Ч", "П", "С", "В"]
  halves := ["AM", "PM"]
  dayParts := [
    ⟨0, 0, ⟨"полн.", "полночь", "полн."⟩, ⟨"полн.", "полночь", "полн."⟩⟩,
    ⟨720, 720, ⟨"полд.", "полдень", "полд."⟩, ⟨"полд.", "полдень", "полд."⟩⟩,
    ⟨240, 720, .same "утра", .same "утро"⟩,
    ⟨720, 1080, .same "дня", .same "день"⟩,
    ⟨1080, 1440, ⟨"веч.", "вечера", "веч."⟩, ⟨"веч.", "вечер", "веч."⟩⟩,
    ⟨0, 240, .same "ночи", .same "ночь"⟩]
  datePatterns := [
    ("short", "dd.MM.y"), ("medium", "d MMM y\u202f'г'."), ("long", "d MMMM y\u202f'г'."),
    ("full", "EEEE, d MMMM y\u202f'г'.")]
  timePatterns := [
    ("short", "HH:mm"), ("medium", "HH:mm:ss"), ("long", "HH:mm:ss z"),
    ("full", "HH:mm:ss zzzz")]
  joiner := ", "
  offsetMark := "GMT"
  universalShort := "UTC"
  universalLong := "Всемирное координированное время"
  zoneFront := "неизвестный регион ("
  zoneBack := ")"
  skeletons := [
    ("Bh", "h B"), ("Bhm", "h:mm B"), ("Bhms", "h:mm:ss B"), ("E", "ccc"),
    ("EBhm", "ccc, h:mm B"), ("EBhms", "ccc, h:mm:ss B"), ("EHm", "E HH:mm"),
    ("EHms", "E HH:mm:ss"), ("Ed", "ccc, d"), ("Ehm", "E h:mm\u202fa"),
    ("Ehms", "E h:mm:ss\u202fa"), ("Gy", "y\u202f'г'. G"), ("GyMMM", "LLL y\u202f'г'. G"),
    ("GyMMMEd", "E, d MMM y\u202f'г'. G"), ("GyMMMd", "d MMM y\u202f'г'. G"),
    ("GyMd", "dd.MM.y GGGGG"), ("H", "HH"), ("Hm", "HH:mm"), ("Hms", "HH:mm:ss"),
    ("Hmsv", "HH:mm:ss v"), ("Hmv", "HH:mm v"), ("M", "L"), ("MEd", "E, dd.MM"), ("MMM", "LLL"),
    ("MMMEd", "ccc, d MMM"), ("MMMMW", "W-'я' 'неделя' MMMM"), ("MMMMd", "d MMMM"),
    ("MMMd", "d MMM"), ("MMdd", "dd.MM"), ("Md", "dd.MM"), ("d", "d"), ("h", "h\u202fa"),
    ("hm", "h:mm\u202fa"), ("hms", "h:mm:ss\u202fa"), ("hmsv", "h:mm:ss\u202fa v"),
    ("hmv", "h:mm\u202fa v"), ("ms", "mm:ss"), ("y", "y"), ("yM", "MM.y"),
    ("yMEd", "ccc, dd.MM.y\u202f'г'."), ("yMM", "MM.y"), ("yMMM", "LLL y\u202f'г'."),
    ("yMMMEd", "E, d MMM y\u202f'г'."), ("yMMMM", "LLLL y\u202f'г'."),
    ("yMMMd", "d MMM y\u202f'г'."), ("yMd", "dd.MM.y"), ("yQQQ", "QQQ y\u202f'г'."),
    ("yQQQQ", "QQQQ y\u202f'г'."), ("yw", "w-'я' 'неделя' Y 'г'.")]
  erasShort := ["до н. э.", "н. э."]
  erasLong := ["до Рождества Христова", "от Рождества Христова"]
  erasNarrow := ["до н.э.", "н.э."]
  quartersShort := ["1-й кв.", "2-й кв.", "3-й кв.", "4-й кв."]
  quartersLong := ["1-й квартал", "2-й квартал", "3-й квартал", "4-й квартал"]

def russian : LocaleData where
  plural := [
    (.few, [[⟨.places, none, false, [(0, 0)]⟩, ⟨.whole, some 10, false, [(2, 4)]⟩,
      ⟨.whole, some 100, true, [(12, 14)]⟩]]),
    (.many, [[⟨.places, none, false, [(0, 0)]⟩, ⟨.whole, some 10, false, [(0, 0)]⟩],
      [⟨.places, none, false, [(0, 0)]⟩, ⟨.whole, some 10, false, [(5, 9)]⟩],
      [⟨.places, none, false, [(0, 0)]⟩, ⟨.whole, some 100, false, [(11, 14)]⟩]]),
    (.one, [[⟨.places, none, false, [(0, 0)]⟩, ⟨.whole, some 10, false, [(1, 1)]⟩,
      ⟨.whole, some 100, true, [(11, 11)]⟩]])]
  ordinal := []
  point := ","
  groupMark := "\u00a0"
  infinity := "∞"
  decimalPattern := "#,##0.###"
  percentPattern := "#,##0\u00a0%"
  currencyPattern := "#,##0.00\u00a0¤"
  currencySymbols := [("USD", "$"), ("EUR", "€"), ("GBP", "£"), ("JPY", "¥")]
  compactShort := some [
    ("one", [
      (1000, "0\u00a0тыс'.'"), (10000, "00\u00a0тыс'.'"), (100000, "000\u00a0тыс'.'"),
      (1000000, "0\u00a0млн"), (10000000, "00\u00a0млн"), (100000000, "000\u00a0млн"),
      (1000000000, "0\u00a0млрд"), (10000000000, "00\u00a0млрд"),
      (100000000000, "000\u00a0млрд"), (1000000000000, "0\u00a0трлн"),
      (10000000000000, "00\u00a0трлн"), (100000000000000, "000\u00a0трлн")]),
    ("other", [
      (1000, "0\u00a0тыс'.'"), (10000, "00\u00a0тыс'.'"), (100000, "000\u00a0тыс'.'"),
      (1000000, "0\u00a0млн"), (10000000, "00\u00a0млн"), (100000000, "000\u00a0млн"),
      (1000000000, "0\u00a0млрд"), (10000000000, "00\u00a0млрд"),
      (100000000000, "000\u00a0млрд"), (1000000000000, "0\u00a0трлн"),
      (10000000000000, "00\u00a0трлн"), (100000000000000, "000\u00a0трлн")])]
  compactLong := some [
    ("few", [
      (1000, "0 тысячи"), (10000, "00 тысячи"), (100000, "000 тысячи"), (1000000, "0 миллиона"),
      (10000000, "00 миллиона"), (100000000, "000 миллиона"), (1000000000, "0 миллиарда"),
      (10000000000, "00 миллиарда"), (100000000000, "000 миллиарда"),
      (1000000000000, "0 триллиона"), (10000000000000, "00 триллиона"),
      (100000000000000, "000 триллиона")]),
    ("many", [
      (1000, "0 тысяч"), (10000, "00 тысяч"), (100000, "000 тысяч"), (1000000, "0 миллионов"),
      (10000000, "00 миллионов"), (100000000, "000 миллионов"), (1000000000, "0 миллиардов"),
      (10000000000, "00 миллиардов"), (100000000000, "000 миллиардов"),
      (1000000000000, "0 триллионов"), (10000000000000, "00 триллионов"),
      (100000000000000, "000 триллионов")]),
    ("one", [
      (1000, "0 тысяча"), (10000, "00 тысяча"), (100000, "000 тысяча"), (1000000, "0 миллион"),
      (10000000, "00 миллион"), (100000000, "000 миллион"), (1000000000, "0 миллиард"),
      (10000000000, "00 миллиард"), (100000000000, "000 миллиард"),
      (1000000000000, "0 триллион"), (10000000000000, "00 триллион"),
      (100000000000000, "000 триллион")]),
    ("other", [
      (1000, "0 тысячи"), (10000, "00 тысячи"), (100000, "000 тысячи"), (1000000, "0 миллиона"),
      (10000000, "00 миллиона"), (100000000, "000 миллиона"), (1000000000, "0 миллиарда"),
      (10000000000, "00 миллиарда"), (100000000000, "000 миллиарда"),
      (1000000000000, "0 триллиона"), (10000000000000, "00 триллиона"),
      (100000000000000, "000 триллиона")])]
  calendar := russianCalendar

end Polyglot.LocaleData
