import Polyglot.Locale.Data

/-!
# Japanese

The locale data of Japanese.
-/
namespace Polyglot.LocaleData

/-- Names and patterns of dates in Japanese. -/
def japaneseCalendar : CalendarData where
  monthsShort := [
    "1月", "2月", "3月", "4月", "5月", "6月", "7月", "8月", "9月", "10月", "11月", "12月"]
  monthsLong := [
    "1月", "2月", "3月", "4月", "5月", "6月", "7月", "8月", "9月", "10月", "11月", "12月"]
  monthsNarrow := ["1月", "2月", "3月", "4月", "5月", "6月", "7月", "8月", "9月", "10月", "11月", "12月"]
  monthsAloneShort := [
    "1月", "2月", "3月", "4月", "5月", "6月", "7月", "8月", "9月", "10月", "11月", "12月"]
  monthsAloneLong := [
    "1月", "2月", "3月", "4月", "5月", "6月", "7月", "8月", "9月", "10月", "11月", "12月"]
  daysShort := [
    "月", "火", "水", "木", "金", "土", "日"]
  daysLong := [
    "月曜日", "火曜日", "水曜日", "木曜日", "金曜日", "土曜日", "日曜日"]
  daysNarrow := ["月", "火", "水", "木", "金", "土", "日"]
  daysBrief := ["月", "火", "水", "木", "金", "土", "日"]
  halves := ["午前", "午後"]
  dayParts := [
    ⟨0, 0, .same "真夜中", .same "真夜中"⟩,
    ⟨720, 720, .same "正午", .same "正午"⟩,
    ⟨240, 720, .same "朝", .same "朝"⟩,
    ⟨720, 960, .same "昼", .same "昼"⟩,
    ⟨960, 1140, .same "夕方", .same "夕方"⟩,
    ⟨1140, 1380, .same "夜", .same "夜"⟩,
    ⟨1380, 240, .same "夜中", .same "夜中"⟩]
  datePatterns := [
    ("short", "y/MM/dd"), ("medium", "y/MM/dd"), ("long", "y年M月d日"), ("full", "y年M月d日EEEE")]
  timePatterns := [
    ("short", "H:mm"), ("medium", "H:mm:ss"), ("long", "H:mm:ss z"), ("full", "H時mm分ss秒 zzzz")]
  joiner := " "
  offsetMark := "GMT"
  universalShort := "UTC"
  universalLong := "協定世界時"
  zoneFront := "不明な地域（"
  zoneBack := "）時間"
  skeletons := [
    ("Bh", "BK時"), ("Bhm", "BK:mm"), ("Bhms", "BK:mm:ss"), ("E", "ccc"), ("EBhm", "BK:mm (E)"),
    ("EBhms", "BK:mm:ss (E)"), ("EEEEd", "d日EEEE"), ("EHm", "H:mm (E)"), ("EHms", "H:mm:ss (E)"),
    ("Ed", "d日(E)"), ("Ehm", "aK:mm (E)"), ("Ehms", "aK:mm:ss (E)"), ("Gy", "Gy年"),
    ("GyMMM", "Gy年M月"), ("GyMMMEEEEd", "Gy年M月d日EEEE"), ("GyMMMEd", "Gy年M月d日(E)"),
    ("GyMMMd", "Gy年M月d日"), ("GyMd", "Gy/M/d"), ("H", "H時"), ("Hm", "H:mm"), ("Hms", "H:mm:ss"),
    ("Hmsv", "H:mm:ss v"), ("Hmv", "H:mm v"), ("M", "M月"), ("MEEEEd", "M/dEEEE"),
    ("MEd", "M/d(E)"), ("MMM", "M月"), ("MMMEEEEd", "M月d日EEEE"), ("MMMEd", "M月d日(E)"),
    ("MMMMW", "M月第W週"), ("MMMMd", "M月d日"), ("MMMd", "M月d日"), ("Md", "M/d"), ("d", "d日"),
    ("h", "aK時"), ("hm", "aK:mm"), ("hms", "aK:mm:ss"), ("hmsv", "aK:mm:ss v"),
    ("hmv", "aK:mm v"), ("ms", "mm:ss"), ("y", "y年"), ("yM", "y/M"), ("yMEEEEd", "y/M/dEEEE"),
    ("yMEd", "y/M/d(E)"), ("yMM", "y/MM"), ("yMMM", "y年M月"), ("yMMMEEEEd", "y年M月d日EEEE"),
    ("yMMMEd", "y年M月d日(E)"), ("yMMMM", "y年M月"), ("yMMMd", "y年M月d日"), ("yMd", "y/M/d"),
    ("yQQQ", "y/QQQ"), ("yQQQQ", "y年QQQQ"), ("yw", "Y年第w週")]
  erasShort := ["紀元前", "西暦"]
  erasLong := ["紀元前", "西暦"]
  erasNarrow := ["BC", "AD"]
  quartersShort := ["Q1", "Q2", "Q3", "Q4"]
  quartersLong := ["第1四半期", "第2四半期", "第3四半期", "第4四半期"]

def japanese : LocaleData where
  plural := []
  ordinal := []
  point := "."
  groupMark := ","
  infinity := "∞"
  decimalPattern := "#,##0.###"
  percentPattern := "#,##0%"
  currencyPattern := "¤#,##0.00"
  currencySymbols := [("USD", "$"), ("EUR", "€"), ("GBP", "£"), ("JPY", "￥")]
  compactShort := some [
    ("other", [
      (1000, "0"), (10000, "0万"), (100000, "00万"), (1000000, "000万"), (10000000, "0000万"),
      (100000000, "0億"), (1000000000, "00億"), (10000000000, "000億"), (100000000000, "0000億"),
      (1000000000000, "0兆"), (10000000000000, "00兆"), (100000000000000, "000兆"),
      (1000000000000000, "0000兆"), (10000000000000000, "0京"), (100000000000000000, "00京"),
      (1000000000000000000, "000京"), (10000000000000000000, "0000京")])]
  compactLong := none
  calendar := japaneseCalendar

end Polyglot.LocaleData
