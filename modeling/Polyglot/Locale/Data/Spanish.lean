import Polyglot.Locale.Data.Root

/-!
# Spanish

The locale data of Spanish.
-/
namespace Polyglot.LocaleData

def spanish : LocaleData where
  plural := [
    (.many, [[⟨.exponent, none, false, [(0, 0)]⟩, ⟨.whole, none, true, [(0, 0)]⟩,
      ⟨.whole, some 1000000, false, [(0, 0)]⟩, ⟨.places, none, false, [(0, 0)]⟩],
      [⟨.exponent, none, true, [(0, 5)]⟩]]),
    (.one, [[⟨.value, none, false, [(1, 1)]⟩]])]
  ordinal := []
  point := ","
  groupMark := "."
  infinity := "∞"
  decimalPattern := "#,##0.###"
  percentPattern := "#,##0\u00a0%"
  currencyPattern := "#,##0.00\u00a0¤"
  currencySymbols := [("USD", "US$"), ("EUR", "€"), ("GBP", "GBP"), ("JPY", "JPY")]
  compactShort := some [
    ("one", [
      (1000, "0\u00a0mil"), (10000, "00\u00a0mil"), (100000, "000\u00a0mil"),
      (1000000, "0\u00a0M"), (10000000, "00\u00a0M"), (100000000, "000\u00a0M"),
      (1000000000, "0000\u00a0M"), (10000000000, "00\u00a0mil\u00a0M"),
      (100000000000, "000\u00a0mil\u00a0M"), (1000000000000, "0\u00a0B"),
      (10000000000000, "00\u00a0B"), (100000000000000, "000\u00a0B")]),
    ("other", [
      (1000, "0\u00a0mil"), (10000, "00\u00a0mil"), (100000, "000\u00a0mil"),
      (1000000, "0\u00a0M"), (10000000, "00\u00a0M"), (100000000, "000\u00a0M"),
      (1000000000, "0000\u00a0M"), (10000000000, "00\u00a0mil\u00a0M"),
      (100000000000, "000\u00a0mil\u00a0M"), (1000000000000, "0\u00a0B"),
      (10000000000000, "00\u00a0B"), (100000000000000, "000\u00a0B")])]
  compactLong := some [
    ("one", [
      (1000, "0 mil"), (10000, "00 mil"), (100000, "000 mil"), (1000000, "0 millón"),
      (10000000, "00 millones"), (100000000, "000 millones"), (1000000000, "0 mil millones"),
      (10000000000, "00 mil millones"), (100000000000, "000 mil millones"),
      (1000000000000, "0 billón"), (10000000000000, "00 billones"),
      (100000000000000, "000 billones")]),
    ("other", [
      (1000, "0 mil"), (10000, "00 mil"), (100000, "000 mil"), (1000000, "0 millones"),
      (10000000, "00 millones"), (100000000, "000 millones"), (1000000000, "0 mil millones"),
      (10000000000, "00 mil millones"), (100000000000, "000 mil millones"),
      (1000000000000, "0 billones"), (10000000000000, "00 billones"),
      (100000000000000, "000 billones")])]
  calendar := rootCalendar

end Polyglot.LocaleData
