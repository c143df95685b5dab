import Polyglot.Locale.Data.German

/-!
# Swiss German

The locale data of Swiss German.
-/
namespace Polyglot.LocaleData

def swissGerman : LocaleData where
  plural := [
    (.one, [[⟨.whole, none, false, [(1, 1)]⟩, ⟨.places, none, false, [(0, 0)]⟩]])]
  ordinal := []
  point := "."
  groupMark := "’"
  infinity := "∞"
  decimalPattern := "#,##0.###"
  percentPattern := "#,##0%"
  currencyPattern := "¤\u00a0#,##0.00;¤-#,##0.00"
  currencySymbols := [("USD", "$"), ("EUR", "EUR"), ("GBP", "£"), ("JPY", "¥")]
  compactShort := some [
    ("one", [
      (1000, "0"), (10000, "0"), (100000, "0"), (1000000, "0\u00a0Mio'.'"),
      (10000000, "00\u00a0Mio'.'"), (100000000, "000\u00a0Mio'.'"),
      (1000000000, "0\u00a0Mrd'.'"), (10000000000, "00\u00a0Mrd'.'"),
      (100000000000, "000\u00a0Mrd'.'"), (1000000000000, "0\u00a0Bio'.'"),
      (10000000000000, "00\u00a0Bio'.'"), (100000000000000, "000\u00a0Bio'.'")]),
    ("other", [
      (1000, "0"), (10000, "0"), (100000, "0"), (1000000, "0\u00a0Mio'.'"),
      (10000000, "00\u00a0Mio'.'"), (100000000, "000\u00a0Mio'.'"),
      (1000000000, "0\u00a0Mrd'.'"), (10000000000, "00\u00a0Mrd'.'"),
      (100000000000, "000\u00a0Mrd'.'"), (1000000000000, "0\u00a0Bio'.'"),
      (10000000000000, "00\u00a0Bio'.'"), (100000000000000, "000\u00a0Bio'.'")])]
  compactLong := some [
    ("one", [
      (1000, "0 Tausend"), (10000, "00 Tausend"), (100000, "000 Tausend"),
      (1000000, "0 Million"), (10000000, "00 Millionen"), (100000000, "000 Millionen"),
      (1000000000, "0 Milliarde"), (10000000000, "00 Milliarden"),
      (100000000000, "000 Milliarden"), (1000000000000, "0 Billion"),
      (10000000000000, "00 Billionen"), (100000000000000, "000 Billionen")]),
    ("other", [
      (1000, "0 Tausend"), (10000, "00 Tausend"), (100000, "000 Tausend"),
      (1000000, "0 Millionen"), (10000000, "00 Millionen"), (100000000, "000 Millionen"),
      (1000000000, "0 Milliarden"), (10000000000, "00 Milliarden"),
      (100000000000, "000 Milliarden"), (1000000000000, "0 Billionen"),
      (10000000000000, "00 Billionen"), (100000000000000, "000 Billionen")])]
  calendar := germanCalendar

end Polyglot.LocaleData
