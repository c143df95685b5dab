import Polyglot.Locale.Data.Root

/-!
# Brazilian Portuguese

The locale data of Brazilian Portuguese.
-/
namespace Polyglot.LocaleData

def brazilianPortuguese : LocaleData where
  plural := [
    (.many, [[⟨.exponent, none, false, [(0, 0)]⟩, ⟨.whole, none, true, [(0, 0)]⟩,
      ⟨.whole, some 1000000, false, [(0, 0)]⟩, ⟨.places, none, false, [(0, 0)]⟩],
      [⟨.exponent, none, true, [(0, 5)]⟩]]),
    (.one, [[⟨.whole, none, false, [(0, 1)]⟩]])]
  ordinal := []
  point := ","
  groupMark := "."
  infinity := "∞"
  decimalPattern := "#,##0.###"
  percentPattern := "#,##0%"
  currencyPattern := "¤\u00a0#,##0.00"
  currencySymbols := [("USD", "US$"), ("EUR", "€"), ("GBP", "£"), ("JPY", "JP¥")]
  compactShort := some [
    ("one", [
      (1000, "0\u00a0mil"), (10000, "00\u00a0mil"), (100000, "000\u00a0mil"),
      (1000000, "0\u00a0mi"), (10000000, "00\u00a0mi"), (100000000, "000\u00a0mi"),
      (1000000000, "0\u00a0bi"), (10000000000, "00\u00a0bi"), (100000000000, "000\u00a0bi"),
      (1000000000000, "0\u00a0tri"), (10000000000000, "00\u00a0tri"),
      (100000000000000, "000\u00a0tri")]),
    ("other", [
      (1000, "0\u00a0mil"), (10000, "00\u00a0mil"), (100000, "000\u00a0mil"),
      (1000000, "0\u00a0mi"), (10000000, "00\u00a0mi"), (100000000, "000\u00a0mi"),
      (1000000000, "0\u00a0bi"), (10000000000, "00\u00a0bi"), (100000000000, "000\u00a0bi"),
      (1000000000000, "0\u00a0tri"), (10000000000000, "00\u00a0tri"),
      (100000000000000, "000\u00a0tri")])]
  compactLong := some [
    ("one", [
      (1000, "0 mil"), (10000, "00 mil"), (100000, "000 mil"), (1000000, "0 milhão"),
      (10000000, "00 milhão"), (100000000, "000 milhão"), (1000000000, "0 bilhão"),
      (10000000000, "00 bilhão"), (100000000000, "000 bilhão"), (1000000000000, "0 trilhão"),
      (10000000000000, "00 trilhão"), (100000000000000, "000 trilhão")]),
    ("other", [
      (1000, "0 mil"), (10000, "00 mil"), (100000, "000 mil"), (1000000, "0 milhões"),
      (10000000, "00 milhões"), (100000000, "000 milhões"), (1000000000, "0 bilhões"),
      (10000000000, "00 bilhões"), (100000000000, "000 bilhões"), (1000000000000, "0 trilhões"),
      (10000000000000, "00 trilhões"), (100000000000000, "000 trilhões")])]
  calendar := rootCalendar

end Polyglot.LocaleData
