import Polyglot.Locale.Data.Root

/-!
# Hindi

The locale data of Hindi.
-/
namespace Polyglot.LocaleData

def hindi : LocaleData where
  plural := [
    (.one, [[⟨.whole, none, false, [(0, 0)]⟩],
      [⟨.value, none, false, [(1, 1)]⟩]])]
  ordinal := [
    (.few, [[⟨.value, none, false, [(4, 4)]⟩]]),
    (.many, [[⟨.value, none, false, [(6, 6)]⟩]]),
    (.one, [[⟨.value, none, false, [(1, 1)]⟩]]),
    (.two, [[⟨.value, none, false, [(2, 2), (3, 3)]⟩]])]
  point := "."
  groupMark := ","
  infinity := "∞"
  decimalPattern := "#,##,##0.###"
  percentPattern := "#,##,##0%"
  currencyPattern := "¤#,##,##0.00"
  currencySymbols := [("USD", "$"), ("EUR", "€"), ("GBP", "£"), ("JPY", "JP¥")]
  compactShort := some [
    ("one", [
      (1000, "0\u00a0हज़ार"), (10000, "00\u00a0हज़ार"), (100000, "0\u00a0लाख"),
      (1000000, "00\u00a0लाख"), (10000000, "0\u00a0क॰"), (100000000, "00\u00a0क॰"),
      (1000000000, "0\u00a0अ॰"), (10000000000, "00\u00a0अ॰"), (100000000000, "0\u00a0ख॰"),
      (1000000000000, "00\u00a0ख॰"), (10000000000000, "0\u00a0नील"),
      (100000000000000, "00\u00a0नील")]),
    ("other", [
      (1000, "0\u00a0हज़ार"), (10000, "00\u00a0हज़ार"), (100000, "0\u00a0लाख"),
      (1000000, "00\u00a0लाख"), (10000000, "0\u00a0क॰"), (100000000, "00\u00a0क॰"),
      (1000000000, "0\u00a0अ॰"), (10000000000, "00\u00a0अ॰"), (100000000000, "0\u00a0ख॰"),
      (1000000000000, "00\u00a0ख॰"), (10000000000000, "0\u00a0नील"),
      (100000000000000, "00\u00a0नील")])]
  compactLong := some [
    ("one", [
      (1000, "0 हज़ार"), (10000, "00 हज़ार"), (100000, "0 लाख"), (1000000, "00 लाख"),
      (10000000, "0 करोड़"), (100000000, "00 करोड़"), (1000000000, "0 अरब"),
      (10000000000, "00 अरब"), (100000000000, "0 खरब"), (1000000000000, "00 खरब"),
      (10000000000000, "000 खरब"), (100000000000000, "0000 खरब")]),
    ("other", [
      (1000, "0 हज़ार"), (10000, "00 हज़ार"), (100000, "0 लाख"), (1000000, "00 लाख"),
      (10000000, "0 करोड़"), (100000000, "00 करोड़"), (1000000000, "0 अरब"),
      (10000000000, "00 अरब"), (100000000000, "0 खरब"), (1000000000000, "00 खरब"),
      (10000000000000, "000 खरब"), (100000000000000, "0000 खरब")])]
  calendar := rootCalendar

end Polyglot.LocaleData
