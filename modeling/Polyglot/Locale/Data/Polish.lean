import Polyglot.Locale.Data.Root

/-!
# Polish

The locale data of Polish.
-/
namespace Polyglot.LocaleData

def polish : LocaleData where
  plural := [
    (.few, [[⟨.places, none, false, [(0, 0)]⟩, ⟨.whole, some 10, false, [(2, 4)]⟩,
      ⟨.whole, some 100, true, [(12, 14)]⟩]]),
    (.many, [[⟨.places, none, false, [(0, 0)]⟩, ⟨.whole, none, true, [(1, 1)]⟩,
      ⟨.whole, some 10, false, [(0, 1)]⟩],
      [⟨.places, none, false, [(0, 0)]⟩, ⟨.whole, some 10, false, [(5, 9)]⟩],
      [⟨.places, none, false, [(0, 0)]⟩, ⟨.whole, some 100, false, [(12, 14)]⟩]]),
    (.one, [[⟨.whole, none, false, [(1, 1)]⟩, ⟨.places, none, false, [(0, 0)]⟩]])]
  ordinal := []
  point := ","
  groupMark := "\u00a0"
  infinity := "∞"
  decimalPattern := "#,##0.###"
  percentPattern := "#,##0%"
  currencyPattern := "#,##0.00\u00a0¤"
  currencySymbols := [("USD", "USD"), ("EUR", "€"), ("GBP", "GBP"), ("JPY", "JPY")]
  compactShort := some [
    ("one", [
      (1000, "0\u00a0tys'.'"), (10000, "00\u00a0tys'.'"), (100000, "000\u00a0tys'.'"),
      (1000000, "0\u00a0mln"), (10000000, "00\u00a0mln"), (100000000, "000\u00a0mln"),
      (1000000000, "0\u00a0mld"), (10000000000, "00\u00a0mld"), (100000000000, "000\u00a0mld"),
      (1000000000000, "0\u00a0bln"), (10000000000000, "00\u00a0bln"),
      (100000000000000, "000\u00a0bln")]),
    ("other", [
      (1000, "0\u00a0tys'.'"), (10000, "00\u00a0tys'.'"), (100000, "000\u00a0tys'.'"),
      (1000000, "0\u00a0mln"), (10000000, "00\u00a0mln"), (100000000, "000\u00a0mln"),
      (1000000000, "0\u00a0mld"), (10000000000, "00\u00a0mld"), (100000000000, "000\u00a0mld"),
      (1000000000000, "0\u00a0bln"), (10000000000000, "00\u00a0bln"),
      (100000000000000, "000\u00a0bln")])]
  compactLong := some [
    ("few", [
      (1000, "0 tysiące"), (10000, "00 tysiące"), (100000, "000 tysiące"),
      (1000000, "0 miliony"), (10000000, "00 miliony"), (100000000, "000 miliony"),
      (1000000000, "0 miliardy"), (10000000000, "00 miliardy"), (100000000000, "000 miliardy"),
      (1000000000000, "0 biliony"), (10000000000000, "00 biliony"),
      (100000000000000, "000 biliony")]),
    ("many", [
      (1000, "0 tysięcy"), (10000, "00 tysięcy"), (100000, "000 tysięcy"),
      (1000000, "0 milionów"), (10000000, "00 milionów"), (100000000, "000 milionów"),
      (1000000000, "0 miliardów"), (10000000000, "00 miliardów"),
      (100000000000, "000 miliardów"), (1000000000000, "0 bilionów"),
      (10000000000000, "00 bilionów"), (100000000000000, "000 bilionów")]),
    ("one", [
      (1000, "0 tysiąc"), (10000, "00 tysiąc"), (100000, "000 tysiąc"), (1000000, "0 milion"),
      (10000000, "00 milion"), (100000000, "000 milion"), (1000000000, "0 miliard"),
      (10000000000, "00 miliard"), (100000000000, "000 miliard"), (1000000000000, "0 bilion"),
      (10000000000000, "00 bilion"), (100000000000000, "000 bilion")]),
    ("other", [
      (1000, "0 tysiąca"), (10000, "00 tysiąca"), (100000, "000 tysiąca"),
      (1000000, "0 miliona"), (10000000, "00 miliona"), (100000000, "000 miliona"),
      (1000000000, "0 miliarda"), (10000000000, "00 miliarda"), (100000000000, "000 miliarda"),
      (1000000000000, "0 biliona"), (10000000000000, "00 biliona"),
      (100000000000000, "000 biliona")])]
  calendar := rootCalendar

end Polyglot.LocaleData
