import Polyglot.Locale.Data.Root

/-!
# Ukrainian

The locale data of Ukrainian.
-/
namespace Polyglot.LocaleData

def ukrainian : LocaleData where
  plural := [
    (.few, [[⟨.places, none, false, [(0, 0)]⟩, ⟨.whole, some 10, false, [(2, 4)]⟩,
      ⟨.whole, some 100, true, [(12, 14)]⟩]]),
    (.many, [[⟨.places, none, false, [(0, 0)]⟩, ⟨.whole, some 10, false, [(0, 0)]⟩],
      [⟨.places, none, false, [(0, 0)]⟩, ⟨.whole, some 10, false, [(5, 9)]⟩],
      [⟨.places, none, false, [(0, 0)]⟩, ⟨.whole, some 100, false, [(11, 14)]⟩]]),
    (.one, [[⟨.places, none, false, [(0, 0)]⟩, ⟨.whole, some 10, false, [(1, 1)]⟩,
      ⟨.whole, some 100, true, [(11, 11)]⟩]])]
  ordinal := [
    (.few, [[⟨.value, some 10, false, [(3, 3)]⟩, ⟨.value, some 100, true, [(13, 13)]⟩]])]
  point := ","
  groupMark := "\u00a0"
  infinity := "∞"
  exponentMark := "Е"
  decimalPattern := "#,##0.###"
  percentPattern := "#,##0%"
  currencyPattern := "¤\u00a0#,##0.00"
  currencySymbols := rootSymbols
  compactShort := some rootCompact
  compactLong := some rootCompact
  calendar := rootCalendar

end Polyglot.LocaleData
