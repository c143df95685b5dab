import Polyglot.Locale.Data.Root

/-!
# Welsh

The locale data of Welsh.
-/
namespace Polyglot.LocaleData

def welsh : LocaleData where
  plural := [
    (.few, [[⟨.value, none, false, [(3, 3)]⟩]]),
    (.many, [[⟨.value, none, false, [(6, 6)]⟩]]),
    (.one, [[⟨.value, none, false, [(1, 1)]⟩]]),
    (.two, [[⟨.value, none, false, [(2, 2)]⟩]]),
    (.zero, [[⟨.value, none, false, [(0, 0)]⟩]])]
  ordinal := [
    (.few, [[⟨.value, none, false, [(3, 3), (4, 4)]⟩]]),
    (.many, [[⟨.value, none, false, [(5, 5), (6, 6)]⟩]]),
    (.one, [[⟨.value, none, false, [(1, 1)]⟩]]),
    (.two, [[⟨.value, none, false, [(2, 2)]⟩]]),
    (.zero, [[⟨.value, none, false, [(0, 0), (7, 7), (8, 8), (9, 9)]⟩]])]
  point := "."
  groupMark := ","
  infinity := "∞"
  decimalPattern := "#,##0.###"
  percentPattern := "#,##0%"
  currencyPattern := "¤\u00a0#,##0.00"
  currencySymbols := rootSymbols
  compactShort := some rootCompact
  compactLong := some rootCompact
  calendar := rootCalendar

end Polyglot.LocaleData
