import Polyglot.Locale.Data.Root

/-!
# Arabic

The locale data of Arabic.
-/
namespace Polyglot.LocaleData

def arabic : LocaleData where
  plural := [
    (.few, [[⟨.value, some 100, false, [(3, 10)]⟩]]),
    (.many, [[⟨.value, some 100, false, [(11, 99)]⟩]]),
    (.one, [[⟨.value, none, false, [(1, 1)]⟩]]),
    (.two, [[⟨.value, none, false, [(2, 2)]⟩]]),
    (.zero, [[⟨.value, none, false, [(0, 0)]⟩]])]
  ordinal := []
  point := "."
  groupMark := ","
  infinity := "∞"
  minus := "\u200e-"
  plus := "\u200e+"
  decimalPattern := "#,##0.###"
  percentPattern := "#,##0%"
  currencyPattern := "¤\u00a0#,##0.00"
  currencySymbols := rootSymbols
  compactShort := some rootCompact
  compactLong := some rootCompact
  calendar := rootCalendar

end Polyglot.LocaleData
