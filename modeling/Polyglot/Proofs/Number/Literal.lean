import Mathlib.Data.List.TakeWhile
import Polyglot.Number.Literal

/-!
# Characters of literals

A literal of a number is made of digits, signs, points, underscores and letters, with blanks around
it. A text with any other character in it is no literal.
-/
namespace Polyglot.Literal

/-- Whether no literal of a number has the character in it. -/
structure IsForeign (c : Char) : Prop where
  padding : isPadding c = false
  digit : Text.isDigit c = false
  letter : c.isAlpha = false
  sign : c ≠ '-' ∧ c ≠ '+'
  point : c ≠ '.'
  underscore : c ≠ '_'

variable {c : Char} {cs ds : List Char}

theorem mem_dropWhile {p : Char → Bool} (hc : p c = false) (h : c ∈ cs) : c ∈ cs.dropWhile p := by
  rw [← List.takeWhile_append_dropWhile (p := p) (l := cs)] at h
  rcases List.mem_append.1 h with h | h
  · have hpos := List.mem_takeWhile_imp h
    rw [hc] at hpos
    cases hpos
  · exact h

theorem mem_trimPadding (hc : isPadding c = false) (h : c ∈ cs) : c ∈ trimPadding cs := by
  have hfront := List.mem_reverse.2 (mem_dropWhile hc h)
  exact List.mem_reverse.2 (mem_dropWhile hc hfront)

/-- Only underscores are taken out of a literal. -/
theorem mem_of_joinDigits? (hc : c ≠ '_') (hjoin : joinDigits? cs = some ds) (h : c ∈ cs) :
    c ∈ ds := by
  fun_induction joinDigits? cs generalizing ds with
  | case1 => cases h
  | case2 => cases hjoin
  | case3 d hd =>
    cases hjoin
    exact h
  | case4 => cases hjoin
  | case5 d hd e r hdigits ih =>
    obtain ⟨es, hes, rfl⟩ := Option.map_eq_some_iff.1 hjoin
    rcases List.mem_cons.1 h with rfl | h
    · exact List.mem_cons_self
    · exact List.mem_cons_of_mem _ (ih hes ((List.mem_cons.1 h).resolve_left hc))
  | case6 => cases hjoin
  | case7 => cases hjoin
  | case8 d e r hd he ih =>
    obtain ⟨es, hes, rfl⟩ := Option.map_eq_some_iff.1 hjoin
    rcases List.mem_cons.1 h with rfl | h
    · exact List.mem_cons_self
    · exact List.mem_cons_of_mem _ (ih hes h)

namespace IsForeign

theorem mem_joined (hc : IsForeign c) (hjoin : joinDigits? (trimPadding cs) = some ds)
    (h : c ∈ cs) : c ∈ ds :=
  mem_of_joinDigits? hc.underscore hjoin (mem_trimPadding hc.padding h)

theorem mem_cutSign (hc : IsForeign c) (h : c ∈ cs) : c ∈ (cutSign cs).2 := by
  unfold cutSign
  split
  · exact (List.mem_cons.1 h).resolve_left hc.sign.1
  · exact (List.mem_cons.1 h).resolve_left hc.sign.2
  · exact h

theorem toLower_eq (hc : IsForeign c) : c.toLower = c := by
  have hupper : c.isUpper = false := (Bool.or_eq_false_iff.1 hc.letter).1
  exact dif_neg (of_decide_eq_false hupper)

theorem isWord_eq_false (hc : IsForeign c) {w : String} (hw : w.toList.all Char.isAlpha = true)
    (h : c ∈ cs) : isWord w cs = false := by
  rw [isWord, beq_eq_false_iff_ne]
  intro heq
  have hletter := List.all_eq_true.1 hw c.toLower (heq ▸ List.mem_map_of_mem h)
  rw [hc.toLower_eq, hc.letter] at hletter
  cases hletter

theorem all_isDigit_eq_false (hc : IsForeign c) (h : c ∈ cs) : cs.all Text.isDigit = false :=
  List.all_eq_false.2 ⟨c, h, by simp [hc.digit]⟩

theorem exponent?_eq_none (hc : IsForeign c) (h : c ∈ cs) : exponent? cs = none := by
  cases cs with
  | nil => cases h
  | cons d r =>
    rw [exponent?]
    split
    · rename_i hd
      have hne : c ≠ d := by
        rintro rfl
        rcases hd with rfl | rfl <;> exact absurd hc.letter (by decide)
      have hr := hc.mem_cutSign ((List.mem_cons.1 h).resolve_left hne)
      simp [hc.all_isDigit_eq_false hr]
    · rfl

theorem parts?_eq_none (hc : IsForeign c) (h : c ∈ cs) : parts? cs = none := by
  have hrest := mem_dropWhile hc.digit (hc.mem_cutSign h)
  unfold parts?
  simp only
  split
  · rename_i t ht
    rw [ht] at hrest
    have hfraction := mem_dropWhile hc.digit ((List.mem_cons.1 hrest).resolve_left hc.point)
    simp [hc.exponent?_eq_none hfraction]
  · simp [hc.exponent?_eq_none hrest]

/-- A text with a foreign character in it is no whole number. -/
theorem int_eq_malformed (hc : IsForeign c) (h : c ∈ cs) : int cs = .error .malformed := by
  unfold int
  split
  · rfl
  · rename_i ds hds
    simp [hc.all_isDigit_eq_false (hc.mem_cutSign (hc.mem_joined hds h))]

/-- A text with a foreign character in it is no number. -/
theorem binary64?_eq_none (hc : IsForeign c) (h : c ∈ cs) : binary64? cs = none := by
  unfold binary64?
  split
  · rfl
  · rename_i ds hds
    have hmem := hc.mem_joined hds h
    have hword : ∀ w ∈ ["inf", "infinity", "nan"], isWord w (cutSign ds).2 = false := by
      intro w hw
      refine hc.isWord_eq_false ?_ (hc.mem_cutSign hmem)
      revert w
      decide
    simp [hword, hc.parts?_eq_none hmem]

end IsForeign

theorem isForeign_dollar : IsForeign '$' where
  padding := by decide
  digit := by decide
  letter := by decide
  sign := by decide
  point := by decide
  underscore := by decide

end Polyglot.Literal
