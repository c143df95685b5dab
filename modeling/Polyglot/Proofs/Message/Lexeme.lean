import Polyglot.Message.Printer
import Polyglot.Proofs.Text.Digit
import Polyglot.Proofs.Text.Parts

/-!
# Lexemes

What the parser makes of a name, a selector, a style, an offset or a quoted text that is followed by
something else: each one is read whole, and nothing of what follows it.
-/
namespace Polyglot.Message

/-! ## Blanks -/

theorem skipBlanks_append {blanks rest : List Char} (h : ∀ c ∈ blanks, Text.isBlank c = true)
    (hstop : ∀ c ∈ rest.head?, Text.isBlank c = false) :
    Text.skipBlanks (blanks ++ rest) = rest :=
  Text.dropWhile_append_stop h hstop

theorem isBlank_of_mem_space : ∀ c ∈ [' '], Text.isBlank c = true := by
  intro c hc
  rw [List.mem_singleton.1 hc]
  rfl

theorem skipBlanks_space {cs : List Char} (h : ∀ c ∈ cs.head?, Text.isBlank c = false) :
    Text.skipBlanks (' ' :: cs) = cs :=
  skipBlanks_append isBlank_of_mem_space h

theorem skipBlanks_of_head {cs : List Char} (h : ∀ c ∈ cs.head?, Text.isBlank c = false) :
    Text.skipBlanks cs = cs := by
  have hnil : ∀ c ∈ ([] : List Char), Text.isBlank c = true := fun _ hc => nomatch hc
  exact skipBlanks_append hnil h

/-! ## Names -/

/-- Whether a text can be the name of an argument. -/
structure IsName (s : String) : Prop where
  ne_nil : s.toList ≠ []
  chars : ∀ c ∈ s.toList, isNameChar c = true

instance (s : String) : Decidable (IsName s) :=
  decidable_of_iff (s.toList ≠ [] ∧ s.toList.all isNameChar = true)
    ⟨fun h => ⟨h.1, List.all_eq_true.1 h.2⟩, fun h => ⟨h.ne_nil, List.all_eq_true.2 h.chars⟩⟩

theorem not_isBlank_of_isNameChar {c : Char} (h : isNameChar c = true) :
    Text.isBlank c = false := by
  simp only [isNameChar, Bool.not_eq_true', Bool.or_eq_false_iff] at h
  exact h.1.1.1.1.1

theorem IsName.not_isBlank_head {s : String} (h : IsName s) (rest : List Char) :
    ∀ c ∈ (s.toList ++ rest).head?, Text.isBlank c = false := by
  obtain ⟨d, r, hd⟩ := List.exists_cons_of_ne_nil h.ne_nil
  have hname : isNameChar d = true := h.chars d (by rw [hd]; exact List.mem_cons_self)
  intro c hc
  rw [hd] at hc
  cases hc
  exact not_isBlank_of_isNameChar hname

/-- A name is read whole, with the blanks on both sides of it. -/
theorem IsName.read {s : String} (h : IsName s) {before after : List Char}
    (hbefore : ∀ c ∈ before, Text.isBlank c = true) (hafter : ∀ c ∈ after, Text.isBlank c = true)
    {d : Char} (hd : isNameChar d = false) (hblank : Text.isBlank d = false) (rest : List Char) :
    let start := Text.skipBlanks (before ++ (s.toList ++ (after ++ d :: rest)))
    start.takeWhile isNameChar = s.toList ∧
      Text.skipBlanks (start.dropWhile isNameChar) = d :: rest := by
  have hstop : ∀ c ∈ (after ++ d :: rest).head?, isNameChar c = false := by
    intro c hc
    cases after with
    | nil =>
      cases hc
      exact hd
    | cons a as =>
      cases hc
      rw [isNameChar, hafter c List.mem_cons_self]
      rfl
  rw [skipBlanks_append hbefore (h.not_isBlank_head _)]
  simp only
  rw [Text.takeWhile_append_stop h.chars hstop, Text.dropWhile_append_stop h.chars hstop]
  refine ⟨rfl, skipBlanks_append hafter ?_⟩
  intro c hc
  cases hc
  exact hblank

/-! ## Quoted text -/

/-- A quoted text ends at the first apostrophe that stands alone. -/
theorem quotedRun_doubled (cs : List Char) {rest : List Char} (hrest : rest.head? ≠ some '\'') :
    quotedRun (doubled cs ++ '\'' :: rest) = (cs, rest) := by
  induction cs with
  | nil =>
    cases rest with
    | nil => rfl
    | cons c r =>
      have hc : c ≠ '\'' := fun h => hrest (congrArg some h)
      simp [doubled, quotedRun, hc]
  | cons c r ih =>
    rw [doubled]
    by_cases hc : c = '\''
    · subst hc
      rw [if_pos rfl, List.cons_append, List.cons_append, quotedRun, ih]
    · simp only [if_neg hc, List.cons_append]
      simp [quotedRun, hc, ih]

/-! ## Styles -/

/-- Whether every brace of a text has its partner; `depth` braces are open in front of it. -/
def isBalanced (depth : Nat) : List Char → Bool
  | [] => depth == 0
  | c :: r =>
      if c = '\x7b' then isBalanced (depth + 1) r
      else if c = '\x7d' then
        match depth with
        | 0 => false
        | d + 1 => isBalanced d r
      else isBalanced depth r

/-- Whether a text can be the style of an argument: it is not empty, no blanks are around it, and
its braces are balanced. -/
structure IsStyle (s : String) : Prop where
  ne_nil : s.toList ≠ []
  trimmed : Text.trim s.toList = s.toList
  balanced : isBalanced 0 s.toList = true

instance (s : String) : Decidable (IsStyle s) :=
  decidable_of_iff
    (s.toList ≠ [] ∧ Text.trim s.toList = s.toList ∧ isBalanced 0 s.toList = true)
    ⟨fun h => ⟨h.1, h.2.1, h.2.2⟩, fun h => ⟨h.ne_nil, h.trimmed, h.balanced⟩⟩

theorem cutStyle_append {depth : Nat} {cs : List Char} (h : isBalanced depth cs = true)
    (rest : List Char) : cutStyle depth (cs ++ '\x7d' :: rest) = (cs, '\x7d' :: rest) := by
  fun_induction isBalanced depth cs with
  | case1 depth =>
    obtain rfl : depth = 0 := by simpa using h
    rfl
  | case2 depth r ih =>
    simp only [List.cons_append, cutStyle, if_true, ih h]
  | case3 r => cases h
  | case4 r d hne ih =>
    simp only [List.cons_append, cutStyle, if_neg hne, if_true, ih h]
  | case5 depth c r hopen hclose ih =>
    simp only [List.cons_append, cutStyle, if_neg hopen, if_neg hclose, ih h]

theorem style_printStyle {s : Option String} (h : ∀ t ∈ s, IsStyle t) (rest : List Char) :
    ∃ hr, style (printStyle s ++ '\x7d' :: rest) = .ok (s, ⟨'\x7d' :: rest, hr⟩) := by
  cases s with
  | none => exact ⟨Nat.le_refl _, rfl⟩
  | some t =>
    obtain ⟨hne, htrim, hbalanced⟩ := h t rfl
    have hspace : isBalanced 0 (' ' :: t.toList) = true := hbalanced
    have hcut := cutStyle_append hspace rest
    have htrimmed : Text.trim (' ' :: t.toList) = t.toList := htrim
    refine ⟨by simp [printStyle]; omega, ?_⟩
    simp only [printStyle, List.cons_append] at hcut ⊢
    simp only [style, hcut, htrimmed, List.isEmpty_iff, if_neg hne, String.ofList_toList]

/-! ## Selectors -/

/-- Whether a text is read as one selector. -/
structure IsSelector (s : String) : Prop where
  ne_nil : s.toList ≠ []
  whole : cutSelector s.toList = (s.toList, [])

instance (s : String) : Decidable (IsSelector s) :=
  decidable_of_iff (s.toList ≠ [] ∧ cutSelector s.toList = (s.toList, []))
    ⟨fun h => ⟨h.1, h.2⟩, fun h => ⟨h.ne_nil, h.whole⟩⟩

theorem isSelectorChar_of_isDigit {c : Char} (h : Text.isDigit c = true) :
    isSelectorChar c = true := by
  have hopen : c ≠ '\x7b' := by
    rintro rfl
    exact absurd h (by decide)
  have hclose : c ≠ '\x7d' := by
    rintro rfl
    exact absurd h (by decide)
  simp [isSelectorChar, Text.not_isBlank_of_isDigit h, hopen, hclose]

section Stop

variable {d : Char} (hd : isSelectorChar d = false)

include hd

theorem isDigit_stop : Text.isDigit d = false := by
  cases hdigit : Text.isDigit d with
  | false => rfl
  | true => exact absurd (isSelectorChar_of_isDigit hdigit) (by simp [hd])

theorem ne_stop {c : Char} (hc : isSelectorChar c = true) : d ≠ c := by
  rintro rfl
  rw [hd] at hc
  cases hc

theorem cutMinus_append_stop (cs rest : List Char) :
    cutMinus (cs ++ d :: rest) = ((cutMinus cs).1, (cutMinus cs).2 ++ d :: rest) := by
  cases cs with
  | nil => simp [cutMinus, ne_stop hd (by decide : isSelectorChar '-' = true)]
  | cons c r =>
    by_cases hc : c = '-'
    · subst hc
      rfl
    · simp [cutMinus, hc]

theorem cutFraction_append_stop (cs rest : List Char) :
    cutFraction (cs ++ d :: rest) = ((cutFraction cs).1, (cutFraction cs).2 ++ d :: rest) := by
  have hdigit := isDigit_stop hd
  cases cs with
  | nil => simp [cutFraction, ne_stop hd (by decide : isSelectorChar '.' = true)]
  | cons c r =>
    by_cases hc : c = '.'
    · subst hc
      simp only [List.cons_append, cutFraction, Text.takeWhile_append_cons hdigit,
        Text.dropWhile_append_cons hdigit]
      split <;> rfl
    · simp [cutFraction, hc]

theorem exactSelector?_append_stop (cs rest : List Char) :
    exactSelector? (cs ++ d :: rest) =
      (exactSelector? cs).map fun p => (p.1, p.2 ++ d :: rest) := by
  have hdigit := isDigit_stop hd
  cases cs with
  | nil => simp [exactSelector?, ne_stop hd (by decide : isSelectorChar '=' = true)]
  | cons c r =>
    by_cases hc : c = '='
    · subst hc
      simp only [List.cons_append, exactSelector?, cutMinus_append_stop hd,
        Text.takeWhile_append_cons hdigit, Text.dropWhile_append_cons hdigit,
        cutFraction_append_stop hd]
      split <;> rfl
    · simp [exactSelector?, hc]

/-- A selector ends in front of a blank or a brace, whatever follows. -/
theorem cutSelector_append_stop (cs rest : List Char) :
    cutSelector (cs ++ d :: rest) = ((cutSelector cs).1, (cutSelector cs).2 ++ d :: rest) := by
  rw [cutSelector, exactSelector?_append_stop hd, cutSelector]
  cases exactSelector? cs with
  | some p => rfl
  | none =>
    simp only [Option.map_none, Text.takeWhile_append_cons hd, Text.dropWhile_append_cons hd]

end Stop

/-- A selector is read up to the space behind it. -/
theorem IsSelector.read {s : String} (h : IsSelector s) (rest : List Char) :
    cutSelector (s.toList ++ ' ' :: rest) = (s.toList, ' ' :: rest) := by
  rw [cutSelector_append_stop (by decide), h.whole, List.nil_append]

/-- A selector begins with no blank and no brace. -/
theorem IsSelector.isSelectorChar_head {s : String} (h : IsSelector s) {c : Char} {r : List Char}
    (hs : s.toList = c :: r) : isSelectorChar c = true := by
  have hwhole := h.whole
  rw [hs] at hwhole
  by_cases hc : c = '='
  · subst hc
    decide
  · have hnone : exactSelector? (c :: r) = none := by simp [exactSelector?, hc]
    rw [cutSelector, hnone] at hwhole
    have hall : ((c :: r).takeWhile isSelectorChar).all isSelectorChar = true := List.all_takeWhile
    rw [(Prod.mk.inj hwhole).1] at hall
    exact List.all_eq_true.1 hall c List.mem_cons_self

/-! ## Offsets -/

/-- An offset is read with all of its digits. -/
theorem cutOffset?_print (n : Nat) {rest : List Char}
    (hrest : ∀ c ∈ rest.head?, Text.isDigit c = false) :
    cutOffset? ("offset:".toList ++ (Text.natDigits n ++ rest)) =
      some (Text.natDigits n, rest) := by
  have hword : dropWord? "offset".toList ("offset:".toList ++ (Text.natDigits n ++ rest)) =
      some (':' :: (Text.natDigits n ++ rest)) := by
    simp [dropWord?]
  have hcolon : Text.skipBlanks (':' :: (Text.natDigits n ++ rest)) =
      ':' :: (Text.natDigits n ++ rest) := rfl
  have hdigits : ∀ c ∈ Text.natDigits n, Text.isDigit c = true := by
    intro c hc
    obtain ⟨d, rfl⟩ := Text.exists_of_mem_natDigits hc
    exact Text.isDigit_digitChar d
  have hblank : Text.skipBlanks (Text.natDigits n ++ rest) = Text.natDigits n ++ rest := by
    obtain ⟨c, r, hcons⟩ := List.exists_cons_of_ne_nil (Text.natDigits_ne_nil n)
    obtain ⟨d, rfl⟩ := Text.exists_of_mem_natDigits (hcons ▸ List.mem_cons_self)
    rw [hcons]
    apply skipBlanks_of_head
    intro c hc
    cases hc
    exact Text.not_isBlank_digitChar d
  simp only [cutOffset?, hword, hcolon, hblank, Text.takeWhile_append_stop hdigits hrest,
    Text.dropWhile_append_stop hdigits hrest, List.isEmpty_iff, if_neg (Text.natDigits_ne_nil n)]

end Polyglot.Message
