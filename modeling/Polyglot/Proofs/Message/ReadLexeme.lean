import Mathlib.Data.List.DropRight
import Mathlib.Data.List.Infix
import Polyglot.Proofs.Message.Interpolation
import Polyglot.Proofs.Message.RoundTrip

/-!
# Lexemes that were read

What the parser reads as a name, a selector, a style or the source of a simple argument is one, and
what it leaves is an end of what it was given.
-/
namespace Polyglot

/-! ## Trimming -/

namespace Text

theorem trimEnd_prefix (cs : List Char) : trimEnd cs <+: cs := by
  have h : cs.reverse.dropWhile isBlank <:+ cs.reverse := List.dropWhile_suffix _
  have hrev := List.reverse_prefix.2 h
  rwa [List.reverse_reverse] at hrev

theorem not_isBlank_head_skipBlanks (cs : List Char) :
    ∀ c ∈ (skipBlanks cs).head?, isBlank c = false := by
  intro c hc
  have h := List.head?_dropWhile_not isBlank cs
  rw [show List.dropWhile isBlank cs = skipBlanks cs from rfl, hc] at h
  simpa using h

theorem trimEnd_trimEnd (cs : List Char) : trimEnd (trimEnd cs) = trimEnd cs := by
  rw [trimEnd, trimEnd, List.reverse_reverse, List.dropWhile_idempotent]

/-- Trimming leaves nothing to trim. -/
theorem trim_trim (cs : List Char) : trim (trim cs) = trim cs := by
  have hhead : ∀ c ∈ (trimEnd (skipBlanks cs)).head?, isBlank c = false := by
    intro c hc
    obtain ⟨r, hr⟩ := trimEnd_prefix (skipBlanks cs)
    apply not_isBlank_head_skipBlanks cs
    rw [← hr, List.head?_append, hc]
    rfl
  rw [trim, trim, Message.skipBlanks_of_head hhead, trimEnd_trimEnd]

theorem takeWhile_isBlank_append_skipBlanks (cs : List Char) :
    cs.takeWhile isBlank ++ skipBlanks cs = cs :=
  List.takeWhile_append_dropWhile

/-- What is trimmed off are blanks. -/
theorem exists_trim (cs : List Char) : ∃ before after, (∀ c ∈ before, isBlank c = true) ∧
    (∀ c ∈ after, isBlank c = true) ∧ cs = before ++ (trim cs ++ after) := by
  refine ⟨cs.takeWhile isBlank, ((skipBlanks cs).reverse.takeWhile isBlank).reverse, ?_, ?_, ?_⟩
  · exact fun c hc => List.mem_takeWhile_imp hc
  · exact fun c hc => List.mem_takeWhile_imp (List.mem_reverse.1 hc)
  · rw [trim, trimEnd, ← List.reverse_append, List.takeWhile_append_dropWhile,
      List.reverse_reverse, takeWhile_isBlank_append_skipBlanks]

end Text

namespace Message

/-! ## Ends of a text -/

theorem cutMinus_suffix (cs : List Char) : (cutMinus cs).2 <:+ cs := by
  unfold cutMinus
  split
  · exact List.suffix_cons _ _
  · exact List.suffix_refl _

theorem cutFraction_suffix (cs : List Char) : (cutFraction cs).2 <:+ cs := by
  unfold cutFraction
  split
  · split
    · exact List.suffix_refl _
    · exact (List.dropWhile_suffix _).trans (List.suffix_cons _ _)
  · exact List.suffix_refl _

theorem cutSelector_suffix (cs : List Char) : (cutSelector cs).2 <:+ cs := by
  unfold cutSelector
  split
  · rename_i p hp
    unfold exactSelector? at hp
    split at hp
    · simp only at hp
      split at hp
      · cases hp
      · cases hp
        exact (cutFraction_suffix _).trans ((List.dropWhile_suffix _).trans
          ((cutMinus_suffix _).trans (List.suffix_cons _ _)))
    · cases hp
  · exact List.dropWhile_suffix _

theorem quotedRun_suffix (cs : List Char) : (quotedRun cs).2 <:+ cs := by
  fun_induction quotedRun cs with
  | case1 => exact List.suffix_refl _
  | case2 r q t heq ih =>
    rw [heq] at ih
    exact ih.trans ((List.suffix_cons _ _).trans (List.suffix_cons _ _))
  | case3 r hne => exact List.suffix_cons _ _
  | case4 c r hne hc q t heq ih =>
    rw [heq] at ih
    exact ih.trans (List.suffix_cons _ _)

theorem quoted_suffix (inPlural : Bool) (cs : List Char) : (quoted inPlural cs).2 <:+ cs := by
  cases cs with
  | nil => exact List.suffix_refl _
  | cons c r =>
    rw [quoted]
    split
    · exact List.suffix_cons _ _
    · split
      · exact quotedRun_suffix _
      · exact List.suffix_refl _

/-- An apostrophe stands for at least one character. -/
theorem quoted_ne_nil (inPlural : Bool) (cs : List Char) : (quoted inPlural cs).1 ≠ [] := by
  cases cs with
  | nil => exact List.cons_ne_nil _ _
  | cons c r =>
    rw [quoted]
    split
    · exact List.cons_ne_nil _ _
    · rename_i hc
      split
      · have hquote : c ≠ '\'' := hc
        simp [quotedRun, hquote]
      · exact List.cons_ne_nil _ _

theorem cutStyle_suffix (depth : Nat) (cs : List Char) : (cutStyle depth cs).2 <:+ cs := by
  fun_induction cutStyle depth cs <;> simp_all [List.suffix_cons_iff]

theorem cons_of_expect {c : Char} {cs : List Char} {r : Shorter cs} (h : expect c cs = .ok r) :
    c :: r.1 = cs := by
  unfold expect at h
  split at h
  · cases h
  · split at h
    · rename_i d t hd
      cases h
      rw [hd]
    · cases h

theorem suffix_of_expect {c : Char} {cs : List Char} {r : Shorter cs} (h : expect c cs = .ok r) :
    r.1 <:+ cs := by
  have hsuffix := List.suffix_cons c r.1
  rwa [cons_of_expect h] at hsuffix

theorem close_suffix {cs : List Char} {r : Shorter cs} (h : close cs = .ok r) :
    cs ≠ [] ∧ r.1 <:+ cs := by
  unfold close at h
  split at h
  · cases h
  · rename_i t ht hread
    cases h
    refine ⟨?_, (suffix_of_expect hread).trans (skipBlanks_suffix cs)⟩
    rintro rfl
    cases hread

theorem offset_suffix {cs : List Char} {p : Nat × NotLonger cs} (h : offset cs = .ok p) :
    p.2.1 <:+ cs := by
  unfold offset at h
  split at h
  · cases h
    exact List.suffix_refl _
  · rename_i ds r hcut
    split at h
    · cases h
      unfold cutOffset? dropWord? at hcut
      split at hcut
      · cases hcut
      · rename_i t ht
        split at ht
        · cases ht
          split at hcut
          · rename_i u hu
            simp only at hcut
            split at hcut
            · cases hcut
            · cases hcut
              have hcolon : ':' :: u <:+ cs := by
                rw [← hu]
                exact (skipBlanks_suffix _).trans (List.drop_suffix _ _)
              exact (List.dropWhile_suffix _).trans
                ((skipBlanks_suffix u).trans ((List.suffix_cons _ _).trans hcolon))
          · cases hcut
        · cases ht
    · cases h

theorem kind_suffix {cs : List Char} {p : Kind × NotLonger cs} (h : kind cs = .ok p) :
    p.2.1 <:+ cs := by
  simp only [kind] at h
  split at h
  · cases h
  · split at h
    · cases h
    · cases h
      exact (skipBlanks_suffix _).trans ((List.dropWhile_suffix _).trans (skipBlanks_suffix _))

/-! ## Selectors -/

theorem isSelectorChar_of_mem_cutMinus {cs : List Char} {c : Char} (h : c ∈ (cutMinus cs).1) :
    isSelectorChar c = true := by
  unfold cutMinus at h
  split at h
  · rw [List.mem_singleton.1 h]
    decide
  · cases h

theorem isSelectorChar_of_mem_cutFraction {cs : List Char} {c : Char}
    (h : c ∈ (cutFraction cs).1) : isSelectorChar c = true := by
  unfold cutFraction at h
  split at h
  · split at h
    · cases h
    · rcases List.mem_cons.1 h with rfl | h
      · decide
      · exact isSelectorChar_of_isDigit (List.mem_takeWhile_imp h)
  · cases h

/-- A selector has no blanks and no braces. -/
theorem isSelectorChar_of_mem_cutSelector {cs : List Char} {c : Char}
    (h : c ∈ (cutSelector cs).1) : isSelectorChar c = true := by
  unfold cutSelector at h
  split at h
  · rename_i p hp
    unfold exactSelector? at hp
    split at hp
    · simp only at hp
      split at hp
      · cases hp
      · cases hp
        simp only [List.mem_cons, List.mem_append] at h
        rcases h with rfl | (hminus | hdigit) | hfraction
        · decide
        · exact isSelectorChar_of_mem_cutMinus hminus
        · exact isSelectorChar_of_isDigit (List.mem_takeWhile_imp hdigit)
        · exact isSelectorChar_of_mem_cutFraction hfraction
    · cases hp
  · exact List.mem_takeWhile_imp h

theorem cutMinus_append {cs rest : List Char} (h : (cutMinus cs).2 ≠ []) :
    cutMinus (cs ++ rest) = ((cutMinus cs).1, (cutMinus cs).2 ++ rest) := by
  cases cs with
  | nil => exact absurd rfl h
  | cons c r =>
    by_cases hc : c = '-'
    · subst hc
      rfl
    · simp [cutMinus, hc]

/-- Where a text begins with an exact selector, so does every longer text. -/
theorem exists_exactSelector?_append {cs : List Char} {p : List Char × List Char}
    (h : exactSelector? cs = some p) (rest : List Char) :
    ∃ q, exactSelector? (cs ++ rest) = some q := by
  unfold exactSelector? at h
  split at h
  · rename_i r
    simp only at h
    split at h
    · cases h
    · rename_i hwhole
      have hdigits : (cutMinus r).2.takeWhile Text.isDigit ≠ [] := by simpa using hwhole
      have hnumber : (cutMinus r).2 ≠ [] := fun hnil => hdigits (by rw [hnil]; rfl)
      have hmore : ((cutMinus (r ++ rest)).2.takeWhile Text.isDigit).isEmpty = false := by
        rw [cutMinus_append hnumber]
        obtain ⟨d, t, hd⟩ := List.exists_cons_of_ne_nil hnumber
        rw [hd] at hdigits ⊢
        have hdigit : Text.isDigit d = true := by
          by_contra hd
          exact hdigits (by simp [hd])
        simp [hdigit]
      simp only [List.cons_append, exactSelector?, hmore]
      exact ⟨_, rfl⟩
  · cases h

theorem cutMinus_self {cs rest : List Char} (h : rest.head? ≠ some '-') :
    cutMinus ((cutMinus cs).1 ++ rest) = ((cutMinus cs).1, rest) := by
  have hnone : cutMinus rest = ([], rest) := by
    cases rest with
    | nil => rfl
    | cons c r =>
      have hc : c ≠ '-' := fun hc => h (congrArg some hc)
      simp [cutMinus, hc]
  cases cs with
  | nil => exact hnone
  | cons c r =>
    by_cases hc : c = '-'
    · subst hc
      rfl
    · simpa [cutMinus, hc] using hnone

theorem cutFraction_self (cs : List Char) :
    cutFraction (cutFraction cs).1 = ((cutFraction cs).1, []) := by
  fun_cases cutFraction cs with
  | case1 r hdigits => rfl
  | case2 r hdigits =>
    have hdrop : (r.takeWhile Text.isDigit).dropWhile Text.isDigit = [] :=
      List.dropWhile_eq_nil_iff.2 fun c hc => List.mem_takeWhile_imp hc
    simp only [cutFraction, List.takeWhile_idem, hdrop, hdigits, Bool.false_eq_true, if_false]
  | case3 hpoint => rfl

theorem not_isDigit_head_cutFraction (cs : List Char) :
    ∀ c ∈ (cutFraction cs).1.head?, Text.isDigit c = false := by
  intro c hc
  unfold cutFraction at hc
  split at hc
  · split at hc <;> cases hc
    decide
  · cases hc

/-- The text of an exact selector is read whole. -/
theorem exactSelector?_self {cs : List Char} {p : List Char × List Char}
    (h : exactSelector? cs = some p) : exactSelector? p.1 = some (p.1, []) := by
  unfold exactSelector? at h
  split at h
  · rename_i r
    simp only at h
    split at h
    · cases h
    · rename_i hwhole
      cases h
      generalize hw : (cutMinus r).2.takeWhile Text.isDigit = whole at hwhole ⊢
      generalize (cutMinus r).2.dropWhile Text.isDigit = tail
      have hdigits : ∀ c ∈ whole, Text.isDigit c = true := by
        rw [← hw]
        exact fun c hc => List.mem_takeWhile_imp hc
      have hminus : (whole ++ (cutFraction tail).1).head? ≠ some '-' := by
        obtain ⟨d, t, rfl⟩ := List.exists_cons_of_ne_nil (List.isEmpty_iff.not.1 hwhole)
        rintro hd
        cases hd
        exact absurd (hdigits '-' List.mem_cons_self) (by decide)
      have hstop := not_isDigit_head_cutFraction tail
      simp only [exactSelector?, List.append_assoc, cutMinus_self hminus,
        Text.takeWhile_append_stop hdigits hstop, Text.dropWhile_append_stop hdigits hstop, hwhole,
        cutFraction_self, Bool.false_eq_true, if_false]
  · cases h

/-- What is read as a selector is one. -/
theorem isSelector_cutSelector {cs : List Char} (h : (cutSelector cs).1 ≠ []) :
    IsSelector (String.ofList (cutSelector cs).1) := by
  refine ⟨by rwa [String.toList_ofList], ?_⟩
  rw [String.toList_ofList]
  cases hexact : exactSelector? cs with
  | some p => simp only [cutSelector, hexact, exactSelector?_self hexact]
  | none =>
    -- An exact selector in front of the run would be in front of the whole text too.
    have hnone : exactSelector? (cs.takeWhile isSelectorChar) = none := by
      rw [Option.eq_none_iff_forall_not_mem]
      intro p hp
      obtain ⟨q, hq⟩ := exists_exactSelector?_append hp (cs.dropWhile isSelectorChar)
      rw [List.takeWhile_append_dropWhile, hexact] at hq
      cases hq
    have hdrop : (cs.takeWhile isSelectorChar).dropWhile isSelectorChar = [] :=
      List.dropWhile_eq_nil_iff.2 fun c hc => List.mem_takeWhile_imp hc
    simp only [cutSelector, hexact, hnone, List.takeWhile_idem, hdrop]

/-! ## Styles -/

theorem isBalanced_blanks_append {blanks : List Char} (h : ∀ c ∈ blanks, Text.isBlank c = true)
    (depth : Nat) (cs : List Char) : isBalanced depth (blanks ++ cs) = isBalanced depth cs := by
  induction blanks with
  | nil => rfl
  | cons c r ih =>
    have hblank := h c List.mem_cons_self
    have hopen : c ≠ '\x7b' := by
      rintro rfl
      exact absurd hblank (by decide)
    have hclose : c ≠ '\x7d' := by
      rintro rfl
      exact absurd hblank (by decide)
    simp only [List.cons_append, isBalanced, if_neg hopen, if_neg hclose]
    exact ih fun d hd => h d (List.mem_cons_of_mem c hd)

theorem isBalanced_append_blanks {blanks : List Char} (h : ∀ c ∈ blanks, Text.isBlank c = true)
    (depth : Nat) (cs : List Char) : isBalanced depth (cs ++ blanks) = isBalanced depth cs := by
  fun_induction isBalanced depth cs with
  | case1 depth =>
    have hblanks := isBalanced_blanks_append h depth []
    rwa [List.append_nil] at hblanks
  | case2 depth r ih => simp [isBalanced, ih]
  | case3 r hopen => simp [isBalanced]
  | case4 r d hopen ih => simp [isBalanced, ih]
  | case5 depth c r hopen hclose ih => simp [isBalanced, hopen, hclose, ih]

/-- The text of a style is balanced, if it ends before the input does. -/
theorem isBalanced_cutStyle {depth : Nat} {cs : List Char} (h : (cutStyle depth cs).2 ≠ []) :
    isBalanced depth (cutStyle depth cs).1 = true := by
  fun_induction cutStyle depth cs <;> simp_all [isBalanced]

/-- What is read as a style is one, if it ends before the input does. -/
theorem style_sound {cs : List Char} {p : Option String × NotLonger cs} (h : style cs = .ok p) :
    p.2.1 <:+ cs ∧ (p.2.1 ≠ [] → ∀ s ∈ p.1, IsStyle s) := by
  unfold style at h
  split at h
  · rename_i r
    simp only at h
    split at h
    · cases h
    · rename_i hne
      cases h
      refine ⟨(cutStyle_suffix 0 r).trans (List.suffix_cons _ _), ?_⟩
      intro hrest s hs
      cases hs
      obtain ⟨before, after, hbefore, hafter, hcut⟩ := Text.exists_trim (cutStyle 0 r).1
      have hbalanced := isBalanced_cutStyle hrest
      rw [hcut, isBalanced_blanks_append hbefore, isBalanced_append_blanks hafter] at hbalanced
      constructor
      · rw [String.toList_ofList]
        exact List.isEmpty_iff.not.1 hne
      · rw [String.toList_ofList, Text.trim_trim]
      · rwa [String.toList_ofList]
  · cases h
    exact ⟨List.suffix_refl _, fun _ s hs => nomatch hs⟩

/-! ## Heads of arguments -/

theorem isName_takeWhile {cs : List Char} (h : cs.takeWhile isNameChar ≠ []) :
    IsName (String.ofList (cs.takeWhile isNameChar)) :=
  ⟨by rwa [String.toList_ofList], by
    rw [String.toList_ofList]
    exact fun c hc => List.mem_takeWhile_imp hc⟩

/-- Whether the head of an argument has a name and leaves an end of the text. A simple argument has
all of its source before that. -/
def Head.IsSound {cs : List Char} : Head cs → Prop
  | .simple name r =>
      IsName name ∧ r.1 <:+ cs ∧
        IsSource name (String.ofList ('\x7b' :: cs.take (cs.length - r.1.length)))
  | .typed name _ r => IsName name ∧ r.1 <:+ cs

theorem head_split (cs : List Char) : ∃ before after : List Char,
    (∀ c ∈ before, Text.isBlank c = true) ∧ (∀ c ∈ after, Text.isBlank c = true) ∧
      cs = before ++ ((Text.skipBlanks cs).takeWhile isNameChar ++
        (after ++ Text.skipBlanks ((Text.skipBlanks cs).dropWhile isNameChar))) := by
  refine ⟨cs.takeWhile Text.isBlank,
    ((Text.skipBlanks cs).dropWhile isNameChar).takeWhile Text.isBlank, ?_, ?_, ?_⟩
  · exact fun c hc => List.mem_takeWhile_imp hc
  · exact fun c hc => List.mem_takeWhile_imp hc
  · rw [Text.takeWhile_isBlank_append_skipBlanks, List.takeWhile_append_dropWhile,
      Text.takeWhile_isBlank_append_skipBlanks]

theorem take_length_sub {cs front rest : List Char} (h : cs = front ++ rest) :
    cs.take (cs.length - rest.length) = front := by
  subst h
  simp

/-- The head of an argument is sound. -/
theorem head_sound {cs : List Char} {p : Head cs} (h : head cs = .ok p) : p.IsSound := by
  obtain ⟨before, after, hbefore, hafter, hcs⟩ := head_split cs
  rw [head] at h
  split at h
  · cases h
  · rename_i hne
    have hname := isName_takeWhile (List.isEmpty_iff.not.1 hne)
    split at h
    · cases h
    · rename_i c r hcons
      rw [hcons] at hcs
      have hr : r <:+ cs := by
        refine ⟨before ++ ((Text.skipBlanks cs).takeWhile isNameChar ++ (after ++ [c])), ?_⟩
        conv_rhs => rw [hcs]
        simp
      split at h
      · rename_i hc
        cases h
        subst hc
        refine ⟨hname, hr, before, after, hbefore, hafter, ?_⟩
        rw [String.toList_ofList, String.toList_ofList, List.cons_inj_right]
        exact take_length_sub (by simpa using hcs)
      · simp only at h
        split at h
        · split at h
          · cases h
          · rename_i k r1 h1 hkind
            cases h
            exact ⟨hname, (kind_suffix hkind).trans hr⟩
        · cases h

end Message
end Polyglot
