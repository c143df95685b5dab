import Polyglot.Text.Blank

/-!
# Parts of a text

A run of characters ends where one of another kind follows. A text is cut at the first separator in
it, or into the pieces between all of them. What has no separator in it stays in one part, and
pieces that were joined are found again.
-/
namespace Polyglot.Text

variable {sep : Char}

/-! ## Runs of characters -/

theorem takeWhile_append_stop {p : Char → Bool} {cs rest : List Char} (h : ∀ c ∈ cs, p c = true)
    (hstop : ∀ c ∈ rest.head?, p c = false) : (cs ++ rest).takeWhile p = cs := by
  rw [List.takeWhile_append_of_pos h]
  cases rest with
  | nil => simp
  | cons c r => simp [hstop c rfl]

theorem dropWhile_append_stop {p : Char → Bool} {cs rest : List Char} (h : ∀ c ∈ cs, p c = true)
    (hstop : ∀ c ∈ rest.head?, p c = false) : (cs ++ rest).dropWhile p = rest := by
  rw [List.dropWhile_append_of_pos h]
  cases rest with
  | nil => simp
  | cons c r => simp [hstop c rfl]

theorem takeWhile_append_cons {p : Char → Bool} {d : Char} (hd : p d = false)
    (cs rest : List Char) : (cs ++ d :: rest).takeWhile p = cs.takeWhile p := by
  induction cs with
  | nil => simp [hd]
  | cons c r ih => simp only [List.cons_append, List.takeWhile_cons, ih]

theorem dropWhile_append_cons {p : Char → Bool} {d : Char} (hd : p d = false)
    (cs rest : List Char) : (cs ++ d :: rest).dropWhile p = cs.dropWhile p ++ d :: rest := by
  induction cs with
  | nil => simp [hd]
  | cons c r ih =>
    simp only [List.cons_append, List.dropWhile_cons, ih]
    split <;> rfl

/-! ## The first separator -/

theorem cutAt_of_not_mem {cs : List Char} (h : sep ∉ cs) : cutAt sep cs = (cs, none) := by
  induction cs with
  | nil => rfl
  | cons c r ih =>
    obtain ⟨hc, hr⟩ := not_or.1 (mt List.mem_cons.2 h)
    rw [cutAt, if_neg (Ne.symm hc), ih hr]

theorem cutAt_append {cs : List Char} (h : sep ∉ cs) (rest : List Char) :
    cutAt sep (cs ++ sep :: rest) = (cs, some rest) := by
  induction cs with
  | nil => simp [cutAt]
  | cons c r ih =>
    obtain ⟨hc, hr⟩ := not_or.1 (mt List.mem_cons.2 h)
    rw [List.cons_append, cutAt, if_neg (Ne.symm hc), ih hr]

/-! ## Every separator -/

theorem splitOn_cons_self (cs : List Char) : splitOn sep (sep :: cs) = [] :: splitOn sep cs := by
  rw [splitOn, if_pos rfl]

theorem splitOn_cons_of_ne {c : Char} (h : c ≠ sep) {cs p : List Char} {ps : List (List Char)}
    (hs : splitOn sep cs = p :: ps) : splitOn sep (c :: cs) = (c :: p) :: ps := by
  rw [splitOn, if_neg h, hs]

/-- What has no separator in it becomes part of the first piece. -/
theorem splitOn_append {front : List Char} (h : sep ∉ front) {cs p : List Char}
    {ps : List (List Char)} (hs : splitOn sep cs = p :: ps) :
    splitOn sep (front ++ cs) = (front ++ p) :: ps := by
  induction front with
  | nil => exact hs
  | cons c r ih =>
    obtain ⟨hc, hr⟩ := not_or.1 (mt List.mem_cons.2 h)
    exact splitOn_cons_of_ne (Ne.symm hc) (ih hr)

theorem splitOn_of_not_mem {cs : List Char} (h : sep ∉ cs) : splitOn sep cs = [cs] := by
  have hnil : splitOn sep [] = [[]] := rfl
  simpa using splitOn_append h hnil

/-- A separator ends a piece, whatever stands before it. -/
theorem splitOn_append_cons (front cs : List Char) :
    splitOn sep (front ++ sep :: cs) = splitOn sep front ++ splitOn sep cs := by
  induction front with
  | nil => exact splitOn_cons_self cs
  | cons c r ih =>
    by_cases hc : c = sep
    · subst hc
      rw [List.cons_append, splitOn_cons_self, splitOn_cons_self, ih, List.cons_append]
    · obtain ⟨p, ps, hp⟩ := List.exists_cons_of_ne_nil (splitOn_ne_nil sep r)
      rw [hp, List.cons_append] at ih
      rw [List.cons_append, splitOn_cons_of_ne hc ih, splitOn_cons_of_ne hc hp, List.cons_append]

/-- The first piece stands at the front, and has no separator in it. -/
theorem splitOn_head {cs p : List Char} {ps : List (List Char)} (hs : splitOn sep cs = p :: ps) :
    p <+: cs ∧ sep ∉ p := by
  induction cs generalizing p ps with
  | nil =>
    cases hs
    exact ⟨List.prefix_refl [], List.not_mem_nil⟩
  | cons c r ih =>
    by_cases hc : c = sep
    · subst hc
      rw [splitOn_cons_self] at hs
      cases hs
      exact ⟨List.nil_prefix, List.not_mem_nil⟩
    · obtain ⟨q, qs, hq⟩ := List.exists_cons_of_ne_nil (splitOn_ne_nil sep r)
      rw [splitOn_cons_of_ne hc hq] at hs
      cases hs
      obtain ⟨hfront, hnot⟩ := ih hq
      refine ⟨List.cons_prefix_cons.2 ⟨rfl, hfront⟩, fun hmem => ?_⟩
      rcases List.mem_cons.1 hmem with heq | hmem
      · exact hc heq.symm
      · exact hnot hmem

/-! ## Joined pieces -/

theorem splitOn_eq_list (sep : Char) (cs : List Char) : splitOn sep cs = cs.splitOn sep := by
  induction cs with
  | nil => rfl
  | cons c r ih =>
    rw [List.splitOn_cons_eq_if_modifyHead, ← ih]
    by_cases hc : c = sep
    · rw [hc, splitOn_cons_self, if_pos BEq.rfl]
    · obtain ⟨p, ps, hp⟩ := List.exists_cons_of_ne_nil (splitOn_ne_nil sep r)
      rw [splitOn_cons_of_ne hc hp, hp, if_neg (by simpa using hc), List.modifyHead_cons]

/-- Pieces without a separator are those of the text that they are joined to. -/
theorem splitOn_intercalate {ps : List (List Char)} (hne : ps ≠ []) (h : ∀ p ∈ ps, sep ∉ p) :
    splitOn sep ([sep].intercalate ps) = ps := by
  rw [splitOn_eq_list]
  exact List.splitOn_intercalate sep h hne

/-- The pieces of a text, joined, are the text. -/
theorem intercalate_splitOn (sep : Char) (cs : List Char) :
    [sep].intercalate (splitOn sep cs) = cs := by
  rw [splitOn_eq_list]
  exact List.intercalate_splitOn sep

end Polyglot.Text
