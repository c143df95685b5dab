import Polyglot.Proofs.Message.Parsed
import Polyglot.Proofs.Number.Literal

/-!
# Longer texts

What the parser reads from the front of a text it reads from every longer text, as long as a closing
brace is left behind it: no part of an argument can go on past one. An argument ends with its own
brace, so that it is read in the same way whatever follows it.
-/
namespace Polyglot.Message

variable {cs : List Char} {d : Char} {p : Char → Bool}

/-! ## Runs of characters -/

theorem takeWhile_append_of_mem (hd : p d = false) (h : d ∈ cs) (more : List Char) :
    (cs ++ more).takeWhile p = cs.takeWhile p := by
  obtain ⟨front, tail, rfl⟩ := List.append_of_mem h
  rw [List.append_assoc, List.cons_append, Text.takeWhile_append_cons hd,
    Text.takeWhile_append_cons hd]

theorem dropWhile_append_of_mem (hd : p d = false) (h : d ∈ cs) (more : List Char) :
    (cs ++ more).dropWhile p = cs.dropWhile p ++ more := by
  obtain ⟨front, tail, rfl⟩ := List.append_of_mem h
  rw [List.append_assoc, List.cons_append, Text.dropWhile_append_cons hd,
    Text.dropWhile_append_cons hd, List.append_assoc, List.cons_append]

theorem skipBlanks_append_of_mem (h : '\x7d' ∈ cs) (more : List Char) :
    Text.skipBlanks (cs ++ more) = Text.skipBlanks cs ++ more :=
  dropWhile_append_of_mem (by decide) h more

theorem mem_skipBlanks (h : '\x7d' ∈ cs) : '\x7d' ∈ Text.skipBlanks cs :=
  Literal.mem_dropWhile (by decide) h

theorem isPrefixOf_append_of_mem {word : List Char} (hd : d ∉ word) (h : d ∈ cs)
    (more : List Char) : word.isPrefixOf (cs ++ more) = word.isPrefixOf cs := by
  induction word generalizing cs with
  | nil => rfl
  | cons w ws ih =>
    obtain ⟨hw, hws⟩ := not_or.1 (List.mem_cons.not.1 hd)
    cases cs with
    | nil => cases h
    | cons c r =>
      by_cases hc : w = c
      · subst hc
        have hrest := ih hws ((List.mem_cons.1 h).resolve_left hw)
        simp [List.isPrefixOf, hrest]
      · have hne : (w == c) = false := beq_eq_false_iff_ne.2 hc
        simp [List.isPrefixOf, hne]

/-! ## Lexemes -/

section Lexemes

variable (more : List Char)

theorem length_append_lt (r : Shorter cs) : (r.1 ++ more).length < (cs ++ more).length := by
  simpa using r.2

theorem length_append_le (r : NotLonger cs) : (r.1 ++ more).length ≤ (cs ++ more).length := by
  simpa using r.2

theorem expect_append {c : Char} {r : Shorter cs} (h : expect c cs = .ok r) :
    expect c (cs ++ more) = .ok ⟨r.1 ++ more, length_append_lt more r⟩ := by
  unfold expect at h
  split at h
  · cases h
  · split at h
    · rename_i hc
      cases h
      simp [expect, hc]
    · cases h

theorem mem_of_close {r : Shorter cs} (h : close cs = .ok r) : '\x7d' ∈ cs := by
  unfold close at h
  split at h
  · cases h
  · rename_i t ht hread
    have hblank : '\x7d' ∈ Text.skipBlanks cs := by
      rw [← cons_of_expect hread]
      exact List.mem_cons_self
    exact (skipBlanks_suffix cs).mem hblank

theorem close_append {r : Shorter cs} (h : close cs = .ok r) :
    close (cs ++ more) = .ok ⟨r.1 ++ more, length_append_lt more r⟩ := by
  have hblanks := skipBlanks_append_of_mem (mem_of_close h) more
  unfold close at h
  split at h
  · cases h
  · rename_i t ht hread
    cases h
    obtain ⟨hr, hmore⟩ : ∃ hr, expect '\x7d' (Text.skipBlanks (cs ++ more)) =
        .ok ⟨t ++ more, hr⟩ := by
      rw [hblanks]
      exact ⟨_, expect_append more hread⟩
    simp only [close, hmore]

theorem kind_append {k : Kind} {r : NotLonger cs} (hmem : '\x7d' ∈ cs)
    (h : kind cs = .ok (k, r)) :
    kind (cs ++ more) = .ok (k, ⟨r.1 ++ more, length_append_le more r⟩) := by
  have hstop : isKeywordChar '\x7d' = false := by decide
  have hstart := mem_skipBlanks hmem
  have hrest := Literal.mem_dropWhile hstop hstart
  simp only [kind] at h
  split at h
  · cases h
  · rename_i hkeyword
    split at h
    · cases h
    · rename_i hkind
      cases h
      simp only [kind, skipBlanks_append_of_mem hmem, takeWhile_append_of_mem hstop hstart,
        dropWhile_append_of_mem hstop hstart, skipBlanks_append_of_mem hrest, hkeyword, hkind,
        Bool.false_eq_true, if_false]

theorem dropWord?_append {word : List Char} (hword : '\x7d' ∉ word) (hmem : '\x7d' ∈ cs) :
    dropWord? word (cs ++ more) = (dropWord? word cs).map (· ++ more) ∧
      ∀ r, dropWord? word cs = some r → '\x7d' ∈ r := by
  simp only [dropWord?, isPrefixOf_append_of_mem hword hmem]
  cases hprefix : word.isPrefixOf cs with
  | false => simp
  | true =>
    obtain ⟨t, rfl⟩ := List.isPrefixOf_iff_prefix.1 hprefix
    have ht := (List.mem_append.1 hmem).resolve_left hword
    simpa [List.drop_append] using ht

theorem cutOffset?_append (hmem : '\x7d' ∈ cs) :
    cutOffset? (cs ++ more) = (cutOffset? cs).map fun p => (p.1, p.2 ++ more) := by
  have hbrace : '\x7d' ∉ "offset".toList := by decide
  obtain ⟨hword, hrest⟩ := dropWord?_append more hbrace hmem
  rw [cutOffset?, cutOffset?, hword]
  cases hdrop : dropWord? "offset".toList cs with
  | none => rfl
  | some r =>
    have hr := hrest r hdrop
    have hblank := mem_skipBlanks hr
    simp only [Option.map_some, skipBlanks_append_of_mem hr]
    obtain ⟨c, t, hcons⟩ := List.exists_cons_of_ne_nil (List.ne_nil_of_mem hblank)
    rw [hcons] at hblank ⊢
    by_cases hc : c = ':'
    · subst hc
      have ht : '\x7d' ∈ t := (List.mem_cons.1 hblank).resolve_left (by decide)
      have hstop : Text.isDigit '\x7d' = false := by decide
      have hdigits := mem_skipBlanks ht
      simp only [List.cons_append, skipBlanks_append_of_mem ht,
        takeWhile_append_of_mem hstop hdigits, dropWhile_append_of_mem hstop hdigits]
      split <;> rfl
    · simp [hc]

theorem offset_append {n : Nat} {r : NotLonger cs} (hmem : '\x7d' ∈ cs)
    (h : offset cs = .ok (n, r)) :
    offset (cs ++ more) = .ok (n, ⟨r.1 ++ more, length_append_le more r⟩) := by
  have hcut := cutOffset?_append more hmem
  unfold offset at h ⊢
  split at h
  · rename_i hnone
    cases h
    rw [hnone] at hcut
    split
    · rfl
    · rename_i ds t hsome
      cases hcut.symm.trans hsome
  · rename_i ds t hsome
    split at h
    · rename_i m hm
      cases h
      rw [hsome] at hcut
      split
      · rename_i hnone
        cases hcut.symm.trans hnone
      · rename_i es u hmore
        cases hcut.symm.trans hmore
        simp only [hm]
    · cases h

theorem cutSelector_append_of_mem (hmem : '\x7d' ∈ cs) :
    cutSelector (cs ++ more) = ((cutSelector cs).1, (cutSelector cs).2 ++ more) := by
  obtain ⟨front, tail, rfl⟩ := List.append_of_mem hmem
  rw [List.append_assoc, List.cons_append, cutSelector_append_stop (by decide),
    cutSelector_append_stop (by decide), List.append_assoc, List.cons_append]

theorem cutStyle_append_of_ne_nil {depth : Nat} (h : (cutStyle depth cs).2 ≠ []) :
    cutStyle depth (cs ++ more) = ((cutStyle depth cs).1, (cutStyle depth cs).2 ++ more) := by
  fun_induction cutStyle depth cs <;> simp_all [cutStyle]

theorem style_append {s : Option String} {r : NotLonger cs} (hr : r.1 ≠ [])
    (h : style cs = .ok (s, r)) :
    style (cs ++ more) = .ok (s, ⟨r.1 ++ more, length_append_le more r⟩) := by
  unfold style at h
  split at h
  · rename_i t
    simp only at h
    split at h
    · cases h
    · rename_i hne
      cases h
      have hcut : cutStyle 0 (t ++ more) = ((cutStyle 0 t).1, (cutStyle 0 t).2 ++ more) :=
        cutStyle_append_of_ne_nil more hr
      simp only [List.cons_append, style, hcut, hne, Bool.false_eq_true, if_false]
  · rename_i hcomma
    cases h
    obtain ⟨c, t, rfl⟩ := List.exists_cons_of_ne_nil hr
    have hc : c ≠ ',' := by
      rintro rfl
      exact hcomma t rfl
    simp [style, hc]

theorem style_append_of_close {s : Option String} {r : NotLonger cs} {t : Shorter r.1}
    (h : style cs = .ok (s, r)) (ht : close r.1 = .ok t) :
    '\x7d' ∈ cs ∧ style (cs ++ more) = .ok (s, ⟨r.1 ++ more, length_append_le more r⟩) := by
  have hmem := mem_of_close ht
  exact ⟨(style_sound h).1.mem hmem, style_append more (List.ne_nil_of_mem hmem) h⟩

theorem quotedRun_append (h : (quotedRun cs).2 ≠ []) :
    quotedRun (cs ++ more) = ((quotedRun cs).1, (quotedRun cs).2 ++ more) := by
  fun_induction quotedRun cs with
  | case1 => exact absurd rfl h
  | case2 r q t heq ih =>
    rw [heq] at ih
    simp [quotedRun, ih h]
  | case3 r hne =>
    -- The apostrophe that ends the run is the last one of its kind, since something follows it.
    obtain ⟨c, t, rfl⟩ := List.exists_cons_of_ne_nil h
    have hc : c ≠ '\'' := by
      rintro rfl
      exact hne t rfl
    simp [quotedRun, hc]
  | case4 c r hne hc q t heq ih =>
    have hquote : c ≠ '\'' := hc
    rw [heq] at ih
    simp [quotedRun, hquote, ih h]

theorem quoted_append {inPlural : Bool} (h : (quoted inPlural cs).2 ≠ []) :
    quoted inPlural (cs ++ more) = ((quoted inPlural cs).1, (quoted inPlural cs).2 ++ more) := by
  cases cs with
  | nil => exact absurd rfl h
  | cons c r =>
    rw [quoted] at h
    rw [List.cons_append, quoted, quoted]
    by_cases hc : c = '\''
    · rw [if_pos hc, if_pos hc]
    · rw [if_neg hc] at h
      rw [if_neg hc, if_neg hc]
      cases hopen : opensQuote inPlural c with
      | true =>
        rw [hopen] at h
        exact quotedRun_append more h
      | false => rfl

end Lexemes

/-! ## Heads of arguments -/

/-- The head of an argument with more text behind it. -/
def Head.extend (more : List Char) : Head cs → Head (cs ++ more)
  | .simple name r => .simple name ⟨r.1 ++ more, length_append_le more r⟩
  | .typed name k r => .typed name k ⟨r.1 ++ more, length_append_le more r⟩

theorem head_append {p : Head cs} (hmem : '\x7d' ∈ cs) (h : head cs = .ok p) (more : List Char) :
    head (cs ++ more) = .ok (p.extend more) := by
  have hstop : isNameChar '\x7d' = false := by decide
  have hstart := mem_skipBlanks hmem
  have hrest := Literal.mem_dropWhile hstop hstart
  have hblank := mem_skipBlanks hrest
  have htake : (Text.skipBlanks (cs ++ more)).takeWhile isNameChar =
      (Text.skipBlanks cs).takeWhile isNameChar := by
    rw [skipBlanks_append_of_mem hmem, takeWhile_append_of_mem hstop hstart]
  have hmore : Text.skipBlanks ((Text.skipBlanks (cs ++ more)).dropWhile isNameChar) =
      Text.skipBlanks ((Text.skipBlanks cs).dropWhile isNameChar) ++ more := by
    rw [skipBlanks_append_of_mem hmem, dropWhile_append_of_mem hstop hstart,
      skipBlanks_append_of_mem hrest]
  rw [head] at h ⊢
  simp only [htake]
  split at h
  · cases h
  rename_i hname
  rw [if_neg hname]
  split at h
  · rename_i hnil
    rw [hnil] at hblank
    cases hblank
  · rename_i c r hcons
    rw [hcons] at hblank
    split
    · rename_i hnil
      rw [hmore, hcons] at hnil
      cases hnil
    · rename_i d t hd
      rw [hmore, hcons, List.cons_append] at hd
      obtain ⟨rfl, rfl⟩ := List.cons.inj hd
      split at h
      · rename_i hc
        rw [if_pos hc]
        cases h
        rfl
      · rename_i hc
        rw [if_neg hc]
        simp only at h
        split at h
        · rename_i hcomma
          rw [if_pos hcomma]
          split at h
          · cases h
          · rename_i k r1 h1 hkind
            cases h
            have hr : '\x7d' ∈ r := (List.mem_cons.1 hblank).resolve_left (Ne.symm hc)
            simp only [kind_append more hr hkind, Head.extend]
        · cases h

theorem mem_of_head_simple {name : String} {r : NotLonger cs}
    (h : head cs = .ok (.simple name r)) : '\x7d' ∈ cs := by
  obtain ⟨-, -, before, after, -, -, hsource⟩ := head_sound h
  rw [String.toList_ofList, List.cons_inj_right] at hsource
  have hmem : '\x7d' ∈ cs.take (cs.length - r.1.length) := by simp [hsource]
  exact List.mem_of_mem_take hmem

theorem mem_of_head_typed {name : String} {k : Kind} {r : NotLonger cs}
    (h : head cs = .ok (.typed name k r)) (hr : '\x7d' ∈ r.1) : '\x7d' ∈ cs :=
  (head_sound h).2.mem hr

theorem take_append_sub (cs more r : List Char) :
    (cs ++ more).take ((cs ++ more).length - (r ++ more).length) =
      cs.take (cs.length - r.length) := by
  rw [List.length_append, List.length_append, Nat.add_sub_add_right,
    List.take_append_of_le_length (Nat.sub_le _ _)]

/-! ## Messages -/

mutual

/-- A message is read up to the same place of a longer text, if a closing brace is behind it. -/
theorem readsMessage_append (levels : Nat) (inPlural nested : Bool) (cs : List Char)
    (nodes : List Node) (rest : NotLonger cs)
    (h : message levels inPlural nested cs = .ok (nodes, rest)) (hrest : '\x7d' ∈ rest.1)
    (more : List Char) :
    ReadsMessage levels inPlural nested (cs ++ more) nodes (rest.1 ++ more) := by
  match cs with
  | [] =>
    rw [message] at h
    cases h
    cases hrest
  | c :: r =>
    rw [message] at h
    by_cases hopen : c = '\x7b'
    · rw [if_pos hopen] at h
      subst hopen
      split at h
      · cases h
      · rename_i n r1 h1 hn
        split at h <;> cases h
        rename_i ns r2 h2 hns
        exact readsMessage_argument (readsArgument_append levels r n ⟨r1, h1⟩ hn more)
          (readsMessage_append levels inPlural nested r1 ns ⟨r2, h2⟩ hns hrest more)
    rw [if_neg hopen] at h
    by_cases hclose : c = '\x7d'
    · rw [if_pos hclose] at h
      subst hclose
      split at h
      · rename_i hnested
        cases h
        exact readsMessage_end (.inr ⟨hnested, rfl⟩)
      · cases h
    rw [if_neg hclose] at h
    by_cases hpound : (inPlural && c == '#') = true
    · rw [if_pos hpound] at h
      split at h <;> cases h
      rename_i ns r1 h1 hns
      obtain ⟨rfl, rfl⟩ : inPlural = true ∧ c = '#' := by simpa using hpound
      exact readsMessage_pound
        (readsMessage_append levels true nested r ns ⟨r1, h1⟩ hns hrest more)
    rw [if_neg hpound] at h
    by_cases hquote : c = '\''
    · rw [if_pos hquote] at h
      subst hquote
      simp only at h
      have hlength := length_quoted_le inPlural r
      split at h <;> cases h
      rename_i ns r1 h1 hns
      have hmem := (message_sound levels inPlural nested _ ns ⟨r1, h1⟩ hns).suffix.mem hrest
      exact readsMessage_quoted (quoted_append more (List.ne_nil_of_mem hmem))
        (readsMessage_append levels inPlural nested (quoted inPlural r).2 ns ⟨r1, h1⟩ hns hrest
          more)
    · rw [if_neg hquote] at h
      split at h <;> cases h
      rename_i ns r1 h1 hns
      have hplain : opensQuote inPlural c = false := by
        simp only [opensQuote, Bool.or_eq_false_iff, beq_eq_false_iff_ne]
        exact ⟨⟨hopen, hclose⟩, by simpa using hpound⟩
      exact readsMessage_char hplain hquote
        (readsMessage_append levels inPlural nested r ns ⟨r1, h1⟩ hns hrest more)
termination_by cs.length
decreasing_by
  all_goals
    simp only [List.length_cons]
    omega

/-- An argument is read in the same way whatever follows it. -/
theorem readsArgument_append (levels : Nat) (cs : List Char) (n : Node) (rest : NotLonger cs)
    (h : argument levels cs = .ok (n, rest)) (more : List Char) :
    ReadsArgument levels (cs ++ more) n (rest.1 ++ more) := by
  match levels with
  | 0 =>
    rw [argument] at h
    cases h
  | inner + 1 =>
    refine ⟨length_append_le more rest, ?_⟩
    rw [argument] at h ⊢
    split at h
    · cases h
    · rename_i name r h0 hhead
      cases h
      rw [head_append (mem_of_head_simple hhead) hhead more]
      simp only [Head.extend, take_append_sub]
    · rename_i name ordinal r h0 hhead
      split at h
      · cases h
      · rename_i r1 h1 hcomma
        have hblank := Text.length_skipBlanks_le r1
        simp only at h
        split at h
        · cases h
        · rename_i k r2 h2 hoffset
          split at h
          · cases h
          · rename_i arms r3 h3 harms
            split at h <;> cases h
            rename_i r4 h4 hclose
            have hr3 := mem_of_close hclose
            have hr2 := (options_sound inner true [] r2 arms ⟨r3, h3⟩ harms).suffix.mem hr3
            have hstart := (offset_suffix hoffset).mem hr2
            have hr1 := (skipBlanks_suffix r1).mem hstart
            have hr := (suffix_of_expect hcomma).mem hr1
            obtain ⟨hle, hread⟩ : ∃ hle, offset (Text.skipBlanks (r1 ++ more)) =
                .ok (k, ⟨r2 ++ more, hle⟩) := by
              rw [skipBlanks_append_of_mem hr1]
              exact ⟨_, offset_append more hstart hoffset⟩
            obtain ⟨hlonger, hoptions⟩ :=
              readsArms_append inner true [] r2 arms ⟨r3, h3⟩ harms hr3 more
            rw [head_append (mem_of_head_typed hhead hr) hhead more]
            simp only [Head.extend, expect_append more hcomma, hread, hoptions,
              close_append more hclose]
    · rename_i name r h0 hhead
      split at h
      · cases h
      · rename_i r1 h1 hcomma
        split at h
        · cases h
        · rename_i arms r2 h2 harms
          split at h <;> cases h
          rename_i r3 h3 hclose
          have hr2 := mem_of_close hclose
          have hr1 := (options_sound inner false [] r1 arms ⟨r2, h2⟩ harms).suffix.mem hr2
          have hr := (suffix_of_expect hcomma).mem hr1
          obtain ⟨hlonger, hoptions⟩ :=
            readsArms_append inner false [] r1 arms ⟨r2, h2⟩ harms hr2 more
          rw [head_append (mem_of_head_typed hhead hr) hhead more]
          simp only [Head.extend, expect_append more hcomma, hoptions, close_append more hclose]
    · rename_i name r h0 hhead
      split at h
      · cases h
      · rename_i s r1 h1 hstyle
        split at h <;> cases h
        rename_i r2 h2 hclose
        obtain ⟨hr, hread⟩ := style_append_of_close more hstyle hclose
        rw [head_append (mem_of_head_typed hhead hr) hhead more]
        simp only [Head.extend, hread, close_append more hclose]
    · rename_i name k r h0 hhead
      split at h
      · cases h
      · rename_i s r1 h1 hstyle
        split at h <;> cases h
        rename_i r2 h2 hclose
        obtain ⟨hr, hread⟩ := style_append_of_close more hstyle hclose
        rw [head_append (mem_of_head_typed hhead hr) hhead more]
        simp only [Head.extend, hread, close_append more hclose]
termination_by cs.length
decreasing_by
  all_goals omega

/-- Arms are read up to the same brace of a longer text. -/
theorem readsArms_append (levels : Nat) (inPlural : Bool) (seen : List String) (cs : List Char)
    (arms : List (String × List Node)) (rest : NotLonger cs)
    (h : options levels inPlural seen cs = .ok (arms, rest)) (hrest : '\x7d' ∈ rest.1)
    (more : List Char) :
    ReadsArms levels inPlural seen (cs ++ more) arms (rest.1 ++ more) := by
  rw [options] at h
  simp only at h
  split at h
  · rename_i hend
    split at h <;> cases h
    rename_i hother
    have hcs := (skipBlanks_suffix cs).mem hrest
    have hstop : (Text.skipBlanks cs).head? = some '\x7d' := by
      have hne := List.ne_nil_of_mem hrest
      simpa [hne] using hend
    have hblank := skipBlanks_append_of_mem hcs more
    have hmore : (Text.skipBlanks (cs ++ more)).head? = some '\x7d' := by
      rw [hblank, List.head?_append, hstop]
      rfl
    rw [← hblank]
    exact readsArms_end (by simpa using hother) hmore
  split at h
  · cases h
  rename_i hselector
  split at h
  · cases h
  rename_i hnew
  split at h
  · cases h
  rename_i r1 h1 hopen
  split at h
  · cases h
  rename_i ns r2 h2 hmessage
  split at h
  · cases h
  rename_i r3 h3 hclose
  split at h <;> cases h
  rename_i tail r4 h4 harms
  have hcut := cutSelector_suffix (Text.skipBlanks cs)
  have hlt : r1.length < cs.length :=
    Nat.lt_of_lt_of_le h1
      ((skipBlanks_suffix _).trans (hcut.trans (skipBlanks_suffix cs))).length_le
  obtain rfl : '\x7d' :: r3 = r2 := cons_of_expect hclose
  -- The brace that closes the arm is behind everything that is read before it.
  have hr1 : '\x7d' ∈ r1 :=
    (message_sound levels inPlural true r1 ns ⟨_, h2⟩ hmessage).suffix.mem List.mem_cons_self
  have hafter := (skipBlanks_suffix _).mem ((suffix_of_expect hopen).mem hr1)
  have hblank := hcut.mem hafter
  have hcs := (skipBlanks_suffix cs).mem hblank
  have hread : cutSelector (Text.skipBlanks (cs ++ more)) =
      ((String.ofList (cutSelector (Text.skipBlanks cs)).1).toList,
        (cutSelector (Text.skipBlanks cs)).2 ++ more) := by
    rw [skipBlanks_append_of_mem hcs, cutSelector_append_of_mem more hblank, String.toList_ofList]
  have hbrace : Text.skipBlanks ((cutSelector (Text.skipBlanks cs)).2 ++ more) =
      '\x7b' :: (r1 ++ more) := by
    rw [skipBlanks_append_of_mem hafter, ← cons_of_expect hopen]
    rfl
  refine readsArms_arm hread ?_ (by simpa using hnew) hbrace
    (readsMessage_append levels inPlural true r1 ns ⟨_, h2⟩ hmessage List.mem_cons_self more)
    (readsArms_append levels inPlural _ r3 tail ⟨r4, h4⟩ harms hrest more)
  rw [String.toList_ofList]
  exact List.isEmpty_iff.not.1 hselector
termination_by cs.length
decreasing_by
  all_goals omega

end

end Polyglot.Message
