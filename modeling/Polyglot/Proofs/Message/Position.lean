import Polyglot.Proofs.Message.Parsed

/-!
# Positions of failures

A failure is found at a place of the text that is read: no more characters can be left than there
were. An offset with too many digits stands where it is found.
-/
namespace Polyglot.Message

/-! ## Places of a text -/

/-- Whether a text begins with an offset whose digits cannot be read as a number. -/
def HasUnreadableOffset (cs : List Char) : Prop :=
  ∃ ds r fault, cutOffset? cs = some (ds, r) ∧ Literal.natOfDigits ds = .error fault

/-- Whether a failure was found at a place of a text. -/
def Failed.IsFoundIn (cs : List Char) (e : Failed) : Prop :=
  ∃ rest, rest <:+ cs ∧ e.left = rest.length ∧
    ∀ digits, e.fault = .offsetTooLong digits → HasUnreadableOffset rest

variable {cs rest : List Char} {e : Failed}

namespace Failed.IsFoundIn

theorem mono (h : e.IsFoundIn rest) (hrest : rest <:+ cs) : e.IsFoundIn cs := by
  obtain ⟨r, hr, hleft, hoffset⟩ := h
  exact ⟨r, hr.trans hrest, hleft, hoffset⟩

theorem left_le (h : e.IsFoundIn cs) : e.left ≤ cs.length := by
  obtain ⟨rest, hrest, hleft, -⟩ := h
  exact hleft ▸ hrest.length_le

/-- A fault of the grammar. -/
theorem of_suffix {fault : SyntaxFault} (hrest : rest <:+ cs)
    (hfault : ∀ digits, fault ≠ .offsetTooLong digits) : IsFoundIn cs ⟨fault, rest.length⟩ :=
  ⟨rest, hrest, rfl, fun digits h => absurd h (hfault digits)⟩

end Failed.IsFoundIn

open Failed (IsFoundIn)

/-! ## Parts of arguments -/

theorem isFoundIn_of_expect {c : Char} (h : expect c cs = .error e) : e.IsFoundIn cs := by
  unfold expect at h
  split at h
  · cases h
    exact .of_suffix List.nil_suffix (by simp)
  · split at h <;> cases h
    exact .of_suffix (List.suffix_refl _) (by simp)

theorem isFoundIn_of_close (h : close cs = .error e) : e.IsFoundIn cs := by
  unfold close at h
  split at h <;> cases h
  rename_i hread
  exact (isFoundIn_of_expect hread).mono (skipBlanks_suffix cs)

theorem isFoundIn_of_style (h : style cs = .error e) : e.IsFoundIn cs := by
  unfold style at h
  split at h
  · rename_i r
    simp only at h
    split at h <;> cases h
    exact .of_suffix ((cutStyle_suffix 0 r).trans (List.suffix_cons _ _)) (by simp)
  · cases h

theorem isFoundIn_of_offset (h : offset cs = .error e) : e.IsFoundIn cs := by
  unfold offset at h
  split at h
  · cases h
  · rename_i ds r hcut
    split at h <;> cases h
    rename_i fault hdigits
    exact ⟨cs, List.suffix_refl _, rfl, fun _ _ => ⟨ds, r, fault, hcut, hdigits⟩⟩

theorem isFoundIn_of_kind (h : kind cs = .error e) : e.IsFoundIn cs := by
  have hstart := skipBlanks_suffix cs
  simp only [kind] at h
  split at h
  · cases h
    exact .of_suffix hstart (by simp)
  · split at h <;> cases h
    exact .of_suffix ((skipBlanks_suffix _).trans ((List.dropWhile_suffix _).trans hstart)) (by simp)

theorem isFoundIn_of_head (h : head cs = .error e) : e.IsFoundIn cs := by
  have hstart := skipBlanks_suffix cs
  have hrest := (skipBlanks_suffix _).trans ((List.dropWhile_suffix isNameChar).trans hstart)
  rw [head] at h
  split at h
  · cases h
    exact .of_suffix hstart (by simp)
  · split at h
    · cases h
      exact .of_suffix List.nil_suffix (by simp)
    · rename_i c r hcons
      rw [hcons] at hrest
      split at h
      · cases h
      · simp only at h
        split at h
        · split at h <;> cases h
          rename_i hkind
          exact (isFoundIn_of_kind hkind).mono ((List.suffix_cons c r).trans hrest)
        · cases h
          exact .of_suffix hrest (by simp)

/-! ## Messages -/

mutual

/-- A message fails at a place of its text. -/
theorem isFoundIn_of_message (levels : Nat) (inPlural nested : Bool) (cs : List Char) (e : Failed)
    (h : message levels inPlural nested cs = .error e) : e.IsFoundIn cs := by
  match cs with
  | [] =>
    rw [message] at h
    cases h
  | c :: r =>
    have hr := List.suffix_cons c r
    rw [message] at h
    split at h
    · split at h
      · rename_i hn
        cases h
        exact (isFoundIn_of_argument levels r _ hn).mono hr
      · rename_i n r1 h1 hn
        split at h <;> cases h
        rename_i hns
        have hr1 := (argument_sound levels r n ⟨r1, h1⟩ hn).suffix
        exact (isFoundIn_of_message levels inPlural nested r1 _ hns).mono (hr1.trans hr)
    split at h
    · split at h <;> cases h
      exact .of_suffix (List.suffix_refl _) (by simp)
    split at h
    · split at h <;> cases h
      rename_i hns
      exact (isFoundIn_of_message levels inPlural nested r _ hns).mono hr
    split at h
    · simp only at h
      have hquoted := quoted_suffix inPlural r
      have hlength := hquoted.length_le
      split at h <;> cases h
      rename_i hns
      exact (isFoundIn_of_message levels inPlural nested (quoted inPlural r).2 _ hns).mono
        (hquoted.trans hr)
    · split at h <;> cases h
      rename_i hns
      exact (isFoundIn_of_message levels inPlural nested r _ hns).mono hr
termination_by cs.length
decreasing_by
  all_goals
    simp only [List.length_cons]
    omega

/-- An argument fails at a place of its text. -/
theorem isFoundIn_of_argument (levels : Nat) (cs : List Char) (e : Failed)
    (h : argument levels cs = .error e) : e.IsFoundIn cs := by
  match levels with
  | 0 =>
    rw [argument] at h
    cases h
    exact .of_suffix (List.suffix_refl _) (by simp)
  | inner + 1 =>
    rw [argument] at h
    split at h
    · rename_i hhead
      cases h
      exact isFoundIn_of_head hhead
    · cases h
    · rename_i name ordinal r h0 hhead
      have hr := (head_sound hhead).2
      split at h
      · rename_i hcomma
        cases h
        exact (isFoundIn_of_expect hcomma).mono hr
      · rename_i r1 h1 hcomma
        have hstart := (skipBlanks_suffix r1).trans ((suffix_of_expect hcomma).trans hr)
        have hlength := Text.length_skipBlanks_le r1
        simp only at h
        split at h
        · rename_i hoffset
          cases h
          exact (isFoundIn_of_offset hoffset).mono hstart
        · rename_i k r2 h2 hoffset
          have hr2 := (offset_suffix hoffset).trans hstart
          split at h
          · rename_i harms
            cases h
            exact (isFoundIn_of_options inner true [] r2 _ harms).mono hr2
          · rename_i arms r3 h3 harms
            split at h <;> cases h
            rename_i hclose
            have hr3 := (options_sound inner true [] r2 arms ⟨r3, h3⟩ harms).suffix
            exact (isFoundIn_of_close hclose).mono (hr3.trans hr2)
    · rename_i name r h0 hhead
      have hr := (head_sound hhead).2
      split at h
      · rename_i hcomma
        cases h
        exact (isFoundIn_of_expect hcomma).mono hr
      · rename_i r1 h1 hcomma
        have hr1 := (suffix_of_expect hcomma).trans hr
        split at h
        · rename_i harms
          cases h
          exact (isFoundIn_of_options inner false [] r1 _ harms).mono hr1
        · rename_i arms r2 h2 harms
          split at h <;> cases h
          rename_i hclose
          have hr2 := (options_sound inner false [] r1 arms ⟨r2, h2⟩ harms).suffix
          exact (isFoundIn_of_close hclose).mono (hr2.trans hr1)
    · rename_i name r h0 hhead
      have hr := (head_sound hhead).2
      split at h
      · rename_i hstyle
        cases h
        exact (isFoundIn_of_style hstyle).mono hr
      · rename_i s r1 h1 hstyle
        split at h <;> cases h
        rename_i hclose
        exact (isFoundIn_of_close hclose).mono ((style_sound hstyle).1.trans hr)
    · rename_i name k r h0 hhead
      have hr := (head_sound hhead).2
      split at h
      · rename_i hstyle
        cases h
        exact (isFoundIn_of_style hstyle).mono hr
      · rename_i s r1 h1 hstyle
        split at h <;> cases h
        rename_i hclose
        exact (isFoundIn_of_close hclose).mono ((style_sound hstyle).1.trans hr)
termination_by cs.length
decreasing_by
  all_goals omega

/-- Arms fail at a place of their text. -/
theorem isFoundIn_of_options (levels : Nat) (inPlural : Bool) (seen : List String)
    (cs : List Char) (e : Failed) (h : options levels inPlural seen cs = .error e) :
    e.IsFoundIn cs := by
  have hblank := skipBlanks_suffix cs
  have hcut := (cutSelector_suffix (Text.skipBlanks cs)).trans hblank
  have hafter := (skipBlanks_suffix _).trans hcut
  have hlength := hafter.length_le
  rw [options] at h
  simp only at h
  split at h
  · split at h <;> cases h
    exact .of_suffix hblank (by simp)
  split at h
  · cases h
    exact .of_suffix hblank (by simp)
  split at h
  · cases h
    exact .of_suffix hcut (by simp)
  split at h
  · rename_i hopen
    cases h
    exact (isFoundIn_of_expect hopen).mono hafter
  rename_i r1 h1 hopen
  have hr1 := (suffix_of_expect hopen).trans hafter
  split at h
  · rename_i hmessage
    cases h
    exact (isFoundIn_of_message levels inPlural true r1 _ hmessage).mono hr1
  rename_i ns r2 h2 hmessage
  have hr2 := (message_sound levels inPlural true r1 ns ⟨r2, h2⟩ hmessage).suffix.trans hr1
  split at h
  · rename_i hclose
    cases h
    exact (isFoundIn_of_expect hclose).mono hr2
  rename_i r3 h3 hclose
  have hr3 := (suffix_of_expect hclose).trans hr2
  split at h <;> cases h
  rename_i harms
  exact (isFoundIn_of_options levels inPlural _ r3 _ harms).mono hr3
termination_by cs.length
decreasing_by
  all_goals omega

end

theorem left_le_of_message (levels : Nat) (inPlural nested : Bool) (cs : List Char) (e : Failed)
    (h : message levels inPlural nested cs = .error e) : e.left ≤ cs.length :=
  (isFoundIn_of_message levels inPlural nested cs e h).left_le

end Polyglot.Message
