import Polyglot.Message.Failure
import Polyglot.Proofs.Message.Position
import Polyglot.Proofs.Message.Turn

/-!
# How a reading ends

The turns of the loops, one after the other, come to what the parser yields. Since there are never
more of them than twice the length of the text, the reading of every text ends: at its end, or with
a failure that was found at a place of it.
-/
namespace Polyglot.Message

/-! ## Runs of turns -/

namespace Turned

/-- Whether some turns lead to what is come to. -/
def LeadsTo (o u : Turned) : Prop := ∃ n, o.after n = u

theorem LeadsTo.refl (o : Turned) : o.LeadsTo o := ⟨0, rfl⟩

theorem LeadsTo.trans {o u v : Turned} (h : o.LeadsTo u) (hv : u.LeadsTo v) : o.LeadsTo v := by
  obtain ⟨m, rfl⟩ := h
  obtain ⟨n, rfl⟩ := hv
  exact ⟨m + n, after_add o m n⟩

theorem LeadsTo.turn {s : Reading} {o : Turned} (h : s.turn.LeadsTo o) : (goesOn s).LeadsTo o :=
  .trans ⟨1, rfl⟩ h

/-- What is come to when some part of a text was read and the reading goes on behind it. -/
def behind {cs : List Char} {α : Type} (go : List Char → Turned) :
    Except Failed (α × NotLonger cs) → Turned
  | .error e => .fails e
  | .ok (_, r) => go r.1

end Turned

open Turned (behind)

/-! ## Loops through characters -/

section Characters

variable (depth : Nat) (outer : List Loop) (cs : List Char)

theorem leadsTo_quote :
    (Turned.goesOn ⟨cs, depth, .quote, outer⟩).LeadsTo (leave depth outer (quotedRun cs).2) := by
  fun_induction quotedRun cs with
  | case1 => exact .turn (.refl _)
  | case2 r q t heq ih =>
    rw [heq] at ih
    exact .turn ih
  | case3 r hr =>
    have hturn : turnQuote depth outer ('\'' :: r) = leave depth outer r := by
      rw [turnQuote]
      exact hr
    refine .turn ?_
    change (turnQuote depth outer ('\'' :: r)).LeadsTo _
    rw [hturn]
    exact .refl _
  | case4 c r hpair hc q t heq ih =>
    rw [heq] at ih
    have hturn : turnQuote depth outer (c :: r) = .goesOn ⟨r, depth, .quote, outer⟩ := by
      rw [turnQuote]
      · exact hpair
      · exact hc
    refine .turn ?_
    change (turnQuote depth outer (c :: r)).LeadsTo _
    rw [hturn]
    exact ih

theorem leadsTo_style (start : List Char) (braces : Nat) :
    (Turned.goesOn ⟨cs, depth, .style start braces, outer⟩).LeadsTo
      (leaveStyle depth outer start (cutStyle braces cs).2) := by
  fun_induction cutStyle braces cs with
  | case1 => exact .turn (.refl _)
  | case2 braces r s t heq ih =>
    rw [heq] at ih
    exact .turn ih
  | case3 => exact .turn (.refl _)
  | case4 r b s t heq hopen ih =>
    rw [heq] at ih
    exact .turn ih
  | case5 braces c r hopen hclose s t heq ih =>
    rw [heq] at ih
    have hturn : turnStyle depth outer start braces (c :: r) =
        .goesOn ⟨r, depth, .style start braces, outer⟩ := by
      simp only [turnStyle, if_neg hopen, if_neg hclose]
    refine .turn ?_
    change (turnStyle depth outer start braces (c :: r)).LeadsTo _
    rw [hturn]
    exact ih

theorem leadsTo_apostrophe (inPlural nested : Bool) :
    (turnApostrophe depth outer inPlural nested cs).LeadsTo
      (.goesOn ⟨(quoted inPlural cs).2, depth, .message inPlural nested, outer⟩) := by
  cases cs with
  | nil => exact .refl _
  | cons c r =>
    rw [turnApostrophe, quoted]
    split
    · exact .refl _
    · split
      · exact leadsTo_quote depth (.message inPlural nested :: outer) (c :: r)
      · exact .refl _

end Characters

/-! ## Messages, arguments and arms -/

/-- What is cut as a style and the rest are the text. -/
theorem append_cutStyle (braces : Nat) (cs : List Char) :
    (cutStyle braces cs).1 ++ (cutStyle braces cs).2 = cs := by
  fun_induction cutStyle braces cs <;> simp_all

/-- The text of a style is what was read since its beginning, so its turns lead on as it does. -/
theorem leaveStyle_eq (depth : Nat) (outer : List Loop) (r : List Char) :
    leaveStyle depth outer r (cutStyle 0 r).2 =
      behind (leaveArgument depth outer) (style (',' :: r)) := by
  rw [leaveStyle, take_length_sub (append_cutStyle 0 r).symm, style]
  split <;> rfl

/-- The turns of a style lead where reading it leads. -/
theorem leadsTo_styled (depth : Nat) (outer : List Loop) (cs : List Char) :
    (enterArgument depth outer .number cs).LeadsTo
      (behind (leaveArgument depth outer) (style cs)) := by
  simp only [enterArgument]
  split
  · rename_i r
    rw [← leaveStyle_eq]
    exact leadsTo_style depth outer r r 0
  · rename_i hcomma
    rw [style]
    · exact .refl _
    · exact hcomma

-- The parser counts the levels that are left, a reading the arguments that are open. The loops
-- around are arbitrary: a loop comes back to them as the parser returns.
mutual

/-- The turns of a message lead where reading it leads. -/
theorem leadsTo_message (levels depth : Nat) (hlevels : levels + depth = maxNesting)
    (outer : List Loop) (inPlural nested : Bool) (cs : List Char) :
    (Turned.goesOn ⟨cs, depth, .message inPlural nested, outer⟩).LeadsTo
      (behind (leave depth outer) (message levels inPlural nested cs)) := by
  refine .turn ?_
  change (turnMessage depth outer inPlural nested cs).LeadsTo _
  match cs with
  | [] =>
    rw [turnMessage, message]
    exact .refl _
  | c :: r =>
    rw [turnMessage, message]
    by_cases hopen : c = '\x7b'
    · rw [if_pos hopen, if_pos hopen]
      refine (leadsTo_argument levels depth hlevels _ r).trans ?_
      cases argument levels r with
      | error e => exact .refl _
      | ok p =>
        obtain ⟨n, r1, h1⟩ := p
        refine (leadsTo_message levels depth hlevels outer inPlural nested r1).trans ?_
        simp only
        cases message levels inPlural nested r1 <;> exact .refl _
    rw [if_neg hopen, if_neg hopen]
    by_cases hclose : c = '\x7d'
    · rw [if_pos hclose, if_pos hclose]
      split <;> exact .refl _
    rw [if_neg hclose, if_neg hclose]
    have hplain : (Turned.goesOn ⟨r, depth, .message inPlural nested, outer⟩).LeadsTo
        (behind (leave depth outer) (message levels inPlural nested r)) :=
      leadsTo_message levels depth hlevels outer inPlural nested r
    by_cases hpound : (inPlural && c == '#') = true
    · have hquote : c ≠ '\'' := by
        rintro rfl
        simp at hpound
      rw [if_pos hpound, if_neg hquote]
      refine hplain.trans ?_
      cases message levels inPlural nested r <;> exact .refl _
    rw [if_neg hpound]
    by_cases hquote : c = '\''
    · rw [if_pos hquote, if_pos hquote]
      have hlength := length_quoted_le inPlural r
      refine (leadsTo_apostrophe depth outer r inPlural nested).trans ?_
      refine (leadsTo_message levels depth hlevels outer inPlural nested
        (quoted inPlural r).2).trans ?_
      simp only
      cases message levels inPlural nested (quoted inPlural r).2 <;> exact .refl _
    · rw [if_neg hquote, if_neg hquote]
      refine hplain.trans ?_
      cases message levels inPlural nested r <;> exact .refl _
termination_by cs.length
decreasing_by
  all_goals
    simp only [List.length_cons]
    omega

/-- The turns of an argument lead where reading it leads. -/
theorem leadsTo_argument (levels depth : Nat) (hlevels : levels + depth = maxNesting)
    (outer : List Loop) (cs : List Char) :
    (openArgument depth outer cs).LeadsTo (behind (leave depth outer) (argument levels cs)) := by
  match levels with
  | 0 =>
    have hdepth : maxNesting < depth + 1 := by omega
    rw [openArgument, if_pos hdepth, argument]
    exact .refl _
  | inner + 1 =>
    have hdepth : ¬maxNesting < depth + 1 := by omega
    rw [openArgument, if_neg hdepth, argument]
    cases head cs with
    | error e => exact .refl _
    | ok p =>
      match p with
      | .simple name ⟨r, h⟩ => exact .refl _
      | .typed name (.plural ordinal) ⟨r, h⟩ =>
        simp only [enterArgument]
        cases expect ',' r with
        | error e => exact .refl _
        | ok p =>
          obtain ⟨r1, h1⟩ := p
          have hlength := Text.length_skipBlanks_le r1
          simp only
          cases offset (Text.skipBlanks r1) with
          | error e => exact .refl _
          | ok p =>
            obtain ⟨n, r2, h2⟩ := p
            refine (leadsTo_options inner (depth + 1) (by omega) outer true [] r2).trans ?_
            simp only
            cases options inner true [] r2 with
            | error e => exact .refl _
            | ok p =>
              obtain ⟨arms, r3, h3⟩ := p
              simp only [behind, leaveArgument]
              cases close r3 <;> exact .refl _
      | .typed name .select ⟨r, h⟩ =>
        simp only [enterArgument]
        cases expect ',' r with
        | error e => exact .refl _
        | ok p =>
          obtain ⟨r1, h1⟩ := p
          refine (leadsTo_options inner (depth + 1) (by omega) outer false [] r1).trans ?_
          simp only
          cases options inner false [] r1 with
          | error e => exact .refl _
          | ok p =>
            obtain ⟨arms, r2, h2⟩ := p
            simp only [behind, leaveArgument]
            cases close r2 <;> exact .refl _
      | .typed name .number ⟨r, h⟩ | .typed name (.moment _) ⟨r, h⟩ =>
        refine (leadsTo_styled (depth + 1) outer r).trans ?_
        simp only
        cases style r with
        | error e => exact .refl _
        | ok p =>
          obtain ⟨s, r1, h1⟩ := p
          simp only [behind, leaveArgument]
          cases close r1 <;> exact .refl _
termination_by cs.length
decreasing_by
  all_goals omega

/-- The turns of arms lead where reading them leads. -/
theorem leadsTo_options (levels depth : Nat) (hlevels : levels + depth = maxNesting)
    (outer : List Loop) (inPlural : Bool) (seen : List String) (cs : List Char) :
    (Turned.goesOn ⟨cs, depth, .arms inPlural seen, outer⟩).LeadsTo
      (behind (leaveArgument depth outer) (options levels inPlural seen cs)) := by
  have hblank := Text.length_skipBlanks_le cs
  have hcut := length_cutSelector_le (Text.skipBlanks cs)
  have hafter := Text.length_skipBlanks_le (cutSelector (Text.skipBlanks cs)).2
  refine .turn ?_
  change (turnArms depth outer inPlural seen cs).LeadsTo _
  rw [turnArms, options]
  simp only
  split
  · split <;> exact .refl _
  split
  · exact .refl _
  split
  · exact .refl _
  cases expect '\x7b' (Text.skipBlanks (cutSelector (Text.skipBlanks cs)).2) with
  | error e => exact .refl _
  | ok p =>
    obtain ⟨r1, h1⟩ := p
    refine (leadsTo_message levels depth hlevels _ inPlural true r1).trans ?_
    simp only
    cases message levels inPlural true r1 with
    | error e => exact .refl _
    | ok p =>
      obtain ⟨nodes, r2, h2⟩ := p
      simp only [behind, leave]
      cases expect '\x7d' r2 with
      | error e => exact .refl _
      | ok p =>
        obtain ⟨r3, h3⟩ := p
        refine (leadsTo_options levels depth hlevels outer inPlural _ r3).trans ?_
        simp only
        cases options levels inPlural _ r3 <;> exact .refl _
termination_by cs.length
decreasing_by
  all_goals omega

end

/-! ## Whole texts -/

/-- Only an arm ends before the text does. -/
theorem rest_of_message (levels : Nat) (inPlural : Bool) (cs : List Char) (nodes : List Node)
    (rest : NotLonger cs) (h : message levels inPlural false cs = .ok (nodes, rest)) :
    rest.1 = [] := by
  match cs with
  | [] =>
    rw [message] at h
    cases h
    rfl
  | c :: r =>
    rw [message] at h
    split at h
    · split at h
      · cases h
      · rename_i n r1 h1 hn
        split at h <;> cases h
        rename_i ns r2 h2 hns
        exact rest_of_message levels inPlural r1 ns ⟨r2, h2⟩ hns
    split at h
    · cases h
    split at h
    · split at h <;> cases h
      rename_i ns r1 h1 hns
      exact rest_of_message levels inPlural r ns ⟨r1, h1⟩ hns
    split at h
    · simp only at h
      have hlength := length_quoted_le inPlural r
      split at h <;> cases h
      rename_i ns r1 h1 hns
      exact rest_of_message levels inPlural (quoted inPlural r).2 ns ⟨r1, h1⟩ hns
    · split at h <;> cases h
      rename_i ns r1 h1 hns
      exact rest_of_message levels inPlural r ns ⟨r1, h1⟩ hns
termination_by cs.length
decreasing_by
  all_goals
    simp only [List.length_cons]
    omega

/-- A reading that is over stays as it is. -/
theorem after_of_over {o : Turned} (h : ∀ s, o ≠ .goesOn s) (n : Nat) : o.after n = o := by
  induction n with
  | zero => rfl
  | succ n ih =>
    rw [Turned.after, ih]
    cases o with
    | goesOn s => exact absurd rfl (h s)
    | ends | fails => rfl

/-- What a reading comes to at any time when it is over is what it comes to. -/
theorem turned_eq_of_leadsTo {source : String} {o : Turned} (hover : ∀ s, o ≠ .goesOn s)
    (h : (Turned.goesOn (.start source)).LeadsTo o) : turned source (2 * source.length + 1) = o := by
  obtain ⟨n, hn⟩ := h
  have hlast := after_of_over (turned_ne_goesOn source)
  have hsum : turned source (n + (2 * source.length + 1)) =
      turned source (2 * source.length + 1) := by
    rw [Nat.add_comm, turned, Turned.after_add]
    exact hlast n
  rw [← hsum, turned, Turned.after_add, hn, after_of_over hover]

/-- A failure with its position, unless the number of an offset is at fault. -/
theorem failure_of_isFoundIn {source : String} {e : Failed} (h : e.IsFoundIn source.toList) :
    let error : SyntaxError := ⟨e.fault, source.toList.length - e.left⟩
    error.failure source = .messageSyntax error.fault.text error.position source ∨
      HasUnreadableOffset (source.toList.drop error.position) := by
  intro error
  obtain ⟨rest, hrest, hleft, hoffset⟩ := h
  have hdrop : source.toList.drop error.position = rest := by
    have hrest' := List.suffix_iff_eq_drop.1 hrest
    rw [← hleft] at hrest'
    exact hrest'.symm
  cases hfault : e.fault with
  | offsetTooLong digits => exact .inr (hdrop ▸ hoffset digits hfault)
  | _ =>
    refine .inl ?_
    simp only [error, SyntaxError.failure, hfault]
    rfl

/-- The reading of every text ends, after no more turns than twice its length. Until then the
parser is at a place of the text, no more arguments are open than allowed, two loops wait at most
for each of them, and whenever it comes back to a loop that it has not left, less of the text is
left. In the end it has come to the end of the text, or it has failed at a place of the text, with
that place in the failure; only the number of an offset can be at fault in another way. -/
theorem reading_terminates (source : String) :
    (∀ n s, turned source n = .goesOn s →
      s.left <:+ source.toList ∧
      s.depth = (s.loop :: s.outer).countP Loop.isArgument ∧
      s.depth ≤ maxNesting ∧
      s.outer.length ≤ 2 * maxNesting + 1 ∧
      ∀ k t, turned source (n + (k + 1)) = .goesOn t → s.outer.length ≤ t.outer.length →
        t.left.length < s.left.length) ∧
    ((∃ nodes, parse source = .ok nodes ∧ turned source (2 * source.length + 1) = .ends []) ∨
      ∃ e, parse source = .error e ∧
        turned source (2 * source.length + 1) = .fails ⟨e.fault, source.length - e.position⟩ ∧
        e.position ≤ source.length ∧
        (e.failure source = .messageSyntax e.fault.text e.position source ∨
          HasUnreadableOffset (source.toList.drop e.position))) := by
  constructor
  · intro n s hs
    have hreached := isReached_of_turned hs
    have hheight := hreached.nested.length_outer_le
    have hdepth := hreached.depth_le
    refine ⟨hreached.suffix, hreached.nested.countP_isArgument.symm, hdepth, by omega, ?_⟩
    intro k t ht houter
    rw [turned, Turned.after_add] at ht
    rw [turned] at hs
    rw [hs] at ht
    obtain ⟨-, hless⟩ := shorter_or_left_of_after ht
    exact hless.resolve_right (by omega)
  · have hread := leadsTo_message maxNesting 0 rfl [] false false source.toList
    cases hmessage : message maxNesting false false source.toList with
    | ok p =>
      obtain ⟨nodes, rest⟩ := p
      rw [hmessage] at hread
      have hrest := rest_of_message maxNesting false source.toList nodes rest hmessage
      refine .inl ⟨nodes, parse_eq_ok_iff.2 ⟨rest, hmessage⟩, ?_⟩
      rw [← hrest]
      exact turned_eq_of_leadsTo nofun hread
    | error e =>
      rw [hmessage] at hread
      have hfound := isFoundIn_of_message maxNesting false false source.toList e hmessage
      have hleft := hfound.left_le
      have hlength := String.length_toList (s := source)
      have hposition := (Nat.sub_le source.toList.length e.left).trans_eq hlength
      refine .inr ⟨_, parse_eq_error hmessage, ?_, hposition, failure_of_isFoundIn hfound⟩
      have hback : source.length - (source.toList.length - e.left) = e.left := by omega
      rw [hback]
      exact turned_eq_of_leadsTo nofun hread

/-- A quoted run and an arm that are both left open. -/
example : turned "\x7bn, select, other \x7b'\x7d" 6 = .fails ⟨.charExpected '\x7d', 0⟩ := by
  decide +kernel

end Polyglot.Message
