import Polyglot.Message.Turn
import Polyglot.Proofs.Message.ReadLexeme

/-!
# Turns that lead on

A turn reads something or leaves its loop. Each time the reading comes back to a loop that it has not
left, less of the text is left, and it has no more turns than twice the length of its text. The loops
that wait for each other are nested as the arguments are, which are never more than allowed.
-/
namespace Polyglot.Message

/-! ## Places of a text -/

/-- Whether something was read from the front of a text. -/
structure IsBehind (cs r : List Char) : Prop where
  suffix : r <:+ cs
  shorter : r.length < cs.length

namespace IsBehind

variable {cs r : List Char}

theorem cons (c : Char) (cs : List Char) : IsBehind (c :: cs) cs :=
  ⟨List.suffix_cons c cs, Nat.lt_succ_self _⟩

theorem trans_suffix {u : List Char} (h : IsBehind cs r) (hu : u <:+ r) : IsBehind cs u :=
  ⟨hu.trans h.suffix, Nat.lt_of_le_of_lt hu.length_le h.shorter⟩

theorem of_expect {c : Char} {r : Shorter cs} (h : expect c cs = .ok r) : IsBehind cs r.1 :=
  ⟨suffix_of_expect h, r.2⟩

end IsBehind

/-! ## One turn -/

/-- Whether the loop belongs to an argument of its own. -/
def Loop.isArgument : Loop → Bool
  | arms .. | style .. => true
  | _ => false

/-- Where a turn leads: further in the same loop, into a loop inside it, or back to the one around
it. -/
inductive Leads : Reading → Reading → Prop
  | message {cs r depth outer inPlural nested} (hr : IsBehind cs r) :
      Leads ⟨cs, depth, .message inPlural nested, outer⟩
        ⟨r, depth, .message inPlural nested, outer⟩
  | quote {cs r depth outer} (hr : IsBehind cs r) :
      Leads ⟨cs, depth, .quote, outer⟩ ⟨r, depth, .quote, outer⟩
  | style {cs r depth outer start before after} (hr : IsBehind cs r) :
      Leads ⟨cs, depth, .style start before, outer⟩ ⟨r, depth, .style start after, outer⟩
  | toQuote {cs r depth outer inPlural nested} (hr : IsBehind cs r) :
      Leads ⟨cs, depth, .message inPlural nested, outer⟩
        ⟨r, depth, .quote, .message inPlural nested :: outer⟩
  | toArms {cs r depth outer inPlural nested choice} (hr : IsBehind cs r)
      (hdepth : depth < maxNesting) :
      Leads ⟨cs, depth, .message inPlural nested, outer⟩
        ⟨r, depth + 1, .arms choice [], .message inPlural nested :: outer⟩
  | toStyle {cs r depth outer inPlural nested} (hr : IsBehind cs r) (hdepth : depth < maxNesting) :
      Leads ⟨cs, depth, .message inPlural nested, outer⟩
        ⟨r, depth + 1, .style r 0, .message inPlural nested :: outer⟩
  | toArm {cs r depth outer inPlural seen selector} (hr : IsBehind cs r) :
      Leads ⟨cs, depth, .arms inPlural seen, outer⟩
        ⟨r, depth, .message inPlural true, .arms inPlural (selector :: seen) :: outer⟩
  | back {cs r depth loop next outer} (hr : r <:+ cs) :
      Leads ⟨cs, depth, loop, next :: outer⟩ ⟨r, depth - loop.isArgument.toNat, next, outer⟩

variable {cs r : List Char} {depth : Nat} {outer : List Loop} {s t : Reading}

theorem exists_of_leave (h : leave depth outer cs = .goesOn t) :
    ∃ r loop loops, r <:+ cs ∧ outer = loop :: loops ∧ t = ⟨r, depth, loop, loops⟩ := by
  unfold leave at h
  split at h
  · cases h
  · split at h <;> cases h
    rename_i hclose
    exact ⟨_, _, _, suffix_of_expect hclose, rfl, rfl⟩
  · cases h
    exact ⟨_, _, _, List.suffix_refl _, rfl, rfl⟩

theorem exists_of_leaveArgument (h : leaveArgument depth outer cs = .goesOn t) :
    ∃ r loop loops, r <:+ cs ∧ outer = loop :: loops ∧ t = ⟨r, depth - 1, loop, loops⟩ := by
  unfold leaveArgument at h
  split at h
  · cases h
  · rename_i r hr hclose
    obtain ⟨u, loop, loops, hu, houter, ht⟩ := exists_of_leave h
    exact ⟨u, loop, loops, hu.trans (close_suffix hclose).2, houter, ht⟩

theorem leads_of_leave {loop : Loop} (hloop : loop.isArgument = false) (hr : r <:+ cs)
    (h : leave depth outer r = .goesOn t) : Leads ⟨cs, depth, loop, outer⟩ t := by
  obtain ⟨u, next, loops, hu, rfl, rfl⟩ := exists_of_leave h
  have hback : Leads ⟨cs, depth, loop, next :: loops⟩
      ⟨u, depth - loop.isArgument.toNat, next, loops⟩ := .back (hu.trans hr)
  rw [hloop] at hback
  exact hback

theorem leads_of_leaveArgument {loop : Loop} (hloop : loop.isArgument = true) (hr : r <:+ cs)
    (h : leaveArgument depth outer r = .goesOn t) : Leads ⟨cs, depth, loop, outer⟩ t := by
  obtain ⟨u, next, loops, hu, rfl, rfl⟩ := exists_of_leaveArgument h
  have hback : Leads ⟨cs, depth, loop, next :: loops⟩
      ⟨u, depth - loop.isArgument.toNat, next, loops⟩ := .back (hu.trans hr)
  rw [hloop] at hback
  exact hback

section Message

variable {inPlural nested : Bool}

theorem leads_of_enterArgument {kind : Kind} (hdepth : depth < maxNesting) (hr : IsBehind cs r)
    (h : enterArgument (depth + 1) (.message inPlural nested :: outer) kind r = .goesOn t) :
    Leads ⟨cs, depth, .message inPlural nested, outer⟩ t := by
  unfold enterArgument at h
  split at h
  · split at h
    · cases h
    · rename_i r1 h1 hcomma
      split at h <;> cases h
      rename_i hoffset
      exact .toArms (hr.trans_suffix ((offset_suffix hoffset).trans
        ((skipBlanks_suffix r1).trans (suffix_of_expect hcomma)))) hdepth
  · split at h <;> cases h
    rename_i hcomma
    exact .toArms (hr.trans_suffix (suffix_of_expect hcomma)) hdepth
  all_goals
    split at h
    · cases h
      exact .toStyle (hr.trans_suffix (List.suffix_cons _ _)) hdepth
    · obtain ⟨u, loop, loops, hu, houter, rfl⟩ := exists_of_leaveArgument h
      cases houter
      exact .message (hr.trans_suffix hu)

theorem leads_of_openArgument (hr : IsBehind cs r)
    (h : openArgument depth (.message inPlural nested :: outer) r = .goesOn t) :
    Leads ⟨cs, depth, .message inPlural nested, outer⟩ t := by
  unfold openArgument at h
  split at h
  · cases h
  rename_i hdepth
  split at h
  · cases h
  · rename_i hhead
    cases h
    exact .message (hr.trans_suffix (head_sound hhead).2.1)
  · rename_i hhead
    exact leads_of_enterArgument (by omega) (hr.trans_suffix (head_sound hhead).2) h

theorem leads_of_turnApostrophe (hr : IsBehind cs r)
    (h : turnApostrophe depth outer inPlural nested r = .goesOn t) :
    Leads ⟨cs, depth, .message inPlural nested, outer⟩ t := by
  unfold turnApostrophe at h
  split at h
  · cases h
    exact .message hr
  split at h
  · cases h
    exact .message (hr.trans_suffix (List.suffix_cons _ _))
  · split at h <;> cases h
    · exact .toQuote hr
    · exact .message hr

theorem leads_of_turnMessage (h : turnMessage depth outer inPlural nested cs = .goesOn t) :
    Leads ⟨cs, depth, .message inPlural nested, outer⟩ t := by
  unfold turnMessage at h
  split at h
  · exact leads_of_leave rfl (List.suffix_refl _) h
  · rename_i c r
    have hr := IsBehind.cons c r
    split at h
    · exact leads_of_openArgument hr h
    split at h
    · split at h
      · exact leads_of_leave rfl (List.suffix_refl _) h
      · cases h
    split at h
    · exact leads_of_turnApostrophe hr h
    · cases h
      exact .message hr

end Message

theorem leads_of_turnQuote (h : turnQuote depth outer cs = .goesOn t) :
    Leads ⟨cs, depth, .quote, outer⟩ t := by
  unfold turnQuote at h
  split at h
  · exact leads_of_leave rfl (List.suffix_refl _) h
  · cases h
    exact .quote ((IsBehind.cons _ _).trans_suffix (List.suffix_cons _ _))
  · exact leads_of_leave rfl (List.suffix_cons _ _) h
  · cases h
    exact .quote (.cons _ _)

theorem leads_of_turnArms {inPlural : Bool} {seen : List String}
    (h : turnArms depth outer inPlural seen cs = .goesOn t) :
    Leads ⟨cs, depth, .arms inPlural seen, outer⟩ t := by
  have hblank := skipBlanks_suffix cs
  have hcut := (cutSelector_suffix (Text.skipBlanks cs)).trans hblank
  simp only [turnArms] at h
  split at h
  · split at h
    · exact leads_of_leaveArgument rfl hblank h
    · cases h
  split at h
  · cases h
  split at h
  · cases h
  split at h <;> cases h
  rename_i r hlength hopen
  have hr := IsBehind.of_expect hopen
  have hstart := (skipBlanks_suffix _).trans hcut
  exact .toArm ⟨hr.suffix.trans hstart, Nat.lt_of_lt_of_le hr.shorter hstart.length_le⟩

theorem leads_of_turnStyle {start : List Char} {braces : Nat}
    (h : turnStyle depth outer start braces cs = .goesOn t) :
    Leads ⟨cs, depth, .style start braces, outer⟩ t := by
  have hleave : ∀ {u}, leaveStyle depth outer start u = .goesOn t → u <:+ cs →
      Leads ⟨cs, depth, .style start braces, outer⟩ t := by
    intro u hu hcs
    unfold leaveStyle at hu
    split at hu
    · cases hu
    · exact leads_of_leaveArgument rfl hcs hu
  unfold turnStyle at h
  split at h
  · exact hleave h List.nil_suffix
  · split at h
    · cases h
      exact .style (.cons _ _)
    split at h
    · split at h
      · exact hleave h (List.suffix_refl _)
      · cases h
        exact .style (.cons _ _)
    · cases h
      exact .style (.cons _ _)

/-- Each turn leads to one of these places, if the reading is not over. -/
theorem leads_of_turn (h : s.turn = .goesOn t) : Leads s t := by
  obtain ⟨cs, depth, loop, outer⟩ := s
  cases loop with
  | message inPlural nested => exact leads_of_turnMessage h
  | quote => exact leads_of_turnQuote h
  | arms inPlural seen => exact leads_of_turnArms h
  | style start braces => exact leads_of_turnStyle h

/-! ## Progress -/

/-- Twice what is left of the text, and the loops that wait: no more turns are to come. -/
def Reading.cost (s : Reading) : Nat := 2 * s.left.length + s.outer.length

namespace Leads

theorem suffix (h : Leads s t) : t.left <:+ s.left := by
  cases h with
  | back hr => exact hr
  | message hr | quote hr | style hr | toQuote hr | toArms hr | toStyle hr | toArm hr =>
    exact hr.suffix

theorem shorter_or_left (h : Leads s t) :
    t.left.length < s.left.length ∨ t.outer.length < s.outer.length := by
  cases h with
  | back => exact .inr (Nat.lt_succ_self _)
  | message hr | quote hr | style hr | toQuote hr | toArms hr | toStyle hr | toArm hr =>
    exact .inl hr.shorter

theorem cost_lt (h : Leads s t) : t.cost < s.cost := by
  have hle := h.suffix.length_le
  cases h with
  | back =>
    simp only [Reading.cost, List.length_cons] at hle ⊢
    omega
  | message hr | quote hr | style hr | toQuote hr | toArms hr | toStyle hr | toArm hr =>
    have hlt := hr.shorter
    simp only [Reading.cost, List.length_cons]
    omega

end Leads

/-! ## Nesting -/

/-- How loops are nested when a number of arguments is open, the innermost loop first. -/
inductive AreNested : Nat → List Loop → Prop
  | outermost : AreNested 0 [.message false false]
  | quote {depth inPlural nested outer} (h : AreNested depth (.message inPlural nested :: outer)) :
      AreNested depth (.quote :: .message inPlural nested :: outer)
  | arms {depth inPlural nested choice seen outer}
      (h : AreNested depth (.message inPlural nested :: outer)) :
      AreNested (depth + 1) (.arms choice seen :: .message inPlural nested :: outer)
  | style {depth inPlural nested start braces outer}
      (h : AreNested depth (.message inPlural nested :: outer)) :
      AreNested (depth + 1) (.style start braces :: .message inPlural nested :: outer)
  | arm {depth inPlural seen outer} (h : AreNested depth (.arms inPlural seen :: outer)) :
      AreNested depth (.message inPlural true :: .arms inPlural seen :: outer)

namespace AreNested

variable {loops : List Loop}

theorem countP_isArgument (h : AreNested depth loops) : loops.countP Loop.isArgument = depth := by
  induction h with
  | outermost => rfl
  | quote _ ih | arm _ ih => rw [List.countP_cons_of_neg Bool.false_ne_true, ih]
  | arms _ ih | style _ ih => rw [List.countP_cons_of_pos rfl, ih]

/-- Two loops wait for each message in an arm: that through the arms, and that of the message which
the argument is a part of. -/
theorem length_outer_message {depth : Nat} {inPlural nested : Bool} {outer : List Loop}
    (h : AreNested depth (.message inPlural nested :: outer)) : outer.length = 2 * depth := by
  match depth, outer, h with
  | _, _, .outermost => rfl
  | _, _, .arm (.arms h) =>
    have := length_outer_message h
    simp only [List.length_cons]
    omega

theorem length_outer_le {loop : Loop} (h : AreNested depth (loop :: outer)) :
    outer.length ≤ 2 * depth + 1 := by
  cases h with
  | outermost => exact Nat.zero_le _
  | arm h => exact Nat.le_succ_of_le (length_outer_message (.arm h)).le
  | quote h | arms h | style h =>
    have := length_outer_message h
    simp only [List.length_cons]
    omega

theorem next (h : AreNested s.depth (s.loop :: s.outer)) (hlead : Leads s t) :
    AreNested t.depth (t.loop :: t.outer) := by
  cases hlead with
  | message | quote => exact h
  | style =>
    cases h with
    | style h => exact .style h
  | toQuote => exact .quote h
  | toArms => exact .arms h
  | toStyle => exact .style h
  | toArm =>
    cases h with
    | arms h => exact .arm (.arms h)
  | back =>
    cases h with
    | quote h | arms h | style h | arm h => exact h

end AreNested

theorem Leads.depth_le (h : Leads s t) (hs : s.depth ≤ maxNesting) : t.depth ≤ maxNesting := by
  cases h with
  | message | quote | style | toQuote | toArm => exact hs
  | toArms _ hdepth | toStyle _ hdepth => exact hdepth
  | back => exact (Nat.sub_le _ _).trans hs

/-! ## Many turns -/

namespace Turned

theorem after_add (o : Turned) (m n : Nat) : o.after (m + n) = (o.after m).after n := by
  induction n with
  | zero => rfl
  | succ n ih => rw [← Nat.add_assoc, after, after, ih]

/-- A reading that still goes on has gone on in every turn. -/
theorem exists_of_after_succ {o : Turned} {n : Nat} (h : o.after (n + 1) = .goesOn t) :
    ∃ s, o.after n = .goesOn s ∧ s.turn = .goesOn t := by
  rw [after] at h
  cases hn : o.after n with
  | goesOn s =>
    rw [hn] at h
    exact ⟨s, rfl, h⟩
  | ends | fails =>
    rw [hn] at h
    cases h

end Turned

/-- Some turns leave less of the text, those of inner loops included, or the loop at work is left. -/
theorem shorter_or_left_of_after {k : Nat} (h : (Turned.goesOn s).after (k + 1) = .goesOn t) :
    t.left <:+ s.left ∧
      (t.left.length < s.left.length ∨ t.outer.length < s.outer.length) := by
  induction k generalizing t with
  | zero =>
    have hlead := leads_of_turn h
    exact ⟨hlead.suffix, hlead.shorter_or_left⟩
  | succ k ih =>
    obtain ⟨u, hu, hturn⟩ := Turned.exists_of_after_succ h
    have hlead := leads_of_turn hturn
    obtain ⟨hsuffix, hless⟩ := ih hu
    have hle := hsuffix.length_le
    have hle' := hlead.suffix.length_le
    have hless' := hlead.shorter_or_left
    -- where nothing was read all along, every turn has left a loop
    exact ⟨hlead.suffix.trans hsuffix, by omega⟩

/-- What is true of a reading that has come so far. -/
structure IsReached (source : String) (n : Nat) (s : Reading) : Prop where
  suffix : s.left <:+ source.toList
  nested : AreNested s.depth (s.loop :: s.outer)
  depth_le : s.depth ≤ maxNesting
  cost_le : n + s.cost ≤ 2 * source.length

theorem isReached_of_turned {source : String} {n : Nat} (h : turned source n = .goesOn s) :
    IsReached source n s := by
  induction n generalizing s with
  | zero =>
    cases h
    have hcost : 0 + (Reading.start source).cost ≤ 2 * source.length := by
      simp [Reading.cost, Reading.start, String.length_toList]
    exact ⟨List.suffix_refl _, .outermost, Nat.zero_le _, hcost⟩
  | succ n ih =>
    obtain ⟨u, hu, hturn⟩ := Turned.exists_of_after_succ h
    have hlead := leads_of_turn hturn
    have hreached := ih hu
    have hcost := hlead.cost_lt
    have hle := hreached.cost_le
    exact ⟨hlead.suffix.trans hreached.suffix, hreached.nested.next hlead,
      hlead.depth_le hreached.depth_le, by omega⟩

/-- No reading has more turns than twice the length of its text. -/
theorem turned_ne_goesOn (source : String) (s : Reading) :
    turned source (2 * source.length + 1) ≠ .goesOn s := by
  intro h
  have := (isReached_of_turned h).cost_le
  omega

end Polyglot.Message
