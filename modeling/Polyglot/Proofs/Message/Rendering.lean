import Polyglot.Proofs.Message.Parsed

/-!
# Rendering parsed messages

Rendering a message that was parsed finds an arm for every value, and it comes to `#` only where
the number that it stands for is known.
-/
namespace Polyglot.Message

/-! ## Well-formed nodes at every depth -/

section EveryNode

variable {n : Node}

mutual

theorem exists_isWellFormed (inPlural : Bool) (ns : List Node) (h : AreWellFormed inPlural ns)
    (hn : n ∈ everyNode ns) : ∃ b, n.IsWellFormed b := by
  match ns with
  | [] =>
    rw [everyNode] at hn
    cases hn
  | m :: ns =>
    rw [AreWellFormed] at h
    rw [everyNode, List.mem_append] at hn
    rcases hn with hn | hn
    · exact exists_isWellFormed_node inPlural m h.1 hn
    · exact exists_isWellFormed inPlural ns h.2.2 hn

theorem exists_isWellFormed_node (inPlural : Bool) (m : Node) (h : m.IsWellFormed inPlural)
    (hn : n ∈ m.everyNode) : ∃ b, n.IsWellFormed b := by
  match m with
  | .select name arms =>
    rw [Node.everyNode, List.mem_cons] at hn
    rcases hn with rfl | hn
    · exact ⟨inPlural, h⟩
    · rw [Node.IsWellFormed] at h
      exact exists_isWellFormed_arms false arms h.2.2 hn
  | .plural name offset ordinal arms =>
    rw [Node.everyNode, List.mem_cons] at hn
    rcases hn with rfl | hn
    · exact ⟨inPlural, h⟩
    · rw [Node.IsWellFormed] at h
      exact exists_isWellFormed_arms true arms h.2.2 hn
  | .text _ | .argument .. | .pound | .number .. | .moment .. =>
    simp only [Node.everyNode, List.mem_singleton] at hn
    exact ⟨inPlural, hn ▸ h⟩

theorem exists_isWellFormed_arms (inPlural : Bool) (arms : List (String × List Node))
    (h : HaveWellFormedArms inPlural arms) (hn : n ∈ everyArmNode arms) :
    ∃ b, n.IsWellFormed b := by
  match arms with
  | [] =>
    rw [everyArmNode] at hn
    cases hn
  | (_, ns) :: arms =>
    rw [HaveWellFormedArms] at h
    rw [everyArmNode, List.mem_append] at hn
    rcases hn with hn | hn
    · exact exists_isWellFormed inPlural ns h.1 hn
    · exact exists_isWellFormed_arms inPlural arms h.2 hn

end

end EveryNode

/-- The characters of a selector are neither blanks nor braces. -/
theorem IsSelector.isSelectorChar_of_mem {s : String} (h : IsSelector s) {c : Char}
    (hc : c ∈ s.toList) : isSelectorChar c = true := by
  have hcut : c ∈ (cutSelector s.toList).1 := by rwa [h.whole]
  exact isSelectorChar_of_mem_cutSelector hcut

theorem Node.IsWellFormed.isSelector {b : Bool} {n : Node} (h : n.IsWellFormed b) {s : String}
    (hs : s ∈ Entries.keys n.arms) : IsSelector s := by
  cases n with
  | select name arms =>
    rw [Node.IsWellFormed] at h
    exact h.2.1.selectors s hs
  | plural name offset ordinal arms =>
    rw [Node.IsWellFormed] at h
    exact h.2.1.selectors s hs
  | _ => cases hs

/-! ## The choice of an arm -/

theorem mem_of_findExact {x : Decimal} {selectors : List String} {s : String}
    (h : findExact x selectors = .ok (some s)) : s ∈ selectors := by
  fun_induction findExact x selectors with
  | case1 => cases h
  | case2 t ts hexact ih => exact List.mem_cons_of_mem t (ih h)
  | case3 t ts cs hexact hread => cases h
  | case4 t ts cs hexact d hread e he => cases h
  | case5 t ts cs hexact d hread he =>
    cases h
    exact List.mem_cons_self
  | case6 t ts cs hexact d hread he ih => exact List.mem_cons_of_mem t (ih h)

theorem orOther_mem {selectors : List String} (h : "other" ∈ selectors) (s : String) :
    orOther selectors s ∈ selectors := by
  unfold orOther
  split
  · rename_i hs
    simpa using hs
  · exact h

/-- There is an arm for every number. -/
theorem mem_of_choosePlural {l : Locale} {offset : Nat} {ordinal : Bool} {selectors : List String}
    {x r : Decimal} {s : String} (h : choosePlural l offset ordinal selectors x = .ok (s, r))
    (hother : "other" ∈ selectors) : s ∈ selectors := by
  unfold choosePlural at h
  split at h
  · cases h
  · rename_i t hfind
    obtain ⟨y, -, heq⟩ := Outcome.map_eq_ok_iff.1 h
    cases heq
    exact mem_of_findExact hfind
  · split at h
    · cases h
    · simp only at h
      split at h <;> cases h
      exact orOther_mem hother _

/-! ## Faults that are no missing arm -/

section NoOther

variable {l : Locale} {v : Value} {name : String}

theorem require_ne_noOther (name : String) (values : Bundle) :
    require name values ≠ .error .noOther := by
  unfold require
  split <;> simp

theorem writtenText_ne_noOther (v : Value) : writtenText v ≠ .error .noOther := by
  simp [writtenText_eq_error_iff]

theorem valueText_ne_noOther (l : Locale) (v : Value) : valueText l v ≠ .error .noOther := by
  cases v <;> simp [valueText, writtenText_eq_error_iff, Outcome.mapError_eq_error_iff]

theorem argumentText_ne_noOther (l : Locale) (values : Bundle) (name raw : String) :
    argumentText l values name raw ≠ .error .noOther := by
  unfold argumentText
  split
  · exact valueText_ne_noOther l _
  · simp

theorem toDecimal_ne_noOther (name : String) (v : Value) : toDecimal name v ≠ .error .noOther := by
  intro h
  unfold toDecimal at h
  split at h
  · cases h
  · cases h
  · cases h
  · split at h
    · rename_i he
      cases h
      exact writtenText_ne_noOther _ he
    · split at h <;> cases h

theorem toMoment_ne_noOther (name : String) (v : Value) : toMoment name v ≠ .error .noOther := by
  unfold toMoment
  split
  · simp
  · simp
  · simp [Outcome.mapError_eq_error_iff]
  · simp [Outcome.mapError_eq_error_iff]
  · split <;> simp
  · simp

theorem findExact_ne_noOther (x : Decimal) (selectors : List String) :
    findExact x selectors ≠ .error .noOther := by
  fun_induction findExact x selectors <;> simp_all

theorem choosePlural_ne_noOther (l : Locale) (offset : Nat) (ordinal : Bool)
    (selectors : List String) (x : Decimal) :
    choosePlural l offset ordinal selectors x ≠ .error .noOther := by
  intro h
  unfold choosePlural at h
  split at h
  · rename_i he
    cases h
    exact findExact_ne_noOther _ _ he
  · simp [Outcome.map_eq_error_iff, Outcome.mapError_eq_error_iff] at h
  · split at h
    · cases h
    · simp only at h
      split at h <;> cases h

theorem printNumber_ne_noOther (l : Locale) (currency style : Option String) (x : Decimal) :
    printNumber l currency style x ≠ .error .noOther := by
  have hnumber : ∀ r : Except NumberFault String,
      r.mapError RenderFault.number ≠ .error .noOther := by
    simp [Outcome.mapError_eq_error_iff]
  unfold printNumber printSkeleton NumberPrinter.printSkeleton
  split
  · exact hnumber _
  · repeat' split
    all_goals first | exact hnumber _ | simp

theorem printMoment_ne_noOther (l : Locale) (k : DateKind) (style : Option String) (m : Moment) :
    printMoment l k style m ≠ .error .noOther := by
  unfold printMoment
  simp only
  split
  · simp [Outcome.mapError_eq_error_iff]
  · split <;> simp [Outcome.mapError_eq_error_iff]

end NoOther

/-! ## Rendering well-formed messages -/

theorem HaveWellFormedArms.of_get? {inPlural : Bool} {arms : List (String × List Node)}
    (h : HaveWellFormedArms inPlural arms) {s : String} {ns : List Node}
    (hs : Entries.get? arms s = some ns) : AreWellFormed inPlural ns := by
  induction arms with
  | nil => cases hs
  | cons arm arms ih =>
    rw [HaveWellFormedArms] at h
    rw [Entries.get?] at hs
    split at hs
    · cases hs
      exact h.1
    · exact ih h.2 hs

section Rendering

variable (l : Locale) (currency : Option String) (values : Bundle)

theorem both_ne_noOther {a b : Except RenderFault String} (ha : a ≠ .error .noOther)
    (hb : b ≠ .error .noOther) : both a b ≠ .error .noOther := by
  cases a <;> cases b <;> simp_all [both]

mutual

/-- Rendering a well-formed message finds an arm for every value. -/
theorem renderNodes_ne_noOther (inPlural : Bool) (number : Option Decimal) (ns : List Node)
    (h : AreWellFormed inPlural ns) :
    renderNodes l currency values number ns ≠ .error .noOther := by
  match ns with
  | [] => simp [renderNodes]
  | n :: ns =>
    rw [AreWellFormed] at h
    rw [renderNodes]
    exact both_ne_noOther (renderNode_ne_noOther inPlural number n h.1)
      (renderNodes_ne_noOther inPlural number ns h.2.2)

theorem renderNode_ne_noOther (inPlural : Bool) (number : Option Decimal) (n : Node)
    (h : n.IsWellFormed inPlural) : renderNode l currency values number n ≠ .error .noOther := by
  intro hfail
  match n with
  | .text s => simp [renderNode] at hfail
  | .argument name raw =>
    rw [renderNode] at hfail
    exact argumentText_ne_noOther l values name raw hfail
  | .pound =>
    simp only [renderNode] at hfail
    split at hfail
    · cases hfail
    · simp [Outcome.mapError_eq_error_iff] at hfail
  | .number name style =>
    rw [renderNode] at hfail
    split at hfail
    · rename_i he
      cases hfail
      exact require_ne_noOther _ _ he
    · split at hfail
      · rename_i he
        cases hfail
        exact toDecimal_ne_noOther _ _ he
      · exact printNumber_ne_noOther _ _ _ _ hfail
  | .moment kind name style =>
    rw [renderNode] at hfail
    split at hfail
    · rename_i he
      cases hfail
      exact require_ne_noOther _ _ he
    · split at hfail
      · rename_i he
        cases hfail
        exact toMoment_ne_noOther _ _ he
      · exact printMoment_ne_noOther _ _ _ _ hfail
  | .select name arms =>
    rw [Node.IsWellFormed] at h
    rw [renderNode] at hfail
    split at hfail
    · rename_i he
      cases hfail
      exact require_ne_noOther _ _ he
    · split at hfail
      · rename_i he
        cases hfail
        exact valueText_ne_noOther _ _ he
      · exact renderArm_ne_noOther false number arms _ h.2.2 (orOther_mem h.2.1.other _) hfail
  | .plural name offset ordinal arms =>
    rw [Node.IsWellFormed] at h
    rw [renderNode] at hfail
    split at hfail
    · rename_i he
      cases hfail
      exact require_ne_noOther _ _ he
    · split at hfail
      · rename_i he
        cases hfail
        exact toDecimal_ne_noOther _ _ he
      · split at hfail
        · rename_i he
          cases hfail
          exact choosePlural_ne_noOther _ _ _ _ _ he
        · rename_i hchoice
          exact renderArm_ne_noOther true _ arms _ h.2.2
            (mem_of_choosePlural hchoice h.2.1.other) hfail

theorem renderArm_ne_noOther (inPlural : Bool) (number : Option Decimal)
    (arms : List (String × List Node)) (selector : String) (h : HaveWellFormedArms inPlural arms)
    (hselector : selector ∈ Entries.keys arms) :
    renderArm l currency values number selector arms ≠ .error .noOther := by
  match arms with
  | [] => cases hselector
  | (s, ns) :: arms =>
    rw [HaveWellFormedArms] at h
    rw [renderArm]
    split
    · exact renderNodes_ne_noOther inPlural number ns h.1
    · rename_i hne
      exact renderArm_ne_noOther inPlural number arms selector h.2
        ((List.mem_cons.1 hselector).resolve_left (Ne.symm hne))

end

mutual

/-- Rendering a message with no `#` of its own does not depend on the number outside of it. -/
theorem renderNodes_eq_of_not_inPlural (number : Option Decimal) (ns : List Node)
    (h : AreWellFormed false ns) :
    renderNodes l currency values number ns = renderNodes l currency values none ns := by
  match ns with
  | [] => rw [renderNodes, renderNodes]
  | n :: ns =>
    rw [AreWellFormed] at h
    rw [renderNodes, renderNodes, renderNode_eq_of_not_inPlural number n h.1,
      renderNodes_eq_of_not_inPlural number ns h.2.2]

theorem renderNode_eq_of_not_inPlural (number : Option Decimal) (n : Node)
    (h : n.IsWellFormed false) :
    renderNode l currency values number n = renderNode l currency values none n := by
  match n with
  | .pound =>
    rw [Node.IsWellFormed] at h
    cases h
  | .select name arms =>
    rw [Node.IsWellFormed] at h
    have harm := fun s => renderArm_eq_of_not_inPlural number s arms h.2.2
    simp only [renderNode, harm]
  | .text _ | .argument .. | .number .. | .moment .. | .plural .. => rw [renderNode, renderNode]

theorem renderArm_eq_of_not_inPlural (number : Option Decimal) (selector : String)
    (arms : List (String × List Node)) (h : HaveWellFormedArms false arms) :
    renderArm l currency values number selector arms =
      renderArm l currency values none selector arms := by
  match arms with
  | [] => rw [renderArm, renderArm]
  | (s, ns) :: arms =>
    rw [HaveWellFormedArms] at h
    rw [renderArm, renderArm, renderNodes_eq_of_not_inPlural number ns h.1,
      renderArm_eq_of_not_inPlural number selector arms h.2]

end

/-- Rendering some nodes comes to a node while `#` stands for a number: everything before the node
is rendered, and the arms that hold it are chosen. -/
inductive Visits : Option Decimal → List Node → Option Decimal → Node → Prop
  | here {number n ns} : Visits number (n :: ns) number n
  | later {number n ns r m s} (first : renderNode l currency values number n = .ok s)
      (rest : Visits number ns r m) : Visits number (n :: ns) r m
  | arm {number name arms ns v s nodes r m} (value : require name values = .ok v)
      (text : valueText l v = .ok s)
      (chosen : Entries.get? arms (orOther (Entries.keys arms) s) = some nodes)
      (inner : Visits number nodes r m) : Visits number (.select name arms :: ns) r m
  | pluralArm {number name offset ordinal arms ns v x selector y nodes r m}
      (value : require name values = .ok v) (decimal : toDecimal name v = .ok x)
      (choice : choosePlural l offset ordinal (Entries.keys arms) x = .ok (selector, y))
      (chosen : Entries.get? arms selector = some nodes)
      (inner : Visits (some y) nodes r m) :
      Visits number (.plural name offset ordinal arms :: ns) r m

variable {l currency values} in
/-- In a well-formed message, `#` is rendered only where it stands for a number. -/
theorem Visits.ne_none_of_pound {number r : Option Decimal} {ns : List Node} {n : Node}
    (h : Visits l currency values number ns r n) {inPlural : Bool}
    (hwf : AreWellFormed inPlural ns) (hnumber : inPlural = true → number ≠ none)
    (hn : n = .pound) : r ≠ none := by
  induction h generalizing inPlural with
  | here =>
    subst hn
    rw [AreWellFormed, Node.IsWellFormed] at hwf
    exact hnumber hwf.1
  | later first rest ih =>
    rw [AreWellFormed] at hwf
    exact ih hwf.2.2 hnumber hn
  | arm value text chosen inner ih =>
    rw [AreWellFormed, Node.IsWellFormed] at hwf
    exact ih (hwf.1.2.2.of_get? chosen) nofun hn
  | pluralArm value decimal choice chosen inner ih =>
    rw [AreWellFormed, Node.IsWellFormed] at hwf
    exact ih (hwf.1.2.2.of_get? chosen) (fun _ => Option.some_ne_none _) hn

end Rendering

/-! ## The main result -/

/-- Whether a node that chooses among arms has one for all other cases. -/
def Node.HasOther : Node → Prop
  | .select _ arms => "other" ∈ Entries.keys arms
  | .plural _ _ _ arms => "other" ∈ Entries.keys arms
  | _ => True

theorem Node.IsWellFormed.hasOther {b : Bool} {n : Node} (h : n.IsWellFormed b) : n.HasOther := by
  cases n with
  | select name arms =>
    rw [Node.IsWellFormed] at h
    exact h.2.1.other
  | plural name offset ordinal arms =>
    rw [Node.IsWellFormed] at h
    exact h.2.1.other
  | _ => trivial

/-- A message that the parser accepts is well formed at every depth and not nested too deeply. Its
simple arguments are parts of the source, and every choice has selectors without blanks and braces,
one of them for all other cases. Rendering it never lacks an arm, and never comes to `#` without a
number; so the number that rendering begins with does not matter. -/
theorem parse_sound {source : String} {nodes : List Node} (h : parse source = .ok nodes) :
    AreWellFormed false nodes ∧ depth nodes ≤ maxNesting ∧
      (∀ n ∈ everyNode nodes, n.HasOther ∧ n.IsWithin source.toList ∧
        ∀ s ∈ Entries.keys n.arms, s.toList ≠ [] ∧ ∀ c ∈ s.toList, isSelectorChar c = true) ∧
      ∀ (l : Locale) (currency : Option String) (values : Bundle),
        Template.render ⟨nodes, l, currency⟩ values ≠ .error .noOther ∧
        (∀ number n, Visits l currency values none nodes number n → n = .pound → number ≠ none) ∧
        ∀ number, renderNodes l currency values number nodes =
          Template.render ⟨nodes, l, currency⟩ values := by
  simp only [parse] at h
  split at h <;> cases h
  rename_i rest hmessage
  obtain ⟨hwf, hnesting, hwithin, -⟩ :=
    message_sound maxNesting false false source.toList nodes rest hmessage
  refine ⟨hwf, hnesting, fun n hn => ?_, fun l currency values => ⟨?_, ?_, ?_⟩⟩
  · obtain ⟨b, hb⟩ := exists_isWellFormed false nodes hwf hn
    refine ⟨hb.hasOther, hwithin n hn, fun s hs => ?_⟩
    have hselector := hb.isSelector hs
    exact ⟨hselector.ne_nil, fun c hc => hselector.isSelectorChar_of_mem hc⟩
  · exact renderNodes_ne_noOther l currency values false none nodes hwf
  · intro number n hvisits
    exact hvisits.ne_none_of_pound hwf fun hfalse => absurd hfalse Bool.false_ne_true
  · exact fun number => renderNodes_eq_of_not_inPlural l currency values number nodes hwf

/-- A message with a choice inside a plural argument. -/
def sharedSource : String :=
  "\x7bn, plural, offset:1 =0 \x7bnone\x7d other \x7b# of \x7bg, select, other \x7b#\x7d" ++
    "\x7d\x7d\x7d for \x7b who \x7d"

/-- What the message is read as: in the arm of the inner choice, `#` is text again. -/
def sharedNodes : List Node :=
  [.plural "n" 1 false
      [("=0", [.text "none"]),
        ("other", [.pound, .text " of ", .select "g" [("other", [.text "#"])]])],
    .text " for ", .argument "who" "\x7b who \x7d"]

theorem parse_sound_sharedNodes :
    parse sharedSource = .ok sharedNodes ∧
      AreWellFormed false sharedNodes ∧ depth sharedNodes ≤ maxNesting ∧
      ∀ (l : Locale) (currency : Option String) (values : Bundle),
        Template.render ⟨sharedNodes, l, currency⟩ values ≠ .error .noOther := by
  have hparse : parse sharedSource = .ok sharedNodes := by with_unfolding_all rfl
  obtain ⟨hwf, hnesting, -, hrender⟩ := parse_sound hparse
  exact ⟨hparse, hwf, hnesting, fun l currency values => (hrender l currency values).1⟩

end Polyglot.Message
