import Polyglot.Message.Formatter

/-!
# Interpolation and the parser

A message of text and simple arguments is filled in without being parsed. Parsing such a
message always succeeds, and rendering what the parser finds gives the same outcome: its nodes
are the text and the simple arguments of the message, in order and with nothing left out.
-/
namespace Polyglot.Message

/-! ## Joint outcomes -/

@[simp] theorem both_ok_empty (a : Except RenderFault String) : both (.ok "") a = a := by
  cases a <;> simp [both]

theorem both_assoc (a b c : Except RenderFault String) :
    both (both a b) c = both a (both b c) := by
  cases a <;> cases b <;> cases c <;> simp [both, String.append_assoc]

/-! ## Suffixes -/

theorem skipBlanks_suffix (cs : List Char) : Text.skipBlanks cs <:+ cs :=
  List.dropWhile_suffix _

/-- What follows a simple argument is the end of the input, and its source is all before that. -/
theorem placeholder?_split {cs name raw rest : List Char}
    (h : placeholder? cs = some (name, raw, rest)) : '\x7b' :: cs = raw ++ rest := by
  simp only [placeholder?] at h
  split at h
  · simp at h
  · split at h
    · rename_i r hr
      simp only [Option.some.injEq, Prod.mk.injEq] at h
      obtain ⟨-, rfl, rfl⟩ := h
      have hs : '\x7d' :: r <:+ cs := by
        rw [← hr]
        exact (skipBlanks_suffix _).trans
          ((List.dropWhile_suffix _).trans (skipBlanks_suffix cs))
      obtain ⟨front, hf⟩ := (List.suffix_cons '\x7d' r).trans hs
      subst hf
      simp
    · simp at h

/-- An apostrophe that quotes nothing in a text quotes nothing in its end. -/
theorem hasQuote_of_append {front rest : List Char} (h : hasQuote (front ++ rest) = false) :
    hasQuote rest = false := by
  induction front with
  | nil => exact h
  | cons c r ih =>
    apply ih
    cases hr : r ++ rest with
    | nil => rfl
    | cons d t =>
      rw [List.cons_append, hr, hasQuote, Bool.or_eq_false_iff] at h
      exact h.2

theorem hasQuote_after_placeholder {cs name raw rest : List Char}
    (h : placeholder? cs = some (name, raw, rest)) (hq : hasQuote ('\x7b' :: cs) = false) :
    hasQuote rest = false := by
  rw [placeholder?_split h] at hq
  exact hasQuote_of_append hq

/-- An apostrophe that quotes nothing stands for itself. -/
theorem quoted_of_hasQuote {cs : List Char} (h : hasQuote ('\'' :: cs) = false) :
    quoted false cs = (['\''], cs) := by
  cases cs with
  | nil => rfl
  | cons c r =>
    simp only [hasQuote, beq_self_eq_true, Bool.true_and, Bool.or_eq_false_iff, beq_eq_false_iff_ne]
      at h
    obtain ⟨⟨⟨hc, hopen⟩, hclose⟩, -⟩ := h
    simp [quoted, opensQuote, hc, hopen, hclose]

/-! ## Parsing -/

/-- The nodes of a list of parts; adjacent characters form one text. -/
def Segment.nodes : List Segment → List Node
  | [] => []
  | .char c :: ss => consText (String.singleton c) (nodes ss)
  | .placeholder name raw :: ss =>
      .argument (String.ofList name) (String.ofList raw) :: nodes ss

/-- A simple argument is the head of an argument that is complete. -/
theorem head_of_placeholder {cs name raw rest : List Char}
    (h : placeholder? cs = some (name, raw, rest)) :
    raw = '\x7b' :: cs.take (cs.length - rest.length) ∧
      ∃ hr, head cs = .ok (.simple (String.ofList name) ⟨rest, hr⟩) := by
  have hlt := length_placeholder?_lt h
  simp only [placeholder?] at h
  split at h
  · simp at h
  · rename_i hname
    split at h
    · rename_i r hr
      simp only [Option.some.injEq, Prod.mk.injEq] at h
      obtain ⟨rfl, rfl, rfl⟩ := h
      refine ⟨rfl, Nat.le_of_lt hlt, ?_⟩
      rw [head, if_neg hname]
      split
      · rename_i hnil
        simp [hr] at hnil
      · rename_i c t hcons
        rw [hr] at hcons
        cases hcons
        exact if_pos rfl
    · simp at h

/-- The parser reads a simple argument where there is one. -/
theorem argument_of_placeholder {cs name raw rest : List Char} (levels : Nat)
    (h : placeholder? cs = some (name, raw, rest)) :
    ∃ hr, argument (levels + 1) cs =
      .ok (.argument (String.ofList name) (String.ofList raw), ⟨rest, hr⟩) := by
  obtain ⟨hraw, hr, hh⟩ := head_of_placeholder h
  rw [argument, hh]
  exact ⟨hr, by rw [hraw]⟩

/-- What an apostrophe stands for comes in front of what is read after it. -/
theorem message_of_quoted {levels : Nat} {inPlural nested : Bool} {r q t u : List Char}
    {nodes : List Node} {hu : u.length ≤ t.length} (hq : quoted inPlural r = (q, t))
    (hm : message levels inPlural nested t = .ok (nodes, ⟨u, hu⟩)) :
    ∃ h, message levels inPlural nested ('\'' :: r) =
      .ok (consText (String.ofList q) nodes, ⟨u, h⟩) := by
  obtain ⟨rfl, rfl⟩ := Prod.ext_iff.1 hq
  have hlen := length_quoted_le inPlural r
  rw [message, if_neg (by decide), if_neg (by decide), if_neg (by simp), if_pos rfl]
  refine ⟨by simp only [List.length_cons]; omega, ?_⟩
  simp only [hm]

/-- The parser reads a text without quotes and without braces of its own up to the end. -/
theorem message_of_segments (levels : Nat) (cs : List Char) (hq : hasQuote cs = false)
    (hb : (segments cs).any Segment.isBrace = false) :
    ∃ h, message (levels + 1) false false cs = .ok (Segment.nodes (segments cs), ⟨[], h⟩) := by
  fun_induction segments cs with
  | case1 => exact ⟨Nat.le_refl _, by rw [message]; rfl⟩
  | case2 r name raw rest hp hlt ih =>
    rw [List.any_cons, Bool.or_eq_false_iff] at hb
    obtain ⟨hr, hm⟩ := ih (hasQuote_after_placeholder hp hq) hb.2
    obtain ⟨ha, harg⟩ := argument_of_placeholder levels hp
    rw [message, if_pos rfl, harg]
    simp only [hm]
    exact ⟨Nat.zero_le _, rfl⟩
  | case3 r hp ih => simp [Segment.isBrace] at hb
  | case4 c r hc ih =>
    rw [List.any_cons, Bool.or_eq_false_iff] at hb
    have hclose : c ≠ '\x7d' := by
      intro h
      simp [h, Segment.isBrace] at hb
    obtain ⟨hr, hm⟩ := ih (hasQuote_of_append (show hasQuote ([c] ++ r) = false from hq)) hb.2
    by_cases ha : c = '\''
    · subst ha
      obtain ⟨hlen, hall⟩ := message_of_quoted (quoted_of_hasQuote hq) hm
      exact ⟨hlen, by rw [hall, Segment.nodes, String.singleton_eq_ofList]⟩
    · rw [message, if_neg hc, if_neg hclose, if_neg (by simp), if_neg ha]
      simp only [hm]
      exact ⟨Nat.zero_le _, rfl⟩

theorem parse_of_isInterpolation {source : String} (h : isInterpolation source = true) :
    parse source = .ok (Segment.nodes (segments source.toList)) := by
  rw [isInterpolation, Bool.and_eq_true, Bool.not_eq_true', Bool.not_eq_true'] at h
  obtain ⟨hr, hm⟩ := message_of_segments 49 source.toList h.1 h.2
  simp only [parse, maxNesting, hm]

/-! ## Rendering -/

section Rendering

variable (l : Locale) (currency : Option String) (values : Bundle) (pound : Option Decimal)

theorem renderNodes_append (before after : List Node) :
    renderNodes l currency values pound (before ++ after) =
      both (renderNodes l currency values pound before)
        (renderNodes l currency values pound after) := by
  induction before with
  | nil => rw [List.nil_append, renderNodes, both_ok_empty]
  | cons n ns ih => rw [List.cons_append, renderNodes, renderNodes, ih, both_assoc]

theorem renderNodes_consText (s : String) (ns : List Node) :
    renderNodes l currency values pound (consText s ns) =
      both (.ok s) (renderNodes l currency values pound ns) := by
  unfold consText
  split
  · rename_i t r
    rw [renderNodes, renderNodes, ← both_assoc, renderNode, renderNode]
    rfl
  · rw [renderNodes, renderNode]

/-- Rendering the nodes of some parts fills the parts in. -/
theorem renderNodes_segments (ss : List Segment) :
    renderNodes l currency values pound (Segment.nodes ss) =
      (ss.mapM (Segment.fill l values)).map String.join := by
  induction ss with
  | nil => rw [Segment.nodes, renderNodes]; rfl
  | cons s ss ih =>
    have hjoin : ∀ a : Except RenderFault String,
        both a ((ss.mapM (Segment.fill l values)).map String.join) =
          (do let t ← a; let ts ← ss.mapM (Segment.fill l values); pure (t :: ts)).map
            String.join := by
      intro a
      cases a <;> cases ss.mapM (Segment.fill l values) <;>
        simp [both, bind, Except.bind, Except.map, pure, Except.pure, String.join_cons]
    rw [List.mapM_cons, ← hjoin, ← ih]
    cases s with
    | char c => rw [Segment.nodes, renderNodes_consText, Segment.fill]
    | placeholder name raw => rw [Segment.nodes, renderNodes, renderNode, Segment.fill]

end Rendering

/-! ## Sources -/

/-- The characters of a part in the message. -/
def Segment.source : Segment → List Char
  | char c => [c]
  | placeholder _ raw => raw

/-- The source of a node, if it is a text that stands for itself or a simple argument. -/
def Node.source? : Node → Option String
  | text s => some s
  | argument _ raw => some raw
  | _ => none

theorem flatMap_source_segments (cs : List Char) :
    (segments cs).flatMap Segment.source = cs := by
  fun_induction segments cs with
  | case1 => rfl
  | case2 r name raw rest hp hlt ih =>
    rw [List.flatMap_cons, ih, placeholder?_split hp]
    rfl
  | case3 r hp ih => rw [List.flatMap_cons, ih]; rfl
  | case4 c r hc ih => rw [List.flatMap_cons, ih]; rfl

theorem mapM_source_consText (s : String) {ns : List Node} {ts : List String}
    (h : ns.mapM Node.source? = some ts) :
    ∃ us, (consText s ns).mapM Node.source? = some us ∧ String.join us = s ++ String.join ts := by
  unfold consText
  split
  · rename_i t r
    rw [List.mapM_cons] at h
    cases hr : r.mapM Node.source? with
    | none => simp [hr, Node.source?] at h
    | some vs =>
      simp only [hr, Node.source?, Option.pure_def, Option.bind_eq_bind, Option.bind_some,
        Option.some.injEq] at h
      subst h
      exact ⟨(s ++ t) :: vs, by simp [hr, Node.source?],
        by simp only [String.join_cons, String.append_assoc]⟩
  · exact ⟨s :: ts, by simp [h, Node.source?], String.join_cons⟩

/-- The nodes of some parts are simple, and their sources are those of the parts. -/
theorem mapM_source_nodes (ss : List Segment) :
    ∃ ts, (Segment.nodes ss).mapM Node.source? = some ts ∧
      String.join ts = String.ofList (ss.flatMap Segment.source) := by
  induction ss with
  | nil => exact ⟨[], rfl, rfl⟩
  | cons s ss ih =>
    obtain ⟨ts, hts, hjoin⟩ := ih
    rw [List.flatMap_cons, String.ofList_append, ← hjoin]
    cases s with
    | char c =>
      rw [Segment.source, ← String.singleton_eq_ofList]
      exact mapM_source_consText (String.singleton c) hts
    | placeholder name raw =>
      exact ⟨String.ofList raw :: ts, by simp [Segment.nodes, hts, Node.source?],
        String.join_cons⟩

/-! ## Agreement -/

/-- Filling in a message of text and simple arguments agrees with parsing and rendering it, for
all values in every locale. The parsed nodes are texts and simple arguments that spell out the
message, so every apostrophe and every `#` stands for itself; an argument without a value comes
back as it is written. -/
theorem interpolate_eq_render (source : String) (h : isInterpolation source = true) :
    ∃ nodes, parse source = .ok nodes ∧
      (∃ sources, nodes.mapM Node.source? = some sources ∧ String.join sources = source) ∧
      ∀ (l : Locale) (currency : Option String) (values : Bundle),
        interpolate l values source = Template.render ⟨nodes, l, currency⟩ values ∧
        ∀ (before after : List Node) (name raw : String), nodes = before ++ .argument name raw :: after →
          Entries.get? values name = none →
          interpolate l values source =
            both (Template.render ⟨before, l, currency⟩ values)
              (both (.ok raw) (Template.render ⟨after, l, currency⟩ values)) := by
  have hrender : ∀ (l : Locale) (currency : Option String) (values : Bundle),
      interpolate l values source =
        Template.render ⟨Segment.nodes (segments source.toList), l, currency⟩ values := by
    intro l currency values
    rw [Template.render, renderNodes_segments, interpolate]
  refine ⟨_, parse_of_isInterpolation h, ?_, ?_⟩
  · obtain ⟨ts, hts, hjoin⟩ := mapM_source_nodes (segments source.toList)
    rw [flatMap_source_segments, String.ofList_toList] at hjoin
    exact ⟨ts, hts, hjoin⟩
  · intro l currency values
    refine ⟨hrender l currency values, ?_⟩
    intro before after name raw hnodes habsent
    rw [hrender l currency values, hnodes]
    simp only [Template.render]
    rw [renderNodes_append, renderNodes, renderNode, argumentText, habsent]

/-- Apostrophes and `#` stand beside an argument with blanks inside and no value. -/
theorem interpolate_eq_render_apostrophe :
    isInterpolation "It's {  name }'s #1" = true ∧
      ∃ nodes, parse "It's {  name }'s #1" = .ok nodes ∧
        interpolate .english [] "It's {  name }'s #1" =
          Template.render ⟨nodes, .english, none⟩ [] := by
  have hs : isInterpolation "It's {  name }'s #1" = true := by decide +kernel
  obtain ⟨nodes, hparse, -, hall⟩ := interpolate_eq_render _ hs
  exact ⟨hs, nodes, hparse, (hall .english none []).1⟩

end Polyglot.Message
