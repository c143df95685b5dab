import Polyglot.Proofs.Message.Extension
import Polyglot.Proofs.Message.Position

/-!
# Messages in a row

A message without apostrophes that is read alone is read in the same way in front of any other text,
and it leaves nothing behind that the reading of that text depends on: the other text is read, or
fails, as it does alone. An apostrophe at the end of a message is different, since what follows it
decides whether it quotes.
-/
namespace Polyglot.Message

/-- Two messages in a row. A text that ends the first and one that begins the second become one. -/
def joined : List Node → List Node → List Node
  | [], ms => ms
  | [.text s], ms => consText s ms
  | n :: ns, ms => n :: joined ns ms

theorem joined_cons {n : Node} (hn : n.isText = false) (ns ms : List Node) :
    joined (n :: ns) ms = n :: joined ns ms := by
  cases n with
  | text => cases hn
  | _ => simp [joined]

theorem consText_joined (s : String) (ns ms : List Node) :
    consText s (joined ns ms) = joined (consText s ns) ms := by
  match ns with
  | [] => rfl
  | [.text t] => exact consText_consText s t ms
  | .text t :: n :: ns => rfl
  | .argument .. :: ns | .pound :: ns | .number .. :: ns | .moment .. :: ns | .select .. :: ns
  | .plural .. :: ns => simp [joined, consText]

theorem renderNodes_joined (l : Locale) (currency : Option String) (values : Bundle)
    (pound : Option Decimal) (ns ms : List Node) :
    renderNodes l currency values pound (joined ns ms) =
      both (renderNodes l currency values pound ns) (renderNodes l currency values pound ms) := by
  fun_induction joined ns ms with
  | case1 ms => rw [renderNodes, both_ok_empty]
  | case2 s ms => simp [renderNodes_consText, renderNodes, renderNode, both]
  | case3 ms n ns hne ih => rw [renderNodes, renderNodes, ih, both_assoc]

/-! ## Reading -/

/-- Whether what is read from the front of a text can stand before more text, which is then read, or
fails, as it does alone. -/
structure Precedes (levels : Nat) (cs more : List Char) (ns : List Node) : Prop where
  read : ∀ ms rest, ReadsMessage levels false false more ms rest →
    ReadsMessage levels false false (cs ++ more) (joined ns ms) rest
  fail : ∀ e, message levels false false more = .error e →
    message levels false false (cs ++ more) = .error e

variable {levels : Nat} {cs more rest : List Char} {ns : List Node}

theorem Precedes.nil (levels : Nat) (more : List Char) : Precedes levels [] more [] where
  read := fun _ _ h => h
  fail := fun _ h => h

theorem Precedes.argument {n : Node} {r : List Char} (hn : n.isText = false)
    (hargument : ∀ more, ReadsArgument levels (cs ++ more) n (r ++ more))
    (h : Precedes levels r more ns) : Precedes levels ('\x7b' :: cs) more (n :: ns) where
  read := by
    intro ms rest hms
    rw [joined_cons hn]
    exact readsMessage_argument (hargument more) (h.read ms rest hms)
  fail := by
    intro e he
    obtain ⟨hle, hread⟩ := hargument more
    rw [List.cons_append, message, if_pos rfl]
    simp only [hread, h.fail e he]

theorem Precedes.char {c : Char} (hopen : opensQuote false c = false) (hquote : c ≠ '\'')
    (h : Precedes levels cs more ns) :
    Precedes levels (c :: cs) more (consText (String.singleton c) ns) where
  read := by
    intro ms rest hms
    rw [← consText_joined]
    exact readsMessage_char hopen hquote (h.read ms rest hms)
  fail := by
    intro e he
    simp only [opensQuote, Bool.false_and, Bool.or_false, Bool.or_eq_false_iff,
      beq_eq_false_iff_ne] at hopen
    rw [List.cons_append, message, if_neg hopen.1, if_neg hopen.2, if_neg (by simp), if_neg hquote]
    simp only [h.fail e he]

/-- A message without apostrophes is read in the same way before any other text. -/
theorem precedes_of_message (levels : Nat) (cs more : List Char) (ns : List Node)
    (rest : NotLonger cs) (hquote : '\'' ∉ cs)
    (h : message levels false false cs = .ok (ns, rest)) : Precedes levels cs more ns := by
  match cs with
  | [] =>
    rw [message] at h
    cases h
    exact .nil levels more
  | c :: r =>
    rw [message] at h
    have hc : c ≠ '\'' := fun heq => hquote (heq ▸ List.mem_cons_self)
    have hr : '\'' ∉ r := fun hmem => hquote (List.mem_cons_of_mem c hmem)
    by_cases hopen : c = '\x7b'
    · rw [if_pos hopen] at h
      subst hopen
      split at h
      · cases h
      · rename_i n r1 h1 hn
        split at h <;> cases h
        rename_i ns r2 h2 hns
        have hsound := argument_sound levels r n ⟨r1, h1⟩ hn
        have hr1 : '\'' ∉ r1 := fun hmem => hr (hsound.suffix.mem hmem)
        exact .argument hsound.not_isText (readsArgument_append levels r n ⟨r1, h1⟩ hn)
          (precedes_of_message levels r1 more ns ⟨r2, h2⟩ hr1 hns)
    rw [if_neg hopen] at h
    by_cases hclose : c = '\x7d'
    · rw [if_pos hclose] at h
      cases h
    rw [if_neg hclose, if_neg (by simp), if_neg hc] at h
    split at h <;> cases h
    rename_i ns r1 h1 hns
    have hplain : opensQuote false c = false := by simp [opensQuote, hopen, hclose]
    exact .char hplain hc (precedes_of_message levels r more ns ⟨r1, h1⟩ hr hns)
termination_by cs.length
decreasing_by
  all_goals
    simp only [List.length_cons]
    omega

/-! ## Whole messages -/

/-- A message without apostrophes in front of another one: both are read as they are alone, and so
they are rendered. Where the other one fails, the failure stays the same and is found behind the
first message. -/
theorem parse_append {s t : String} {ns : List Node} (hquote : '\'' ∉ s.toList)
    (h : parse s = .ok ns) :
    parse (s ++ t) =
      (match parse t with
      | .ok ms => .ok (joined ns ms)
      | .error e => .error ⟨e.fault, s.length + e.position⟩) ∧
    ∀ (ms : List Node) (l : Locale) (currency : Option String) (values : Bundle),
      Template.render ⟨joined ns ms, l, currency⟩ values =
        both (Template.render ⟨ns, l, currency⟩ values)
          (Template.render ⟨ms, l, currency⟩ values) := by
  refine ⟨?_, fun ms l currency values => renderNodes_joined l currency values none ns ms⟩
  obtain ⟨rest, hs⟩ := parse_eq_ok_iff.1 h
  have hprecedes := precedes_of_message maxNesting s.toList t.toList ns rest hquote hs
  cases hmore : message maxNesting false false t.toList with
  | error e =>
    have hleft := left_le_of_message maxNesting false false t.toList e hmore
    have hfail := hprecedes.fail e hmore
    rw [← String.toList_append] at hfail
    rw [parse_eq_error hmore, parse_eq_error hfail, String.toList_append, List.length_append,
      String.length_toList, Nat.add_sub_assoc hleft]
  | ok p =>
    obtain ⟨ms, u, hu⟩ := p
    have hread := hprecedes.read ms u ⟨hu, hmore⟩
    rw [← String.toList_append] at hread
    obtain ⟨hle, hmessage⟩ := hread
    rw [parse_eq_ok_iff.2 ⟨_, hmore⟩, parse_eq_ok_iff.2 ⟨_, hmessage⟩]

/-- The beginning of a sentence. -/
def greeting : String := "Hi \x7bname\x7d, "

def sentence : String := "so \x7bn, number\x7d"

/-- The beginning of a sentence in front of its end, and in front of a brace without a partner. -/
theorem parse_greeting_append :
    ∃ ns ms, parse greeting = .ok ns ∧ parse sentence = .ok ms ∧
      parse (greeting ++ sentence) = .ok (joined ns ms) ∧
      parse (greeting ++ "ok \x7d") = .error ⟨.unmatchedBrace, 14⟩ := by
  have hgreeting : (parse greeting).toBool = true := by decide +kernel
  have hsentence : (parse sentence).toBool = true := by decide +kernel
  have hbrace : parse "ok \x7d" = .error ⟨.unmatchedBrace, 3⟩ := by with_unfolding_all rfl
  obtain ⟨ns, hns⟩ := Outcome.exists_ok_of_toBool hgreeting
  obtain ⟨ms, hms⟩ := Outcome.exists_ok_of_toBool hsentence
  have hquote : '\'' ∉ greeting.toList := by decide
  have happend := (parse_append (t := sentence) hquote hns).1
  have hfail := (parse_append (t := "ok \x7d") hquote hns).1
  rw [hms] at happend
  rw [hbrace] at hfail
  exact ⟨ns, ms, hns, hms, happend, hfail⟩

end Polyglot.Message
