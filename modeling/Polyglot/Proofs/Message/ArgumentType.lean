import Polyglot.Proofs.Message.Parsed

/-!
# Arguments with a type

A message is searched for an argument with a type without being parsed. The search finds every such
argument that the parser reads. Where there are no apostrophes it finds nothing else: an opening
brace of an accepted message is that of an argument, or it stands inside an argument with a type.
-/
namespace Polyglot.Message

/-! ## Nodes with a type -/

def Node.isTyped : Node → Bool
  | .number .. | .moment .. | .select .. | .plural .. => true
  | .text _ | .argument .. | .pound => false

theorem Node.everyNode_of_not_isTyped {n : Node} (h : n.isTyped = false) : n.everyNode = [n] := by
  cases n with
  | text | argument | pound => simp [Node.everyNode]
  | _ => cases h

theorem Node.mem_everyNode_self (n : Node) : n ∈ n.everyNode := by
  cases n <;> simp [Node.everyNode]

/-- An argument with a type stands among some nodes at some depth, if one of them is such. -/
theorem exists_isTyped_everyNode_iff {nodes : List Node} :
    (∃ n ∈ everyNode nodes, n.isTyped = true) ↔ nodes.any Node.isTyped = true := by
  induction nodes with
  | nil => simp [everyNode]
  | cons n ns ih =>
    rw [List.any_cons, Bool.or_eq_true, ← ih, everyNode]
    simp only [List.mem_append, or_and_right, exists_or]
    refine or_congr_left ⟨?_, fun hn => ⟨n, n.mem_everyNode_self, hn⟩⟩
    rintro ⟨m, hm, hmtyped⟩
    by_contra hn
    rw [Node.everyNode_of_not_isTyped (Bool.not_eq_true _ ▸ hn), List.mem_singleton] at hm
    exact hn (hm ▸ hmtyped)

theorem any_isTyped_consText (s : String) (nodes : List Node) :
    (consText s nodes).any Node.isTyped = nodes.any Node.isTyped := by
  obtain ⟨t, ns, rfl, heq⟩ | ⟨-, heq⟩ := consText_cases s nodes <;> rw [heq] <;> rfl

/-! ## The search -/

section Search

variable {cs : List Char}

theorem hasTyped_cons_of_ne {c : Char} (hc : c ≠ '\x7b') (r : List Char) :
    hasTyped (c :: r) = hasTyped r := by
  simp [hasTyped, hc]

theorem hasTyped_append_of_not_mem {front : List Char} (h : '\x7b' ∉ front) (rest : List Char) :
    hasTyped (front ++ rest) = hasTyped rest := by
  induction front with
  | nil => rfl
  | cons c r ih =>
    obtain ⟨hc, hr⟩ := not_or.1 (List.mem_cons.not.1 h)
    rw [List.cons_append, hasTyped_cons_of_ne (Ne.symm hc), ih hr]

theorem hasTyped_of_suffix {rest : List Char} (hrest : rest <:+ cs) (h : hasTyped rest = true) :
    hasTyped cs = true := by
  obtain ⟨front, rfl⟩ := hrest
  induction front with
  | nil => exact h
  | cons c r ih => rw [List.cons_append, hasTyped, ih, Bool.or_true]

theorem isTokenChar_of_isNameChar {c : Char} (h : isNameChar c = true) : isTokenChar c = true := by
  simp only [isNameChar, isTokenChar, Bool.not_eq_true', Bool.or_eq_false_iff] at h ⊢
  tauto

theorem not_isTokenChar_of_isBlank {c : Char} (h : Text.isBlank c = true) :
    isTokenChar c = false := by
  simp [isTokenChar, h]

/-- A name that the parser reads in front of a comma or a brace is the one that the search finds. -/
theorem startsTyped_eq {c : Char} {r : List Char}
    (hname : ((Text.skipBlanks cs).takeWhile isNameChar).isEmpty = false)
    (hnext : Text.skipBlanks ((Text.skipBlanks cs).dropWhile isNameChar) = c :: r)
    (hc : isTokenChar c = false) :
    startsTyped cs = (c == ',' && startsWithKeyword (Text.skipBlanks r)) := by
  have hstop : ∀ d ∈ ((Text.skipBlanks cs).dropWhile isNameChar).head?, isTokenChar d = false := by
    intro d hd
    by_cases hblank : Text.isBlank d = true
    · exact not_isTokenChar_of_isBlank hblank
    · obtain ⟨t, ht⟩ := List.head?_eq_some_iff.1 hd
      rw [ht, Text.skipBlanks, List.dropWhile_cons_of_neg hblank] at hnext
      cases hnext
      exact hc
  have hrun : ∀ d ∈ (Text.skipBlanks cs).takeWhile isNameChar, isTokenChar d = true :=
    fun d hd => isTokenChar_of_isNameChar (List.mem_takeWhile_imp hd)
  have htake := Text.takeWhile_append_stop hrun hstop
  have hdrop := Text.dropWhile_append_stop hrun hstop
  rw [List.takeWhile_append_dropWhile] at htake hdrop
  simp only [startsTyped, htake, hdrop, hname, hnext]
  by_cases hcomma : c = ','
  · subst hcomma
    simp
  · simp [hcomma]

end Search

/-! ## Heads of arguments -/

section Heads

variable {cs : List Char} {name : String}

theorem startsTyped_of_head_simple {r : NotLonger cs} (h : head cs = .ok (.simple name r)) :
    startsTyped cs = false := by
  rw [head] at h
  split at h
  · cases h
  · rename_i hname
    split at h
    · cases h
    · rename_i c t hnext
      split at h
      · rename_i hc
        subst hc
        rw [startsTyped_eq (by simpa using hname) hnext (by decide)]
        rfl
      · simp only at h
        split at h
        · split at h <;> cases h
        · cases h

theorem mem_keywords_of_ofKeyword? {s : String} {k : Kind} (h : Kind.ofKeyword? s = some k) :
    s ∈ keywords := by
  unfold Kind.ofKeyword? at h
  split at h <;> cases h <;> decide

theorem dropWord?_takeWhile (p : Char → Bool) (cs : List Char) :
    dropWord? (cs.takeWhile p) cs = some (cs.dropWhile p) := by
  have hdrop : (cs.takeWhile p ++ cs.dropWhile p).drop (cs.takeWhile p).length = cs.dropWhile p :=
    List.drop_left
  rw [List.takeWhile_append_dropWhile] at hdrop
  rw [dropWord?, if_pos (List.isPrefixOf_iff_prefix.2 (List.takeWhile_prefix p)), hdrop]

/-- Whether the type of an argument is followed by a comma or by the brace that closes it. -/
def EndsType (cs : List Char) : Prop := ∃ c r, cs = c :: r ∧ (c = ',' ∨ c = '\x7d')

theorem startsWithKeyword_of_kind {k : Kind} {r : NotLonger cs} (h : kind cs = .ok (k, r))
    (hr : EndsType r.1) : startsWithKeyword (Text.skipBlanks cs) = true := by
  simp only [kind] at h
  split at h
  · cases h
  · split at h
    · cases h
    · rename_i hkind
      cases h
      refine List.any_eq_true.2 ⟨_, mem_keywords_of_ofKeyword? hkind, ?_⟩
      simp only [String.toList_ofList, dropWord?_takeWhile]
      obtain ⟨c, t, ht, hc⟩ := hr
      change Text.skipBlanks _ = c :: t at ht
      simpa [ht] using hc

theorem skipBlanks_of_kind {k : Kind} {r : NotLonger cs} (h : kind cs = .ok (k, r)) :
    Text.skipBlanks r.1 = r.1 := by
  simp only [kind] at h
  split at h
  · cases h
  · split at h <;> cases h
    exact skipBlanks_of_head (Text.not_isBlank_head_skipBlanks _)

theorem startsTyped_of_head_typed {k : Kind} {r : NotLonger cs}
    (h : head cs = .ok (.typed name k r)) :
    Text.skipBlanks r.1 = r.1 ∧ (EndsType r.1 → startsTyped cs = true) := by
  rw [head] at h
  split at h
  · cases h
  · rename_i hname
    split at h
    · cases h
    · rename_i c t hnext
      split at h
      · cases h
      · simp only at h
        split at h
        · rename_i hc
          subst hc
          split at h <;> cases h
          rename_i r1 h1 hkind
          have hblank := skipBlanks_of_kind hkind
          refine ⟨hblank, fun hr => ?_⟩
          rw [startsTyped_eq (by simpa using hname) hnext (by decide),
            startsWithKeyword_of_kind hkind hr]
          rfl
        · cases h

theorem endsType_of_expect {r : Shorter cs} (h : expect ',' cs = .ok r) : EndsType cs := by
  rw [← cons_of_expect h]
  exact ⟨',', r.1, rfl, .inl rfl⟩

/-- A style begins with a comma, and without one the argument ends. -/
theorem endsType_of_style {s : Option String} {r : NotLonger cs} {t : Shorter r.1}
    (hblank : Text.skipBlanks cs = cs) (hstyle : style cs = .ok (s, r))
    (hclose : close r.1 = .ok t) : EndsType cs := by
  unfold style at hstyle
  split at hstyle
  · exact ⟨_, _, rfl, .inl rfl⟩
  · cases hstyle
    simp only [close] at hclose
    split at hclose
    · cases hclose
    · rename_i u hu hread
      rw [← hblank, ← cons_of_expect hread]
      exact ⟨_, _, rfl, .inr rfl⟩

end Heads

/-! ## Arguments -/

section Arguments

variable {levels : Nat} {cs : List Char} {n : Node}

/-- An argument is a simple one, or the search finds its type. -/
theorem argument_cases {rest : NotLonger cs} (h : argument levels cs = .ok (n, rest)) :
    n.isTyped = false ∧ (∃ name, head cs = .ok (.simple name rest)) ∨
      n.isTyped = true ∧ startsTyped cs = true := by
  cases levels with
  | zero =>
    rw [argument] at h
    cases h
  | succ inner =>
    rw [argument] at h
    split at h
    · cases h
    · rename_i name r h0 hhead
      cases h
      exact .inl ⟨rfl, name, hhead⟩
    · rename_i name ordinal r h0 hhead
      split at h
      · cases h
      · rename_i r1 h1 hcomma
        have htyped := (startsTyped_of_head_typed hhead).2 (endsType_of_expect hcomma)
        simp only at h
        split at h
        · cases h
        · split at h
          · cases h
          · split at h <;> cases h
            exact .inr ⟨rfl, htyped⟩
    · rename_i name r h0 hhead
      split at h
      · cases h
      · rename_i r1 h1 hcomma
        have htyped := (startsTyped_of_head_typed hhead).2 (endsType_of_expect hcomma)
        split at h
        · cases h
        · split at h <;> cases h
          exact .inr ⟨rfl, htyped⟩
    · rename_i name r h0 hhead
      obtain ⟨hblank, htyped⟩ := startsTyped_of_head_typed hhead
      split at h
      · cases h
      · rename_i s r1 h1 hstyle
        split at h <;> cases h
        rename_i r2 h2 hclose
        exact .inr ⟨rfl, htyped (endsType_of_style hblank hstyle hclose)⟩
    · rename_i name k r h0 hhead
      obtain ⟨hblank, htyped⟩ := startsTyped_of_head_typed hhead
      split at h
      · cases h
      · rename_i s r1 h1 hstyle
        split at h <;> cases h
        rename_i r2 h2 hclose
        exact .inr ⟨rfl, htyped (endsType_of_style hblank hstyle hclose)⟩

/-- The search finds an argument with a type exactly where the parser reads one. -/
theorem startsTyped_of_argument {rest : NotLonger cs} (h : argument levels cs = .ok (n, rest)) :
    startsTyped cs = n.isTyped := by
  rcases argument_cases h with ⟨hn, name, hhead⟩ | ⟨hn, htyped⟩
  · rw [hn, startsTyped_of_head_simple hhead]
  · rw [hn, htyped]

/-- There is no opening brace in a simple argument but its own. -/
theorem not_mem_of_isSource {name raw : String} {front : List Char} (hname : IsName name)
    (hraw : IsSource name raw) (hfront : raw.toList = '\x7b' :: front) : '\x7b' ∉ front := by
  obtain ⟨before, after, hbefore, hafter, hsource⟩ := hraw
  obtain rfl := (List.cons.inj (hfront.symm.trans hsource)).2
  have hblank : Text.isBlank '\x7b' = false := by decide
  simp only [List.mem_append, List.mem_singleton, not_or]
  refine ⟨fun h => ?_, fun h => ?_, fun h => ?_, by decide⟩
  · exact absurd (hbefore _ h) (by simp [hblank])
  · exact absurd (hname.chars _ h) (by decide)
  · exact absurd (hafter _ h) (by simp [hblank])

/-- Behind a simple argument the search goes on. -/
theorem hasTyped_of_argument {rest : NotLonger cs} (h : argument levels cs = .ok (n, rest))
    (hn : n.isTyped = false) : hasTyped cs = hasTyped rest.1 := by
  rcases argument_cases h with ⟨-, name, hhead⟩ | ⟨htyped, -⟩
  · obtain ⟨hname, ⟨front, hfront⟩, hsource⟩ := head_sound hhead
    have hnone := not_mem_of_isSource hname hsource (String.toList_ofList)
    rw [take_length_sub hfront.symm] at hnone
    rw [← hasTyped_append_of_not_mem hnone rest.1, hfront]
  · rw [hn] at htyped
    cases htyped

end Arguments

/-! ## Messages -/

/-- What the search finds in a text that is read as a message: it finds an argument with a type if
there is one, and where there are no apostrophes, only then. -/
theorem hasTyped_message (levels : Nat) (inPlural : Bool) (cs : List Char) (nodes : List Node)
    (rest : NotLonger cs) (h : message levels inPlural false cs = .ok (nodes, rest)) :
    (nodes.any Node.isTyped = true → hasTyped cs = true) ∧
      ('\'' ∉ cs → hasTyped cs = nodes.any Node.isTyped) := by
  match cs with
  | [] =>
    rw [message] at h
    cases h
    exact ⟨nofun, fun _ => rfl⟩
  | c :: r =>
    rw [message] at h
    by_cases hopen : c = '\x7b'
    · rw [if_pos hopen] at h
      subst hopen
      split at h
      · cases h
      · rename_i n r1 h1 hn
        split at h <;> cases h
        rename_i ns r2 h2 hns
        have hsuffix := (argument_sound levels r n ⟨r1, h1⟩ hn).suffix
        obtain ⟨hfind, hall⟩ := hasTyped_message levels inPlural r1 ns ⟨r2, h2⟩ hns
        have hstart : hasTyped ('\x7b' :: r) = (n.isTyped || hasTyped r) := by
          rw [← startsTyped_of_argument hn]
          rfl
        rw [hstart, List.any_cons]
        cases htyped : n.isTyped with
        | true => exact ⟨fun _ => rfl, fun _ => rfl⟩
        | false =>
          rw [hasTyped_of_argument hn htyped]
          exact ⟨hfind, fun hquote => hall fun hmem =>
            hquote (List.mem_cons_of_mem _ (hsuffix.mem hmem))⟩
    rw [if_neg hopen] at h
    by_cases hclose : c = '\x7d'
    · rw [if_pos hclose] at h
      cases h
    rw [if_neg hclose] at h
    rw [hasTyped_cons_of_ne hopen]
    by_cases hpound : (inPlural && c == '#') = true
    · rw [if_pos hpound] at h
      split at h <;> cases h
      rename_i ns r1 h1 hns
      obtain ⟨hfind, hall⟩ := hasTyped_message levels inPlural r ns ⟨r1, h1⟩ hns
      exact ⟨hfind, fun hquote => hall fun hmem => hquote (List.mem_cons_of_mem _ hmem)⟩
    rw [if_neg hpound] at h
    by_cases hquote : c = '\''
    · rw [if_pos hquote] at h
      subst hquote
      simp only at h
      have hlength := length_quoted_le inPlural r
      split at h <;> cases h
      rename_i ns r1 h1 hns
      rw [any_isTyped_consText]
      obtain ⟨hfind, -⟩ := hasTyped_message levels inPlural (quoted inPlural r).2 ns ⟨r1, h1⟩ hns
      exact ⟨fun htyped => hasTyped_of_suffix (quoted_suffix inPlural r) (hfind htyped),
        fun hnone => absurd List.mem_cons_self hnone⟩
    · rw [if_neg hquote] at h
      split at h <;> cases h
      rename_i ns r1 h1 hns
      rw [any_isTyped_consText]
      obtain ⟨hfind, hall⟩ := hasTyped_message levels inPlural r ns ⟨r1, h1⟩ hns
      exact ⟨hfind, fun hnone => hall fun hmem => hnone (List.mem_cons_of_mem _ hmem)⟩
termination_by cs.length
decreasing_by
  all_goals
    simp only [List.length_cons]
    omega

/-- In an accepted message with a plural, select, number, date or time argument at any depth, the
search for an argument with a type succeeds. In one without apostrophes it succeeds exactly then. -/
theorem hasArgumentType_of_parse {source : String} {nodes : List Node}
    (h : parse source = .ok nodes) :
    ((∃ n ∈ everyNode nodes, n.isTyped = true) → hasArgumentType source = true) ∧
      ('\'' ∉ source.toList →
        (hasArgumentType source = true ↔ ∃ n ∈ everyNode nodes, n.isTyped = true)) := by
  obtain ⟨rest, hmessage⟩ := parse_eq_ok_iff.1 h
  obtain ⟨hfind, hall⟩ := hasTyped_message maxNesting false source.toList nodes rest hmessage
  rw [exists_isTyped_everyNode_iff, hasArgumentType]
  exact ⟨hfind, fun hquote => by rw [hall hquote]⟩

/-- A message with an argument of a type inside an arm, and without apostrophes. -/
def invoiceSource : String :=
  "\x7bkind, select, paid \x7bPaid \x7bsum, number, ::.00\x7d\x7d other \x7bOpen\x7d\x7d"

/-- What the message is read as. -/
def invoiceNodes : List Node :=
  [.select "kind" [("paid", [.text "Paid ", .number "sum" (some "::.00")]),
    ("other", [.text "Open"])]]

theorem hasArgumentType_invoiceSource :
    parse invoiceSource = .ok invoiceNodes ∧ '\'' ∉ invoiceSource.toList ∧
      hasArgumentType invoiceSource = true ∧
      Node.number "sum" (some "::.00") ∈ everyNode invoiceNodes := by
  have hparse : parse invoiceSource = .ok invoiceNodes := by with_unfolding_all rfl
  have hquote : '\'' ∉ invoiceSource.toList := by decide
  have hmem : Node.number "sum" (some "::.00") ∈ everyNode invoiceNodes := by
    simp [invoiceNodes, everyNode, Node.everyNode, everyArmNode]
  exact ⟨hparse, hquote, ((hasArgumentType_of_parse hparse).2 hquote).2 ⟨_, hmem, rfl⟩, hmem⟩

/-- What is quoted is found too, though it is no argument. -/
example : parse "'\x7bn, number\x7d'" = .ok [.text "\x7bn, number\x7d"] ∧
    hasArgumentType "'\x7bn, number\x7d'" = true := by
  with_unfolding_all exact ⟨rfl, rfl⟩

end Polyglot.Message
