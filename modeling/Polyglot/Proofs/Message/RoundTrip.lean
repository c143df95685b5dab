import Polyglot.Proofs.Message.Interpolation
import Polyglot.Proofs.Message.Lexeme

/-!
# Round trip

Every message that the parser can yield is read back from its canonical form. The parser reads what
was printed for a node up to what follows it, whatever that is, except that no apostrophe may follow
a quoted text.
-/
namespace Polyglot.Message

/-! ## Well-formed messages -/

/-- Whether a text is the source of a simple argument. -/
def IsSource (name raw : String) : Prop :=
  ∃ before after : List Char, (∀ c ∈ before, Text.isBlank c = true) ∧
    (∀ c ∈ after, Text.isBlank c = true) ∧
      raw.toList = '\x7b' :: (before ++ (name.toList ++ (after ++ ['\x7d'])))

/-- Whether arms can be told apart and one of them is there for all other cases. -/
structure HasSelectors (arms : List (String × List Node)) : Prop where
  nodup : (Entries.keys arms).Nodup
  other : "other" ∈ Entries.keys arms
  selectors : ∀ s ∈ Entries.keys arms, IsSelector s

instance (arms : List (String × List Node)) : Decidable (HasSelectors arms) :=
  decidable_of_iff ((Entries.keys arms).Nodup ∧ "other" ∈ Entries.keys arms ∧
      ∀ s ∈ Entries.keys arms, IsSelector s)
    ⟨fun h => ⟨h.1, h.2.1, h.2.2⟩, fun h => ⟨h.nodup, h.other, h.selectors⟩⟩

def Node.isText : Node → Bool
  | .text _ => true
  | _ => false

mutual

/-- Whether a list of nodes is well formed: its nodes are, and no two texts are adjacent. -/
def AreWellFormed (inPlural : Bool) : List Node → Prop
  | [] => True
  | n :: ns =>
      n.IsWellFormed inPlural ∧ (n.isText = true → ∀ m ∈ ns.head?, m.isText = false) ∧
        AreWellFormed inPlural ns

/-- Whether a node is well formed; `#` stands directly in an arm of a plural argument. -/
def Node.IsWellFormed (inPlural : Bool) : Node → Prop
  | .text s => s.toList ≠ []
  | .argument name raw => IsName name ∧ IsSource name raw
  | .pound => inPlural = true
  | .number name style => IsName name ∧ ∀ s ∈ style, IsStyle s
  | .moment _ name style => IsName name ∧ ∀ s ∈ style, IsStyle s
  | .select name arms => IsName name ∧ HasSelectors arms ∧ HaveWellFormedArms false arms
  | .plural name _ _ arms => IsName name ∧ HasSelectors arms ∧ HaveWellFormedArms true arms

/-- Whether the messages of some arms are well formed. -/
def HaveWellFormedArms (inPlural : Bool) : List (String × List Node) → Prop
  | [] => True
  | (_, nodes) :: arms => AreWellFormed inPlural nodes ∧ HaveWellFormedArms inPlural arms

end

mutual

/-- How deep the arguments of some nodes are nested. -/
def depth : List Node → Nat
  | [] => 0
  | n :: ns => max n.depth (depth ns)

/-- How deep arguments are nested in a node, itself included. -/
def Node.depth : Node → Nat
  | .text _ => 0
  | .pound => 0
  | .argument .. => 1
  | .number .. => 1
  | .moment .. => 1
  | .select _ arms => armsDepth arms + 1
  | .plural _ _ _ arms => armsDepth arms + 1

/-- How deep arguments are nested in some arms. -/
def armsDepth : List (String × List Node) → Nat
  | [] => 0
  | (_, nodes) :: arms => max (depth nodes) (armsDepth arms)

end

mutual

/-- The offsets of the plural arguments in some nodes. -/
def offsets : List Node → List Nat
  | [] => []
  | n :: ns => n.offsets ++ offsets ns

def Node.offsets : Node → List Nat
  | .select _ arms => armsOffsets arms
  | .plural _ offset _ arms => offset :: armsOffsets arms
  | _ => []

/-- The offsets of the plural arguments in some arms. -/
def armsOffsets : List (String × List Node) → List Nat
  | [] => []
  | (_, nodes) :: arms => Message.offsets nodes ++ armsOffsets arms

end

/-- Whether every offset has few enough digits to be written and read. -/
def HasWritableOffsets (ns : List Nat) : Prop :=
  ∀ n ∈ ns, Literal.isWritable (Int.ofNat n) = true

/-! ## What the parser reads -/

/-- Whether the parser reads some nodes from the front of a text. -/
def ReadsMessage (levels : Nat) (inPlural nested : Bool) (cs : List Char) (nodes : List Node)
    (rest : List Char) : Prop :=
  ∃ h, message levels inPlural nested cs = .ok (nodes, ⟨rest, h⟩)

/-- Whether the parser reads an argument from the front of a text; its opening brace is read. -/
def ReadsArgument (levels : Nat) (cs : List Char) (n : Node) (rest : List Char) : Prop :=
  ∃ h, argument levels cs = .ok (n, ⟨rest, h⟩)

/-- Whether the parser reads some arms from the front of a text. -/
def ReadsArms (levels : Nat) (inPlural : Bool) (seen : List String) (cs : List Char)
    (arms : List (String × List Node)) (rest : List Char) : Prop :=
  ∃ h, options levels inPlural seen cs = .ok (arms, ⟨rest, h⟩)

variable {levels : Nat} {inPlural nested : Bool} {cs rest : List Char} {ns : List Node}

/-! ## Literal text -/

theorem readsMessage_char {c : Char} (hopen : opensQuote inPlural c = false) (hquote : c ≠ '\'')
    (h : ReadsMessage levels inPlural nested cs ns rest) :
    ReadsMessage levels inPlural nested (c :: cs) (consText (String.singleton c) ns) rest := by
  obtain ⟨hle, hm⟩ := h
  simp only [opensQuote, Bool.or_eq_false_iff, beq_eq_false_iff_ne] at hopen
  obtain ⟨⟨hbrace, hclose⟩, hpound⟩ := hopen
  refine ⟨Nat.le_succ_of_le hle, ?_⟩
  rw [message, if_neg hbrace, if_neg hclose, if_neg (by simp [hpound]), if_neg hquote]
  simp only [hm]

theorem readsMessage_quoted {q t : List Char} (hq : quoted inPlural cs = (q, t))
    (h : ReadsMessage levels inPlural nested t ns rest) :
    ReadsMessage levels inPlural nested ('\'' :: cs) (consText (String.ofList q) ns) rest := by
  obtain ⟨hle, hm⟩ := h
  exact message_of_quoted hq hm

theorem consText_consText (s t : String) (ns : List Node) :
    consText s (consText t ns) = consText (s ++ t) ns := by
  cases ns with
  | nil => simp [consText]
  | cons n ns => cases n <;> simp [consText, String.append_assoc]

theorem consText_singleton (c : Char) (r : List Char) (ns : List Node) :
    consText (String.singleton c) (consText (String.ofList r) ns) =
      consText (String.ofList (c :: r)) ns := by
  rw [consText_consText, String.singleton_eq_ofList, ← String.ofList_append]
  rfl

/-- A printed text is read up to what follows it, unless that is an apostrophe. -/
theorem readsMessage_printText (hrest : cs.head? ≠ some '\'')
    (h : ReadsMessage levels inPlural nested cs ns rest) {text : List Char} (hne : text ≠ []) :
    ReadsMessage levels inPlural nested (printText inPlural text ++ cs)
      (consText (String.ofList text) ns) rest := by
  induction text with
  | nil => exact absurd rfl hne
  | cons c r ih =>
    -- The text after the first character, which may be empty.
    have hafter : ∃ ms, ReadsMessage levels inPlural nested (printText inPlural r ++ cs) ms rest ∧
        consText (String.singleton c) ms = consText (String.ofList (c :: r)) ns := by
      cases r with
      | nil => exact ⟨ns, h, by rw [String.singleton_eq_ofList]⟩
      | cons d r => exact ⟨_, ih (List.cons_ne_nil _ _), consText_singleton c _ ns⟩
    obtain ⟨ms, hms, htext⟩ := hafter
    rw [printText]
    split
    · rename_i hopen
      have hc : c ≠ '\'' := by
        rintro rfl
        simp [opensQuote] at hopen
      have hrun : quoted inPlural (doubled (c :: r) ++ '\'' :: cs) = (c :: r, cs) := by
        have hall := quotedRun_doubled (c :: r) hrest
        rw [doubled, if_neg hc, List.cons_append] at hall ⊢
        rw [quoted, if_neg hc, if_pos hopen, hall]
      have hread := readsMessage_quoted hrun h
      simpa using hread
    · rename_i hopen
      rw [← htext]
      split
      · rename_i hc
        subst hc
        exact readsMessage_quoted rfl hms
      · rename_i hc
        exact readsMessage_char (by simpa using hopen) hc hms

theorem consText_of_not_isText {s : String} (h : ∀ m ∈ ns.head?, m.isText = false) :
    consText s ns = .text s :: ns := by
  cases ns with
  | nil => rfl
  | cons n ns =>
    cases n with
    | text t => cases h _ rfl
    | _ => rfl

/-! ## Heads of arguments -/

theorem keyword_chars {keyword : String} {k : Kind} (h : Kind.ofKeyword? keyword = some k) :
    keyword.toList ≠ [] ∧
      ∀ c ∈ keyword.toList, isKeywordChar c = true ∧ Text.isBlank c = false := by
  have hchars : keyword.toList ≠ [] ∧
      keyword.toList.all (fun c => isKeywordChar c && !Text.isBlank c) = true := by
    unfold Kind.ofKeyword? at h
    split at h
    case h_7 => cases h
    all_goals decide
  refine ⟨hchars.1, fun c hc => ?_⟩
  simpa using List.all_eq_true.1 hchars.2 c hc

/-- A keyword is read up to the comma or the brace behind it. -/
theorem kind_print {keyword : String} {k : Kind} (h : Kind.ofKeyword? keyword = some k)
    (hrest : ∀ c ∈ rest.head?, c = ',' ∨ c = '\x7d') :
    ∃ hr, kind (' ' :: (keyword.toList ++ rest)) = .ok (k, ⟨rest, hr⟩) := by
  obtain ⟨hne, hchars⟩ := keyword_chars h
  have hstop : ∀ c ∈ rest.head?, isKeywordChar c = false ∧ Text.isBlank c = false := by
    intro c hc
    rcases hrest c hc with rfl | rfl <;> decide
  have hstart : Text.skipBlanks (' ' :: (keyword.toList ++ rest)) = keyword.toList ++ rest := by
    obtain ⟨c, r, hcons⟩ := List.exists_cons_of_ne_nil hne
    apply skipBlanks_space
    intro d hd
    rw [hcons] at hd
    cases hd
    exact (hchars _ (hcons ▸ List.mem_cons_self)).2
  have hletters : ∀ c ∈ keyword.toList, isKeywordChar c = true := fun c hc => (hchars c hc).1
  have hend : ∀ c ∈ rest.head?, isKeywordChar c = false := fun c hc => (hstop c hc).1
  refine ⟨by simp; omega, ?_⟩
  simp only [kind, hstart, Text.takeWhile_append_stop hletters hend,
    Text.dropWhile_append_stop hletters hend, skipBlanks_of_head fun c hc => (hstop c hc).2,
    List.isEmpty_iff, if_neg hne, String.ofList_toList, h]

theorem head_simple {name : String} (hname : IsName name) {before after : List Char}
    (hbefore : ∀ c ∈ before, Text.isBlank c = true) (hafter : ∀ c ∈ after, Text.isBlank c = true)
    (rest : List Char) :
    ∃ hr, head (before ++ (name.toList ++ (after ++ '\x7d' :: rest))) =
      .ok (.simple name ⟨rest, hr⟩) := by
  obtain ⟨htake, hdrop⟩ := hname.read hbefore hafter (d := '\x7d') rfl rfl rest
  refine ⟨by simp; omega, ?_⟩
  rw [head]
  simp only [htake, List.isEmpty_iff, if_neg hname.ne_nil, String.ofList_toList]
  split
  · rename_i hnil
    rw [hdrop] at hnil
    cases hnil
  · rename_i d t hcons
    rw [hdrop] at hcons
    cases hcons
    simp

theorem head_typed {name : String} (hname : IsName name) {keyword : String} {k : Kind}
    (h : Kind.ofKeyword? keyword = some k) (hrest : ∀ c ∈ rest.head?, c = ',' ∨ c = '\x7d') :
    ∃ hr, head (name.toList ++ ',' :: ' ' :: (keyword.toList ++ rest)) =
      .ok (.typed name k ⟨rest, hr⟩) := by
  have hnone : ∀ c ∈ ([] : List Char), Text.isBlank c = true := fun _ hc => nomatch hc
  obtain ⟨htake, hdrop⟩ := hname.read hnone hnone (d := ',') rfl rfl
    (' ' :: (keyword.toList ++ rest))
  obtain ⟨hle, hkind⟩ := kind_print h hrest
  simp only [List.nil_append] at htake hdrop
  refine ⟨by simp at hle ⊢; omega, ?_⟩
  rw [head]
  simp only [htake, List.isEmpty_iff, if_neg hname.ne_nil, String.ofList_toList]
  split
  · rename_i hnil
    rw [hdrop] at hnil
    cases hnil
  · rename_i d t hcons
    rw [hdrop] at hcons
    cases hcons
    simp [hkind]

theorem head_plural {name : String} (hname : IsName name) (ordinal : Bool) (rest : List Char) :
    ∃ hr, head (name.toList ++ ',' :: ' ' :: ((pluralKeyword ordinal).toList ++ ',' :: rest)) =
      .ok (.typed name (.plural ordinal) ⟨',' :: rest, hr⟩) := by
  have hkind : Kind.ofKeyword? (pluralKeyword ordinal) = some (.plural ordinal) := by
    cases ordinal <;> rfl
  have hnext : ∀ c ∈ (',' :: rest).head?, c = ',' ∨ c = '\x7d' := by simp
  exact head_typed hname hkind hnext

/-! ## Arguments -/

theorem close_brace (rest : List Char) :
    ∃ hr, close ('\x7d' :: rest) = .ok ⟨rest, hr⟩ :=
  ⟨by simp, rfl⟩

theorem readsArgument_simple {name raw : String} (hname : IsName name) (hraw : IsSource name raw)
    (rest : List Char) : ∃ cs, raw.toList ++ rest = '\x7b' :: cs ∧
      ReadsArgument (levels + 1) cs (.argument name raw) rest := by
  obtain ⟨before, after, hbefore, hafter, hsource⟩ := hraw
  obtain ⟨hle, hhead⟩ := head_simple hname hbefore hafter rest
  refine ⟨before ++ (name.toList ++ (after ++ '\x7d' :: rest)), by simp [hsource], hle, ?_⟩
  have hcs : before ++ (name.toList ++ (after ++ '\x7d' :: rest)) =
      before ++ (name.toList ++ (after ++ ['\x7d'])) ++ rest := by simp
  have hfront : ∀ front : List Char,
      (front ++ rest).take ((front ++ rest).length - rest.length) = front := by simp
  rw [argument, hhead]
  simp only [hcs, hfront, ← hsource, String.ofList_toList]

/-- A number, a date or a time is read with its style. -/
theorem readsArgument_styled {name keyword : String} (hname : IsName name) {s : Option String}
    (hs : ∀ t ∈ s, IsStyle t) {k : Kind} (hk : Kind.ofKeyword? keyword = some k) {n : Node}
    (hn : k = .number ∧ n = .number name s ∨ ∃ d, k = .moment d ∧ n = .moment d name s)
    (rest : List Char) :
    ReadsArgument (levels + 1)
      (name.toList ++ ',' :: ' ' :: (keyword.toList ++ (printStyle s ++ '\x7d' :: rest))) n
      rest := by
  obtain ⟨hstyle, hread⟩ := style_printStyle hs rest
  obtain ⟨hclose, hbrace⟩ := close_brace rest
  have hnext : ∀ c ∈ (printStyle s ++ '\x7d' :: rest).head?, c = ',' ∨ c = '\x7d' := by
    cases s <;> simp [printStyle]
  obtain ⟨hle, hhead⟩ := head_typed hname hk hnext
  refine ⟨by simp at hle hstyle ⊢; omega, ?_⟩
  rw [argument, hhead]
  rcases hn with ⟨rfl, rfl⟩ | ⟨d, rfl, rfl⟩
  · simp only [hread, hbrace]
  · simp only [hread, hbrace]

theorem expect_self (c : Char) (rest : List Char) :
    ∃ hr, expect c (c :: rest) = .ok ⟨rest, hr⟩ :=
  ⟨by simp, by simp [expect]⟩

theorem readsArgument_select {name : String} (hname : IsName name)
    {arms : List (String × List Node)}
    (h : ReadsArms levels false [] cs arms ('\x7d' :: rest)) :
    ReadsArgument (levels + 1) (name.toList ++ ',' :: ' ' :: ("select".toList ++ ',' :: cs))
      (.select name arms) rest := by
  obtain ⟨harms, hoptions⟩ := h
  obtain ⟨hcomma, hexpect⟩ := expect_self ',' cs
  obtain ⟨hclose, hbrace⟩ := close_brace rest
  have hkind : Kind.ofKeyword? "select" = some .select := rfl
  have hnext : ∀ c ∈ (',' :: cs).head?, c = ',' ∨ c = '\x7d' := by simp
  obtain ⟨hle, hhead⟩ := head_typed hname hkind hnext
  refine ⟨by simp at hle harms ⊢; omega, ?_⟩
  rw [argument, hhead]
  simp only [hexpect, hoptions, hbrace]

theorem offset_print {n : Nat} (hn : Literal.isWritable (Int.ofNat n) = true)
    (hrest : ∀ c ∈ rest.head?, Text.isDigit c = false) :
    ∃ hr, offset ("offset:".toList ++ (Text.natDigits n ++ rest)) = .ok (n, ⟨rest, hr⟩) := by
  have hcut := cutOffset?_print n hrest
  refine ⟨length_cutOffset?_le hcut, ?_⟩
  unfold offset
  split
  · rename_i hnone
    rw [hcut] at hnone
    cases hnone
  · rename_i ds r hsome
    rw [hcut] at hsome
    cases hsome
    simp only [Literal.natOfDigits_natDigits hn]

theorem readsArgument_plural {name : String} (hname : IsName name) {n : Nat} (ordinal : Bool)
    (hn : Literal.isWritable (Int.ofNat n) = true) {arms : List (String × List Node)}
    (hcs : ∀ c ∈ cs.head?, Text.isDigit c = false)
    (h : ReadsArms levels true [] cs arms ('\x7d' :: rest)) :
    ReadsArgument (levels + 1)
      (name.toList ++ ',' :: ' ' :: ((pluralKeyword ordinal).toList ++
        ',' :: ' ' :: ("offset:".toList ++ (Text.natDigits n ++ cs))))
      (.plural name n ordinal arms) rest := by
  obtain ⟨harms, hoptions⟩ := h
  obtain ⟨hoffset, hread⟩ := offset_print hn hcs
  obtain ⟨hcomma, hexpect⟩ :=
    expect_self ',' (' ' :: ("offset:".toList ++ (Text.natDigits n ++ cs)))
  obtain ⟨hclose, hbrace⟩ := close_brace rest
  obtain ⟨hle, hhead⟩ :=
    head_plural hname ordinal (' ' :: ("offset:".toList ++ (Text.natDigits n ++ cs)))
  have hblank : offset (Text.skipBlanks (' ' :: ("offset:".toList ++ (Text.natDigits n ++ cs)))) =
      .ok (n, ⟨cs, hoffset⟩) := hread
  refine ⟨by simp at hle hoffset harms ⊢; omega, ?_⟩
  rw [argument, hhead]
  simp only [hexpect, hblank, hoptions, hbrace]

/-! ## Arms -/

theorem readsArms_end {seen : List String} (h : "other" ∈ seen)
    (hend : (Text.skipBlanks cs).head? = some '\x7d') :
    ReadsArms levels inPlural seen cs [] (Text.skipBlanks cs) := by
  refine ⟨Text.length_skipBlanks_le cs, ?_⟩
  rw [options]
  simp [hend, h]

/-- An arm is read when its selector has not been read before. -/
theorem readsArms_arm {seen : List String} {selector : String} {after arm more : List Char}
    {arms : List (String × List Node)}
    (hcut : cutSelector (Text.skipBlanks cs) = (selector.toList, after))
    (hne : selector.toList ≠ []) (hnew : selector ∉ seen)
    (hopen : Text.skipBlanks after = '\x7b' :: arm)
    (hmessage : ReadsMessage levels inPlural true arm ns ('\x7d' :: more))
    (harms : ReadsArms levels inPlural (selector :: seen) more arms rest) :
    ReadsArms levels inPlural seen cs ((selector, ns) :: arms) rest := by
  obtain ⟨hle, hm⟩ := hmessage
  obtain ⟨hrest, ho⟩ := harms
  have hstart : ((Text.skipBlanks cs).isEmpty ||
      (Text.skipBlanks cs).head? == some '\x7d') = false := by
    rw [Bool.eq_false_iff]
    intro hstop
    generalize Text.skipBlanks cs = start at hcut hstop
    cases start with
    | nil => exact hne (Prod.mk.inj hcut).1.symm
    | cons c r =>
      obtain rfl : c = '\x7d' := by simpa using hstop
      exact hne (Prod.mk.inj hcut).1.symm
  have hlength : rest.length ≤ cs.length := by
    have hselector := length_cutSelector_le (Text.skipBlanks cs)
    have hafter := Text.length_skipBlanks_le after
    have hblank := Text.length_skipBlanks_le cs
    rw [hcut] at hselector
    rw [hopen] at hafter
    simp only [List.length_cons] at hafter hle hselector
    omega
  obtain ⟨hbrace, hexpect⟩ : ∃ hr, expect '\x7b'
      (Text.skipBlanks (cutSelector (Text.skipBlanks cs)).2) = .ok ⟨arm, hr⟩ := by
    rw [hcut, hopen]
    exact expect_self '\x7b' arm
  obtain ⟨hclose, hend⟩ := expect_self '\x7d' more
  refine ⟨hlength, ?_⟩
  rw [options]
  simp only [hstart, hcut, String.ofList_toList, List.isEmpty_iff, hne, List.contains_iff_mem, hnew,
    Bool.false_eq_true, if_false, hexpect, hm, hend, ho]

/-- A printed arm is read. -/
theorem readsArms_printArm {seen : List String} {selector : String} (hselector : IsSelector selector)
    (hnew : selector ∉ seen) {more : List Char} {arms : List (String × List Node)}
    (hmessage : ReadsMessage levels inPlural true cs ns ('\x7d' :: more))
    (harms : ReadsArms levels inPlural (selector :: seen) more arms rest) :
    ReadsArms levels inPlural seen (' ' :: (selector.toList ++ ' ' :: '\x7b' :: cs))
      ((selector, ns) :: arms) rest := by
  have hblank : Text.skipBlanks (' ' :: (selector.toList ++ ' ' :: '\x7b' :: cs)) =
      selector.toList ++ ' ' :: '\x7b' :: cs := by
    apply skipBlanks_space
    intro c hc
    obtain ⟨d, r, hcons⟩ := List.exists_cons_of_ne_nil hselector.ne_nil
    have hd := hselector.isSelectorChar_head hcons
    rw [hcons] at hc
    cases hc
    simp only [isSelectorChar, Bool.not_eq_true', Bool.or_eq_false_iff] at hd
    exact hd.1.1
  have hcut : cutSelector (Text.skipBlanks (' ' :: (selector.toList ++ ' ' :: '\x7b' :: cs))) =
      (selector.toList, ' ' :: '\x7b' :: cs) := by
    rw [hblank, hselector.read]
  exact readsArms_arm hcut hselector.ne_nil hnew rfl hmessage harms

/-! ## Messages -/

theorem readsMessage_end (h : rest = [] ∨ nested = true ∧ rest.head? = some '\x7d') :
    ReadsMessage levels inPlural nested rest [] rest := by
  refine ⟨Nat.le_refl _, ?_⟩
  cases rest with
  | nil => rw [message]
  | cons c r =>
    obtain ⟨rfl, hc⟩ := h.resolve_left (List.cons_ne_nil c r)
    cases hc
    rw [message]
    simp

theorem readsMessage_argument {n : Node} {more : List Char} (hn : ReadsArgument levels cs n more)
    (h : ReadsMessage levels inPlural nested more ns rest) :
    ReadsMessage levels inPlural nested ('\x7b' :: cs) (n :: ns) rest := by
  obtain ⟨hmore, hargument⟩ := hn
  obtain ⟨hle, hm⟩ := h
  refine ⟨Nat.le_succ_of_le (Nat.le_trans hle hmore), ?_⟩
  rw [message, if_pos rfl]
  simp only [hargument, hm]

theorem readsMessage_pound (h : ReadsMessage levels true nested cs ns rest) :
    ReadsMessage levels true nested ('#' :: cs) (.pound :: ns) rest := by
  obtain ⟨hle, hm⟩ := h
  refine ⟨Nat.le_succ_of_le hle, ?_⟩
  rw [message, if_neg (by decide), if_neg (by decide), if_pos (by decide)]
  simp only [hm]

/-- What is printed for a node that is no text begins with no apostrophe. -/
theorem head?_printNode {n : Node} (hwf : n.IsWellFormed inPlural) (hn : n.isText = false)
    (rest : List Char) : (printNode inPlural n ++ rest).head? ≠ some '\'' := by
  cases n with
  | text s => cases hn
  | argument name raw =>
    obtain ⟨-, before, after, -, -, hraw⟩ := hwf
    simp [printNode, hraw]
  | pound => simp [printNode]
  | number name style => simp [printNode, printHead]
  | moment kind name style => simp [printNode, printHead]
  | select name arms => simp [printNode, printHead]
  | plural name offset ordinal arms => simp [printNode, printHead]

theorem head?_printNodes (hwf : AreWellFormed inPlural ns) (hns : ∀ m ∈ ns.head?, m.isText = false)
    (hrest : rest.head? ≠ some '\'') : (printNodes inPlural ns ++ rest).head? ≠ some '\'' := by
  cases ns with
  | nil => simpa [printNodes] using hrest
  | cons n ns =>
    rw [AreWellFormed] at hwf
    rw [printNodes, List.append_assoc]
    exact head?_printNode hwf.1 (hns n rfl) _

theorem hasWritableOffsets_append {xs ys : List Nat} :
    HasWritableOffsets (xs ++ ys) ↔ HasWritableOffsets xs ∧ HasWritableOffsets ys := by
  simp only [HasWritableOffsets, List.mem_append, or_imp, forall_and]

theorem hasWritableOffsets_cons {n : Nat} {xs : List Nat} :
    HasWritableOffsets (n :: xs) ↔
      Literal.isWritable (Int.ofNat n) = true ∧ HasWritableOffsets xs := by
  simp only [HasWritableOffsets, List.mem_cons, forall_eq_or_imp]

theorem head?_printArms (inPlural : Bool) (arms : List (String × List Node)) (rest : List Char) :
    ∀ c ∈ (printArms inPlural arms ++ '\x7d' :: rest).head?, Text.isDigit c = false := by
  cases arms with
  | nil =>
    intro c hc
    rw [printArms] at hc
    cases hc
    decide
  | cons arm arms =>
    intro c hc
    rw [printArms] at hc
    cases hc
    decide

mutual

/-- A printed message is read up to its end. -/
theorem readsMessage_printNodes (levels : Nat) (inPlural nested : Bool) (ns : List Node)
    (rest : List Char) (hwf : AreWellFormed inPlural ns) (hdepth : depth ns ≤ levels)
    (hoffsets : HasWritableOffsets (offsets ns))
    (hend : rest = [] ∨ nested = true ∧ rest.head? = some '\x7d') :
    ReadsMessage levels inPlural nested (printNodes inPlural ns ++ rest) ns rest := by
  match ns with
  | [] =>
    rw [printNodes]
    exact readsMessage_end hend
  | n :: ns =>
    rw [AreWellFormed] at hwf
    obtain ⟨hn, hseparate, hns⟩ := hwf
    rw [depth, Nat.max_le] at hdepth
    rw [offsets, hasWritableOffsets_append] at hoffsets
    rw [printNodes, List.append_assoc]
    have hstop : rest.head? ≠ some '\'' := by
      rcases hend with rfl | ⟨-, h⟩ <;> simp_all
    have h := readsMessage_printNodes levels inPlural nested ns rest hns hdepth.2 hoffsets.2 hend
    exact readsMessage_printNode levels inPlural nested n _ ns rest hn hdepth.1 hoffsets.1
      (fun ht => ⟨hseparate ht, head?_printNodes hns (hseparate ht) hstop⟩) h

/-- A printed node is read in front of what is read after it. -/
theorem readsMessage_printNode (levels : Nat) (inPlural nested : Bool) (n : Node)
    (cs : List Char) (ns : List Node) (rest : List Char) (hwf : n.IsWellFormed inPlural)
    (hdepth : n.depth ≤ levels) (hoffsets : HasWritableOffsets n.offsets)
    (hnext : n.isText = true → (∀ m ∈ ns.head?, m.isText = false) ∧ cs.head? ≠ some '\'')
    (h : ReadsMessage levels inPlural nested cs ns rest) :
    ReadsMessage levels inPlural nested (printNode inPlural n ++ cs) (n :: ns) rest := by
  match n with
  | .text s =>
    obtain ⟨hns, hcs⟩ := hnext rfl
    rw [Node.IsWellFormed] at hwf
    have hread := readsMessage_printText hcs h hwf
    rwa [String.ofList_toList, consText_of_not_isText hns] at hread
  | .pound =>
    rw [Node.IsWellFormed] at hwf
    subst hwf
    exact readsMessage_pound h
  | .argument name raw =>
    rw [Node.IsWellFormed] at hwf
    rw [Node.depth] at hdepth
    obtain ⟨k, rfl⟩ := Nat.exists_eq_add_of_le' hdepth
    obtain ⟨body, hbody, hread⟩ := readsArgument_simple hwf.1 hwf.2 cs
    rw [printNode, hbody]
    exact readsMessage_argument hread h
  | .number name style =>
    rw [Node.IsWellFormed] at hwf
    rw [Node.depth] at hdepth
    obtain ⟨k, rfl⟩ := Nat.exists_eq_add_of_le' hdepth
    have hkind : Kind.ofKeyword? "number" = some .number := rfl
    have hread : ReadsArgument (k + 1) _ _ cs :=
      readsArgument_styled hwf.1 hwf.2 hkind (.inl ⟨rfl, rfl⟩) cs
    simpa [printNode, printHead] using readsMessage_argument hread h
  | .moment d name style =>
    rw [Node.IsWellFormed] at hwf
    rw [Node.depth] at hdepth
    obtain ⟨k, rfl⟩ := Nat.exists_eq_add_of_le' hdepth
    have hkind : Kind.ofKeyword? d.keyword = some (.moment d) := by cases d <;> rfl
    have hread : ReadsArgument (k + 1) _ _ cs :=
      readsArgument_styled hwf.1 hwf.2 hkind (.inr ⟨d, rfl, rfl⟩) cs
    simpa [printNode, printHead] using readsMessage_argument hread h
  | .select name arms =>
    rw [Node.IsWellFormed] at hwf
    obtain ⟨hname, hselectors, harms⟩ := hwf
    rw [Node.depth] at hdepth
    rw [Node.offsets] at hoffsets
    obtain ⟨k, rfl⟩ := Nat.exists_eq_add_of_le' hdepth
    have hread := readsArms_printArms (k + armsDepth arms) false [] arms cs harms
      (Nat.le_add_left _ _) hoffsets hselectors.selectors hselectors.nodup (by simp)
      (.inr hselectors.other)
    simpa [printNode, printHead, Nat.add_assoc] using
      readsMessage_argument (readsArgument_select hname hread) h
  | .plural name offset ordinal arms =>
    rw [Node.IsWellFormed] at hwf
    obtain ⟨hname, hselectors, harms⟩ := hwf
    rw [Node.depth] at hdepth
    rw [Node.offsets, hasWritableOffsets_cons] at hoffsets
    obtain ⟨k, rfl⟩ := Nat.exists_eq_add_of_le' hdepth
    have hread := readsArms_printArms (k + armsDepth arms) true [] arms cs harms
      (Nat.le_add_left _ _) hoffsets.2 hselectors.selectors hselectors.nodup (by simp)
      (.inr hselectors.other)
    simpa [printNode, printHead, Nat.add_assoc] using
      readsMessage_argument
        (readsArgument_plural hname ordinal hoffsets.1 (head?_printArms true arms cs) hread) h

/-- Printed arms are read up to the brace that closes the argument. -/
theorem readsArms_printArms (levels : Nat) (inPlural : Bool) (seen : List String)
    (arms : List (String × List Node)) (rest : List Char)
    (hwf : HaveWellFormedArms inPlural arms) (hdepth : armsDepth arms ≤ levels)
    (hoffsets : HasWritableOffsets (armsOffsets arms))
    (hselectors : ∀ s ∈ Entries.keys arms, IsSelector s) (hnodup : (Entries.keys arms).Nodup)
    (hnew : ∀ s ∈ Entries.keys arms, s ∉ seen)
    (hother : "other" ∈ seen ∨ "other" ∈ Entries.keys arms) :
    ReadsArms levels inPlural seen (printArms inPlural arms ++ '\x7d' :: rest) arms
      ('\x7d' :: rest) := by
  match arms with
  | [] =>
    rw [printArms]
    exact readsArms_end (hother.resolve_right (by simp [Entries.keys])) rfl
  | (selector, ns) :: arms =>
    rw [HaveWellFormedArms] at hwf
    rw [armsDepth, Nat.max_le] at hdepth
    rw [armsOffsets, hasWritableOffsets_append] at hoffsets
    simp only [Entries.keys, List.map_cons, List.mem_cons, forall_eq_or_imp, List.nodup_cons]
      at hselectors hnodup hnew hother
    have hmore := readsArms_printArms levels inPlural (selector :: seen) arms rest hwf.2 hdepth.2
      hoffsets.2 hselectors.2 hnodup.2
      (fun s hs => List.not_mem_cons_of_ne_of_not_mem (fun h => hnodup.1 (h ▸ hs)) (hnew.2 s hs))
      (by rcases hother with h | rfl | h <;> simp_all [Entries.keys])
    have hmessage := readsMessage_printNodes levels inPlural true ns
      ('\x7d' :: (printArms inPlural arms ++ '\x7d' :: rest)) hwf.1 hdepth.1 hoffsets.1
      (.inr ⟨rfl, rfl⟩)
    simpa [printArms] using readsArms_printArm hselectors.1 hnew.1 hmessage hmore

end

/-- Parsing undoes printing, for every well-formed message that is not nested too deeply and whose
offsets can be written. -/
theorem parse_print (nodes : List Node) (hwf : AreWellFormed false nodes)
    (hdepth : depth nodes ≤ maxNesting) (hoffsets : HasWritableOffsets (offsets nodes)) :
    parse (print nodes) = .ok nodes := by
  have hread := readsMessage_printNodes maxNesting false false nodes [] hwf hdepth hoffsets
    (.inl rfl)
  have hprinted : printNodes false nodes ++ [] = (print nodes).toList := by
    rw [List.append_nil, print, String.toList_ofList]
  rw [hprinted] at hread
  obtain ⟨hle, hm⟩ := hread
  simp only [parse, hm]

/-- A message with quoted text, styles, and a choice inside a plural argument. -/
def inboxNodes : List Node :=
  [.text "It's \x7b'#", .argument "who" "\x7b who \x7d",
    .plural "n" 1 false
      [("=0", [.text "no '#'"]),
        ("other", [.pound, .text " of ", .select "g" [("other", [.text "#"])]])],
    .number "size" (some "0.00"), .moment .date "day" (some "yyyy \x7by\x7d"), .text "'"]

theorem parse_print_inboxNodes :
    AreWellFormed false inboxNodes ∧ depth inboxNodes ≤ maxNesting ∧
      HasWritableOffsets (offsets inboxNodes) ∧ parse (print inboxNodes) = .ok inboxNodes := by
  have hsource : IsSource "who" "\x7b who \x7d" :=
    ⟨[' '], [' '], isBlank_of_mem_space, isBlank_of_mem_space, by decide⟩
  have hwf : AreWellFormed false inboxNodes := by
    simp only [inboxNodes, AreWellFormed, Node.IsWellFormed, HaveWellFormedArms, hsource]
    decide
  have hdepth : depth inboxNodes ≤ maxNesting := by decide
  have hone : 1 < 10 ^ Literal.maxIntDigits :=
    Nat.lt_of_lt_of_le (by decide) (Nat.lt_pow_self (by decide))
  have hoffsets : HasWritableOffsets (offsets inboxNodes) := by
    intro n hn
    obtain rfl : n = 1 := List.mem_singleton.1 hn
    exact Literal.isWritable_ofNat_iff.2 hone
  exact ⟨hwf, hdepth, hoffsets, parse_print inboxNodes hwf hdepth hoffsets⟩

example : print inboxNodes = "It''s '\x7b''#'\x7b who \x7d\x7bn, plural, offset:1 " ++
    "=0 \x7bno '''#'''\x7d other \x7b# of \x7bg, select, other \x7b#\x7d\x7d\x7d\x7d" ++
    "\x7bsize, number, 0.00\x7d\x7bday, date, yyyy \x7by\x7d\x7d''" := by decide +kernel

/-! ## Offsets that are too long -/

theorem offset_print_eq_error {n : Nat} (hn : ¬ Literal.isWritable (Int.ofNat n) = true)
    (hrest : ∀ c ∈ rest.head?, Text.isDigit c = false) :
    ∃ left, offset ("offset:".toList ++ (Text.natDigits n ++ rest)) =
      .error ⟨.offsetTooLong (Text.natDigits n).length, left⟩ := by
  have hcut := cutOffset?_print n hrest
  refine ⟨("offset:".toList ++ (Text.natDigits n ++ rest)).length, ?_⟩
  unfold offset
  split
  · rename_i hnone
    rw [hcut] at hnone
    cases hnone
  · rename_i ds r hsome
    rw [hcut] at hsome
    cases hsome
    simp only [Literal.natOfDigits_natDigits_eq_error hn]

/-- An offset with too many digits is not read back, although it can be printed. -/
theorem parse_print_plural_eq_error {name : String} (hname : IsName name) {n : Nat}
    (hn : ¬ Literal.isWritable (Int.ofNat n) = true) (ordinal : Bool)
    (arms : List (String × List Node)) (ns : List Node) :
    ∃ position, parse (print (.plural name n ordinal arms :: ns)) =
      .error ⟨.offsetTooLong (Text.natDigits n).length, position⟩ := by
  have hcs := head?_printArms true arms (printNodes false ns)
  generalize hbody : printArms true arms ++ '\x7d' :: printNodes false ns = body at hcs
  have hprinted : (print (.plural name n ordinal arms :: ns)).toList =
      '\x7b' :: (name.toList ++ ',' :: ' ' :: ((pluralKeyword ordinal).toList ++
        ',' :: ' ' :: ("offset:".toList ++ (Text.natDigits n ++ body)))) := by
    simp [print, printNodes, printNode, printHead, ← hbody]
  obtain ⟨left, hread⟩ := offset_print_eq_error hn hcs
  have hblank : offset (Text.skipBlanks (' ' :: ("offset:".toList ++ (Text.natDigits n ++ body)))) =
      .error ⟨.offsetTooLong (Text.natDigits n).length, left⟩ := hread
  obtain ⟨hcomma, hexpect⟩ :=
    expect_self ',' (' ' :: ("offset:".toList ++ (Text.natDigits n ++ body)))
  obtain ⟨hle, hhead⟩ :=
    head_plural hname ordinal (' ' :: ("offset:".toList ++ (Text.natDigits n ++ body)))
  have hmessage :
      message maxNesting false false (print (.plural name n ordinal arms :: ns)).toList = .error
        ⟨.offsetTooLong (Text.natDigits n).length, left⟩ := by
    rw [hprinted, message, if_pos rfl, maxNesting, argument, hhead]
    simp only [hexpect, hblank]
  refine ⟨(print (.plural name n ordinal arms :: ns)).toList.length - left, ?_⟩
  simp only [parse, hmessage]

/-- Without the condition on offsets, not every well-formed message is read back. -/
theorem not_forall_parse_print :
    ¬ ∀ nodes : List Node, AreWellFormed false nodes → depth nodes ≤ maxNesting →
      parse (print nodes) = .ok nodes := by
  intro h
  have harms : HasSelectors [("other", [])] := by decide
  have hname : IsName "n" := by decide
  have hlong : ¬ Literal.isWritable (Int.ofNat (10 ^ Literal.maxIntDigits)) = true := by
    rw [Literal.isWritable_ofNat_iff]
    exact Nat.lt_irrefl _
  have hwf : AreWellFormed false
      [.plural "n" (10 ^ Literal.maxIntDigits) false [("other", [])]] := by
    simp only [AreWellFormed, Node.IsWellFormed, HaveWellFormedArms, harms, hname]
    simp
  have hread := h _ hwf (by decide)
  obtain ⟨position, hfail⟩ := parse_print_plural_eq_error hname hlong false [("other", [])] []
  rw [hfail] at hread
  cases hread

end Polyglot.Message
