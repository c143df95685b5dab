import Polyglot.Proofs.Message.ReadLexeme
import Polyglot.Proofs.Message.Recovery

/-!
# Parsed messages

Every message that the parser accepts is well formed at every depth, and it is nested no deeper than
the parser allows. Rendering such a message therefore finds an arm for every value, and comes to `#`
only where the number it stands for is known.
-/
namespace Polyglot.Message

/-! ## All nodes of a message -/

mutual

/-- Some nodes together with the nodes in their arms, at every depth. -/
def everyNode : List Node → List Node
  | [] => []
  | n :: ns => n.everyNode ++ everyNode ns

/-- A node together with the nodes in its arms, at every depth. -/
def Node.everyNode : Node → List Node
  | .select name arms => .select name arms :: everyArmNode arms
  | .plural name offset ordinal arms => .plural name offset ordinal arms :: everyArmNode arms
  | n => [n]

/-- The nodes in some arms, at every depth. -/
def everyArmNode : List (String × List Node) → List Node
  | [] => []
  | (_, nodes) :: arms => Message.everyNode nodes ++ everyArmNode arms

end

def Node.arms : Node → List (String × List Node)
  | .select _ arms => arms
  | .plural _ _ _ arms => arms
  | _ => []

/-- Whether a simple argument is a part of a text. -/
def Node.IsWithin (cs : List Char) : Node → Prop
  | .argument _ raw => raw.toList <:+: cs
  | _ => True

theorem Node.IsWithin.mono {n : Node} {cs ds : List Char} (h : n.IsWithin cs) (hcs : cs <:+: ds) :
    n.IsWithin ds := by
  cases n with
  | argument name raw => exact List.IsInfix.trans h hcs
  | _ => trivial

/-! ## What the parser yields -/

/-- Whether some nodes can have been read from the front of a text. -/
structure IsMessageOf (levels : Nat) (inPlural : Bool) (cs : List Char) (nodes : List Node)
    (rest : List Char) : Prop where
  wellFormed : AreWellFormed inPlural nodes
  nesting : depth nodes ≤ levels
  within : ∀ n ∈ everyNode nodes, n.IsWithin cs
  suffix : rest <:+ cs

/-- Whether an argument can have been read from the front of a text; its opening brace is read. -/
structure IsArgumentOf (levels : Nat) (cs : List Char) (n : Node) (rest : List Char) : Prop where
  wellFormed : ∀ inPlural, n.IsWellFormed inPlural
  not_isText : n.isText = false
  nesting : n.depth ≤ levels
  within : ∀ m ∈ n.everyNode, m.IsWithin ('\x7b' :: cs)
  suffix : rest <:+ cs

/-- Whether some arms can have been read from the front of a text, after other selectors. -/
structure AreArmsOf (levels : Nat) (inPlural : Bool) (seen : List String) (cs : List Char)
    (arms : List (String × List Node)) (rest : List Char) : Prop where
  wellFormed : HaveWellFormedArms inPlural arms
  nodup : (Entries.keys arms).Nodup
  new : ∀ s ∈ Entries.keys arms, s ∉ seen
  other : "other" ∈ seen ∨ "other" ∈ Entries.keys arms
  selectors : ∀ s ∈ Entries.keys arms, IsSelector s
  nesting : armsDepth arms ≤ levels
  within : ∀ n ∈ everyArmNode arms, n.IsWithin cs
  suffix : rest <:+ cs

/-! ## Literal text -/

section ConsText

variable {inPlural : Bool} {s : String} {nodes : List Node}

/-- Literal text joins the text that a message begins with, or stands in front of it. -/
theorem consText_cases (s : String) (nodes : List Node) :
    (∃ t ns, nodes = .text t :: ns ∧ consText s nodes = .text (s ++ t) :: ns) ∨
      (∀ m ∈ nodes.head?, m.isText = false) ∧ consText s nodes = .text s :: nodes := by
  match nodes with
  | [] => exact .inr ⟨nofun, rfl⟩
  | n :: ns =>
    by_cases hn : n.isText = true
    · cases n with
      | text t => exact .inl ⟨t, ns, rfl, rfl⟩
      | _ => cases hn
    · have hne : ∀ m ∈ (n :: ns).head?, m.isText = false := by simpa using hn
      exact .inr ⟨hne, consText_of_not_isText hne⟩

theorem areWellFormed_consText (hs : s.toList ≠ []) (h : AreWellFormed inPlural nodes) :
    AreWellFormed inPlural (consText s nodes) := by
  obtain ⟨t, ns, rfl, heq⟩ | ⟨hne, heq⟩ := consText_cases s nodes
  · rw [heq]
    rw [AreWellFormed] at h ⊢
    have hjoined : (s ++ t).toList ≠ [] := by simp [hs]
    exact ⟨hjoined, h.2⟩
  · rw [heq, AreWellFormed]
    exact ⟨hs, fun _ => hne, h⟩

theorem depth_consText : depth (consText s nodes) = depth nodes := by
  obtain ⟨t, ns, rfl, heq⟩ | ⟨-, heq⟩ := consText_cases s nodes <;>
    simp [heq, depth, Node.depth]

theorem mem_everyNode_consText {n : Node} (h : n ∈ everyNode (consText s nodes)) :
    n.isText = true ∨ n ∈ everyNode nodes := by
  have htext : ∀ t ns, n ∈ everyNode (.text t :: ns) → n.isText = true ∨ n ∈ everyNode ns := by
    intro t ns hn
    rw [everyNode, List.mem_append] at hn
    refine hn.imp_left fun hn => ?_
    obtain rfl : n = .text t := by simpa [Node.everyNode] using hn
    rfl
  obtain ⟨t, ns, rfl, heq⟩ | ⟨-, heq⟩ := consText_cases s nodes
  · rw [heq] at h
    refine (htext _ _ h).imp_right fun hn => ?_
    rw [everyNode]
    exact List.mem_append_right _ hn
  · rw [heq] at h
    exact htext _ _ h

end ConsText

/-! ## Soundness of the parser -/

section Soundness

variable {levels : Nat} {inPlural : Bool} {cs front rest : List Char} {nodes : List Node}

theorem IsMessageOf.nil (hrest : rest <:+ cs) : IsMessageOf levels inPlural cs [] rest where
  wellFormed := by rw [AreWellFormed]; trivial
  nesting := by rw [depth]; exact Nat.zero_le _
  within := by simp [everyNode]
  suffix := hrest

theorem IsMessageOf.consText (h : IsMessageOf levels inPlural cs nodes rest) {s : String}
    (hs : s.toList ≠ []) (hcs : cs <:+ front) :
    IsMessageOf levels inPlural front (consText s nodes) rest where
  wellFormed := areWellFormed_consText hs h.wellFormed
  nesting := depth_consText.symm ▸ h.nesting
  within := by
    intro n hn
    rcases mem_everyNode_consText hn with htext | hn
    · cases n with
      | text t => trivial
      | _ => cases htext
    · exact (h.within n hn).mono hcs.isInfix
  suffix := h.suffix.trans hcs

theorem IsMessageOf.pound (h : IsMessageOf levels true cs nodes rest) :
    IsMessageOf levels true ('#' :: cs) (.pound :: nodes) rest where
  wellFormed := by
    rw [AreWellFormed, Node.IsWellFormed]
    exact ⟨rfl, nofun, h.wellFormed⟩
  nesting := by simpa [depth, Node.depth] using h.nesting
  within := by
    intro n hn
    rw [everyNode, List.mem_append] at hn
    rcases hn with hn | hn
    · obtain rfl : n = .pound := by simpa [Node.everyNode] using hn
      trivial
    · exact (h.within n hn).mono (List.suffix_cons _ _).isInfix
  suffix := h.suffix.trans (List.suffix_cons _ _)

theorem IsArgumentOf.cons {n : Node} {more : List Char} (hn : IsArgumentOf levels cs n more)
    (h : IsMessageOf levels inPlural more nodes rest) :
    IsMessageOf levels inPlural ('\x7b' :: cs) (n :: nodes) rest where
  wellFormed := by
    rw [AreWellFormed]
    refine ⟨hn.wellFormed inPlural, fun ht => ?_, h.wellFormed⟩
    rw [hn.not_isText] at ht
    cases ht
  nesting := by
    rw [depth]
    exact Nat.max_le.2 ⟨hn.nesting, h.nesting⟩
  within := by
    intro m hm
    rw [everyNode, List.mem_append] at hm
    rcases hm with hm | hm
    · exact hn.within m hm
    · exact (h.within m hm).mono (hn.suffix.trans (List.suffix_cons _ _)).isInfix
  suffix := h.suffix.trans (hn.suffix.trans (List.suffix_cons _ _))

/-- The source of a simple argument is all that was read of the text for it. -/
theorem isWithin_simple (name : String) (k : Nat) (cs : List Char) :
    (Node.argument name (String.ofList ('\x7b' :: cs.take k))).IsWithin ('\x7b' :: cs) := by
  rw [Node.IsWithin, String.toList_ofList]
  exact (List.prefix_cons_inj '\x7b').2 (List.take_prefix k cs) |>.isInfix

/-- A style is read up to the brace that closes the argument. -/
theorem styled_sound {s : Option String} {r1 : NotLonger cs} {r2 : Shorter r1.1}
    (hstyle : style cs = .ok (s, r1)) (hclose : close r1.1 = .ok r2) :
    (∀ t ∈ s, IsStyle t) ∧ r2.1 <:+ cs := by
  obtain ⟨hsuffix, hs⟩ := style_sound hstyle
  obtain ⟨hne, hrest⟩ := close_suffix hclose
  exact ⟨hs hne, hrest.trans hsuffix⟩

/-- Every other argument than a choice stands alone. -/
theorem IsArgumentOf.single {n : Node} (hwf : ∀ b, n.IsWellFormed b) (htext : n.isText = false)
    (hdepth : n.depth = 1) (hevery : n.everyNode = [n]) (hwithin : n.IsWithin ('\x7b' :: cs))
    (hrest : rest <:+ cs) : IsArgumentOf (levels + 1) cs n rest where
  wellFormed := hwf
  not_isText := htext
  nesting := hdepth.symm ▸ Nat.succ_le_succ (Nat.zero_le _)
  within := by
    intro m hm
    rw [hevery, List.mem_singleton] at hm
    exact hm ▸ hwithin
  suffix := hrest

theorem isArgumentOf_number {name : String} (hname : IsName name) {s : Option String}
    (hs : ∀ t ∈ s, IsStyle t) (hrest : rest <:+ cs) :
    IsArgumentOf (levels + 1) cs (.number name s) rest := by
  have hwf : ∀ b, (Node.number name s).IsWellFormed b := by
    intro b
    rw [Node.IsWellFormed]
    exact ⟨hname, hs⟩
  exact .single hwf rfl (by rw [Node.depth]) (by simp [Node.everyNode]) trivial hrest

theorem isArgumentOf_moment (k : DateKind) {name : String} (hname : IsName name)
    {s : Option String} (hs : ∀ t ∈ s, IsStyle t) (hrest : rest <:+ cs) :
    IsArgumentOf (levels + 1) cs (.moment k name s) rest := by
  have hwf : ∀ b, (Node.moment k name s).IsWellFormed b := by
    intro b
    rw [Node.IsWellFormed]
    exact ⟨hname, hs⟩
  exact .single hwf rfl (by rw [Node.depth]) (by simp [Node.everyNode]) trivial hrest

section Arms

variable {seen : List String} {arms : List (String × List Node)} {more : List Char} {name : String}

theorem AreArmsOf.hasSelectors (h : AreArmsOf levels inPlural [] cs arms rest) :
    HasSelectors arms :=
  ⟨h.nodup, h.other.resolve_left (by simp), h.selectors⟩

/-- A node that chooses among arms can have been read if its arms can. -/
theorem AreArmsOf.choice (h : AreArmsOf levels inPlural [] more arms rest) {n : Node}
    (hwf : ∀ b, n.IsWellFormed b) (htext : n.isText = false) (hdepth : n.depth = armsDepth arms + 1)
    (hevery : n.everyNode = n :: everyArmNode arms) (hwithin : n.IsWithin ('\x7b' :: cs))
    (hmore : more <:+ cs) {tail : List Char} (htail : tail <:+ rest) :
    IsArgumentOf (levels + 1) cs n tail where
  wellFormed := hwf
  not_isText := htext
  nesting := hdepth.symm ▸ Nat.succ_le_succ h.nesting
  within := by
    intro m hm
    rw [hevery, List.mem_cons] at hm
    rcases hm with rfl | hm
    · exact hwithin
    · exact (h.within m hm).mono (hmore.trans (List.suffix_cons _ _)).isInfix
  suffix := htail.trans (h.suffix.trans hmore)

theorem AreArmsOf.select (h : AreArmsOf levels false [] more arms rest) (hname : IsName name)
    (hmore : more <:+ cs) {tail : List Char} (htail : tail <:+ rest) :
    IsArgumentOf (levels + 1) cs (.select name arms) tail := by
  have hwithin : (Node.select name arms).IsWithin ('\x7b' :: cs) := trivial
  refine h.choice (fun b => ?_) rfl (by rw [Node.depth]) (by rw [Node.everyNode]) hwithin hmore
    htail
  rw [Node.IsWellFormed]
  exact ⟨hname, h.hasSelectors, h.wellFormed⟩

theorem AreArmsOf.plural (h : AreArmsOf levels true [] more arms rest) (hname : IsName name)
    (offset : Nat) (ordinal : Bool) (hmore : more <:+ cs) {tail : List Char}
    (htail : tail <:+ rest) :
    IsArgumentOf (levels + 1) cs (.plural name offset ordinal arms) tail := by
  have hwithin : (Node.plural name offset ordinal arms).IsWithin ('\x7b' :: cs) := trivial
  refine h.choice (fun b => ?_) rfl (by rw [Node.depth]) (by rw [Node.everyNode]) hwithin hmore
    htail
  rw [Node.IsWellFormed]
  exact ⟨hname, h.hasSelectors, h.wellFormed⟩

theorem AreArmsOf.nil (hother : "other" ∈ seen) (hrest : rest <:+ cs) :
    AreArmsOf levels inPlural seen cs [] rest where
  wellFormed := by rw [HaveWellFormedArms]; trivial
  nodup := List.nodup_nil
  new := nofun
  other := .inl hother
  selectors := nofun
  nesting := by rw [armsDepth]; exact Nat.zero_le _
  within := by simp [everyArmNode]
  suffix := hrest

/-- An arm whose selector has not been read before goes in front of the arms read after it. -/
theorem AreArmsOf.cons {selector : String} {ds es : List Char}
    (h : AreArmsOf levels inPlural (selector :: seen) es arms rest)
    (hselector : IsSelector selector) (hnew : selector ∉ seen)
    (hnodes : IsMessageOf levels inPlural ds nodes more) (hds : ds <:+ cs) (hes : es <:+ cs) :
    AreArmsOf levels inPlural seen cs ((selector, nodes) :: arms) rest where
  wellFormed := by
    rw [HaveWellFormedArms]
    exact ⟨hnodes.wellFormed, h.wellFormed⟩
  nodup := List.nodup_cons.2 ⟨fun hs => h.new selector hs List.mem_cons_self, h.nodup⟩
  new := by
    intro s hs
    rcases List.mem_cons.1 hs with rfl | hs
    · exact hnew
    · exact fun hseen => h.new s hs (List.mem_cons_of_mem _ hseen)
  other := by
    rcases h.other with hother | hother
    · rcases List.mem_cons.1 hother with heq | hother
      · exact .inr (List.mem_cons.2 (.inl heq))
      · exact .inl hother
    · exact .inr (List.mem_cons_of_mem _ hother)
  selectors := by
    intro s hs
    rcases List.mem_cons.1 hs with rfl | hs
    · exact hselector
    · exact h.selectors s hs
  nesting := by
    rw [armsDepth]
    exact Nat.max_le.2 ⟨hnodes.nesting, h.nesting⟩
  within := by
    intro n hn
    rw [everyArmNode, List.mem_append] at hn
    rcases hn with hn | hn
    · exact (hnodes.within n hn).mono hds.isInfix
    · exact (h.within n hn).mono hes.isInfix
  suffix := h.suffix.trans hes

end Arms

mutual

/-- What is read as a message is one. -/
theorem message_sound (levels : Nat) (inPlural nested : Bool) (cs : List Char) (nodes : List Node)
    (rest : NotLonger cs) (h : message levels inPlural nested cs = .ok (nodes, rest)) :
    IsMessageOf levels inPlural cs nodes rest.1 := by
  match cs with
  | [] =>
    rw [message] at h
    cases h
    exact .nil (List.suffix_refl _)
  | c :: r =>
    rw [message] at h
    by_cases hopen : c = '\x7b'
    · rw [if_pos hopen] at h
      subst hopen
      split at h
      · cases h
      · rename_i n r1 h1 hn
        split at h <;> cases h
        rename_i ns r2 h2 hns
        exact (argument_sound levels r n ⟨r1, h1⟩ hn).cons
          (message_sound levels inPlural nested r1 ns ⟨r2, h2⟩ hns)
    rw [if_neg hopen] at h
    by_cases hclose : c = '\x7d'
    · rw [if_pos hclose] at h
      split at h <;> cases h
      exact .nil (List.suffix_refl _)
    rw [if_neg hclose] at h
    by_cases hpound : (inPlural && c == '#') = true
    · rw [if_pos hpound] at h
      split at h <;> cases h
      rename_i ns r1 h1 hns
      obtain ⟨rfl, rfl⟩ : inPlural = true ∧ c = '#' := by simpa using hpound
      exact (message_sound levels true nested r ns ⟨r1, h1⟩ hns).pound
    rw [if_neg hpound] at h
    by_cases hquote : c = '\''
    · rw [if_pos hquote] at h
      simp only at h
      have hlength := length_quoted_le inPlural r
      split at h <;> cases h
      rename_i ns r1 h1 hns
      have hmessage := message_sound levels inPlural nested (quoted inPlural r).2 ns ⟨r1, h1⟩ hns
      refine hmessage.consText ?_ ((quoted_suffix inPlural r).trans (List.suffix_cons _ _))
      rw [String.toList_ofList]
      exact quoted_ne_nil inPlural r
    · rw [if_neg hquote] at h
      split at h <;> cases h
      rename_i ns r1 h1 hns
      exact (message_sound levels inPlural nested r ns ⟨r1, h1⟩ hns).consText (by simp)
        (List.suffix_cons _ _)
termination_by cs.length
decreasing_by
  all_goals
    simp only [List.length_cons]
    omega

/-- What is read as an argument is one. -/
theorem argument_sound (levels : Nat) (cs : List Char) (n : Node) (rest : NotLonger cs)
    (h : argument levels cs = .ok (n, rest)) : IsArgumentOf levels cs n rest.1 := by
  match levels with
  | 0 =>
    rw [argument] at h
    cases h
  | inner + 1 =>
    rw [argument] at h
    split at h
    · cases h
    · rename_i name r h0 hhead
      cases h
      obtain ⟨hname, hr, hsource⟩ := head_sound hhead
      have hwf : ∀ b, (Node.argument name
          (String.ofList ('\x7b' :: cs.take (cs.length - r.length)))).IsWellFormed b := by
        intro b
        rw [Node.IsWellFormed]
        exact ⟨hname, hsource⟩
      exact .single hwf rfl (by rw [Node.depth]) (by simp [Node.everyNode])
        (isWithin_simple name _ cs) hr
    · rename_i name ordinal r h0 hhead
      obtain ⟨hname, hr⟩ := head_sound hhead
      split at h
      · cases h
      · rename_i r1 h1 hcomma
        have hr1 := suffix_of_expect hcomma
        have hblank := Text.length_skipBlanks_le r1
        simp only at h
        split at h
        · cases h
        · rename_i k r2 h2 hoffset
          have hr2 := offset_suffix hoffset
          split at h
          · cases h
          · rename_i arms r3 h3 harms
            split at h <;> cases h
            rename_i r4 h4 hclose
            exact (options_sound inner true [] r2 arms ⟨r3, h3⟩ harms).plural hname k ordinal
              (hr2.trans ((skipBlanks_suffix r1).trans (hr1.trans hr))) (close_suffix hclose).2
    · rename_i name r h0 hhead
      obtain ⟨hname, hr⟩ := head_sound hhead
      split at h
      · cases h
      · rename_i r1 h1 hcomma
        have hr1 := suffix_of_expect hcomma
        split at h
        · cases h
        · rename_i arms r2 h2 harms
          split at h <;> cases h
          rename_i r3 h3 hclose
          exact (options_sound inner false [] r1 arms ⟨r2, h2⟩ harms).select hname
            (hr1.trans hr) (close_suffix hclose).2
    · rename_i name r h0 hhead
      obtain ⟨hname, hr⟩ := head_sound hhead
      split at h
      · cases h
      · rename_i s r1 h1 hstyle
        split at h <;> cases h
        rename_i r2 h2 hclose
        obtain ⟨hs, hr2⟩ := styled_sound hstyle hclose
        exact isArgumentOf_number hname hs (hr2.trans hr)
    · rename_i name k r h0 hhead
      obtain ⟨hname, hr⟩ := head_sound hhead
      split at h
      · cases h
      · rename_i s r1 h1 hstyle
        split at h <;> cases h
        rename_i r2 h2 hclose
        obtain ⟨hs, hr2⟩ := styled_sound hstyle hclose
        exact isArgumentOf_moment k hname hs (hr2.trans hr)
termination_by cs.length
decreasing_by
  all_goals omega

/-- What is read as arms are such. -/
theorem options_sound (levels : Nat) (inPlural : Bool) (seen : List String) (cs : List Char)
    (arms : List (String × List Node)) (rest : NotLonger cs)
    (h : options levels inPlural seen cs = .ok (arms, rest)) :
    AreArmsOf levels inPlural seen cs arms rest.1 := by
  have hblank := skipBlanks_suffix cs
  have hcut := (cutSelector_suffix (Text.skipBlanks cs)).trans hblank
  rw [options] at h
  simp only at h
  split at h
  · split at h <;> cases h
    rename_i hother
    exact .nil (by simpa using hother) hblank
  split at h
  · cases h
  rename_i hselector
  split at h
  · cases h
  rename_i hnew
  split at h
  · cases h
  rename_i r1 h1 hopen
  have hr1 := (suffix_of_expect hopen).trans ((skipBlanks_suffix _).trans hcut)
  have hlt : r1.length < cs.length :=
    Nat.lt_of_lt_of_le h1 ((skipBlanks_suffix _).trans hcut).length_le
  split at h
  · cases h
  rename_i ns r2 h2 hmessage
  split at h
  · cases h
  rename_i r3 h3 hclose
  split at h <;> cases h
  rename_i more r4 h4 harms
  have hns := message_sound levels inPlural true r1 ns ⟨r2, h2⟩ hmessage
  have hr3 := (suffix_of_expect hclose).trans (hns.suffix.trans hr1)
  exact (options_sound levels inPlural _ r3 more ⟨r4, h4⟩ harms).cons
    (isSelector_cutSelector (List.isEmpty_iff.not.1 hselector)) (by simpa using hnew) hns hr1 hr3
termination_by cs.length
decreasing_by
  all_goals omega

end

end Soundness

/-! ## Whole messages -/

theorem parse_eq_error {s : String} {e : Failed}
    (h : message maxNesting false false s.toList = .error e) :
    parse s = .error ⟨e.fault, s.toList.length - e.left⟩ := by
  simp only [parse, h]

theorem parse_eq_ok_iff {s : String} {ns : List Node} :
    parse s = .ok ns ↔ ∃ rest, message maxNesting false false s.toList = .ok (ns, rest) := by
  rw [parse]
  cases message maxNesting false false s.toList with
  | error e => simp
  | ok p => simp [Prod.ext_iff]

end Polyglot.Message
