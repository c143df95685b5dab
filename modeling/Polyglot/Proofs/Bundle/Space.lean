import Polyglot.Bundle.History
import Polyglot.Client.Call
import Polyglot.Proofs.Entries

/-!
# Keys with a namespace

The keys that a namespace puts in front of its entries tell it from all other namespaces, and
the keys of the cache tell a language with a namespace from every other such pair. Both need
names without the delimiter.
-/
namespace Polyglot

/-! ## Names -/

/-- Whether a key is a text without the delimiter. -/
def Key.IsPlain (k : Key) : Prop := ∃ s, k = .text s ∧ ':' ∉ s.toList

/-- Whether a key is a text without the delimiter that is not empty. -/
def Key.IsSpace (k : Key) : Prop := k.IsPlain ∧ k ≠ .text ""

/-- Whether a key has a name and the delimiter in front. -/
def Key.IsUnder (name key : Key) : Prop :=
  ∃ rest, key = .text (name.display ++ keyDelimiter ++ rest)

theorem Key.isPlain_text_iff {s : String} : (Key.text s).IsPlain ↔ ':' ∉ s.toList := by
  simp [Key.IsPlain]

theorem takeWhile_delimiter {cs : List Char} (h : ':' ∉ cs) (rest : List Char) :
    (cs ++ ':' :: rest).takeWhile (· != ':') = cs := by
  have hall : ∀ c ∈ cs, (c != ':') = true := by
    intro c hc
    have hne : c ≠ ':' := by
      rintro rfl
      exact h hc
    simpa using hne
  rw [List.takeWhile_append_of_pos hall, List.takeWhile_cons]
  simp

theorem append_delimiter_inj {s t x y : String} (hs : ':' ∉ s.toList) (ht : ':' ∉ t.toList)
    (h : s ++ keyDelimiter ++ x = t ++ keyDelimiter ++ y) : s = t ∧ x = y := by
  have hlist : s.toList ++ ':' :: x.toList = t.toList ++ ':' :: y.toList := by
    have := congrArg String.toList h
    simpa [keyDelimiter, String.toList_append] using this
  have hfront : s.toList = t.toList := by
    rw [← takeWhile_delimiter hs x.toList, hlist, takeWhile_delimiter ht]
  rw [hfront, List.append_cancel_left_eq, List.cons.injEq] at hlist
  exact ⟨String.toList_inj.1 hfront, String.toList_inj.1 hlist.2⟩

/-- A key is under one name at most. -/
theorem Key.IsUnder.inj {m n key : Key} (hm : m.IsPlain) (hn : n.IsPlain) (h : m.IsUnder key)
    (h' : n.IsUnder key) : m = n := by
  obtain ⟨s, rfl, hs⟩ := hm
  obtain ⟨t, rfl, ht⟩ := hn
  obtain ⟨x, rfl⟩ := h
  obtain ⟨y, hy⟩ := h'
  rw [Key.text.injEq] at hy
  rw [(append_delimiter_inj hs ht hy).1]

theorem Key.IsSpace.name? {k : Key} (h : k.IsSpace) : k.name? = some k.display := by
  obtain ⟨⟨s, rfl, -⟩, hne⟩ := h
  have hs : s ≠ "" := by
    rintro rfl
    exact hne rfl
  simp [Key.name?, Key.truthy, Key.toValue, Value.truthy, hs]

theorem Key.IsPlain.space?_eq {k : Key} (h : k.IsPlain) : k.space? = some k := by
  obtain ⟨s, rfl, -⟩ := h
  rfl

theorem Key.IsPlain.forall_mem_space? {k : Key} (h : k.IsPlain) {good : Key → Prop} :
    (∀ j ∈ k.space?, good j) ↔ good k := by
  simp [h.space?_eq]

theorem Key.IsPlain.name?_eq_none {k : Key} (h : k.IsPlain) : k.name? = none ↔ k = .text "" := by
  obtain ⟨s, rfl, -⟩ := h
  simp [Key.name?, Key.truthy, Key.toValue, Value.truthy]

/-! ## Bundles of a namespace -/

theorem Call.prefixed_eq {space : Key} (h : space.IsSpace) (b : Bundle) :
    Call.prefixed space b = Entries.ofList
      (b.map fun e => (.text (space.display ++ keyDelimiter ++ e.1.display), e.2)) := by
  have hne : space.display ≠ "" := by
    obtain ⟨⟨s, rfl, -⟩, hne⟩ := h
    rintro rfl
    exact hne rfl
  have hfilter : (some space.display).filter (· ≠ "") = some space.display := by
    simp [Option.filter, hne]
  rw [Call.prefixed, Bundle.inNamespace, h.name?, hfilter]
  simp only [Bundle.namespacedKey, if_neg hne]

theorem Call.isUnder_of_mem_prefixed {space : Key} (h : space.IsSpace) {b : Bundle}
    {e : Key × Value} (he : e ∈ Call.prefixed space b) : space.IsUnder e.1 := by
  rw [Call.prefixed_eq h] at he
  obtain ⟨d, -, rfl⟩ := List.mem_map.1 (Entries.mem_of_mem_ofList he)
  exact ⟨d.1.display, rfl⟩

theorem Call.nodup_keys_prefixed {space : Key} (h : space.IsSpace) (b : Bundle) :
    (Entries.keys (Call.prefixed space b)).Nodup := by
  rw [Call.prefixed_eq h]
  exact Entries.nodup_keys_ofList _

/-- Different namespaces have no key in common. -/
theorem Call.ne_of_mem_prefixed {m n : Key} (hm : m.IsSpace) (hn : n.IsSpace) (hne : m ≠ n)
    {b c : Bundle} {d e : Key × Value} (hd : d ∈ Call.prefixed m b)
    (he : e ∈ Call.prefixed n c) : d.1 ≠ e.1 := by
  intro heq
  have hunder := Call.isUnder_of_mem_prefixed hm hd
  rw [heq] at hunder
  exact hne (hunder.inj hm.1 hn.1 (Call.isUnder_of_mem_prefixed hn he))

/-! ## Keys of the cache -/

def Slot.key (x : Slot) : Key :=
  match x.name with
  | none => x.language
  | some n => .text (x.language.display ++ keyDelimiter ++ n)

theorem cacheKey_eq_key (language : Key) (space : Option Key) :
    cacheKey language space = (Slot.of language space).key := rfl

theorem Key.IsPlain.mem_name? {k : Key} (h : k.IsPlain) {n : String} (hn : k.name? = some n) :
    k = .text n ∧ ':' ∉ n.toList := by
  obtain ⟨s, rfl, hs⟩ := h
  have heq : s = n := by
    rw [Key.name?] at hn
    split at hn
    · exact Option.some.inj hn
    · cases hn
  subst heq
  exact ⟨rfl, hs⟩

/-- A key of the cache belongs to one slot. -/
theorem Slot.key_inj {x y : Slot} (hx : x.language.IsPlain) (hy : y.language.IsPlain)
    (h : x.key = y.key) : x = y := by
  obtain ⟨l, s⟩ := x
  obtain ⟨m, t⟩ := y
  obtain ⟨u, rfl, hu⟩ := hx
  obtain ⟨v, rfl, hv⟩ := hy
  have hmem : ∀ u v : String, ':' ∈ (u ++ keyDelimiter ++ v).toList := by
    intro u v
    simp [keyDelimiter, String.toList_append]
  cases s with
  | none =>
    cases t with
    | none => rw [show Key.text u = Key.text v from h]
    | some n =>
      have hun := Key.text.inj h
      exact absurd (hun ▸ hmem _ _) hu
  | some j =>
    cases t with
    | none =>
      have hvj := Key.text.inj h
      exact absurd (hvj ▸ hmem _ _) hv
    | some n =>
      obtain ⟨huv, hjn⟩ := append_delimiter_inj hu hv (Key.text.inj h)
      rw [huv, hjn]

/-- A key of the cache belongs to one language and one name of a namespace, if any. -/
theorem cacheKey_inj_name {l m : Key} {s t : Option Key} (hl : l.IsPlain) (hm : m.IsPlain)
    (h : cacheKey l s = cacheKey m t) : l = m ∧ s.bind Key.name? = t.bind Key.name? := by
  rw [cacheKey_eq_key, cacheKey_eq_key] at h
  have hslot := Slot.key_inj hl hm h
  exact ⟨congrArg Slot.language hslot, congrArg Slot.name hslot⟩

/-- A key of the cache belongs to one language and one namespace, if any. -/
theorem cacheKey_inj {l m : Key} {s t : Option Key} (hl : l.IsPlain) (hm : m.IsPlain)
    (hs : ∀ k ∈ s, k.IsSpace) (ht : ∀ k ∈ t, k.IsSpace) (h : cacheKey l s = cacheKey m t) :
    l = m ∧ s = t := by
  obtain ⟨hlm, hname⟩ := cacheKey_inj_name hl hm h
  refine ⟨hlm, ?_⟩
  cases s with
  | none =>
    cases t with
    | none => rfl
    | some k => simp [(ht k rfl).name?] at hname
  | some j =>
    cases t with
    | none => simp [(hs j rfl).name?] at hname
    | some k =>
      obtain ⟨⟨u, rfl, -⟩, -⟩ := hs j rfl
      obtain ⟨⟨v, rfl, -⟩, -⟩ := ht k rfl
      simp only [Option.bind_some, (hs _ rfl).name?, (ht _ rfl).name?, Option.some.injEq] at hname
      exact congrArg (fun n => some (Key.text n)) hname

/-- The keys that are dropped with a language are those of its slots. -/
theorem BundleCache.belongsTo_key {x : Slot} {l : Key} (hx : x.language.IsPlain) (hl : l.IsPlain) :
    belongsTo l x.key = true ↔ x.language = l := by
  obtain ⟨m, s⟩ := x
  obtain ⟨u, rfl, hu⟩ := hl
  obtain ⟨v, rfl, hv⟩ := hx
  cases s with
  | none =>
    have hkey : Slot.key ⟨.text v, none⟩ = .text v := rfl
    have hprefix : ¬ (u ++ keyDelimiter).toList <+: v.toList := by
      intro hpre
      have hmem : ':' ∈ (u ++ keyDelimiter).toList := by simp [keyDelimiter, String.toList_append]
      exact hv (hpre.subset hmem)
    simp only [hkey, belongsTo, Key.display, Bool.or_eq_true, beq_iff_eq, Key.text.injEq,
      List.isPrefixOf_iff_prefix, hprefix, or_false]
  | some n =>
    have hkey : Slot.key ⟨.text v, some n⟩ = .text (v ++ keyDelimiter ++ n) := rfl
    have hne : v ++ keyDelimiter ++ n ≠ u := by
      rintro rfl
      exact hu (by simp [keyDelimiter, String.toList_append])
    have hprefix : (u ++ keyDelimiter).toList <+: (v ++ keyDelimiter ++ n).toList ↔ v = u := by
      constructor
      · rintro ⟨r, hr⟩
        have happend : u ++ keyDelimiter ++ String.ofList r = v ++ keyDelimiter ++ n := by
          rw [← String.toList_inj, ← hr]
          simp
        exact (append_delimiter_inj hu hv happend).1.symm
      · rintro rfl
        exact ⟨n.toList, by simp⟩
    simp only [hkey, belongsTo, Key.display, Bool.or_eq_true, beq_iff_eq, Key.text.injEq,
      List.isPrefixOf_iff_prefix, hne, hprefix, false_or]

end Polyglot
