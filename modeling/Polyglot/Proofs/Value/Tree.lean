import Polyglot.Proofs.Entries

/-!
# Trees of mappings

A path of keys leads from mapping to mapping; lists are not entered. Keys that are the same are one
key, whatever they look like. In a tree no mapping that a path leads to holds a key twice.
-/
namespace Polyglot

/-! ## Mappings -/

namespace Bundle

variable {b : Bundle} {k : Key} {v : Value}

/-- The entries under what tells their keys apart. -/
def byIdentity (b : Bundle) : List (KeyIdentity × Value) := b.map fun e => (e.1.identity, e.2)

/-- Whether no two keys are the same. -/
def HasDistinctKeys (b : Bundle) : Prop := (Entries.keys b.byIdentity).Nodup

theorem value?_eq_get? (b : Bundle) (k : Key) :
    b.value? k = Entries.get? b.byIdentity k.identity := by
  induction b with
  | nil => rfl
  | cons e r ih => rw [value?, ih]; rfl

theorem byIdentity_store (b : Bundle) (k : Key) (v : Value) :
    (b.store k v).byIdentity = Entries.put b.byIdentity k.identity v := by
  induction b with
  | nil => rfl
  | cons e r ih =>
    have hcons : byIdentity (e :: r) = (e.1.identity, e.2) :: byIdentity r := rfl
    rw [store, hcons, Entries.put, ← ih]
    split <;> rfl

theorem value?_congr {other : Key} (h : k.identity = other.identity) (b : Bundle) :
    b.value? k = b.value? other := by
  rw [value?_eq_get?, value?_eq_get?, h]

theorem value?_store_of_eq {other : Key} (b : Bundle) (v : Value)
    (h : other.identity = k.identity) : (b.store k v).value? other = some v := by
  rw [value?_eq_get?, byIdentity_store, h, Entries.get?_put_self]

theorem value?_store_of_ne {other : Key} (b : Bundle) (v : Value)
    (h : other.identity ≠ k.identity) : (b.store k v).value? other = b.value? other := by
  rw [value?_eq_get?, byIdentity_store, Entries.get?_put_ne _ _ h, value?_eq_get?]

theorem value?_eq_none_iff : b.value? k = none ↔ ∀ e ∈ b, e.1.identity ≠ k.identity := by
  rw [value?_eq_get?, Entries.get?_eq_none_iff]
  simp [Entries.keys, byIdentity]

theorem exists_mem_of_value? (h : b.value? k = some v) : ∃ e ∈ b, e.2 = v := by
  induction b with
  | nil => cases h
  | cons e r ih =>
    rw [value?] at h
    split at h
    · cases h
      exact ⟨e, List.mem_cons_self, rfl⟩
    · obtain ⟨d, hd, hv⟩ := ih h
      exact ⟨d, List.mem_cons_of_mem _ hd, hv⟩

theorem mem_store {e : Key × Value} (h : e ∈ b.store k v) : e.2 = v ∨ e ∈ b := by
  induction b with
  | nil => exact .inl (congrArg Prod.snd (List.mem_singleton.1 h))
  | cons d r ih =>
    rw [store] at h
    split at h
    · rcases List.mem_cons.1 h with rfl | hr
      · exact .inl rfl
      · exact .inr (List.mem_cons_of_mem _ hr)
    · rcases List.mem_cons.1 h with rfl | hr
      · exact .inr List.mem_cons_self
      · exact (ih hr).imp_right (List.mem_cons_of_mem _)

/-- Storing what is there already changes nothing. -/
theorem store_of_value? (h : b.value? k = some v) : b.store k v = b := by
  induction b with
  | nil => cases h
  | cons e r ih =>
    rw [value?] at h
    rw [store]
    split at h
    · rename_i hk
      cases h
      rw [if_pos hk]
    · rename_i hk
      rw [if_neg hk, ih h]

/-- A new key goes behind all others. -/
theorem store_of_value?_eq_none (h : b.value? k = none) (v : Value) :
    b.store k v = b ++ [(k, v)] := by
  induction b with
  | nil => rfl
  | cons e r ih =>
    rw [value?] at h
    rw [store]
    split at h
    · cases h
    · rename_i hk
      rw [if_neg hk, ih h, List.cons_append]

theorem hasDistinctKeys_nil : HasDistinctKeys [] := List.nodup_nil

theorem hasDistinctKeys_cons {e : Key × Value} {r : Bundle} :
    HasDistinctKeys (e :: r) ↔ value? r e.1 = none ∧ HasDistinctKeys r := by
  rw [value?_eq_none_iff]
  simp only [HasDistinctKeys, byIdentity, List.map_cons, Entries.nodup_keys_cons,
    List.forall_mem_map]

theorem HasDistinctKeys.store (h : b.HasDistinctKeys) (k : Key) (v : Value) :
    (b.store k v).HasDistinctKeys := by
  rw [HasDistinctKeys, byIdentity_store]
  exact Entries.nodup_keys_put h _ _

theorem HasDistinctKeys.value?_of_mem (h : b.HasDistinctKeys) {e : Key × Value} (he : e ∈ b) :
    b.value? e.1 = some e.2 := by
  induction b with
  | nil => cases he
  | cons d r ih =>
    obtain ⟨hd, hr⟩ := hasDistinctKeys_cons.1 h
    rw [value?]
    rcases List.mem_cons.1 he with rfl | her
    · rw [if_pos rfl]
    · rw [if_neg (value?_eq_none_iff.1 hd e her).symm, ih hr her]

end Bundle

/-! ## Paths -/

namespace Value

variable {v w : Value} {es : Bundle} {k : Key} {path : List Key}

/-- The value that a path of keys leads to. -/
def at? : Value → List Key → Option Value
  | v, [] => some v
  | .dict es, k :: ks => (Bundle.value? es k).bind fun w => w.at? ks
  | _, _ :: _ => none

@[simp] theorem at?_nil (v : Value) : v.at? [] = some v := by cases v <;> rfl

theorem entries?_eq_some_iff : v.entries? = some es ↔ v = dict es := by
  cases v <;> simp [entries?]

/-- Whether a path leads on from a value that is no mapping. -/
def IsBlocked (v : Value) (path : List Key) : Prop :=
  ∃ front rest w, path = front ++ rest ∧ rest ≠ [] ∧ v.at? front = some w ∧ w.entries? = none

theorem not_isBlocked_nil : ¬v.IsBlocked [] := by
  rintro ⟨front, rest, w, h, hrest, -⟩
  exact hrest (List.append_eq_nil_iff.1 h.symm).2

theorem isBlocked_cons_of_leaf (h : v.entries? = none) (k : Key) (path : List Key) :
    v.IsBlocked (k :: path) :=
  ⟨[], k :: path, v, rfl, by simp, rfl, h⟩

theorem isBlocked_dict_cons :
    (dict es).IsBlocked (k :: path) ↔ ∃ w, es.value? k = some w ∧ w.IsBlocked path := by
  constructor
  · rintro ⟨front, rest, w, h, hrest, hw, hleaf⟩
    cases front with
    | nil =>
      cases hw
      cases hleaf
    | cons j front =>
      cases h
      obtain ⟨u, hu, hat⟩ := Option.bind_eq_some_iff.1 hw
      exact ⟨u, hu, front, rest, w, rfl, hrest, hat, hleaf⟩
  · rintro ⟨u, hu, front, rest, w, rfl, hrest, hw, hleaf⟩
    exact ⟨k :: front, rest, w, rfl, hrest, Option.bind_eq_some_iff.2 ⟨u, hu, hw⟩, hleaf⟩

theorem at?_cons_of_leaf (h : v.entries? = none) (k : Key) (path : List Key) :
    v.at? (k :: path) = none := by
  cases v <;> first | rfl | cases h

/-! ## Trees -/

/-- A value without a mapping in which a key occurs twice. -/
inductive IsTree : Value → Prop
  | leaf {v : Value} (h : v.entries? = none) : IsTree v
  | dict {es : Bundle} (hkeys : es.HasDistinctKeys) (hvalues : ∀ e ∈ es, IsTree e.2) :
      IsTree (.dict es)

theorem isTree_dict_iff :
    (dict es).IsTree ↔ es.HasDistinctKeys ∧ ∀ e ∈ es, e.2.IsTree := by
  constructor
  · rintro (h | ⟨hkeys, hvalues⟩)
    · cases h
    · exact ⟨hkeys, hvalues⟩
  · rintro ⟨hkeys, hvalues⟩
    exact .dict hkeys hvalues

theorem isTree_dict_nil : (dict []).IsTree := .dict Bundle.hasDistinctKeys_nil fun _ h => nomatch h

theorem isTree_dict_cons {e : Key × Value} {r : Bundle} :
    (dict (e :: r)).IsTree ↔
      e.2.IsTree ∧ Bundle.value? r e.1 = none ∧ (dict r).IsTree := by
  rw [isTree_dict_iff, isTree_dict_iff, Bundle.hasDistinctKeys_cons, List.forall_mem_cons]
  constructor
  · rintro ⟨⟨hnew, hkeys⟩, hv, hvalues⟩
    exact ⟨hv, hnew, hkeys, hvalues⟩
  · rintro ⟨hv, hnew, hkeys, hvalues⟩
    exact ⟨⟨hnew, hkeys⟩, hv, hvalues⟩

theorem IsTree.of_value? (h : (Value.dict es).IsTree) (hv : Bundle.value? es k = some v) :
    v.IsTree := by
  obtain ⟨e, he, rfl⟩ := Bundle.exists_mem_of_value? hv
  exact (isTree_dict_iff.1 h).2 e he

theorem IsTree.store (h : (Value.dict es).IsTree) (hv : v.IsTree) (k : Key) :
    (Value.dict (es.store k v)).IsTree := by
  obtain ⟨hkeys, hvalues⟩ := isTree_dict_iff.1 h
  refine .dict (hkeys.store k v) fun e he => ?_
  rcases Bundle.mem_store he with heq | hold
  · exact heq ▸ hv
  · exact hvalues e hold

theorem IsTree.storeAll {pairs : List (Key × Value)} (h : (Value.dict es).IsTree)
    (hpairs : ∀ e ∈ pairs, e.2.IsTree) :
    (Value.dict (pairs.foldl (fun acc e => Bundle.store acc e.1 e.2) es)).IsTree := by
  induction pairs generalizing es with
  | nil => exact h
  | cons e r ih =>
    obtain ⟨he, hr⟩ := List.forall_mem_cons.1 hpairs
    exact ih (h.store he e.1) hr

end Value
end Polyglot
