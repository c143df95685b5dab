import Polyglot.Proofs.Outcome
import Polyglot.Proofs.Value.Tree
import Polyglot.Toml.Reader

/-!
# Trees in TOML

What a document stands for is a tree: its keys are texts, and every change of a table stores under a
key. Arrays are not entered by a path, so what is done in an array of tables keeps the tree as well.
-/
namespace Polyglot.Toml

open Value (dict)

/-! ## Tables -/

theorem identity_eq_text_iff {k : Key} {s : String} :
    k.identity = (Key.text s).identity ↔ k = .text s := by
  cases k with
  | text t => simp [Key.identity]
  | float x =>
    rw [Key.identity]
    split <;> simp [Key.identity]
  | moment m =>
    rw [Key.identity]
    split <;> simp [Key.identity]
  | _ => simp [Key.identity]

/-- A text is the same key as itself alone. -/
theorem put_eq_store (es : Bundle) (k : String) (v : Value) :
    Entries.put es (k : Key) v = es.store k v := by
  induction es with
  | nil => rfl
  | cons e r ih => simp only [Entries.put, Bundle.store, identity_eq_text_iff, ih]

theorem get?_eq_value? (es : Bundle) (k : String) : Entries.get? es (k : Key) = es.value? k := by
  induction es with
  | nil => rfl
  | cons e r ih => simp only [Entries.get?, Bundle.value?, identity_eq_text_iff, ih]

theorem isTree_put {es : Bundle} {v : Value} (h : (dict es).IsTree) (hv : v.IsTree) (k : String) :
    (dict (Entries.put es (k : Key) v)).IsTree := by
  rw [put_eq_store]
  exact h.store hv k

namespace Document

variable {es es' : Bundle} {f : Bundle → Option Bundle} {v : Value} {key : String}
  {path : KeyPath}

/-- Changing the table at a path keeps the tree, if changing a table does. -/
theorem isTree_change? {entersArrays : Bool} (hes : (dict es).IsTree)
    (hf : ∀ {t t'}, (dict t).IsTree → f t = some t' → (dict t').IsTree)
    (h : change? entersArrays es path f = some es') : (dict es').IsTree := by
  fun_induction change? entersArrays es path f generalizing es' with
  | case1 es => exact hf hes h
  | case2 es k ks hk ih =>
    obtain ⟨t, ht, rfl⟩ := Option.map_eq_some_iff.1 h
    exact isTree_put hes (ih Value.isTree_dict_nil ht) k
  | case3 es k ks t hk ih =>
    obtain ⟨t', ht', rfl⟩ := Option.map_eq_some_iff.1 h
    exact isTree_put hes (ih (hes.of_value? (get?_eq_value? es k ▸ hk)) ht') k
  | case4 es k ks vs hk t hlast ih =>
    obtain ⟨t', -, rfl⟩ := Option.map_eq_some_iff.1 h
    exact isTree_put hes (.leaf rfl) k
  | case5 => cases h
  | case6 => cases h

theorem isTree_store? (hv : v.IsTree) (hes : (dict es).IsTree) (h : store? key v es = some es') :
    (dict es').IsTree := by
  rw [store?] at h
  split at h
  · cases h
  · cases h
    exact isTree_put hes hv key

theorem isTree_append? (hes : (dict es).IsTree) (h : append? key es = some es') :
    (dict es').IsTree := by
  rw [append?] at h
  split at h
  · cases h
    exact isTree_put hes (.leaf rfl) key
  · cases h
    exact isTree_put hes (.leaf rfl) key
  · cases h

variable {d d' : Document}

theorem isTree_openTable? (hd : (dict d.data).IsTree) (h : d.openTable? path = some d') :
    (dict d'.data).IsTree := by
  rw [openTable?] at h
  split at h
  · cases h
  · obtain ⟨es, hes, rfl⟩ := Option.map_eq_some_iff.1 h
    refine isTree_change? hd ?_ hes
    rintro t _ ht ⟨⟩
    exact ht

theorem isTree_openItem? (hd : (dict d.data).IsTree) (h : d.openItem? path = some d') :
    (dict d'.data).IsTree := by
  rw [openItem?] at h
  split at h
  · cases h
  · obtain ⟨es, hes, rfl⟩ := Option.map_eq_some_iff.1 h
    exact isTree_change? hd isTree_append? hes

theorem isTree_set? {front : KeyPath} (hd : (dict d.data).IsTree) (hv : v.IsTree)
    (h : d.set? front path v = some d') : (dict d'.data).IsTree := by
  unfold set? at h
  extract_lets tables table at h
  split at h
  · cases h
  · obtain ⟨es, hes, rfl⟩ := Option.map_eq_some_iff.1 h
    exact isTree_change? hd (isTree_store? hv) hes

end Document

theorem InlineTable.isTree_set? {t t' : InlineTable} {path : KeyPath} {v : Value}
    (ht : (dict t.data).IsTree) (hv : v.IsTree) (h : t.set? path v = some t') :
    (dict t'.data).IsTree := by
  rw [set?] at h
  split at h
  · cases h
  · obtain ⟨es, hes, rfl⟩ := Option.map_eq_some_iff.1 h
    exact Document.isTree_change? ht (Document.isTree_store? hv) hes

/-! ## Values -/

theorem orMalformed_eq_ok_iff {α : Type} {o : Option α} {a : α} :
    orMalformed o = .ok a ↔ o = some a := by
  cases o <;> simp [orMalformed]

section Scalar

variable {cs rest : List Char} {v : Value}

theorem entries?_based? (h : based? cs = some (v, rest)) : v.entries? = none := by
  obtain ⟨base, -, h⟩ := Option.bind_eq_some_iff.1 h
  dsimp only at h
  split at h
  · cases h
  · cases h
    rfl

theorem entries?_decimal? (h : decimal? cs = some (.ok (v, rest))) : v.entries? = none := by
  revert h
  fun_cases decimal? cs with
  | case1 =>
    intro h
    cases h
  | case2 =>
    intro h
    cases h
    rfl
  | case3 =>
    intro h
    cases h
  | case4 =>
    intro h
    obtain ⟨p, -, hp⟩ := Option.map_eq_some_iff.1 h
    cases hp
    rfl

theorem entries?_special? (h : special? cs = some (v, rest)) : v.entries? = none := by
  unfold special? at h
  dsimp only at h
  split at h
  · cases h
    rfl
  · cases h
    rfl
  · cases h

theorem entries?_date? (h : date? cs = some (.ok (v, rest))) : v.entries? = none := by
  obtain ⟨⟨day, r⟩, -, h⟩ := Option.map_eq_some_iff.1 h
  dsimp only at h
  split at h
  · cases h
  · split at h
    · cases h
      rfl
    · cases h
      rfl

theorem entries?_time? (h : time? cs = some (v, rest)) : v.entries? = none := by
  obtain ⟨⟨clock, r⟩, -, h⟩ := Option.map_eq_some_iff.1 h
  cases h
  rfl

theorem entries?_scalar (h : scalar cs = .ok (v, rest)) : v.entries? = none := by
  unfold scalar at h
  split at h
  · cases h
    rfl
  · cases h
    rfl
  · extract_lets found at h
    have hfound : found = some (.ok (v, rest)) := by
      cases hf : found with
      | none =>
        rw [hf] at h
        cases h
      | some r =>
        rw [hf] at h
        exact congrArg some h
    simp only [found, Option.orElse_eq_orElse, Option.orElse_eq_or, Option.or_eq_some_iff,
      Option.map_eq_some_iff, Except.ok.injEq, exists_eq_right] at hfound
    rcases hfound with hdate | ⟨-, htime | ⟨-, hbased | ⟨-, hdecimal | ⟨-, hspecial⟩⟩⟩⟩
    · exact entries?_date? hdate
    · exact entries?_time? htime
    · exact entries?_based? hbased
    · exact entries?_decimal? hdecimal
    · exact entries?_special? hspecial

end Scalar

/-! ## Reading -/

mutual

theorem isTree_value {fuel : Nat} {cs rest : List Char} {v : Value}
    (h : value fuel cs = .ok (v, rest)) : v.IsTree := by
  cases fuel with
  | zero => cases h
  | succ fuel =>
    revert h
    unfold value
    split
    · rename_i found _
      intro h
      obtain ⟨⟨s, r⟩, -, hs⟩ := Outcome.map_eq_ok_iff.1 h
      cases hs
      exact .leaf rfl
    · intro h
      obtain ⟨t, -, h⟩ := Outcome.bind_eq_ok_iff.1 h
      split at h
      · cases h
        exact .leaf rfl
      · obtain ⟨⟨vs, r⟩, -, hv⟩ := Outcome.map_eq_ok_iff.1 h
        cases hv
        exact .leaf rfl
    · split
      · rintro ⟨⟩
        exact Value.isTree_dict_nil
      · intro h
        obtain ⟨⟨es, r⟩, hes, hv⟩ := Outcome.map_eq_ok_iff.1 h
        cases hv
        exact isTree_members Value.isTree_dict_nil hes
    · intro h
      exact .leaf (entries?_scalar h)

theorem isTree_members {fuel : Nat} {t : InlineTable} {cs rest : List Char} {es : Bundle}
    (ht : (dict t.data).IsTree) (h : members fuel t cs = .ok (es, rest)) : (dict es).IsTree := by
  cases fuel with
  | zero => cases h
  | succ fuel =>
    rw [members] at h
    obtain ⟨⟨k, v, r⟩, hv, h⟩ := Outcome.bind_eq_ok_iff.1 h
    obtain ⟨t', ht', h⟩ := Outcome.bind_eq_ok_iff.1 h
    have hnext := InlineTable.isTree_set? ht (isTree_member hv) (orMalformed_eq_ok_iff.1 ht')
    split at h
    · cases h
      exact hnext
    · exact isTree_members hnext h
    · cases h

theorem isTree_member {fuel : Nat} {cs rest : List Char} {k : KeyPath} {v : Value}
    (h : member fuel cs = .ok (k, v, rest)) : v.IsTree := by
  cases fuel with
  | zero => cases h
  | succ fuel =>
    rw [member] at h
    obtain ⟨⟨k', r⟩, -, h⟩ := Outcome.bind_eq_ok_iff.1 h
    split at h
    · obtain ⟨⟨w, r⟩, hw, hv⟩ := Outcome.map_eq_ok_iff.1 h
      cases hv
      exact isTree_value hw
    · cases h

end

/-! ## Documents -/

section Statement

variable {d d' : Document} {path path' : KeyPath} {cs rest : List Char}

theorem isTree_header {isItem : Bool} (hd : (dict d.data).IsTree)
    (h : header isItem d cs = .ok (d', path', rest)) : (dict d'.data).IsTree := by
  have hstart : (dict d.startSection.data).IsTree := hd
  obtain ⟨⟨named, r⟩, -, h⟩ := Outcome.bind_eq_ok_iff.1 h
  dsimp only at h
  split at h
  · obtain ⟨opened, hopened, h⟩ := Outcome.bind_eq_ok_iff.1 h
    split at h
    · cases h
      exact Document.isTree_openItem? hstart (orMalformed_eq_ok_iff.1 hopened)
    · cases h
  · obtain ⟨opened, hopened, h⟩ := Outcome.bind_eq_ok_iff.1 h
    split at h
    · cases h
      exact Document.isTree_openTable? hstart (orMalformed_eq_ok_iff.1 hopened)
    · cases h

/-- A statement keeps the tree. -/
theorem isTree_statement (hd : (dict d.data).IsTree)
    (h : statement d path cs = .ok (d', path', rest)) : (dict d'.data).IsTree := by
  unfold statement at h
  split at h
  · exact isTree_header hd h
  · exact isTree_header hd h
  · cases h
    exact hd
  · obtain ⟨⟨k, v, r⟩, hv, h⟩ := Outcome.bind_eq_ok_iff.1 h
    obtain ⟨set, hset, h⟩ := Outcome.bind_eq_ok_iff.1 h
    cases h
    exact Document.isTree_set? hd (isTree_member hv) (orMalformed_eq_ok_iff.1 hset)

theorem isTree_statements {fuel : Nat} {es : Bundle} (hd : (dict d.data).IsTree)
    (h : statements fuel d path cs = .ok es) : (dict es).IsTree := by
  induction fuel generalizing d path cs with
  | zero => cases h
  | succ fuel ih =>
    rw [statements] at h
    split at h
    · cases h
      exact hd
    · exact ih hd h
    · obtain ⟨⟨d', path', r⟩, hstatement, h⟩ := Outcome.bind_eq_ok_iff.1 h
      obtain ⟨t, -, h⟩ := Outcome.bind_eq_ok_iff.1 h
      have hnext := isTree_statement hd hstatement
      split at h
      · cases h
        exact hnext
      · exact ih hnext h
      · cases h

end Statement

theorem isTree_read {s : String} {es : Bundle} (h : read s = .ok es) : (dict es).IsTree :=
  isTree_statements Value.isTree_dict_nil h

end Polyglot.Toml
