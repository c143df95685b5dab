import Mathlib.Data.List.Nodup
import Polyglot.Bundle.Flat
import Polyglot.Proofs.Bundle.Lookup
import Polyglot.Proofs.Value.Tree

/-!
# Lookup in flat bundles

Dotted keys and the paths between their dots are the same thing, as long as no name on a path has
a dot of its own. A bundle without such names and its flat form therefore have the same messages.
Where a name may have dots, a text under a whole key comes first.
-/
namespace Polyglot

/-! ## Dotted keys -/

theorem pathKey_keyPath (key : String) : pathKey (keyPath key) = key := by
  rw [← String.toList_inj, pathKey, String.toList_intercalate, keyPath, List.map_map]
  simp only [Function.comp_def, String.toList_ofList, List.map_id']
  exact Text.intercalate_splitOn '.' key.toList

theorem keyPath_pathKey {path : List String} (hne : path ≠ []) (h : ∀ p ∈ path, '.' ∉ p.toList) :
    keyPath (pathKey path) = path := by
  have hparts : ∀ p ∈ path.map String.toList, '.' ∉ p := List.forall_mem_map.2 h
  have hsplit := Text.splitOn_intercalate (mt List.map_eq_nil_iff.1 hne) hparts
  have hchars : (pathKey path).toList = ['.'].intercalate (path.map String.toList) := by
    rw [pathKey, String.toList_intercalate]
    rfl
  rw [keyPath, hchars, hsplit, List.map_map]
  simp [Function.comp_def]

theorem keyPath_of_not_dot {key : String} (h : '.' ∉ key.toList) : keyPath key = [key] := by
  rw [keyPath, Text.splitOn_of_not_mem h, List.map_singleton, String.ofList_toList]

/-! ## Texts of a value -/

/-- A value in which no mapping that a path leads to has a key with a dot. -/
inductive Value.IsUndotted : Value → Prop
  | leaf {v : Value} (h : v.entries? = none) : IsUndotted v
  | dict {es : Bundle} (hkeys : ∀ name, .text name ∈ Entries.keys es → '.' ∉ name.toList)
      (hvalues : ∀ e ∈ es, IsUndotted e.2) : IsUndotted (.dict es)

theorem Value.isUndotted_dict_nil : (Value.dict []).IsUndotted :=
  .dict (fun _ h => nomatch h) fun _ h => nomatch h

theorem Value.IsUndotted.cons {v : Value} {r : Bundle} {name : String} (hname : '.' ∉ name.toList)
    (hv : v.IsUndotted) (hr : (Value.dict r).IsUndotted) :
    (Value.dict ((.text name, v) :: r)).IsUndotted := by
  obtain hleaf | ⟨hkeys, hvalues⟩ := hr
  · cases hleaf
  refine .dict (fun other hmem => ?_) (List.forall_mem_cons.2 ⟨hv, hvalues⟩)
  rcases List.mem_cons.1 hmem with heq | hmem
  · rwa [Key.text.inj heq]
  · exact hkeys other hmem

namespace Bundle

variable {b : Bundle}

theorem mem_texts_iff {es : Bundle} {e : List String × String} :
    e ∈ es.texts ↔
      ∃ name v path, (.text name, v) ∈ es ∧ (path, e.2) ∈ v.texts ∧ e.1 = name :: path := by
  induction es with
  | nil => simp [texts]
  | cons d r ih =>
    obtain ⟨k, v⟩ := d
    obtain ⟨q, s⟩ := e
    cases k with
    | text name =>
      simp only [texts, List.mem_append, ih, List.mem_map, List.mem_cons, Prod.mk.injEq]
      constructor
      · rintro (⟨⟨path, s'⟩, hmem, rfl, rfl⟩ | ⟨name', w, path, hmem, htext, rfl⟩)
        · exact ⟨name, v, path, .inl ⟨rfl, rfl⟩, hmem, rfl⟩
        · exact ⟨name', w, path, .inr hmem, htext, rfl⟩
      · rintro ⟨name', w, path, ⟨hname, rfl⟩ | hmem, htext, rfl⟩
        · cases hname
          exact .inl ⟨(path, s), htext, rfl, rfl⟩
        · exact .inr ⟨name', w, path, hmem, htext, rfl⟩
    | _ => simp [texts, ih]

theorem ne_nil_of_mem_keys_texts {es : Bundle} {path : List String}
    (h : path ∈ Entries.keys es.texts) : path ≠ [] := by
  obtain ⟨e, he, rfl⟩ := List.mem_map.1 h
  obtain ⟨name, v, path, -, -, heq⟩ := mem_texts_iff.1 he
  rw [heq]
  exact List.cons_ne_nil name path

theorem get?_of_value?_eq_none {name : String} (h : b.value? (.text name) = none) :
    Entries.get? b (.text name) = none := by
  refine Entries.get?_eq_none_iff.2 fun hmem => ?_
  obtain ⟨e, he, heq⟩ := List.mem_map.1 hmem
  exact value?_eq_none_iff.1 h e he (by rw [heq])

/-- In a mapping a path leads to a text by way of the value under its first name. -/
theorem get?_texts_cons {es : Bundle} (hkeys : es.HasDistinctKeys)
    (h : ∀ e ∈ es, ∀ path, Entries.get? e.2.texts path = (e.2.walk? path).bind Value.text?)
    (name : String) (path : List String) :
    Entries.get? es.texts (name :: path) =
      ((Value.dict es).walk? (name :: path)).bind Value.text? := by
  have hwalk : ∀ es : Bundle, (Value.dict es).walk? (name :: path) =
      (Entries.get? es (.text name)).bind fun v => v.walk? path := by
    intro es
    rw [Value.walk?]
    cases Entries.get? es (.text name) <;> rfl
  induction es with
  | nil => rfl
  | cons e r ih =>
    obtain ⟨k, v⟩ := e
    obtain ⟨hnew, hr⟩ := hasDistinctKeys_cons.1 hkeys
    have hrest := ih hr fun d hd => h d (List.mem_cons_of_mem _ hd)
    by_cases hk : k = .text name
    · subst hk
      have hname : ∀ rest ∈ Entries.keys v.texts, name :: rest = name :: path ↔ rest = path :=
        fun _ _ => List.cons_inj_right name
      have hfront : Entries.get? (v.texts.map fun e => (name :: e.1, e.2)) (name :: path) =
          Entries.get? v.texts path := by
        simpa using Entries.get?_map id hname
      have hbehind : Entries.get? (texts r) (name :: path) = none := by
        rw [hrest, hwalk, get?_of_value?_eq_none hnew]
        rfl
      rw [texts, Entries.get?_append, hfront, hbehind, Option.or_none, hwalk, Entries.get?,
        if_pos rfl]
      exact h _ List.mem_cons_self path
    · have hbehind : Entries.get? (texts ((k, v) :: r)) (name :: path) =
          Entries.get? (texts r) (name :: path) := by
        cases k with
        | text other =>
          rw [texts, Entries.get?_append_of_not_mem]
          intro hmem
          simp only [Entries.keys, List.map_map, List.mem_map, Function.comp_def,
            List.cons.injEq] at hmem
          obtain ⟨e, -, heq, -⟩ := hmem
          exact hk (by rw [heq])
        | _ => rfl
      rw [hbehind, hrest, hwalk, hwalk, Entries.get?, if_neg hk]

/-- Paths that begin with different names are different. -/
theorem nodup_keys_texts {es : Bundle} (hkeys : es.HasDistinctKeys)
    (h : ∀ e ∈ es, (Entries.keys e.2.texts).Nodup) : (Entries.keys es.texts).Nodup := by
  induction es with
  | nil => exact List.nodup_nil
  | cons e r ih =>
    obtain ⟨k, v⟩ := e
    obtain ⟨hnew, hr⟩ := hasDistinctKeys_cons.1 hkeys
    obtain ⟨hv, hvalues⟩ := List.forall_mem_cons.1 h
    have hrest := ih hr hvalues
    cases k with
    | text name =>
      have hfront : Entries.keys (texts ((.text name, v) :: r)) =
          (Entries.keys v.texts).map (name :: ·) ++ Entries.keys (texts r) := by
        simp [texts, Entries.keys, Function.comp_def]
      rw [hfront]
      refine (hv.map List.cons_injective).append hrest fun path hpath hmem => ?_
      obtain ⟨rest, -, rfl⟩ := List.mem_map.1 hpath
      obtain ⟨d, hd, heq⟩ := List.mem_map.1 hmem
      obtain ⟨other, w, _, hother, -, hname⟩ := mem_texts_iff.1 hd
      rw [heq] at hname
      cases hname
      exact value?_eq_none_iff.1 hnew _ hother rfl
    | _ => exact hrest

end Bundle

namespace Value

variable {v : Value}

/-- A path has the text to which it leads. -/
theorem get?_texts (h : v.IsTree) (path : List String) :
    Entries.get? v.texts path = (v.walk? path).bind text? := by
  induction h generalizing path with
  | @leaf v hleaf =>
    cases v with
    | text s => cases path <;> simp [texts, walk?, Entries.get?, text?]
    | dict es => cases hleaf
    | _ => cases path <;> rfl
  | @dict es hkeys hvalues ih =>
    cases path with
    | nil => exact Entries.get?_eq_none_iff.2 fun hmem => Bundle.ne_nil_of_mem_keys_texts hmem rfl
    | cons name path => exact Bundle.get?_texts_cons hkeys ih name path

/-- No path has two texts. -/
theorem nodup_keys_texts (h : v.IsTree) : (Entries.keys v.texts).Nodup := by
  induction h with
  | @leaf v hleaf =>
    cases v with
    | text s => exact List.nodup_singleton _
    | dict es => cases hleaf
    | _ => exact List.nodup_nil
  | dict hkeys hvalues ih => exact Bundle.nodup_keys_texts hkeys ih

/-- The names on the way to a text have no dots. -/
theorem IsUndotted.not_dot (h : v.IsUndotted) {path : List String}
    (hpath : path ∈ Entries.keys v.texts) : ∀ p ∈ path, '.' ∉ p.toList := by
  induction h generalizing path with
  | @leaf v hleaf =>
    cases v with
    | text s =>
      obtain rfl : path = [] := List.mem_singleton.1 hpath
      exact List.forall_mem_nil _
    | dict es => cases hleaf
    | _ => cases hpath
  | @dict es hkeys hvalues ih =>
    obtain ⟨e, he, rfl⟩ := List.mem_map.1 hpath
    obtain ⟨name, v, rest, hmem, htext, heq⟩ := Bundle.mem_texts_iff.1 he
    rw [heq]
    refine List.forall_mem_cons.2 ⟨hkeys name (List.mem_map_of_mem hmem), ?_⟩
    exact ih _ hmem (List.mem_map_of_mem htext)

end Value

/-! ## Messages -/

namespace Bundle

variable {b : Bundle}

/-- Without dots in names the path alone decides what a key finds. -/
theorem message?_of_isUndotted (h : (Value.dict b).IsUndotted) (key : String) :
    message? b key = ((Value.dict b).walk? (keyPath key)).bind Value.text? := by
  obtain hleaf | ⟨hkeys, -⟩ := h
  · cases hleaf
  unfold message?
  split
  · rename_i s hs
    have hdot : '.' ∉ key.toList := hkeys key (List.mem_map_of_mem (Entries.mem_of_get? hs))
    rw [keyPath_of_not_dot hdot, Value.walk?, hs]
    rfl
  · rfl

/-- Where there are texts alone, no path leads further than a whole key. -/
theorem message?_of_texts (h : ∀ e ∈ b, ∃ s, e.2 = .text s) (key : String) :
    message? b key = (Entries.get? b (.text key)).bind Value.text? := by
  cases hget : Entries.get? b (.text key) with
  | some v =>
    obtain ⟨s, rfl⟩ := h _ (Entries.mem_of_get? hget)
    exact message?_of_text hget
  | none =>
    obtain ⟨p, ps, hp⟩ := exists_keyPath key
    rw [message?_of_not_text hp (by simp [hget])]
    cases hfirst : Entries.get? b (.text p) with
    | none => rfl
    | some v =>
      obtain ⟨s, rfl⟩ := h _ (Entries.mem_of_get? hfirst)
      cases ps with
      | cons q qs => rfl
      | nil =>
        have hkey : key = p := by
          rw [← pathKey_keyPath key, hp]
          rfl
        rw [hkey, hfirst] at hget
        cases hget

section Flat

variable (hb : (Value.dict b).IsTree) (hdot : (Value.dict b).IsUndotted)
include hdot

theorem pathKey_eq_iff {path : List String} (h : path ∈ Entries.keys b.texts) {key : String} :
    pathKey path = key ↔ path = keyPath key := by
  constructor
  · rintro rfl
    exact (keyPath_pathKey (ne_nil_of_mem_keys_texts h) (hdot.not_dot h)).symm
  · rintro rfl
    exact pathKey_keyPath key

include hb

/-- The flat form has under a dotted key the text to which its path leads. -/
theorem get?_flat (key : String) :
    Entries.get? b.flat (.text key) =
      (((Value.dict b).walk? (keyPath key)).bind Value.text?).map Value.text := by
  have hname : ∀ path ∈ Entries.keys b.texts,
      Key.text (pathKey path) = .text key ↔ path = keyPath key := fun path hpath => by
    rw [Key.text.injEq, pathKey_eq_iff hdot hpath]
  rw [flat, Entries.get?_map (f := fun path => Key.text (pathKey path)) Value.text hname,
    ← Value.get?_texts hb]
  rfl

theorem hasTextKeys_flat : b.flat.HasTextKeys := by
  have hkeys : Entries.keys b.flat =
      (Entries.keys b.texts).map fun path => Key.text (pathKey path) := by
    simp [flat, Entries.keys, Function.comp_def]
  have hnodup : (Entries.keys b.texts).Nodup := Value.nodup_keys_texts hb
  constructor
  · rw [hkeys]
    intro k hk
    obtain ⟨path, -, rfl⟩ := List.mem_map.1 hk
    exact ⟨_, rfl⟩
  · rw [hkeys]
    refine hnodup.map_on fun path hpath other hother heq => ?_
    rw [(pathKey_eq_iff hdot hpath).1 (Key.text.inj heq)]
    exact ((pathKey_eq_iff hdot hother).1 rfl).symm

end Flat

/-- A bundle whose names have no dots is interchangeable with its flat form; and whatever a bundle
holds, a text under a whole key is the message of that key. -/
theorem message?_flat :
    (∀ b : Bundle, (Value.dict b).IsTree → (Value.dict b).IsUndotted →
      b.flat.HasTextKeys ∧ ∀ key, message? b key = message? b.flat key) ∧
    ∀ (b : Bundle) (key s : String), Entries.get? b (.text key) = some (.text s) →
      message? b key = some s := by
  refine ⟨fun b hb hdot => ⟨hasTextKeys_flat hb hdot, fun key => ?_⟩,
    fun b key s h => message?_of_text h⟩
  have htexts : ∀ e ∈ b.flat, ∃ s, e.2 = .text s := by
    intro e he
    obtain ⟨d, -, rfl⟩ := List.mem_map.1 he
    exact ⟨d.2, rfl⟩
  rw [message?_of_isUndotted hdot, message?_of_texts htexts, get?_flat hb hdot, Option.bind_map]
  exact (Option.bind_fun_some _).symm

/-- A menu with an entry without a name, one that is no text, and a part without entries. -/
def menu : Bundle :=
  [(.text "file", .dict [(.text "", .text "File"), (.text "open", .text "Open"),
      (.text "limit", .int 3)]),
    (.text "help", .dict []), (.text "title", .text "Editor")]

/-- A title under a whole key, and another one at the end of its path. -/
def twoTitles : Bundle :=
  [(.text "page.title", .text "Whole"), (.text "page", .dict [(.text "title", .text "Path")])]

theorem message?_flat_menu :
    (Value.dict menu).IsTree ∧ (Value.dict menu).IsUndotted ∧
      message? menu "file." = message? menu.flat "file." ∧
      message? menu.flat "file." = some "File" ∧
      Entries.get? twoTitles (.text "page.title") = some (.text "Whole") ∧
      message? twoTitles "page.title" = some "Whole" := by
  have htree : (Value.dict menu).IsTree := by
    simp only [menu, Value.isTree_dict_cons]
    exact ⟨⟨.leaf rfl, rfl, .leaf rfl, rfl, .leaf rfl, rfl, Value.isTree_dict_nil⟩, rfl,
      Value.isTree_dict_nil, rfl, .leaf rfl, rfl, Value.isTree_dict_nil⟩
  have hfile : (Value.dict [(.text "", .text "File"), (.text "open", .text "Open"),
      (.text "limit", .int 3)]).IsUndotted :=
    .cons (by decide) (.leaf rfl) (.cons (by decide) (.leaf rfl) (.cons (by decide) (.leaf rfl)
      Value.isUndotted_dict_nil))
  have hdot : (Value.dict menu).IsUndotted :=
    .cons (by decide) hfile (.cons (by decide) Value.isUndotted_dict_nil
      (.cons (by decide) (.leaf rfl) Value.isUndotted_dict_nil))
  obtain ⟨hflat, hwhole⟩ := message?_flat
  exact ⟨htree, hdot, (hflat menu htree hdot).2 "file.", by decide, rfl, hwhole _ _ _ rfl⟩

end Bundle
end Polyglot
