import Mathlib.Data.List.Nodup
import Polyglot.Proofs.Bundle.Space
import Polyglot.Proofs.Text.Parts

/-!
# Lookup under a namespace

Adding a namespace puts its name in front of the first part of every key, so a message of it is
found as it was before, and no other key is concerned. A name with a dot in it is cut apart when a
key is looked up as a path: only messages that stand under their whole keys are found then.
-/
namespace Polyglot

/-! ## Paths of keys -/

theorem exists_keyPath (key : String) : ∃ p ps, keyPath key = p :: ps := by
  obtain ⟨p, ps, hp⟩ := List.exists_cons_of_ne_nil (Text.splitOn_ne_nil '.' key.toList)
  exact ⟨String.ofList p, ps.map String.ofList, by rw [keyPath, hp, List.map_cons]⟩

/-- A name without a dot goes to the first part of the path. -/
theorem keyPath_append {front key p : String} {ps : List String} (h : '.' ∉ front.toList)
    (hp : keyPath key = p :: ps) : keyPath (front ++ key) = (front ++ p) :: ps := by
  obtain ⟨q, qs, hq⟩ := List.exists_cons_of_ne_nil (Text.splitOn_ne_nil '.' key.toList)
  rw [keyPath, hq, List.map_cons] at hp
  obtain ⟨rfl, rfl⟩ := List.cons.inj hp
  rw [keyPath, String.toList_append, Text.splitOn_append h hq, List.map_cons, String.ofList_append,
    String.ofList_toList]

/-- A name without a dot behind a dot is the last part of the path. -/
theorem keyPath_append_name (key : String) {name : String} (h : '.' ∉ name.toList) :
    keyPath (key ++ "." ++ name) = keyPath key ++ [name] := by
  have hkey : (key ++ "." ++ name).toList = key.toList ++ '.' :: name.toList := by simp
  rw [keyPath, hkey, Text.splitOn_append_cons, Text.splitOn_of_not_mem h, List.map_append,
    List.map_singleton, String.ofList_toList, keyPath]

/-- The first part of a path stands at the front of the key, and has no dot in it. -/
theorem keyPath_head {key p : String} {ps : List String} (hp : keyPath key = p :: ps) :
    (∃ rest, key = p ++ rest) ∧ '.' ∉ p.toList := by
  obtain ⟨q, qs, hq⟩ := List.exists_cons_of_ne_nil (Text.splitOn_ne_nil '.' key.toList)
  rw [keyPath, hq, List.map_cons] at hp
  obtain ⟨rfl, -⟩ := List.cons.inj hp
  obtain ⟨⟨rest, hrest⟩, hdot⟩ := Text.splitOn_head hq
  refine ⟨⟨String.ofList rest, ?_⟩, by rwa [String.toList_ofList]⟩
  rw [← String.toList_inj, ← hrest]
  simp

/-! ## Messages -/

namespace Bundle

/-- A message depends on what stands under the whole key and under the first part of its path. -/
theorem message?_congr {b c : Bundle} {k l p q : String} {ps : List String}
    (hk : keyPath k = p :: ps) (hl : keyPath l = q :: ps)
    (hwhole : Entries.get? b (.text k) = Entries.get? c (.text l))
    (hfirst : Entries.get? b (.text p) = Entries.get? c (.text q)) :
    message? b k = message? c l := by
  simp only [message?, hk, hl, hwhole, Value.walk?, hfirst]

/-- A key that is not a text of its own is looked up by its path alone. -/
theorem message?_of_not_text {b : Bundle} {k p : String} {ps : List String}
    (hk : keyPath k = p :: ps) (h : ∀ s, Entries.get? b (.text k) ≠ some (.text s)) :
    message? b k = ((Entries.get? b (.text p)).bind fun v => v.walk? ps).bind Value.text? := by
  unfold message?
  split
  · rename_i s hs
    exact absurd hs (h s)
  · rw [hk, Value.walk?]
    cases Entries.get? b (.text p) <;> rfl

theorem message?_of_text {b : Bundle} {k s : String}
    (h : Entries.get? b (.text k) = some (.text s)) : message? b k = some s := by
  simp only [message?, h]

/-- Whether the keys of a bundle are texts that differ from each other. -/
structure HasTextKeys (b : Bundle) : Prop where
  text : ∀ k ∈ Entries.keys b, ∃ s, k = .text s
  nodup : (Entries.keys b).Nodup

/-! ## Bundles of a namespace -/

variable {n : String} {b t : Bundle}

theorem namespacedKey_some (hn : n ≠ "") (key : String) :
    namespacedKey (some n) key = n ++ keyDelimiter ++ key := by
  simp only [namespacedKey, if_neg hn]

theorem inNamespace_some (hn : n ≠ "") (b : Bundle) :
    inNamespace (some n) b = Entries.ofList
      (b.map fun e => (.text (n ++ keyDelimiter ++ e.1.display), e.2)) := by
  have hfilter : (some n).filter (· ≠ "") = some n := by simp [Option.filter, hn]
  rw [inNamespace, hfilter]
  simp only [namespacedKey_some hn]

theorem isUnder_of_mem_inNamespace (hn : n ≠ "") {e : Key × Value}
    (he : e ∈ inNamespace (some n) b) : (Key.text n).IsUnder e.1 := by
  rw [inNamespace_some hn] at he
  obtain ⟨d, -, rfl⟩ := List.mem_map.1 (Entries.mem_of_mem_ofList he)
  exact ⟨d.1.display, rfl⟩

theorem nodup_keys_inNamespace (hn : n ≠ "") (b : Bundle) :
    (Entries.keys (inNamespace (some n) b)).Nodup := by
  rw [inNamespace_some hn]
  exact Entries.nodup_keys_ofList _

theorem append_delimiter_left_inj {x y : String}
    (h : n ++ keyDelimiter ++ x = n ++ keyDelimiter ++ y) : x = y := by
  have hlist := congrArg String.toList h
  simp only [String.toList_append, List.append_assoc, List.append_cancel_left_eq] at hlist
  exact String.toList_inj.1 hlist

/-- What stands under a key stands under the key with the namespace in front. -/
theorem get?_inNamespace (hn : n ≠ "") (hb : b.HasTextKeys) (key : String) :
    Entries.get? (inNamespace (some n) b) (.text (n ++ keyDelimiter ++ key)) =
      Entries.get? b (.text key) := by
  have hinj : ∀ k ∈ Entries.keys b, ∀ l : Key, (∃ s, l = .text s) →
      Key.text (n ++ keyDelimiter ++ k.display) = .text (n ++ keyDelimiter ++ l.display) →
        k = l := by
    rintro k hk _ ⟨s, rfl⟩ heq
    obtain ⟨r, rfl⟩ := hb.text k hk
    exact congrArg Key.text (append_delimiter_left_inj (Key.text.inj heq))
  rw [inNamespace_some hn]
  refine Entries.get?_ofList_map ?_ fun k hk => hinj k hk (.text key) ⟨key, rfl⟩
  exact hb.nodup.map_on fun k hk l hl => hinj k hk l (hb.text l hl)

theorem get?_eq_none_of_not_isUnder (ht : ∀ k ∈ Entries.keys t, ¬(Key.text n).IsUnder k)
    (key : String) : Entries.get? t (.text (n ++ keyDelimiter ++ key)) = none :=
  Entries.get?_eq_none_iff.2 fun hmem => ht _ hmem ⟨key, rfl⟩

/-! ## Bundles with a namespace on top -/

section Merged

variable (hn : n ≠ "") (hb : b.HasTextKeys)
include hn hb

/-- The keys under the namespace hold what its bundle holds. -/
theorem get?_update_inNamespace (ht : ∀ k ∈ Entries.keys t, ¬(Key.text n).IsUnder k)
    (key : String) :
    Entries.get? (Entries.update t (inNamespace (some n) b)) (.text (n ++ keyDelimiter ++ key)) =
      Entries.get? b (.text key) := by
  rw [Entries.get?_update (nodup_keys_inNamespace hn b), get?_inNamespace hn hb,
    get?_eq_none_of_not_isUnder ht, Option.or_none]

omit hb in
/-- The other keys hold what they held. -/
theorem get?_update_inNamespace_of_not_isUnder {k : Key} (hk : ¬(Key.text n).IsUnder k) :
    Entries.get? (Entries.update t (inNamespace (some n) b)) k = Entries.get? t k :=
  Entries.get?_update_of_forall_ne
    (fun _ he heq => hk (by rw [heq]; exact isUnder_of_mem_inNamespace hn he)) t

/-- A message of a namespace without a dot is found as in its bundle. -/
theorem message?_update_of_not_dot (ht : ∀ k ∈ Entries.keys t, ¬(Key.text n).IsUnder k)
    (hdot : '.' ∉ n.toList) (key : String) :
    message? (Entries.update t (inNamespace (some n) b)) (n ++ keyDelimiter ++ key) =
      message? b key := by
  obtain ⟨p, ps, hp⟩ := exists_keyPath key
  have hfront : '.' ∉ (n ++ keyDelimiter).toList := by
    rw [String.toList_append, List.mem_append, not_or]
    exact ⟨hdot, by decide⟩
  exact message?_congr (keyPath_append hfront hp) hp (get?_update_inNamespace hn hb ht key)
    (get?_update_inNamespace hn hb ht p)

/-- Of a namespace with a dot only what stands under a whole key is found: the path of such a key
leads past the namespace. -/
theorem message?_update_of_dot (ht : ∀ k ∈ Entries.keys t, ¬(Key.text n).IsUnder k)
    (hdot : '.' ∈ n.toList) (key : String) :
    message? (Entries.update t (inNamespace (some n) b)) (n ++ keyDelimiter ++ key) =
      ((Entries.get? b (.text key)).bind Value.text?).or
        (message? t (n ++ keyDelimiter ++ key)) := by
  have hwhole := get?_update_inNamespace hn hb ht key
  obtain ⟨p, ps, hp⟩ := exists_keyPath (n ++ keyDelimiter ++ key)
  have hnot : ¬(Key.text n).IsUnder (.text p) := by
    rintro ⟨rest, hrest⟩
    refine (keyPath_head hp).2 ?_
    rw [Key.text.inj hrest]
    simp [Key.display, hdot]
  have hfirst : Entries.get? (Entries.update t (inNamespace (some n) b)) (.text p) =
      Entries.get? t (.text p) := get?_update_inNamespace_of_not_isUnder hn hnot
  have habsent : ∀ s, Entries.get? t (.text (n ++ keyDelimiter ++ key)) ≠ some (.text s) := by
    simp [get?_eq_none_of_not_isUnder ht]
  by_cases hflat : ∃ s, Entries.get? b (.text key) = some (.text s)
  · obtain ⟨s, hs⟩ := hflat
    rw [message?_of_text (hwhole.trans hs), hs]
    rfl
  · have htext : (Entries.get? b (.text key)).bind Value.text? = none := by
      refine Option.bind_eq_none_iff.2 fun v hv => ?_
      cases v with
      | text s => exact absurd ⟨s, hv⟩ hflat
      | _ => rfl
    rw [not_exists] at hflat
    rw [message?_of_not_text hp (by rwa [hwhole]), hfirst, htext, Option.none_or,
      message?_of_not_text hp habsent]

omit hb in
/-- A message of another key is found as before. -/
theorem message?_update_of_not_isUnder {key : String} (hk : ¬(Key.text n).IsUnder (.text key)) :
    message? (Entries.update t (inNamespace (some n) b)) key = message? t key := by
  obtain ⟨p, ps, hp⟩ := exists_keyPath key
  obtain ⟨⟨rest, hrest⟩, -⟩ := keyPath_head hp
  have hfirst : ¬(Key.text n).IsUnder (.text p) := by
    rintro ⟨r, hr⟩
    refine hk ⟨r ++ rest, ?_⟩
    rw [hrest, Key.text.inj hr, ← String.append_assoc]
  exact message?_congr hp hp (get?_update_inNamespace_of_not_isUnder hn hk)
    (get?_update_inNamespace_of_not_isUnder hn hfirst)

end Merged

/-- Merging the bundle of a namespace, whose keys are texts, into a bundle without keys under that
namespace. A message of the namespace is found as in its bundle if the name has no dot; of a name
with a dot only what stands under the whole key is, and all else resolves as before. The other keys
resolve as before. -/
theorem message?_update_inNamespace (hn : n ≠ "") (hb : b.HasTextKeys)
    (ht : ∀ k ∈ Entries.keys t, ¬(Key.text n).IsUnder k) :
    (∀ key, message? (Entries.update t (inNamespace (some n) b)) (namespacedKey (some n) key) =
      if '.' ∈ n.toList then
        ((Entries.get? b (.text key)).bind Value.text?).or
          (message? t (namespacedKey (some n) key))
      else message? b key) ∧
    ∀ key, ¬(Key.text n).IsUnder (.text key) →
      message? (Entries.update t (inNamespace (some n) b)) key = message? t key := by
  refine ⟨fun key => ?_, fun key hk => message?_update_of_not_isUnder hn hk⟩
  rw [namespacedKey_some hn]
  split
  · rename_i hdot
    exact message?_update_of_dot hn hb ht hdot key
  · rename_i hdot
    exact message?_update_of_not_dot hn hb ht hdot key

/-- A cart with a nested message and one under a whole key, merged on top of the entries of a
start page. -/
theorem message?_update_inNamespace_cart :
    message? (Entries.update [(.text "title", .text "Start")] (inNamespace (some "cart")
      [(.text "sum", .dict [(.text "total", .text "Total")]), (.text "a.b", .text "Flat")]))
      "cart:sum.total" = some "Total" := by
  have hb : HasTextKeys
      [(.text "sum", .dict [(.text "total", .text "Total")]), (.text "a.b", .text "Flat")] :=
    ⟨by simp [Entries.keys], by decide⟩
  have ht : ∀ k ∈ Entries.keys [((.text "title" : Key), Value.text "Start")],
      ¬(Key.text "cart").IsUnder k := by
    rintro k hk ⟨rest, hrest⟩
    rw [List.mem_singleton.1 hk, Key.text.injEq, ← String.toList_inj] at hrest
    simp [Key.display, keyDelimiter] at hrest
  have hfound := (message?_update_inNamespace (by decide : "cart" ≠ "") hb ht).1 "sum.total"
  rw [if_neg (by decide)] at hfound
  exact hfound.trans (by decide)

/-- A nested message of a namespace with a dot is not found, though its bundle has it. A key that is
no text is found under a namespace, though its bundle does not have it as a text. -/
theorem not_forall_message?_inNamespace :
    (¬∀ (n : String) (b t : Bundle), n ≠ "" → b.HasTextKeys →
      (∀ k ∈ Entries.keys t, ¬(Key.text n).IsUnder k) → ∀ key,
        message? (Entries.update t (inNamespace (some n) b)) (namespacedKey (some n) key) =
          message? b key) ∧
    ¬∀ (n : String) (b t : Bundle), n ≠ "" → '.' ∉ n.toList →
      (∀ k ∈ Entries.keys t, ¬(Key.text n).IsUnder k) → ∀ key,
        message? (Entries.update t (inNamespace (some n) b)) (namespacedKey (some n) key) =
          message? b key := by
  constructor
  · intro hall
    have hfound := hall "shop.cart" [(.text "title", .dict [(.text "main", .text "Cart")])] []
      (by decide) ⟨by simp [Entries.keys], by decide⟩ (by simp [Entries.keys]) "title.main"
    revert hfound
    decide
  · intro hall
    have hfound := hall "errors" [(.int 404, .text "Not found")] [] (by decide) (by decide)
      (by simp [Entries.keys]) "404"
    revert hfound
    decide +kernel

end Bundle
end Polyglot
