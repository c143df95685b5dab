import Polyglot.Proofs.Bundle.History

/-!
# The order of a cache

The entries of a cache stand in the order of their last use, and their times fit together. Each
call keeps that, as long as the clock does not run back. So the entry that gives way to a new one is
one that was used longest ago, and no entry is lost otherwise unless it is cleared or has come to
its end.
-/
namespace Polyglot

namespace BundleCache

/-- What holds of a cache at a reading of the clock, whatever was done with it before. -/
structure IsOrdered (lifetime : Number) (capacity : Nat) (now : Number) (c : BundleCache) :
    Prop where
  lifetime_eq : c.lifetime = lifetime
  capacity_eq : c.capacity = some capacity
  nodup : (Entries.keys c.entries).Nodup
  size_le : c.size ≤ capacity
  /-- no entry was used later than those behind it -/
  sorted : c.entries.Pairwise fun d e => Number.le d.2.lastUsed e.2.lastUsed = true
  expires : ∀ e ∈ c.entries, e.2.createdAt.add? lifetime = some e.2.expiresAt
  created_le : ∀ e ∈ c.entries, Number.le e.2.createdAt e.2.lastUsed = true
  lastUsed_le : ∀ e ∈ c.entries, Number.le e.2.lastUsed now = true

/-- Why an entry of a cache is gone after a call. -/
inductive Loses (c : BundleCache) (now : Number) (e : Key × CacheEntry) : CacheCall → Prop
  /-- it gives way to a new key, as the first of a full cache; none was used before it -/
  | evicted {language : Key} {space : Option Key} {bundle : Bundle}
      (new : cacheKey language space ∉ Entries.keys c.entries) (full : c.capacity = some c.size)
      (first : c.entries.head? = some e)
      (oldest : ∀ d ∈ c.entries, Number.le e.2.lastUsed d.2.lastUsed = true) :
      Loses c now e (.set language space bundle)
  /-- it was to be read, and its time has come -/
  | expired {language : Key} {space : Option Key} (asked : cacheKey language space = e.1)
      (ended : e.2.isFresh now = false) : Loses c now e (.get language space)
  | cleared : Loses c now e .clear
  | clearedLanguage {language : Key} (belongs : belongsTo language e.1 = true) :
      Loses c now e (.clearLanguage language)

/-- The entry that storing a bundle adds. There is none where its end cannot be told. -/
def added (c : BundleCache) (now : Number) (key : Key) (b : Bundle) : List (Key × CacheEntry) :=
  (now.add? c.lifetime).toList.map fun expiry => (key, ⟨b, now, expiry, now⟩)

/-! ## What calls do to the entries -/

section Calls

variable {c : BundleCache} {now : Number} {language : Key} {space : Option Key} {b : Bundle}
  {key : Key}

theorem keys_touch (entries : List (Key × CacheEntry)) (key : Key) (e : CacheEntry) :
    Entries.keys (touch entries key e) = (Entries.keys entries).filter (· ≠ key) ++ [key] := by
  rw [← Entries.keys_erase, touch, Entries.keys, List.map_append]
  rfl

theorem mem_keys_touch {entries : List (Key × CacheEntry)} {k : Key}
    (h : k ∈ Entries.keys entries) (key : Key) (e : CacheEntry) :
    k ∈ Entries.keys (touch entries key e) := by
  rw [keys_touch, List.mem_append, List.mem_filter, List.mem_singleton]
  by_cases heq : k = key
  · exact .inr heq
  · exact .inl ⟨h, by simpa using heq⟩

theorem entries_get_of_none (h : Entries.get? c.entries (cacheKey language space) = none) :
    (c.get now language space).1 = c := by
  simp only [get, h]

theorem entries_get_of_fresh {e : CacheEntry}
    (h : Entries.get? c.entries (cacheKey language space) = some e) (hfresh : e.isFresh now = true) :
    (c.get now language space).1 =
      { c with
        entries := touch c.entries (cacheKey language space) { e with lastUsed := now } } := by
  simp only [get, h, hfresh, if_true]

theorem entries_get_of_ended {e : CacheEntry}
    (h : Entries.get? c.entries (cacheKey language space) = some e)
    (hended : e.isFresh now = false) :
    (c.get now language space).1 =
      { c with entries := Entries.erase c.entries (cacheKey language space) } := by
  simp [get, h, hended]

/-- A new key goes behind what is left when room was made for it. -/
theorem entries_set_of_new (h : cacheKey language space ∉ Entries.keys c.entries) :
    (c.set now language space b).cache.entries =
      c.makeRoom (cacheKey language space) ++ c.added now (cacheKey language space) b := by
  have herase : Entries.erase (c.makeRoom (cacheKey language space)) (cacheKey language space) =
      c.makeRoom (cacheKey language space) := by
    refine List.filter_eq_self.2 fun e he => ?_
    have hmem : e.1 ∈ Entries.keys c.entries :=
      List.mem_map_of_mem ((c.makeRoom_sublist _).subset he)
    have hne : e.1 ≠ cacheKey language space := fun heq => h (heq ▸ hmem)
    simpa using hne
  simp only [set, added]
  cases now.add? c.lifetime with
  | none => simp
  | some expiry => simp [touch, herase]

theorem makeRoom_of_mem (h : key ∈ Entries.keys c.entries) : c.makeRoom key = c.entries := by
  have hhas : Entries.has c.entries key = true := by
    rw [Entries.has, Option.isSome_iff_ne_none, ne_eq, Entries.get?_eq_none_iff]
    exact not_not_intro h
  rw [makeRoom, if_pos hhas]

theorem makeRoom_of_not_mem (h : key ∉ Entries.keys c.entries) :
    c.makeRoom key = if c.isFull then c.entries.drop 1 else c.entries := by
  have hhas : Entries.has c.entries key = false := by
    rw [Entries.has, Entries.get?_eq_none_iff.2 h, Option.isSome_none]
  simp [makeRoom, hhas]

end Calls

namespace IsOrdered

variable {c : BundleCache} {lifetime now later : Number} {capacity : Nat}

/-! ## Steps -/

theorem mono (h : c.IsOrdered lifetime capacity now) (hle : Number.le now later = true) :
    c.IsOrdered lifetime capacity later :=
  { h with lastUsed_le := fun e he => Number.le_trans (h.lastUsed_le e he) hle }

theorem isFull_iff (h : c.IsOrdered lifetime capacity now) :
    c.isFull = true ↔ c.capacity = some c.size := by
  have hle := h.size_le
  simp only [isFull, h.capacity_eq, Option.any_some, decide_eq_true_eq, Option.some.injEq]
  rw [size] at hle ⊢
  omega

/-- Entries may be dropped. -/
theorem sublist (h : c.IsOrdered lifetime capacity now) {entries : List (Key × CacheEntry)}
    (hsub : entries.Sublist c.entries) :
    { c with entries := entries }.IsOrdered lifetime capacity now where
  lifetime_eq := h.lifetime_eq
  capacity_eq := h.capacity_eq
  nodup := h.nodup.sublist (hsub.map _)
  size_le := Nat.le_trans hsub.length_le h.size_le
  sorted := h.sorted.sublist hsub
  expires e he := h.expires e (hsub.subset he)
  created_le e he := h.created_le e (hsub.subset he)
  lastUsed_le e he := h.lastUsed_le e (hsub.subset he)

/-- What is used now goes behind all other entries. -/
theorem touch (h : c.IsOrdered lifetime capacity now) {entries : List (Key × CacheEntry)}
    (hsub : entries.Sublist c.entries) {key : Key} {e : CacheEntry}
    (hroom : (Entries.erase entries key).length < capacity)
    (hexpires : e.createdAt.add? lifetime = some e.expiresAt)
    (hcreated : Number.le e.createdAt now = true) (hused : e.lastUsed = now) :
    { c with entries := BundleCache.touch entries key e }.IsOrdered lifetime capacity now := by
  have hrest := h.sublist (List.filter_sublist.trans hsub : (Entries.erase entries key).Sublist _)
  have hnow : Number.le e.lastUsed now = true := hused ▸ (Number.IsPlaced.of_le_right hcreated).le_self
  have hmem : ∀ d ∈ BundleCache.touch entries key e,
      d ∈ Entries.erase entries key ∨ d = (key, e) := by simp [BundleCache.touch]
  refine
    { lifetime_eq := h.lifetime_eq
      capacity_eq := h.capacity_eq
      nodup := ?_
      size_le := ?_
      sorted := ?_
      expires := ?_
      created_le := ?_
      lastUsed_le := ?_ }
  · rw [keys_touch, ← Entries.keys_erase, List.nodup_append]
    refine ⟨hrest.nodup, by simp, ?_⟩
    intro k hk j hj
    rw [Entries.keys_erase, List.mem_filter] at hk
    rw [List.mem_singleton.1 hj]
    simpa using hk.2
  · rw [size, BundleCache.touch, List.length_append]
    exact hroom
  · rw [BundleCache.touch, List.pairwise_append]
    refine ⟨hrest.sorted, List.pairwise_singleton _ _, ?_⟩
    intro d hd f hf
    rw [List.mem_singleton.1 hf, hused]
    exact hrest.lastUsed_le d hd
  · intro d hd
    rcases hmem d hd with hold | rfl
    · exact hrest.expires d hold
    · exact hexpires
  · intro d hd
    rcases hmem d hd with hold | rfl
    · exact hrest.created_le d hold
    · exact hused ▸ hcreated
  · intro d hd
    rcases hmem d hd with hold | rfl
    · exact hrest.lastUsed_le d hold
    · exact hnow

theorem length_erase_lt (h : c.IsOrdered lifetime capacity now) {key : Key}
    (hkey : key ∈ Entries.keys c.entries) : (Entries.erase c.entries key).length < capacity := by
  have hlength := Entries.length_erase_of_mem h.nodup hkey
  have hle := h.size_le
  rw [size] at hle
  omega

theorem get (h : c.IsOrdered lifetime capacity now) (language : Key) (space : Option Key) :
    (c.get now language space).1.IsOrdered lifetime capacity now := by
  cases hfound : Entries.get? c.entries (cacheKey language space) with
  | none => rwa [entries_get_of_none hfound]
  | some e =>
    have hmem := Entries.mem_of_get? hfound
    cases hfresh : e.isFresh now with
    | true =>
      rw [entries_get_of_fresh hfound hfresh]
      refine h.touch (List.Sublist.refl _) (h.length_erase_lt (List.mem_map_of_mem hmem))
        (h.expires _ hmem) ?_ rfl
      exact Number.le_trans (h.created_le _ hmem) (h.lastUsed_le _ hmem)
    | false =>
      rw [entries_get_of_ended hfound hfresh]
      exact h.sublist List.filter_sublist

theorem length_erase_makeRoom_lt (h : c.IsOrdered lifetime capacity now) (hpos : 1 ≤ capacity)
    (key : Key) : (Entries.erase (c.makeRoom key) key).length < capacity := by
  have hle := h.size_le
  by_cases hkey : key ∈ Entries.keys c.entries
  · rw [makeRoom_of_mem hkey]
    exact h.length_erase_lt hkey
  · refine Nat.lt_of_le_of_lt (List.length_filter_le _ _) ?_
    have hfull := h.isFull_iff
    rw [h.capacity_eq, Option.some.injEq] at hfull
    rw [makeRoom_of_not_mem hkey]
    split
    · rw [List.length_drop]
      rw [size] at hle
      omega
    · rename_i hroom
      exact Nat.lt_of_le_of_ne hle fun heq => hroom (hfull.2 heq.symm)

theorem set (h : c.IsOrdered lifetime capacity now) (hpos : 1 ≤ capacity) (hnow : now.IsPlaced)
    (language : Key) (space : Option Key) (b : Bundle) :
    (c.set now language space b).cache.IsOrdered lifetime capacity now := by
  have hsub := c.makeRoom_sublist (cacheKey language space)
  simp only [BundleCache.set]
  split
  · exact h.sublist hsub
  · rename_i expiry hexpiry
    exact h.touch hsub (h.length_erase_makeRoom_lt hpos _) (h.lifetime_eq ▸ hexpiry) hnow.le_self rfl

/-- Storing a bundle in place of another one leaves the size as it is. -/
theorem size_set (h : c.IsOrdered lifetime capacity now) {language : Key} {space : Option Key}
    {b : Bundle} (hkey : cacheKey language space ∈ Entries.keys c.entries) :
    (c.set now language space b).cache.size = c.size := by
  simp only [BundleCache.set, makeRoom_of_mem hkey]
  cases now.add? c.lifetime with
  | none => rfl
  | some expiry =>
    show (Entries.erase c.entries _ ++ [_]).length = c.entries.length
    rw [List.length_append]
    exact Entries.length_erase_of_mem h.nodup hkey

end IsOrdered

/-! ## What is lost -/

section Losses

variable {c : BundleCache} {lifetime now : Number} {capacity : Nat} {e : Key × CacheEntry}

theorem IsOrdered.not_mem_get_iff (h : c.IsOrdered lifetime capacity now) (he : e ∈ c.entries)
    (language : Key) (space : Option Key) :
    e.1 ∉ Entries.keys (c.get now language space).1.entries ↔
      c.Loses now e (.get language space) := by
  have hmem : e.1 ∈ Entries.keys c.entries := List.mem_map_of_mem he
  have hself := Entries.get?_of_mem h.nodup he
  constructor
  · intro hgone
    cases hfound : Entries.get? c.entries (cacheKey language space) with
    | none =>
      rw [entries_get_of_none hfound] at hgone
      exact absurd hmem hgone
    | some f =>
      cases hfresh : f.isFresh now with
      | true =>
        rw [entries_get_of_fresh hfound hfresh] at hgone
        exact absurd (mem_keys_touch hmem _ _) hgone
      | false =>
        rw [entries_get_of_ended hfound hfresh, Entries.keys_erase] at hgone
        have hkey : e.1 = cacheKey language space := by
          by_contra hne
          exact hgone (List.mem_filter.2 ⟨hmem, by simpa using hne⟩)
        rw [← hkey, hself] at hfound
        cases hfound
        exact .expired hkey.symm hfresh
  · intro hlost
    cases hlost with
    | expired asked ended =>
      rw [entries_get_of_ended (asked ▸ hself) ended, asked, Entries.keys_erase]
      simp

/-- The first of a full cache is the only entry that gives way. -/
theorem IsOrdered.not_mem_drop_iff (h : c.IsOrdered lifetime capacity now) (he : e ∈ c.entries) :
    e.1 ∉ Entries.keys (c.entries.drop 1) ↔
      c.entries.head? = some e ∧
        ∀ d ∈ c.entries, Number.le e.2.lastUsed d.2.lastUsed = true := by
  have hnodup := h.nodup
  have hsorted := h.sorted
  have hself : Number.le e.2.lastUsed e.2.lastUsed = true :=
    (Number.IsPlaced.of_le_left (h.lastUsed_le e he)).le_self
  cases hentries : c.entries with
  | nil =>
    rw [hentries] at he
    cases he
  | cons first rest =>
    rw [hentries] at he hnodup hsorted
    obtain ⟨hne, -⟩ := Entries.nodup_keys_cons.1 hnodup
    rw [List.drop_one, List.tail_cons, List.head?_cons]
    constructor
    · intro hgone
      obtain rfl : e = first :=
        (List.mem_cons.1 he).resolve_right fun hr => hgone (List.mem_map_of_mem hr)
      refine ⟨rfl, ?_⟩
      intro d hd
      rcases List.mem_cons.1 hd with rfl | hr
      · exact hself
      · exact (List.pairwise_cons.1 hsorted).1 d hr
    · rintro ⟨hfirst, -⟩ hmem
      cases hfirst
      obtain ⟨d, hd, heq⟩ := List.mem_map.1 hmem
      exact hne d hd heq

theorem IsOrdered.not_mem_set_iff (h : c.IsOrdered lifetime capacity now) (he : e ∈ c.entries)
    (language : Key) (space : Option Key) (b : Bundle) :
    e.1 ∉ Entries.keys (c.set now language space b).cache.entries ↔
      c.Loses now e (.set language space b) := by
  have hmem : e.1 ∈ Entries.keys c.entries := List.mem_map_of_mem he
  by_cases hkey : cacheKey language space ∈ Entries.keys c.entries
  · have hkept : e.1 ∈ Entries.keys (c.set now language space b).cache.entries := by
      simp only [BundleCache.set, makeRoom_of_mem hkey]
      split
      · exact hmem
      · exact mem_keys_touch hmem _ _
    constructor
    · exact fun hgone => absurd hkept hgone
    · intro hlost
      cases hlost with
      | evicted new full first oldest => exact absurd hkey new
  · have hne : e.1 ∉ Entries.keys (c.added now (cacheKey language space) b) := by
      intro hadded
      obtain ⟨d, hd, heq⟩ := List.mem_map.1 hadded
      obtain ⟨expiry, -, rfl⟩ := List.mem_map.1 hd
      rw [← heq] at hmem
      exact hkey hmem
    have hgone : e.1 ∉ Entries.keys (c.set now language space b).cache.entries ↔
        e.1 ∉ Entries.keys (c.makeRoom (cacheKey language space)) := by
      rw [entries_set_of_new hkey, Entries.keys, List.map_append, List.mem_append, not_or]
      exact and_iff_left hne
    rw [hgone, makeRoom_of_not_mem hkey]
    by_cases hfull : c.isFull = true
    · rw [if_pos hfull, h.not_mem_drop_iff he]
      constructor
      · rintro ⟨first, oldest⟩
        exact .evicted hkey (h.isFull_iff.1 hfull) first oldest
      · intro hlost
        cases hlost with
        | evicted new full first oldest => exact ⟨first, oldest⟩
    · rw [if_neg hfull]
      constructor
      · exact fun hout => absurd hmem hout
      · intro hlost
        cases hlost with
        | evicted new full first oldest => exact absurd (h.isFull_iff.2 full) hfull

theorem not_mem_clearLanguage_iff (he : e ∈ c.entries) (now : Number) (language : Key) :
    e.1 ∉ Entries.keys (c.clearLanguage language).entries ↔
      c.Loses now e (.clearLanguage language) := by
  constructor
  · intro hgone
    by_contra hkept
    have hother : belongsTo language e.1 = false := by
      simpa using fun belongs => hkept (.clearedLanguage belongs)
    exact hgone (List.mem_map_of_mem (List.mem_filter.2 ⟨he, by simp [hother]⟩))
  · intro hlost hmem
    cases hlost with
    | clearedLanguage belongs =>
      obtain ⟨d, hd, heq⟩ := List.mem_map.1 hmem
      have hother := (List.mem_filter.1 hd).2
      simp [heq, belongs] at hother

end Losses
end BundleCache

namespace RecordedCache

open BundleCache

variable {r : RecordedCache} {lifetime now : Number} {capacity : Nat}

theorem not_mem_act_iff (h : r.cache.IsOrdered lifetime capacity now) {e : Key × CacheEntry}
    (he : e ∈ r.cache.entries) (call : CacheCall) :
    e.1 ∉ Entries.keys (r.act now call).cache.entries ↔ r.cache.Loses now e call := by
  cases call with
  | get l s => exact h.not_mem_get_iff he l s
  | set l s b => exact h.not_mem_set_iff he l s b
  | clear => exact ⟨fun _ => .cleared, fun _ hmem => nomatch hmem⟩
  | clearLanguage l => exact not_mem_clearLanguage_iff he now l

/-! ## Runs -/

theorem isOrdered_act (h : r.cache.IsOrdered lifetime capacity now) (hpos : 1 ≤ capacity)
    (hnow : now.IsPlaced) (call : CacheCall) :
    (r.act now call).cache.IsOrdered lifetime capacity now := by
  cases call with
  | get l s => exact h.get l s
  | set l s b => exact h.set hpos hnow l s b
  | clear => exact h.sublist (List.nil_sublist _)
  | clearLanguage l => exact h.sublist List.filter_sublist

/-- Calls at readings of a clock that does not run back leave a cache in order, up to the reading
after them. -/
theorem isOrdered_run_of_forall {calls : List (Number × CacheCall)} (hpos : 1 ≤ capacity)
    (hclock : (calls.map Prod.fst ++ [now]).Pairwise fun s t => Number.le s t = true)
    (h : ∀ t ∈ calls.map Prod.fst ++ [now], r.cache.IsOrdered lifetime capacity t) :
    (r.run calls).cache.IsOrdered lifetime capacity now := by
  induction calls generalizing r with
  | nil => exact h now List.mem_cons_self
  | cons c rest ih =>
    obtain ⟨hlater, hrest⟩ := List.pairwise_cons.1 hclock
    have hplaced : c.1.IsPlaced :=
      Number.IsPlaced.of_le_left (hlater now (List.mem_append_right _ List.mem_cons_self))
    have hact := isOrdered_act (h c.1 List.mem_cons_self) hpos hplaced c.2
    exact ih hrest fun t ht => hact.mono (hlater t ht)

theorem isOrdered_create (lifetime : Duration) (capacity : Nat) (now : Number) :
    (create lifetime capacity).cache.IsOrdered (.float lifetime.seconds) capacity now where
  lifetime_eq := rfl
  capacity_eq := rfl
  nodup := List.nodup_nil
  size_le := Nat.zero_le _
  sorted := List.Pairwise.nil
  expires := by simp [create, BundleCache.create]
  created_le := by simp [create, BundleCache.create]
  lastUsed_le := by simp [create, BundleCache.create]

/-- After any calls at readings of a clock that does not run back, the keys of a cache are
different, there are no more entries than it has room for, and they stand in the order of their last
use with times that fit together. An entry that is lost in a further call has given way, has come to
its end or was cleared; only the first entry of a full cache gives way, and only to a new key, and no
entry was used before it. Replacing a bundle changes no size, and clearing a language takes away the
entries that were stored for it and leaves all others as they stand. -/
theorem isOrdered_run (lifetime : Duration) {capacity : Nat} (hcapacity : 1 ≤ capacity)
    (calls : List (Number × CacheCall)) {now : Number}
    (hclock : (calls.map Prod.fst ++ [now]).Pairwise fun s t => Number.le s t = true) :
    let r := (create lifetime capacity).run calls
    r.cache.IsOrdered (.float lifetime.seconds) capacity now ∧
    (∀ call, ∀ e ∈ r.cache.entries,
      e.1 ∉ Entries.keys (r.act now call).cache.entries ↔ r.cache.Loses now e call) ∧
    (∀ l s b, cacheKey l s ∈ Entries.keys r.cache.entries →
      (r.cache.set now l s b).cache.size = r.cache.size) ∧
    (∀ l s b, cacheKey l s ∉ Entries.keys r.cache.entries →
      (r.cache.set now l s b).cache.entries =
        (if r.cache.size = capacity then r.cache.entries.drop 1 else r.cache.entries) ++
          r.cache.added now (cacheKey l s) b) ∧
    ((∀ c ∈ calls, ∀ l ∈ c.2.language?, l.IsPlain) → ∃ kept, r.cache.entries = keyed kept ∧
      (∀ p ∈ kept, r.past.lastStored? p.1 = some (p.2.bundle, p.2.createdAt)) ∧
      ∀ l, l.IsPlain → (r.cache.clearLanguage l).entries =
        keyed (kept.filter fun p => p.1.language ≠ l)) := by
  intro r
  have h : r.cache.IsOrdered (.float lifetime.seconds) capacity now :=
    isOrdered_run_of_forall hcapacity hclock fun t _ => isOrdered_create lifetime capacity t
  refine ⟨h, fun call e he => not_mem_act_iff h he call, fun l s b hkey => h.size_set hkey,
    fun l s b hkey => ?_, fun hplain => ?_⟩
  · have hfull := h.isFull_iff
    rw [h.capacity_eq, Option.some.injEq, eq_comm (a := capacity)] at hfull
    rw [entries_set_of_new hkey, makeRoom_of_not_mem hkey]
    simp only [hfull]
  · obtain ⟨kept, hkept⟩ := (Holds.create lifetime capacity).run hcapacity calls hplain
    refine ⟨kept, hkept.entries_eq, fun p hp => (hkept.stored p hp).1, fun l hl => ?_⟩
    rw [clearLanguage, hkept.entries_eq, filter_keyed hkept.plain hl]

set_option maxRecDepth 4000 in
/-- The cache of two titles is full, and the French one is stored in it. -/
theorem isOrdered_run_titleCalls :
    (titleCalls.map Prod.fst ++ [Number.int 4]).Pairwise (fun s t => Number.le s t = true) ∧
      let r := (create BundleCache.defaultLifetime 2).run titleCalls
      r.cache.IsOrdered (.float BundleCache.defaultLifetime.seconds) 2 (.int 4) ∧
        ∀ b, (r.cache.set (.int 4) (.text "fr") none b).cache.size = r.cache.size := by
  have hclock : (titleCalls.map Prod.fst ++ [Number.int 4]).Pairwise
      (fun s t => Number.le s t = true) := by decide
  have hcapacity : 1 ≤ 2 := by decide
  obtain ⟨hordered, -, hsize, -⟩ :=
    isOrdered_run BundleCache.defaultLifetime hcapacity titleCalls hclock
  exact ⟨hclock, hordered, fun b => hsize (.text "fr") none b (by decide +kernel)⟩

end RecordedCache
end Polyglot
