import Polyglot.Proofs.Bundle.Space
import Polyglot.Proofs.Number.Order
import Mathlib.Data.List.Infix
import Mathlib.Data.List.Perm.Subperm

/-!
# What a cache gives back

What a cache gives back can be told from what happened to it: it is the bundle that was stored last
for the same language and namespace, and it is there as long as it is not cleared, its time has not
come, and not too many others were used since.

Everything rests on the order of the entries: whatever stands behind an entry was used later. So
when an entry gives way to a new one, all others in the cache were used since it was.
-/
namespace Polyglot

/-! ## The past -/

namespace CachePast

/-- The bundle that was stored last in a slot and the time of that, unless the slot has been
cleared since. -/
def lastStored? (slot : Slot) : CachePast → Option (Bundle × Number)
  | [] => none
  | (time, .stored s b) :: earlier => if s = slot then some (b, time) else lastStored? slot earlier
  | (_, .cleared) :: _ => none
  | (_, .clearedLanguage l) :: earlier =>
      if l = slot.language then none else lastStored? slot earlier
  | (_, .read _) :: earlier => lastStored? slot earlier
  | (_, .missed _) :: earlier => lastStored? slot earlier
  | (_, .refused _) :: earlier => lastStored? slot earlier

/-- The other slots, each once, that were set or read since the slot itself was. A bundle that is
refused makes other slots give way like any other bundle, but it changes nothing for its own. -/
def othersSince (slot : Slot) : CachePast → List Slot
  | [] => []
  | (_, .read s) :: earlier => if s = slot then [] else (othersSince slot earlier).insert s
  | (_, .stored s _) :: earlier => if s = slot then [] else (othersSince slot earlier).insert s
  | (_, .refused s) :: earlier =>
      if s = slot then othersSince slot earlier else (othersSince slot earlier).insert s
  | (_, .missed _) :: earlier => othersSince slot earlier
  | (_, .cleared) :: earlier => othersSince slot earlier
  | (_, .clearedLanguage _) :: earlier => othersSince slot earlier

/-- What was stored last was stored at a reading of the clock. -/
theorem exists_of_lastStored? {x : Slot} {past : CachePast} {b : Bundle} {time : Number}
    (h : past.lastStored? x = some (b, time)) : ∃ e ∈ past, e.1 = time := by
  fun_induction lastStored? x past with
  | case1 => cases h
  | case2 =>
    cases h
    exact ⟨_, List.mem_cons_self, rfl⟩
  | case4 => cases h
  | case5 => cases h
  | _ =>
    rename_i ih
    obtain ⟨e, he, htime⟩ := ih h
    exact ⟨e, List.mem_cons_of_mem _ he, htime⟩

end CachePast

def CacheCall.language? : CacheCall → Option Key
  | get l _ => some l
  | set l _ _ => some l
  | clear => none
  | clearLanguage l => some l

/-! ## Entries by slot -/

def keyed (kept : List (Slot × CacheEntry)) : List (Key × CacheEntry) :=
  kept.map fun p => (p.1.key, p.2)

section Keyed

variable {kept : List (Slot × CacheEntry)} {x : Slot}

theorem get?_keyed (hkept : ∀ p ∈ kept, p.1.language.IsPlain) (hx : x.language.IsPlain) :
    Entries.get? (keyed kept) x.key = Entries.get? kept x := by
  induction kept with
  | nil => rfl
  | cons p r ih =>
    have hp := hkept p List.mem_cons_self
    have hr := ih fun q hq => hkept q (List.mem_cons_of_mem _ hq)
    have hkey : p.1.key = x.key ↔ p.1 = x := ⟨Slot.key_inj hp hx, congrArg Slot.key⟩
    simp only [keyed, List.map_cons, Entries.get?, hkey] at hr ⊢
    rw [hr]

theorem erase_keyed (hkept : ∀ p ∈ kept, p.1.language.IsPlain) (hx : x.language.IsPlain) :
    Entries.erase (keyed kept) x.key = keyed (Entries.erase kept x) := by
  rw [Entries.erase, keyed, List.filter_map, Entries.erase, keyed]
  congr 1
  refine List.filter_congr fun p hp => ?_
  have hkey : p.1.key = x.key ↔ p.1 = x := ⟨Slot.key_inj (hkept p hp) hx, congrArg Slot.key⟩
  simp [hkey]

/-- What is left when a language is cleared are the slots of other languages. -/
theorem filter_keyed (hkept : ∀ p ∈ kept, p.1.language.IsPlain) {l : Key} (hl : l.IsPlain) :
    (keyed kept).filter (fun e => !BundleCache.belongsTo l e.1) =
      keyed (kept.filter fun p => p.1.language ≠ l) := by
  rw [keyed, List.filter_map, keyed]
  congr 1
  refine List.filter_congr fun p hp => ?_
  have hkey : BundleCache.belongsTo l p.1.key = decide (p.1.language = l) := by
    rw [Bool.eq_iff_iff, BundleCache.belongsTo_key (hkept p hp) hl, decide_eq_true_iff]
  simp [hkey]

end Keyed

/-! ## What the entries tell -/

/-- Whether some entries are those of a cache, and the cache has kept what it has to keep. -/
structure RecordedCache.Holds (capacity : Nat) (r : RecordedCache)
    (kept : List (Slot × CacheEntry)) : Prop where
  capacity_eq : r.cache.capacity = some capacity
  entries_eq : r.cache.entries = keyed kept
  plain : ∀ p ∈ kept, p.1.language.IsPlain
  nodup : (Entries.keys kept).Nodup
  length_le : kept.length ≤ capacity
  stored : ∀ p ∈ kept, r.past.lastStored? p.1 = some (p.2.bundle, p.2.createdAt) ∧
    p.2.createdAt.add? r.cache.lifetime = some p.2.expiresAt
  /-- every entry was used later than those in front of it -/
  later : (Entries.keys kept).Pairwise fun x y => y ∈ r.past.othersSince x
  /-- what was stored and is gone has given way to others or has come to its end -/
  lost : ∀ x b time expiry, r.past.lastStored? x = some (b, time) →
    time.add? r.cache.lifetime = some expiry → x ∉ Entries.keys kept →
      capacity ≤ (r.past.othersSince x).length ∨ ∃ e ∈ r.past, Number.le expiry e.1 = true

namespace RecordedCache

variable {n : Nat} {r : RecordedCache} {kept : List (Slot × CacheEntry)} {x : Slot}

theorem Holds.create (lifetime : Duration) (capacity : Nat) :
    Holds capacity (create lifetime capacity) [] where
  capacity_eq := rfl
  entries_eq := rfl
  plain := by simp
  nodup := List.nodup_nil
  length_le := Nat.zero_le _
  stored := by simp
  later := List.Pairwise.nil
  lost := by simp [RecordedCache.create, CachePast.lastStored?]

/-- Entries may be dropped for good reasons: they were cleared, have given way, or have come to
their end. -/
theorem Holds.shrink (h : Holds n r kept) {kept' : List (Slot × CacheEntry)}
    (hsub : kept'.Sublist kept) (e : Number × CacheEvent)
    (hlast : ∀ y ∈ Entries.keys kept',
      CachePast.lastStored? y (e :: r.past) = r.past.lastStored? y)
    (hcleared : ∀ y, CachePast.lastStored? y (e :: r.past) = r.past.lastStored? y ∨
      CachePast.lastStored? y (e :: r.past) = none)
    (hothers : ∀ y, r.past.othersSince y <:+ CachePast.othersSince y (e :: r.past))
    (hgone : ∀ y ∈ Entries.keys kept, y ∉ Entries.keys kept' → ∀ b time expiry,
      CachePast.lastStored? y (e :: r.past) = some (b, time) →
        time.add? r.cache.lifetime = some expiry →
          n ≤ (CachePast.othersSince y (e :: r.past)).length ∨ Number.le expiry e.1 = true) :
    Holds n ⟨{ r.cache with entries := keyed kept' }, e :: r.past⟩ kept' := by
  have hkeys : (Entries.keys kept').Sublist (Entries.keys kept) := hsub.map _
  refine
    { capacity_eq := h.capacity_eq
      entries_eq := rfl
      plain := fun p hp => h.plain p (hsub.subset hp)
      nodup := h.nodup.sublist hkeys
      length_le := Nat.le_trans hsub.length_le h.length_le
      stored := ?_
      later := (h.later.sublist hkeys).imp fun hxy => (hothers _).subset hxy
      lost := ?_ }
  · intro p hp
    rw [hlast p.1 (List.mem_map_of_mem hp)]
    exact h.stored p (hsub.subset hp)
  · intro y b time expiry hstored hexpiry hy
    by_cases hkept : y ∈ Entries.keys kept
    · rcases hgone y hkept hy b time expiry hstored hexpiry with hmany | hend
      · exact .inl hmany
      · exact .inr ⟨e, List.mem_cons_self, hend⟩
    · have hbefore : r.past.lastStored? y = some (b, time) := by
        rcases hcleared y with heq | hnone
        · exact heq ▸ hstored
        · rw [hnone] at hstored
          cases hstored
      rcases h.lost y b time expiry hbefore hexpiry hkept with hmany | ⟨d, hd, hend⟩
      · exact .inl (Nat.le_trans hmany (hothers y).length_le)
      · exact .inr ⟨d, List.mem_cons_of_mem _ hd, hend⟩

/-- Reading or storing puts an entry behind all others. -/
theorem Holds.use (h : Holds n r kept) {kept' : List (Slot × CacheEntry)}
    (hsub : kept'.Sublist kept) (hx : x.language.IsPlain)
    (hroom : (Entries.erase kept' x).length < n)
    (e : Number × CacheEvent) {entry : CacheEntry}
    (hothers : ∀ y, CachePast.othersSince y (e :: r.past) =
      if x = y then [] else (r.past.othersSince y).insert x)
    (hlast : ∀ y, y ≠ x → CachePast.lastStored? y (e :: r.past) = r.past.lastStored? y)
    (hentry : CachePast.lastStored? x (e :: r.past) = some (entry.bundle, entry.createdAt) ∧
      entry.createdAt.add? r.cache.lifetime = some entry.expiresAt)
    (hgone : ∀ y ∈ Entries.keys kept, y ∉ Entries.keys kept' →
      n ≤ ((r.past.othersSince y).insert x).length) :
    Holds n ⟨{ r.cache with entries := keyed (Entries.erase kept' x ++ [(x, entry)]) }, e :: r.past⟩
      (Entries.erase kept' x ++ [(x, entry)]) := by
  have herase : (Entries.erase kept' x).Sublist kept := List.filter_sublist.trans hsub
  have hne : ∀ y ∈ Entries.keys (Entries.erase kept' x), y ≠ x := by
    intro y hy
    rw [Entries.keys_erase] at hy
    simpa using (List.mem_filter.1 hy).2
  have hmem : ∀ p ∈ Entries.erase kept' x ++ [(x, entry)],
      p ∈ Entries.erase kept' x ∨ p = (x, entry) := by simp
  have hkeys : Entries.keys (Entries.erase kept' x ++ [(x, entry)]) =
      Entries.keys (Entries.erase kept' x) ++ [x] := by simp [Entries.keys]
  refine
    { capacity_eq := h.capacity_eq
      entries_eq := rfl
      plain := ?_
      nodup := ?_
      length_le := by rw [List.length_append]; exact hroom
      stored := ?_
      later := ?_
      lost := ?_ }
  · intro p hp
    rcases hmem p hp with hold | rfl
    · exact h.plain p (herase.subset hold)
    · exact hx
  · rw [hkeys, List.nodup_append]
    refine ⟨h.nodup.sublist (herase.map _), by simp, ?_⟩
    intro y hy z hz
    rw [List.mem_singleton.1 hz]
    exact hne y hy
  · intro p hp
    rcases hmem p hp with hold | rfl
    · rw [hlast p.1 (hne p.1 (List.mem_map_of_mem hold))]
      exact h.stored p (herase.subset hold)
    · exact hentry
  · rw [hkeys, List.pairwise_append]
    have hinsert : ∀ y ∈ Entries.keys (Entries.erase kept' x),
        CachePast.othersSince y (e :: r.past) = (r.past.othersSince y).insert x := by
      intro y hy
      rw [hothers, if_neg (hne y hy).symm]
    refine ⟨(h.later.sublist (herase.map _)).imp_of_mem ?_, List.pairwise_singleton _ _, ?_⟩
    · intro y z hy _ hyz
      rw [hinsert y hy]
      exact List.mem_insert_of_mem hyz
    · intro y hy z hz
      rw [List.mem_singleton.1 hz, hinsert y hy]
      exact List.mem_insert_self
  · intro y b time expiry hstored hexpiry hy
    rw [hkeys, List.mem_append, List.mem_singleton, not_or] at hy
    obtain ⟨hout, hyx⟩ := hy
    rw [hlast y hyx] at hstored
    rw [hothers, if_neg (Ne.symm hyx)]
    by_cases hkept : y ∈ Entries.keys kept
    · have hkept' : y ∉ Entries.keys kept' := by
        intro hy
        rw [Entries.keys_erase] at hout
        exact hout (List.mem_filter.2 ⟨hy, by simpa using hyx⟩)
      exact .inl (hgone y hkept hkept')
    · rcases h.lost y b time expiry hstored hexpiry hkept with hmany | ⟨d, hd, hend⟩
      · exact .inl (Nat.le_trans hmany List.length_le_length_insert)
      · exact .inr ⟨d, List.mem_cons_of_mem _ hd, hend⟩

/-! ## Making room -/

/-- The entries that are left when room is made for a slot. -/
def room (capacity : Nat) (kept : List (Slot × CacheEntry)) (x : Slot) :
    List (Slot × CacheEntry) :=
  if x ∈ Entries.keys kept then kept else if capacity ≤ kept.length then kept.drop 1 else kept

theorem room_sublist (capacity : Nat) (kept : List (Slot × CacheEntry)) (x : Slot) :
    (room capacity kept x).Sublist kept := by
  unfold room
  split
  · exact List.Sublist.refl _
  · split
    · exact List.drop_sublist _ _
    · exact List.Sublist.refl _

theorem Holds.makeRoom_eq (h : Holds n r kept) (hx : x.language.IsPlain) :
    r.cache.makeRoom x.key = keyed (room n kept x) := by
  have hhas : Entries.has r.cache.entries x.key = true ↔ x ∈ Entries.keys kept := by
    rw [h.entries_eq, Entries.has, get?_keyed h.plain hx, Option.isSome_iff_ne_none, ne_eq,
      Entries.get?_eq_none_iff, not_not]
  have hfull : r.cache.isFull = true ↔ n ≤ kept.length := by
    simp [BundleCache.isFull, h.capacity_eq, h.entries_eq, keyed]
  simp only [BundleCache.makeRoom, hhas, hfull, room]
  rw [h.entries_eq]
  split
  · rfl
  · split
    · simp [keyed]
    · rfl

/-- There is room for one more entry. -/
theorem Holds.length_erase_room_lt (h : Holds n r kept) (hn : 1 ≤ n) (x : Slot) :
    (Entries.erase (room n kept x) x).length < n := by
  unfold room
  split
  · rename_i hx
    have hlength := Entries.length_erase_of_mem h.nodup hx
    have hle := h.length_le
    omega
  · have hle := h.length_le
    refine Nat.lt_of_le_of_lt (List.length_filter_le _ _) ?_
    split
    · rw [List.length_drop]
      omega
    · omega

/-- What gives way was used before all others in the cache. -/
theorem Holds.le_length_othersSince (h : Holds n r kept) {y : Slot} (hy : y ∈ Entries.keys kept)
    (hgone : y ∉ Entries.keys (room n kept x)) :
    y ≠ x ∧ n ≤ ((r.past.othersSince y).insert x).length := by
  unfold room at hgone
  split at hgone
  · exact absurd hy hgone
  · rename_i hx
    split at hgone
    · rename_i hfull
      cases kept with
      | nil => cases hy
      | cons p rest =>
        obtain rfl : y = p.1 := (List.mem_cons.1 hy).resolve_right hgone
        refine ⟨fun heq => hx (heq ▸ hy), ?_⟩
        have hnodup : (x :: Entries.keys rest).Nodup :=
          List.nodup_cons.2
            ⟨fun hmem => hx (List.mem_cons_of_mem _ hmem), (List.nodup_cons.1 h.nodup).2⟩
        have hsubset : x :: Entries.keys rest ⊆ (r.past.othersSince p.1).insert x := by
          intro z hz
          rcases List.mem_cons.1 hz with rfl | hz
          · exact List.mem_insert_self
          · exact List.mem_insert_of_mem ((List.pairwise_cons.1 h.later).1 z hz)
        have hlength := (hnodup.subperm hsubset).length_le
        simp only [Entries.keys, List.length_cons, List.length_map] at hlength hfull
        omega
    · exact absurd hy hgone

/-! ## Steps and runs -/

/-- What was read is kept behind all others, and what has come to its end is dropped. -/
theorem Holds.act_get (h : Holds n r kept) (now : Number) {l : Key} (hl : l.IsPlain)
    (s : Option Key) : ∃ kept', Holds n (r.act now (.get l s)) kept' := by
  generalize hx : Slot.of l s = x
  have hplain : x.language.IsPlain := hx ▸ hl
  have hkey : cacheKey l s = x.key := hx ▸ cacheKey_eq_key l s
  have hget : Entries.get? r.cache.entries x.key = Entries.get? kept x := by
    rw [h.entries_eq, get?_keyed h.plain hplain]
  have herase : Entries.erase r.cache.entries x.key = keyed (Entries.erase kept x) := by
    rw [h.entries_eq, erase_keyed h.plain hplain]
  have hdropped : ∀ y ∈ Entries.keys kept, y ∉ Entries.keys (Entries.erase kept x) → y = x := by
    intro y hy hgone
    rw [Entries.keys_erase] at hgone
    by_contra hne
    exact hgone (List.mem_filter.2 ⟨hy, by simpa using hne⟩)
  cases hfound : Entries.get? kept x with
  | none =>
    have hact : r.act now (.get l s) =
        ⟨{ r.cache with entries := keyed kept }, (now, .missed x) :: r.past⟩ := by
      simp only [RecordedCache.act, BundleCache.get, hkey, hget, hfound, hx, ← h.entries_eq]
      rfl
    rw [hact]
    exact ⟨kept, h.shrink (List.Sublist.refl _) _ (fun _ _ => rfl) (fun _ => .inl rfl)
      (fun _ => List.suffix_refl _) (fun y hy hgone => absurd hy hgone)⟩
  | some e =>
    have he := h.stored _ (Entries.mem_of_get? hfound)
    cases hfresh : e.isFresh now with
    | true =>
      have hact : r.act now (.get l s) =
          ⟨{ r.cache with
              entries := keyed (Entries.erase kept x ++ [(x, { e with lastUsed := now })]) },
            (now, .read x) :: r.past⟩ := by
        simp only [RecordedCache.act, BundleCache.get, hkey, hget, hfound, hx, hfresh,
          BundleCache.touch, herase]
        simp [keyed]
      rw [hact]
      have hroom : (Entries.erase kept x).length < n := by
        have hmem : x ∈ Entries.keys kept := List.mem_map_of_mem (Entries.mem_of_get? hfound)
        have hlength := Entries.length_erase_of_mem h.nodup hmem
        have hle := h.length_le
        omega
      exact ⟨_, h.use (List.Sublist.refl _) hplain hroom _ (fun _ => rfl) (fun _ _ => rfl) he
        (fun y hy hgone => absurd hy hgone)⟩
    | false =>
      have hend : Number.le e.expiresAt now = true := by simpa [CacheEntry.isFresh] using hfresh
      have hact : r.act now (.get l s) =
          ⟨{ r.cache with entries := keyed (Entries.erase kept x) },
            (now, .missed x) :: r.past⟩ := by
        simp only [RecordedCache.act, BundleCache.get, hkey, hget, hfound, hx, hfresh, herase]
        rfl
      rw [hact]
      refine ⟨_, h.shrink List.filter_sublist _ (fun _ _ => rfl) (fun _ => .inl rfl)
        (fun _ => List.suffix_refl _) ?_⟩
      intro y hy hgone b time expiry hstored hexpiry
      obtain rfl := hdropped y hy hgone
      rw [CachePast.lastStored?, he.1] at hstored
      cases hstored
      rw [he.2] at hexpiry
      cases hexpiry
      exact .inr hend

theorem Holds.act_set (h : Holds n r kept) (hn : 1 ≤ n) (now : Number) {l : Key} (hl : l.IsPlain)
    (s : Option Key) (b : Bundle) : ∃ kept', Holds n (r.act now (.set l s b)) kept' := by
  generalize hx : Slot.of l s = x
  have hplain : x.language.IsPlain := hx ▸ hl
  have hkey : cacheKey l s = x.key := hx ▸ cacheKey_eq_key l s
  have hroom := h.makeRoom_eq hplain
  have hsub := room_sublist n kept x
  cases hexpiry : now.add? r.cache.lifetime with
  | none =>
    have hact : r.act now (.set l s b) =
        ⟨{ r.cache with entries := keyed (room n kept x) }, (now, .refused x) :: r.past⟩ := by
      simp only [RecordedCache.act, BundleCache.set, hkey, hroom, hexpiry, hx]
      rfl
    rw [hact]
    have hothers : ∀ y, r.past.othersSince y <:+
        CachePast.othersSince y ((now, .refused x) :: r.past) := by
      intro y
      rw [CachePast.othersSince]
      split
      · exact List.suffix_refl _
      · exact List.suffix_insert _ _
    refine ⟨_, h.shrink hsub _ (fun _ _ => rfl) (fun _ => .inl rfl) hothers ?_⟩
    intro y hy hgone _ _ _ _ _
    obtain ⟨hne, hmany⟩ := h.le_length_othersSince hy hgone
    rw [CachePast.othersSince, if_neg hne.symm]
    exact .inl hmany
  | some expiry =>
    have herase : Entries.erase (keyed (room n kept x)) x.key =
        keyed (Entries.erase (room n kept x) x) :=
      erase_keyed (fun p hp => h.plain p (hsub.subset hp)) hplain
    have hact : r.act now (.set l s b) =
        ⟨{ r.cache with
            entries := keyed (Entries.erase (room n kept x) x ++ [(x, ⟨b, now, expiry, now⟩)]) },
          (now, .stored x b) :: r.past⟩ := by
      simp only [RecordedCache.act, BundleCache.set, hkey, hroom, hexpiry, hx, BundleCache.touch,
        herase]
      simp [keyed]
    rw [hact]
    refine ⟨_, h.use hsub hplain (h.length_erase_room_lt hn x) _ (fun _ => rfl) ?_ ?_ ?_⟩
    · intro y hy
      rw [CachePast.lastStored?, if_neg hy.symm]
    · exact ⟨by rw [CachePast.lastStored?, if_pos rfl], hexpiry⟩
    · intro y hy hgone
      exact (h.le_length_othersSince hy hgone).2

theorem Holds.act_clear (h : Holds n r kept) (now : Number) :
    Holds n (r.act now .clear) [] :=
  h.shrink (List.nil_sublist _) (now, .cleared) (fun _ hy => nomatch hy) (fun _ => .inr rfl)
    (fun _ => List.suffix_refl _) (fun _ _ _ _ _ _ hstored => nomatch hstored)

theorem Holds.act_clearLanguage (h : Holds n r kept) (now : Number) {l : Key} (hl : l.IsPlain) :
    ∃ kept', Holds n (r.act now (.clearLanguage l)) kept' := by
  have hact : r.act now (.clearLanguage l) =
      ⟨{ r.cache with entries := keyed (kept.filter fun p => p.1.language ≠ l) },
        (now, .clearedLanguage l) :: r.past⟩ := by
    simp only [RecordedCache.act, BundleCache.clearLanguage, h.entries_eq,
      filter_keyed h.plain hl]
  rw [hact]
  refine ⟨_, h.shrink List.filter_sublist _ ?_ ?_ (fun _ => List.suffix_refl _) ?_⟩
  · intro y hy
    obtain ⟨p, hp, rfl⟩ := List.mem_map.1 hy
    have hne : p.1.language ≠ l := by simpa using (List.mem_filter.1 hp).2
    rw [CachePast.lastStored?, if_neg hne.symm]
  · intro y
    rw [CachePast.lastStored?]
    split
    · exact .inr rfl
    · exact .inl rfl
  · intro y hy hgone b time expiry hstored
    rw [CachePast.lastStored?] at hstored
    split at hstored
    · cases hstored
    · rename_i hne
      obtain ⟨p, hp, rfl⟩ := List.mem_map.1 hy
      have hkept : p ∈ kept.filter fun p => p.1.language ≠ l :=
        List.mem_filter.2 ⟨hp, by simpa using Ne.symm hne⟩
      exact absurd (List.mem_map_of_mem hkept) hgone

/-- Each call leaves a cache that has kept what it has to keep. -/
theorem Holds.act (h : Holds n r kept) (hn : 1 ≤ n) (now : Number) (call : CacheCall)
    (hplain : ∀ l ∈ call.language?, l.IsPlain) : ∃ kept', Holds n (r.act now call) kept' := by
  cases call with
  | get l s => exact h.act_get now (hplain l rfl) s
  | set l s b => exact h.act_set hn now (hplain l rfl) s b
  | clear => exact ⟨[], h.act_clear now⟩
  | clearLanguage l => exact h.act_clearLanguage now (hplain l rfl)

theorem Holds.run (h : Holds n r kept) (hn : 1 ≤ n) (calls : List (Number × CacheCall))
    (hplain : ∀ c ∈ calls, ∀ l ∈ c.2.language?, l.IsPlain) :
    ∃ kept', Holds n (r.run calls) kept' := by
  induction calls generalizing r kept with
  | nil => exact ⟨kept, h⟩
  | cons c rest ih =>
    obtain ⟨kept', h'⟩ := h.act hn c.1 c.2 (hplain c List.mem_cons_self)
    exact ih h' fun d hd => hplain d (List.mem_cons_of_mem _ hd)

theorem past_act (r : RecordedCache) (now : Number) (call : CacheCall) :
    ∃ e, (r.act now call).past = (now, e) :: r.past := by
  cases call <;> exact ⟨_, rfl⟩

theorem lifetime_act (r : RecordedCache) (now : Number) (call : CacheCall) :
    (r.act now call).cache.lifetime = r.cache.lifetime := by
  cases call with
  | get l s =>
    simp only [RecordedCache.act, BundleCache.get]
    split
    · rfl
    · split <;> rfl
  | set l s b =>
    simp only [RecordedCache.act, BundleCache.set]
    split <;> rfl
  | clear => rfl
  | clearLanguage l => rfl

theorem lifetime_run (r : RecordedCache) (calls : List (Number × CacheCall)) :
    (r.run calls).cache.lifetime = r.cache.lifetime := by
  induction calls generalizing r with
  | nil => rfl
  | cons c rest ih => exact (ih (r.act c.1 c.2)).trans (lifetime_act r c.1 c.2)

theorem exists_of_mem_past_run {calls : List (Number × CacheCall)} {e : Number × CacheEvent}
    (h : e ∈ (r.run calls).past) : e ∈ r.past ∨ ∃ c ∈ calls, c.1 = e.1 := by
  induction calls generalizing r with
  | nil => exact .inl h
  | cons c rest ih =>
    rcases ih h with hpast | ⟨d, hd, heq⟩
    · obtain ⟨f, hf⟩ := past_act r c.1 c.2
      rw [hf] at hpast
      rcases List.mem_cons.1 hpast with rfl | hold
      · exact .inr ⟨c, List.mem_cons_self, rfl⟩
      · exact .inl hold
    · exact .inr ⟨d, List.mem_cons_of_mem _ hd, heq⟩

/-! ## Reading -/

theorem Holds.get_snd (h : Holds n r kept) (now : Number) {l : Key} (hl : l.IsPlain)
    (s : Option Key) : (r.cache.get now l s).2 =
      ((Entries.get? kept (.of l s)).filter (·.isFresh now)).map CacheEntry.bundle := by
  have hget : Entries.get? r.cache.entries (cacheKey l s) = Entries.get? kept (.of l s) := by
    rw [h.entries_eq, cacheKey_eq_key, get?_keyed h.plain hl]
  simp only [BundleCache.get, hget]
  cases Entries.get? kept (.of l s) with
  | none => rfl
  | some e => cases hfresh : e.isFresh now <;> simp [Option.filter, hfresh]

/-- After any calls a cache gives back nothing but the bundle that was stored last for the same
language and namespace, when that was not cleared since and its time has not come; and it does give
it back unless as many others were used since as there is room for. A clock that does not run back
was never ahead of what it shows now, which is all that is asked of it. -/
theorem get_run {lifetime : Duration} (hlifetime : lifetime.IsProper) {capacity : Nat}
    (hcapacity : 1 ≤ capacity) (calls : List (Number × CacheCall))
    (hplain : ∀ c ∈ calls, ∀ l ∈ c.2.language?, l.IsPlain) {now : Number}
    (hclock : ∀ c ∈ calls, Number.le c.1 now = true) {language : Key} (hl : language.IsPlain)
    (space : Option Key) :
    let r := (create lifetime capacity).run calls
    (∀ b, (r.cache.get now language space).2 = some b → ∃ time expiry,
      r.past.lastStored? (.of language space) = some (b, time) ∧
        time.add? (.float lifetime.seconds) = some expiry ∧ Number.lt now expiry = true) ∧
    ∀ b time expiry, r.past.lastStored? (.of language space) = some (b, time) →
      time.add? (.float lifetime.seconds) = some expiry → Number.lt now expiry = true →
        (r.past.othersSince (.of language space)).length < capacity →
          (r.cache.get now language space).2 = some b := by
  intro r
  obtain ⟨kept, h⟩ := (Holds.create lifetime capacity).run hcapacity calls hplain
  have hpast : ∀ e ∈ r.past, Number.le e.1 now = true := by
    intro e he
    rcases exists_of_mem_past_run he with hnone | ⟨c, hc, heq⟩
    · cases hnone
    · exact heq ▸ hclock c hc
  have hadd : r.cache.lifetime = .float lifetime.seconds :=
    lifetime_run (create lifetime capacity) calls
  -- What was stored at a reading of the clock is fresh when its end is later than now.
  have hfresh : ∀ b time expiry, r.past.lastStored? (.of language space) = some (b, time) →
      time.add? (.float lifetime.seconds) = some expiry →
        Number.lt now expiry = !Number.le expiry now := by
    intro b time expiry hstored hexpiry
    obtain ⟨e, he, rfl⟩ := CachePast.exists_of_lastStored? hstored
    have hle := hpast e he
    exact Number.lt_eq_not_le (.of_le_right hle)
      ((Number.IsPlaced.of_le_left hle).add_seconds hlifetime hexpiry)
  rw [h.get_snd now hl space]
  constructor
  · intro b hb
    obtain ⟨e, he, rfl⟩ := Option.map_eq_some_iff.1 hb
    obtain ⟨hfound, hend⟩ := Option.filter_eq_some_iff.1 he
    obtain ⟨hstored, hexpiry⟩ := h.stored _ (Entries.mem_of_get? hfound)
    rw [hadd] at hexpiry
    exact ⟨_, _, hstored, hexpiry, (hfresh _ _ _ hstored hexpiry).trans hend⟩
  · intro b time expiry hstored hexpiry hend hfew
    have hnot : Number.le expiry now = false := by
      rw [hfresh _ _ _ hstored hexpiry] at hend
      simpa using hend
    have hkept : Slot.of language space ∈ Entries.keys kept := by
      by_contra hgone
      rcases h.lost _ _ _ _ hstored (hadd ▸ hexpiry) hgone with hmany | ⟨e, he, hle⟩
      · exact absurd hmany (Nat.not_le.2 hfew)
      · rw [Number.le_trans hle (hpast e he)] at hnot
        cases hnot
    cases hfound : Entries.get? kept (.of language space) with
    | none => exact absurd hkept (Entries.get?_eq_none_iff.1 hfound)
    | some e =>
      obtain ⟨hsame, hsum⟩ := h.stored _ (Entries.mem_of_get? hfound)
      rw [hstored] at hsame
      cases hsame
      rw [hadd, hexpiry] at hsum
      cases hsum
      simp [CacheEntry.isFresh, hnot]

def titleBundle (title : String) : Bundle := [(.text "title", .text title)]

/-- Three bundles for a cache with room for two; the first is read before the third is stored. -/
def titleCalls : List (Number × CacheCall) :=
  [(.int 0, .set (.text "en") none (titleBundle "Shop")),
    (.int 1, .set (.text "de") (some (.text "shop")) (titleBundle "Laden")),
    (.int 2, .get (.text "en") (some (.text ""))),
    (.int 3, .set (.text "fr") none (titleBundle "Magasin"))]

set_option maxRecDepth 4000 in
theorem get_run_titleCalls :
    BundleCache.defaultLifetime.IsProper ∧ (∀ c ∈ titleCalls, ∀ l ∈ c.2.language?, l.IsPlain) ∧
      (∀ c ∈ titleCalls, Number.le c.1 (.int 4) = true) ∧ (Key.text "en").IsPlain ∧
        (((create BundleCache.defaultLifetime 2).run titleCalls).cache.get
          (.int 4) (.text "en") none).2 = some (titleBundle "Shop") := by
  have hlifetime : BundleCache.defaultLifetime.IsProper := rfl
  have hplain : ∀ c ∈ titleCalls, ∀ l ∈ c.2.language?, l.IsPlain := by
    simp [titleCalls, CacheCall.language?, Key.isPlain_text_iff]
  have hclock : ∀ c ∈ titleCalls, Number.le c.1 (.int 4) = true := by decide
  have hl : (Key.text "en").IsPlain := Key.isPlain_text_iff.2 (by decide)
  have hcapacity : 1 ≤ 2 := by decide
  let expiry := Number.float ((Binary64.ofRatio false 0 1).add BundleCache.defaultLifetime.seconds)
  have hread := (get_run hlifetime hcapacity titleCalls hplain hclock hl none).2
    (titleBundle "Shop") (.int 0) expiry
  have hfew : (CachePast.othersSince (.of (.text "en") none)
    ((create BundleCache.defaultLifetime 2).run titleCalls).past).length < 2 := by decide +kernel
  exact ⟨hlifetime, hplain, hclock, hl, hread (by rfl) (by rfl) (by decide +kernel) hfew⟩

end RecordedCache
end Polyglot
