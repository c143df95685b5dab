import Polyglot.Value.Basic

/-!
# Ordered mappings

What a mapping holds after entries were stored, merged and taken out, seen through its entries
and through looking up a key.
-/
namespace Polyglot.Entries

variable {κ α : Type} [DecidableEq κ]

/-! ## Entries -/

theorem mem_of_get? {entries : List (κ × α)} {key : κ} {v : α}
    (h : get? entries key = some v) : (key, v) ∈ entries := by
  induction entries with
  | nil => cases h
  | cons e r ih =>
    obtain ⟨k, w⟩ := e
    rw [get?] at h
    split at h
    · rename_i hk
      cases h
      exact hk ▸ List.mem_cons_self
    · exact List.mem_cons_of_mem _ (ih h)

theorem mem_put {entries : List (κ × α)} {key : κ} {v : α} {e : κ × α}
    (h : e ∈ put entries key v) : e = (key, v) ∨ e ∈ entries := by
  induction entries with
  | nil => exact .inl (List.mem_singleton.1 h)
  | cons d r ih =>
    obtain ⟨k, w⟩ := d
    rw [put] at h
    split at h
    · rename_i hk
      rcases List.mem_cons.1 h with rfl | hr
      · exact .inl (by rw [hk])
      · exact .inr (List.mem_cons_of_mem _ hr)
    · rcases List.mem_cons.1 h with rfl | hr
      · exact .inr List.mem_cons_self
      · rcases ih hr with he | hr
        · exact .inl he
        · exact .inr (List.mem_cons_of_mem _ hr)

theorem mem_update {entries more : List (κ × α)} {e : κ × α} (h : e ∈ update entries more) :
    e ∈ entries ∨ e ∈ more := by
  induction more generalizing entries with
  | nil => exact .inl h
  | cons d r ih =>
    have hrest : e ∈ update (put entries d.1 d.2) r := h
    rcases ih hrest with hput | hr
    · rcases mem_put hput with rfl | he
      · exact .inr List.mem_cons_self
      · exact .inl he
    · exact .inr (List.mem_cons_of_mem _ hr)

theorem mem_of_mem_ofList {pairs : List (κ × α)} {e : κ × α} (h : e ∈ ofList pairs) :
    e ∈ pairs := by
  rcases mem_update h with h | h
  · cases h
  · exact h

theorem get?_eq_none_iff {entries : List (κ × α)} {key : κ} :
    get? entries key = none ↔ key ∉ keys entries := by
  induction entries with
  | nil => simp [get?, keys]
  | cons e r ih =>
    obtain ⟨k, w⟩ := e
    by_cases hk : k = key
    · simp [get?, keys, hk]
    · simp only [get?, if_neg hk, ih]
      simp [keys, Ne.symm hk]

theorem keys_erase (entries : List (κ × α)) (key : κ) :
    keys (erase entries key) = (keys entries).filter (· ≠ key) := by
  rw [keys, erase, keys, List.filter_map]
  rfl

@[simp] theorem get?_erase_self (entries : List (κ × α)) (key : κ) :
    get? (erase entries key) key = none := by
  rw [get?_eq_none_iff, keys_erase]
  simp

theorem get?_filter_of_forall {entries : List (κ × α)} {key : κ} {keep : κ × α → Bool}
    (h : ∀ v, keep (key, v) = true) : get? (entries.filter keep) key = get? entries key := by
  induction entries with
  | nil => rfl
  | cons e r ih =>
    obtain ⟨k, w⟩ := e
    by_cases hk : k = key
    · subst hk
      rw [List.filter_cons_of_pos (h w)]
      simp [get?]
    · cases hkeep : keep (k, w) with
      | true =>
        rw [List.filter_cons_of_pos hkeep]
        simp [get?, hk, ih]
      | false =>
        rw [List.filter_cons_of_neg (by simp [hkeep])]
        simp [get?, hk, ih]

theorem get?_erase_ne (entries : List (κ × α)) {key other : κ} (h : other ≠ key) :
    get? (erase entries key) other = get? entries other :=
  get?_filter_of_forall fun _ => by simpa using h

theorem get?_append_of_some {entries : List (κ × α)} {key : κ} {v : α}
    (h : get? entries key = some v) (more : List (κ × α)) :
    get? (entries ++ more) key = some v := by
  induction entries with
  | nil => cases h
  | cons e r ih =>
    obtain ⟨k, w⟩ := e
    rw [get?] at h
    rw [List.cons_append, get?]
    split at h
    · rename_i hk
      rw [if_pos hk, h]
    · rename_i hk
      rw [if_neg hk, ih h]

theorem get?_append_of_not_mem {entries : List (κ × α)} {key : κ} (h : key ∉ keys entries)
    (more : List (κ × α)) : get? (entries ++ more) key = get? more key := by
  induction entries with
  | nil => rfl
  | cons e r ih =>
    obtain ⟨k, w⟩ := e
    have hk : k ≠ key := fun heq => h (heq ▸ List.mem_cons_self)
    rw [List.cons_append, get?, if_neg hk]
    exact ih fun hr => h (List.mem_cons_of_mem _ hr)

/-- The entries in front come before those behind them. -/
theorem get?_append (entries more : List (κ × α)) (key : κ) :
    get? (entries ++ more) key = (get? entries key).or (get? more key) := by
  cases hfound : get? entries key with
  | some v => rw [get?_append_of_some hfound, Option.some_or]
  | none => rw [get?_append_of_not_mem (get?_eq_none_iff.1 hfound), Option.none_or]

/-- Of renamed entries that one is found whose key alone has the new name. -/
theorem get?_map {β γ : Type} [DecidableEq β] {f : κ → β} {entries : List (κ × α)} {key : κ}
    {name : β} (g : α → γ) (h : ∀ k ∈ keys entries, f k = name ↔ k = key) :
    get? (entries.map fun e => (f e.1, g e.2)) name = (get? entries key).map g := by
  induction entries with
  | nil => rfl
  | cons e r ih =>
    obtain ⟨k, v⟩ := e
    have hk : f k = name ↔ k = key := h k List.mem_cons_self
    rw [List.map_cons, get?, get?]
    by_cases heq : k = key
    · rw [if_pos heq, if_pos (hk.2 heq), Option.map_some]
    · rw [if_neg heq, if_neg (mt hk.1 heq)]
      exact ih fun j hj => h j (List.mem_cons_of_mem _ hj)

theorem map_put_of_get? {β : Type} {f : κ × α → β} {entries : List (κ × α)} {key : κ} {v w : α}
    (h : get? entries key = some v) (hf : f (key, w) = f (key, v)) :
    (put entries key w).map f = entries.map f := by
  induction entries with
  | nil => cases h
  | cons e r ih =>
    obtain ⟨k, u⟩ := e
    rw [get?] at h
    rw [put]
    split at h
    · rename_i hk
      cases h
      subst hk
      rw [if_pos rfl, List.map_cons, List.map_cons, hf]
    · rename_i hk
      rw [if_neg hk, List.map_cons, List.map_cons, ih h]

/-! ## Keys -/

omit [DecidableEq κ] in
theorem nodup_keys_cons {e : κ × α} {r : List (κ × α)} :
    (keys (e :: r)).Nodup ↔ (∀ d ∈ r, d.1 ≠ e.1) ∧ (keys r).Nodup := by
  simp only [keys, List.map_cons, List.nodup_cons, List.mem_map, not_exists, not_and, ne_eq]

theorem get?_of_mem {entries : List (κ × α)} (h : (keys entries).Nodup) {e : κ × α}
    (he : e ∈ entries) : get? entries e.1 = some e.2 := by
  induction entries with
  | nil => cases he
  | cons d r ih =>
    obtain ⟨hd, hr⟩ := nodup_keys_cons.1 h
    rcases List.mem_cons.1 he with rfl | he
    · rw [get?, if_pos rfl]
    · rw [get?, if_neg (hd e he).symm, ih hr he]

theorem length_erase_of_mem {entries : List (κ × α)} (h : (keys entries).Nodup) {key : κ}
    (hkey : key ∈ keys entries) : (erase entries key).length + 1 = entries.length := by
  have hkeys : keys (erase entries key) = (keys entries).erase key := by
    rw [keys_erase, h.erase_eq_filter]
    refine List.filter_congr fun k _ => ?_
    rw [Bool.eq_iff_iff]
    simp
  have hlength := congrArg List.length hkeys
  have hpos := List.length_pos_of_mem hkey
  rw [List.length_erase_of_mem hkey] at hlength
  simp only [keys, List.length_map] at hlength hpos
  omega

omit [DecidableEq κ] in
theorem keys_perm {entries others : List (κ × α)} (h : entries.Perm others) :
    (keys entries).Perm (keys others) :=
  h.map _

/-- Entries with different keys are found in any order. -/
theorem get?_perm {entries others : List (κ × α)} (hperm : entries.Perm others)
    (h : (keys entries).Nodup) (key : κ) : get? entries key = get? others key := by
  cases hfound : get? others key with
  | none =>
    exact get?_eq_none_iff.2 fun hmem =>
      get?_eq_none_iff.1 hfound ((keys_perm hperm).subset hmem)
  | some v => exact get?_of_mem h (hperm.symm.subset (mem_of_get? hfound))

theorem nodup_keys_put {entries : List (κ × α)} (h : (keys entries).Nodup) (key : κ) (v : α) :
    (keys (put entries key v)).Nodup := by
  induction entries with
  | nil => simp [put, keys]
  | cons e r ih =>
    obtain ⟨k, w⟩ := e
    obtain ⟨hk, hr⟩ := nodup_keys_cons.1 h
    rw [put]
    split
    · exact h
    · rename_i hne
      refine nodup_keys_cons.2 ⟨?_, ih hr⟩
      intro d hd heq
      rcases mem_put hd with rfl | hold
      · exact hne heq.symm
      · exact hk d hold heq

theorem nodup_keys_update {entries : List (κ × α)} (h : (keys entries).Nodup)
    (more : List (κ × α)) : (keys (update entries more)).Nodup := by
  induction more generalizing entries with
  | nil => exact h
  | cons e r ih => exact ih (nodup_keys_put h e.1 e.2)

theorem nodup_keys_ofList (pairs : List (κ × α)) : (keys (ofList pairs)).Nodup := by
  have hnil : (keys ([] : List (κ × α))).Nodup := List.nodup_nil
  exact nodup_keys_update hnil pairs

/-! ## Merging -/

theorem get?_update_of_forall_ne {more : List (κ × α)} {key : κ} (h : ∀ e ∈ more, key ≠ e.1)
    (entries : List (κ × α)) : get? (update entries more) key = get? entries key := by
  induction more generalizing entries with
  | nil => rfl
  | cons e r ih =>
    have hr := ih (fun d hd => h d (List.mem_cons_of_mem _ hd)) (put entries e.1 e.2)
    exact hr.trans (get?_put_ne entries e.2 (h e List.mem_cons_self))

/-- Merged entries can be looked up. -/
theorem get?_update_of_mem {more : List (κ × α)} (h : (keys more).Nodup) {e : κ × α}
    (he : e ∈ more) (entries : List (κ × α)) : get? (update entries more) e.1 = some e.2 := by
  induction more generalizing entries with
  | nil => cases he
  | cons d r ih =>
    obtain ⟨hd, hr⟩ := nodup_keys_cons.1 h
    rcases List.mem_cons.1 he with rfl | her
    · have hne : ∀ f ∈ r, e.1 ≠ f.1 := fun f hf => (hd f hf).symm
      exact (get?_update_of_forall_ne hne _).trans (get?_put_self entries e.1 e.2)
    · exact ih hr her (put entries d.1 d.2)

theorem update_append (entries more further : List (κ × α)) :
    update entries (more ++ further) = update (update entries more) further :=
  List.foldl_append

/-- Of what is merged into a mapping the last value counts, and then what the mapping held. -/
theorem get?_update_eq_or (entries more : List (κ × α)) (key : κ) :
    get? (update entries more) key = (get? more.reverse key).or (get? entries key) := by
  induction more generalizing entries with
  | nil => rfl
  | cons e r ih =>
    have hput : get? (put entries e.1 e.2) key = (get? [e] key).or (get? entries key) := by
      by_cases h : key = e.1
      · rw [h, get?_put_self]
        simp [get?]
      · rw [get?_put_ne entries e.2 h]
        simp [get?, Ne.symm h]
    rw [update, List.foldl_cons, ← update, ih, hput, List.reverse_cons, get?_append,
      Option.or_assoc]

/-- What is merged into a mapping comes before what it held. -/
theorem get?_update {more : List (κ × α)} (h : (keys more).Nodup) (entries : List (κ × α))
    (key : κ) : get? (update entries more) key = (get? more key).or (get? entries key) := by
  have hnodup : (keys more.reverse).Nodup := (keys_perm more.reverse_perm).nodup_iff.2 h
  rw [get?_update_eq_or, get?_perm more.reverse_perm hnodup]

/-- A key can be looked up by what is made of it, if that tells it from the keys that are there. -/
theorem get?_ofList_map {β : Type} [DecidableEq β] {f : κ → β} {entries : List (κ × α)}
    (hnodup : ((keys entries).map f).Nodup) {key : κ}
    (hkey : ∀ k ∈ keys entries, f k = f key → k = key) :
    get? (ofList (entries.map fun e => (f e.1, e.2))) (f key) = get? entries key := by
  have hmap : keys (entries.map fun e => (f e.1, e.2)) = (keys entries).map f := by
    simp [keys, List.map_map, Function.comp_def]
  cases hget : get? entries key with
  | some v =>
    have hmem := List.mem_map_of_mem (f := fun e : κ × α => (f e.1, e.2)) (mem_of_get? hget)
    exact get?_update_of_mem (hmap ▸ hnodup) hmem []
  | none =>
    have hne : ∀ d ∈ entries.map fun e => (f e.1, e.2), f key ≠ d.1 := by
      intro d hd heq
      obtain ⟨e, he, rfl⟩ := List.mem_map.1 hd
      have hmem : e.1 ∈ keys entries := List.mem_map_of_mem he
      exact get?_eq_none_iff.1 hget (hkey e.1 hmem heq.symm ▸ hmem)
    exact get?_update_of_forall_ne hne []

theorem put_of_get? {entries : List (κ × α)} {key : κ} {v : α} (h : get? entries key = some v) :
    put entries key v = entries := by
  induction entries with
  | nil => cases h
  | cons e r ih =>
    obtain ⟨k, w⟩ := e
    rw [get?] at h
    rw [put]
    split at h
    · rename_i hk
      cases h
      rw [if_pos hk]
    · rename_i hk
      rw [if_neg hk, ih h]

/-- A new key goes behind all others. -/
theorem put_of_get?_eq_none {entries : List (κ × α)} {key : κ} (h : get? entries key = none)
    (v : α) : put entries key v = entries ++ [(key, v)] := by
  induction entries with
  | nil => rfl
  | cons e r ih =>
    obtain ⟨k, w⟩ := e
    rw [get?] at h
    rw [put]
    split at h
    · cases h
    · rename_i hk
      rw [if_neg hk, ih h, List.cons_append]

/-- New keys go behind those that are there, in their order. -/
theorem update_eq_append {entries more : List (κ × α)} (h : (keys (entries ++ more)).Nodup) :
    update entries more = entries ++ more := by
  induction more generalizing entries with
  | nil => exact (List.append_nil entries).symm
  | cons e r ih =>
    have hassoc : entries ++ e :: r = entries ++ [e] ++ r := by simp
    have hnew : get? entries e.1 = none := by
      rw [keys, List.map_append, List.nodup_append] at h
      exact get?_eq_none_iff.2 fun hmem => h.2.2 _ hmem _ List.mem_cons_self rfl
    rw [hassoc] at h ⊢
    rw [update, List.foldl_cons, put_of_get?_eq_none hnew]
    exact ih h

/-- A mapping is the mapping of its entries. -/
theorem ofList_eq_self {entries : List (κ × α)} (h : (keys entries).Nodup) :
    ofList entries = entries :=
  update_eq_append h

/-- Merging what is there already changes nothing, not even the order. -/
theorem update_of_forall_get? {entries more : List (κ × α)}
    (h : ∀ e ∈ more, get? entries e.1 = some e.2) : update entries more = entries := by
  induction more with
  | nil => rfl
  | cons e r ih =>
    have he : put entries e.1 e.2 = entries := put_of_get? (h e List.mem_cons_self)
    have hr := ih fun d hd => h d (List.mem_cons_of_mem _ hd)
    rw [update, List.foldl_cons, he]
    exact hr

end Polyglot.Entries
