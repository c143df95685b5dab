import Polyglot.Client.Loads
import Polyglot.Proofs.Client.Loading
import Mathlib.Data.List.Nodup

/-!
# Loads that share a task

However callers and tasks take their steps, a key has one unfinished task at most, and that is the
task which is noted as pending for it. A caller that is not cancelled gets the result of the task
that it has joined, and neither tasks nor the cache depend on which callers are cancelled.
-/
namespace Polyglot

/-! ## Tasks and keys -/

def Fetch.key (f : Fetch) : Key := cacheKey f.language f.space

namespace Loader

variable {l : Loader} {supply : Supply} {language : Key} {space : Option Key} {now : Number}
  {n : Nat} {f g : Fetch}

/-- The numbers of the unfinished tasks and the keys that they are for. -/
def taskKeys (l : Loader) : List (Nat × Key) := l.tasks.map fun t => (t.1, t.2.key)

/-- Whether each key has one unfinished task at most, which is noted as pending. -/
structure IsShared (l : Loader) : Prop where
  distinct : (l.taskKeys.map Prod.snd).Nodup
  numbered : (l.taskKeys.map Prod.fst).Nodup
  below : ∀ t ∈ l.taskKeys, t.1 < l.nextTask
  pending : ∀ key n, Entries.get? l.pending key = some n ↔ (n, key) ∈ l.taskKeys

theorem fetch?_eq_get? (l : Loader) (n : Nat) : l.fetch? n = Entries.get? l.tasks n := by
  rw [fetch?]
  induction l.tasks with
  | nil => rfl
  | cons t r ih =>
    obtain ⟨m, f⟩ := t
    by_cases hm : m = n
    · simp [Entries.get?, hm]
    · simp [Entries.get?, hm, ih]

theorem mem_taskKeys_of_fetch? (h : l.fetch? n = some f) : (n, f.key) ∈ l.taskKeys := by
  rw [fetch?_eq_get?] at h
  exact List.mem_map.2 ⟨(n, f), Entries.mem_of_get? h, rfl⟩

theorem exists_fetch?_of_mem {key : Key} (h : (n, key) ∈ l.taskKeys) :
    ∃ f, l.fetch? n = some f := by
  obtain ⟨t, ht, heq⟩ := List.mem_map.1 h
  cases heq
  rw [fetch?_eq_get?]
  refine Option.ne_none_iff_exists'.1 fun hnone => ?_
  exact Entries.get?_eq_none_iff.1 hnone (List.mem_map_of_mem ht)

/-- An unfinished task has one key. -/
theorem IsShared.key_eq (h : l.IsShared) {key : Key} (hf : l.fetch? n = some f)
    (hkey : (n, key) ∈ l.taskKeys) : f.key = key :=
  congrArg Prod.snd (List.inj_on_of_nodup_map h.numbered (mem_taskKeys_of_fetch? hf) hkey rfl)

theorem isShared_create (cache : BundleCache) (languages : List Value) :
    (create cache languages).IsShared where
  distinct := List.nodup_nil
  numbered := List.nodup_nil
  below := fun _ ht => nomatch ht
  pending := by simp [create, taskKeys, Entries.get?]

theorem IsShared.withCache (h : l.IsShared) (cache : BundleCache) :
    { l with cache := cache }.IsShared := ⟨h.distinct, h.numbered, h.below, h.pending⟩

/-! ## Requests -/

/-- A request is answered at once, or it joins the task of its key. -/
theorem request_cases (l : Loader) (supply : Supply) (now : Number) (language : Key)
    (space : Option Key) :
    (∃ cache b, l.request supply now language space = ({ l with cache := cache }, .ready b)) ∨
      ∃ cache, l.request supply now language space =
        ((join { l with cache := cache } supply language space).1,
          .waits (join { l with cache := cache } supply language space).2.1
            (join { l with cache := cache } supply language space).2.2) := by
  unfold request
  simp only
  split
  · exact .inl ⟨_, _, rfl⟩
  · split
    · exact .inl ⟨_, _, rfl⟩
    · exact .inr ⟨_, rfl⟩

/-- A task is joined when one is pending for the key, and else a new one is. -/
theorem IsShared.join_cases (h : l.IsShared) (supply : Supply) (language : Key)
    (space : Option Key) :
    (∃ n f, l.fetch? n = some f ∧ Entries.get? l.pending (cacheKey language space) = some n ∧
      l.join supply language space = (l, n, f)) ∨
    Entries.get? l.pending (cacheKey language space) = none ∧
      l.join supply language space =
        ({ l with
            pending := Entries.put l.pending (cacheKey language space) l.nextTask
            tasks := l.tasks ++
              [(l.nextTask, Fetch.start supply.retry supply.sources language space)]
            nextTask := l.nextTask + 1 },
          l.nextTask, Fetch.start supply.retry supply.sources language space) := by
  cases hpending : Entries.get? l.pending (cacheKey language space) with
  | none => exact .inr ⟨rfl, by simp [join, pendingFetch?, hpending]⟩
  | some n =>
    obtain ⟨f, hf⟩ := exists_fetch?_of_mem ((h.pending _ n).1 hpending)
    exact .inl ⟨n, f, hf, rfl, by simp [join, pendingFetch?, hpending, hf]⟩

/-- A new task is the only one of its key. -/
theorem IsShared.start (h : l.IsShared) (hpending : Entries.get? l.pending f.key = none) :
    { l with
      pending := Entries.put l.pending f.key l.nextTask
      tasks := l.tasks ++ [(l.nextTask, f)]
      nextTask := l.nextTask + 1 : Loader }.IsShared := by
  have hkeys : taskKeys { l with
      pending := Entries.put l.pending f.key l.nextTask
      tasks := l.tasks ++ [(l.nextTask, f)]
      nextTask := l.nextTask + 1 } = l.taskKeys ++ [(l.nextTask, f.key)] := by
    simp [taskKeys]
  have hkey : ∀ t ∈ l.taskKeys, t.2 ≠ f.key := by
    rintro ⟨m, key⟩ ht rfl
    rw [(h.pending _ m).2 ht] at hpending
    cases hpending
  have hnumber : ∀ t ∈ l.taskKeys, t.1 ≠ l.nextTask := fun t ht => Nat.ne_of_lt (h.below t ht)
  constructor
  · rw [hkeys, List.map_append, List.nodup_append]
    refine ⟨h.distinct, List.nodup_singleton _, ?_⟩
    intro x hx y hy
    obtain ⟨t, ht, rfl⟩ := List.mem_map.1 hx
    obtain rfl : y = f.key := by simpa using hy
    exact hkey t ht
  · rw [hkeys, List.map_append, List.nodup_append]
    refine ⟨h.numbered, List.nodup_singleton _, ?_⟩
    intro x hx y hy
    obtain ⟨t, ht, rfl⟩ := List.mem_map.1 hx
    obtain rfl : y = l.nextTask := by simpa using hy
    exact hnumber t ht
  · intro t ht
    rw [hkeys, List.mem_append, List.mem_singleton] at ht
    rcases ht with ht | rfl
    · exact Nat.lt_succ_of_lt (h.below t ht)
    · exact Nat.lt_succ_self _
  · intro key m
    rw [hkeys, List.mem_append, List.mem_singleton]
    by_cases heq : key = f.key
    · subst heq
      rw [Entries.get?_put_self]
      have hnot : (m, f.key) ∉ l.taskKeys := fun hm => hkey _ hm rfl
      simp [hnot, eq_comm]
    · rw [Entries.get?_put_ne _ _ heq, h.pending]
      simp [heq]

theorem IsShared.join (h : l.IsShared) (supply : Supply) (language : Key) (space : Option Key) :
    (l.join supply language space).1.IsShared := by
  rcases h.join_cases supply language space with ⟨n, f, -, -, heq⟩ | ⟨hpending, heq⟩
  · rw [heq]
    exact h
  · rw [heq]
    exact h.start (f := Fetch.start supply.retry supply.sources language space) hpending

theorem IsShared.request (h : l.IsShared) (supply : Supply) (now : Number) (language : Key)
    (space : Option Key) : (l.request supply now language space).1.IsShared := by
  rcases request_cases l supply now language space with ⟨cache, b, heq⟩ | ⟨cache, heq⟩
  · rw [heq]
    exact h.withCache cache
  · rw [heq]
    exact (h.withCache cache).join supply language space

/-- A request leaves unfinished tasks alone, and what is waited for is the unfinished task of the
key. -/
theorem IsShared.fetch?_request (h : l.IsShared) (supply : Supply) (now : Number) (language : Key)
    (space : Option Key) :
    (∀ n f, l.fetch? n = some f →
      (l.request supply now language space).1.fetch? n = some f) ∧
    ∀ n f, (l.request supply now language space).2 = .waits n f →
      (n, cacheKey language space) ∈ (l.request supply now language space).1.taskKeys := by
  rcases request_cases l supply now language space with ⟨cache, b, heq⟩ | ⟨cache, heq⟩
  · rw [heq]
    exact ⟨fun _ _ hf => hf, fun _ _ hw => nomatch hw⟩
  · rw [heq]
    have hcache := h.withCache cache
    rcases hcache.join_cases supply language space with ⟨m, g, hg, hpending, hjoin⟩ | ⟨-, hjoin⟩
    · rw [hjoin]
      refine ⟨fun _ _ hf => hf, ?_⟩
      intro n f hw
      cases hw
      exact (hcache.pending _ _).1 hpending
    · rw [hjoin]
      refine ⟨?_, ?_⟩
      · intro n f hf
        rw [fetch?_eq_get?] at hf ⊢
        exact Entries.get?_append_of_some hf _
      · intro n f hw
        cases hw
        exact List.mem_map.2 ⟨_, List.mem_append_right _ List.mem_cons_self, rfl⟩

/-! ## Turns -/

/-- A task that goes on keeps its number and its key. -/
theorem taskKeys_put (hf : l.fetch? n = some f) (hg : g.key = f.key) :
    taskKeys { l with tasks := Entries.put l.tasks n g } = l.taskKeys := by
  rw [fetch?_eq_get?] at hf
  exact Entries.map_put_of_get? hf (by rw [hg])

theorem IsShared.put (h : l.IsShared) (hf : l.fetch? n = some f) (hg : g.key = f.key) :
    { l with tasks := Entries.put l.tasks n g : Loader }.IsShared := by
  have hkeys := taskKeys_put hf hg
  constructor
  · rw [hkeys]
    exact h.distinct
  · rw [hkeys]
    exact h.numbered
  · rw [hkeys]
    exact h.below
  · rw [hkeys]
    exact h.pending

theorem taskKeys_drop (l : Loader) (n : Nat) (f : Fetch) :
    (l.drop n f).taskKeys = l.taskKeys.filter fun t => t.1 != n := by
  rw [taskKeys, taskKeys, drop, List.filter_map]
  rfl

/-- A task that ends leaves its key free. -/
theorem IsShared.drop (h : l.IsShared) (hf : l.fetch? n = some f) : (l.drop n f).IsShared := by
  have hkeys := taskKeys_drop l n f
  have hsub : (l.drop n f).taskKeys.Sublist l.taskKeys := hkeys ▸ List.filter_sublist
  constructor
  · exact h.distinct.sublist (hsub.map _)
  · exact h.numbered.sublist (hsub.map _)
  · exact fun t ht => h.below t (hsub.subset ht)
  · intro key m
    rw [hkeys, List.mem_filter]
    have hmine := mem_taskKeys_of_fetch? hf
    have hpending : (l.drop n f).pending = Entries.erase l.pending f.key := rfl
    rw [hpending]
    by_cases hkey : key = f.key
    · subst hkey
      rw [Entries.get?_erase_self]
      have hnot : ¬ ((m, f.key) ∈ l.taskKeys ∧ (m != n) = true) := by
        rintro ⟨hm, hne⟩
        have heq := List.inj_on_of_nodup_map h.distinct hm hmine rfl
        cases heq
        simp at hne
      simpa using hnot
    · rw [Entries.get?_erase_ne _ hkey, h.pending]
      have hne : (m, key) ∈ l.taskKeys → (m != n) = true := by
        intro hm
        have hmn : m ≠ n := by
          rintro rfl
          exact hkey (h.key_eq hf hm).symm
        simpa using hmn
      exact ⟨fun hm => ⟨hm, hne hm⟩, fun hm => hm.1⟩

/-- What is left of a loader when a task has ended; its cache and its languages may be others. -/
structure Ended (l l' : Loader) (n : Nat) (f : Fetch) : Prop where
  shared : l'.IsShared
  pending_eq : l'.pending = Entries.erase l.pending f.key
  tasks_eq : l'.tasks = l.tasks.filter fun t => t.1 != n
  nextTask_eq : l'.nextTask = l.nextTask

theorem IsShared.ended_drop (h : l.IsShared) (hf : l.fetch? n = some f) :
    Ended l (l.drop n f) n f := ⟨h.drop hf, rfl, rfl, rfl⟩

theorem IsShared.ended_settle (h : l.IsShared) (hf : l.fetch? n = some f) (now : Number)
    (source : Source) (loaded : Loaded) :
    Ended l (l.settle now n f (.ok (source, loaded))).1 n f := by
  -- Neither the cache nor the languages have a say in what is pending.
  have hshared : ∀ languages cache,
      { l with languages := languages, cache := cache : Loader }.IsShared :=
    fun _ _ => ⟨h.distinct, h.numbered, h.below, h.pending⟩
  exact ⟨(hshared _ _).drop hf, rfl, rfl, rfl⟩

theorem Ended.taskKeys_eq {l' : Loader} (h : Ended l l' n f) :
    l'.taskKeys = l.taskKeys.filter fun t => t.1 != n := by
  rw [taskKeys, h.tasks_eq, taskKeys, List.filter_map]
  rfl

end Loader

namespace LoadStep

variable {σ : Type}

def isTurn (n : Nat) : LoadStep σ → Bool
  | turn m => m == n
  | _ => false

def isCancel : LoadStep σ → Bool
  | cancel _ => true
  | _ => false

end LoadStep

/-! ## Callers -/

namespace Loads

variable {σ : Type} {outside : Outside σ} {supply : Supply} {s : Loads σ} {n : Nat} {f : Fetch}

/-- Whether tasks are shared as they should be, and every caller has or will get the result of its
task. -/
structure IsConsistent (s : Loads σ) : Prop where
  shared : s.loader.IsShared
  ended : ∀ e ∈ s.finished, e.1 < s.loader.nextTask ∧ ∀ key, (e.1, key) ∉ s.loader.taskKeys
  waiting : ∀ key n, Caller.waits key n ∈ s.callers →
    (n, key) ∈ s.loader.taskKeys ∨ ∃ r, Entries.get? s.finished n = some r
  answered : ∀ n r, Caller.answered (some n) r ∈ s.callers → Entries.get? s.finished n = some r

theorem isConsistent_create (cache : BundleCache) (languages : List Value) (world : σ) :
    (create cache languages world).IsConsistent where
  shared := Loader.isShared_create cache languages
  ended := fun _ he => nomatch he
  waiting := fun _ _ hc => nomatch hc
  answered := fun _ _ hc => nomatch hc

theorem callers_ask (outside : Outside σ) (supply : Supply) (s : Loads σ) (language : Key)
    (space : Option Key) : (s.ask outside supply language space).callers =
      s.callers ++ [.ofReply (cacheKey language space)
        (s.loader.request supply (outside.now s.world).2 language space).2] := rfl

theorem IsConsistent.ask (h : s.IsConsistent) (outside : Outside σ) (supply : Supply)
    (language : Key) (space : Option Key) : (s.ask outside supply language space).IsConsistent := by
  have hrequest := h.shared.fetch?_request supply (outside.now s.world).2 language space
  have hshared := h.shared.request supply (outside.now s.world).2 language space
  obtain ⟨hkept, hjoined⟩ := hrequest
  constructor
  · exact hshared
  · intro e he
    obtain ⟨hbelow, hnone⟩ := h.ended e he
    refine ⟨Nat.lt_of_lt_of_le hbelow (Loader.nextTask_le_request _ _ _ _ _), ?_⟩
    intro key hkey
    obtain ⟨t, ht, heq⟩ := List.mem_map.1 hkey
    have hnumber : t.1 = e.1 := congrArg Prod.fst heq
    rcases Loader.mem_tasks_request ht with hold | ⟨hnew, -⟩
    · exact hnone t.2.key (hnumber ▸ List.mem_map_of_mem hold)
    · omega
  · intro key m hc
    rw [callers_ask] at hc
    rcases List.mem_append.1 hc with hold | hnew
    · rcases h.waiting key m hold with hkey | hdone
      · obtain ⟨f, hf⟩ := Loader.exists_fetch?_of_mem hkey
        exact .inl (h.shared.key_eq hf hkey ▸ Loader.mem_taskKeys_of_fetch? (hkept m f hf))
      · exact .inr hdone
    · have hreply := List.mem_singleton.1 hnew
      cases hr : (s.loader.request supply (outside.now s.world).2 language space).2 with
      | ready b =>
        rw [hr] at hreply
        cases hreply
      | waits task f =>
        rw [hr] at hreply
        cases hreply
        exact .inl (hjoined _ _ hr)
  · intro m r hc
    rw [callers_ask] at hc
    rcases List.mem_append.1 hc with hold | hnew
    · exact h.answered m r hold
    · have hreply := List.mem_singleton.1 hnew
      cases hr : (s.loader.request supply (outside.now s.world).2 language space).2 <;>
        rw [hr] at hreply <;> cases hreply

/-- A caller that stops waiting. -/
theorem IsConsistent.set (h : s.IsConsistent) (caller : Nat) {c : Caller}
    (hwaits : ∀ key n, c ≠ .waits key n)
    (hanswered : ∀ n r, c = .answered (some n) r → Entries.get? s.finished n = some r) :
    { s with callers := s.callers.set caller c }.IsConsistent := by
  constructor
  · exact h.shared
  · exact h.ended
  · intro key m hc
    rcases List.mem_or_eq_of_mem_set hc with hold | heq
    · exact h.waiting key m hold
    · exact absurd heq.symm (hwaits key m)
  · intro m r hc
    rcases List.mem_or_eq_of_mem_set hc with hold | heq
    · exact h.answered m r hold
    · exact hanswered m r heq.symm

theorem IsConsistent.cancel (h : s.IsConsistent) (caller : Nat) :
    (s.cancel caller).IsConsistent := by
  unfold Loads.cancel
  split
  · exact h.set caller (by simp) (by simp)
  · exact h

theorem IsConsistent.resume (h : s.IsConsistent) (caller : Nat) :
    (s.resume caller).IsConsistent := by
  unfold Loads.resume
  split
  · split
    · rename_i result hresult
      refine h.set caller (by simp) ?_
      intro m r heq
      cases heq
      exact hresult
    · exact h
  · exact h

/-- A step of a task that goes on. -/
theorem IsConsistent.goesOn (h : s.IsConsistent) (hf : s.loader.fetch? n = some f) {g : Fetch}
    (hg : g.key = f.key) (world : σ) :
    { s with
      world := world
      loader := { s.loader with tasks := Entries.put s.loader.tasks n g } }.IsConsistent := by
  have hkeys := Loader.taskKeys_put hf hg
  constructor
  · exact h.shared.put hf hg
  · intro e he
    rw [hkeys]
    exact h.ended e he
  · intro key m hc
    rw [hkeys]
    exact h.waiting key m hc
  · exact h.answered

/-- The result of a task does not change any more. -/
theorem IsConsistent.get?_cons (h : s.IsConsistent) (hf : s.loader.fetch? n = some f) {m : Nat}
    {r : Except LoadFault Bundle} (hr : Entries.get? s.finished m = some r)
    (r' : Except LoadFault Bundle) : Entries.get? ((n, r') :: s.finished) m = some r := by
  have hne : n ≠ m := by
    rintro rfl
    exact (h.ended _ (Entries.mem_of_get? hr)).2 _ (Loader.mem_taskKeys_of_fetch? hf)
  rw [Entries.get?, if_neg hne, hr]

/-- A step in which a task ends. -/
theorem IsConsistent.ends (h : s.IsConsistent) (hf : s.loader.fetch? n = some f) {l : Loader}
    (hl : Loader.Ended s.loader l n f) (world : σ) (result : Except LoadFault Bundle) :
    { s with
      world := world
      loader := l
      finished := (n, result) :: s.finished }.IsConsistent := by
  have hmine := Loader.mem_taskKeys_of_fetch? hf
  constructor
  · exact hl.shared
  · intro e he
    rw [hl.taskKeys_eq, hl.nextTask_eq]
    rcases List.mem_cons.1 he with rfl | hold
    · exact ⟨h.shared.below _ hmine, by simp⟩
    · obtain ⟨hbelow, hnone⟩ := h.ended e hold
      exact ⟨hbelow, fun key hkey => hnone key (List.mem_filter.1 hkey).1⟩
  · intro key m hc
    rw [hl.taskKeys_eq]
    by_cases hm : m = n
    · subst hm
      exact .inr ⟨result, by simp [Entries.get?]⟩
    · rcases h.waiting key m hc with hkey | ⟨r, hr⟩
      · exact .inl (List.mem_filter.2 ⟨hkey, by simpa using hm⟩)
      · exact .inr ⟨r, h.get?_cons hf hr result⟩
  · intro m r hc
    exact h.get?_cons hf (h.answered m r hc) result

/-! ## Steps and runs -/

/-- A turn of a task takes it one step further or ends it. -/
theorem IsConsistent.turn_cases (h : s.IsConsistent) (hf : s.loader.fetch? n = some f)
    (outside : Outside σ) (supply : Supply) :
    (∃ g world, g.key = f.key ∧ g.rank supply.retry < f.rank supply.retry ∧
      s.turn outside supply n = { s with
        world := world
        loader := { s.loader with tasks := Entries.put s.loader.tasks n g } }) ∨
    ∃ world l result, Loader.Ended s.loader l n f ∧
      s.turn outside supply n =
        { s with world := world, loader := l, finished := (n, result) :: s.finished } := by
  have hturn : s.turn outside supply n = s.turnOf outside supply n f := by
    rw [Loads.turn, hf]
  rw [hturn, turnOf]
  cases hstep : (f.turn outside supply.retry s.world).step with
  | goesOn g =>
    obtain ⟨hlanguage, hspace, -⟩ := Fetch.turn_goesOn hstep
    exact .inl ⟨g, _, by rw [Fetch.key, hlanguage, hspace]; rfl, Fetch.rank_turn_lt hstep, rfl⟩
  | won source loaded => exact .inr ⟨_, _, _, h.shared.ended_settle hf _ source loaded, rfl⟩
  | lost fault => exact .inr ⟨_, _, _, h.shared.ended_drop hf, rfl⟩

theorem turn_of_ended (hf : s.loader.fetch? n = none) : s.turn outside supply n = s := by
  rw [Loads.turn, hf]

theorem IsConsistent.turn (h : s.IsConsistent) (outside : Outside σ) (supply : Supply) (n : Nat) :
    (s.turn outside supply n).IsConsistent := by
  cases hf : s.loader.fetch? n with
  | none =>
    rw [turn_of_ended hf]
    exact h
  | some f =>
    rcases h.turn_cases hf outside supply with ⟨g, world, hg, -, heq⟩ | ⟨world, l, r, hl, heq⟩
    · rw [heq]
      exact h.goesOn hf hg world
    · rw [heq]
      exact h.ends hf hl world r

theorem IsConsistent.act (h : s.IsConsistent) (outside : Outside σ) (supply : Supply)
    (step : LoadStep σ) : (s.act outside supply step).IsConsistent := by
  cases step with
  | ask language space => exact h.ask outside supply language space
  | cancel caller => exact h.cancel caller
  | resume caller => exact h.resume caller
  | turn n => exact h.turn outside supply n
  | clearCache => exact ⟨h.shared.withCache _, h.ended, h.waiting, h.answered⟩
  | pass world => exact ⟨h.shared, h.ended, h.waiting, h.answered⟩

theorem IsConsistent.run (h : s.IsConsistent) (outside : Outside σ) (supply : Supply)
    (steps : List (LoadStep σ)) : (s.run outside supply steps).IsConsistent := by
  induction steps generalizing s with
  | nil => exact h
  | cons step rest ih => exact ih (h.act outside supply step)

/-! ## Results -/

theorem IsConsistent.finished_act (h : s.IsConsistent) {m : Nat} {r : Except LoadFault Bundle}
    (hr : Entries.get? s.finished m = some r) (step : LoadStep σ) :
    Entries.get? (s.act outside supply step).finished m = some r := by
  cases step with
  | ask language space => exact hr
  | cancel caller =>
    simp only [Loads.act, Loads.cancel]
    split <;> exact hr
  | resume caller =>
    simp only [Loads.act, Loads.resume]
    split
    · split <;> exact hr
    · exact hr
  | turn n =>
    rw [Loads.act]
    cases hf : s.loader.fetch? n with
    | none =>
      rw [turn_of_ended hf]
      exact hr
    | some f =>
      rcases h.turn_cases hf outside supply with ⟨g, world, -, -, heq⟩ | ⟨world, l, r', -, heq⟩
      · rw [heq]
        exact hr
      · rw [heq]
        exact h.get?_cons hf hr r'
  | clearCache => exact hr
  | pass world => exact hr

theorem IsConsistent.finished_run (h : s.IsConsistent) {m : Nat} {r : Except LoadFault Bundle}
    (hr : Entries.get? s.finished m = some r) (steps : List (LoadStep σ)) :
    Entries.get? (s.run outside supply steps).finished m = some r := by
  induction steps generalizing s with
  | nil => exact hr
  | cons step rest ih => exact ih (h.act outside supply step) (h.finished_act hr step)

/-- Only turns of a task have to do with it. -/
theorem IsConsistent.fetch?_act (h : s.IsConsistent) (hf : s.loader.fetch? n = some f)
    {step : LoadStep σ} (hstep : step.isTurn n = false) :
    (s.act outside supply step).loader.fetch? n = some f := by
  cases step with
  | ask language space => exact (h.shared.fetch?_request supply _ language space).1 n f hf
  | cancel caller =>
    simp only [Loads.act, Loads.cancel]
    split <;> exact hf
  | resume caller =>
    simp only [Loads.act, Loads.resume]
    split
    · split <;> exact hf
    · exact hf
  | turn m =>
    have hne : n ≠ m := by
      rintro rfl
      simp [LoadStep.isTurn] at hstep
    rw [Loads.act]
    cases hm : s.loader.fetch? m with
    | none =>
      rw [turn_of_ended hm]
      exact hf
    | some f' =>
      rcases h.turn_cases hm outside supply with ⟨g, world, -, -, heq⟩ | ⟨world, l, r, hl, heq⟩
      · rw [heq, Loader.fetch?_eq_get?]
        rw [Loader.fetch?_eq_get?] at hf
        exact (Entries.get?_put_ne _ _ hne).trans hf
      · rw [heq, Loader.fetch?_eq_get?, hl.tasks_eq]
        rw [Loader.fetch?_eq_get?] at hf
        exact (Entries.get?_filter_of_forall fun _ => by simpa using hne).trans hf
  | clearCache => exact hf
  | pass world => exact hf

/-- A task ends after as many turns as its rank allows, whatever else happens. -/
theorem IsConsistent.exists_finished_run (h : s.IsConsistent) (hf : s.loader.fetch? n = some f)
    (steps : List (LoadStep σ)) (hturns : f.rank supply.retry < steps.countP (·.isTurn n)) :
    ∃ r, Entries.get? (s.run outside supply steps).finished n = some r := by
  induction steps generalizing s f with
  | nil => exact absurd hturns (Nat.not_lt_zero _)
  | cons step rest ih =>
    have hact := h.act outside supply step
    cases hstep : step.isTurn n with
    | false =>
      rw [List.countP_cons_of_neg (by simp [hstep])] at hturns
      exact ih hact (h.fetch?_act hf hstep) hturns
    | true =>
      rw [List.countP_cons_of_pos hstep] at hturns
      obtain rfl : step = .turn n := by
        cases step <;> simp_all [LoadStep.isTurn]
      rcases h.turn_cases hf outside supply with ⟨g, world, -, hrank, heq⟩ | ⟨world, l, r, -, heq⟩
      · have hg : (s.act outside supply (.turn n)).loader.fetch? n = some g := by
          rw [Loads.act, heq, Loader.fetch?_eq_get?]
          exact Entries.get?_put_self _ _ _
        exact ih hact hg (Nat.lt_of_lt_of_le hrank (Nat.le_of_lt_succ hturns))
      · have hr : Entries.get? (s.act outside supply (.turn n)).finished n = some r := by
          rw [Loads.act, heq]
          simp [Entries.get?]
        exact ⟨r, hact.finished_run hr rest⟩

/-! ## Cancelled callers -/

/-- Whether a state is another one but for callers that are cancelled in it. -/
structure Agrees (s t : Loads σ) : Prop where
  world_eq : s.world = t.world
  loader_eq : s.loader = t.loader
  finished_eq : s.finished = t.finished
  length_eq : s.callers.length = t.callers.length
  callers : ∀ (i : Nat) (c : Caller), s.callers[i]? = some c → c ≠ .cancelled →
    t.callers[i]? = some c

theorem Agrees.refl (s : Loads σ) : s.Agrees s := ⟨rfl, rfl, rfl, rfl, fun _ _ hc _ => hc⟩

theorem Agrees.cancel {t : Loads σ} (h : s.Agrees t) (caller : Nat) :
    (s.cancel caller).Agrees t := by
  unfold Loads.cancel
  split
  · refine ⟨h.world_eq, h.loader_eq, h.finished_eq, ?_, ?_⟩
    · rw [List.length_set]
      exact h.length_eq
    · intro i c hc hne
      rw [List.getElem?_set] at hc
      split at hc
      · split at hc
        · cases hc
          exact absurd rfl hne
        · cases hc
      · exact h.callers i c hc hne
  · exact h

theorem Agrees.set {t : Loads σ} (h : s.Agrees t) (caller : Nat) (c : Caller) :
    Agrees { s with callers := s.callers.set caller c }
      { t with callers := t.callers.set caller c } := by
  refine ⟨h.world_eq, h.loader_eq, h.finished_eq, ?_, ?_⟩
  · rw [List.length_set, List.length_set]
    exact h.length_eq
  · intro i d hd hne
    rw [List.getElem?_set, ← h.length_eq]
    rw [List.getElem?_set] at hd
    split
    · rename_i hi
      rwa [if_pos hi] at hd
    · rename_i hi
      rw [if_neg hi] at hd
      exact h.callers i d hd hne

theorem Agrees.set_of_cancelled {t : Loads σ} (h : s.Agrees t) {caller : Nat}
    (hc : s.callers[caller]? = some .cancelled) (c : Caller) :
    s.Agrees { t with callers := t.callers.set caller c } := by
  refine ⟨h.world_eq, h.loader_eq, h.finished_eq, ?_, ?_⟩
  · rw [List.length_set]
    exact h.length_eq
  · intro i d hd hne
    have hi : caller ≠ i := by
      rintro rfl
      rw [hc] at hd
      cases hd
      exact hne rfl
    rw [List.getElem?_set_ne hi]
    exact h.callers i d hd hne

theorem Agrees.resume {t : Loads σ} (h : s.Agrees t) (caller : Nat) :
    (s.resume caller).Agrees (t.resume caller) := by
  cases hc : s.callers[caller]? with
  | none =>
    have ht : t.callers[caller]? = none := by
      rw [List.getElem?_eq_none_iff, ← h.length_eq]
      exact List.getElem?_eq_none_iff.1 hc
    simp only [Loads.resume, hc, ht]
    exact h
  | some c =>
    cases c with
    | cancelled =>
      have hs : s.resume caller = s := by rw [Loads.resume, hc]
      rw [hs, Loads.resume]
      split
      · split
        · exact h.set_of_cancelled hc _
        · exact h
      · exact h
    | answered n r =>
      have ht := h.callers caller _ hc (by simp)
      simp only [Loads.resume, hc, ht]
      exact h
    | waits key n =>
      have ht := h.callers caller _ hc (by simp)
      simp only [Loads.resume, hc, ht, ← h.finished_eq]
      split
      · rename_i r _
        exact h.finished_eq ▸ h.set caller (.answered (some n) r)
      · exact h

theorem turn_withCallers (s : Loads σ) (callers : List Caller) (n : Nat) :
    turn outside supply { s with callers := callers } n =
      { s.turn outside supply n with callers := callers } := by
  simp only [Loads.turn, turnOf]
  split
  · split <;> rfl
  · rfl

theorem callers_turn (s : Loads σ) (n : Nat) : (s.turn outside supply n).callers = s.callers := by
  simp only [Loads.turn, turnOf]
  split
  · split <;> rfl
  · rfl

/-- A step that cancels nobody does the same in both states. -/
theorem Agrees.act {t : Loads σ} (h : s.Agrees t) {step : LoadStep σ}
    (hstep : step.isCancel = false) :
    (s.act outside supply step).Agrees (t.act outside supply step) := by
  cases step with
  | ask language space =>
    refine ⟨?_, ?_, ?_, ?_, ?_⟩
    · simp only [Loads.act, Loads.ask, h.world_eq]
    · simp only [Loads.act, Loads.ask, h.world_eq, h.loader_eq]
    · exact h.finished_eq
    · rw [Loads.act, Loads.act, callers_ask, callers_ask, List.length_append, List.length_append,
        h.length_eq]
      rfl
    · intro i c hc hne
      rw [Loads.act, callers_ask] at hc ⊢
      rw [← h.world_eq, ← h.loader_eq]
      rw [List.getElem?_append] at hc ⊢
      rw [← h.length_eq]
      split
      · rename_i hi
        rw [if_pos hi] at hc
        exact h.callers i c hc hne
      · rename_i hi
        rwa [if_neg hi] at hc
  | cancel caller => cases hstep
  | resume caller => exact h.resume caller
  | turn n =>
    have ht : t = { s with callers := t.callers } := by
      rw [h.world_eq, h.loader_eq, h.finished_eq]
    rw [Loads.act, Loads.act, ht, turn_withCallers s t.callers]
    refine ⟨rfl, rfl, rfl, ?_, ?_⟩
    · rw [callers_turn]
      exact h.length_eq
    · intro i c hc hne
      rw [callers_turn] at hc
      exact h.callers i c hc hne
  | clearCache =>
    refine ⟨h.world_eq, ?_, h.finished_eq, h.length_eq, h.callers⟩
    simp only [Loads.act, Loads.clearCache, h.loader_eq]
  | pass world => exact ⟨rfl, h.loader_eq, h.finished_eq, h.length_eq, h.callers⟩

/-- Cancelled callers make no difference to tasks, results and the cache, nor to other callers. -/
theorem Agrees.run {t : Loads σ} (h : s.Agrees t) (steps : List (LoadStep σ)) :
    (s.run outside supply steps).Agrees
      (t.run outside supply (steps.filter fun step => !step.isCancel)) := by
  induction steps generalizing s t with
  | nil => exact h
  | cons step rest ih =>
    cases hstep : step.isCancel with
    | true =>
      obtain ⟨caller, rfl⟩ : ∃ caller, step = .cancel caller := by
        cases step <;> simp_all [LoadStep.isCancel]
      rw [List.filter_cons_of_neg (by simp [hstep])]
      exact ih (h.cancel caller)
    | false =>
      rw [List.filter_cons_of_pos (by simp [hstep])]
      exact ih (h.act hstep)

/-! ## Sharing -/

/-- What holds of tasks and callers in a state. -/
structure SharesTasks (outside : Outside σ) (supply : Supply) (s : Loads σ) : Prop where
  /-- a key has one unfinished task at most -/
  distinct : (s.loader.taskKeys.map Prod.snd).Nodup
  /-- the keys that are pending are those of the unfinished tasks -/
  pending : ∀ key n, Entries.get? s.loader.pending key = some n ↔ (n, key) ∈ s.loader.taskKeys
  /-- a task that is waited for is the unfinished one of the key, or it has a result -/
  waiting : ∀ (caller : Nat) key n, s.callers[caller]? = some (.waits key n) →
    (n, key) ∈ s.loader.taskKeys ∨ ∃ r, Entries.get? s.finished n = some r
  /-- a caller that waits goes on with the result of its task -/
  resumed : ∀ (caller : Nat) key n r, s.callers[caller]? = some (.waits key n) →
    Entries.get? s.finished n = some r →
      (s.act outside supply (.resume caller)).callers[caller]? = some (.answered (some n) r)
  /-- a caller that has gone on has the result of its task -/
  answered : ∀ (caller : Nat) n r, s.callers[caller]? = some (.answered (some n) r) →
    Entries.get? s.finished n = some r
  /-- a result does not change -/
  kept : ∀ n r, Entries.get? s.finished n = some r → ∀ more,
    Entries.get? (s.run outside supply more).finished n = some r
  /-- an unfinished task ends after a number of turns -/
  ends : ∀ n f, s.loader.fetch? n = some f → ∀ more,
    f.rank supply.retry < more.countP (·.isTurn n) →
      ∃ r, Entries.get? (s.run outside supply more).finished n = some r
  /-- a task that ends with a bundle writes it to the cache and frees its key -/
  won : ∀ n f source loaded, s.loader.fetch? n = some f →
    (f.turn outside supply.retry s.world).step = .won source loaded →
      let t := s.act outside supply (.turn n)
      Entries.get? t.finished n = some (.ok loaded.bundle) ∧
        Entries.get? t.loader.pending f.key = none ∧
          t.loader.cache = (s.loader.cache.set
            (outside.now (f.turn outside supply.retry s.world).world).2 f.language f.space
            loaded.bundle).cache
  /-- a task that fails frees its key -/
  lost : ∀ n f fault, s.loader.fetch? n = some f →
    (f.turn outside supply.retry s.world).step = .lost fault →
      let t := s.act outside supply (.turn n)
      Entries.get? t.finished n = some (.error fault) ∧
        Entries.get? t.loader.pending f.key = none ∧ t.loader.cache = s.loader.cache
  /-- a key that is free gets a new task when its bundle has to be fetched -/
  starts : ∀ language space, Entries.get? s.loader.pending (cacheKey language space) = none →
    (s.loader.cache.get (outside.now s.world).2 language space).2 = none →
    supply.given? language space = none →
      let t := s.act outside supply (.ask language space)
      t.loader.fetch? s.loader.nextTask =
          some (Fetch.start supply.retry supply.sources language space) ∧
        Entries.get? s.finished s.loader.nextTask = none ∧
        t.callers = s.callers ++ [.waits (cacheKey language space) s.loader.nextTask]

theorem act_turn_of_fetch? (hf : s.loader.fetch? n = some f) :
    s.act outside supply (.turn n) = s.turnOf outside supply n f := by
  rw [Loads.act, Loads.turn, hf]

theorem IsConsistent.act_ask (h : s.IsConsistent) {language : Key} {space : Option Key}
    (hfree : Entries.get? s.loader.pending (cacheKey language space) = none)
    (hcache : (s.loader.cache.get (outside.now s.world).2 language space).2 = none)
    (hgiven : supply.given? language space = none) :
    (s.act outside supply (.ask language space)).loader.fetch? s.loader.nextTask =
        some (Fetch.start supply.retry supply.sources language space) ∧
      (s.act outside supply (.ask language space)).callers =
        s.callers ++ [.waits (cacheKey language space) s.loader.nextTask] := by
  let l : Loader :=
    { s.loader with cache := (s.loader.cache.get (outside.now s.world).2 language space).1 }
  have hrequest : s.loader.request supply (outside.now s.world).2 language space =
      ((l.join supply language space).1, .waits (l.join supply language space).2.1
        (l.join supply language space).2.2) := by
    simp only [Loader.request, hcache, hgiven]
    rfl
  have hnone : l.pendingFetch? (cacheKey language space) = none := by
    have hpending : Entries.get? l.pending (cacheKey language space) = none := hfree
    simp [Loader.pendingFetch?, hpending]
  have hnew : s.loader.nextTask ∉ Entries.keys s.loader.tasks := by
    intro hmem
    obtain ⟨t, ht, heq⟩ := List.mem_map.1 hmem
    exact Nat.ne_of_lt (h.shared.below _ (List.mem_map_of_mem ht)) heq
  have hloader : (s.act outside supply (.ask language space)).loader =
      (l.join supply language space).1 := congrArg Prod.fst hrequest
  refine ⟨?_, ?_⟩
  · rw [hloader, Loader.fetch?_eq_get?, Loader.join, hnone]
    refine (Entries.get?_append_of_not_mem hnew _).trans ?_
    simp [Entries.get?, l]
  · rw [Loads.act, callers_ask, hrequest, Loader.join, hnone]
    rfl

theorem IsConsistent.sharesTasks (h : s.IsConsistent) : s.SharesTasks outside supply where
  distinct := h.shared.distinct
  pending := h.shared.pending
  waiting := fun _ key n hc => h.waiting key n (List.mem_of_getElem? hc)
  resumed := by
    intro caller key n r hc hr
    rw [Loads.act, Loads.resume, hc]
    simp only [hr]
    rw [List.getElem?_set_self (List.getElem?_eq_some_iff.1 hc).1]
  answered := fun _ n r hc => h.answered n r (List.mem_of_getElem? hc)
  kept := fun n r hr more => h.finished_run hr more
  ends := fun n f hf more hturns => h.exists_finished_run hf more hturns
  won := by
    intro n f source loaded hf hstep
    rw [act_turn_of_fetch? hf, turnOf]
    simp only [hstep]
    refine ⟨by simp [Entries.get?], ?_, rfl⟩
    exact Entries.get?_erase_self s.loader.pending f.key
  lost := by
    intro n f fault hf hstep
    rw [act_turn_of_fetch? hf, turnOf]
    simp only [hstep]
    refine ⟨by simp [Entries.get?], ?_, rfl⟩
    exact Entries.get?_erase_self s.loader.pending f.key
  starts := by
    intro language space hfree hcache hgiven
    obtain ⟨hfetch, hcallers⟩ := h.act_ask hfree hcache hgiven
    refine ⟨hfetch, ?_, hcallers⟩
    refine Entries.get?_eq_none_iff.2 fun hmem => ?_
    obtain ⟨e, he, heq⟩ := List.mem_map.1 hmem
    exact Nat.ne_of_lt (h.ended e he).1 heq

/-- Loads of one key share one task: in whatever order callers ask, are cancelled and go on, and
tasks take their turns, and whatever the world does. What the tasks do, what they yield and what is
cached is the same as when nobody is cancelled. -/
theorem sharesTasks_run (outside : Outside σ) (supply : Supply) (cache : BundleCache)
    (languages : List Value) (world : σ) (steps : List (LoadStep σ)) :
    ((create cache languages world).run outside supply steps).SharesTasks outside supply ∧
      ((create cache languages world).run outside supply steps).Agrees
        ((create cache languages world).run outside supply
          (steps.filter fun step => !step.isCancel)) :=
  ⟨((isConsistent_create cache languages world).run outside supply steps).sharesTasks,
    (Agrees.refl _).run steps⟩

end Loads
end Polyglot
