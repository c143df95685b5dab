import Polyglot.Client.Loader
import Polyglot.Proofs.Entries
import Polyglot.Proofs.Outcome

/-!
# Loads

What a loader answers is genuine as long as its sources and the given data are: the cache holds
nothing else, and a fetch that callers join is a fetch of the key they ask for. What counts as
genuine is a predicate of keys and bundles, so that the same facts serve different contents.
-/
namespace Polyglot

variable {σ : Type} {outside : Outside σ} {genuine : Key → Bundle → Prop}

/-! ## Fetches -/

namespace Fetch

variable {p : RetryPolicy} {f g : Fetch} {world : σ}

/-- Whether every bundle that a source of the fetch can yield is genuine for its key. -/
def Answers (outside : Outside σ) (genuine : Key → Bundle → Prop) (f : Fetch) : Prop :=
  ∀ source ∈ f.sources, ∀ world loaded,
    (source.fetch outside f.language f.space world).2 = .ok loaded →
      genuine (cacheKey f.language f.space) loaded.bundle

theorem leave_goesOn {s : Source} {rest : List Source} {reason : String}
    (hs : f.sources = s :: rest) (h : leave p f s rest reason = .goesOn g) :
    g.language = f.language ∧ g.space = f.space ∧ g.sources ⊆ f.sources := by
  unfold leave at h
  simp only at h
  split at h
  · cases h
  · cases h
    exact ⟨rfl, rfl, hs ▸ List.subset_cons_self s rest⟩

/-- A fetch stays one for its key, with sources of its own. -/
theorem turn_goesOn (h : (f.turn outside p world).step = .goesOn g) :
    g.language = f.language ∧ g.space = f.space ∧ g.sources ⊆ f.sources := by
  unfold turn at h
  split at h
  · cases h
  · rename_i s rest hs
    split at h
    · cases h
      exact ⟨rfl, rfl, fun _ hx => hx⟩
    · split at h
      · exact leave_goesOn hs h
      · simp only at h
        split at h
        · cases h
        · split at h
          · cases h
            exact ⟨rfl, rfl, fun _ hx => hx⟩
          · exact leave_goesOn hs h

theorem leave_ne_won {s s' : Source} {rest : List Source} {reason : String} {loaded : Loaded} :
    leave p f s rest reason ≠ .won s' loaded := by
  unfold leave
  simp only
  split <;> simp

/-- A fetch that ends with a bundle has it from one of its sources. -/
theorem turn_won {s : Source} {loaded : Loaded}
    (h : (f.turn outside p world).step = .won s loaded) :
    s ∈ f.sources ∧ (s.fetch outside f.language f.space world).2 = .ok loaded := by
  unfold turn at h
  split at h
  · cases h
  · rename_i t rest hs
    split at h
    · cases h
    · split at h
      · exact absurd h leave_ne_won
      · simp only at h
        split at h
        · rename_i hfetch
          cases h
          exact ⟨hs ▸ List.mem_cons_self, hfetch⟩
        · split at h
          · cases h
          · exact absurd h leave_ne_won

theorem Answers.turn_goesOn (hf : f.Answers outside genuine)
    (h : (f.turn outside p world).step = .goesOn g) : g.Answers outside genuine := by
  obtain ⟨hlanguage, hspace, hsources⟩ := Fetch.turn_goesOn h
  intro source hsource world loaded hfetch
  rw [hlanguage, hspace] at hfetch ⊢
  exact hf source (hsources hsource) world loaded hfetch

theorem Answers.turn_won (hf : f.Answers outside genuine) {s : Source} {loaded : Loaded}
    (h : (f.turn outside p world).step = .won s loaded) :
    genuine (cacheKey f.language f.space) loaded.bundle := by
  obtain ⟨hsource, hfetch⟩ := Fetch.turn_won h
  exact hf s hsource world loaded hfetch

/-- A fetch that runs to its end has what it finds from one of its sources. -/
theorem run_won {s : Source} {loaded : Loaded}
    (h : (f.run outside p world).result = .ok (s, loaded)) :
    s ∈ f.sources ∧ ∃ world', (s.fetch outside f.language f.space world').2 = .ok loaded := by
  fun_induction Fetch.run outside p f world with
  | case1 f world t g hstep hlt o ih =>
    obtain ⟨hlanguage, hspace, hsources⟩ := turn_goesOn hstep
    obtain ⟨hs, hfetch⟩ := ih h
    rw [hlanguage, hspace] at hfetch
    exact ⟨hsources hs, hfetch⟩
  | case2 f world t s' loaded' hstep =>
    cases h
    obtain ⟨hs, hfetch⟩ := turn_won hstep
    exact ⟨hs, _, hfetch⟩
  | case3 f world t fault hstep => cases h

/-- A fetch that runs to its end finds a genuine bundle, if it finds one. -/
theorem Answers.run (hf : f.Answers outside genuine) {world : σ} {s : Source} {loaded : Loaded}
    (h : (f.run outside p world).result = .ok (s, loaded)) :
    genuine (cacheKey f.language f.space) loaded.bundle := by
  obtain ⟨hs, world', hfetch⟩ := run_won h
  exact hf s hs world' loaded hfetch

end Fetch

/-! ## The cache -/

namespace BundleCache

variable {c : BundleCache}

def Holds (genuine : Key → Bundle → Prop) (c : BundleCache) : Prop :=
  ∀ e ∈ c.entries, genuine e.1 e.2.bundle

theorem mem_touch {entries : List (Key × CacheEntry)} {key : Key} {e : CacheEntry}
    {d : Key × CacheEntry} (h : d ∈ touch entries key e) : d = (key, e) ∨ d ∈ entries := by
  rcases List.mem_append.1 h with h | h
  · exact .inr (List.mem_filter.1 h).1
  · exact .inl (List.mem_singleton.1 h)

theorem Holds.get (h : c.Holds genuine) (now : Number) (language : Key) (space : Option Key) :
    (c.get now language space).1.Holds genuine ∧
      ∀ b, (c.get now language space).2 = some b → genuine (cacheKey language space) b := by
  unfold BundleCache.get
  simp only
  split
  · exact ⟨h, fun b hb => nomatch hb⟩
  · rename_i e he
    have hgenuine : genuine (cacheKey language space) e.bundle := h _ (Entries.mem_of_get? he)
    split
    · refine ⟨?_, ?_⟩
      · intro d hd
        rcases mem_touch hd with rfl | hd
        · exact hgenuine
        · exact h d hd
      · intro b hb
        cases hb
        exact hgenuine
    · exact ⟨fun d hd => h d (List.mem_filter.1 hd).1, fun b hb => nomatch hb⟩

theorem Holds.set (h : c.Holds genuine) (now : Number) {language : Key} {space : Option Key}
    {b : Bundle} (hb : genuine (cacheKey language space) b) :
    (c.set now language space b).cache.Holds genuine := by
  unfold BundleCache.set
  simp only
  split
  · exact fun e he => h e ((c.makeRoom_sublist _).subset he)
  · intro e he
    rcases mem_touch he with rfl | he
    · exact hb
    · exact h e ((c.makeRoom_sublist _).subset he)

theorem holds_clear (c : BundleCache) : c.clear.Holds genuine := fun _ he => nomatch he

end BundleCache

/-! ## Requests -/

/-- Whether there are none but genuine bundles for a language and a namespace: given ones, or else
those of the sources. -/
structure Supply.Answers (outside : Outside σ) (genuine : Key → Bundle → Prop) (s : Supply)
    (language : Key) (space : Option Key) : Prop where
  given : ∀ b, s.given? language space = some b → genuine (cacheKey language space) b
  fetched : s.given? language space = none →
    (Fetch.start s.retry s.sources language space).Answers outside genuine

namespace Loader

variable {l : Loader} {s : Supply} {language : Key} {space : Option Key} {now : Number}

/-- Whether a loader keeps nothing but genuine bundles, fetches nothing else, and knows its
fetches by their keys. -/
structure IsSound (outside : Outside σ) (genuine : Key → Bundle → Prop) (l : Loader) : Prop where
  cached : l.cache.Holds genuine
  fetching : ∀ t ∈ l.tasks, t.2.Answers outside genuine
  keyed : ∀ key task f, (key, task) ∈ l.pending → (task, f) ∈ l.tasks →
    cacheKey f.language f.space = key
  tasksBelow : ∀ t ∈ l.tasks, t.1 < l.nextTask
  pendingBelow : ∀ e ∈ l.pending, e.2 < l.nextTask

theorem isSound_create (cache : BundleCache) (languages : List Value)
    (h : cache.Holds genuine) : (create cache languages).IsSound outside genuine where
  cached := h
  fetching := fun _ ht => nomatch ht
  keyed := fun _ _ _ he => nomatch he
  tasksBelow := fun _ ht => nomatch ht
  pendingBelow := fun _ he => nomatch he

theorem mem_of_pendingFetch? {key : Key} {task : Nat} {f : Fetch}
    (h : l.pendingFetch? key = some (task, f)) : (key, task) ∈ l.pending ∧ (task, f) ∈ l.tasks := by
  obtain ⟨task', htask, h⟩ := Option.bind_eq_some_iff.1 h
  obtain ⟨f', hf, h⟩ := Option.map_eq_some_iff.1 h
  cases h
  obtain ⟨t, ht, rfl⟩ := Option.map_eq_some_iff.1 hf
  obtain ⟨hmem, hnumber⟩ := And.intro (List.mem_of_find?_eq_some ht) (List.find?_some ht)
  have hfirst : t.1 = task := by simpa using hnumber
  exact ⟨Entries.mem_of_get? htask, hfirst ▸ hmem⟩

/-- Joining yields a fetch of the key that is asked for. -/
theorem IsSound.join (h : l.IsSound outside genuine)
    (hf : (Fetch.start s.retry s.sources language space).Answers outside genuine) :
    (l.join s language space).1.IsSound outside genuine ∧
      (l.join s language space).2 ∈ (l.join s language space).1.tasks ∧
      cacheKey (l.join s language space).2.2.language (l.join s language space).2.2.space =
        cacheKey language space := by
  unfold Loader.join
  simp only
  split
  · rename_i task f hpending
    obtain ⟨hkey, htask⟩ := mem_of_pendingFetch? hpending
    exact ⟨h, htask, h.keyed _ _ _ hkey htask⟩
  · refine ⟨?_, List.mem_append_right _ (List.mem_singleton.2 rfl), rfl⟩
    constructor
    · exact h.cached
    · intro t ht
      rcases List.mem_append.1 ht with ht | ht
      · exact h.fetching t ht
      · rw [List.mem_singleton.1 ht]
        exact hf
    · intro key task f he ht
      rcases List.mem_append.1 ht with ht | ht
      · rcases Entries.mem_put he with he | he
        · have hbelow := h.tasksBelow _ ht
          cases he
          exact absurd hbelow (Nat.lt_irrefl _)
        · exact h.keyed key task f he ht
      · obtain ⟨rfl, rfl⟩ := Prod.ext_iff.1 (List.mem_singleton.1 ht)
        rcases Entries.mem_put he with he | he
        · cases he
          rfl
        · exact absurd (h.pendingBelow _ he) (Nat.lt_irrefl _)
    · intro t ht
      rcases List.mem_append.1 ht with ht | ht
      · exact Nat.lt_succ_of_lt (h.tasksBelow t ht)
      · rw [List.mem_singleton.1 ht]
        exact Nat.lt_succ_self _
    · intro e he
      rcases Entries.mem_put he with rfl | he
      · exact Nat.lt_succ_self _
      · exact Nat.lt_succ_of_lt (h.pendingBelow e he)

theorem IsSound.withCache (h : l.IsSound outside genuine) {cache : BundleCache}
    (hcache : cache.Holds genuine) : { l with cache := cache }.IsSound outside genuine :=
  { h with cached := hcache }

/-- What is answered at once is genuine, and what is waited for is a fetch of the key. -/
theorem IsSound.request (h : l.IsSound outside genuine)
    (ha : s.Answers outside genuine language space) (now : Number) :
    (l.request s now language space).1.IsSound outside genuine ∧
      match (l.request s now language space).2 with
      | .ready b => genuine (cacheKey language space) b
      | .waits task f =>
          (task, f) ∈ (l.request s now language space).1.tasks ∧
            cacheKey f.language f.space = cacheKey language space := by
  obtain ⟨hcache, hfound⟩ := h.cached.get now language space
  unfold Loader.request
  simp only
  split
  · rename_i b hb
    exact ⟨h.withCache hcache, hfound b hb⟩
  · split
    · rename_i b hb
      have hgenuine := ha.given b hb
      have hspace : space = none := by
        cases space with
        | none => rfl
        | some k => cases hb
      subst hspace
      exact ⟨h.withCache (hcache.set now hgenuine), hgenuine⟩
    · rename_i hnone
      exact (h.withCache hcache).join (ha.fetched hnone)

theorem mem_tasks_request {t : Nat × Fetch}
    (h : t ∈ (l.request s now language space).1.tasks) :
    t ∈ l.tasks ∨ t.1 = l.nextTask ∧ cacheKey t.2.language t.2.space = cacheKey language space := by
  unfold Loader.request at h
  simp only at h
  split at h
  · exact .inl h
  · split at h
    · exact .inl h
    · unfold Loader.join at h
      simp only at h
      split at h
      · exact .inl h
      · rcases List.mem_append.1 h with h | h
        · exact .inl h
        · rw [List.mem_singleton.1 h]
          exact .inr ⟨rfl, rfl⟩

theorem nextTask_le_request (l : Loader) (s : Supply) (now : Number) (language : Key)
    (space : Option Key) : l.nextTask ≤ (l.request s now language space).1.nextTask := by
  unfold Loader.request
  simp only
  split
  · exact Nat.le_refl _
  · split
    · exact Nat.le_refl _
    · unfold Loader.join
      simp only
      split
      · exact Nat.le_refl _
      · exact Nat.le_succ _

/-! ## Steps of fetches -/

/-- A loader stays sound when a fetch of it has gone on. -/
theorem IsSound.goesOn (h : l.IsSound outside genuine) {index task : Nat} {f g : Fetch}
    (hf : (task, f) ∈ l.tasks) (hg : g.Answers outside genuine)
    (hkey : cacheKey g.language g.space = cacheKey f.language f.space) :
    { l with tasks := l.tasks.set index (task, g) }.IsSound outside genuine where
  cached := h.cached
  fetching := by
    intro t ht
    rcases List.mem_or_eq_of_mem_set ht with ht | rfl
    · exact h.fetching t ht
    · exact hg
  keyed := by
    intro key task' f' he ht
    rcases List.mem_or_eq_of_mem_set ht with ht | heq
    · exact h.keyed key task' f' he ht
    · cases heq
      rw [hkey]
      exact h.keyed key task f he hf
  tasksBelow := by
    intro t ht
    rcases List.mem_or_eq_of_mem_set ht with ht | rfl
    · exact h.tasksBelow t ht
    · exact h.tasksBelow (task, f) hf
  pendingBelow := h.pendingBelow

/-! ## Ends of fetches -/

theorem IsSound.drop (h : l.IsSound outside genuine) (task : Nat) (f : Fetch) :
    (l.drop task f).IsSound outside genuine where
  cached := h.cached
  fetching := fun t ht => h.fetching t (List.mem_filter.1 ht).1
  keyed := fun key task f he ht =>
    h.keyed key task f (List.mem_filter.1 he).1 (List.mem_filter.1 ht).1
  tasksBelow := fun t ht => h.tasksBelow t (List.mem_filter.1 ht).1
  pendingBelow := fun e he => h.pendingBelow e (List.mem_filter.1 he).1

theorem IsSound.settle (h : l.IsSound outside genuine) (now : Number) (task : Nat) {f : Fetch}
    {result : Except LoadFault (Source × Loaded)}
    (hresult : ∀ source loaded, result = .ok (source, loaded) →
      genuine (cacheKey f.language f.space) loaded.bundle) :
    (l.settle now task f result).1.IsSound outside genuine := by
  unfold Loader.settle
  split
  · exact h.drop task f
  · rename_i source loaded
    have hcache := h.cached.set now (hresult source loaded rfl)
    exact { h with cached := hcache : IsSound outside genuine { l with
      languages := _, cache := _ } }.drop task f

theorem tasks_settle_subset (l : Loader) (now : Number) (task : Nat) (f : Fetch)
    (result : Except LoadFault (Source × Loaded)) :
    (l.settle now task f result).1.tasks ⊆ l.tasks := by
  unfold Loader.settle
  split <;> exact fun t ht => (List.mem_filter.1 ht).1

theorem nextTask_settle (l : Loader) (now : Number) (task : Nat) (f : Fetch)
    (result : Except LoadFault (Source × Loaded)) :
    (l.settle now task f result).1.nextTask = l.nextTask := by
  unfold Loader.settle
  split <;> rfl

/-- A load yields a genuine bundle or fails, and leaves the loader sound. -/
theorem IsSound.load (h : l.IsSound outside genuine)
    (ha : s.Answers outside genuine language space) (world : σ) :
    (l.load outside s language space world).loader.IsSound outside genuine ∧
      ∀ b, (l.load outside s language space world).result = .ok b →
        genuine (cacheKey language space) b := by
  have hrequest := h.request ha (outside.now world).2
  unfold Loader.load
  simp only
  split
  · rename_i l' b hready
    rw [hready] at hrequest
    refine ⟨hrequest.1, ?_⟩
    intro b' hb
    cases hb
    exact hrequest.2
  · rename_i l' task f hwaits
    rw [hwaits] at hrequest
    obtain ⟨hsound, hmem, hkey⟩ := hrequest
    have hrun : ∀ source loaded,
        (f.run outside s.retry (outside.now world).1).result = .ok (source, loaded) →
          genuine (cacheKey f.language f.space) loaded.bundle :=
      fun source loaded hok => (hsound.fetching _ hmem).run hok
    refine ⟨hsound.settle _ task hrun, ?_⟩
    intro b hb
    obtain ⟨⟨source, loaded⟩, hok, rfl⟩ := Outcome.map_eq_ok_iff.1 hb
    rw [← hkey]
    exact hrun source loaded hok

/-- What is given with the program can always be loaded. -/
theorem exists_load_of_given {b : Bundle} (hb : s.given? language space = some b) (world : σ) :
    ∃ b', (l.load outside s language space world).result = .ok b' := by
  unfold Loader.load Loader.request
  simp only [hb]
  split
  · exact ⟨_, rfl⟩
  · rename_i hwaits
    split at hwaits <;> cases hwaits

/-! ## Idle loaders -/

/-- Whether a loader fetches nothing. -/
structure IsIdle (l : Loader) : Prop where
  pending : l.pending = []
  tasks : l.tasks = []

/-- Idle loaders differ in what they keep and in the number of the next fetch only. -/
theorem IsIdle.eq_of_isIdle {l l' : Loader} (h : l.IsIdle) (h' : l'.IsIdle) :
    l' =
      { l with cache := l'.cache, languages := l'.languages, nextTask := l'.nextTask } := by
  obtain ⟨hpending, htasks⟩ := h
  obtain ⟨hpending', htasks'⟩ := h'
  cases l
  cases l'
  simp_all

/-- Whether a loader fetches one bundle and nothing else. -/
structure IsFetching (l : Loader) (task : Nat) (f : Fetch) : Prop where
  pending : l.pending = [(cacheKey f.language f.space, task)]
  tasks : l.tasks = [(task, f)]

theorem IsIdle.withCache (h : l.IsIdle) (cache : BundleCache) :
    { l with cache := cache : Loader }.IsIdle :=
  ⟨h.pending, h.tasks⟩

theorem IsIdle.join (h : l.IsIdle) (s : Supply) (language : Key) (space : Option Key) :
    (l.join s language space).1.IsFetching (l.join s language space).2.1
      (l.join s language space).2.2 := by
  have hnone : l.pendingFetch? (cacheKey language space) = none := by
    rw [pendingFetch?, h.pending]
    rfl
  simp only [Loader.join, hnone, h.pending, h.tasks]
  exact ⟨rfl, rfl⟩

theorem IsFetching.drop {task : Nat} {f : Fetch} (h : l.IsFetching task f) :
    (l.drop task f).IsIdle := by
  constructor
  · simp [Loader.drop, h.pending, Entries.erase]
  · simp [Loader.drop, h.tasks]

theorem IsFetching.settle {task : Nat} {f : Fetch} (h : l.IsFetching task f) (now : Number)
    (result : Except LoadFault (Source × Loaded)) : (l.settle now task f result).1.IsIdle := by
  cases result with
  | error fault => exact h.drop
  | ok won =>
    have hdropped := h.drop
    exact ⟨hdropped.pending, hdropped.tasks⟩

/-- A load that nothing else goes on beside is over when it returns. -/
theorem IsIdle.load (h : l.IsIdle) (outside : Outside σ) (s : Supply) (language : Key)
    (space : Option Key) (world : σ) : (l.load outside s language space world).loader.IsIdle := by
  have hcached := h.withCache (l.cache.get (outside.now world).2 language space).1
  have hjoined := hcached.join s language space
  unfold Loader.load Loader.request
  simp only
  split
  · rename_i hready
    split at hready
    · cases hready
      exact hcached
    · split at hready <;> cases hready
      exact hcached.withCache _
  · rename_i hwaits
    split at hwaits
    · cases hwaits
    · split at hwaits <;> cases hwaits
      exact hjoined.settle _ _

theorem languages_settle (l : Loader) (now : Number) (task : Nat) (f : Fetch)
    (result : Except LoadFault (Source × Loaded)) :
    (l.settle now task f result).1.languages = l.languages ∨
      ∃ source loaded, result = .ok (source, loaded) ∧ loaded.languages.getD [] ≠ [] ∧
        (l.settle now task f result).1.languages = (loaded.languages.getD []).map .text := by
  match result with
  | .error fault => exact .inl rfl
  | .ok (source, loaded) =>
    simp only [Loader.settle, Loader.drop]
    split
    · exact .inl rfl
    · rename_i htold
      exact .inr ⟨source, loaded, rfl, fun hnil => htold (List.isEmpty_iff.2 hnil), rfl⟩

/-- The languages that are known stay as they are with such a load, or some source has told them. -/
theorem IsIdle.load_languages (h : l.IsIdle) (s : Supply) (language : Key) (space : Option Key)
    (world : σ) :
    (l.load outside s language space world).loader.languages = l.languages ∨
      ∃ source ∈ s.sources, ∃ world' loaded,
        (source.fetch outside language space world').2 = .ok loaded ∧
          loaded.languages.getD [] ≠ [] ∧
            (l.load outside s language space world).loader.languages =
              (loaded.languages.getD []).map .text := by
  have hnone : ∀ cache key, { l with cache := cache : Loader }.pendingFetch? key = none := by
    intro cache key
    rw [pendingFetch?, h.pending]
    rfl
  unfold Loader.load Loader.request Loader.join
  simp only [hnone]
  split
  · rename_i hready
    split at hready
    · cases hready
      exact .inl rfl
    · split at hready <;> cases hready
      exact .inl rfl
  · rename_i hwaits
    split at hwaits
    · cases hwaits
    · split at hwaits <;> cases hwaits
      rcases languages_settle _ _ _ _ _ with hkept | ⟨source, loaded, hrun, hne, htold⟩
      · exact .inl hkept
      · obtain ⟨hsource, world', hfetch⟩ := Fetch.run_won hrun
        exact .inr ⟨source, hsource, world', loaded, hfetch, hne, htold⟩

end Loader
end Polyglot
