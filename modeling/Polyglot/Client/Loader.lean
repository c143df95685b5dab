import Polyglot.Client.Fetch

/-!
# Loader

A loader finds bundles: in its cache, in the data given with the program, or by a fetch. Loads
of the same key share one fetch, which its callers join; it goes on even when they give up.
When a fetch ends, its key is free for another one.
-/
namespace Polyglot

/-- Where the bundles of a loader come from. -/
structure Supply where
  /-- the data given with the program -/
  data : Option Bundle
  defaultLanguage : String
  sources : List Source
  retry : RetryPolicy

/-- The bundle of a language that is given with the program; there is none for a namespace. -/
def Supply.given? (s : Supply) (language : Key) (space : Option Key) : Option Bundle :=
  match space with
  | none => Bundle.select s.data language s.defaultLanguage
  | some _ => none

/-- A loader. `pending` maps keys to the numbers of their fetches, and `tasks` holds the fetches
in the order in which they take turns. -/
structure Loader where
  cache : BundleCache
  /-- the languages there are, as far as they were told -/
  languages : List Value
  pending : List (Key × Nat)
  tasks : List (Nat × Fetch)
  nextTask : Nat

/-- The answer to a request for a bundle. -/
inductive Reply
  | ready (bundle : Bundle)
  /-- the bundle comes from a task -/
  | waits (task : Nat) (fetch : Fetch)

namespace Loader

def create (cache : BundleCache) (languages : List Value) : Loader := ⟨cache, languages, [], [], 0⟩

/-! ## Requests -/

def fetch? (l : Loader) (task : Nat) : Option Fetch :=
  (l.tasks.find? fun t => t.1 == task).map (·.2)

def pendingFetch? (l : Loader) (key : Key) : Option (Nat × Fetch) :=
  (Entries.get? l.pending key).bind fun task => (l.fetch? task).map fun f => (task, f)

/-- Joins the fetch of a key, which starts when there is none. -/
def join (l : Loader) (s : Supply) (language : Key) (space : Option Key) :
    Loader × Nat × Fetch :=
  let key := cacheKey language space
  match l.pendingFetch? key with
  | some (task, f) => (l, task, f)
  | none =>
      let f := Fetch.start s.retry s.sources language space
      ({ l with
          pending := Entries.put l.pending key l.nextTask
          tasks := l.tasks ++ [(l.nextTask, f)]
          nextTask := l.nextTask + 1 },
        l.nextTask, f)

/-- Requests a bundle: the cache comes first, then the given data, then a fetch. -/
def request (l : Loader) (s : Supply) (now : Number) (language : Key) (space : Option Key) :
    Loader × Reply :=
  let (cache, found) := l.cache.get now language space
  let l := { l with cache := cache }
  match found with
  | some b => (l, .ready b)
  | none =>
      match s.given? language space with
      | some b => ({ l with cache := (l.cache.set now language none b).cache }, .ready b)
      | none =>
          let (l, task, f) := l.join s language space
          (l, .waits task f)

/-! ## Ends of fetches -/

def drop (l : Loader) (task : Nat) (f : Fetch) : Loader :=
  { l with
    pending := Entries.erase l.pending (cacheKey f.language f.space)
    tasks := l.tasks.filter fun t => t.1 != task }

/-- Ends a task. A bundle that was found is cached, and languages that came with it replace the
known ones. -/
def settle (l : Loader) (now : Number) (task : Nat) (f : Fetch)
    (result : Except LoadFault (Source × Loaded)) : Loader × List Event :=
  match result with
  | .error _ => (l.drop task f, [])
  | .ok (source, loaded) =>
      let told := loaded.languages.getD []
      let l :=
        { l with
          languages := if told.isEmpty then l.languages else told.map .text
          cache := (l.cache.set now f.language f.space loaded.bundle).cache }
      (l.drop task f, [.bundleLoaded source.name f.language f.space])

/-! ## Single loads -/

/-- What a load yields. -/
structure Load (σ : Type) where
  world : σ
  loader : Loader
  events : List Event
  result : Except LoadFault Bundle

/-- Loads a bundle while nothing else goes on. -/
def load {σ : Type} (outside : Outside σ) (s : Supply) (l : Loader) (language : Key)
    (space : Option Key) (world : σ) : Load σ :=
  let (world, now) := outside.now world
  match l.request s now language space with
  | (l, .ready b) => ⟨world, l, [], .ok b⟩
  | (l, .waits task f) =>
      let o := f.run outside s.retry world
      let (world, now) := outside.now o.world
      let (l, events) := l.settle now task f o.result
      ⟨world, l, o.events ++ events, o.result.map fun r => r.2.bundle⟩

/-! ## Loads side by side -/

/-- What a run of all tasks yields: the result of each one. -/
structure Drained (σ : Type) where
  world : σ
  loader : Loader
  events : List Event
  results : List (Nat × Except LoadFault Bundle)

/-- How many steps some tasks can still take, at most, and one more for each. -/
def rankOf (p : RetryPolicy) : List (Nat × Fetch) → Nat
  | [] => 0
  | t :: ts => t.2.rank p + 1 + rankOf p ts

/-- How many steps the tasks of a loader can still take, at most, and one more for each. -/
def rank (p : RetryPolicy) (l : Loader) : Nat := rankOf p l.tasks

theorem rankOf_append (p : RetryPolicy) (ts us : List (Nat × Fetch)) :
    rankOf p (ts ++ us) = rankOf p ts + rankOf p us := by
  induction ts with
  | nil => simp [rankOf]
  | cons t ts ih => simp only [List.cons_append, rankOf, ih]; omega

theorem rankOf_filter_le (p : RetryPolicy) (keep : Nat × Fetch → Bool) (ts : List (Nat × Fetch)) :
    rankOf p (ts.filter keep) ≤ rankOf p ts := by
  induction ts with
  | nil => exact Nat.le_refl _
  | cons t ts ih =>
    simp only [List.filter_cons]
    split <;> simp only [rankOf] <;> omega

theorem rank_drop_lt {p : RetryPolicy} {l : Loader} {task : Nat} {f : Fetch}
    {rest : List (Nat × Fetch)} (h : l.tasks = (task, f) :: rest) :
    (l.drop task f).rank p < l.rank p := by
  have hle := rankOf_filter_le p (fun t => t.1 != task) rest
  simp only [rank, drop, h, List.filter_cons, bne_self_eq_false, Bool.false_eq_true, if_false,
    rankOf]
  omega

theorem rank_settle_lt {p : RetryPolicy} {l : Loader} {now : Number} {task : Nat} {f : Fetch}
    {rest : List (Nat × Fetch)} {result : Except LoadFault (Source × Loaded)}
    (h : l.tasks = (task, f) :: rest) : (l.settle now task f result).1.rank p < l.rank p := by
  have hd : (l.drop task f).rank p < l.rank p := rank_drop_lt h
  cases result <;> exact hd

theorem rank_goesOn_lt {p : RetryPolicy} {l : Loader} {task : Nat} {f g : Fetch}
    {rest : List (Nat × Fetch)} (h : l.tasks = (task, f) :: rest) (hg : g.rank p < f.rank p) :
    { l with tasks := rest ++ [(task, g)] : Loader }.rank p < l.rank p := by
  simp only [rank, h, rankOf_append, rankOf]
  omega

/-- Runs all tasks to their ends. They take turns, the first one a step and then its place
behind the others. -/
def drain {σ : Type} (outside : Outside σ) (p : RetryPolicy) (l : Loader) (world : σ) : Drained σ :=
  match h : l.tasks with
  | [] => ⟨world, l, [], []⟩
  | (task, f) :: rest =>
      let t := f.turn outside p world
      match ht : t.step with
      | .goesOn g =>
          have : { l with tasks := rest ++ [(task, g)] : Loader }.rank p < l.rank p :=
            rank_goesOn_lt h (Fetch.rank_turn_lt ht)
          let o := drain outside p { l with tasks := rest ++ [(task, g)] } t.world
          { o with events := t.events ++ o.events }
      | .won source loaded =>
          let (world, now) := outside.now t.world
          let settled := l.settle now task f (.ok (source, loaded))
          have : settled.1.rank p < l.rank p := rank_settle_lt h
          let o := drain outside p settled.1 world
          { o with
            events := t.events ++ settled.2 ++ o.events
            results := (task, .ok loaded.bundle) :: o.results }
      | .lost fault =>
          have : (l.drop task f).rank p < l.rank p := rank_drop_lt h
          let o := drain outside p (l.drop task f) t.world
          { o with
            events := t.events ++ o.events
            results := (task, .error fault) :: o.results }
termination_by l.rank p

/-- Requests bundles one after the other. -/
def requestAll {σ : Type} (outside : Outside σ) (s : Supply) (l : Loader) (world : σ) :
    List (Key × Option Key) → σ × Loader × List Reply
  | [] => (world, l, [])
  | (language, space) :: rest =>
      let (world, now) := outside.now world
      let (l, reply) := l.request s now language space
      let (world, l, replies) := requestAll outside s l world rest
      (world, l, reply :: replies)

/-- What a caller gets of loads side by side. -/
structure Shared where
  /-- the task that it joined, if any -/
  task : Option Nat
  result : Except LoadFault Bundle

/-- What a caller gets, given the results of the tasks. -/
def deliver (results : List (Nat × Except LoadFault Bundle)) : Reply → Shared
  | .ready b => ⟨none, .ok b⟩
  | .waits task f =>
      ⟨some task, ((results.find? fun r => r.1 == task).map (·.2)).getD (.error f.fault)⟩

/-- The place of the first caller that got its bundle from the same task as the one at `index`;
a bundle of no task is the caller's own. -/
def Shared.first (s : Shared) (shares : List Shared) (index : Nat) : Nat :=
  match s.task with
  | none => index
  | some task => (shares.findIdx? fun t => t.task == some task).getD index

/-- What loads side by side yield. -/
structure LoadAll (σ : Type) where
  world : σ
  loader : Loader
  events : List Event
  shares : List Shared

/-- Loads bundles side by side. -/
def loadAll {σ : Type} (outside : Outside σ) (s : Supply) (l : Loader)
    (wanted : List (Key × Option Key)) (world : σ) : LoadAll σ :=
  let (world, l, replies) := l.requestAll outside s world wanted
  let o := l.drain outside s.retry world
  ⟨o.world, o.loader, o.events, replies.map (deliver o.results)⟩

end Loader
end Polyglot
