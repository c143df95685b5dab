import Polyglot.Proofs.Client.Content
import Polyglot.Proofs.Retry

/-!
# The chain of sources

A fetch asks its sources one after the other. It gives a source up before it asks the next one, and
the first source that answers with a bundle is the last one to be asked. The calls that a run makes
tell which sources were given up, after which failures, and why.
-/
namespace Polyglot

def SourceCall.failed (s : Source) (failures : List Failure) : List SourceCall :=
  failures.map fun f => ⟨s, .error f⟩

/-- A source that a fetch gave up, with its failures and the reason. -/
structure Loss where
  source : Source
  failures : List Failure
  reason : String

namespace Loss

def calls (x : Loss) : List SourceCall := SourceCall.failed x.source x.failures

def report (x : Loss) : String := Fetch.report x.source x.reason

end Loss

variable {σ : Type} {outside : Outside σ}

namespace Fetch

/-! ## Calls of a run -/

/-- Whether a run makes some calls and goes on as another one then. -/
structure Finished.Continues (o : Finished σ) (calls : List SourceCall) (rest : Finished σ) :
    Prop where
  calls : o.calls = calls ++ rest.calls
  result : o.result = rest.result

theorem Finished.Continues.trans {o₁ o₂ o₃ : Finished σ} {first second : List SourceCall}
    (h : o₁.Continues first o₂) (h' : o₂.Continues second o₃) :
    o₁.Continues (first ++ second) o₃ where
  calls := by rw [h.calls, h'.calls, List.append_assoc]
  result := h.result.trans h'.result

/-- Whether a run makes some calls and has a bundle with the last one of them. -/
structure Finished.Ends (o : Finished σ) (calls : List SourceCall) (source : Source)
    (loaded : Loaded) : Prop where
  calls : o.calls = calls ++ [⟨source, .ok loaded⟩]
  result : o.result = .ok (source, loaded)

theorem Finished.Continues.ends {o o' : Finished σ} {first second : List SourceCall}
    {source : Source} {loaded : Loaded} (h : o.Continues first o')
    (h' : o'.Ends second source loaded) : o.Ends (first ++ second) source loaded where
  calls := by rw [h.calls, h'.calls, List.append_assoc]
  result := h.result.trans h'.result

variable {p : RetryPolicy} {f g : Fetch} {s : Source} {rest : List Source} {world world' : σ}

/-! ## Runs by their turns -/

theorem run_of_goesOn (h : (f.turn outside p world).step = .goesOn g) :
    (f.run outside p world).Continues (f.turn outside p world).call.toList
      (g.run outside p (f.turn outside p world).world) := by
  fun_cases Fetch.run outside p f world with
  | case1 t g' hstep hlt o =>
    obtain rfl : g' = g := FetchStep.goesOn.inj (hstep.symm.trans h)
    exact ⟨rfl, rfl⟩
  | case2 t s loaded hstep => cases hstep.symm.trans h
  | case3 t fault hstep => cases hstep.symm.trans h

theorem run_of_won {loaded : Loaded} (h : (f.turn outside p world).step = .won s loaded) :
    (f.run outside p world).calls = (f.turn outside p world).call.toList ∧
      (f.run outside p world).result = .ok (s, loaded) := by
  fun_cases Fetch.run outside p f world with
  | case1 t g hstep hlt o => cases hstep.symm.trans h
  | case2 t s' loaded' hstep =>
    cases hstep.symm.trans h
    exact ⟨rfl, rfl⟩
  | case3 t fault hstep => cases hstep.symm.trans h

theorem run_of_lost {fault : LoadFault} (h : (f.turn outside p world).step = .lost fault) :
    (f.run outside p world).calls = (f.turn outside p world).call.toList ∧
      (f.run outside p world).result = .error fault := by
  fun_cases Fetch.run outside p f world with
  | case1 t g hstep hlt o => cases hstep.symm.trans h
  | case2 t s loaded hstep => cases hstep.symm.trans h
  | case3 t fault' hstep =>
    cases hstep.symm.trans h
    exact ⟨rfl, rfl⟩

/-- Without sources there is nothing to ask. -/
theorem run_nil (outside : Outside σ) (p : RetryPolicy) (hs : f.sources = []) (world : σ) :
    (f.run outside p world).calls = [] ∧ (f.run outside p world).result = .error f.fault := by
  have hturn : f.turn outside p world = ⟨world, [], none, .lost f.fault⟩ := by
    simp only [turn, hs]
  have hrun := run_of_lost (congrArg Turn.step hturn)
  rwa [hturn] at hrun

/-- After a pause a fetch goes on as it is. -/
theorem run_pausing (outside : Outside σ) (p : RetryPolicy) (hs : f.sources = s :: rest)
    (hp : f.isPausing = true) (world : σ) :
    (f.run outside p world).Continues [] ({ f with isPausing := false }.run outside p world) := by
  have hturn : f.turn outside p world =
      ⟨world, [], none, .goesOn { f with isPausing := false }⟩ := by
    simp only [turn, hs, hp, if_true]
  have hrun := run_of_goesOn (congrArg Turn.step hturn)
  rwa [hturn] at hrun

/-- A fetch that gives a source up goes on with the sources after it. -/
theorem run_giveUp {reason : String} {call : SourceCall}
    (h : f.turn outside p world = f.giveUp p s rest reason call world') :
    let next : Fetch :=
      { f with
        sources := rest
        reports := f.reports ++ [report s reason]
        left := p.attempts - 1
        attempt := 0 }
    (f.run outside p world).Continues [call] (next.run outside p world') := by
  intro next
  cases rest with
  | nil =>
    have hlost : (f.turn outside p world).step = .lost next.fault := congrArg Turn.step h
    have hrun := run_of_lost hlost
    obtain ⟨hcalls, hresult⟩ := run_nil outside p (show next.sources = [] from rfl) world'
    rw [h] at hrun
    exact ⟨by rw [hrun.1, hcalls]; rfl, hrun.2.trans hresult.symm⟩
  | cons s' rest =>
    have hgoesOn : (f.turn outside p world).step = .goesOn next := congrArg Turn.step h
    have hrun := run_of_goesOn hgoesOn
    rwa [h] at hrun

section Turn

variable (hs : f.sources = s :: rest) (hp : f.isPausing = false) (hd : p.defect? = none)
include hs hp hd

theorem turn_of_ok {loaded : Loaded}
    (h : s.fetch outside f.language f.space world = (world', .ok loaded)) :
    f.turn outside p world = ⟨world', [], some ⟨s, .ok loaded⟩, .won s loaded⟩ := by
  simp only [turn, hs, hp, hd, h, Bool.false_eq_true, if_false]

theorem turn_of_again {failure : Failure} {pause : Binary64}
    (h : s.fetch outside f.language f.space world = (world', .error failure))
    (hdecide : p.decide f.left f.attempt (outside.draw world').2 failure = .again pause) :
    f.turn outside p world =
      ⟨outside.pause (outside.draw world').1 pause,
        [RetryPolicy.pauseEvent f.attempt pause failure], some ⟨s, .error failure⟩,
        .goesOn { f with left := f.left - 1, attempt := f.attempt + 1, isPausing := true }⟩ := by
  simp only [turn, hs, hp, hd, h, hdecide, Bool.false_eq_true, if_false]

theorem turn_of_stop {failure : Failure} {fault : RetryFault}
    (h : s.fetch outside f.language f.space world = (world', .error failure))
    (hdecide : p.decide f.left f.attempt (outside.draw world').2 failure = .stop fault) :
    f.turn outside p world =
      f.giveUp p s rest fault.failure.reason (some ⟨s, .error failure⟩) world' := by
  simp only [turn, hs, hp, hd, h, hdecide, Bool.false_eq_true, if_false]

end Turn

/-! ## One source -/

section Attempts

variable {n : Nat} (hattempts : p.attempts? = some n)
include hattempts

theorem attempts_eq : p.attempts = n := by
  rw [RetryPolicy.attempts, hattempts, Option.getD_some]

theorem start_eq (sources : List Source) (language : Key) (space : Option Key) :
    start p sources language space = ⟨language, space, sources, [], n - 1, 0, false⟩ := by
  rw [start, attempts_eq hattempts]

theorem defect?_eq_none : p.defect? = none := by
  rw [RetryPolicy.defect?, hattempts]

/-- A fetch that asks its first source has the bundle, asks it again or gives it up. -/
theorem run_attempt {before : List Failure} (hbefore : ∀ g ∈ before, p.Retries g) {left : Nat}
    (hn : left + before.length + 1 = n) (hreach : before.length < p.reach) (language : Key)
    (space : Option Key) (s : Source) (rest : List Source) (reports : List String) (world : σ) :
    let f : Fetch := ⟨language, space, s :: rest, reports, left, before.length, false⟩
    (∃ loaded, (f.run outside p world).Ends [] s loaded) ∨
    (∃ failure world', p.Retries failure ∧ 0 < left ∧ before.length + 1 < p.reach ∧
      let again : Fetch :=
        ⟨language, space, s :: rest, reports, left - 1, before.length + 1, false⟩
      (f.run outside p world).Continues [⟨s, .error failure⟩] (again.run outside p world')) ∨
    ∃ failure reason world', p.GivesUp n (before ++ [failure]) reason ∧
      let next : Fetch :=
        ⟨language, space, rest, reports ++ [report s reason], n - 1, 0, false⟩
      (f.run outside p world).Continues [⟨s, .error failure⟩] (next.run outside p world') := by
  intro f
  have hs : f.sources = s :: rest := rfl
  have hp : f.isPausing = false := rfl
  have hd := defect?_eq_none hattempts
  let world₁ := (s.fetch outside language space world).1
  cases hanswer : (s.fetch outside language space world).2 with
  | ok loaded =>
    have hfetch : s.fetch outside language space world = (world₁, .ok loaded) :=
      Prod.ext rfl hanswer
    have hturn := turn_of_ok hs hp hd hfetch
    have hrun := run_of_won (congrArg Turn.step hturn)
    rw [hturn] at hrun
    exact .inl ⟨loaded, hrun.1, hrun.2⟩
  | error failure =>
    have hfetch : s.fetch outside language space world = (world₁, .error failure) :=
      Prod.ext rfl hanswer
    rcases p.decide_cases hbefore hn hreach (outside.draw world₁).2 failure with
      ⟨pause, hdecide, hretries, hleft, hnext⟩ | ⟨fault, hdecide, hgivesUp⟩
    · have hturn := turn_of_again hs hp hd hfetch hdecide
      have hrun := run_of_goesOn (congrArg Turn.step hturn)
      rw [hturn] at hrun
      have hpaused := run_pausing outside p
        (f := { f with left := left - 1, attempt := before.length + 1, isPausing := true }) hs rfl
        (outside.pause (outside.draw world₁).1 pause)
      exact .inr (.inl ⟨failure, _, hretries, hleft, hnext, hrun.trans hpaused⟩)
    · have hrun := run_giveUp (turn_of_stop hs hp hd hfetch hdecide)
      rw [attempts_eq hattempts] at hrun
      exact .inr (.inr ⟨failure, _, _, hgivesUp, hrun⟩)

/-- A fetch asks its first source until it has the bundle or gives the source up, and goes on with
the sources after it then. -/
theorem run_source {before : List Failure} (hbefore : ∀ g ∈ before, p.Retries g) {left : Nat}
    (hn : left + before.length + 1 = n) (hreach : before.length < p.reach) (language : Key)
    (space : Option Key) (s : Source) (rest : List Source) (reports : List String) (world : σ) :
    let f : Fetch := ⟨language, space, s :: rest, reports, left, before.length, false⟩
    (∃ failures loaded, (∀ g ∈ failures, p.Retries g) ∧
      before.length + failures.length < min n p.reach ∧
      (f.run outside p world).Ends (SourceCall.failed s failures) s loaded) ∨
    ∃ failures reason world', p.GivesUp n (before ++ failures) reason ∧
      let next : Fetch :=
        ⟨language, space, rest, reports ++ [report s reason], n - 1, 0, false⟩
      (f.run outside p world).Continues (SourceCall.failed s failures)
        (next.run outside p world') := by
  induction left using Nat.strongRecOn generalizing before world with
  | ind left ih =>
  intro f
  rcases run_attempt hattempts hbefore hn hreach language space s rest reports world with
    ⟨loaded, hends⟩ | ⟨failure, world', hretries, hleft, hnext, hagain⟩ |
      ⟨failure, reason, world', hgivesUp, hgoesOn⟩
  · refine .inl ⟨[], loaded, List.forall_mem_nil _, ?_, hends⟩
    simp only [List.length_nil]
    omega
  · have hretried : ∀ g ∈ before ++ [failure], p.Retries g :=
      List.forall_mem_append.2 ⟨hbefore, List.forall_mem_singleton.2 hretries⟩
    have hlength : (before ++ [failure]).length = before.length + 1 := List.length_append
    have hmore := ih (left - 1) (by omega) hretried (by omega) (by omega) world'
    rw [hlength] at hmore
    rcases hmore with ⟨failures, loaded, hfailures, hearly, hends⟩ |
      ⟨failures, reason, world'', hgivesUp, hgoesOn⟩
    · refine .inl ⟨failure :: failures, loaded,
        List.forall_mem_cons.2 ⟨hretries, hfailures⟩, ?_, hagain.ends hends⟩
      rw [List.length_cons]
      omega
    · refine .inr ⟨failure :: failures, reason, world'', ?_, hagain.trans hgoesOn⟩
      rwa [List.append_cons]
  · exact .inr ⟨[failure], reason, world', hgivesUp, hgoesOn⟩

/-! ## All sources -/

/-- What a run does that finds a bundle: the sources before the one that has it are given up, and
those after it are not asked. -/
structure Finished.HasWon (o : Finished σ) (p : RetryPolicy) (n : Nat) (sources : List Source)
    (losses : List Loss) (source : Source) (failures : List Failure) (loaded : Loaded) : Prop where
  sources : ∃ after, sources = losses.map Loss.source ++ source :: after
  givenUp : ∀ x ∈ losses, p.GivesUp n x.failures x.reason
  retried : ∀ g ∈ failures, p.Retries g
  early : failures.length < min n p.reach
  calls : o.calls = losses.flatMap Loss.calls ++
    (SourceCall.failed source failures ++ [⟨source, .ok loaded⟩])
  result : o.result = .ok (source, loaded)

/-- What a run does that finds no bundle: all sources are given up, and reported after those that
were before. -/
structure Finished.HasLost (o : Finished σ) (p : RetryPolicy) (n : Nat) (f : Fetch)
    (losses : List Loss) : Prop where
  sources : losses.map Loss.source = f.sources
  givenUp : ∀ x ∈ losses, p.GivesUp n x.failures x.reason
  calls : o.calls = losses.flatMap Loss.calls
  result : o.result = .error ⟨f.language, f.space, f.reports ++ losses.map Loss.report⟩

namespace Finished

variable {o o' : Finished σ} {x : Loss} {losses : List Loss}

omit hattempts in
theorem HasWon.cons {sources : List Source} {source : Source} {failures : List Failure}
    {loaded : Loaded} (h : o'.HasWon p n sources losses source failures loaded)
    (hx : p.GivesUp n x.failures x.reason) (hgoesOn : o.Continues x.calls o') :
    o.HasWon p n (x.source :: sources) (x :: losses) source failures loaded := by
  obtain ⟨after, hafter⟩ := h.sources
  refine ⟨⟨after, ?_⟩, List.forall_mem_cons.2 ⟨hx, h.givenUp⟩, h.retried, h.early, ?_,
    hgoesOn.result.trans h.result⟩
  · rw [hafter]
    rfl
  · rw [hgoesOn.calls, h.calls, List.flatMap_cons, List.append_assoc]

omit hattempts in
theorem HasLost.cons {left attempt left' attempt' : Nat} {isPausing : Bool} {language : Key}
    {space : Option Key} {sources : List Source} {reports : List String}
    (h : o'.HasLost p n ⟨language, space, sources, reports ++ [x.report], left', attempt', false⟩
      losses)
    (hx : p.GivesUp n x.failures x.reason) (hgoesOn : o.Continues x.calls o') :
    o.HasLost p n ⟨language, space, x.source :: sources, reports, left, attempt, isPausing⟩
      (x :: losses) := by
  refine ⟨?_, List.forall_mem_cons.2 ⟨hx, h.givenUp⟩, ?_, ?_⟩
  · rw [List.map_cons, h.sources]
  · rw [hgoesOn.calls, h.calls, List.flatMap_cons]
  · rw [hgoesOn.result, h.result, List.map_cons, List.append_assoc]
    rfl

end Finished

/-- A run asks one source after the other until one of them has the bundle. -/
theorem run_sources (outside : Outside σ) (hpos : 0 < n) (language : Key) (space : Option Key)
    (sources : List Source) (reports : List String) (world : σ) :
    let f : Fetch := ⟨language, space, sources, reports, n - 1, 0, false⟩
    (∃ losses source failures loaded,
      (f.run outside p world).HasWon p n sources losses source failures loaded) ∨
    ∃ losses, (f.run outside p world).HasLost p n f losses := by
  induction sources generalizing reports world with
  | nil =>
    intro f
    obtain ⟨hcalls, hresult⟩ := run_nil outside p (show f.sources = [] from rfl) world
    refine .inr ⟨[], rfl, List.forall_mem_nil _, hcalls, ?_⟩
    rw [hresult, List.map_nil, List.append_nil]
    rfl
  | cons s rest ih =>
    intro f
    rcases run_source hattempts (List.forall_mem_nil _) (Nat.sub_add_cancel hpos) p.reach_pos
        language space s rest reports world with
      ⟨failures, loaded, hretried, hearly, hends⟩ | ⟨failures, reason, world', hgivesUp, hgoesOn⟩
    · refine .inl ⟨[], s, failures, loaded, ⟨rest, rfl⟩, List.forall_mem_nil _, hretried, ?_,
        hends.calls, hends.result⟩
      simpa using hearly
    · let x : Loss := ⟨s, failures, reason⟩
      rcases ih (reports ++ [report s reason]) world' with
        ⟨losses, source, more, loaded, hwon⟩ | ⟨losses, hlost⟩
      · exact .inl ⟨x :: losses, source, more, loaded, hwon.cons (x := x) hgivesUp hgoesOn⟩
      · exact .inr ⟨x :: losses, hlost.cons (x := x) hgivesUp hgoesOn⟩

end Attempts

/-! ## Calls -/

theorem turn_call {call : SourceCall} (h : (f.turn outside p world).call = some call) :
    call.source ∈ f.sources ∧
      (call.source.fetch outside f.language f.space world).2 = call.answer := by
  unfold turn at h
  split at h
  · cases h
  · rename_i s rest hs
    split at h
    · cases h
    · split at h
      · cases h
      · simp only at h
        have hmem : s ∈ f.sources := hs ▸ List.mem_cons_self
        split at h
        · cases h
          exact ⟨hmem, rfl⟩
        · split at h <;> cases h <;> exact ⟨hmem, rfl⟩

/-- Every call of a run has the answer that its source gave. -/
theorem answer_of_mem_calls {call : SourceCall} (h : call ∈ (f.run outside p world).calls) :
    call.source ∈ f.sources ∧
      ∃ world', (call.source.fetch outside f.language f.space world').2 = call.answer := by
  fun_induction Fetch.run outside p f world with
  | case1 f world t g hstep hlt o ih =>
    rcases List.mem_append.1 h with hcall | hrest
    · obtain ⟨hsource, hanswer⟩ := turn_call (Option.mem_toList.1 hcall)
      exact ⟨hsource, _, hanswer⟩
    · obtain ⟨hlanguage, hspace, hsources⟩ := turn_goesOn hstep
      obtain ⟨hsource, hanswer⟩ := ih hrest
      rw [hlanguage, hspace] at hanswer
      exact ⟨hsources hsource, hanswer⟩
  | case2 f world t s loaded hstep =>
    obtain ⟨hsource, hanswer⟩ := turn_call (Option.mem_toList.1 h)
    exact ⟨hsource, _, hanswer⟩
  | case3 f world t fault hstep =>
    obtain ⟨hsource, hanswer⟩ := turn_call (Option.mem_toList.1 h)
    exact ⟨hsource, _, hanswer⟩

/-- A run without a bundle has asked every source. -/
theorem Finished.HasLost.exists_failed {o : Finished σ} {n : Nat} {losses : List Loss}
    (h : o.HasLost p n f losses) (hs : s ∈ f.sources) :
    ∃ failure, ⟨s, .error failure⟩ ∈ o.calls := by
  rw [← h.sources] at hs
  obtain ⟨x, hx, rfl⟩ := List.mem_map.1 hs
  obtain ⟨failure, hfailure⟩ := List.exists_mem_of_ne_nil _ (h.givenUp x hx).ne_nil
  refine ⟨failure, ?_⟩
  rw [h.calls]
  exact List.mem_flatMap_of_mem hx (List.mem_map_of_mem hfailure)

/-- A source that always fails, and not for good, is asked as often as the limit of the policy or
its reach allows. -/
theorem run_of_failing {n : Nat} (hattempts : p.attempts? = some n) (hpos : 0 < n) {language : Key}
    {space : Option Key} {failure : Failure} (hretries : p.Retries failure)
    (hfails : ∀ world, (s.fetch outside language space world).2 = .error failure) (world : σ) :
    let o := (start p [s] language space).run outside p world
    o.calls = SourceCall.failed s (List.replicate (min n p.reach) failure) ∧
      o.result = .error ⟨language, space,
        [report s (if n ≤ p.reach then failure.text else p.pauseFault.reason)]⟩ := by
  intro o
  have hanswer : ∀ call ∈ o.calls, call.source = s ∧ call.answer = .error failure := by
    intro call hcall
    obtain ⟨hsource, world', hfetch⟩ := answer_of_mem_calls hcall
    obtain rfl := List.mem_singleton.1 hsource
    exact ⟨rfl, hfetch.symm.trans (hfails world')⟩
  have hcases := run_sources hattempts outside hpos language space [s] [] world
  rw [← start_eq hattempts] at hcases
  rcases hcases with ⟨losses, source, failures, loaded, hwon⟩ | ⟨losses, hlost⟩
  · have hmem : ⟨source, .ok loaded⟩ ∈ o.calls := by
      rw [show o.calls = _ from hwon.calls]
      simp
    cases (hanswer _ hmem).2
  · obtain ⟨x, rfl, hsource⟩ := List.map_eq_singleton_iff.1 hlost.sources
    have hcalls : o.calls = SourceCall.failed x.source x.failures :=
      hlost.calls.trans (List.flatMap_singleton Loss.calls x)
    have hfailures : ∀ g ∈ x.failures, g = failure := by
      intro g hg
      have hmem : ⟨x.source, .error g⟩ ∈ o.calls := hcalls ▸ List.mem_map_of_mem hg
      exact Except.error.inj (hanswer _ hmem).2
    have hreplicate : x.failures = List.replicate x.failures.length failure :=
      List.eq_replicate_iff.2 ⟨rfl, hfailures⟩
    obtain ⟨hlength, hreason⟩ :=
      (hlost.givenUp x List.mem_cons_self).of_forall_eq hretries hfailures
    rw [← hlength, ← hreason, hcalls, hsource, ← hreplicate]
    refine ⟨rfl, ?_⟩
    rw [show o.result = _ from hlost.result, List.map_singleton, Loss.report, hsource]
    rfl

end Fetch

def Failure.down : Failure := .plain .connection "Connection refused"

/-- A world with a source that has a bundle; all others are down. -/
def Outside.mirrored (loaded : Loaded) : Outside Unit :=
  { Outside.serving [] with
    ask := fun world name _ _ => (world, if name = "mirror" then .ok loaded else .error .down) }

/-- With a limit of 1026 attempts a source is asked 1025 times, and what is reported of it is not
what it answered. -/
theorem Fetch.exists_unspent_attempt :
    let p : RetryPolicy := .create (.int 1026) ⟨0⟩ ⟨0⟩
    let o := (start p [.custom "down"] (.text "en") none).run (.mirrored ⟨[], none⟩) p ()
    p.attempts? = some 1026 ∧ p.Retries .down ∧
      o.calls = SourceCall.failed (.custom "down") (List.replicate 1025 .down) ∧
      o.result = .error
        ⟨.text "en", none, ["down source: int too large to convert to float"]⟩ := by
  intro p o
  have hattempts : p.attempts? = some 1026 := rfl
  have hretries : p.Retries .down := by
    show Failure.isOneOf .down [.any] = true
    decide +kernel
  exact ⟨hattempts, hretries, run_of_failing hattempts (by decide) hretries (fun _ => rfl) ()⟩

/-! ## Loads -/

namespace Loader

/-- A load that starts a fetch brings the bundle of the first source that has it, and fails where
all sources are given up. Nothing but a success writes to the cache, once, or tells the languages;
the key is free afterwards. -/
theorem load_of_waits {l waiting : Loader} {s : Supply} {language : Key} {space : Option Key}
    {world : σ} {task n : Nat} (hattempts : s.retry.attempts? = some n) (hpos : 0 < n)
    (hwaits : l.request s (outside.now world).2 language space =
      (waiting, .waits task (.start s.retry s.sources language space))) :
    let f : Fetch := .start s.retry s.sources language space
    let o := f.run outside s.retry (outside.now world).1
    let r := l.load outside s language space world
    Entries.get? r.loader.pending (cacheKey language space) = none ∧
    (∀ call ∈ o.calls,
      ∃ world', (call.source.fetch outside language space world').2 = call.answer) ∧
    ((∃ losses source failures loaded,
        o.HasWon s.retry n s.sources losses source failures loaded ∧
        r.result = .ok loaded.bundle ∧
        r.loader.cache =
          (waiting.cache.set (outside.now o.world).2 language space loaded.bundle).cache ∧
        r.loader.languages =
          if (loaded.languages.getD []).isEmpty then waiting.languages
          else (loaded.languages.getD []).map .text) ∨
      ∃ losses fault, o.HasLost s.retry n f losses ∧
        r.result = .error fault ∧ fault.failure.kind = .loadFailed ∧
        Entries.get? fault.failure.context "stages" =
          (if s.sources.isEmpty then none
          else some (.list ((losses.map Loss.report).map .text))) ∧
        r.loader.cache = waiting.cache ∧ r.loader.languages = waiting.languages) := by
  intro f o r
  have hcases := Fetch.run_sources hattempts outside hpos language space s.sources []
    (outside.now world).1
  rw [← Fetch.start_eq hattempts] at hcases
  have hload : r = ⟨(outside.now o.world).1,
      (waiting.settle (outside.now o.world).2 task f o.result).1,
      o.events ++ (waiting.settle (outside.now o.world).2 task f o.result).2,
      o.result.map fun found => found.2.bundle⟩ := by
    simp only [r, Loader.load, hwaits, o, f]
  rw [hload]
  have hpending : Entries.get? (waiting.settle (outside.now o.world).2 task f o.result).1.pending
      (cacheKey language space) = none := by
    cases o.result <;> exact Entries.get?_erase_self _ _
  refine ⟨hpending, fun call hcall => (Fetch.answer_of_mem_calls hcall).2, ?_⟩
  rcases hcases with ⟨losses, source, failures, loaded, hwon⟩ | ⟨losses, hlost⟩
  · refine .inl ⟨losses, source, failures, loaded, hwon, ?_⟩
    rw [show o.result = .ok (source, loaded) from hwon.result]
    exact ⟨rfl, rfl, rfl⟩
  · refine .inr ⟨losses, ⟨language, space, losses.map Loss.report⟩, hlost, ?_⟩
    rw [show o.result = .error ⟨language, space, losses.map Loss.report⟩ from hlost.result]
    refine ⟨rfl, rfl, ?_, rfl, rfl⟩
    have hempty : s.sources.isEmpty = losses.isEmpty := by
      rw [← show losses.map Loss.source = s.sources from hlost.sources, List.isEmpty_map]
    rw [hempty]
    cases losses with
    | nil => rfl
    | cons x losses => rfl

/-- Two sources, the first of which is down. -/
def mirroredSupply : Supply :=
  ⟨none, "en", [.custom "down", .custom "mirror"], .create (.int 2) ⟨0⟩ ⟨0⟩⟩

theorem load_of_waits_mirrored :
    ((create .usual []).load (.mirrored ⟨[(.text "hello", .text "Hello")], none⟩) mirroredSupply
      (.text "en") none ()).result = .ok [(.text "hello", .text "Hello")] := by
  let outside : Outside Unit := .mirrored ⟨[(.text "hello", .text "Hello")], none⟩
  have hwaits : (create .usual []).request mirroredSupply (outside.now ()).2 (.text "en") none =
      (((create .usual []).request mirroredSupply (.int 0) (.text "en") none).1,
        .waits 0 (.start mirroredSupply.retry mirroredSupply.sources (.text "en") none)) := rfl
  obtain ⟨-, hanswers, hcases⟩ := load_of_waits (n := 2) rfl (by decide) hwaits
  rcases hcases with ⟨losses, source, failures, loaded, hwon, hresult, -⟩ |
    ⟨losses, fault, hlost, -⟩
  · obtain ⟨after, hafter⟩ := hwon.sources
    have hsource : source ∈ [Source.custom "down", .custom "mirror"] := by
      rw [show [Source.custom "down", .custom "mirror"] = _ from hafter]
      exact List.mem_append_right _ List.mem_cons_self
    obtain ⟨world', hanswer⟩ := hanswers ⟨source, .ok loaded⟩ (by rw [hwon.calls]; simp)
    rcases List.mem_cons.1 hsource with rfl | hsource
    · cases hanswer
    · obtain rfl := List.mem_singleton.1 hsource
      cases hanswer
      exact hresult
  · obtain ⟨failure, hmem⟩ := hlost.exists_failed
      (show Source.custom "mirror" ∈ mirroredSupply.sources from
        List.mem_cons_of_mem _ List.mem_cons_self)
    obtain ⟨world', hanswer⟩ := hanswers _ hmem
    cases hanswer

end Loader
end Polyglot
