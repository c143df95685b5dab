import Polyglot.Client.Session
import Polyglot.Proofs.Client.Purity

/-!
# Sessions

What holds of the calls of a client that go on side by side, in any order: every task fetches the
bundle of its key, and a call goes on with what it asked for.
-/
namespace Polyglot.Session

variable {σ : Type} {outside : Outside σ} {content : Content} {p : ClientPlan} {s : Supply}
  {keyOf : Nat → Key} {t : Session σ}

/-! ## Soundness -/

/-- Whether the names of a step are well formed. -/
def Step.IsPlain : Step → Prop
  | switchLanguage language => (Key.text language).IsPlain
  | addSpace space => space.IsPlain
  | load language space => language.IsPlain ∧ ∀ k ∈ space, k.IsPlain
  | _ => True

/-- Whether every task fetches the bundle of its key, has yielded nothing else, and is joined only
by calls that want it. `keyOf` tells the keys of the tasks, also of those that have ended. -/
structure IsSound (outside : Outside σ) (content : Content) (p : ClientPlan) (s : Supply)
    (keyOf : Nat → Key) (t : Session σ) : Prop where
  plan : t.client.plan = p
  supply : t.client.supply = s
  loader : t.client.loader.IsSound outside content.Suits
  tasks : ∀ u ∈ t.client.loader.tasks, cacheKey u.2.language u.2.space = keyOf u.1
  finished : ∀ u ∈ t.finished, u.1 < t.client.loader.nextTask ∧
    ∀ b, u.2 = .ok b → content.Suits (keyOf u.1) b
  view : t.view.IsNamed
  calls : ∀ w ∈ t.calls, w.call.IsNamed content
  joined : ∀ call task, .joined call task ∈ t.calls →
    task < t.client.loader.nextTask ∧ keyOf task = cacheKey (call.wanted p).1 (call.wanted p).2

theorem IsSound.goesOn (h : t.IsSound outside content p s keyOf) {others : List Waiting}
    (hothers : others ⊆ t.calls) {progress : Progress} (hp : progress.IsNamed content) :
    (t.goesOn others progress).IsSound outside content p s keyOf := by
  cases progress with
  | ends v events result =>
    exact ⟨h.plan, h.supply, h.loader, h.tasks, h.finished, hp, fun w hw => h.calls w (hothers hw),
      fun call task hw => h.joined call task (hothers hw)⟩
  | waits v events call =>
    refine ⟨h.plan, h.supply, h.loader, h.tasks, h.finished, hp.1, ?_, ?_⟩
    · intro w hw
      rcases List.mem_append.1 hw with hw | hw
      · exact h.calls w (hothers hw)
      · rw [List.mem_singleton.1 hw]
        exact hp.2
    · intro call' task hw
      rcases List.mem_append.1 hw with hw | hw
      · exact h.joined call' task (hothers hw)
      · cases List.mem_singleton.1 hw

section Requests

variable (hserves : s.Serves outside content) (hbases : s.HasPlainBases outside)
include hserves hbases

/-- What a request answers at once is right, and a task that it waits for has its key. -/
theorem IsSound.request (h : t.IsSound outside content p s keyOf) {language : Key}
    {space : Option Key} (hlanguage : language.IsPlain) (hspace : ∀ k ∈ space, k.IsPlain) :
    ∃ keyOf', (t.request outside language space).1.IsSound outside content p s keyOf' ∧
      match (t.request outside language space).2 with
      | .ready b => content.IsRight language space b
      | .waits task _ => task < (t.request outside language space).1.client.loader.nextTask ∧
          keyOf' task = cacheKey language space := by
  have hanswers := Content.answers hserves hbases hlanguage hspace
  rw [← h.supply] at hanswers
  obtain ⟨hsound, hreply⟩ := h.loader.request hanswers (outside.now t.world).2
  have hnext := t.client.loader.nextTask_le_request t.client.supply (outside.now t.world).2
    language space
  -- A new task gets the key of the request; its number is beyond those of all tasks before it.
  obtain ⟨keyOf', hnew, hold⟩ : ∃ keyOf' : Nat → Key,
      keyOf' t.client.loader.nextTask = cacheKey language space ∧
        ∀ n < t.client.loader.nextTask, keyOf' n = keyOf n :=
    ⟨fun n => if n = t.client.loader.nextTask then cacheKey language space else keyOf n,
      if_pos rfl, fun n hn => if_neg (Nat.ne_of_lt hn)⟩
  have htasks : ∀ u ∈ (t.request outside language space).1.client.loader.tasks,
      cacheKey u.2.language u.2.space = keyOf' u.1 := by
    intro u hu
    rcases Loader.mem_tasks_request hu with hu | ⟨hnumber, hkey⟩
    · rw [hold _ (h.loader.tasksBelow u hu)]
      exact h.tasks u hu
    · rw [hnumber, hnew]
      exact hkey
  refine ⟨keyOf', ⟨h.plan, h.supply, hsound, htasks, ?_, h.view, h.calls, ?_⟩, ?_⟩
  · intro u hu
    obtain ⟨hbelow, hsuits⟩ := h.finished u hu
    rw [hold _ hbelow]
    exact ⟨Nat.lt_of_lt_of_le hbelow hnext, hsuits⟩
  · intro call task hw
    obtain ⟨hbelow, hkey⟩ := h.joined call task hw
    rw [hold _ hbelow]
    exact ⟨Nat.lt_of_lt_of_le hbelow hnext, hkey⟩
  · have hreply' : match (t.request outside language space).2 with
        | .ready b => content.Suits (cacheKey language space) b
        | .waits task f =>
            (task, f) ∈ (t.request outside language space).1.client.loader.tasks ∧
              cacheKey f.language f.space = cacheKey language space := hreply
    split
    · rename_i b hb
      rw [hb] at hreply'
      exact hreply' language space hlanguage hspace rfl
    · rename_i task f hf
      rw [hf] at hreply'
      refine ⟨hsound.tasksBelow _ hreply'.1, ?_⟩
      rw [← htasks _ hreply'.1]
      exact hreply'.2

variable (hmain : (Key.text p.defaultLanguage).IsPlain)

omit hserves hbases in
theorem IsSound.resume (h : t.IsSound outside content p s keyOf) (index : Nat) {call : Call}
    (hcall : call.IsNamed content) {result : Except LoadFault Bundle}
    (hresult : ∀ b, result = .ok b → content.IsRight (call.wanted p).1 (call.wanted p).2 b) :
    (t.resume index call result).IsSound outside content p s keyOf := by
  rw [← h.plan] at hresult
  exact h.goesOn List.eraseIdx_subset (Call.isNamed_resume h.view hcall hresult)

include hmain in
theorem IsSound.ask (h : t.IsSound outside content p s keyOf) (index : Nat) {call : Call}
    (hcall : call.IsNamed content) :
    ∃ keyOf', (t.ask outside index call).IsSound outside content p s keyOf' := by
  obtain rfl := h.plan
  obtain ⟨hlanguage, hspace⟩ := hcall.wanted hmain
  obtain ⟨keyOf', hsound, hreply⟩ := h.request hserves hbases hlanguage hspace
  refine ⟨keyOf', ?_⟩
  unfold Session.ask
  simp only
  split
  · rename_i b hb
    rw [hb] at hreply
    refine hsound.resume index hcall ?_
    intro b' hb'
    cases hb'
    exact hreply
  · rename_i task f hf
    rw [hf] at hreply
    refine ⟨hsound.plan, hsound.supply, hsound.loader, hsound.tasks, hsound.finished, hsound.view,
      ?_, ?_⟩
    · intro w hw
      rcases List.mem_or_eq_of_mem_set hw with hw | rfl
      · exact hsound.calls w hw
      · exact hcall
    · intro call' task' hw
      rcases List.mem_or_eq_of_mem_set hw with hw | heq
      · exact hsound.joined call' task' hw
      · cases heq
        exact hreply

omit hserves hbases in
theorem IsSound.turn (h : t.IsSound outside content p s keyOf) (index : Nat) {task : Nat}
    {f : Fetch} (hf : (task, f) ∈ t.client.loader.tasks) :
    (t.turn outside index task f).IsSound outside content p s keyOf := by
  have hfetch := h.loader.fetching _ hf
  have hkey := h.tasks _ hf
  have hbelow := h.loader.tasksBelow _ hf
  unfold Session.turn
  simp only
  split
  · rename_i g hg
    obtain ⟨hlanguage, hspace, -⟩ := Fetch.turn_goesOn hg
    have hsame : cacheKey g.language g.space = cacheKey f.language f.space := by
      rw [hlanguage, hspace]
    refine ⟨h.plan, h.supply, h.loader.goesOn hf (hfetch.turn_goesOn hg) hsame, ?_, h.finished,
      h.view, h.calls, h.joined⟩
    intro u hu
    rcases List.mem_or_eq_of_mem_set hu with hu | rfl
    · exact h.tasks u hu
    · exact hsame.trans hkey
  · rename_i source loaded hwon
    have hsuits := hfetch.turn_won hwon
    have hnext := t.client.loader.nextTask_settle
      (outside.now (f.turn outside t.client.supply.retry t.world).world).2 task f
      (.ok (source, loaded))
    refine ⟨h.plan, h.supply, h.loader.settle _ task ?_, ?_, ?_, h.view, h.calls, ?_⟩
    · intro source' loaded' heq
      cases heq
      exact hsuits
    · exact fun u hu => h.tasks u (Loader.tasks_settle_subset _ _ _ _ _ hu)
    · intro u hu
      rcases List.mem_cons.1 hu with rfl | hu
      · refine ⟨Nat.lt_of_lt_of_eq hbelow hnext.symm, ?_⟩
        intro b hb
        cases hb
        rw [← hkey]
        exact hsuits
      · obtain ⟨hlt, hold⟩ := h.finished u hu
        exact ⟨Nat.lt_of_lt_of_eq hlt hnext.symm, hold⟩
    · intro call task' hw
      obtain ⟨hlt, hold⟩ := h.joined call task' hw
      exact ⟨Nat.lt_of_lt_of_eq hlt hnext.symm, hold⟩
  · refine ⟨h.plan, h.supply, h.loader.drop task f, ?_, ?_, h.view, h.calls, h.joined⟩
    · exact fun u hu => h.tasks u (List.mem_filter.1 hu).1
    · intro u hu
      rcases List.mem_cons.1 hu with rfl | hu
      · exact ⟨hbelow, fun b hb => nomatch hb⟩
      · exact h.finished u hu

omit hserves hbases in
include hmain in
/-- What a task has yielded is right for the calls that joined it. -/
theorem IsSound.yielded (h : t.IsSound outside content p s keyOf) {call : Call} {task : Nat}
    (hw : .joined call task ∈ t.calls) {b : Bundle}
    (hb : Entries.get? t.finished task = some (.ok b)) :
    content.IsRight (call.wanted p).1 (call.wanted p).2 b := by
  have hnamed : call.IsNamed content := h.calls _ hw
  obtain ⟨hlanguage, hspace⟩ := hnamed.wanted hmain
  have hsuits := (h.finished _ (Entries.mem_of_get? hb)).2 b rfl
  rw [(h.joined _ _ hw).2] at hsuits
  exact hsuits _ _ hlanguage hspace rfl

include hmain in
/-- Every step of a session keeps it sound. -/
theorem IsSound.act (h : t.IsSound outside content p s keyOf) {step : Step}
    (hstep : step.IsPlain) : ∃ keyOf', (t.act outside step).IsSound outside content p s keyOf' := by
  cases step with
  | switchLanguage language =>
    refine ⟨keyOf, h.goesOn (List.Subset.refl _) ?_⟩
    unfold Call.switch
    split
    · exact h.view
    · exact ⟨h.view, hstep⟩
  | addSpace space =>
    have hcall : (Call.addSpace t.view space).IsNamed content :=
      ⟨h.view, h.view.language, hstep, fun first hfirst => nomatch hfirst⟩
    exact ⟨keyOf, h.goesOn (List.Subset.refl _) hcall⟩
  | load language space =>
    obtain ⟨keyOf', hsound, -⟩ := h.request hserves hbases hstep.1 hstep.2
    exact ⟨keyOf', hsound⟩
  | ask index =>
    simp only [Session.act]
    split
    · rename_i call hcall
      exact h.ask hserves hbases hmain index (h.calls _ (List.mem_of_getElem? hcall))
    · exact ⟨keyOf, h⟩
  | turn index =>
    simp only [Session.act]
    split
    · rename_i task f hf
      exact ⟨keyOf, h.turn index (List.mem_of_getElem? hf)⟩
    · exact ⟨keyOf, h⟩
  | wake index =>
    simp only [Session.act]
    split
    · rename_i call task hcall
      split
      · rename_i result hresult
        have hmem := List.mem_of_getElem? hcall
        have hnamed : call.IsNamed content := h.calls _ hmem
        refine ⟨keyOf, h.resume index hnamed ?_⟩
        rintro b rfl
        exact h.yielded hmain hmem hresult
      · exact ⟨keyOf, h⟩
    · exact ⟨keyOf, h⟩

include hmain in
/-- A call goes on with what it wants. -/
theorem IsSound.answered (h : t.IsSound outside content p s keyOf) {step : Step} {call : Call}
    {result : Except LoadFault Bundle} (ha : t.answered? outside step = some (call, result)) :
    call.IsNamed content ∧
      ∀ b, result = .ok b → content.IsRight (call.wanted p).1 (call.wanted p).2 b := by
  obtain rfl := h.plan
  cases step with
  | ask index =>
    simp only [answered?] at ha
    split at ha
    · rename_i call' hcall
      have hnamed : call'.IsNamed content := h.calls _ (List.mem_of_getElem? hcall)
      obtain ⟨hlanguage, hspace⟩ := hnamed.wanted hmain
      obtain ⟨keyOf', -, hreply⟩ := h.request hserves hbases hlanguage hspace
      split at ha
      · rename_i b hb
        rw [hb] at hreply
        cases ha
        refine ⟨hnamed, ?_⟩
        rintro b' hb'
        cases hb'
        exact hreply
      · cases ha
    · cases ha
  | wake index =>
    simp only [answered?] at ha
    split at ha
    · rename_i call' task hcall
      have hmem := List.mem_of_getElem? hcall
      obtain ⟨result', hresult, heq⟩ := Option.map_eq_some_iff.1 ha
      cases heq
      refine ⟨h.calls _ hmem, ?_⟩
      rintro b rfl
      exact h.yielded hmain hmem hresult
    · cases ha
  | _ => cases ha

end Requests

/-! ## Views -/

theorem view_goesOn (t : Session σ) (others : List Waiting) (progress : Progress) :
    (t.goesOn others progress).view = progress.view := by
  cases progress <;> rfl

/-- The view changes only where a call goes on with an answer. -/
theorem view_act (t : Session σ) (step : Step) :
    (∃ call result available, t.answered? outside step = some (call, result) ∧
      (t.act outside step).view = (call.resume t.client.plan available t.view result).view) ∨
    t.answered? outside step = none ∧ (t.act outside step).view = t.view := by
  cases step with
  | switchLanguage language =>
    refine .inr ⟨rfl, ?_⟩
    rw [act, view_goesOn, Call.switch]
    split <;> rfl
  | addSpace space => exact .inr ⟨rfl, rfl⟩
  | load language space => exact .inr ⟨rfl, rfl⟩
  | ask index =>
    simp only [act, answered?]
    split
    · rename_i call hcall
      unfold ask
      simp only
      split
      · rename_i b _
        exact .inl ⟨call, .ok b, _, rfl, view_goesOn _ _ _⟩
      · exact .inr ⟨rfl, rfl⟩
    · exact .inr ⟨rfl, rfl⟩
  | turn index =>
    refine .inr ⟨rfl, ?_⟩
    simp only [act]
    split
    · unfold turn
      simp only
      split <;> rfl
    · rfl
  | wake index =>
    simp only [act, answered?]
    split
    · rename_i call task hcall
      cases hresult : Entries.get? t.finished task with
      | none => exact .inr ⟨rfl, rfl⟩
      | some result => exact .inl ⟨call, result, _, rfl, view_goesOn _ _ _⟩
    · exact .inr ⟨rfl, rfl⟩

/-! ## Runs -/

theorem run_take_succ (t : Session σ) {steps : List Step} {n : Nat} {step : Step}
    (h : steps[n]? = some step) :
    t.run outside (steps.take (n + 1)) = (t.run outside (steps.take n)).act outside step := by
  obtain ⟨hlt, rfl⟩ := List.getElem?_eq_some_iff.1 h
  rw [run, List.take_succ_eq_append_getElem hlt, List.foldl_append]
  rfl

theorem run_take_of_none (t : Session σ) {steps : List Step} {n : Nat} (h : steps[n]? = none) :
    t.run outside (steps.take (n + 1)) = t.run outside (steps.take n) := by
  have hlength := List.getElem?_eq_none_iff.1 h
  rw [List.take_of_length_le hlength, List.take_of_length_le (Nat.le_succ_of_le hlength)]

section Runs

variable (hserves : s.Serves outside content) (hbases : s.HasPlainBases outside)
  (hmain : (Key.text p.defaultLanguage).IsPlain)
include hserves hbases hmain

theorem IsSound.run (h : t.IsSound outside content p s keyOf) {steps : List Step}
    (hsteps : ∀ step ∈ steps, step.IsPlain) (n : Nat) :
    ∃ keyOf', (t.run outside (steps.take n)).IsSound outside content p s keyOf' := by
  induction n with
  | zero => exact ⟨keyOf, h⟩
  | succ n ih =>
    cases hstep : steps[n]? with
    | none => rwa [run_take_of_none t hstep]
    | some step =>
      obtain ⟨keyOf', hsound⟩ := ih
      rw [run_take_succ t hstep]
      exact hsound.act hserves hbases hmain (hsteps step (List.mem_of_getElem? hstep))

end Runs
end Polyglot.Session
