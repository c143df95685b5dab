import Polyglot.Proofs.Client.FallbackView

/-!
# Failed changes

A switch of the language and a new namespace load all that they need before they change anything.
When one of these loads fails, so does the change, and the client is as it was but for what its
loader keeps. What is loaded for the default language afterwards may fail, but fails no change.
-/
namespace Polyglot

variable {σ : Type} {p : ClientPlan} {available : List String} {v : View}

def CallFault.IsLoad (f : CallFault) : Prop := f.failure.kind = .loadFailed

/-- The kind of a settings fault is none of loading. -/
theorem SettingsFault.kind_ne_loadFailed (f : SettingsFault) : f.failure.kind ≠ .loadFailed := by
  rcases f with _ | _ | _ | ⟨_ | _ | _⟩ | _ | _ | _ <;> decide

/-! ## After the change -/

/-- Whether a change has been made once the default language is complete; a start goes on. -/
def Sequel.IsChange : Sequel → Prop
  | .started .. => False
  | _ => True

/-- Whether a call loads only what the default language lacks. -/
def Call.Completes : Call → Prop
  | .fallback q => q.IsChange
  | .fallbackSpace _ _ q => q.IsChange
  | _ => False

/-- Whether a call loads only what the default language lacks, or ends without a failed load. -/
def Progress.Completes : Progress → Prop
  | .waits _ _ c => c.Completes
  | .ends _ _ result => ∀ f, result = .error f → ¬f.IsLoad

theorem Progress.completes_ok (v : View) (events : List Event) (r : Option Bundle) :
    (ends v events (.ok r)).Completes :=
  nofun

theorem Progress.Completes.after {progress : Progress} (h : progress.Completes)
    (events : List Event) : (progress.after events).Completes := by
  cases progress <;> exact h

namespace Call

theorem completes_finish {q : Sequel} (h : q.IsChange) : (finish available v q).Completes := by
  cases q with
  | switched language =>
    simp only [finish]
    split
    · exact Progress.completes_ok _ _ _
    · split
      · exact Progress.completes_ok _ _ _
      · rename_i hremember
        intro f' hf
        cases hf
        exact Detector.kind_ne_loadFailed_of_remember hremember
  | added b => exact Progress.completes_ok _ _ _
  | started language left => exact h.elim

theorem completes_completeFrom {q : Sequel} (h : q.IsChange) (index : Nat) :
    (completeFrom available v index q).Completes := by
  unfold completeFrom
  split
  · exact h
  · exact completes_finish h

theorem completes_completeUnless {q : Sequel} (h : q.IsChange) (language : Key) :
    (completeUnless p available v language q).Completes := by
  unfold completeUnless complete
  split
  · exact completes_finish h
  · split
    · exact h
    · exact completes_completeFrom h 0

theorem completes_activate {q : Sequel} (h : q.IsChange) (language : Key) (b : Bundle) :
    (activate p available v language b q).Completes := by
  unfold activate
  simp only
  split
  · exact (completes_completeUnless h language).after _
  · rename_i f hf
    intro f' hf'
    cases hf'
    exact f.kind_ne_loadFailed

/-- A load for the default language that fails is only reported. -/
theorem Completes.resume {c : Call} (h : c.Completes) (p : ClientPlan) (available : List String)
    (v : View) (result : Except LoadFault Bundle) : (c.resume p available v result).Completes := by
  cases c with
  | fallback q =>
    cases result with
    | ok b => exact completes_completeFrom h 0
    | error f => exact (completes_finish h).after _
  | fallbackSpace index space q =>
    cases result with
    | ok b => exact completes_completeFrom h _
    | error f => exact (completes_completeFrom h _).after _
  | _ => exact h.elim

theorem Completes.wanted {c : Call} (h : c.Completes) :
    (c.wanted p).1 = .text p.defaultLanguage := by
  cases c with
  | fallback q => rfl
  | fallbackSpace index space q => rfl
  | _ => exact h.elim

end Call

/-! ## Before the change -/

/-- What a call still loads before it changes anything. -/
def Call.ownLoads (v : View) : Call → List (Key × Option Key)
  | .switchBase language =>
      (.text language, none) :: v.spaces.map fun space => (.text language, space.space?)
  | .switchSpace language _ index _ =>
      (v.spaces.drop index).map fun space => (.text language, space.space?)
  | .newSpace language space _ => [(language, space.space?)]
  | _ => []

/-- Whether a call makes a change and has not made it yet. -/
def Call.Prepares (v : View) : Call → Prop
  | .switchBase _ => True
  | .switchSpace _ _ index space => v.spaces[index]? = some space
  | .newSpace _ _ start => start = none
  | _ => False

namespace Call

/-- A switch loads the namespace at the place that it has come to, or makes the change. -/
theorem prepares_overlay (p : ClientPlan) (available : List String) (v : View) (language : String)
    (merged : Bundle) (index : Nat) :
    (∃ next, overlay p available v language merged index = .waits v [] next ∧ next.Prepares v ∧
      next.ownLoads v = (v.spaces.drop index).map fun space => (.text language, space.space?)) ∨
    v.spaces.drop index = [] ∧ (overlay p available v language merged index).Completes := by
  unfold overlay
  split
  · rename_i space hspace
    exact .inl ⟨_, rfl, hspace, rfl⟩
  · rename_i hnone
    exact .inr ⟨List.drop_eq_nil_iff.2 (List.getElem?_eq_none_iff.1 hnone),
      completes_activate (q := .switched language) trivial _ _⟩

/-- A call that prepares a change waits for the first of its own loads. When that fails, so does
the call, with the view as it was; otherwise it waits for the next one, or makes the change. -/
theorem Prepares.resume {c : Call} (h : c.Prepares v) (p : ClientPlan) (available : List String) :
    ∃ rest, c.ownLoads v = c.wanted p :: rest ∧
      (∀ f, c.resume p available v (.error f) = .ends v [] (.error (.load f))) ∧
      ∀ b, (∃ next, c.resume p available v (.ok b) = .waits v [] next ∧ next.Prepares v ∧
          next.ownLoads v = rest) ∨
        rest = [] ∧ (c.resume p available v (.ok b)).Completes := by
  cases c with
  | switchBase language =>
    refine ⟨_, rfl, fun f => rfl, fun b => ?_⟩
    rcases prepares_overlay p available v language b 0 with
      hnext | ⟨hnil, hcompletes⟩
    · exact .inl hnext
    · rw [List.drop_zero] at hnil
      exact .inr ⟨by rw [hnil]; rfl, hcompletes⟩
  | switchSpace language merged index space =>
    have hspace : v.spaces[index]? = some space := h
    refine ⟨(v.spaces.drop (index + 1)).map fun space => (.text language, space.space?), ?_,
      fun f => rfl, fun b => ?_⟩
    · rw [ownLoads, List.drop_eq_getElem?_toList_append, hspace]
      rfl
    · rcases prepares_overlay p available v language
        (Entries.update merged (prefixed space b)) (index + 1) with hnext | ⟨hnil, hcompletes⟩
      · exact .inl hnext
      · exact .inr ⟨by rw [hnil]; rfl, hcompletes⟩
  | newSpace language space start =>
    obtain rfl : start = none := h
    refine ⟨[], rfl, fun f => rfl, fun b => .inr ⟨rfl, ?_⟩⟩
    rw [resume_newSpace_ok]
    exact completes_completeUnless (q := .added (prefixed space b)) trivial _
  | _ => exact h.elim

end Call

/-! ## Clients -/

namespace Client

variable {outside : Outside σ} {c : Client}

/-- A call that only completes the default language does not fail with a load. -/
theorem completes_perform {call : Call} (h : call.Completes) (world : σ) :
    (∀ f, (c.perform outside call world).result = .error f → ¬f.IsLoad) ∧
      ∀ r ∈ c.loadsOfCall outside call world, r.language = .text c.plan.defaultLanguage := by
  fun_induction Client.perform outside c call world with
  | case1 c call world wanted l loaded view events result hresume =>
    have hnext := h.resume c.plan loaded.supportedLanguages c.view l.result
    have hloads : c.loadsOfCall outside call world = _ :: loaded.loadsOfRun outside
      (call.resume c.plan loaded.supportedLanguages c.view l.result) l.world :=
        loadsOfCall_eq outside c call world
    rw [hresume] at hnext hloads
    refine ⟨hnext, fun r hr => ?_⟩
    rw [hloads, loadsOfRun, List.mem_singleton] at hr
    rw [hr]
    exact h.wanted
  | case2 c call world wanted l loaded view events next hresume hlt ih =>
    have hnext := h.resume c.plan loaded.supportedLanguages c.view l.result
    have hloads : c.loadsOfCall outside call world = _ :: loaded.loadsOfRun outside
      (call.resume c.plan loaded.supportedLanguages c.view l.result) l.world :=
        loadsOfCall_eq outside c call world
    rw [hresume] at hnext hloads
    obtain ⟨hresult, hrest⟩ := ih hnext
    refine ⟨hresult, fun r hr => ?_⟩
    rw [hloads, loadsOfRun, List.mem_cons] at hr
    rcases hr with rfl | hr
    · exact h.wanted
    · exact hrest r hr

theorem completes_run {begun : Progress} (h : begun.Completes) (world : σ) :
    (∀ f, (c.run outside begun world).result = .error f → ¬f.IsLoad) ∧
      ∀ r ∈ c.loadsOfRun outside begun world, r.language = .text c.plan.defaultLanguage := by
  cases begun with
  | ends view events result =>
    refine ⟨h, fun r hr => ?_⟩
    rw [loadsOfRun] at hr
    cases hr
  | waits view events call =>
    have hcall : call.Completes := h
    rw [loadsOfRun, run]
    exact completes_perform hcall world

/-- What is promised of a change with some loads of its own: if it fails with a load, nothing but
the loader has changed; it does so exactly if one of its own loads fails; and everything it loads
after those is for the default language. -/
structure IsAtomic (c : Client) (own : List (Key × Option Key)) (loads : List LoadRecord)
    (o : Outcome σ (Except CallFault (Option Bundle))) : Prop where
  kept : ∀ f, o.result = .error f → f.IsLoad → o.client = { c with loader := o.client.loader }
  fails : (∃ f, o.result = .error f ∧ f.IsLoad) ↔
    ∃ r ∈ loads.take own.length, ∃ f, r.result = .error f
  order : (loads.take own.length).map (fun r => (r.language, r.space)) <+: own
  rest : ∀ r ∈ loads.drop own.length, r.language = .text c.plan.defaultLanguage

theorem isAtomic_of_completes {begun : Progress} (h : begun.Completes) (world : σ) :
    c.IsAtomic [] (c.loadsOfRun outside begun world) (c.run outside begun world) := by
  obtain ⟨hresult, hloads⟩ : (∀ f, (c.run outside begun world).result = .error f → ¬f.IsLoad) ∧
      ∀ r ∈ c.loadsOfRun outside begun world, r.language = .text c.plan.defaultLanguage :=
    completes_run h world
  refine ⟨fun f hf hload => absurd hload (hresult f hf), ?_, List.prefix_refl [], hloads⟩
  constructor
  · rintro ⟨f, hf, hload⟩
    exact absurd hload (hresult f hf)
  · rintro ⟨r, hr, -⟩
    cases hr

/-- A load that is there goes in front of what a change loads after it. -/
theorem IsAtomic.cons {loader : Loader} {own : List (Key × Option Key)} {loads : List LoadRecord}
    {o : Outcome σ (Except CallFault (Option Bundle))}
    (h : { c with loader := loader }.IsAtomic own loads o) {language : Key} {space : Option Key}
    (b : Bundle) (events : List Event) :
    c.IsAtomic ((language, space) :: own) (⟨language, space, .ok b⟩ :: loads) (o.after events) where
  kept := h.kept
  fails := by
    have hfails := h.fails
    simp only [List.length_cons, List.take_succ_cons, List.mem_cons, exists_eq_or_imp, reduceCtorEq,
      exists_false, false_or]
    exact hfails
  order := by
    rw [List.length_cons, List.take_succ_cons, List.map_cons, List.prefix_cons_inj]
    exact h.order
  rest := by
    rw [List.length_cons, List.drop_succ_cons]
    exact h.rest

/-- A load that fails ends the change. -/
theorem isAtomic_failed {loader : Loader} (own : List (Key × Option Key)) (language : Key)
    (space : Option Key) (f : LoadFault) (world : σ) (events : List Event) :
    c.IsAtomic ((language, space) :: own) [⟨language, space, .error f⟩]
      ⟨world, { c with loader := loader }, events, .error (.load f)⟩ where
  kept := fun _ _ _ => rfl
  fails := by
    have hload : (CallFault.load f).IsLoad := rfl
    simp [hload]
  order := by simp
  rest := by simp

/-- However the loads of a call go that prepares a change, the change is atomic. -/
theorem isAtomic_perform {call : Call} (h : call.Prepares c.view) (world : σ) :
    c.IsAtomic (call.ownLoads c.view) (c.loadsOfCall outside call world)
      (c.perform outside call world) := by
  induction hown : call.ownLoads c.view generalizing c call world with
  | nil =>
    obtain ⟨rest, hcons, -⟩ := h.resume c.plan []
    rw [hown] at hcons
    cases hcons
  | cons wanted rest ih =>
    rw [perform_eq_run, loadsOfCall_eq]
    simp only
    generalize hl : c.loader.load outside c.supply (call.wanted c.plan).1 (call.wanted c.plan).2
      world = l
    obtain ⟨rest', hcons, hfails, hgoes⟩ :=
      h.resume c.plan { c with loader := l.loader }.supportedLanguages
    rw [hown] at hcons
    obtain ⟨rfl, rfl⟩ := List.cons.inj hcons
    cases hresult : l.result with
    | error f =>
      rw [hfails f, run, loadsOfRun]
      exact isAtomic_failed _ _ _ f l.world _
    | ok b =>
      rcases hgoes b with ⟨next, hnext, hprepares, hnextOwn⟩ | ⟨rfl, hcompletes⟩
      · rw [hnext, run, loadsOfRun]
        have hrest := ih (c := { c with loader := l.loader }) hprepares l.world hnextOwn
        exact IsAtomic.cons hrest b _
      · exact IsAtomic.cons (isAtomic_of_completes hcompletes l.world) b _

/-- Whichever of its loads fail, a change is atomic. -/
theorem isAtomic_change (x : Change) (world : σ) :
    c.IsAtomic (x.wanted c.view) (c.loadsOfRun outside (x.begin c.view) world)
      (c.change outside world x) := by
  cases x with
  | switchLanguage language =>
    simp only [change, switchLanguage, Change.begin, Change.wanted, Call.switch]
    split
    · have hends : (Progress.ends c.view [] (.ok none)).Completes := fun f hf => nomatch hf
      exact isAtomic_of_completes hends world
    · have hcall : Call.Prepares c.view (.switchBase language) := trivial
      rw [run, loadsOfRun]
      exact isAtomic_perform hcall world
  | addSpace space =>
    simp only [change, addSpace, Change.begin, Change.wanted, Call.addSpace]
    have hcall : Call.Prepares c.view (.newSpace c.view.language space none) := rfl
    rw [run, loadsOfRun]
    exact isAtomic_perform hcall world

/-- A call that nothing else goes on beside leaves an idle loader behind. -/
theorem isIdle_perform (h : c.loader.IsIdle) (call : Call) (world : σ) :
    (c.perform outside call world).client.loader.IsIdle := by
  fun_induction Client.perform outside c call world with
  | case1 c call world wanted l loaded view events result hresume =>
    exact h.load outside c.supply wanted.1 wanted.2 world
  | case2 c call world wanted l loaded view events next hresume hlt ih =>
    exact ih (h.load outside c.supply wanted.1 wanted.2 world)

theorem isIdle_run (h : c.loader.IsIdle) (begun : Progress) (world : σ) :
    (c.run outside begun world).client.loader.IsIdle := by
  cases begun with
  | ends view events result => exact h
  | waits view events call =>
    have hview : { c with view := view }.loader.IsIdle := h
    exact isIdle_perform hview call world

theorem isIdle_change (h : c.loader.IsIdle) (x : Change) (world : σ) :
    (c.change outside world x).client.loader.IsIdle := by
  cases x with
  | switchLanguage language => exact isIdle_run h _ world
  | addSpace space => exact isIdle_run h _ world

/-- A change that fails with a load leaves the client as it was, but for what the cache keeps, for
the languages that were told and for the number of the next fetch. A change fails so exactly if one
of the loads fails that it needs before it changes anything; these come first and in order, and all
that is loaded after them is for the default language. -/
theorem change_atomic (outside : Outside σ) (c : Client) (hidle : c.loader.IsIdle) (x : Change)
    (world : σ) :
    let o := c.change outside world x
    let loads := c.loadsOfRun outside (x.begin c.view) world
    let own := x.wanted c.view
    (∀ f, o.result = .error f → f.failure.kind = .loadFailed →
        ∃ cache languages task, o.client =
          { c with
            loader :=
              { c.loader with cache := cache, languages := languages, nextTask := task } }) ∧
      ((∃ f, o.result = .error f ∧ f.failure.kind = .loadFailed) ↔
        ∃ r ∈ loads.take own.length, ∃ f, r.result = .error f) ∧
      (loads.take own.length).map (fun r => (r.language, r.space)) <+: own ∧
      ∀ r ∈ loads.drop own.length, r.language = .text c.plan.defaultLanguage := by
  intro o loads own
  have hatomic : c.IsAtomic own loads o := isAtomic_change x world
  obtain ⟨hkept, hfails, horder, hrest⟩ := hatomic
  refine ⟨fun f hf hload => ?_, hfails, horder, hrest⟩
  have hafter : o.client.loader.IsIdle := isIdle_change hidle x world
  refine ⟨o.client.loader.cache, o.client.loader.languages, o.client.loader.nextTask, ?_⟩
  rw [← hidle.eq_of_isIdle hafter]
  exact hkept f hf hload

/-- The files of a shop that is translated into no other language. -/
def Parts.shopFiles : List (String × Bundle) :=
  [("/locales/en/shop.json", [("title", .text "Shop")])]

/-- A client that has loaded that shop, and that greets in two languages. -/
def untranslated : Client :=
  { bilingual with view := { bilingual.view with spaces := ["shop"] } }

/-- The other language is given with the program, but its shop is nowhere. -/
theorem exists_error_untranslated :
    ∃ f, ((untranslated.loader.load (.serving Parts.shopFiles) untranslated.supply "de" none
      ()).loader.load (.serving Parts.shopFiles) untranslated.supply "de" (some "shop") ()).result =
        .error f :=
  Outcome.exists_error_of_toBool (by decide +kernel)

theorem change_atomic_untranslated :
    untranslated.loader.IsIdle ∧
      let o := untranslated.change (.serving Parts.shopFiles) () (.switchLanguage "de")
      ∃ f, o.result = .error f ∧ f.failure.kind = .loadFailed ∧
        ∃ cache languages task, o.client =
          { untranslated with
            loader :=
              { untranslated.loader with
                cache := cache
                languages := languages
                nextTask := task } } := by
  have hidle : untranslated.loader.IsIdle := ⟨rfl, rfl⟩
  obtain ⟨hkept, hfails, -, -⟩ :=
    change_atomic (.serving Parts.shopFiles) untranslated hidle (.switchLanguage "de") ()
  refine ⟨hidle, ?_⟩
  intro o
  have hbegin : untranslated.loadsOfRun (.serving Parts.shopFiles)
      (Change.begin untranslated.view (.switchLanguage "de")) () =
        untranslated.loadsOfCall (.serving Parts.shopFiles) (.switchBase "de") () := rfl
  let base := untranslated.loader.load (.serving Parts.shopFiles) untranslated.supply "de" none ()
  have hloads : untranslated.loadsOfCall (.serving Parts.shopFiles) (.switchBase "de") () =
      ⟨"de", none, base.result⟩ :: { untranslated with loader := base.loader }.loadsOfCall
        (.serving Parts.shopFiles) (.switchSpace "de" [("hello", .text "Hallo")] 0 "shop") () := by
    rw [loadsOfCall_eq]
    rfl
  have hfailed : ∃ f, o.result = .error f ∧ f.failure.kind = .loadFailed := by
    refine hfails.2 ?_
    rw [hbegin, hloads, loadsOfCall_eq]
    obtain ⟨f, hf⟩ := exists_error_untranslated
    exact ⟨_, List.mem_cons_of_mem _ List.mem_cons_self, f, hf⟩
  obtain ⟨f, hf, hload⟩ := hfailed
  exact ⟨f, hf, hload, hkept f hf hload⟩

end Client
end Polyglot
