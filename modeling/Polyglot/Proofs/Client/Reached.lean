import Polyglot.Proofs.Client.FallbackView

/-!
# Clients in use

What all clients have in common that were started, once or more often, and used in any order,
whichever of their loads failed: their names are well formed, they keep none but genuine bundles,
and nothing goes on between two uses. Nothing is said of their translations.
-/
namespace Polyglot

variable {σ : Type} {outside : Outside σ} {s : Supply} {content : Content} {p : ClientPlan}

/-! ## Views -/

/-- Whether the names of a view are well formed, and no namespace is noted for the default language
before its translations are there. -/
structure View.IsReached (v : View) : Prop where
  language : v.language.IsPlain
  spaces : ∀ k ∈ v.spaces, k.IsSpace
  noted : ∀ k ∈ v.fallbackSpaces, k.IsSpace
  nothing : v.fallback = none → v.fallbackSpaces = []

namespace View

variable {v w : View}

theorem IsReached.of_agrees (h : v.IsReached) (hw : v.Agrees w) : w.IsReached := by
  obtain ⟨d, b, rfl⟩ := hw
  exact ⟨h.language, h.spaces, h.noted, h.nothing⟩

theorem IsReached.addSpace (h : v.IsReached) {space : Key} (hspace : space.IsSpace) (b : Bundle) :
    (v.addSpace space b).IsReached := by
  refine ⟨h.language, fun k hk => ?_, h.noted, h.nothing⟩
  rcases (mem_addSpace b).1 hk with hold | rfl
  · exact h.spaces k hold
  · exact hspace

theorem IsReached.addFallbackSpace (h : v.IsReached) {space : Key} (hspace : space.IsSpace)
    (b : Bundle) : (v.addFallbackSpace space b).IsReached := by
  refine ⟨h.language, h.spaces, fun k hk => ?_, fun hnone => absurd hnone (Option.some_ne_none _)⟩
  rcases (mem_addFallbackSpace b).1 hk with hold | rfl
  · exact h.noted k hold
  · exact hspace

theorem IsReached.added (h : v.IsReached) {space : Key} (hspace : space.IsSpace) (p : ClientPlan)
    (b : Bundle) : (Call.added p v space b).IsReached := by
  unfold Call.added
  split
  · exact (h.addSpace hspace _).addFallbackSpace hspace _
  · exact h.addSpace hspace _

theorem IsReached.withFallback (h : v.IsReached) (b : Bundle) :
    { v with fallback := some b }.IsReached :=
  ⟨h.language, h.spaces, h.noted, fun hnone => absurd hnone (Option.some_ne_none b)⟩

theorem IsReached.activate (h : v.IsReached) {language : Key} (hlanguage : language.IsPlain)
    (defaultLanguage : String) (b : Bundle) :
    (v.activate defaultLanguage language b).view.IsReached := by
  unfold View.activate
  simp only
  split
  · exact ⟨hlanguage, h.spaces, h.spaces, fun hnone => absurd hnone (Option.some_ne_none b)⟩
  · exact ⟨hlanguage, h.spaces, h.noted, h.nothing⟩

theorem IsReached.translate (h : v.IsReached) (main key : String) (values : Bundle) :
    (v.translate main key values).view.IsReached := by
  unfold View.translate
  split
  · split
    · exact h
    · exact ⟨h.language, h.spaces, h.noted, h.nothing⟩
  · split
    · exact h
    · exact ⟨h.language, h.spaces, h.noted, h.nothing⟩

end View

/-! ## Calls -/

/-- Whether the names in a call are well formed. -/
def Call.IsReached : Call → Prop
  | .switchBase language => (Key.text language).IsPlain
  | .switchSpace language _ _ space => (Key.text language).IsPlain ∧ space.IsSpace
  | .startBase language left => language.IsPlain ∧ ∀ o ∈ left, ∀ k ∈ o, k.IsSpace
  | .newSpace language space start =>
      language.IsPlain ∧ space.IsSpace ∧ ∀ first ∈ start, ∀ o ∈ first.2, ∀ k ∈ o, k.IsSpace
  | .fallback q => q.All Key.IsSpace
  | .fallbackSpace _ space q => space.IsSpace ∧ q.All Key.IsSpace

/-- Whether the names of a view are well formed, and those of the call that goes on. -/
def Progress.IsReached : Progress → Prop
  | .waits v _ c => v.IsReached ∧ c.IsReached
  | .ends v _ _ => v.IsReached

/-- What follows for a view has well-formed names if the view has. -/
theorem Progress.Follows.isReached {v : View} {q : Sequel} {progress : Progress}
    (hp : progress.Follows v q) (h : v.IsReached) (hq : q.All Key.IsSpace) :
    progress.IsReached := by
  cases progress with
  | ends w events result => exact h.of_agrees hp
  | waits w events c =>
    obtain ⟨hw, hc⟩ := hp
    refine ⟨h.of_agrees hw, ?_⟩
    cases hc with
    | newSpace started =>
      subst started
      refine ⟨h.language, hq _ List.mem_cons_self _ rfl, ?_⟩
      intro first hfirst o ho
      cases hfirst
      exact hq o (List.mem_cons_of_mem _ ho)
    | fallback lacks => exact hq
    | fallbackSpace index loaded lacks => exact ⟨h.spaces _ loaded, hq⟩

namespace Call

variable {available : List String} {v : View}

theorem isReached_overlay (h : v.IsReached) {language : String}
    (hlanguage : (Key.text language).IsPlain) (merged : Bundle) (index : Nat) :
    (overlay p available v language merged index).IsReached := by
  rcases overlay_cases p available v language merged index with
    ⟨space, hspace, hwaits⟩ | ⟨-, hfollows⟩
  · rw [hwaits]
    exact ⟨h, hlanguage, h.spaces space (List.mem_of_getElem? hspace)⟩
  · exact hfollows.isReached (h.activate hlanguage _ _) trivial

/-- Whatever a call goes on with, its names stay well formed. -/
theorem isReached_resume (h : v.IsReached) {c : Call} (hc : c.IsReached) (p : ClientPlan)
    (available : List String) (result : Except LoadFault Bundle) :
    (c.resume p available v result).IsReached := by
  cases c with
  | switchBase language =>
    cases result with
    | error f => exact h
    | ok b => exact isReached_overlay h hc b 0
  | switchSpace language merged index space =>
    cases result with
    | error f => exact h
    | ok b => exact isReached_overlay h hc.1 _ _
  | startBase language left =>
    cases result with
    | error f => exact h
    | ok b =>
      exact (follows_activate p available v (.started language left) language b).isReached
        (h.activate hc.1 _ _) hc.2
  | newSpace language space start =>
    obtain ⟨-, hspace, hstart⟩ := hc
    cases result with
    | error f => exact h
    | ok b =>
      have hq : (addedSequel space b start).All Key.IsSpace := by
        cases start with
        | none => trivial
        | some first => exact hstart first rfl
      exact (follows_newSpace p available v language space start b).isReached
        (h.added hspace p b) hq
  | fallback q =>
    cases result with
    | error f => exact (follows_fallback_error p available v q f).isReached h hc
    | ok b => exact (follows_fallback_ok p available v q b).isReached (h.withFallback b) hc
  | fallbackSpace index space q =>
    cases result with
    | error f => exact (follows_fallbackSpace_error p available v q index space f).isReached h hc.2
    | ok b =>
      exact (follows_fallbackSpace_ok p available v q index space b).isReached
        (h.addFallbackSpace hc.1 _) hc.2

theorem IsReached.wanted (hdefault : (Key.text p.defaultLanguage).IsPlain) {c : Call}
    (hc : c.IsReached) : (c.wanted p).1.IsPlain ∧ ∀ k ∈ (c.wanted p).2, k.IsSpace := by
  have hspace : ∀ k : Key, k.IsSpace → ∀ j ∈ k.space?, j.IsSpace :=
    fun _ hk => hk.1.forall_mem_space?.2 hk
  cases c with
  | switchBase language => exact ⟨hc, fun k hk => nomatch hk⟩
  | switchSpace language merged index space => exact ⟨hc.1, hspace space hc.2⟩
  | startBase language left => exact ⟨hc.1, fun k hk => nomatch hk⟩
  | newSpace language space start => exact ⟨hc.1, hspace space hc.2.1⟩
  | fallback q => exact ⟨hdefault, fun k hk => nomatch hk⟩
  | fallbackSpace index space q => exact ⟨hdefault, hspace space hc.1⟩

end Call

/-! ## Clients -/

/-- Whether the languages that sources tell are plain. -/
def Supply.TellsPlain (outside : Outside σ) (s : Supply) : Prop :=
  ∀ source ∈ s.sources, ∀ language space world loaded,
    (source.fetch outside language space world).2 = .ok loaded →
      ∀ l ∈ loaded.languages.getD [], (Key.text l).IsPlain

/-- Files behind a web server tell no languages. -/
theorem Supply.tellsPlain_served {path : String} (h : s.sources = [.served path]) :
    s.TellsPlain outside := by
  intro source hsource language space world loaded hfetch
  rw [h, List.mem_singleton] at hsource
  subst hsource
  obtain ⟨response, -, hloaded⟩ := Outcome.bind_eq_ok_iff.1 hfetch
  obtain ⟨value, -, hvalue⟩ := Outcome.bind_eq_ok_iff.1 hloaded
  obtain ⟨bundle, -, hbundle⟩ := Outcome.bind_eq_ok_iff.1 hvalue
  cases hbundle
  exact fun l hl => nomatch hl

/-- Whether the names in a plan are well formed. -/
structure ClientPlan.IsPlain (p : ClientPlan) : Prop where
  defaultLanguage : (Key.text p.defaultLanguage).IsPlain
  fallbackLanguage : p.fallbackLanguage.IsPlain
  spaces : ∀ o ∈ p.spaces, ∀ k ∈ o, k.IsSpace

namespace Client

variable {c : Client}

/-- Whether a client is one that was used. -/
structure IsReached (outside : Outside σ) (p : ClientPlan) (s : Supply) (content : Content)
    (c : Client) : Prop extends c.IsSteady outside p s content where
  view : c.view.IsReached
  idle : c.loader.IsIdle
  languages : ∀ l ∈ c.supportedLanguages, (Key.text l).IsPlain

/-- A client that was told its languages has those. -/
theorem supportedLanguages_of_told {loader : Loader} {told : List String} (htold : told ≠ [])
    (h : loader.languages = told.map .text) :
    { c with loader := loader }.supportedLanguages = told := by
  have htexts : (told.map Value.text).filterMap Value.text? = told := by
    rw [List.filterMap_map]
    exact List.filterMap_some
  have hlanguages : loader.languages.isEmpty = false := by simpa [h] using htold
  rw [supportedLanguages, availableLanguages, hlanguages]
  exact (congrArg _ h).trans htexts

theorem supportedLanguages_of_kept {loader : Loader} (h : loader.languages = c.loader.languages) :
    { c with loader := loader }.supportedLanguages = c.supportedLanguages := by
  simp only [supportedLanguages, availableLanguages, h]

theorem IsReached.withView (h : c.IsReached outside p s content) {v : View} (hv : v.IsReached) :
    { c with view := v }.IsReached outside p s content :=
  ⟨⟨h.plan, h.supply, h.loader⟩, hv, h.idle, h.languages⟩

/-- A client that was used may be started. -/
theorem IsReached.hasPlainLanguages (h : c.IsReached outside p s content) (hplan : p.IsPlain) :
    c.HasPlainLanguages :=
  ⟨h.plan ▸ hplan.defaultLanguage, h.plan ▸ hplan.fallbackLanguage, h.languages⟩

section Reached

variable (hserves : s.Serves outside content) (htells : s.TellsPlain outside)
include hserves htells

/-- A load of well-formed names leaves such a client behind, and brings the right bundle or
fails. -/
theorem IsReached.load (h : c.IsReached outside p s content) {language : Key} {space : Option Key}
    (hlanguage : language.IsPlain) (hspace : ∀ k ∈ space, k.IsSpace) (world : σ) :
    { c with loader := (c.loader.load outside c.supply language space world).loader }.IsReached
        outside p s content ∧
      ∀ b, (c.loader.load outside c.supply language space world).result = .ok b →
        b = s.bundle content language space := by
  obtain ⟨hsound, hresult⟩ := h.toIsSteady.load hserves hlanguage hspace world
  refine ⟨⟨⟨h.plan, h.supply, hsound⟩, h.view, h.idle.load outside c.supply language space world,
    ?_⟩, hresult⟩
  rcases h.idle.load_languages c.supply language space world with
    hkept | ⟨source, hsource, world', loaded, hfetch, hne, htold⟩
  · rw [supportedLanguages_of_kept hkept]
    exact h.languages
  · rw [supportedLanguages_of_told hne htold]
    rw [h.supply] at hsource
    exact htells source hsource language space world' loaded hfetch

variable (hplan : p.IsPlain)
include hplan

/-- The load of a call leaves such a client behind, and brings the right bundle or fails. -/
theorem IsReached.loadCall (h : c.IsReached outside p s content) {call : Call}
    (hcall : call.IsReached) (world : σ) :
    { c with loader := (c.loader.load outside c.supply (call.wanted c.plan).1
        (call.wanted c.plan).2 world).loader }.IsReached outside p s content ∧
      ∀ b, (c.loader.load outside c.supply (call.wanted c.plan).1
        (call.wanted c.plan).2 world).result = .ok b →
          b = s.bundle content (call.wanted c.plan).1 (call.wanted c.plan).2 := by
  obtain ⟨hlanguage, hspace⟩ := hcall.wanted hplan.defaultLanguage
  rw [← h.plan] at hlanguage hspace
  exact h.load hserves htells hlanguage hspace world

theorem IsReached.perform (h : c.IsReached outside p s content) {call : Call}
    (hcall : call.IsReached) (world : σ) :
    (c.perform outside call world).client.IsReached outside p s content := by
  fun_induction Client.perform outside c call world with
  | case1 c call world wanted l loaded view events result hresume =>
    have hnext := Call.isReached_resume h.view hcall c.plan loaded.supportedLanguages l.result
    rw [hresume] at hnext
    exact (h.loadCall hserves htells hplan hcall world).1.withView hnext
  | case2 c call world wanted l loaded view events next hresume hlt ih =>
    have hnext := Call.isReached_resume h.view hcall c.plan loaded.supportedLanguages l.result
    rw [hresume] at hnext
    exact ih ((h.loadCall hserves htells hplan hcall world).1.withView hnext.1) hnext.2

theorem IsReached.run (h : c.IsReached outside p s content) {begun : Progress}
    (hbegun : begun.IsReached) (world : σ) :
    (c.run outside begun world).client.IsReached outside p s content := by
  cases begun with
  | ends view events result => exact h.withView hbegun
  | waits view events call =>
    exact (h.withView hbegun.1).perform hserves htells hplan hbegun.2 world

/-! ## Uses -/

theorem IsReached.start (h : c.IsReached outside p s content) (world : σ) :
    (c.start outside world).client.IsReached outside p s content := by
  have hspaces : ∀ o ∈ c.plan.spaces, ∀ k ∈ o, k.IsSpace := h.plan ▸ hplan.spaces
  have hbegun : (Call.start c.plan c.supportedLanguages c.view).IsReached := by
    rcases (h.hasPlainLanguages hplan).start_cases h.view.language with
      ⟨events, f, hstart⟩ | ⟨events, language, hlanguage, hstart⟩
    · rw [hstart]
      exact h.view
    · rw [hstart]
      exact ⟨h.view, hlanguage, hspaces⟩
  exact h.run hserves htells hplan hbegun world

theorem IsReached.act (h : c.IsReached outside p s content) {op : Op} (hop : op.IsPlain)
    (world : σ) : (c.act outside world op).2.IsReached outside p s content := by
  cases op with
  | switchLanguage language =>
    have hbegun : (Call.switch c.view language).IsReached := by
      unfold Call.switch
      split
      · exact h.view
      · exact ⟨h.view, hop⟩
    exact h.run hserves htells hplan hbegun world
  | addSpace space =>
    have hbegun : (Call.addSpace c.view space).IsReached := ⟨h.view, h.view.language, hop, nofun⟩
    exact h.run hserves htells hplan hbegun world
  | load language space => exact (h.load hserves htells hop.1 hop.2 world).1
  | translate space key values =>
    exact ⟨⟨h.plan, h.supply, h.loader⟩, h.view.translate _ _ _, h.idle, h.languages⟩
  | clearCache =>
    refine ⟨⟨h.plan, h.supply, h.loader.withCache (BundleCache.holds_clear _)⟩, ?_,
      h.idle.withCache _, h.languages⟩
    exact ⟨h.view.language, h.view.spaces, h.view.noted, h.view.nothing⟩

/-- Whether the names that a use is given are well formed. -/
def Use.IsPlain : Use → Prop
  | .start => True
  | .op o => o.IsPlain

theorem IsReached.use (h : c.IsReached outside p s content) {u : Use} (hu : u.IsPlain)
    (world : σ) : (c.use outside world u).2.IsReached outside p s content := by
  cases u with
  | start => exact h.start hserves htells hplan world
  | op op => exact h.act hserves htells hplan hu world

/-- However a client is used, it stays one that was used. -/
theorem IsReached.useAll (h : c.IsReached outside p s content) {us : List Use}
    (hus : ∀ u ∈ us, u.IsPlain) (world : σ) :
    (c.useAll outside world us).2.IsReached outside p s content := by
  induction us generalizing c world with
  | nil => exact h
  | cons u us ih =>
    have hnext := h.use hserves htells hplan (hus u List.mem_cons_self) world
    exact ih hnext (fun w hw => hus w (List.mem_cons_of_mem _ hw)) _

end Reached

/-- A new client with an empty cache is one. -/
theorem isReached_of_create {settings : ClientSettings} {parts : Parts}
    {library : LocaleLibrary} (hc : create settings parts library = .ok c)
    (hcache : (parts.cache.getD .usual).entries = [])
    (hplain : c.HasPlainLanguages) : c.IsReached outside c.plan c.supply content := by
  obtain ⟨formatter, languages, hview, hloader⟩ := create_eq_ok hc
  refine ⟨isSteady_of_create hc hcache, ?_, ?_, hplain.languages⟩
  · rw [hview]
    exact ⟨hplain.defaultLanguage, nofun, nofun, fun _ => rfl⟩
  · rw [hloader]
    exact ⟨rfl, rfl⟩

end Client
end Polyglot
