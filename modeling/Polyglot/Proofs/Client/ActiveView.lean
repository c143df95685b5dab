import Polyglot.Client.Run
import Polyglot.Proofs.Client.Call
import Polyglot.Proofs.Client.Content
import Polyglot.Proofs.Client.Creation
import Polyglot.Proofs.Message.Formatter

/-!
# The active view

A client that has started shows the translations of its language with all loaded namespaces on
top, whatever was cached, dropped or could not be loaded on the way.
-/
namespace Polyglot

variable {σ : Type} {outside : Outside σ} {s : Supply} {content : Content}

/-! ## Views -/

/-- Whether a view shows the translations of its language with all loaded namespaces on top. -/
structure View.IsActive (s : Supply) (content : Content) (v : View) : Prop where
  translations : v.translations = s.shown content v.language v.spaces
  formatter : v.formatter.language = v.language
  language : v.language.IsPlain
  spaces : ∀ k ∈ v.spaces, k.IsSpace

namespace View

variable {v : View}

@[simp] theorem activate_language (v : View) (defaultLanguage : String) (language : Key)
    (b : Bundle) : (v.activate defaultLanguage language b).view.language = language := by
  unfold View.activate
  simp only
  split <;> rfl

/-- A formatter accepts every plain language. -/
theorem activate_result (v : View) (defaultLanguage : String) {language : Key}
    (h : language.IsPlain) (b : Bundle) :
    (v.activate defaultLanguage language b).result = .ok () := by
  obtain ⟨l, rfl, -⟩ := h
  exact v.formatter.setLanguage_text_result l

theorem isActive_activate {defaultLanguage : String} {language : Key} {b : Bundle}
    (hlanguage : language.IsPlain) (hspaces : ∀ k ∈ v.spaces, k.IsSpace)
    (hb : b = s.shown content language v.spaces) :
    (v.activate defaultLanguage language b).view.IsActive s content := by
  have hformatter := v.formatter.setLanguage_language language
  unfold View.activate
  simp only
  split
  · exact ⟨hb, hformatter, hlanguage, hspaces⟩
  · exact ⟨hb, hformatter, hlanguage, hspaces⟩

theorem IsActive.addSpace (h : v.IsActive s content) {space : Key} (hspace : space.IsSpace) :
    (v.addSpace space (Call.prefixed space (s.bundle content v.language (some space)))).IsActive
      s content := by
  unfold View.addSpace
  by_cases hmem : space ∈ v.spaces
  · rw [if_pos hmem, h.translations, Supply.update_shown h.spaces hmem]
    exact ⟨rfl, h.formatter, h.language, h.spaces⟩
  · rw [if_neg hmem, h.translations, ← Supply.shown_append]
    refine ⟨rfl, h.formatter, h.language, ?_⟩
    intro k hk
    rcases List.mem_append.1 hk with hk | hk
    · exact h.spaces k hk
    · rw [List.mem_singleton.1 hk]
      exact hspace

theorem IsActive.addFallbackSpace (h : v.IsActive s content) (space : Key) (b : Bundle) :
    (v.addFallbackSpace space b).IsActive s content :=
  ⟨h.translations, h.formatter, h.language, h.spaces⟩

theorem IsActive.translate (h : v.IsActive s content) (main key : String) (values : Bundle) :
    (v.translate main key values).view.IsActive s content := by
  have hview : ∀ f : Message.Formatter, f.language = v.language →
      { v with formatter := f }.IsActive s content :=
    fun f hf => ⟨h.translations, hf, h.language, h.spaces⟩
  unfold View.translate
  split
  · split
    · exact h
    · exact ⟨h.translations, h.formatter, h.language, h.spaces⟩
  · split
    · exact h
    · exact hview _ ((v.formatter.format_language _ _).trans h.formatter)

end View

/-! ## Calls -/

/-- Whether a call in progress fits the view: what it has put together for a language to switch to
is what that language shows of the namespaces so far, and it asks for names that are well formed.
A call that starts a client fits none, as the view shows nothing yet. -/
def Call.Fits (s : Supply) (content : Content) (v : View) : Call → Prop
  | .switchBase language => (Key.text language).IsPlain
  | .switchSpace language merged index space =>
      (Key.text language).IsPlain ∧ v.spaces[index]? = some space ∧
        merged = s.shown content (.text language) (v.spaces.take index)
  | .startBase .. => False
  | .newSpace language space start =>
      language = v.language ∧ space.IsSpace ∧
        ∀ first ∈ start, ∀ o ∈ first.2, ∀ k ∈ o, k.IsSpace
  | .fallback q => q.All Key.IsSpace
  | .fallbackSpace _ space q => space.IsSpace ∧ q.All Key.IsSpace

/-- Whether the view is an active one, and fits the call if that goes on. -/
def Progress.Fits (s : Supply) (content : Content) : Progress → Prop
  | .waits v _ c => v.IsActive s content ∧ c.Fits s content v
  | .ends v _ _ => v.IsActive s content

theorem View.IsActive.of_agrees {v w : View} (h : v.IsActive s content) (hw : v.Agrees w) :
    w.IsActive s content := by
  obtain ⟨d, b, rfl⟩ := hw
  exact ⟨h.translations, h.formatter, h.language, h.spaces⟩

/-- What follows for an active view fits it. -/
theorem Progress.Follows.fits {v : View} {q : Sequel} {p : Progress} (hp : p.Follows v q)
    (h : v.IsActive s content) (hq : q.All Key.IsSpace) : p.Fits s content := by
  cases p with
  | ends w events result => exact h.of_agrees hp
  | waits w events c =>
    obtain ⟨hw, hc⟩ := hp
    have hactive := h.of_agrees hw
    refine ⟨hactive, ?_⟩
    cases hc with
    | newSpace started =>
      obtain ⟨d, b, rfl⟩ := hw
      subst started
      refine ⟨rfl, hq _ List.mem_cons_self _ rfl, ?_⟩
      intro first hfirst o ho
      cases hfirst
      exact hq o (List.mem_cons_of_mem _ ho)
    | fallback lacks => exact hq
    | fallbackSpace index loaded lacks => exact ⟨h.spaces _ loaded, hq⟩

namespace Call

variable {p : ClientPlan} {available : List String} {v : View}

theorem fits_overlay (h : v.IsActive s content) {language : String} {merged : Bundle} {index : Nat}
    (hlanguage : (Key.text language).IsPlain)
    (hmerged : merged = s.shown content (.text language) (v.spaces.take index)) :
    (overlay p available v language merged index).Fits s content := by
  rcases overlay_cases p available v language merged index with
    ⟨space, hspace, hwaits⟩ | ⟨hlength, hfollows⟩
  · rw [hwaits]
    exact ⟨h, hlanguage, hspace, hmerged⟩
  · rw [List.take_of_length_le hlength] at hmerged
    exact hfollows.fits (View.isActive_activate hlanguage h.spaces hmerged) trivial

/-- A call that goes on with the right bundle, or fails, leaves an active view behind. -/
theorem fits_resume (h : v.IsActive s content) {c : Call} (hc : c.Fits s content v)
    {result : Except LoadFault Bundle}
    (hresult : ∀ b, result = .ok b → b = s.bundle content (c.wanted p).1 (c.wanted p).2) :
    (c.resume p available v result).Fits s content := by
  cases c with
  | startBase language left => exact hc.elim
  | switchBase language =>
    cases result with
    | error f => exact h
    | ok b =>
      exact fits_overlay h hc (hresult b rfl)
  | switchSpace language merged index space =>
    obtain ⟨hlanguage, hspace, hmerged⟩ := hc
    cases result with
    | error f => exact h
    | ok b =>
      have hwell : space.IsSpace := h.spaces space (List.mem_of_getElem? hspace)
      have hb : b = s.bundle content (.text language) (some space) :=
        (hresult b rfl).trans (Supply.bundle_space? hwell _)
      apply fits_overlay h hlanguage
      rw [Supply.shown_take_succ hspace, hmerged, hb]
  | newSpace language space start =>
    obtain ⟨rfl, hspace, hstart⟩ := hc
    cases result with
    | error f => exact h
    | ok b =>
      have hb : b = s.bundle content v.language (some space) :=
        (hresult b rfl).trans (Supply.bundle_space? hspace _)
      have hadded : (added p v space b).IsActive s content := by
        rw [hb]
        unfold added
        split
        · exact (h.addSpace hspace).addFallbackSpace space _
        · exact h.addSpace hspace
      have hq : (addedSequel space b start).All Key.IsSpace := by
        cases start with
        | none => trivial
        | some first => exact hstart first rfl
      exact (follows_newSpace p available v _ space start b).fits hadded hq
  | fallback q =>
    cases result with
    | error f => exact (follows_fallback_error p available v q f).fits h hc
    | ok b =>
      have hnext : { v with fallback := some b }.IsActive s content :=
        ⟨h.translations, h.formatter, h.language, h.spaces⟩
      exact (follows_fallback_ok p available v q b).fits hnext hc
  | fallbackSpace index space q =>
    cases result with
    | error f => exact (follows_fallbackSpace_error p available v q index space f).fits h hc.2
    | ok b =>
      exact (follows_fallbackSpace_ok p available v q index space b).fits
        (h.addFallbackSpace space _) hc.2

/-- A view without namespaces fits a call that starts and goes on with the right bundle. -/
theorem fits_resume_startBase (p : ClientPlan) (available : List String)
    (hnone : v.spaces = []) {language : Key}
    (hlanguage : language.IsPlain) {left : List (Option Key)}
    (hleft : ∀ o ∈ left, ∀ k ∈ o, k.IsSpace) {b : Bundle}
    (hb : b = s.bundle content language none) :
    ((startBase language left).resume p available v (.ok b)).Fits s content := by
  have hspaces : ∀ k ∈ v.spaces, k.IsSpace := by
    rw [hnone]
    exact fun k hk => nomatch hk
  have hshown : b = s.shown content language v.spaces := by
    rw [hnone, Supply.shown_nil]
    exact hb
  exact (follows_activate p available v (.started language left) language b).fits
    (View.isActive_activate hlanguage hspaces hshown) hleft

theorem fits_switch (h : v.IsActive s content) {language : String}
    (hlanguage : (Key.text language).IsPlain) : (switch v language).Fits s content := by
  unfold switch
  split
  · exact h
  · exact ⟨h, hlanguage⟩

theorem fits_addSpace (h : v.IsActive s content) {space : Key} (hspace : space.IsSpace) :
    (addSpace v space).Fits s content :=
  ⟨h, rfl, hspace, fun _ hfirst => nomatch hfirst⟩

theorem Fits.wanted (hdefault : (Key.text p.defaultLanguage).IsPlain) (h : v.IsActive s content)
    {c : Call} (hc : c.Fits s content v) :
    (c.wanted p).1.IsPlain ∧ ∀ k ∈ (c.wanted p).2, k.IsSpace := by
  have hspace : ∀ k : Key, k.IsSpace → ∀ j ∈ k.space?, j.IsSpace :=
    fun _ hk => hk.1.forall_mem_space?.2 hk
  cases c with
  | startBase language left => exact hc.elim
  | switchBase language => exact ⟨hc, fun k hk => nomatch hk⟩
  | switchSpace language merged index space =>
    obtain ⟨hlanguage, hget, -⟩ := hc
    exact ⟨hlanguage, hspace space (h.spaces space (List.mem_of_getElem? hget))⟩
  | newSpace language space start =>
    obtain ⟨rfl, hname, -⟩ := hc
    exact ⟨h.language, hspace space hname⟩
  | fallback q => exact ⟨hdefault, fun k hk => nomatch hk⟩
  | fallbackSpace index space q => exact ⟨hdefault, hspace space hc.1⟩

end Call

/-! ## Clients -/

namespace Client

variable {p : ClientPlan} {c : Client}

/-- A call that waits for a bundle loads it and goes on from there. -/
theorem perform_eq_run (outside : Outside σ) (c : Client) (call : Call) (world : σ) :
    c.perform outside call world =
      let l := c.loader.load outside c.supply (call.wanted c.plan).1 (call.wanted c.plan).2 world
      let loaded := { c with loader := l.loader }
      (loaded.run outside (call.resume c.plan loaded.supportedLanguages c.view l.result)
        l.world).after l.events := by
  fun_cases Client.perform outside c call world with
  | case1 wanted l loaded view events result hresume =>
    simp only [wanted, l, loaded] at hresume
    simp only [hresume, run, Outcome.after, wanted, l, loaded]
  | case2 wanted l loaded view events next hresume hlt =>
    simp only [wanted, l, loaded] at hresume
    simp only [hresume, run, Outcome.after, List.append_assoc, wanted, l, loaded]

theorem start_eq_perform (outside : Outside σ) {events : List Event} {call : Call}
    (h : Call.start c.plan c.supportedLanguages c.view = .waits c.view events call) (world : σ) :
    c.start outside world = (c.perform outside call world).after events := by
  rw [start, h]
  rfl

/-- Whether a client has a plan and a supply and keeps none but genuine bundles. -/
structure IsSteady (outside : Outside σ) (p : ClientPlan) (s : Supply) (content : Content)
    (c : Client) : Prop where
  plan : c.plan = p
  supply : c.supply = s
  loader : c.loader.IsSound outside (s.Genuine content)

/-- Whether a steady client shows an active view. -/
structure IsActive (outside : Outside σ) (p : ClientPlan) (s : Supply) (content : Content)
    (c : Client) : Prop where
  steady : c.IsSteady outside p s content
  view : c.view.IsActive s content

/-- A steady client stays steady with a load, which brings the right bundle or fails. -/
theorem IsSteady.load (hserves : s.Serves outside content)
    (h : c.IsSteady outside p s content) {language : Key} {space : Option Key}
    (hlanguage : language.IsPlain) (hspace : ∀ k ∈ space, k.IsSpace) (world : σ) :
    (c.loader.load outside c.supply language space world).loader.IsSound outside
        (s.Genuine content) ∧
      ∀ b, (c.loader.load outside c.supply language space world).result = .ok b →
        b = s.bundle content language space := by
  rw [h.supply]
  obtain ⟨hsound, hgenuine⟩ := h.loader.load (hserves.answers hlanguage hspace) world
  exact ⟨hsound, fun b hb => hgenuine b hb language space hlanguage hspace rfl⟩

section Steady

variable (hserves : s.Serves outside content) (hdefault : (Key.text p.defaultLanguage).IsPlain)
include hserves hdefault

/-- The load of a call leaves a steady client behind and brings the right bundle or fails. -/
theorem IsActive.load (h : c.IsActive outside p s content) {call : Call}
    (hcall : call.Fits s content c.view) (world : σ) :
    { c with loader := (c.loader.load outside c.supply (call.wanted c.plan).1
        (call.wanted c.plan).2 world).loader }.IsSteady outside p s content ∧
      ∀ b, (c.loader.load outside c.supply (call.wanted c.plan).1
        (call.wanted c.plan).2 world).result = .ok b →
          b = s.bundle content (call.wanted c.plan).1 (call.wanted c.plan).2 := by
  have hwanted := hcall.wanted hdefault h.view
  rw [← h.steady.plan] at hwanted
  obtain ⟨hsound, hresult⟩ := h.steady.load hserves hwanted.1 hwanted.2 world
  exact ⟨⟨h.steady.plan, h.steady.supply, hsound⟩, hresult⟩

/-- A call that goes on after its load leaves a steady client and an active view behind. -/
theorem IsActive.resume (h : c.IsActive outside p s content) {call : Call}
    (hcall : call.Fits s content c.view) (available : List String) (world : σ) :
    { c with loader := (c.loader.load outside c.supply (call.wanted c.plan).1
        (call.wanted c.plan).2 world).loader }.IsSteady outside p s content ∧
      (call.resume c.plan available c.view (c.loader.load outside c.supply
        (call.wanted c.plan).1 (call.wanted c.plan).2 world).result).Fits s content := by
  obtain ⟨hsteady, hresult⟩ := h.load hserves hdefault hcall world
  exact ⟨hsteady, Call.fits_resume h.view hcall hresult⟩

/-- However the loads of a call go, the view is an active one in the end. -/
theorem IsActive.perform (h : c.IsActive outside p s content) {call : Call}
    (hcall : call.Fits s content c.view) (world : σ) :
    (c.perform outside call world).client.IsActive outside p s content := by
  fun_induction Client.perform outside c call world with
  | case1 c call world wanted l loaded view events result hresume =>
    obtain ⟨hsteady, hfits⟩ := h.resume hserves hdefault hcall loaded.supportedLanguages world
    rw [hresume] at hfits
    exact ⟨⟨hsteady.plan, hsteady.supply, hsteady.loader⟩, hfits⟩
  | case2 c call world wanted l loaded view events next hresume hlt ih =>
    obtain ⟨hsteady, hfits⟩ := h.resume hserves hdefault hcall loaded.supportedLanguages world
    rw [hresume] at hfits
    exact ih ⟨⟨hsteady.plan, hsteady.supply, hsteady.loader⟩, hfits.1⟩ hfits.2

theorem IsSteady.run (h : c.IsSteady outside p s content) {begun : Progress}
    (hbegun : begun.Fits s content) (world : σ) :
    (c.run outside begun world).client.IsActive outside p s content := by
  have hview : ∀ view : View, view.IsActive s content →
      { c with view := view }.IsActive outside p s content :=
    fun view hv => ⟨⟨h.plan, h.supply, h.loader⟩, hv⟩
  unfold Client.run
  split
  · exact hview _ hbegun
  · exact (hview _ hbegun.1).perform hserves hdefault hbegun.2 world

/-! ## Operations -/

/-- Whether the names that an operation is given are well formed. -/
def Op.IsPlain : Op → Prop
  | .switchLanguage language => (Key.text language).IsPlain
  | .addSpace space => space.IsSpace
  | .load language space => language.IsPlain ∧ ∀ k ∈ space, k.IsSpace
  | .translate .. => True
  | .clearCache => True

theorem IsActive.act (h : c.IsActive outside p s content) {op : Op} (hop : op.IsPlain)
    (world : σ) : (c.act outside world op).2.IsActive outside p s content := by
  cases op with
  | switchLanguage language =>
    exact h.steady.run hserves hdefault (Call.fits_switch h.view hop) world
  | addSpace space =>
    exact h.steady.run hserves hdefault (Call.fits_addSpace h.view hop) world
  | load language space =>
    obtain ⟨hsound, -⟩ := h.steady.load hserves hop.1 hop.2 world
    exact ⟨⟨h.steady.plan, h.steady.supply, hsound⟩, h.view⟩
  | translate space key values =>
    exact ⟨⟨h.steady.plan, h.steady.supply, h.steady.loader⟩, h.view.translate _ _ _⟩
  | clearCache =>
    refine ⟨⟨h.steady.plan, h.steady.supply, ?_⟩, ?_⟩
    · exact h.steady.loader.withCache (BundleCache.holds_clear _)
    · exact ⟨h.view.translations, h.view.formatter, h.view.language, h.view.spaces⟩

theorem IsActive.actAll (h : c.IsActive outside p s content) {ops : List Op}
    (hops : ∀ op ∈ ops, op.IsPlain) (world : σ) :
    (c.actAll outside world ops).2.IsActive outside p s content := by
  induction ops generalizing c world with
  | nil => exact h
  | cons op ops ih =>
    have hnext := h.act hserves hdefault (hops op List.mem_cons_self) world
    exact ih hnext (fun o ho => hops o (List.mem_cons_of_mem _ ho)) _

end Steady

/-! ## Starting -/

/-- A start that succeeds has loaded the bundle of a language and goes on with it. -/
theorem IsSteady.start_client_eq (h : c.IsSteady outside c.plan c.supply content)
    (hserves : c.supply.Serves outside content) (hplain : c.HasPlainLanguages)
    (hlanguage : c.view.language = .text c.plan.defaultLanguage) {world : σ} {r : Option Bundle}
    (hok : (c.start outside world).result = .ok r) :
    ∃ (loaded : Client) (language : Key) (available : List String) (world' : σ),
      loaded.IsSteady outside c.plan c.supply content ∧ language.IsPlain ∧
        (c.start outside world).client =
          (loaded.run outside ((Call.startBase language c.plan.spaces).resume c.plan available
            c.view (.ok (c.supply.bundle content language none))) world').client := by
  have hview : c.view.language.IsPlain := by
    rw [hlanguage]
    exact hplain.defaultLanguage
  rcases hplain.start_cases hview with ⟨events, f, hstart⟩ | ⟨events, language, hl, hstart⟩
  · rw [start, hstart] at hok
    cases hok
  · obtain ⟨hsound, hresult⟩ :=
      h.load hserves hl (fun k (hk : k ∈ none) => nomatch hk) world
    have hrun := start_eq_perform outside hstart world
    rw [perform_eq_run] at hrun
    simp only [Call.wanted] at hrun
    cases hload : (c.loader.load outside c.supply language none world).result with
    | error f =>
      rw [hrun, hload] at hok
      cases hok
    | ok b =>
      rw [hload, hresult b hload] at hrun
      have hclient := congrArg Outcome.client hrun
      exact ⟨{ c with loader := (c.loader.load outside c.supply language none world).loader },
        language, _, _, ⟨h.plan, h.supply, hsound⟩, hl, hclient⟩

theorem IsSteady.start (h : c.IsSteady outside c.plan c.supply content)
    (hserves : c.supply.Serves outside content) (hplain : c.HasPlainLanguages)
    (hspaces : ∀ o ∈ c.plan.spaces, ∀ k ∈ o, k.IsSpace) (hnone : c.view.spaces = [])
    (hlanguage : c.view.language = .text c.plan.defaultLanguage) {world : σ} {r : Option Bundle}
    (hok : (c.start outside world).result = .ok r) :
    (c.start outside world).client.IsActive outside c.plan c.supply content := by
  obtain ⟨loaded, language, available, world', hloaded, hl, hstart⟩ :=
    h.start_client_eq hserves hplain hlanguage hok
  rw [hstart]
  exact hloaded.run hserves hplain.defaultLanguage
    (Call.fits_resume_startBase c.plan available hnone hl hspaces rfl) world'

/-- A new client with an empty cache keeps none but genuine bundles. -/
theorem isSteady_of_create {settings : ClientSettings} {parts : Parts}
    {library : LocaleLibrary} (hc : create settings parts library = .ok c)
    (hcache : (parts.cache.getD .usual).entries = []) :
    c.IsSteady outside c.plan c.supply content := by
  obtain ⟨formatter, languages, -, hloader⟩ := create_eq_ok hc
  have hholds : (parts.cache.getD .usual).Holds (c.supply.Genuine content) := by
    intro e he
    rw [hcache] at he
    cases he
  refine ⟨rfl, rfl, ?_⟩
  rw [hloader]
  exact Loader.isSound_create _ languages hholds

/-- After a start that succeeds, and after everything that is done with the client then, it shows
the translations of its language with all loaded namespaces on top, whatever the cache keeps. -/
theorem translations_actAll {settings : ClientSettings} {parts : Parts}
    {library : LocaleLibrary} (hc : create settings parts library = .ok c)
    (hcache : (parts.cache.getD .usual).entries = [])
    (hplain : c.HasPlainLanguages) (hspaces : ∀ o ∈ c.plan.spaces, ∀ k ∈ o, k.IsSpace)
    (hserves : c.supply.Serves outside content) {world : σ} {r : Option Bundle}
    (hok : (c.start outside world).result = .ok r) {ops : List Op}
    (hops : ∀ op ∈ ops, op.IsPlain) (world' : σ) :
    let v := ((c.start outside world).client.actAll outside world' ops).2.view
    v.translations = c.supply.shown content v.language v.spaces ∧
      v.formatter.language = v.language := by
  obtain ⟨formatter, languages, hview, -⟩ := create_eq_ok hc
  have hsteady : c.IsSteady outside c.plan c.supply content := isSteady_of_create hc hcache
  have hnone : c.view.spaces = [] := by rw [hview]; rfl
  have hlanguage : c.view.language = .text c.plan.defaultLanguage := by rw [hview]; rfl
  have hstarted := hsteady.start hserves hplain hspaces hnone hlanguage hok
  have hactive := hstarted.actAll hserves hplain.defaultLanguage hops world'
  exact ⟨hactive.view.translations, hactive.view.formatter⟩

theorem perform_of_ends (outside : Outside σ) (c : Client) (call : Call) (world : σ) {view : View}
    {events : List Event} {result : Except CallFault (Option Bundle)}
    (h : call.resume c.plan
      { c with loader := (c.loader.load outside c.supply (call.wanted c.plan).1
        (call.wanted c.plan).2 world).loader }.supportedLanguages c.view
      (c.loader.load outside c.supply (call.wanted c.plan).1 (call.wanted c.plan).2 world).result =
        .ends view events result) :
    c.perform outside call world =
      let l := c.loader.load outside c.supply (call.wanted c.plan).1 (call.wanted c.plan).2 world
      ⟨l.world, { c with loader := l.loader, view := view }, l.events ++ events, result⟩ := by
  rw [perform_eq_run]
  simp only [h]
  rfl

theorem perform_result_of_ends {call : Call} {world : σ} {view : View} {events : List Event}
    {result : Except CallFault (Option Bundle)}
    (h : call.resume c.plan
      { c with loader := (c.loader.load outside c.supply (call.wanted c.plan).1
        (call.wanted c.plan).2 world).loader }.supportedLanguages c.view
      (c.loader.load outside c.supply (call.wanted c.plan).1 (call.wanted c.plan).2 world).result =
        .ends view events result) :
    (c.perform outside call world).result = result := by
  rw [perform_of_ends outside c call world h]

/-- A client with a greeting of its own. -/
def Parts.greeting : Parts := .served (some [("en", .dict [("hello", .text "Hello")])])

def Parts.greetingFiles : List (String × Bundle) :=
  [("/locales/de.json", [("hello", .text "Hallo")]),
    ("/locales/en/shop.json", [("title", .text "Shop")]),
    ("/locales/de/shop.json", [("title", .text "Laden")])]

theorem translations_actAll_greeting :
    ∃ c r, create (.ofEntries []) .greeting = .ok c ∧
      (c.start (.serving Parts.greetingFiles) ()).result = .ok r ∧
      let v := ((c.start (.serving Parts.greetingFiles) ()).client.actAll
        (.serving Parts.greetingFiles) ()
          [.addSpace "shop", .clearCache, .switchLanguage "de"]).2.view
      v.translations =
          c.supply.shown (.served Parts.greetingFiles "/locales") v.language v.spaces ∧
        v.formatter.language = v.language := by
  obtain ⟨c, hc⟩ : ∃ c, create (.ofEntries []) .greeting = .ok c := ⟨_, rfl⟩
  obtain ⟨r, hr⟩ : ∃ r, (c.start (.serving Parts.greetingFiles) ()).result = .ok r := by
    cases hc
    exact ⟨none, perform_result_of_ends rfl⟩
  have hserves : c.supply.Serves (.serving Parts.greetingFiles)
      (.served Parts.greetingFiles "/locales") := by
    cases hc
    exact Supply.serves_served rfl _
  have hen : (Key.text "en").IsPlain := Key.isPlain_text_iff.2 (by decide)
  have hspaces : ∀ o ∈ c.plan.spaces, ∀ k ∈ o, k.IsSpace := by
    cases hc
    exact fun o ho => nomatch ho
  have hplain : c.HasPlainLanguages := by
    cases hc
    refine ⟨hen, hen, ?_⟩
    intro language hlanguage
    rw [List.mem_singleton.1 hlanguage]
    exact hen
  have hops : ∀ op ∈ [Op.addSpace "shop", .clearCache, .switchLanguage "de"], op.IsPlain := by
    intro op hop
    simp only [List.mem_cons, List.not_mem_nil, or_false] at hop
    rcases hop with rfl | rfl | rfl
    · exact ⟨Key.isPlain_text_iff.2 (by decide), by decide⟩
    · trivial
    · exact Key.isPlain_text_iff.2 (by decide)
  exact ⟨c, r, hc, hr, translations_actAll hc rfl hplain hspaces hserves hr hops ()⟩

end Client
end Polyglot
