import Polyglot.Proofs.Client.Atomicity

/-!
# Languages that are given

A switch to a language whose bundle is given with the program needs no source for it. What such a
switch still loads is for the default language, and changes nothing of what the active one shows.
-/
namespace Polyglot

variable {σ : Type} {outside : Outside σ}

/-! ## Given bundles -/

theorem Loader.load_result_of_given {l : Loader} {s : Supply} {language : Key} {space : Option Key}
    {b : Bundle} (hcache : l.cache.entries = []) (hb : s.given? language space = some b)
    (world : σ) : (l.load outside s language space world).result = .ok b := by
  have hmiss : ∀ now, (l.cache.get now language space).2 = none := by
    intro now
    simp only [BundleCache.get, hcache]
    rfl
  unfold Loader.load Loader.request
  simp only [hmiss, hb]

/-! ## What a view shows -/

/-- Whether a view shows the same as another one for the active language. -/
structure View.ShowsSame (v w : View) : Prop where
  language : w.language = v.language
  translations : w.translations = v.translations
  formatter : w.formatter = v.formatter

theorem View.ShowsSame.trans {u v w : View} (h : u.ShowsSame v) (h' : v.ShowsSame w) :
    u.ShowsSame w :=
  ⟨h'.language.trans h.language, h'.translations.trans h.translations,
    h'.formatter.trans h.formatter⟩

theorem View.Agrees.showsSame {v w : View} (h : v.Agrees w) : v.ShowsSame w := by
  obtain ⟨d, b, rfl⟩ := h
  exact ⟨rfl, rfl, rfl⟩

/-- Whether a call goes on with a view that shows the same, or ends with one. -/
def Progress.ShowsSame (v : View) : Progress → Prop
  | .waits w _ _ => v.ShowsSame w
  | .ends w _ _ => v.ShowsSame w

theorem Progress.Follows.showsSame {u v : View} {q : Sequel} {progress : Progress}
    (h : progress.Follows v q) (hv : u.ShowsSame v) : progress.ShowsSame u := by
  cases progress with
  | waits w events c => exact hv.trans h.1.showsSame
  | ends w events result =>
    have hw : v.Agrees w := h
    exact hv.trans hw.showsSame

/-- What is loaded for the default language changes nothing for the active one. -/
theorem Call.Completes.resume_showsSame {c : Call} (h : c.Completes) (p : ClientPlan)
    (available : List String) (v : View) (result : Except LoadFault Bundle) :
    (c.resume p available v result).ShowsSame v := by
  cases c with
  | fallback q =>
    cases result with
    | ok b => exact (follows_fallback_ok p available v q b).showsSame ⟨rfl, rfl, rfl⟩
    | error f => exact (follows_fallback_error p available v q f).showsSame ⟨rfl, rfl, rfl⟩
  | fallbackSpace index space q =>
    cases result with
    | ok b =>
      exact (follows_fallbackSpace_ok p available v q index space b).showsSame ⟨rfl, rfl, rfl⟩
    | error f =>
      exact (follows_fallbackSpace_error p available v q index space f).showsSame ⟨rfl, rfl, rfl⟩
  | _ => exact h.elim

namespace Client

variable {c : Client}

theorem perform_showsSame {call : Call} (h : call.Completes) (world : σ) :
    c.view.ShowsSame (c.perform outside call world).client.view := by
  fun_induction Client.perform outside c call world with
  | case1 c call world wanted l loaded view events result hresume =>
    have hshows := h.resume_showsSame c.plan loaded.supportedLanguages c.view l.result
    rw [hresume] at hshows
    exact hshows
  | case2 c call world wanted l loaded view events next hresume hlt ih =>
    have hshows := h.resume_showsSame c.plan loaded.supportedLanguages c.view l.result
    have hnext := h.resume c.plan loaded.supportedLanguages c.view l.result
    rw [hresume] at hshows hnext
    exact View.ShowsSame.trans hshows (ih hnext)

theorem run_showsSame {v : View} {begun : Progress} (h : begun.ShowsSame v) (hc : begun.Completes)
    (world : σ) : v.ShowsSame (c.run outside begun world).client.view := by
  cases begun with
  | ends view events result => exact h
  | waits view events call =>
    have hcall : call.Completes := hc
    exact View.ShowsSame.trans h (perform_showsSame (c := { c with view := view }) hcall world)

/-- A client without namespaces that switches to a language whose bundle is given shows that
bundle. -/
theorem switchLanguage_of_given (outside : Outside σ) {language : String} {b : Bundle}
    (hspaces : c.view.spaces = [])
    (hcache : c.loader.cache.entries = []) (hne : c.view.language ≠ .text language)
    (hb : c.supply.given? (.text language) none = some b) (world : σ) :
    (c.view.activate c.plan.defaultLanguage (.text language) b).view.ShowsSame
      (c.switchLanguage outside language world).client.view := by
  have hload : (c.loader.load outside c.supply (.text language) none world).result = .ok b :=
    Loader.load_result_of_given hcache hb world
  have hswitch : c.switchLanguage outside language world =
      (c.perform outside (.switchBase language) world).after [] := by
    rw [switchLanguage, Call.switch, if_neg hne]
    rfl
  have hoverlay : ∀ available, Call.overlay c.plan available c.view language b 0 =
      Call.activate c.plan available c.view language b (.switched language) := by
    intro available
    rw [Call.overlay, hspaces]
    rfl
  rw [hswitch, perform_eq_run]
  simp only [Call.wanted, hload, Call.resume, hoverlay]
  refine run_showsSame (c := { c with loader := _ }) ?_
    (Call.completes_activate (q := .switched language) trivial _ b) _
  exact (Call.follows_activate c.plan _ c.view (.switched language) _ b).showsSame ⟨rfl, rfl, rfl⟩

end Client
end Polyglot
