import Polyglot.Proofs.Client.Creation
import Polyglot.Proofs.Client.Session

/-!
# Mixing

Whether the translations of one language end up among those of another when calls go on side by
side. They do exactly when a namespace that was asked for in one language arrives after another
language became the active one, and has something there that the active language has not.
-/
namespace Polyglot.Session

variable {σ : Type} {outside : Outside σ} {content : Content} {p : ClientPlan} {s : Supply}
  {keyOf : Nat → Key} {t : Session σ}

/-- Whether a call that arrives in a step with a namespace adds nothing but what the active language
has of it. -/
def Keeps (outside : Outside σ) (content : Content) (t : Session σ) (step : Step) : Prop :=
  ∀ call b, t.answered? outside step = some (call, .ok b) → call.Keeps content t.view

section Steps

variable (hserves : s.Serves outside content) (hbases : s.HasPlainBases outside)
  (hmain : (Key.text p.defaultLanguage).IsPlain)
include hserves hbases hmain

/-- A step that keeps the active language keeps a pure view. -/
theorem IsSound.isPure_act (h : t.IsSound outside content p s keyOf)
    (hpure : t.view.IsPure content p.defaultLanguage) {step : Step}
    (hkeeps : t.Keeps outside content step) :
    (t.act outside step).view.IsPure content p.defaultLanguage := by
  rcases t.view_act step with ⟨call, result, available, ha, hview⟩ | ⟨-, hview⟩
  · obtain ⟨hnamed, hright⟩ := h.answered hserves hbases hmain ha
    rw [hview, h.plan]
    apply Call.isPure_resume hpure hnamed
    rintro b rfl
    exact ⟨hright b rfl, hkeeps call b ha⟩
  · rw [hview]
    exact hpure

/-- A step that leaves an unmixed view behind keeps the active language. -/
theorem IsSound.keeps_of_isUnmixed (h : t.IsSound outside content p s keyOf) {step : Step}
    (hunmixed : (t.act outside step).view.IsUnmixed content p.defaultLanguage) :
    t.Keeps outside content step := by
  intro call b ha
  obtain ⟨hnamed, hright⟩ := h.answered hserves hbases hmain ha
  rcases t.view_act step with ⟨call', result, available, ha', hview⟩ | ⟨hnone, -⟩
  · rw [ha] at ha'
    cases ha'
    rw [hview, h.plan] at hunmixed
    exact Call.keeps_of_isUnmixed hnamed (hright b rfl) hunmixed
  · rw [ha] at hnone
    cases hnone

end Steps

/-! ## The main result -/

theorem isPure_create {main : String} {given : Option Bundle}
    (hgiven : ∀ b ∈ given, b.HasPlainKeys) (formatter : Message.Formatter)
    (detector : Option Detector) :
    (View.create main given formatter detector).IsPure content main := by
  constructor
  · cases given with
    | none => exact fun e he => nomatch he
    | some b => exact Content.isPure_of_hasPlainKeys (hgiven b rfl) _
  · intro b hb
    have hmem : b ∈ given := (Option.mem_filter_iff.1 hb).1
    exact Content.isPure_of_hasPlainKeys (hgiven b hmem) _

/-- A new client with plain names, nothing in its cache and sources of a fixed content. -/
structure IsFresh (outside : Outside σ) (content : Content) (c : Client) : Prop where
  made : ∃ settings parts library, Client.create settings parts library = .ok c ∧
    (parts.cache.getD .usual).entries = []
  languages : c.HasPlainLanguages
  spaces : ∀ o ∈ c.plan.spaces, ∀ k ∈ o, k.IsPlain
  serves : c.supply.Serves outside content
  bases : c.supply.HasPlainBases outside

/-- The session in which a fresh client starts is sound, and its view is pure. -/
theorem IsFresh.create {c : Client} (h : IsFresh outside content c) (world : σ)
    (keyOf : Nat → Key) :
    (create c world).IsSound outside content c.plan c.supply keyOf ∧
      (create c world).view.IsPure content c.plan.defaultLanguage := by
  obtain ⟨settings, parts, library, hc, hcache⟩ := h.made
  obtain ⟨formatter, languages, hview, hloader⟩ := Client.create_eq_ok hc
  have hholds : (parts.cache.getD .usual).Holds content.Suits := by
    intro e he
    rw [hcache] at he
    cases he
  have hlanguage : c.view.language.IsPlain := by
    rw [hview]
    exact h.languages.defaultLanguage
  have hnamed : c.view.IsNamed := by
    refine ⟨hlanguage, ?_⟩
    rw [hview]
    exact fun k hk => nomatch hk
  have hpure : c.view.IsPure content c.plan.defaultLanguage := by
    rw [hview]
    exact isPure_create (h.bases.given _) formatter parts.detector
  have hempty : (⟨world, c, [], []⟩ : Session σ).IsSound outside content c.plan c.supply keyOf := by
    refine ⟨rfl, rfl, ?_, ?_, fun u hu => (nomatch hu), hnamed, fun w hw => (nomatch hw),
      fun call task hw => (nomatch hw)⟩
    · rw [hloader]
      exact Loader.isSound_create _ languages hholds
    · rw [hloader]
      exact fun u hu => nomatch hu
  have hstart : (Call.start c.plan c.supportedLanguages c.view).IsNamed content ∧
      (Call.start c.plan c.supportedLanguages c.view).view = c.view := by
    rcases h.languages.start_cases hlanguage with ⟨events, f, hs⟩ | ⟨events, language, hl, hs⟩
    · rw [hs]
      exact ⟨hnamed, rfl⟩
    · rw [hs]
      exact ⟨⟨hnamed, hl, h.spaces⟩, rfl⟩
  refine ⟨hempty.goesOn (List.Subset.refl _) hstart.1, ?_⟩
  rw [Session.create, view_goesOn, hstart.2]
  exact hpure

/-- In a session in which a client starts and calls go on side by side, in any order, no state shows
an entry of a loaded namespace that comes from another language, exactly when every call that
arrives with a namespace adds nothing but what the active language has of it. -/
theorem isUnmixed_iff_keeps {c : Client} (hc : IsFresh outside content c) (world : σ)
    {steps : List Step} (hsteps : ∀ step ∈ steps, step.IsPlain) :
    (∀ n, ((create c world).run outside (steps.take n)).view.IsUnmixed content
      c.plan.defaultLanguage) ↔
    ∀ n step, steps[n]? = some step →
      ((create c world).run outside (steps.take n)).Keeps outside content step := by
  obtain ⟨hsound, hpure⟩ := hc.create world fun _ => .null
  have hmain := hc.languages.defaultLanguage
  constructor
  · intro hunmixed n step hstep
    obtain ⟨keyOf, h⟩ := hsound.run hc.serves hc.bases hmain hsteps n
    have hnext := hunmixed (n + 1)
    rw [run_take_succ _ hstep] at hnext
    exact h.keeps_of_isUnmixed hc.serves hc.bases hmain hnext
  · intro hkeeps n
    have hpureAll : ((create c world).run outside (steps.take n)).view.IsPure content
        c.plan.defaultLanguage := by
      induction n with
      | zero => exact hpure
      | succ n ih =>
        obtain ⟨keyOf, h⟩ := hsound.run hc.serves hc.bases hmain hsteps n
        cases hstep : steps[n]? with
        | none =>
          rw [run_take_of_none _ hstep]
          exact ih
        | some step =>
          rw [run_take_succ _ hstep]
          exact h.isPure_act hc.serves hc.bases hmain ih (hkeeps n step hstep)
    obtain ⟨keyOf, h⟩ := hsound.run hc.serves hc.bases hmain hsteps n
    exact hpureAll.isUnmixed h.view

/-! ## A namespace that arrives late -/

/-- A client with files for two languages. -/
def shop : Client.Parts := .served none

def shopFiles : List (String × Bundle) :=
  [("/locales/en.json", [("hello", .text "Hello")]),
    ("/locales/de.json", [("hello", .text "Hallo")]),
    ("/locales/en/shop.json", [("title", .text "Shop")]),
    ("/locales/de/shop.json", [("title", .text "Laden")])]

/-- While a namespace is fetched in the first language, a switch to the other one begins and ends. -/
def lateArrival : List Step :=
  [.ask 0, .turn 0, .wake 0, .addSpace "shop", .ask 0, .switchLanguage "de", .ask 1, .turn 1,
    .wake 1, .turn 0, .wake 0, .ask 0]

theorem hasPlainKeys_shopFiles : ∀ f ∈ shopFiles, f.2.HasPlainKeys := by
  intro f hf e he s hs
  simp only [shopFiles, List.mem_cons, List.not_mem_nil, or_false] at hf
  rcases hf with rfl | rfl | rfl | rfl <;>
    (rw [List.mem_singleton.1 he] at hs; cases hs; decide)

theorem isFresh_shop {c : Client} (hc : Client.create (.ofEntries []) shop = .ok c) :
    IsFresh (.serving shopFiles) (.served shopFiles "/locales") c := by
  have hen : (Key.text "en").IsPlain := Key.isPlain_text_iff.2 (by decide)
  have hmade : ∃ settings parts library, Client.create settings parts library = .ok c ∧
      (parts.cache.getD .usual).entries = [] := ⟨.ofEntries [], shop, .known, hc, rfl⟩
  cases hc
  refine ⟨hmade, ⟨hen, hen, ?_⟩, fun o ho => (nomatch ho), Supply.serves_served rfl _,
    Supply.hasPlainBases_served rfl rfl hasPlainKeys_shopFiles⟩
  intro language hlanguage
  rw [List.mem_singleton.1 hlanguage]
  exact hen

theorem isPlain_lateArrival : ∀ step ∈ lateArrival, step.IsPlain := by
  intro step hstep
  simp only [lateArrival, List.mem_cons, List.not_mem_nil, or_false] at hstep
  rcases hstep with rfl | rfl | rfl | rfl | rfl | rfl | rfl | rfl | rfl | rfl | rfl | rfl
  case inr.inr.inr.inl => exact Key.isPlain_text_iff.2 (by decide)
  case inr.inr.inr.inr.inr.inl => exact Key.isPlain_text_iff.2 (by decide)
  all_goals trivial

theorem not_isUnmixed_of_shown {v : View} {main x y : String} {space key : Key}
    (hmem : space ∈ v.spaces) (hunder : space.IsUnder key)
    (hshown : (Entries.get? v.translations key).bind Value.text? = some x)
    (hcontent : Call.prefixed space (content v.language (some space)) = [(key, .text y)])
    (hne : x ≠ y) : ¬v.IsUnmixed content main := by
  intro h
  obtain ⟨z, hz, htext⟩ := Option.bind_eq_some_iff.1 hshown
  have hentry := h.translations _ (Entries.mem_of_get? hz) space hmem hunder
  rw [hcontent, List.mem_singleton, Prod.mk.injEq] at hentry
  rw [hentry.2, Value.text?, Option.some.injEq] at htext
  exact hne htext.symm

/-- Once all calls have ended, the other language shows what the first one has of the namespace. -/
theorem not_isUnmixed_lateArrival {c : Client} (hc : Client.create (.ofEntries []) shop = .ok c) :
    ((create c ()).run (.serving shopFiles) lateArrival).calls = [] ∧
      ¬((create c ()).run (.serving shopFiles) lateArrival).view.IsUnmixed
        (.served shopFiles "/locales") c.plan.defaultLanguage := by
  cases hc
  refine ⟨List.length_eq_zero_iff.1 (by decide +kernel), ?_⟩
  generalize hview : ((create _ ()).run (.serving shopFiles) lateArrival).view = v
  have hspaces : Key.text "shop" ∈ v.spaces := by
    rw [← hview]
    decide +kernel
  have hshown : (Entries.get? v.translations (.text "shop:title")).bind Value.text? =
      some "Shop" := by
    rw [← hview]
    decide +kernel
  have hlanguage : v.language = .text "de" := by
    rw [← hview]
    decide +kernel
  have hcontent : Call.prefixed "shop" (Content.served shopFiles "/locales" v.language
      (some "shop")) = [(.text "shop:title", .text "Laden")] := by
    rw [hlanguage]
    rfl
  exact not_isUnmixed_of_shown hspaces ⟨"title", rfl⟩ hshown hcontent (by decide)

theorem exists_not_keeps :
    ∃ c n step, Client.create (.ofEntries []) shop = .ok c ∧ lateArrival[n]? = some step ∧
      ¬((create c ()).run (.serving shopFiles) (lateArrival.take n)).Keeps (.serving shopFiles)
        (.served shopFiles "/locales") step := by
  obtain ⟨c, hc⟩ : ∃ c, Client.create (.ofEntries []) shop = .ok c := ⟨_, rfl⟩
  have hiff := isUnmixed_iff_keeps (isFresh_shop hc) () isPlain_lateArrival
  have hmixed : ¬∀ n, ((create c ()).run (.serving shopFiles) (lateArrival.take n)).view.IsUnmixed
      (.served shopFiles "/locales") c.plan.defaultLanguage :=
    fun h => (not_isUnmixed_lateArrival hc).2 (h lateArrival.length)
  rw [hiff] at hmixed
  simp only [not_forall] at hmixed
  obtain ⟨n, step, hstep, hkeeps⟩ := hmixed
  exact ⟨c, n, step, hc, hstep, hkeeps⟩

theorem exists_mixed :
    ¬∀ (σ : Type) (outside : Outside σ) (content : Content) (c : Client) (world : σ)
      (steps : List Step), IsFresh outside content c → (∀ step ∈ steps, step.IsPlain) →
        ((create c world).run outside steps).calls = [] →
          ((create c world).run outside steps).view.IsUnmixed content c.plan.defaultLanguage := by
  intro h
  obtain ⟨c, hc⟩ : ∃ c, Client.create (.ofEntries []) shop = .ok c := ⟨_, rfl⟩
  obtain ⟨hcalls, hmixed⟩ := not_isUnmixed_lateArrival hc
  exact hmixed (h Unit _ _ c () lateArrival (isFresh_shop hc) isPlain_lateArrival hcalls)

/-! ## A namespace without a name -/

/-- A client with a greeting of its own, and a cache that keeps nothing for long. -/
def unnamed : Client.Parts :=
  { Client.Parts.served (some [("en", .dict [("hello", .text "Hello")])]) with
    cache := some (.create ⟨0⟩ none) }

/-- The files of that client: the one without a namespace has a key with a delimiter. -/
def unnamedFiles : List (String × Bundle) :=
  [("/locales/en.json", [("shop:title", .text "Store")]),
    ("/locales/en/shop.json", [("title", .text "Shop")])]

/-- One call after the other adds a namespace and the one whose name is empty. -/
def unnamedSteps : List Step :=
  [.ask 0, .addSpace "shop", .ask 0, .turn 0, .wake 0, .addSpace "", .ask 0, .turn 0, .wake 0]

/-- The namespace without a name is not looked for in the given data, and goes in as it is. Plain
keys of the given data are therefore not enough, even if no call waits for another. -/
theorem exists_mixed_unnamed :
    ∃ c, Client.create (.ofEntries []) unnamed = .ok c ∧
      (∀ language b, c.supply.given? language none = some b → b.HasPlainKeys) ∧
      c.supply.Serves (.serving unnamedFiles) (.served unnamedFiles "/locales") ∧
      ((create c ()).run (.serving unnamedFiles) unnamedSteps).calls = [] ∧
      ¬((create c ()).run (.serving unnamedFiles) unnamedSteps).view.IsUnmixed
        (.served unnamedFiles "/locales") c.plan.defaultLanguage := by
  refine ⟨_, rfl, ?_, Supply.serves_served rfl _, List.length_eq_zero_iff.1 (by decide +kernel), ?_⟩
  · intro language b hb
    by_cases hl : Key.text "en" = language
    · subst hl
      cases hb
      intro e he s hs
      rw [List.mem_singleton.1 he] at hs
      cases hs
      decide
    · simp [Supply.given?, Bundle.select, unnamed, Client.Parts.served, Entries.get?, hl,
        Bundle.coversLanguage] at hb
  · generalize hview : ((create _ ()).run (.serving unnamedFiles) unnamedSteps).view = v
    have hspaces : Key.text "shop" ∈ v.spaces := by
      rw [← hview]
      decide +kernel
    have hshown : (Entries.get? v.translations (.text "shop:title")).bind Value.text? =
        some "Store" := by
      rw [← hview]
      decide +kernel
    have hlanguage : v.language = .text "en" := by
      rw [← hview]
      decide +kernel
    have hcontent : Call.prefixed "shop" (Content.served unnamedFiles "/locales" v.language
        (some "shop")) = [(.text "shop:title", .text "Shop")] := by
      rw [hlanguage]
      rfl
    exact not_isUnmixed_of_shown hspaces ⟨"title", rfl⟩ hshown hcontent (by decide)

end Polyglot.Session
