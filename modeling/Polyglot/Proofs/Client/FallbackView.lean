import Polyglot.Proofs.Client.ActiveView

/-!
# The fallback view

Besides its active language a client shows the default one, in which missing keys are looked up:
the translations of that language with the loaded namespaces on top, as far as they could be
loaded. A namespace is noted only together with its entries, so that one that could not be loaded
is tried again by the next call that adds a namespace or switches the language.
-/
namespace Polyglot

variable {σ : Type} {outside : Outside σ} {s : Supply} {content : Content} {p : ClientPlan}

/-! ## Views -/

/-- Whether a view has the translations of the default language with all loaded namespaces. -/
structure View.IsComplete (v : View) : Prop where
  fallback : v.fallback ≠ none
  spaces : ∀ k, k ∈ v.fallbackSpaces ↔ k ∈ v.spaces

/-- Whether a view has, of the default language, either nothing or its translations with the noted
namespaces on top, which are loaded ones. -/
structure View.HasFallback (s : Supply) (content : Content) (p : ClientPlan) (v : View) :
    Prop where
  fallback : ∀ b ∈ v.fallback, b = s.shown content (.text p.defaultLanguage) v.fallbackSpaces
  nothing : v.fallback = none → v.fallbackSpaces = []
  loaded : v.fallbackSpaces ⊆ v.spaces

/-- Whether a view has nothing but genuine translations of the default language, and has them all
while that language is the active one. -/
structure View.IsBacked (s : Supply) (content : Content) (p : ClientPlan) (v : View) : Prop
    extends v.HasFallback s content p where
  active : v.language = .text p.defaultLanguage → v.IsComplete

namespace View

variable {v w : View}

theorem mem_addSpace {space k : Key} (b : Bundle) :
    k ∈ (v.addSpace space b).spaces ↔ k ∈ v.spaces ∨ k = space := by
  unfold addSpace
  split
  · rename_i hmem
    exact ⟨.inl, fun h => h.elim id fun heq => heq ▸ hmem⟩
  · simp

theorem mem_addFallbackSpace {space k : Key} (b : Bundle) :
    k ∈ (v.addFallbackSpace space b).fallbackSpaces ↔ k ∈ v.fallbackSpaces ∨ k = space := by
  unfold addFallbackSpace
  split
  · rename_i hmem
    exact ⟨.inl, fun h => h.elim id fun heq => heq ▸ hmem⟩
  · simp

theorem IsComplete.of_eq (h : v.IsComplete) (hfallback : w.fallback = v.fallback)
    (hnoted : w.fallbackSpaces = v.fallbackSpaces) (hspaces : w.spaces = v.spaces) :
    w.IsComplete :=
  ⟨hfallback ▸ h.fallback, hnoted ▸ hspaces ▸ h.spaces⟩

theorem IsBacked.of_eq (h : v.IsBacked s content p) (hlanguage : w.language = v.language)
    (hfallback : w.fallback = v.fallback) (hnoted : w.fallbackSpaces = v.fallbackSpaces)
    (hspaces : w.spaces = v.spaces) : w.IsBacked s content p where
  fallback := hfallback ▸ hnoted ▸ h.fallback
  nothing := hfallback ▸ hnoted ▸ h.nothing
  loaded := hnoted ▸ hspaces ▸ h.loaded
  active := fun hactive => (h.active (hlanguage ▸ hactive)).of_eq hfallback hnoted hspaces

theorem IsComplete.of_agrees (h : v.IsComplete) (hw : v.Agrees w) : w.IsComplete := by
  obtain ⟨d, b, rfl⟩ := hw
  exact h.of_eq rfl rfl rfl

theorem IsBacked.of_agrees (h : v.IsBacked s content p) (hw : v.Agrees w) :
    w.IsBacked s content p := by
  obtain ⟨d, b, rfl⟩ := hw
  exact h.of_eq rfl rfl rfl rfl

/-- A new namespace of both the active and the default language leaves nothing out. -/
theorem IsComplete.addBoth (h : v.IsComplete) (space : Key) (b : Bundle) :
    ((v.addSpace space b).addFallbackSpace space b).IsComplete := by
  refine ⟨Option.some_ne_none _, fun k => ?_⟩
  calc k ∈ ((v.addSpace space b).addFallbackSpace space b).fallbackSpaces
      ↔ k ∈ v.fallbackSpaces ∨ k = space := mem_addFallbackSpace b
    _ ↔ k ∈ v.spaces ∨ k = space := or_congr_left (h.spaces k)
    _ ↔ k ∈ (v.addSpace space b).spaces := (mem_addSpace b).symm

theorem IsComplete.addFallbackSpace (h : v.IsComplete) {space : Key} (hspace : space ∈ v.spaces)
    (b : Bundle) : (v.addFallbackSpace space b).IsComplete := by
  refine ⟨Option.some_ne_none _, fun k => (mem_addFallbackSpace b).trans ?_⟩
  rw [h.spaces]
  exact ⟨fun hk => hk.elim id fun heq => heq ▸ hspace, .inl⟩

theorem HasFallback.addSpace (h : v.HasFallback s content p) (space : Key) (b : Bundle) :
    (v.addSpace space b).HasFallback s content p :=
  ⟨h.fallback, h.nothing, fun _ hk => (mem_addSpace b).2 (.inl (h.loaded hk))⟩

/-- The entries of a loaded namespace go on top of the translations of the default language, once
these are there; a namespace that is noted already stays where it is. -/
theorem HasFallback.addFallbackSpace (h : v.HasFallback s content p)
    (hspaces : ∀ k ∈ v.spaces, k.IsSpace) (hsome : v.fallback ≠ none) {space : Key}
    (hspace : space ∈ v.spaces) :
    (v.addFallbackSpace space (Call.prefixed space
      (s.bundle content (.text p.defaultLanguage) (some space)))).HasFallback s content p := by
  have hloaded : (v.addFallbackSpace space (Call.prefixed space
      (s.bundle content (.text p.defaultLanguage) (some space)))).fallbackSpaces ⊆ v.spaces := by
    intro k hk
    rcases (mem_addFallbackSpace _).1 hk with hold | rfl
    · exact h.loaded hold
    · exact hspace
  obtain ⟨b, hb⟩ := Option.ne_none_iff_exists'.1 hsome
  refine ⟨?_, fun hnone => absurd hnone (Option.some_ne_none _), hloaded⟩
  intro shown hshown
  cases hshown
  simp only [hb, Option.getD_some, h.fallback b hb, View.addFallbackSpace]
  by_cases hmem : space ∈ v.fallbackSpaces
  · rw [if_pos hmem, Supply.update_shown (fun k hk => hspaces k (h.loaded hk)) hmem]
  · rw [if_neg hmem, Supply.shown_append]

/-- Making the default language the active one gives it all loaded namespaces; another one leaves
the default language as it is. -/
theorem HasFallback.activate (h : v.HasFallback s content p) {language : Key}
    (hlanguage : language.IsPlain) {b : Bundle} (hb : b = s.shown content language v.spaces) :
    (v.activate p.defaultLanguage language b).view.IsBacked s content p := by
  obtain ⟨l, rfl, -⟩ := hlanguage
  unfold View.activate
  simp only [Message.Formatter.setLanguage_text_result]
  by_cases hdefault : Key.text l = .text p.defaultLanguage
  · simp only [hdefault, decide_true, Except.toBool, Bool.and_self, if_true]
    refine ⟨⟨?_, fun hnone => absurd hnone (Option.some_ne_none _), List.Subset.refl _⟩, ?_⟩
    · intro shown hshown
      cases hshown
      rw [hb, hdefault]
    · exact fun _ => ⟨Option.some_ne_none _, fun _ => Iff.rfl⟩
  · simp only [hdefault, decide_false, Bool.and_false, Bool.false_eq_true, if_false]
    exact ⟨⟨h.fallback, h.nothing, h.loaded⟩, fun heq => absurd heq hdefault⟩

theorem IsBacked.addFallbackSpace (h : v.IsBacked s content p)
    (hspaces : ∀ k ∈ v.spaces, k.IsSpace) (hsome : v.fallback ≠ none) {space : Key}
    (hspace : space ∈ v.spaces) :
    (v.addFallbackSpace space (Call.prefixed space
      (s.bundle content (.text p.defaultLanguage) (some space)))).IsBacked s content p :=
  ⟨h.toHasFallback.addFallbackSpace hspaces hsome hspace,
    fun hdefault => (h.active hdefault).addFallbackSpace hspace _⟩

/-- The bundle of the default language is what its translations are without any namespaces. -/
theorem IsBacked.withFallback (h : v.IsBacked s content p) (hnone : v.fallback = none) {b : Bundle}
    (hb : b = s.bundle content (.text p.defaultLanguage) none) :
    { v with fallback := some b }.IsBacked s content p := by
  refine ⟨⟨?_, fun heq => absurd heq (Option.some_ne_none b), h.loaded⟩, ?_⟩
  · intro shown hshown
    cases hshown
    simp only [h.nothing hnone, Supply.shown_nil, hb]
  · exact fun hdefault => absurd hnone (h.active hdefault).fallback

theorem IsBacked.added (h : v.IsBacked s content p) (hspaces : ∀ k ∈ v.spaces, k.IsSpace)
    {space : Key} (hspace : space.IsSpace) :
    (Call.added p v space (s.bundle content v.language (some space))).IsBacked s content p := by
  unfold Call.added
  split
  · rename_i hdefault
    have hcomplete := h.active hdefault
    have hspaces' : ∀ k ∈ (v.addSpace space (Call.prefixed space
        (s.bundle content v.language (some space)))).spaces, k.IsSpace := by
      intro k hk
      rcases (mem_addSpace _).1 hk with hold | rfl
      · exact hspaces k hold
      · exact hspace
    have hadded := (h.addSpace space (Call.prefixed space
      (s.bundle content v.language (some space)))).addFallbackSpace hspaces' hcomplete.fallback
        ((mem_addSpace _).2 (.inr rfl))
    rw [← hdefault] at hadded
    exact ⟨hadded, fun _ => hcomplete.addBoth space _⟩
  · rename_i hother
    exact ⟨h.toHasFallback.addSpace space _, fun hdefault => absurd hdefault hother⟩

/-- Translating changes nothing but the kept templates and the reported keys. -/
theorem IsBacked.translate (h : v.IsBacked s content p) (main key : String) (values : Bundle) :
    (v.translate main key values).view.IsBacked s content p := by
  unfold View.translate
  split
  · split
    · exact h
    · exact h.of_eq rfl rfl rfl rfl
  · split
    · exact h
    · exact h.of_eq rfl rfl rfl rfl

/-- Without values, a key that the active translations lack is looked up in those of the default
language. -/
theorem translate_result_of_fallback {main key : String} {b : Bundle}
    (hlanguage : v.language ≠ .text main) (hfallback : v.fallback = some b)
    (hkey : Bundle.message? v.translations key = none) :
    (v.translate main key []).result = .ok ((Bundle.message? b key).getD key) := by
  have hmessage : v.message? main key = Bundle.message? b key := by
    simp only [View.message?, hkey, if_neg hlanguage, hfallback, Option.bind_some]
  unfold View.translate
  rw [hmessage]
  cases Bundle.message? b key with
  | some m => rfl
  | none =>
    simp only
    split <;> rfl

/-- A new view has the given bundle of the default language, unless it is empty. -/
theorem hasFallback_create (formatter : Message.Formatter) (detector : Option Detector) :
    (create p.defaultLanguage (s.given? (.text p.defaultLanguage) none) formatter
      detector).HasFallback s content p := by
  refine ⟨fun b hb => ?_, fun _ => rfl, List.nil_subset _⟩
  have hgiven : s.given? (.text p.defaultLanguage) none = some b :=
    (Option.filter_eq_some_iff.1 hb).1
  rw [View.create, Supply.shown_nil, Supply.bundle, hgiven, Option.getD_some]

end View

/-! ## Calls -/

/-- Whether a call in progress fits what the view has of the default language: it loads for that
language only what is not there. If no load for it has failed, which `lossless` tells, everything
before the place that the call has come to is there. -/
def Call.FitsFallback (lossless : Prop) (v : View) : Call → Prop
  | .fallback _ => v.fallback = none
  | .fallbackSpace index space _ =>
      v.fallback ≠ none ∧ v.spaces[index]? = some space ∧
        (lossless → v.spaces.take index ⊆ v.fallbackSpaces)
  | _ => True

/-- Whether a call that ends with a view and a result leaves genuine translations of the default
language behind: all of them if the call succeeds and no load for that language has failed. -/
def View.EndsBacked (s : Supply) (content : Content) (p : ClientPlan) (lossless : Prop) (v : View)
    (result : Except CallFault (Option Bundle)) : Prop :=
  v.IsBacked s content p ∧ (lossless → ∀ b, result = .ok b → v.IsComplete)

/-- Whether the view has genuine translations of the default language, which fit the call if that
goes on. -/
def Progress.FitsFallback (s : Supply) (content : Content) (p : ClientPlan) (lossless : Prop) :
    Progress → Prop
  | .waits v _ c => v.IsBacked s content p ∧ c.FitsFallback lossless v
  | .ends v _ result => v.EndsBacked s content p lossless result

theorem Progress.FitsFallback.after {lossless : Prop} {progress : Progress}
    (h : progress.FitsFallback s content p lossless) (events : List Event) :
    (progress.after events).FitsFallback s content p lossless := by
  cases progress <;> exact h

namespace Call

variable {available : List String} {v : View} {lossless : Prop} {q : Sequel}

theorem fitsFallback_finish (h : v.IsBacked s content p) (hcomplete : lossless → v.IsComplete) :
    (finish available v q).FitsFallback s content p lossless := by
  have hends : ∀ w result, v.Agrees w → w.EndsBacked s content p lossless result :=
    fun w _ hw => ⟨h.of_agrees hw, fun hl _ _ => (hcomplete hl).of_agrees hw⟩
  cases q with
  | switched language =>
    simp only [finish]
    split
    · exact hends _ _ v.agrees_refl
    · split
      · exact hends _ _ ⟨_, _, rfl⟩
      · exact hends _ _ ⟨_, _, rfl⟩
  | added b => exact hends _ _ v.agrees_refl
  | started language left =>
    rcases left with _ | ⟨_ | space, left⟩
    · exact hends _ _ ⟨_, _, rfl⟩
    · exact hends _ _ v.agrees_refl
    · exact ⟨h, trivial⟩

theorem fitsFallback_completeFrom (h : v.IsBacked s content p) (hsome : v.fallback ≠ none)
    {index : Nat} (hbefore : lossless → v.spaces.take index ⊆ v.fallbackSpaces) :
    (completeFrom available v index q).FitsFallback s content p lossless := by
  unfold completeFrom
  split
  · rename_i i space hfirst
    -- What the search passes over is known, so the known places now reach up to the found one.
    obtain ⟨before, after, hnames, hknown, -, hi⟩ := firstUnknown_eq_some hfirst
    refine ⟨h, hsome, ?_, fun hl => ?_⟩
    · have hget : (v.spaces.drop index)[before.length]? = some space := by
        rw [hnames, List.getElem?_append_right (Nat.le_refl _), Nat.sub_self]
        rfl
      rw [hi, ← List.getElem?_drop, hget]
    · have htake : (v.spaces.drop index).take before.length = before := by
        rw [hnames, List.take_left]
      rw [hi, List.take_add, htake]
      exact List.append_subset.2 ⟨hbefore hl, hknown⟩
  · rename_i hnone
    refine fitsFallback_finish h fun hl => ⟨hsome, fun k => ⟨fun hk => h.loaded hk, fun hk => ?_⟩⟩
    rw [← List.take_append_drop index v.spaces] at hk
    exact (List.mem_append.1 hk).elim (fun hk => hbefore hl hk)
      fun hk => firstUnknown_eq_none hnone hk

theorem fitsFallback_complete (h : v.IsBacked s content p) :
    (complete available v q).FitsFallback s content p lossless := by
  unfold complete
  split
  · rename_i hnone
    exact ⟨h, hnone⟩
  · rename_i b hsome
    exact fitsFallback_completeFrom h (hsome ▸ Option.some_ne_none b)
      fun _ => List.nil_subset _

theorem fitsFallback_completeUnless (h : v.IsBacked s content p) :
    (completeUnless p available v v.language q).FitsFallback s content p lossless := by
  unfold completeUnless
  split
  · rename_i hdefault
    exact fitsFallback_finish h fun _ => h.active hdefault
  · exact fitsFallback_complete h

theorem fitsFallback_activate (h : v.HasFallback s content p) {language : Key}
    (hlanguage : language.IsPlain) {b : Bundle} (hb : b = s.shown content language v.spaces) :
    (activate p available v language b q).FitsFallback s content p lossless := by
  have hback := h.activate hlanguage hb
  have hgoes : (completeUnless p available (v.activate p.defaultLanguage language b).view
      (v.activate p.defaultLanguage language b).view.language q).FitsFallback s content p
        lossless := fitsFallback_completeUnless hback
  rw [View.activate_language] at hgoes
  unfold activate
  simp only [View.activate_result v p.defaultLanguage hlanguage]
  exact hgoes.after _

theorem fitsFallback_overlay (h : v.IsBacked s content p) {language : String}
    (hlanguage : (Key.text language).IsPlain) {merged : Bundle} {index : Nat}
    (hmerged : merged = s.shown content (.text language) (v.spaces.take index)) :
    (overlay p available v language merged index).FitsFallback s content p lossless := by
  unfold overlay
  split
  · exact ⟨h, trivial⟩
  · rename_i hnone
    rw [List.take_of_length_le (List.getElem?_eq_none_iff.1 hnone)] at hmerged
    exact fitsFallback_activate h.toHasFallback hlanguage hmerged

theorem fitsFallback_switch (h : v.IsBacked s content p) {language : String}
    (hlanguage : lossless → v.language ≠ .text language) :
    (switch v language).FitsFallback s content p lossless := by
  unfold switch
  split
  · rename_i hsame
    exact ⟨h, fun hl => absurd hsame (hlanguage hl)⟩
  · exact ⟨h, trivial⟩

theorem fitsFallback_addSpace (h : v.IsBacked s content p) (space : Key) :
    (addSpace v space).FitsFallback s content p lossless :=
  ⟨h, trivial⟩

/-- A call that goes on with the right bundle, or fails, leaves genuine translations of the default
language behind, and all that it has come to if no load for that language fails. -/
theorem fitsFallback_resume (hactive : v.IsActive s content) (h : v.IsBacked s content p) {c : Call}
    (hc : c.Fits s content v) (hfits : c.FitsFallback lossless v)
    {result : Except LoadFault Bundle}
    (hresult : ∀ b, result = .ok b → b = s.bundle content (c.wanted p).1 (c.wanted p).2)
    (hkept : lossless → (c.wanted p).1 = .text p.defaultLanguage → ∃ b, result = .ok b) :
    (c.resume p available v result).FitsFallback s content p lossless := by
  have hfails : ∀ fault, v.EndsBacked s content p lossless (.error fault) :=
    fun _ => ⟨h, fun _ _ hb => nomatch hb⟩
  cases c with
  | startBase language left => exact hc.elim
  | switchBase language =>
    cases result with
    | error f => exact hfails _
    | ok b => exact fitsFallback_overlay h hc (hresult b rfl)
  | switchSpace language merged index space =>
    obtain ⟨hlanguage, hspace, hmerged⟩ := hc
    cases result with
    | error f => exact hfails _
    | ok b =>
      have hwell : space.IsSpace := hactive.spaces space (List.mem_of_getElem? hspace)
      have hb : b = s.bundle content (.text language) (some space) :=
        (hresult b rfl).trans (Supply.bundle_space? hwell _)
      apply fitsFallback_overlay h hlanguage
      rw [Supply.shown_take_succ hspace, hmerged, hb]
  | newSpace language space start =>
    obtain ⟨rfl, hspace, -⟩ := hc
    cases result with
    | error f => exact hfails _
    | ok b =>
      have hb : b = s.bundle content v.language (some space) :=
        (hresult b rfl).trans (Supply.bundle_space? hspace _)
      have hadded : (added p v space b).IsBacked s content p :=
        hb ▸ h.added hactive.spaces hspace
      rw [resume_newSpace_ok, ← added_language p v space b]
      exact fitsFallback_completeUnless hadded
  | fallback q =>
    cases result with
    | error f =>
      -- Such a failure is only reported: the call goes on, with nothing promised any more.
      refine (fitsFallback_finish h fun hl => ?_).after _
      obtain ⟨b, hb⟩ := hkept hl rfl
      cases hb
    | ok b =>
      exact fitsFallback_completeFrom (h.withFallback hfits (hresult b rfl))
        (Option.some_ne_none b) fun _ => List.nil_subset _
  | fallbackSpace index space q =>
    obtain ⟨hsome, hspace, hbefore⟩ := hfits
    cases result with
    | error f =>
      refine (fitsFallback_completeFrom h hsome fun hl => ?_).after _
      obtain ⟨b, hb⟩ := hkept hl rfl
      cases hb
    | ok b =>
      have hmem : space ∈ v.spaces := List.mem_of_getElem? hspace
      have hb : b = s.bundle content (.text p.defaultLanguage) (some space) :=
        (hresult b rfl).trans (Supply.bundle_space? (hactive.spaces space hmem) _)
      rw [hb]
      refine fitsFallback_completeFrom (h.addFallbackSpace hactive.spaces hsome hmem)
        (Option.some_ne_none _) fun hl k hk => (View.mem_addFallbackSpace _).2 ?_
      have hk' : k ∈ v.spaces.take index ++ [space] := by
        rwa [← Option.toList_some, ← hspace, ← List.take_add_one]
      rcases List.mem_append.1 hk' with hold | hnew
      · exact .inl (hbefore hl hold)
      · exact .inr (List.mem_singleton.1 hnew)

end Call

/-! ## Clients -/

namespace Client

variable {c : Client} {lossless : Prop}

/-- Whether none of some loads for a language failed. -/
def NoneFailed (language : Key) (loads : List LoadRecord) : Prop :=
  ∀ l ∈ loads, l.language = language → ∃ b, l.result = .ok b

/-- The first load of a call is the one that it waits for. -/
theorem loadsOfCall_eq (outside : Outside σ) (c : Client) (call : Call) (world : σ) :
    c.loadsOfCall outside call world =
      let wanted := call.wanted c.plan
      let l := c.loader.load outside c.supply wanted.1 wanted.2 world
      let loaded := { c with loader := l.loader }
      ⟨wanted.1, wanted.2, l.result⟩ :: loaded.loadsOfRun outside
        (call.resume c.plan loaded.supportedLanguages c.view l.result) l.world := by
  rw [loadsOfCall]
  simp only
  split
  · rename_i hresume
    rw [hresume, loadsOfRun]
  · rename_i hresume
    rw [hresume, loadsOfRun]

/-- Whether a client shows an active view and has genuine translations of the default language. -/
structure IsBacked (outside : Outside σ) (p : ClientPlan) (s : Supply) (content : Content)
    (c : Client) : Prop extends c.IsActive outside p s content where
  fallback : c.view.IsBacked s content p

section Steady

variable (hserves : s.Serves outside content) (hdefault : (Key.text p.defaultLanguage).IsPlain)
include hserves hdefault

/-- A call that goes on after its load leaves genuine translations of the default language behind,
and all that it has come to if that load does not fail for this language. -/
theorem IsBacked.resume (h : c.IsBacked outside p s content) {call : Call}
    (hcall : call.Fits s content c.view) (hfits : call.FitsFallback lossless c.view)
    (available : List String) {world : σ}
    (hkept : lossless → (call.wanted c.plan).1 = .text p.defaultLanguage →
      ∃ b, (c.loader.load outside c.supply (call.wanted c.plan).1
        (call.wanted c.plan).2 world).result = .ok b) :
    (call.resume c.plan available c.view (c.loader.load outside c.supply
      (call.wanted c.plan).1 (call.wanted c.plan).2 world).result).FitsFallback s content p
        lossless := by
  obtain ⟨-, hresult⟩ := h.load hserves hdefault hcall world
  obtain rfl := h.steady.plan
  exact Call.fitsFallback_resume h.view h.fallback hcall hfits hresult hkept

/-- However the loads of a call go, the translations of the default language are genuine in the
end. They are complete if the call succeeds and none of its loads for that language fails. -/
theorem IsBacked.perform (h : c.IsBacked outside p s content) {call : Call}
    (hcall : call.Fits s content c.view) (hfits : call.FitsFallback lossless c.view) {world : σ}
    (hkept : lossless →
      NoneFailed (.text p.defaultLanguage) (c.loadsOfCall outside call world)) :
    (c.perform outside call world).client.view.EndsBacked s content p lossless
      (c.perform outside call world).result := by
  fun_induction Client.perform outside c call world with
  | case1 c call world wanted l loaded view events result hresume =>
    rw [loadsOfCall_eq] at hkept
    have hnext := h.resume hserves hdefault hcall hfits loaded.supportedLanguages
      fun hl => hkept hl _ List.mem_cons_self
    rw [hresume] at hnext
    exact hnext
  | case2 c call world wanted l loaded view events next hresume hlt ih =>
    rw [loadsOfCall_eq] at hkept
    obtain ⟨hsteady, hgoes⟩ := h.toIsActive.resume hserves hdefault hcall
      loaded.supportedLanguages world
    have hnext := h.resume hserves hdefault hcall hfits loaded.supportedLanguages
      fun hl => hkept hl _ List.mem_cons_self
    have hrest : lossless → NoneFailed (.text p.defaultLanguage)
        (loaded.loadsOfRun outside (call.resume c.plan loaded.supportedLanguages c.view l.result)
          l.world) :=
      fun hl record hrecord => hkept hl record (List.mem_cons_of_mem _ hrecord)
    rw [hresume] at hgoes hnext hrest
    exact ih ⟨⟨⟨hsteady.plan, hsteady.supply, hsteady.loader⟩, hgoes.1⟩, hnext.1⟩ hgoes.2 hnext.2
      hrest

theorem IsSteady.run_fallback (h : c.IsSteady outside p s content) {begun : Progress}
    (hbegun : begun.Fits s content) (hfits : begun.FitsFallback s content p lossless) {world : σ}
    (hkept : lossless →
      NoneFailed (.text p.defaultLanguage) (c.loadsOfRun outside begun world)) :
    (c.run outside begun world).client.view.EndsBacked s content p lossless
      (c.run outside begun world).result := by
  cases begun with
  | ends view events result => exact hfits
  | waits view events call =>
    have hview : { c with view := view }.IsBacked outside p s content :=
      ⟨⟨⟨h.plan, h.supply, h.loader⟩, hbegun.1⟩, hfits.1⟩
    exact hview.perform hserves hdefault hbegun.2 hfits.2 hkept

/-- Whichever loads fail, the translations of the default language are genuine in the end. -/
theorem IsSteady.run_isBacked (h : c.IsSteady outside p s content) {begun : Progress}
    (hbegun : begun.Fits s content) (hfits : begun.FitsFallback s content p False) (world : σ) :
    (c.run outside begun world).client.view.IsBacked s content p :=
  (h.run_fallback hserves hdefault hbegun hfits False.elim).1

/-! ## Operations -/

theorem IsBacked.act (h : c.IsBacked outside p s content) {op : Op} (hop : op.IsPlain)
    (world : σ) : (c.act outside world op).2.IsBacked outside p s content := by
  refine ⟨h.toIsActive.act hserves hdefault hop world, ?_⟩
  cases op with
  | switchLanguage language =>
    exact h.steady.run_isBacked hserves hdefault (Call.fits_switch h.view hop)
      (Call.fitsFallback_switch h.fallback False.elim) world
  | addSpace space =>
    exact h.steady.run_isBacked hserves hdefault (Call.fits_addSpace h.view hop)
      (Call.fitsFallback_addSpace h.fallback space) world
  | load language space => exact h.fallback
  | translate space key values => exact h.fallback.translate _ _ _
  | clearCache => exact h.fallback.of_eq rfl rfl rfl rfl

theorem IsBacked.actAll (h : c.IsBacked outside p s content) {ops : List Op}
    (hops : ∀ op ∈ ops, op.IsPlain) (world : σ) :
    (c.actAll outside world ops).2.IsBacked outside p s content := by
  induction ops generalizing c world with
  | nil => exact h
  | cons op ops ih =>
    have hnext := h.act hserves hdefault (hops op List.mem_cons_self) world
    exact ih hnext (fun o ho => hops o (List.mem_cons_of_mem _ ho)) _

end Steady

/-- What is promised about the translations of the default language that a client has. -/
structure ShowsFallback (outside : Outside σ) (p : ClientPlan) (s : Supply) (content : Content)
    (c : Client) : Prop where
  /-- if there are any, they are the language's own with the noted namespaces on top -/
  fallback : ∀ b ∈ c.view.fallback,
    b = s.shown content (.text p.defaultLanguage) c.view.fallbackSpaces
  /-- no namespace is noted but loaded ones -/
  loaded : c.view.fallbackSpaces ⊆ c.view.spaces
  /-- all loaded namespaces are noted after one was added, unless a load failed -/
  addSpace : ∀ (space : Key) (world : σ) (r : Option Bundle), space.IsSpace →
    (c.addSpace outside space world).result = .ok r →
      NoneFailed (.text p.defaultLanguage)
        (c.loadsOfRun outside (Call.addSpace c.view space) world) →
          (c.addSpace outside space world).client.view.IsComplete
  /-- all loaded namespaces are noted after a switch to another language, unless a load failed -/
  switchLanguage : ∀ (language : String) (world : σ) (r : Option Bundle),
    (Key.text language).IsPlain → c.view.language ≠ .text language →
      (c.switchLanguage outside language world).result = .ok r →
        NoneFailed (.text p.defaultLanguage)
          (c.loadsOfRun outside (Call.switch c.view language) world) →
            (c.switchLanguage outside language world).client.view.IsComplete
  /-- a key that the active language lacks has its message in the default language, or none -/
  translate : ∀ key, c.view.language ≠ .text p.defaultLanguage → c.view.fallback ≠ none →
    Bundle.message? c.view.translations key = none →
      (c.translate none key []).2.2 = .ok ((Bundle.message?
        (s.shown content (.text p.defaultLanguage) c.view.fallbackSpaces) key).getD key)

theorem IsBacked.showsFallback (hserves : s.Serves outside content)
    (hdefault : (Key.text p.defaultLanguage).IsPlain) (h : c.IsBacked outside p s content) :
    c.ShowsFallback outside p s content where
  fallback := h.fallback.fallback
  loaded := h.fallback.loaded
  addSpace := by
    intro space world r hspace hok hkept
    exact (h.steady.run_fallback hserves hdefault (Call.fits_addSpace h.view hspace)
      (Call.fitsFallback_addSpace h.fallback space) fun _ => hkept).2 trivial r hok
  switchLanguage := by
    intro language world r hlanguage hother hok hkept
    exact (h.steady.run_fallback hserves hdefault (Call.fits_switch h.view hlanguage)
      (Call.fitsFallback_switch h.fallback fun _ => hother) fun _ => hkept).2 trivial r hok
  translate := by
    intro key hlanguage hsome hkey
    obtain ⟨b, hb⟩ := Option.ne_none_iff_exists'.1 hsome
    rw [← h.steady.plan] at hlanguage
    rw [← h.fallback.fallback b hb]
    exact View.translate_result_of_fallback hlanguage hb hkey

/-! ## Starting -/

theorem IsSteady.start_fallback (h : c.IsSteady outside c.plan c.supply content)
    (hserves : c.supply.Serves outside content) (hplain : c.HasPlainLanguages)
    (hspaces : ∀ o ∈ c.plan.spaces, ∀ k ∈ o, k.IsSpace) (hnone : c.view.spaces = [])
    (hlanguage : c.view.language = .text c.plan.defaultLanguage)
    (hview : c.view.HasFallback c.supply content c.plan) {world : σ} {r : Option Bundle}
    (hok : (c.start outside world).result = .ok r) :
    (c.start outside world).client.IsBacked outside c.plan c.supply content := by
  refine ⟨h.start hserves hplain hspaces hnone hlanguage hok, ?_⟩
  obtain ⟨loaded, language, available, world', hloaded, hl, hstart⟩ :=
    h.start_client_eq hserves hplain hlanguage hok
  have hshown : c.supply.bundle content language none =
      c.supply.shown content language c.view.spaces := by
    rw [hnone, Supply.shown_nil]
  rw [hstart]
  exact hloaded.run_isBacked hserves hplain.defaultLanguage
    (Call.fits_resume_startBase c.plan available hnone hl hspaces rfl)
    (Call.fitsFallback_activate hview hl hshown) world'

/-- After a start that succeeds, and after everything that is done with the client then, it has the
translations of its default language with all the namespaces on top that it has noted, whatever the
cache keeps and whichever loads fail. -/
theorem fallback_actAll {settings : ClientSettings} {parts : Parts}
    {library : LocaleLibrary} (hc : create settings parts library = .ok c)
    (hcache : (parts.cache.getD .usual).entries = [])
    (hplain : c.HasPlainLanguages) (hspaces : ∀ o ∈ c.plan.spaces, ∀ k ∈ o, k.IsSpace)
    (hserves : c.supply.Serves outside content) {world : σ} {r : Option Bundle}
    (hok : (c.start outside world).result = .ok r) {ops : List Op}
    (hops : ∀ op ∈ ops, op.IsPlain) (world' : σ) :
    ((c.start outside world).client.actAll outside world' ops).2.ShowsFallback outside c.plan
      c.supply content := by
  obtain ⟨formatter, languages, hview, -⟩ := create_eq_ok hc
  have hsteady : c.IsSteady outside c.plan c.supply content := isSteady_of_create hc hcache
  have hnone : c.view.spaces = [] := by rw [hview]; rfl
  have hlanguage : c.view.language = .text c.plan.defaultLanguage := by rw [hview]; rfl
  have hfallback : c.view.HasFallback c.supply content c.plan := by
    rw [hview]
    exact View.hasFallback_create formatter parts.detector
  have hstarted := hsteady.start_fallback hserves hplain hspaces hnone hlanguage hfallback hok
  exact (hstarted.actAll hserves hplain.defaultLanguage hops world').showsFallback hserves
    hplain.defaultLanguage

/-- A client with greetings of its own, one of which it has in English only. -/
def Parts.bilingual : Parts := .served (some
  [("en", .dict [("hello", .text "Hello"), ("bye", .text "Bye")]),
    ("de", .dict [("hello", .text "Hallo")])])

/-- That client with the usual settings. -/
def bilingual : Client where
  plan := ⟨"en", .text "en", []⟩
  supply := ⟨Parts.bilingual.data, "en", [.served "/locales"], Parts.bilingual.retry⟩
  view := .create "en" (some [("hello", .text "Hello"), ("bye", .text "Bye")]) (.usual "en") none
  loader := .create .usual []
  ownsConnection := false

theorem hasPlainLanguages_bilingual : bilingual.HasPlainLanguages := by
  have hen : (Key.text "en").IsPlain := Key.isPlain_text_iff.2 (by decide)
  have hde : (Key.text "de").IsPlain := Key.isPlain_text_iff.2 (by decide)
  refine ⟨hen, hen, ?_⟩
  intro language hlanguage
  have hmem : language ∈ ["en", "de"] := hlanguage
  simp only [List.mem_cons, List.not_mem_nil, or_false] at hmem
  rcases hmem with rfl | rfl
  · exact hen
  · exact hde

theorem fallback_actAll_bilingual :
    ∃ r, create (.ofEntries []) .bilingual = .ok bilingual ∧
      (bilingual.start (.serving Parts.greetingFiles) ()).result = .ok r ∧
      let c := (bilingual.start (.serving Parts.greetingFiles) ()).client
      (c.actAll (.serving Parts.greetingFiles) () [.addSpace "shop", .clearCache]).2.ShowsFallback
          (.serving Parts.greetingFiles) bilingual.plan bilingual.supply
          (.served Parts.greetingFiles "/locales") ∧
        (c.switchLanguage (.serving Parts.greetingFiles) "de" ()).client.view.IsComplete := by
  have hc : create (.ofEntries []) .bilingual = .ok bilingual := rfl
  have hstart : bilingual.start (.serving Parts.greetingFiles) () =
      (bilingual.perform (.serving Parts.greetingFiles) (.startBase "en" []) ()).after [] := rfl
  rw [perform_of_ends _ bilingual (.startBase "en" []) () rfl] at hstart
  have hr : (bilingual.start (.serving Parts.greetingFiles) ()).result = .ok none := by
    rw [hstart]
    rfl
  have hde : (Key.text "de").IsPlain := Key.isPlain_text_iff.2 (by decide)
  have hshows : ∀ ops : List Op, (∀ op ∈ ops, op.IsPlain) →
      ((bilingual.start (.serving Parts.greetingFiles) ()).client.actAll
        (.serving Parts.greetingFiles) () ops).2.ShowsFallback (.serving Parts.greetingFiles)
          bilingual.plan bilingual.supply (.served Parts.greetingFiles "/locales") :=
    fun ops hops => fallback_actAll hc rfl hasPlainLanguages_bilingual (List.forall_mem_nil _)
      (Supply.serves_served rfl _) hr hops ()
  have hops : ∀ op ∈ [Op.addSpace "shop", .clearCache], op.IsPlain := by
    intro op hop
    simp only [List.mem_cons, List.not_mem_nil, or_false] at hop
    rcases hop with rfl | rfl
    · exact ⟨Key.isPlain_text_iff.2 (by decide), by decide⟩
    · trivial
  refine ⟨none, hc, hr, ?_⟩
  rw [hstart] at hshows ⊢
  intro c
  have hnow : c.ShowsFallback (.serving Parts.greetingFiles) bilingual.plan bilingual.supply
      (.served Parts.greetingFiles "/locales") := hshows [] (List.forall_mem_nil _)
  have hswitch : c.switchLanguage (.serving Parts.greetingFiles) "de" () =
      (c.perform (.serving Parts.greetingFiles) (.switchBase "de") ()).after [] := rfl
  rw [perform_of_ends _ c (.switchBase "de") () rfl] at hswitch
  have hother : c.view.language ≠ .text "de" := by
    have hactive : c.view.language = .text "en" := rfl
    rw [hactive]
    decide
  refine ⟨hshows _ hops, hnow.switchLanguage "de" () none hde hother ?_ ?_⟩
  · rw [hswitch]
    rfl
  · have hloads : c.loadsOfRun (.serving Parts.greetingFiles) (Call.switch c.view "de") () =
        c.loadsOfCall (.serving Parts.greetingFiles) (.switchBase "de") () := rfl
    rw [hloads, loadsOfCall_eq]
    intro l hl
    obtain rfl : l = ⟨.text "de", none, .ok [("hello", .text "Hallo")]⟩ := List.mem_singleton.1 hl
    exact fun _ => ⟨_, rfl⟩

end Client
end Polyglot
