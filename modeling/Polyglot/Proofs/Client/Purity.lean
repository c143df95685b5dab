import Polyglot.Proofs.Client.Call
import Polyglot.Proofs.Client.Content

/-!
# Purity

A bundle is pure for a language if whatever it has of a namespace comes from that namespace of the
language. What a call does to a pure view is pure, with one exception: a namespace that was asked
for in one language is added to the view of whichever language is active when it arrives.
-/
namespace Polyglot

variable {σ : Type} {outside : Outside σ} {content : Content}

/-! ## Bundles -/

/-- Whether no key of a bundle has the delimiter. -/
def Bundle.HasPlainKeys (b : Bundle) : Prop := ∀ e ∈ b, ∀ s, e.1 = .text s → ':' ∉ s.toList

/-- Whether the bundles that are loaded without the name of a namespace have plain keys: the given
ones and those of the sources. -/
structure Supply.HasPlainBases (outside : Outside σ) (s : Supply) : Prop where
  given : ∀ language b, s.given? language none = some b → b.HasPlainKeys
  fetched : ∀ source ∈ s.sources, ∀ language space, language.IsPlain →
    space.bind Key.name? = none → ∀ world loaded,
      (source.fetch outside language space world).2 = .ok loaded → loaded.bundle.HasPlainKeys

namespace Content

/-- Whether a bundle is the content of a language and the name of a namespace. Without a name any
bundle with plain keys will do. -/
def IsRight (content : Content) (language : Key) (space : Option Key) (b : Bundle) : Prop :=
  match space.bind Key.name? with
  | none => b.HasPlainKeys
  | some n => b = content language (some (.text n))

/-- Whether a bundle is right for every plain language and namespace that has the key. -/
def Suits (content : Content) (key : Key) (b : Bundle) : Prop :=
  ∀ language space, language.IsPlain → (∀ k ∈ space, k.IsPlain) →
    cacheKey language space = key → content.IsRight language space b

theorem IsRight.suits {language : Key} (hlanguage : language.IsPlain) {space : Option Key}
    {b : Bundle} (h : content.IsRight language space b) :
    content.Suits (cacheKey language space) b := by
  intro language' space' hlanguage' hspace' hkey
  obtain ⟨rfl, hname⟩ := cacheKey_inj_name hlanguage' hlanguage hkey
  rw [IsRight, hname]
  exact h

theorem answers {s : Supply} (hserves : s.Serves outside content)
    (hbases : s.HasPlainBases outside) {language : Key} (hlanguage : language.IsPlain)
    {space : Option Key} (hspace : ∀ k ∈ space, k.IsPlain) :
    s.Answers outside content.Suits language space := by
  constructor
  · intro b hb
    cases space with
    | none =>
      have hright : content.IsRight language none b := hbases.given language b hb
      exact hright.suits hlanguage
    | some k => cases hb
  · intro _ source hsource world loaded hfetch
    have hright : content.IsRight language space loaded.bundle := by
      rw [IsRight]
      split
      · rename_i hname
        exact hbases.fetched source hsource language space hlanguage hname world loaded hfetch
      · rename_i n hname
        obtain ⟨k, rfl, hk⟩ := Option.bind_eq_some_iff.1 hname
        obtain ⟨rfl, hn⟩ := (hspace k rfl).mem_name? hk
        refine hserves source hsource language _ hlanguage ?_ world loaded hfetch
        intro j hj
        cases hj
        refine ⟨hspace _ rfl, ?_⟩
        intro hempty
        rw [(hspace _ rfl).name?_eq_none.2 hempty] at hk
        cases hk
    exact hright.suits hlanguage

/-- Whether everything that a bundle has of a namespace comes from that namespace of a language. -/
def IsPure (content : Content) (language : Key) (b : Bundle) : Prop :=
  ∀ e ∈ b, ∀ k : Key, k.IsPlain → k.IsUnder e.1 →
    e ∈ Call.prefixed k (content language (some k))

theorem isPure_of_hasPlainKeys {b : Bundle} (h : b.HasPlainKeys) (language : Key) :
    content.IsPure language b := by
  rintro e he k - ⟨rest, hrest⟩
  refine absurd ?_ (h e he _ hrest)
  simp [keyDelimiter, String.toList_append]

theorem IsPure.update {language : Key} {b c : Bundle} (hb : content.IsPure language b)
    (hc : content.IsPure language c) : content.IsPure language (Entries.update b c) := by
  intro e he k hk hunder
  rcases Entries.mem_update he with h | h
  · exact hb e h k hk hunder
  · exact hc e h k hk hunder

/-- A namespace is pure for every language of which it is a part. -/
theorem isPure_prefixed {language : Key} {space : Key} (hspace : space.IsSpace) {b : Bundle}
    (hb : Call.prefixed space b ⊆ Call.prefixed space (content language (some space))) :
    content.IsPure language (Call.prefixed space b) := by
  intro e he k hk hunder
  have heq : k = space := hunder.inj hk hspace.1 (Call.isUnder_of_mem_prefixed hspace he)
  subst heq
  exact hb he

theorem IsRight.eq {language space : Key} (hspace : space.IsSpace) {b : Bundle}
    (h : content.IsRight language (some space) b) : b = content language (some space) := by
  rw [IsRight, Option.bind_some, hspace.name?] at h
  obtain ⟨⟨s, rfl, -⟩, -⟩ := hspace
  exact h

/-- What is loaded for a namespace is its content, unless its name is empty. -/
theorem isRight_cases {language space : Key} (hspace : space.IsPlain) {b : Bundle}
    (h : content.IsRight language (some space) b) :
    space.IsSpace ∧ b = content language (some space) ∨
      Call.prefixed space b = b ∧ b.HasPlainKeys := by
  by_cases hempty : space = .text ""
  · subst hempty
    exact .inr ⟨rfl, h⟩
  · have hwell : space.IsSpace := ⟨hspace, hempty⟩
    exact .inl ⟨hwell, h.eq hwell⟩

theorem IsRight.isPure_prefixed {language space : Key} (hspace : space.IsPlain) {b : Bundle}
    (h : content.IsRight language (some space) b) :
    content.IsPure language (Call.prefixed space b) := by
  rcases isRight_cases hspace h with ⟨hwell, rfl⟩ | ⟨hsame, hplain⟩
  · exact Content.isPure_prefixed hwell (List.Subset.refl _)
  · rw [hsame]
    exact isPure_of_hasPlainKeys hplain language

end Content

theorem Supply.hasPlainBases_served {s : Supply} {path : String} (h : s.sources = [.served path])
    (hdata : s.data = none) {files : List (String × Bundle)}
    (hfiles : ∀ f ∈ files, f.2.HasPlainKeys) : s.HasPlainBases (.serving files) := by
  constructor
  · intro language b hb
    simp only [Supply.given?, hdata, Bundle.select] at hb
    cases hb
  · intro source hsource language space _ _ world loaded hfetch
    rw [h, List.mem_singleton] at hsource
    subst hsource
    exact hfiles _ (Entries.mem_of_get? (Source.fetch_served hfetch))

/-! ## Views -/

namespace View

variable {v w : View}

/-- Whether every entry of a loaded namespace comes from the language it is shown for: in the
active translations the active one, in the fallback the default one. -/
structure IsUnmixed (content : Content) (main : String) (v : View) : Prop where
  translations : ∀ e ∈ v.translations, ∀ k ∈ v.spaces, k.IsUnder e.1 →
    e ∈ Call.prefixed k (content v.language (some k))
  fallback : ∀ b ∈ v.fallback, ∀ e ∈ b, ∀ k ∈ v.spaces, k.IsUnder e.1 →
    e ∈ Call.prefixed k (content (.text main) (some k))

/-- Whether the translations and the fallback are pure. -/
structure IsPure (content : Content) (main : String) (v : View) : Prop where
  translations : content.IsPure v.language v.translations
  fallback : ∀ b ∈ v.fallback, content.IsPure (.text main) b

/-- Whether the names in a view are well formed. -/
structure IsNamed (v : View) : Prop where
  language : v.language.IsPlain
  spaces : ∀ k ∈ v.spaces, k.IsPlain

theorem IsPure.isUnmixed {main : String} (h : v.IsPure content main) (hv : v.IsNamed) :
    v.IsUnmixed content main where
  translations := fun e he k hk hunder => h.translations e he k (hv.spaces k hk) hunder
  fallback := fun b hb e he k hk hunder => h.fallback b hb e he k (hv.spaces k hk) hunder

theorem IsPure.of_agrees {main : String} (h : v.IsPure content main) (hw : v.Agrees w) :
    w.IsPure content main := by
  obtain ⟨d, b, rfl⟩ := hw
  exact ⟨h.translations, h.fallback⟩

theorem IsNamed.of_agrees (h : v.IsNamed) (hw : v.Agrees w) : w.IsNamed := by
  obtain ⟨d, b, rfl⟩ := hw
  exact ⟨h.language, h.spaces⟩

theorem isNamed_activate (hv : v.IsNamed) (main : String) {language : Key}
    (hlanguage : language.IsPlain) (b : Bundle) : (v.activate main language b).view.IsNamed := by
  unfold activate
  simp only
  split <;> exact ⟨hlanguage, hv.spaces⟩

theorem isPure_activate {main : String} (h : v.IsPure content main) {language : Key} {b : Bundle}
    (hb : content.IsPure language b) : (v.activate main language b).view.IsPure content main := by
  unfold activate
  simp only
  split
  · rename_i hmain
    refine ⟨hb, ?_⟩
    intro c hc
    cases hc
    simp only [Bool.and_eq_true, decide_eq_true_eq] at hmain
    rw [← hmain.2]
    exact hb
  · exact ⟨hb, h.fallback⟩

theorem IsNamed.addSpace (hv : v.IsNamed) {space : Key} (hspace : space.IsPlain) (b : Bundle) :
    (v.addSpace space b).IsNamed := by
  refine ⟨hv.language, ?_⟩
  intro k hk
  unfold View.addSpace at hk
  split at hk
  · exact hv.spaces k hk
  · rcases List.mem_append.1 hk with hk | hk
    · exact hv.spaces k hk
    · rw [List.mem_singleton.1 hk]
      exact hspace

theorem IsPure.addSpace {main : String} (h : v.IsPure content main) (space : Key) {b : Bundle}
    (hb : content.IsPure v.language b) : (v.addSpace space b).IsPure content main :=
  ⟨h.translations.update hb, h.fallback⟩

theorem IsPure.addFallbackSpace {main : String} (h : v.IsPure content main) (space : Key)
    {b : Bundle} (hb : content.IsPure (.text main) b) :
    (v.addFallbackSpace space b).IsPure content main := by
  refine ⟨h.translations, ?_⟩
  intro c hc
  cases hc
  refine Content.IsPure.update ?_ hb
  cases hf : v.fallback with
  | none => exact fun e he => nomatch he
  | some f => exact h.fallback f hf

end View
/-! ## Calls -/

/-- The view that a call leaves behind. -/
def Progress.view : Progress → View
  | .waits v _ _ => v
  | .ends v _ _ => v

/-- Whether the names in a call are well formed, and what it has put together for a language is
pure. -/
def Call.IsNamed (content : Content) : Call → Prop
  | .switchBase language => (Key.text language).IsPlain
  | .switchSpace language merged _ space =>
      (Key.text language).IsPlain ∧ space.IsPlain ∧ content.IsPure (.text language) merged
  | .startBase language left => language.IsPlain ∧ ∀ o ∈ left, ∀ k ∈ o, k.IsPlain
  | .newSpace language space start =>
      language.IsPlain ∧ space.IsPlain ∧ ∀ first ∈ start, ∀ o ∈ first.2, ∀ k ∈ o, k.IsPlain
  | .fallback q => q.All Key.IsPlain
  | .fallbackSpace _ space q => space.IsPlain ∧ q.All Key.IsPlain

/-- Whether the names in a view are well formed, and those in the call if that goes on. -/
def Progress.IsNamed (content : Content) : Progress → Prop
  | .waits v _ c => v.IsNamed ∧ c.IsNamed content
  | .ends v _ _ => v.IsNamed

/-- Whether a call that arrives with a namespace adds nothing but what the active language has of
that namespace. -/
def Call.Keeps (content : Content) (v : View) : Call → Prop
  | .newSpace language space _ => space.IsSpace →
      Call.prefixed space (content language (some space)) ⊆
        Call.prefixed space (content v.language (some space))
  | _ => True

theorem Progress.Follows.isNamed {v : View} {q : Sequel} {p : Progress} (hp : p.Follows v q)
    (hv : v.IsNamed) (hq : q.All Key.IsPlain) : p.IsNamed content := by
  cases p with
  | ends w events result => exact hv.of_agrees hp
  | waits w events c =>
    obtain ⟨hw, hc⟩ := hp
    refine ⟨hv.of_agrees hw, ?_⟩
    cases hc with
    | newSpace started =>
      subst started
      refine ⟨hv.language, hq _ List.mem_cons_self _ rfl, ?_⟩
      intro first hfirst o ho
      cases hfirst
      exact hq o (List.mem_cons_of_mem _ ho)
    | fallback lacks => exact hq
    | fallbackSpace index loaded lacks => exact ⟨hv.spaces _ loaded, hq⟩

theorem Progress.Follows.agrees {v : View} {q : Sequel} {p : Progress} (hp : p.Follows v q) :
    v.Agrees p.view := by
  cases p with
  | ends w events result => exact hp
  | waits w events c => exact hp.1

namespace Call

variable {p : ClientPlan} {available : List String} {v : View} {c : Call}
  {result : Except LoadFault Bundle}

/-- The call asks for well-formed names, and what it gets is right. -/
theorem IsNamed.wanted (hmain : (Key.text p.defaultLanguage).IsPlain) (hc : c.IsNamed content) :
    (c.wanted p).1.IsPlain ∧ ∀ k ∈ (c.wanted p).2, k.IsPlain := by
  have hspace : ∀ k : Key, k.IsPlain → ∀ j ∈ k.space?, j.IsPlain :=
    fun _ hk => hk.forall_mem_space?.2 hk
  cases c with
  | switchBase language => exact ⟨hc, fun k hk => nomatch hk⟩
  | switchSpace language merged index space => exact ⟨hc.1, hspace space hc.2.1⟩
  | startBase language left => exact ⟨hc.1, fun k hk => nomatch hk⟩
  | newSpace language space start => exact ⟨hc.1, hspace space hc.2.1⟩
  | fallback q => exact ⟨hmain, fun k hk => nomatch hk⟩
  | fallbackSpace index space q => exact ⟨hmain, hspace space hc.1⟩

theorem isNamed_overlay (hv : v.IsNamed) {language : String} {merged : Bundle}
    (hlanguage : (Key.text language).IsPlain) (hmerged : content.IsPure (.text language) merged)
    (index : Nat) : (overlay p available v language merged index).IsNamed content := by
  rcases overlay_cases p available v language merged index with
    ⟨space, hspace, hwaits⟩ | ⟨-, hfollows⟩
  · rw [hwaits]
    exact ⟨hv, hlanguage, hv.spaces space (List.mem_of_getElem? hspace), hmerged⟩
  · exact hfollows.isNamed (View.isNamed_activate hv _ hlanguage merged) trivial

theorem isPure_overlay (h : v.IsPure content p.defaultLanguage) {language : String}
    {merged : Bundle} (hmerged : content.IsPure (.text language) merged) (index : Nat) :
    (overlay p available v language merged index).view.IsPure content p.defaultLanguage := by
  rcases overlay_cases p available v language merged index with
    ⟨space, hspace, hwaits⟩ | ⟨-, hfollows⟩
  · rw [hwaits]
    exact h
  · exact (View.isPure_activate h hmerged).of_agrees hfollows.agrees

theorem isPure_merged {language : String} {merged : Bundle} {index : Nat} {space : Key} {b : Bundle}
    (hc : (switchSpace language merged index space).IsNamed content)
    (hb : content.IsRight ((switchSpace language merged index space).wanted p).1
      ((switchSpace language merged index space).wanted p).2 b) :
    content.IsPure (.text language) (Entries.update merged (prefixed space b)) := by
  obtain ⟨-, hspace, hmerged⟩ := hc
  rw [wanted, hspace.space?_eq] at hb
  exact hmerged.update (hb.isPure_prefixed hspace)

theorem isNamed_added (hv : v.IsNamed) {space : Key} (hspace : space.IsPlain) (b : Bundle) :
    (added p v space b).IsNamed := by
  have hadded := hv.addSpace hspace (prefixed space b)
  unfold added
  split
  · exact ⟨hadded.language, hadded.spaces⟩
  · exact hadded

/-- However a call goes on, the names stay well formed. -/
theorem isNamed_resume (hv : v.IsNamed) (hc : c.IsNamed content)
    (hresult : ∀ b, result = .ok b → content.IsRight (c.wanted p).1 (c.wanted p).2 b) :
    (c.resume p available v result).IsNamed content := by
  cases c with
  | switchBase language =>
    cases result with
    | error f => exact hv
    | ok b =>
      exact isNamed_overlay hv hc (Content.isPure_of_hasPlainKeys (hresult b rfl) _) 0
  | switchSpace language merged index space =>
    cases result with
    | error f => exact hv
    | ok b => exact isNamed_overlay hv hc.1 (isPure_merged hc (hresult b rfl)) _
  | startBase language left =>
    cases result with
    | error f => exact hv
    | ok b =>
      exact (follows_activate p available v (.started language left) language b).isNamed
        (View.isNamed_activate hv _ hc.1 b) hc.2
  | newSpace language space start =>
    obtain ⟨hlanguage, hspace, hstart⟩ := hc
    cases result with
    | error f => exact hv
    | ok b =>
      have hq : (addedSequel space b start).All Key.IsPlain := by
        cases start with
        | none => trivial
        | some first => exact hstart first rfl
      exact (follows_newSpace p available v language space start b).isNamed
        (isNamed_added hv hspace b) hq
  | fallback q =>
    cases result with
    | error f => exact (follows_fallback_error p available v q f).isNamed hv hc
    | ok b =>
      have hnext : { v with fallback := some b }.IsNamed := ⟨hv.language, hv.spaces⟩
      exact (follows_fallback_ok p available v q b).isNamed hnext hc
  | fallbackSpace index space q =>
    cases result with
    | error f => exact (follows_fallbackSpace_error p available v q index space f).isNamed hv hc.2
    | ok b =>
      have hnext : (v.addFallbackSpace space (prefixed space b)).IsNamed :=
        ⟨hv.language, hv.spaces⟩
      exact (follows_fallbackSpace_ok p available v q index space b).isNamed hnext hc.2

theorem isPure_added (h : v.IsPure content p.defaultLanguage) {space : Key} {b : Bundle}
    (hb : content.IsPure v.language (prefixed space b)) :
    (added p v space b).IsPure content p.defaultLanguage := by
  have hadded := h.addSpace space hb
  unfold added
  split
  · rename_i hmain
    rw [hmain] at hb
    exact hadded.addFallbackSpace space hb
  · exact hadded

/-- A call that goes on leaves a pure view behind if it keeps the active language. -/
theorem isPure_resume (h : v.IsPure content p.defaultLanguage) (hc : c.IsNamed content)
    (hresult : ∀ b, result = .ok b →
      content.IsRight (c.wanted p).1 (c.wanted p).2 b ∧ c.Keeps content v) :
    (c.resume p available v result).view.IsPure content p.defaultLanguage := by
  cases c with
  | switchBase language =>
    cases result with
    | error f => exact h
    | ok b =>
      exact isPure_overlay h (Content.isPure_of_hasPlainKeys (hresult b rfl).1 _) 0
  | switchSpace language merged index space =>
    cases result with
    | error f => exact h
    | ok b => exact isPure_overlay h (isPure_merged hc (hresult b rfl).1) _
  | startBase language left =>
    cases result with
    | error f => exact h
    | ok b =>
      have hb : content.IsPure language b := Content.isPure_of_hasPlainKeys (hresult b rfl).1 _
      exact (View.isPure_activate h hb).of_agrees
        (follows_activate p available v (.started language left) language b).agrees
  | newSpace language space start =>
    obtain ⟨-, hspace, -⟩ := hc
    cases result with
    | error f => exact h
    | ok b =>
      obtain ⟨hright, hkeeps⟩ := hresult b rfl
      rw [wanted, hspace.space?_eq] at hright
      have hb : content.IsPure v.language (prefixed space b) := by
        rcases Content.isRight_cases hspace hright with ⟨hwell, rfl⟩ | ⟨hsame, hplain⟩
        · exact Content.isPure_prefixed hwell (hkeeps hwell)
        · rw [hsame]
          exact Content.isPure_of_hasPlainKeys hplain _
      exact (isPure_added h hb).of_agrees
        (follows_newSpace p available v language space start b).agrees
  | fallback q =>
    cases result with
    | error f => exact h.of_agrees (follows_fallback_error p available v q f).agrees
    | ok b =>
      have hnext : { v with fallback := some b }.IsPure content p.defaultLanguage := by
        refine ⟨h.translations, ?_⟩
        intro c hc
        cases hc
        exact Content.isPure_of_hasPlainKeys (hresult b rfl).1 _
      exact hnext.of_agrees (follows_fallback_ok p available v q b).agrees
  | fallbackSpace index space q =>
    cases result with
    | error f =>
      exact h.of_agrees (follows_fallbackSpace_error p available v q index space f).agrees
    | ok b =>
      have hright := (hresult b rfl).1
      rw [wanted, hc.1.space?_eq] at hright
      exact (h.addFallbackSpace space (hright.isPure_prefixed hc.1)).of_agrees
        (follows_fallbackSpace_ok p available v q index space b).agrees

/-- A call that leaves an unmixed view behind keeps the active language. -/
theorem keeps_of_isUnmixed {b : Bundle} (hc : c.IsNamed content)
    (hb : content.IsRight (c.wanted p).1 (c.wanted p).2 b)
    (h : (c.resume p available v (.ok b)).view.IsUnmixed content p.defaultLanguage) :
    c.Keeps content v := by
  cases c with
  | newSpace language space start =>
    intro hspace e he
    rw [wanted, hspace.1.space?_eq] at hb
    obtain rfl := hb.eq hspace
    have hfollows := follows_newSpace p available v language space start
      (content language (some space))
    obtain ⟨d, i, hview⟩ := hfollows.agrees
    rw [hview] at h
    have hmem : e ∈ (added p v space (content language (some space))).translations := by
      rw [added_translations]
      exact Entries.mem_of_get? (Entries.get?_update_of_mem (nodup_keys_prefixed hspace _) he _)
    have hunmixed := h.translations e hmem space (mem_added_spaces p v space _)
      (isUnder_of_mem_prefixed hspace he)
    simp only [added_language] at hunmixed
    exact hunmixed
  | _ => trivial

end Call
end Polyglot
