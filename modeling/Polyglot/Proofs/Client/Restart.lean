import Polyglot.Proofs.Client.Reached

/-!
# Starting again

A client may be started again after it was used. It then shows the translations of the language it
starts in with the namespaces of its plan on top, and no others, though it goes on listing those
that were loaded before. This module tells which of the listed namespaces are shown after such a
start, in the active language and in the default one.
-/
namespace Polyglot

variable {σ : Type} {outside : Outside σ} {s : Supply} {content : Content} {p : ClientPlan}

/-! ## Entries of a namespace -/

/-- Whether a bundle has all entries of a namespace of a language. -/
def Content.IsIn (content : Content) (language space : Key) (b : Bundle) : Prop :=
  ∀ e ∈ Call.prefixed space (content language (some space)), Entries.get? b e.1 = some e.2

namespace Content

variable {language space other : Key}

theorem isIn_update_self (hspace : space.IsSpace) (b : Bundle) :
    content.IsIn language space
      (Entries.update b (Call.prefixed space (s.bundle content language (some space)))) :=
  fun _ he => Entries.get?_update_of_mem (Call.nodup_keys_prefixed hspace _) he b

/-- The entries of another namespace do not matter. -/
theorem isIn_update_iff (hspace : space.IsSpace) (hother : other.IsSpace) (hne : space ≠ other)
    (b more : Bundle) :
    content.IsIn language space (Entries.update b (Call.prefixed other more)) ↔
      content.IsIn language space b := by
  refine forall₂_congr fun e he => ?_
  rw [Entries.get?_update_of_forall_ne fun d hd =>
    Call.ne_of_mem_prefixed hspace hother hne he hd]

/-- What a language shows with some namespaces on top has these, and others only if its own bundle
has their entries. -/
theorem isIn_shown_iff (hspace : space.IsSpace) {spaces : List Key}
    (hspaces : ∀ k ∈ spaces, k.IsSpace) :
    content.IsIn language space (s.shown content language spaces) ↔
      space ∈ spaces ∨ content.IsIn language space (s.bundle content language none) := by
  induction spaces using List.reverseRecOn with
  | nil => simp [Supply.shown_nil]
  | append_singleton spaces last ih =>
    have hlast : last.IsSpace := hspaces last (List.mem_append_right _ List.mem_cons_self)
    have hold : ∀ k ∈ spaces, k.IsSpace := fun k hk => hspaces k (List.mem_append_left _ hk)
    rw [Supply.shown_append]
    by_cases heq : space = last
    · subst heq
      simp [isIn_update_self hspace]
    · rw [isIn_update_iff hspace hlast heq, ih hold]
      simp [heq]

end Content

/-! ## Views -/

namespace View

/-- Whether a view has kept what another one has of the default language, and added nothing but
namespaces that are there with all of their entries. -/
structure KeepsFallback (content : Content) (p : ClientPlan) (v w : View) : Prop where
  noted : w.fallbackSpaces ⊆ v.fallbackSpaces
  shown : ∀ k ∈ v.fallbackSpaces,
    content.IsIn (.text p.defaultLanguage) k (v.fallback.getD []) ↔
      (k ∈ w.fallbackSpaces → content.IsIn (.text p.defaultLanguage) k (w.fallback.getD []))

/-- Whether a view shows all entries of every namespace that is loaded, and in the default language
all entries of every namespace that is noted for that. -/
def HasNamespaces (content : Content) (p : ClientPlan) (v : View) : Prop :=
  (∀ k ∈ v.spaces, content.IsIn v.language k v.translations) ∧
    ∀ k ∈ v.fallbackSpaces, content.IsIn (.text p.defaultLanguage) k (v.fallback.getD [])

/-- What a start has made of a view when it has loaded some namespaces of the plan. -/
structure IsRestarted (s : Supply) (content : Content) (p : ClientPlan) (v w : View)
    (done : List Key) : Prop where
  reached : v.IsReached
  translations : v.translations = s.shown content v.language done
  spaces : ∀ k, k ∈ v.spaces ↔ k ∈ w.spaces ∨ k ∈ done
  active : v.language = .text p.defaultLanguage → v.fallback = some v.translations ∧ v.IsComplete
  other : v.language ≠ .text p.defaultLanguage → v.KeepsFallback content p w

variable {v w : View} {done : List Key}

theorem KeepsFallback.refl (v : View) : v.KeepsFallback content p v :=
  ⟨List.Subset.refl _, fun _ hk => ⟨fun h _ => h, fun h => h hk⟩⟩

theorem KeepsFallback.of_eq (h : v.KeepsFallback content p w) {u : View}
    (hfallback : u.fallback = v.fallback) (hnoted : u.fallbackSpaces = v.fallbackSpaces) :
    u.KeepsFallback content p w :=
  ⟨hnoted ▸ h.noted, hfallback ▸ hnoted ▸ h.shown⟩

/-- The bundle of the default language, if there was none, comes without any namespaces. -/
theorem KeepsFallback.withFallback (h : v.KeepsFallback content p w)
    (hnone : v.fallbackSpaces = []) (b : Bundle) :
    { v with fallback := some b }.KeepsFallback content p w := by
  refine ⟨h.noted, fun k hk => ?_⟩
  have hsome : k ∈ v.fallbackSpaces := hk
  rw [hnone] at hsome
  cases hsome

/-- A namespace that was not noted is added with all of its entries, and the others stay as they
are. -/
theorem KeepsFallback.addFallbackSpace (h : v.KeepsFallback content p w) (hreached : v.IsReached)
    {space : Key} (hspace : space.IsSpace) (hnew : space ∉ v.fallbackSpaces) :
    (v.addFallbackSpace space (Call.prefixed space
      (s.bundle content (.text p.defaultLanguage) (some space)))).KeepsFallback content p w := by
  have hbundle : (v.addFallbackSpace space (Call.prefixed space
      (s.bundle content (.text p.defaultLanguage) (some space)))).fallback.getD [] =
        Entries.update (v.fallback.getD []) (Call.prefixed space
          (s.bundle content (.text p.defaultLanguage) (some space))) := rfl
  refine ⟨fun k hk => (mem_addFallbackSpace _).2 (.inl (h.noted hk)), fun k hk => ?_⟩
  rw [hbundle]
  rcases (mem_addFallbackSpace _).1 hk with hold | rfl
  · have hne : k ≠ space := fun heq => hnew (heq ▸ hold)
    rw [Content.isIn_update_iff (hreached.noted k hold) hspace hne]
    exact h.shown k hold
  · exact ⟨fun _ hw => absurd (h.noted hw) hnew, fun _ => Content.isIn_update_self hspace _⟩

theorem IsRestarted.of_agrees (h : v.IsRestarted s content p w done) {u : View}
    (hu : v.Agrees u) : u.IsRestarted s content p w done := by
  have hreached := h.reached.of_agrees hu
  obtain ⟨d, b, rfl⟩ := hu
  refine ⟨hreached, h.translations, h.spaces, fun hactive => ?_, fun hother => ?_⟩
  · exact ⟨(h.active hactive).1, (h.active hactive).2.of_eq rfl rfl rfl⟩
  · exact (h.other hother).of_eq rfl rfl

theorem mem_added_spaces_iff {space k : Key} (b : Bundle) :
    k ∈ (Call.added p v space b).spaces ↔ k ∈ v.spaces ∨ k = space := by
  unfold Call.added
  split
  · exact mem_addSpace (Call.prefixed space b)
  · exact mem_addSpace (Call.prefixed space b)

/-- Making a language the active one shows its bundle and loses no namespace that was loaded. -/
theorem isRestarted_activate (h : w.IsReached) {language : Key} (hlanguage : language.IsPlain) :
    (w.activate p.defaultLanguage language (s.bundle content language none)).view.IsRestarted s
      content p w [] := by
  have hreached := h.activate hlanguage p.defaultLanguage (s.bundle content language none)
  obtain ⟨l, rfl, -⟩ := hlanguage
  revert hreached
  unfold View.activate
  simp only [Message.Formatter.setLanguage_text_result]
  by_cases hdefault : Key.text l = .text p.defaultLanguage
  · simp only [hdefault, decide_true, Except.toBool, Bool.and_self, if_true]
    intro hreached
    exact ⟨hreached, rfl, fun k => by simp,
      fun _ => ⟨rfl, ⟨Option.some_ne_none _, fun _ => Iff.rfl⟩⟩, fun hother => absurd rfl hother⟩
  · simp only [hdefault, decide_false, Bool.and_false, Bool.false_eq_true, if_false]
    intro hreached
    exact ⟨hreached, rfl, fun k => by simp, fun hactive => absurd hactive hdefault,
      fun _ => (KeepsFallback.refl w).of_eq rfl rfl⟩

/-- Adding a namespace of the plan shows it in the active language, and in the default one if that
is active. -/
theorem IsRestarted.added (h : v.IsRestarted s content p w done) {space : Key}
    (hspace : space.IsSpace) :
    (Call.added p v space (s.bundle content v.language (some space))).IsRestarted s content p w
      (done ++ [space]) := by
  refine ⟨h.reached.added hspace p _, ?_, fun k => ?_, fun hactive => ?_, fun hother => ?_⟩
  · rw [Call.added_translations, Call.added_language, h.translations, Supply.shown_append]
  · rw [mem_added_spaces_iff, h.spaces, List.mem_append, List.mem_singleton, or_assoc]
  · rw [Call.added_language] at hactive
    obtain ⟨hfallback, hcomplete⟩ := h.active hactive
    simp only [Call.added, if_pos hactive]
    refine ⟨?_, hcomplete.addBoth space _⟩
    simp only [View.addFallbackSpace, View.addSpace, hfallback, Option.getD_some]
  · rw [Call.added_language] at hother
    simp only [Call.added, if_neg hother]
    exact (h.other hother).of_eq rfl rfl

theorem IsRestarted.withFallback (h : v.IsRestarted s content p w done)
    (hother : v.language ≠ .text p.defaultLanguage) (hnone : v.fallback = none) (b : Bundle) :
    { v with fallback := some b }.IsRestarted s content p w done :=
  ⟨h.reached.withFallback b, h.translations, h.spaces, fun hactive => absurd hactive hother,
    fun _ => (h.other hother).withFallback (h.reached.nothing hnone) b⟩

theorem IsRestarted.addFallbackSpace (h : v.IsRestarted s content p w done)
    (hother : v.language ≠ .text p.defaultLanguage) {space : Key} (hspace : space.IsSpace)
    (hnew : space ∉ v.fallbackSpaces) :
    (v.addFallbackSpace space (Call.prefixed space
      (s.bundle content (.text p.defaultLanguage) (some space)))).IsRestarted s content p w done :=
  ⟨h.reached.addFallbackSpace hspace _, h.translations, h.spaces,
    fun hactive => absurd hactive hother,
    fun _ => (h.other hother).addFallbackSpace h.reached hspace hnew⟩

/-- After a start, the namespaces of the plan are shown, and of those that were loaded before only
the ones whose entries the bundle of the language has by itself. -/
theorem IsRestarted.hasNamespaces_iff (h : v.IsRestarted s content p w done)
    (hdone : ∀ k ∈ done, k.IsSpace) :
    v.HasNamespaces content p ↔
      (∀ k ∈ w.spaces, k ∈ done ∨ content.IsIn v.language k (s.bundle content v.language none)) ∧
        (v.language ≠ .text p.defaultLanguage →
          ∀ k ∈ w.fallbackSpaces,
            content.IsIn (.text p.defaultLanguage) k (w.fallback.getD [])) := by
  have hshown : (∀ k ∈ v.spaces, content.IsIn v.language k v.translations) ↔
      ∀ k ∈ w.spaces, k ∈ done ∨ content.IsIn v.language k (s.bundle content v.language none) := by
    rw [h.translations]
    constructor
    · intro hv k hk
      have hmem : k ∈ v.spaces := (h.spaces k).2 (.inl hk)
      exact (Content.isIn_shown_iff (h.reached.spaces k hmem) hdone).1 (hv k hmem)
    · intro hw k hk
      refine (Content.isIn_shown_iff (h.reached.spaces k hk) hdone).2 ?_
      exact ((h.spaces k).1 hk).elim (hw k) .inl
  unfold HasNamespaces
  rw [hshown]
  refine and_congr_right fun hw => ?_
  by_cases hactive : v.language = .text p.defaultLanguage
  · -- The default language is shown as the active one is, so this part says nothing more.
    obtain ⟨hfallback, hcomplete⟩ := h.active hactive
    refine iff_of_true (fun k hk => ?_) fun hother => absurd hactive hother
    rw [hfallback, Option.getD_some, ← hactive]
    exact hshown.2 hw k ((hcomplete.spaces k).1 hk)
  · have hkept := h.other hactive
    constructor
    · exact fun hv _ k hk => (hkept.shown k (hkept.noted hk)).1 (hv k (hkept.noted hk)) hk
    · exact fun hold k hk => (hkept.shown k hk).2 (hold hactive k)

end View

/-! ## Calls -/

/-- Whether a call goes on with a start that has loaded some namespaces of the plan. -/
def Call.Restarts (p : ClientPlan) (v : View) (done : List Key) : Call → Prop
  | .newSpace language space (some (_, left)) =>
      language = v.language ∧ p.spaces = (done ++ [space]).map some ++ left
  | .fallback (.started _ left) =>
      p.spaces = done.map some ++ left ∧ v.language ≠ .text p.defaultLanguage ∧ v.fallback = none
  | .fallbackSpace _ space (.started _ left) =>
      p.spaces = done.map some ++ left ∧ v.language ≠ .text p.defaultLanguage ∧
        space.IsSpace ∧ space ∉ v.fallbackSpaces
  | _ => False

/-- Whether a start that ends with a view and a result has loaded all namespaces of the plan, unless
it failed. -/
def View.EndsRestarted (s : Supply) (content : Content) (p : ClientPlan) (w v : View)
    (result : Except CallFault (Option Bundle)) : Prop :=
  ∀ r, result = .ok r → ∃ done, v.IsRestarted s content p w done ∧ p.spaces = done.map some

theorem View.endsRestarted_error (w v : View) (f : CallFault) :
    w.EndsRestarted s content p v (.error f) :=
  nofun

/-- Whether a start goes on, or has loaded all namespaces of the plan. -/
def Progress.Restarts (s : Supply) (content : Content) (p : ClientPlan) (w : View) :
    Progress → Prop
  | .waits v _ c => ∃ done, v.IsRestarted s content p w done ∧ c.Restarts p v done
  | .ends v _ result => w.EndsRestarted s content p v result

theorem Progress.Restarts.after {w : View} {progress : Progress}
    (h : progress.Restarts s content p w) (events : List Event) :
    (progress.after events).Restarts s content p w := by
  cases progress <;> exact h

namespace Call

variable {available : List String} {v w : View} {done : List Key} {first : Key}
  {left : List (Option Key)}

theorem restarts_finish (h : v.IsRestarted s content p w done)
    (hleft : p.spaces = done.map some ++ left) :
    (finish available v (.started first left)).Restarts s content p w := by
  match left with
  | [] =>
    rw [List.append_nil] at hleft
    exact fun _ _ => ⟨done, h.of_agrees ⟨_, _, rfl⟩, hleft⟩
  | none :: left => exact View.endsRestarted_error w v _
  | some space :: left => exact ⟨done, h, rfl, by simp [hleft]⟩

theorem restarts_completeFrom (h : v.IsRestarted s content p w done)
    (hother : v.language ≠ .text p.defaultLanguage) (hleft : p.spaces = done.map some ++ left)
    (index : Nat) :
    (completeFrom available v index (.started first left)).Restarts s content p w := by
  unfold completeFrom
  split
  · rename_i i space hfirst
    obtain ⟨before, after, hnames, -, hnew, -⟩ := firstUnknown_eq_some hfirst
    have hmem : space ∈ v.spaces.drop index := hnames ▸ by simp
    exact ⟨done, h, hleft, hother, h.reached.spaces space (List.mem_of_mem_drop hmem), hnew⟩
  · exact restarts_finish h hleft

theorem restarts_completeUnless (h : v.IsRestarted s content p w done)
    (hleft : p.spaces = done.map some ++ left) :
    (completeUnless p available v v.language (.started first left)).Restarts s content p w := by
  unfold completeUnless complete
  split
  · exact restarts_finish h hleft
  · rename_i hother
    split
    · rename_i hnone
      exact ⟨done, h, hleft, hother, hnone⟩
    · exact restarts_completeFrom h hother hleft 0

/-- A start that has loaded the bundle of its language goes on with the namespaces of the plan. -/
theorem restarts_activate (h : w.IsReached) {language : Key} (hlanguage : language.IsPlain) :
    (activate p available w language (s.bundle content language none)
      (.started first p.spaces)).Restarts s content p w := by
  have hview : (w.activate p.defaultLanguage language
      (s.bundle content language none)).view.IsRestarted s content p w [] :=
    View.isRestarted_activate h hlanguage
  have hgoes : (completeUnless p available (w.activate p.defaultLanguage language
      (s.bundle content language none)).view (w.activate p.defaultLanguage language
        (s.bundle content language none)).view.language (.started first p.spaces)).Restarts s
          content p w := restarts_completeUnless hview rfl
  rw [View.activate_language] at hgoes
  unfold activate
  simp only [View.activate_result w p.defaultLanguage hlanguage]
  exact hgoes.after _

theorem restarts_newSpace (hplan : p.IsPlain) (h : v.IsRestarted s content p w done)
    {language space : Key} {left : List (Option Key)}
    (hc : (newSpace language space (some (first, left))).Restarts p v done) {b : Bundle}
    (hb : b = s.bundle content language space.space?) :
    ((newSpace language space (some (first, left))).resume p available v (.ok b)).Restarts
      s content p w := by
  obtain ⟨rfl, hleft⟩ := hc
  have hmem : some space ∈ p.spaces := hleft ▸ by simp
  have hspace : space.IsSpace := hplan.spaces _ hmem _ rfl
  rw [Supply.bundle_space? hspace] at hb
  have hadded : (added p v space b).IsRestarted s content p w (done ++ [space]) :=
    hb ▸ h.added hspace
  rw [resume_newSpace_ok, ← added_language p v space b]
  exact restarts_completeUnless hadded hleft

/-- A start goes on with the right bundle, or with a load that failed for the default language. -/
theorem Restarts.resume (hplan : p.IsPlain) (h : v.IsRestarted s content p w done) {c : Call}
    (hc : c.Restarts p v done) {result : Except LoadFault Bundle}
    (hresult : ∀ b, result = .ok b → b = s.bundle content (c.wanted p).1 (c.wanted p).2) :
    (c.resume p available v result).Restarts s content p w := by
  cases c with
  | switchBase language => exact hc.elim
  | switchSpace language merged index space => exact hc.elim
  | startBase language left => exact hc.elim
  | newSpace language space start =>
    match start, result with
    | none, _ => exact hc.elim
    | some _, .error f => exact View.endsRestarted_error w v _
    | some (first, left), .ok b => exact restarts_newSpace hplan h hc (hresult b rfl)
  | fallback q =>
    match q, result with
    | .switched _, _ => exact hc.elim
    | .added _, _ => exact hc.elim
    | .started first left, .error f => exact (restarts_finish h hc.1).after _
    | .started first left, .ok b =>
      obtain ⟨hleft, hother, hnone⟩ := hc
      exact restarts_completeFrom (h.withFallback hother hnone b) hother hleft 0
  | fallbackSpace index space q =>
    match q, result with
    | .switched _, _ => exact hc.elim
    | .added _, _ => exact hc.elim
    | .started first left, .error f =>
      exact (restarts_completeFrom h hc.2.1 hc.1 _).after _
    | .started first left, .ok b =>
      obtain ⟨hleft, hother, hspace, hnew⟩ := hc
      have hb : b = s.bundle content (.text p.defaultLanguage) space.space? := hresult b rfl
      rw [Supply.bundle_space? hspace] at hb
      subst hb
      exact restarts_completeFrom (h.addFallbackSpace hother hspace hnew) hother hleft _

end Call

/-! ## Clients -/

namespace Client

variable {c : Client} {w : View} {done : List Key}

section Reached

variable (hserves : s.Serves outside content) (htells : s.TellsPlain outside) (hplan : p.IsPlain)
include hserves htells hplan

/-- A start goes on after its load, or ends. -/
theorem IsReached.resume_restarts (h : c.IsReached outside p s content) {call : Call}
    (hreached : call.IsReached) (hcall : (Progress.waits c.view [] call).Restarts s content p w)
    (available : List String) (world : σ) :
    (call.resume c.plan available c.view (c.loader.load outside c.supply
      (call.wanted c.plan).1 (call.wanted c.plan).2 world).result).Restarts s content p w := by
  obtain ⟨done, hview, hcall⟩ := hcall
  obtain ⟨-, hresult⟩ := h.loadCall hserves htells hplan hreached world
  rw [h.plan] at hresult ⊢
  exact hcall.resume hplan hview hresult

/-- However the loads of a start go, it ends with all namespaces of the plan, or it fails. -/
theorem IsReached.perform_restarts (h : c.IsReached outside p s content) {call : Call}
    (hreached : call.IsReached) (hcall : (Progress.waits c.view [] call).Restarts s content p w)
    (world : σ) :
    w.EndsRestarted s content p (c.perform outside call world).client.view
      (c.perform outside call world).result := by
  fun_induction Client.perform outside c call world with
  | case1 c call world wanted l loaded view events result hresume =>
    have hends := h.resume_restarts hserves htells hplan hreached hcall
      loaded.supportedLanguages world
    rw [hresume] at hends
    exact hends
  | case2 c call world wanted l loaded view events next hresume hlt ih =>
    have hgoes := h.resume_restarts hserves htells hplan hreached hcall
      loaded.supportedLanguages world
    have hnext := Call.isReached_resume h.view hreached c.plan loaded.supportedLanguages l.result
    rw [hresume] at hgoes hnext
    exact ih ((h.loadCall hserves htells hplan hreached world).1.withView hnext.1) hnext.2 hgoes

theorem IsReached.run_restarts (h : c.IsReached outside p s content) {begun : Progress}
    (hreached : begun.IsReached) (hbegun : begun.Restarts s content p w) (world : σ) :
    w.EndsRestarted s content p (c.run outside begun world).client.view
      (c.run outside begun world).result := by
  cases begun with
  | ends view events result => exact hbegun
  | waits view events call =>
    exact (h.withView hreached.1).perform_restarts hserves htells hplan hreached.2 hbegun world

/-- A start that does not fail has loaded all namespaces of the plan. -/
theorem IsReached.start_restarts (h : c.IsReached outside p s content) (world : σ) :
    c.view.EndsRestarted s content p (c.start outside world).client.view
      (c.start outside world).result := by
  have hspaces : ∀ o ∈ c.plan.spaces, ∀ k ∈ o, k.IsSpace := h.plan ▸ hplan.spaces
  rcases (h.hasPlainLanguages hplan).start_cases h.view.language with
    ⟨events, f, hstart⟩ | ⟨events, language, hlanguage, hstart⟩
  · rw [Client.start, hstart]
    exact View.endsRestarted_error c.view c.view f
  · have hcall : (Call.startBase language c.plan.spaces).IsReached := ⟨hlanguage, hspaces⟩
    rw [start_eq_perform outside hstart, perform_eq_run]
    obtain ⟨hloaded, hresult⟩ := h.loadCall hserves htells hplan hcall world
    simp only [Call.wanted] at hloaded hresult ⊢
    cases hload : (c.loader.load outside c.supply language none world).result with
    | error f => exact View.endsRestarted_error c.view c.view _
    | ok b =>
      have hreached := fun available =>
        Call.isReached_resume h.view hcall c.plan available (.ok b)
      have hgoes : ∀ available, ((Call.startBase language c.plan.spaces).resume c.plan available
          c.view (.ok b)).Restarts s content p c.view := by
        intro available
        rw [hresult b hload, h.plan]
        exact Call.restarts_activate h.view hlanguage
      exact hloaded.run_restarts hserves htells hplan (hreached _) (hgoes _) _

end Reached

/-- However a client was used, a start that succeeds lists the namespaces that were loaded before
with those of the plan. It shows all of them exactly if each one that the plan does not name has its
entries in the bundle of the language by itself, and what is noted for the default language was
shown before, unless that language is the active one. -/
theorem start_hasNamespaces_iff {settings : ClientSettings} {parts : Parts}
    {library : LocaleLibrary} (hc : create settings parts library = .ok c)
    (hcache : (parts.cache.getD .usual).entries = [])
    (hplain : c.HasPlainLanguages) (hspaces : ∀ o ∈ c.plan.spaces, ∀ k ∈ o, k.IsSpace)
    (hserves : c.supply.Serves outside content) (htells : c.supply.TellsPlain outside)
    {us : List Use} (hus : ∀ u ∈ us, u.IsPlain) {world world' : σ} {r : Option Bundle}
    (hok : ((c.useAll outside world us).2.start outside world').result = .ok r) :
    let before := (c.useAll outside world us).2.view
    let after := ((c.useAll outside world us).2.start outside world').client.view
    (∀ k, k ∈ after.spaces ↔ k ∈ before.spaces ∨ some k ∈ c.plan.spaces) ∧
      (after.HasNamespaces content c.plan ↔
        (∀ k ∈ before.spaces, some k ∈ c.plan.spaces ∨
          content.IsIn after.language k (c.supply.bundle content after.language none)) ∧
        (after.language ≠ .text c.plan.defaultLanguage → ∀ k ∈ before.fallbackSpaces,
          content.IsIn (.text c.plan.defaultLanguage) k (before.fallback.getD []))) := by
  intro before after
  have hplan : c.plan.IsPlain := ⟨hplain.defaultLanguage, hplain.fallbackLanguage, hspaces⟩
  have hreached : (c.useAll outside world us).2.IsReached outside c.plan c.supply content :=
    (isReached_of_create hc hcache hplain).useAll hserves htells hplan hus world
  obtain ⟨done, hafter, hdone⟩ := hreached.start_restarts hserves htells hplan world' r hok
  have hmem : ∀ k, k ∈ done ↔ some k ∈ c.plan.spaces := fun k => by simp [hdone]
  have hspace : ∀ k ∈ done, k.IsSpace := fun k hk => hspaces _ ((hmem k).1 hk) k rfl
  refine ⟨fun k => (hafter.spaces k).trans (or_congr_right (hmem k)), ?_⟩
  rw [hafter.hasNamespaces_iff hspace]
  simp only [hmem]
  rfl

/-! ## A namespace that was loaded before -/

/-- A start in the default language succeeds if its bundle is given with the program and no
namespaces are to be loaded. -/
theorem start_of_given (hdetector : c.view.detector = none)
    (hlanguage : c.view.language = .text c.plan.defaultLanguage)
    (hplain : c.view.language.IsPlain) (hspaces : c.plan.spaces = []) {b : Bundle}
    (hb : c.supply.given? c.view.language none = some b) (world : σ) :
    (c.start outside world).result = .ok none ∧
      (c.start outside world).client.view.language = c.view.language := by
  have hstart : Call.start c.plan c.supportedLanguages c.view =
      .waits c.view [] (.startBase c.view.language []) := by
    rw [Call.start, hdetector, hspaces]
  obtain ⟨b', hload⟩ : ∃ b', (c.loader.load outside c.supply c.view.language none world).result =
      .ok b' := Loader.exists_load_of_given hb world
  have hends : ∀ available, ∃ view events, view.language = c.view.language ∧
      (Call.startBase c.view.language []).resume c.plan available c.view (.ok b') =
        .ends view events (.ok none) := by
    intro available
    simp only [Call.resume, Call.activate, View.activate_result c.view _ hplain,
      Call.completeUnless, if_pos hlanguage, Call.finish, Progress.after]
    refine ⟨_, _, ?_, rfl⟩
    exact View.activate_language c.view c.plan.defaultLanguage c.view.language b'
  obtain ⟨view, events, hactive, hresume⟩ := hends { c with
    loader := (c.loader.load outside c.supply c.view.language none world).loader
      }.supportedLanguages
  rw [← hload] at hresume
  rw [start_eq_perform outside hstart,
    perform_of_ends outside c (.startBase c.view.language []) world hresume]
  exact ⟨rfl, hactive⟩

/-- A namespace of the default language that can be loaded is added to what is shown of that. -/
theorem addSpace_client_view {space : Key}
    (hlanguage : c.view.language = .text c.plan.defaultLanguage) {world : σ} {b : Bundle}
    (hload : (c.loader.load outside c.supply c.view.language space.space? world).result = .ok b) :
    (c.addSpace outside space world).client.view = Call.added c.plan c.view space b := by
  have hends : ∀ available, (Call.newSpace c.view.language space none).resume c.plan available
      c.view (.ok b) =
        .ends (Call.added c.plan c.view space b) [] (.ok (some (Call.prefixed space b))) := by
    intro available
    rw [Call.resume_newSpace_ok, Call.completeUnless, if_pos hlanguage]
    rfl
  have hrun : c.addSpace outside space world =
      (c.perform outside (.newSpace c.view.language space none) world).after [] := rfl
  rw [hrun, perform_eq_run]
  simp only [Call.wanted, hload, hends]
  rfl

/-- A client is started and loads its shop before it is started again. -/
def reopening : List Use := [.start, .op (.addSpace "shop")]

theorem isPlain_reopening : ∀ u ∈ reopening, u.IsPlain := by
  intro u hu
  simp only [reopening, List.mem_cons, List.not_mem_nil, or_false] at hu
  rcases hu with rfl | rfl
  · trivial
  · exact ⟨Key.isPlain_text_iff.2 (by decide), by decide⟩

theorem tellsPlain_bilingual : bilingual.supply.TellsPlain (.serving Parts.greetingFiles) :=
  Supply.tellsPlain_served rfl

theorem serves_bilingual : bilingual.supply.Serves (.serving Parts.greetingFiles)
    (.served Parts.greetingFiles "/locales") :=
  Supply.serves_served rfl _

theorem isReached_reopening :
    (bilingual.useAll (.serving Parts.greetingFiles) () reopening).2.IsReached
      (.serving Parts.greetingFiles) bilingual.plan bilingual.supply
        (.served Parts.greetingFiles "/locales") := by
  have hcreate : create (.ofEntries []) .bilingual = .ok bilingual := rfl
  have hplain := hasPlainLanguages_bilingual
  have hplan : bilingual.plan.IsPlain :=
    ⟨hplain.defaultLanguage, hplain.fallbackLanguage, fun o ho => nomatch ho⟩
  exact (isReached_of_create hcreate rfl hplain).useAll serves_bilingual tellsPlain_bilingual hplan
    isPlain_reopening ()

/-- The shop is loaded then, and the client can be started again, in English. -/
theorem start_reopening :
    let c := (bilingual.useAll (.serving Parts.greetingFiles) () reopening).2
    Key.text "shop" ∈ c.view.spaces ∧
      (c.start (.serving Parts.greetingFiles) ()).result = .ok none ∧
      (c.start (.serving Parts.greetingFiles) ()).client.view.language = .text "en" := by
  intro c
  have hreached : c.IsReached (.serving Parts.greetingFiles) bilingual.plan bilingual.supply
      (.served Parts.greetingFiles "/locales") := isReached_reopening
  have hused : c = ((bilingual.start (.serving Parts.greetingFiles) ()).client.addSpace
      (.serving Parts.greetingFiles) "shop" ()).client := rfl
  have hstart : bilingual.start (.serving Parts.greetingFiles) () =
      (bilingual.perform (.serving Parts.greetingFiles) (.startBase "en" []) ()).after [] := rfl
  rw [perform_of_ends _ bilingual (.startBase "en" []) () rfl] at hstart
  rw [hstart] at hused
  generalize hstarted : Outcome.client (Outcome.after _ _) = started at hused
  have hlanguage : started.view.language = .text started.plan.defaultLanguage := by
    rw [← hstarted]
    rfl
  obtain ⟨b, hload⟩ : ∃ b, (started.loader.load (.serving Parts.greetingFiles) started.supply
      started.view.language (Key.text "shop").space? ()).result = .ok b := by
    rw [← hstarted]
    exact Outcome.exists_ok_of_toBool (by decide +kernel)
  have hview : c.view = Call.added started.plan started.view "shop" b := by
    rw [hused]
    exact addSpace_client_view hlanguage hload
  have hactive : c.view.language = .text "en" := by
    rw [hview, Call.added_language, ← hstarted]
    rfl
  have hdetector : c.view.detector = none := by
    rw [hview, Call.added, if_pos hlanguage, ← hstarted]
    rfl
  refine ⟨hview ▸ Call.mem_added_spaces _ _ _ _, ?_⟩
  have hgiven : c.supply.given? c.view.language none =
      some ([("hello", .text "Hello"), ("bye", .text "Bye")] : Bundle) := by
    rw [hreached.supply, hactive]
    rfl
  have hdefault : c.view.language = .text c.plan.defaultLanguage := by
    rw [hactive, hreached.plan]
    rfl
  have hspaces : c.plan.spaces = [] := by
    rw [hreached.plan]
    rfl
  rw [← hactive]
  exact start_of_given hdetector hdefault hreached.view.language hspaces hgiven ()

theorem not_isIn_shop :
    ¬Content.IsIn (.served Parts.greetingFiles "/locales") "en" "shop"
      (bilingual.supply.bundle (.served Parts.greetingFiles "/locales") "en" none) := by
  intro h
  have htitle := h (.text "shop:title", .text "Shop") List.mem_cons_self
  have hnone : Entries.get? (bilingual.supply.bundle (.served Parts.greetingFiles "/locales") "en"
      none) (.text "shop:title") = none := rfl
  rw [hnone] at htitle
  cases htitle

/-- After the second start the shop is still listed, but not shown any more. -/
theorem start_hasNamespaces_iff_reopening :
    create (.ofEntries []) .bilingual = .ok bilingual ∧
      let c := (bilingual.useAll (.serving Parts.greetingFiles) () reopening).2
      let o := c.start (.serving Parts.greetingFiles) ()
      o.result = .ok none ∧ Key.text "shop" ∈ o.client.view.spaces ∧
        ¬o.client.view.HasNamespaces (.served Parts.greetingFiles "/locales") bilingual.plan := by
  have hcreate : create (.ofEntries []) .bilingual = .ok bilingual := rfl
  refine ⟨hcreate, ?_⟩
  intro c o
  obtain ⟨hshop, hok, hlanguage⟩ := start_reopening
  obtain ⟨hspaces, hnamespaces⟩ := start_hasNamespaces_iff hcreate rfl hasPlainLanguages_bilingual
    (fun o ho => nomatch ho) serves_bilingual tellsPlain_bilingual isPlain_reopening hok
  refine ⟨hok, (hspaces _).2 (.inl hshop), fun h => ?_⟩
  rw [hnamespaces, hlanguage] at h
  exact (h.1 _ hshop).elim (fun hmem => nomatch hmem) not_isIn_shop

theorem exists_forgotten_namespace :
    ¬∀ (σ : Type) (outside : Outside σ) (content : Content) (settings : ClientSettings)
      (parts : Parts) (c : Client) (us : List Use) (world world' : σ) (r : Option Bundle),
      create settings parts = .ok c → (parts.cache.getD .usual).entries = [] →
        c.HasPlainLanguages → (∀ o ∈ c.plan.spaces, ∀ k ∈ o, k.IsSpace) →
          c.supply.Serves outside content → c.supply.TellsPlain outside → (∀ u ∈ us, u.IsPlain) →
            ((c.useAll outside world us).2.start outside world').result = .ok r →
              ((c.useAll outside world us).2.start outside world').client.view.HasNamespaces
                content c.plan := by
  intro h
  obtain ⟨hshop, hok, hlanguage⟩ := start_reopening
  have hcreate : create (.ofEntries []) .bilingual = .ok bilingual := rfl
  have hplan : bilingual.plan.IsPlain :=
    ⟨hasPlainLanguages_bilingual.defaultLanguage, hasPlainLanguages_bilingual.fallbackLanguage,
      fun o ho => nomatch ho⟩
  obtain ⟨done, hafter, hdone⟩ := isReached_reopening.start_restarts serves_bilingual
    tellsPlain_bilingual hplan () none hok
  obtain rfl : done = [] := List.map_eq_nil_iff.1 hdone.symm
  have hshown := (h Unit _ _ _ _ bilingual reopening () () none hcreate rfl
    hasPlainLanguages_bilingual (fun o ho => nomatch ho) serves_bilingual tellsPlain_bilingual
      isPlain_reopening hok).1 _ ((hafter.spaces _).2 (.inl hshop))
  rw [hafter.translations, hlanguage] at hshown
  exact not_isIn_shop hshown

end Client
end Polyglot
