import Mathlib.Data.List.Induction
import Polyglot.Proofs.Bundle.Space
import Polyglot.Proofs.Client.Loading

/-!
# Content

Sources with a fixed content, and what a language shows of it with namespaces on top. Different
namespaces have no key in common, so each one is shown with all of its entries.
-/
namespace Polyglot

/-- The bundle of each language and of each of its namespaces, as the sources have it. -/
abbrev Content := Key → Option Key → Bundle

variable {σ : Type} {outside : Outside σ} {s : Supply} {content : Content}

namespace Supply

/-- Whether every fetch that succeeds yields the content. -/
def Serves (outside : Outside σ) (s : Supply) (content : Content) : Prop :=
  ∀ source ∈ s.sources, ∀ language space, language.IsPlain → (∀ k ∈ space, k.IsSpace) →
    ∀ world loaded, (source.fetch outside language space world).2 = .ok loaded →
      loaded.bundle = content language space

/-- The bundle of a language and a namespace: the given data come before the sources. -/
def bundle (s : Supply) (content : Content) (language : Key) (space : Option Key) : Bundle :=
  (s.given? language space).getD (content language space)

/-- The translations of a language with some namespaces on top. -/
def shown (s : Supply) (content : Content) (language : Key) (spaces : List Key) : Bundle :=
  spaces.foldl
    (fun b space =>
      Entries.update b (Call.prefixed space (s.bundle content language (some space))))
    (s.bundle content language none)

/-- Whether a bundle is the one of every plain language and namespace that has the key. -/
def Genuine (s : Supply) (content : Content) (key : Key) (b : Bundle) : Prop :=
  ∀ language space, language.IsPlain → (∀ k ∈ space, k.IsSpace) →
    cacheKey language space = key → b = s.bundle content language space

theorem Serves.answers (h : s.Serves outside content) {language : Key} {space : Option Key}
    (hlanguage : language.IsPlain) (hspace : ∀ k ∈ space, k.IsSpace) :
    s.Answers outside (s.Genuine content) language space := by
  have hgenuine : ∀ b, b = s.bundle content language space →
      s.Genuine content (cacheKey language space) b := by
    intro b hb language' space' hlanguage' hspace' hkey
    obtain ⟨rfl, rfl⟩ := cacheKey_inj hlanguage' hlanguage hspace' hspace hkey
    exact hb
  constructor
  · intro b hb
    apply hgenuine
    rw [bundle, hb, Option.getD_some]
  · intro hnone source hsource world loaded hfetch
    apply hgenuine
    rw [bundle, hnone, Option.getD_none]
    exact h source hsource language space hlanguage hspace world loaded hfetch

/-- A namespace that is asked for as a key is the one that is loaded. -/
theorem bundle_space? {space : Key} (h : space.IsSpace) (language : Key) :
    s.bundle content language space.space? = s.bundle content language (some space) := by
  rw [h.1.space?_eq]

theorem shown_nil (language : Key) : s.shown content language [] = s.bundle content language none :=
  rfl

theorem shown_append (language : Key) (spaces : List Key) (space : Key) :
    s.shown content language (spaces ++ [space]) =
      Entries.update (s.shown content language spaces)
        (Call.prefixed space (s.bundle content language (some space))) := by
  rw [shown, List.foldl_append]
  rfl

theorem shown_take_succ {language : Key} {spaces : List Key} {index : Nat} {space : Key}
    (h : spaces[index]? = some space) :
    s.shown content language (spaces.take (index + 1)) =
      Entries.update (s.shown content language (spaces.take index))
        (Call.prefixed space (s.bundle content language (some space))) := by
  obtain ⟨hlt, hget⟩ := List.getElem?_eq_some_iff.1 h
  rw [List.take_succ_eq_append_getElem hlt, hget, shown_append]

/-- Each loaded namespace is shown with all of its entries, wherever it stands among the others. -/
theorem get?_shown {language : Key} {spaces : List Key} (hspaces : ∀ k ∈ spaces, k.IsSpace)
    {space : Key} (hmem : space ∈ spaces) {e : Key × Value}
    (he : e ∈ Call.prefixed space (s.bundle content language (some space))) :
    Entries.get? (s.shown content language spaces) e.1 = some e.2 := by
  induction spaces using List.reverseRecOn with
  | nil => cases hmem
  | append_singleton spaces last ih =>
    have hlast : last.IsSpace := hspaces last (List.mem_append_right _ List.mem_cons_self)
    have hspace : space.IsSpace := hspaces space hmem
    rw [shown_append]
    by_cases heq : space = last
    · subst heq
      exact Entries.get?_update_of_mem (Call.nodup_keys_prefixed hspace _) he _
    · have hold : space ∈ spaces := by
        rcases List.mem_append.1 hmem with h | h
        · exact h
        · exact absurd (List.mem_singleton.1 h) heq
      rw [Entries.get?_update_of_forall_ne fun d hd =>
        Call.ne_of_mem_prefixed hspace hlast heq he hd]
      exact ih (fun k hk => hspaces k (List.mem_append_left _ hk)) hold

/-- Adding a namespace again changes nothing. -/
theorem update_shown {language : Key} {spaces : List Key} (hspaces : ∀ k ∈ spaces, k.IsSpace)
    {space : Key} (hmem : space ∈ spaces) :
    Entries.update (s.shown content language spaces)
      (Call.prefixed space (s.bundle content language (some space))) =
        s.shown content language spaces :=
  Entries.update_of_forall_get? fun _ he => get?_shown hspaces hmem he

end Supply

/-! ## Files behind a web server -/

/-- A world with some bundles behind a web server, by their addresses, in which no time passes. -/
def Outside.serving (files : List (String × Bundle)) : Outside Unit where
  get := fun world url _ =>
    match Entries.get? files url with
    | some b => (world, .ok ⟨200, .ok (.dict b)⟩)
    | none => (world, .error (.plain .system ""))
  file := fun _ _ => .ok none
  pause := fun world _ => world
  draw := fun world => (world, .finite false 0 0)
  close := fun world => world
  now := fun world => (world, .int 0)

/-- The content of bundles behind a web server. -/
def Content.served (files : List (String × Bundle)) (path : String) : Content :=
  fun language space => (Entries.get? files (Source.address path language space)).getD []

theorem Source.fetch_served {files : List (String × Bundle)} {path : String} {language : Key}
    {space : Option Key} {world : Unit} {loaded : Loaded}
    (h : ((Source.served path).fetch (.serving files) language space world).2 = .ok loaded) :
    Entries.get? files (Source.address path language space) = some loaded.bundle := by
  simp only [Source.fetch, Outside.serving] at h
  cases hget : Entries.get? files (Source.address path language space) with
  | none => simp [hget, Except.bind] at h
  | some b =>
    rw [hget] at h
    cases h
    rfl

theorem Supply.serves_served {s : Supply} {path : String} (h : s.sources = [.served path])
    (files : List (String × Bundle)) : s.Serves (.serving files) (.served files path) := by
  intro source hsource language space _ _ world loaded hfetch
  rw [h, List.mem_singleton] at hsource
  subst hsource
  rw [Content.served, Source.fetch_served hfetch, Option.getD_some]

end Polyglot
