import Polyglot.Client.Basic
import Polyglot.Proofs.Bundle.Space
import Polyglot.Proofs.Client.Call
import Polyglot.Proofs.Outcome

/-!
# New clients

What a client is like before it has started, and the language that it starts in.
-/
namespace Polyglot.Client

variable {c : Client} {settings : ClientSettings} {parts : Parts} {library : LocaleLibrary}

theorem create_eq_ok (h : create settings parts library = .ok c) :
    ∃ formatter languages,
      c.view = .create c.plan.defaultLanguage (c.supply.given? (.text c.plan.defaultLanguage) none)
        formatter parts.detector ∧
      c.loader = .create (parts.cache.getD .usual) languages := by
  unfold create at h
  simp only [Outcome.bind_eq_ok_iff] at h
  obtain ⟨language, -, sources, -, languages, -, hc⟩ := h
  cases hc
  exact ⟨_, languages, rfl, rfl⟩

theorem create_parts (h : create settings parts library = .ok c) :
    c.supply.data = parts.data ∧ c.supply.defaultLanguage = c.plan.defaultLanguage ∧
      c.view.formatter = parts.formatter.getD (.usual c.plan.defaultLanguage library) := by
  unfold create at h
  simp only [Outcome.bind_eq_ok_iff] at h
  obtain ⟨language, -, sources, -, languages, -, hc⟩ := h
  cases hc
  exact ⟨rfl, rfl, rfl⟩

/-- Whether the languages that a client may start in are plain, and its default language. -/
structure HasPlainLanguages (c : Client) : Prop where
  defaultLanguage : (Key.text c.plan.defaultLanguage).IsPlain
  fallbackLanguage : c.plan.fallbackLanguage.IsPlain
  languages : ∀ language ∈ c.supportedLanguages, (Key.text language).IsPlain

/-- A start fails at once or asks for the bundle of a plain language. -/
theorem HasPlainLanguages.start_cases (h : c.HasPlainLanguages) (hview : c.view.language.IsPlain) :
    (∃ events f, Call.start c.plan c.supportedLanguages c.view = .ends c.view events (.error f)) ∨
      ∃ events language, language.IsPlain ∧
        Call.start c.plan c.supportedLanguages c.view =
          .waits c.view events (.startBase language c.plan.spaces) := by
  rcases Call.start_cases c.plan c.supportedLanguages c.view with
    hfails | ⟨events, language, hstart, rfl | rfl | ⟨l, hmem, rfl⟩⟩
  · exact .inl hfails
  · exact .inr ⟨events, _, hview, hstart⟩
  · exact .inr ⟨events, _, h.fallbackLanguage, hstart⟩
  · exact .inr ⟨events, _, h.languages l hmem, hstart⟩

/-- The parts of a client with some data of its own and files behind a web server. -/
def Parts.served (data : Option Bundle) : Parts where
  data := data
  retry := .create (.int 1) ⟨0⟩ ⟨0⟩
  cache := none
  formatter := none
  detector := none
  sources := some [.served "/locales"]
  hasConnection := true

end Polyglot.Client
