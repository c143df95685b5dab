import Polyglot.Proofs.Bundle.Lookup
import Polyglot.Proofs.Server.Selection

/-!
# Listed languages

The languages of a server are the keys of data that is given, or else of the data of the settings
when these have the default language. No key is looked at any further: each listed language has a
bundle, which a request for it gets, only if the data has nothing but bundles. Data in a single
language lists its messages when it is given.
-/
namespace Polyglot

/-! ## Names of data -/

namespace Bundle

variable {d : Bundle}

theorem map_text_names (h : d.HasTextKeys) : d.names.map Key.text = Entries.keys d := by
  rw [names, Entries.keys, List.map_map]
  refine List.map_congr_left fun e he => ?_
  obtain ⟨s, hs⟩ := h.text e.1 (List.mem_map_of_mem he)
  rw [Function.comp_apply, hs, Key.display]

/-- All names are those of bundles if there is nothing else. -/
theorem forall_hasLanguage_iff (h : d.HasTextKeys) :
    (∀ language ∈ d.names, d.HasLanguage language) ↔ ∀ e ∈ d, ∃ b, e.2 = .dict b := by
  have hentry : ∀ e ∈ d, d.HasLanguage e.1.display ↔ ∃ b, e.2 = .dict b := by
    intro e he
    obtain ⟨s, hs⟩ := h.text e.1 (List.mem_map_of_mem he)
    have hget := Entries.get?_of_mem h.nodup he
    rw [HasLanguage, hs, Key.display, ← hs, hget]
    simp only [Option.some.injEq]
  rw [names, List.forall_mem_map]
  exact forall₂_congr hentry

end Bundle

/-! ## Data that lists languages -/

namespace Server

/-- Whether the languages are listed on account of some data: it is given and not empty, or else it
is in the settings and has their default language. -/
inductive Lists (installed settings : Option ServerSettings) (data : Option Bundle) : Bundle → Prop
  | given {d : Bundle} (hdata : data = some d) (hd : d ≠ []) : Lists installed settings data d
  | configured {s : ServerSettings} {d : Bundle} (hnone : data = none ∨ data = some [])
      (hsettings : settings.or installed = some s) (hdata : s.data = some d)
      (hlanguage : d.HasLanguage s.defaultLanguage) : Lists installed settings data d

variable {installed settings : Option ServerSettings} {data : Option Bundle} {d : Bundle}

theorem availableLanguages_of_lists (h : Lists installed settings data d) :
    availableLanguages installed settings data = d.names := by
  cases h with
  | given hdata hd => rw [availableLanguages, filled_eq_some_iff.2 ⟨hdata, hd⟩]
  | @configured s _ hnone hsettings hdata hlanguage =>
    have hor : (settings <|> installed) = some s := (Option.or_eq_orElse ..).symm.trans hsettings
    rw [availableLanguages, filled_eq_none_iff.2 hnone, hor]
    dsimp only
    rw [if_pos (Bundle.coversLanguage_iff.2 ⟨d, hdata, hlanguage⟩), hdata, Option.getD_some]

/-- Without data that lists languages they are the configured ones, or the default language. -/
theorem availableLanguages_of_not_lists (h : ∀ d, ¬Lists installed settings data d) :
    availableLanguages installed settings data =
      ((settings.or installed).elim ["en"] fun s =>
        if s.languages = [] then [s.defaultLanguage] else s.languages) := by
  have hfilled : filled data = none := by
    refine Option.eq_none_iff_forall_ne_some.2 fun d hd => ?_
    obtain ⟨hdata, hne⟩ := filled_eq_some_iff.1 hd
    exact h d (.given hdata hne)
  have hor : (settings <|> installed) = settings.or installed := (Option.or_eq_orElse ..).symm
  rw [availableLanguages, hfilled, hor]
  cases hsettings : settings.or installed with
  | none => rfl
  | some s =>
    have hcovers : ¬Bundle.coversLanguage s.data s.defaultLanguage = true := by
      rw [Bundle.coversLanguage_iff]
      rintro ⟨d, hdata, hlanguage⟩
      exact h d (.configured (filled_eq_none_iff.1 hfilled) hsettings hdata hlanguage)
    dsimp only
    rw [if_neg hcovers]
    simp only [List.isEmpty_iff, Option.elim_some]

/-- A request with the data that is given, or with the data that lists the languages, asks for the
latter. -/
theorem exists_asksFor_of_lists (h : Lists installed settings data d) {r : ServerRequest}
    (hr : r.data = data ∨ r.data = some d) {language : String} (hlanguage : language ≠ "")
    (hasked : r.language = some language) :
    ∃ fallback, r.AsksFor installed settings d language fallback := by
  have hgiven : Server.given r.language = some language := by
    simp [Server.given, Option.filter, hasked, hlanguage]
  have howned : r.data = some d → d ≠ [] →
      ∃ fallback, r.AsksFor installed settings d language fallback := by
    intro hdata hd
    have hown : r.AsksFor installed settings d _ _ := .own hdata hd
    rw [hgiven] at hown
    exact ⟨_, hown⟩
  cases h with
  | given hdata hd => exact howned (hr.elim (·.trans hdata) id) hd
  | configured hnone hsettings hdata hdefault =>
    have hd : d ≠ [] := by
      rintro rfl
      obtain ⟨b, hb⟩ := hdefault
      cases hb
    rcases hr with hr | hr
    · have hconfigured := ServerRequest.AsksFor.configured (hr ▸ hnone) hsettings hdata hd
      rw [hgiven] at hconfigured
      exact ⟨_, hconfigured⟩
    · exact howned hr hd

/-- Languages that are listed on account of some data are its keys, so each of them has a bundle
exactly if every entry is one. A request for a language that has a bundle, and a name, gets that
bundle. Without such data the languages are the configured ones, or the default language. -/
theorem availableLanguages_hasLanguage_iff (installed settings : Option ServerSettings)
    (data : Option Bundle) :
    (∀ d, Lists installed settings data d → d.HasTextKeys →
      (availableLanguages installed settings data).map Key.text = Entries.keys d ∧
      ((∀ language ∈ availableLanguages installed settings data, d.HasLanguage language) ↔
        ∀ e ∈ d, ∃ b, e.2 = .dict b) ∧
      ∀ language b, language ≠ "" → Entries.get? d (.text language) = some (.dict b) →
        ∀ r : ServerRequest, r.data = data ∨ r.data = some d → r.language = some language →
          ∃ t, ServerTranslator.ofRequest installed settings r = .ok t ∧ t.1.bundle = .dict b) ∧
    ((∀ d, ¬Lists installed settings data d) →
      availableLanguages installed settings data =
        ((settings.or installed).elim ["en"] fun s =>
          if s.languages = [] then [s.defaultLanguage] else s.languages)) := by
  refine ⟨fun d hlists hkeys => ?_, availableLanguages_of_not_lists⟩
  rw [availableLanguages_of_lists hlists]
  refine ⟨Bundle.map_text_names hkeys, Bundle.forall_hasLanguage_iff hkeys,
    fun language b hlanguage hb r hr hasked => ?_⟩
  obtain ⟨fallback, hasks⟩ := exists_asksFor_of_lists hlists hr hlanguage hasked
  exact ⟨_, ServerTranslator.ofRequest_of_asksFor hasks, selectData_of_bundle hb⟩

/-- Settings with greetings in two languages. -/
def bilingualSettings : ServerSettings :=
  ⟨some [(.text "en", .dict [(.text "hello", .text "Hello")]),
    (.text "de", .dict [(.text "hello", .text "Hallo")])], "en", []⟩

theorem availableLanguages_hasLanguage_iff_bilingual :
    (∀ language ∈ availableLanguages none (some bilingualSettings) none,
      language = "en" ∨ language = "de") ∧
    ∃ d, Lists none (some bilingualSettings) none d ∧ d.HasTextKeys ∧
      (∀ language ∈ availableLanguages none (some bilingualSettings) none, d.HasLanguage language) ∧
      ∃ t, ServerTranslator.ofRequest none (some bilingualSettings)
          ⟨none, some "de", none, none⟩ = .ok t ∧
        t.1.bundle = .dict [(.text "hello", .text "Hallo")] := by
  refine ⟨by decide, _, .configured (.inl rfl) rfl rfl ⟨_, rfl⟩, ?_⟩
  have hkeys : Bundle.HasTextKeys [(.text "en", .dict [(.text "hello", .text "Hello")]),
      (.text "de", .dict [(.text "hello", .text "Hallo")])] :=
    ⟨by simp [Entries.keys], by decide⟩
  obtain ⟨hdata, -⟩ := availableLanguages_hasLanguage_iff none (some bilingualSettings) none
  obtain ⟨-, hlanguages, hrequest⟩ :=
    hdata _ (.configured (.inl rfl) rfl rfl ⟨_, rfl⟩) hkeys
  exact ⟨hkeys, hlanguages.2 (by simp), hrequest "de" _ (by decide) rfl _ (.inl rfl) rfl⟩

/-- A greeting without a language is listed as one, and so is a version beside the bundles, which
then is what a request for it gets. -/
theorem exists_listed_not_hasLanguage :
    availableLanguages none none (some [(.text "hello", .text "Hello")]) = ["hello"] ∧
      ¬Bundle.HasLanguage [(.text "hello", .text "Hello")] "hello" ∧
      "version" ∈
        availableLanguages none (some ⟨some ServerTranslator.plannedData, "en", []⟩) none ∧
      ¬ServerTranslator.plannedData.HasLanguage "version" ∧
      ∃ t, ServerTranslator.ofRequest none (some ⟨some ServerTranslator.plannedData, "en", []⟩)
          ⟨none, some "version", none, none⟩ = .ok t ∧ t.1.bundle = .text "2" := by
  refine ⟨rfl, ?_, by decide, ?_, _, rfl, rfl⟩
  · rintro ⟨b, hb⟩
    cases hb
  · rintro ⟨b, hb⟩
    have hversion : Entries.get? ServerTranslator.plannedData (.text "version") =
        some (.text "2") := rfl
    cases hversion.symm.trans hb

end Server
end Polyglot
