import Polyglot.Server.Translator

/-!
# Selection on a server

A request gives its data, its language and its default language itself, or leaves them to the
settings. Of the data it is to get the bundle of its language, or else that of its default language.
It does not always: an entry of the language that is no bundle comes before the bundle of the
default language, unless it counts as nothing, and then there is no bundle to translate with.
-/
namespace Polyglot

/-! ## Languages of data -/

namespace Bundle

/-- Whether the data maps a language to a bundle. -/
def HasLanguage (d : Bundle) (language : String) : Prop :=
  ∃ b, Entries.get? d (.text language) = some (.dict b)

/-- Whether an entry of the language that is no bundle hides the bundle of the default language. -/
def Hides (d : Bundle) (language fallback : String) : Prop :=
  d.HasLanguage fallback ∧
    ∃ v, Entries.get? d (.text language) = some v ∧ v.entries? = none ∧ v.truthy = true

variable {d : Bundle} {language fallback : String}

theorem coversLanguage_iff {data : Option Bundle} {language : String} :
    coversLanguage data language = true ↔ ∃ d, data = some d ∧ d.HasLanguage language := by
  cases data with
  | none => simp [coversLanguage]
  | some d =>
    simp only [coversLanguage, HasLanguage, Option.some.injEq, exists_eq_left']
    split
    · rename_i b hb
      simp [hb]
    · rename_i hne
      simpa using hne

theorem not_hides_of_hasLanguage (h : d.HasLanguage language) : ¬d.Hides language fallback := by
  rintro ⟨-, v, hv, hleaf, -⟩
  obtain ⟨b, hb⟩ := h
  rw [hb] at hv
  cases hv
  cases hleaf

theorem entries?_eq_none {v : Value} (h : ¬d.HasLanguage language)
    (hv : Entries.get? d (.text language) = some v) : v.entries? = none := by
  cases v with
  | dict b => exact absurd ⟨b, hv⟩ h
  | _ => rfl

end Bundle

/-! ## Selected data -/

namespace Server

variable {d b : Bundle} {language fallback : String}

theorem selectData_of_bundle (hb : Entries.get? d (.text language) = some (.dict b)) :
    selectData d language fallback = .dict b := by
  simp only [selectData, hb]

/-- A language without a bundle has at most an entry of another kind. -/
theorem selectData_of_not_hasLanguage (h : ¬d.HasLanguage language) :
    selectData d language fallback =
      match Entries.get? d (.text fallback) with
      | some (.dict b) =>
          ((Entries.get? d (.text language)).filter Value.truthy).getD (.dict b)
      | _ => .dict d := by
  unfold selectData
  split
  · rename_i b hb
    exact absurd ⟨b, hb⟩ h
  · rfl

theorem selectData_of_neither (h : ¬d.HasLanguage language) (hfallback : ¬d.HasLanguage fallback) :
    selectData d language fallback = .dict d := by
  rw [selectData_of_not_hasLanguage h]
  split
  · rename_i b hb
    exact absurd ⟨b, hb⟩ hfallback
  · rfl

theorem selectData_of_fallback (h : ¬d.HasLanguage language)
    (hb : Entries.get? d (.text fallback) = some (.dict b)) (hhides : ¬d.Hides language fallback) :
    selectData d language fallback = .dict b := by
  rw [selectData_of_not_hasLanguage h, hb]
  cases hv : Entries.get? d (.text language) with
  | none => rfl
  | some v =>
    have hfalsy : v.truthy = false := Bool.eq_false_iff.2 fun htruthy =>
      hhides ⟨⟨b, hb⟩, v, hv, Bundle.entries?_eq_none h hv, htruthy⟩
    simp [Option.filter, hfalsy]

theorem entries?_selectData_of_hides (h : d.Hides language fallback) :
    (selectData d language fallback).entries? = none := by
  have hown : ¬d.HasLanguage language := fun hown => Bundle.not_hides_of_hasLanguage hown h
  obtain ⟨⟨b, hb⟩, v, hv, hleaf, htruthy⟩ := h
  rw [selectData_of_not_hasLanguage hown, hb, hv]
  simp [Option.filter, htruthy, hleaf]

theorem exists_selectData_of_not_hides (h : ¬d.Hides language fallback) :
    ∃ b, selectData d language fallback = .dict b := by
  by_cases hown : d.HasLanguage language
  · obtain ⟨b, hb⟩ := hown
    exact ⟨b, selectData_of_bundle hb⟩
  · by_cases hfallback : d.HasLanguage fallback
    · obtain ⟨b, hb⟩ := hfallback
      exact ⟨b, selectData_of_fallback hown hb h⟩
    · exact ⟨d, selectData_of_neither hown hfallback⟩

end Server

/-! ## Requests -/

/-- What a request asks for: data, a language and a default language. A text that is empty is none,
and the language and the default language stand in for each other. -/
inductive ServerRequest.AsksFor (installed settings : Option ServerSettings) (r : ServerRequest) :
    Bundle → String → String → Prop
  | own {d : Bundle} (hdata : r.data = some d) (hd : d ≠ []) :
      AsksFor installed settings r d
        (((Server.given r.language).or (Server.given r.defaultLanguage)).getD "en")
        (((Server.given r.defaultLanguage).or (Server.given r.language)).getD "en")
  | configured {s : ServerSettings} {d : Bundle} (hnone : r.data = none ∨ r.data = some [])
      (hsettings : settings.or installed = some s) (hdata : s.data = some d) (hd : d ≠ []) :
      AsksFor installed settings r d
        (((Server.given r.language).or (Server.given r.defaultLanguage)).getD s.defaultLanguage)
        ((Server.given r.defaultLanguage).getD s.defaultLanguage)

namespace Server

theorem filled_eq_some_iff {data : Option Bundle} {d : Bundle} :
    filled data = some d ↔ data = some d ∧ d ≠ [] := by
  simp [filled, Option.filter_eq_some_iff]

theorem filled_eq_none_iff {data : Option Bundle} :
    filled data = none ↔ data = none ∨ data = some [] := by
  cases data with
  | none => simp [filled]
  | some d => simp [filled, Option.filter]

end Server

namespace ServerTranslator

variable {installed settings : Option ServerSettings} {r : ServerRequest}
  {t : ServerTranslator × List Event} {d : Bundle} {language fallback : String}
  {library : LocaleLibrary}

theorem ofRequest_of_asksFor (h : r.AsksFor installed settings d language fallback) :
    ofRequest installed settings r library =
      .ok (create d language fallback r.space library) := by
  cases h with
  | own hdata hd =>
    rw [ofRequest, Server.filled_eq_some_iff.2 ⟨hdata, hd⟩]
    cases Server.given r.language <;> cases Server.given r.defaultLanguage <;> rfl
  | configured hnone hsettings hdata hd =>
    have hor : (settings <|> installed) = some _ := (Option.or_eq_orElse ..).symm.trans hsettings
    rw [ofRequest, Server.filled_eq_none_iff.2 hnone, hor]
    dsimp only
    rw [Server.filled_eq_some_iff.2 ⟨hdata, hd⟩]
    cases Server.given r.language <;> cases Server.given r.defaultLanguage <;> rfl

/-- A request succeeds if there are data for it. -/
theorem exists_asksFor (h : ofRequest installed settings r library = .ok t) :
    ∃ d language fallback, r.AsksFor installed settings d language fallback ∧
      t = create d language fallback r.space library := by
  have hasks : ∃ d language fallback, r.AsksFor installed settings d language fallback := by
    unfold ofRequest at h
    split at h
    · rename_i d hfilled
      obtain ⟨hdata, hd⟩ := Server.filled_eq_some_iff.1 hfilled
      exact ⟨d, _, _, .own hdata hd⟩
    · rename_i hfilled
      split at h
      · cases h
      · rename_i s hsettings
        split at h
        · cases h
        · rename_i d hconfigured
          obtain ⟨hdata, hd⟩ := Server.filled_eq_some_iff.1 hconfigured
          exact ⟨d, _, _, .configured (Server.filled_eq_none_iff.1 hfilled)
            ((Option.or_eq_orElse ..).trans hsettings) hdata hd⟩
  obtain ⟨d, language, fallback, hasks⟩ := hasks
  rw [ofRequest_of_asksFor hasks] at h
  exact ⟨d, language, fallback, hasks, (Except.ok.inj h).symm⟩

/-! ## Usable translators -/

/-- Whether a translator has a bundle, and shows without values a text for every key: its message,
or else the key with its namespace. -/
def IsUsable (t : ServerTranslator) : Prop :=
  ∃ b, t.bundle = .dict b ∧ ∀ key, (t.translate key []).result =
    .ok ((message? b t.space key).getD (Bundle.namespacedKey t.space key))

theorem isUsable_of_bundle {t : ServerTranslator} {b : Bundle} (h : t.bundle = .dict b) :
    t.IsUsable := by
  refine ⟨b, h, fun key => ?_⟩
  rw [translate, h]
  dsimp only
  cases message? b t.space key <;> rfl

/-- Without a bundle there is no text for any key. -/
theorem translate_result_of_not_bundle {t : ServerTranslator} (h : t.bundle.entries? = none)
    (key : String) (values : Bundle) : (t.translate key values).result = .error .noBundle := by
  unfold translate
  split
  · rename_i b hb
    rw [hb] at h
    cases h
  · rfl

theorem isUsable_create_iff (d : Bundle) (language fallback : String) (space : Option String)
    (library : LocaleLibrary) :
    (create d language fallback space library).1.IsUsable ↔ ¬d.Hides language fallback := by
  constructor
  · rintro ⟨b, hb, -⟩ hhides
    have hnone := Server.entries?_selectData_of_hides hhides
    rw [show Server.selectData d language fallback = .dict b from hb] at hnone
    cases hnone
  · intro h
    obtain ⟨b, hb⟩ := Server.exists_selectData_of_not_hides h
    exact isUsable_of_bundle hb

/-- The translator of a request that succeeds has the bundle of its language, if there is one, and
is usable unless an entry of its language hides the bundle of its default language, which else is
the one it has. All of the data is the bundle if neither language has one. -/
theorem isUsable_ofRequest_iff (h : ofRequest installed settings r library = .ok t) :
    ∃ d language fallback, r.AsksFor installed settings d language fallback ∧
      t.1.language = language ∧ t.1.space = r.space ∧
      (t.1.IsUsable ↔ ¬d.Hides language fallback) ∧
      (d.Hides language fallback →
        ∀ key values, (t.1.translate key values).result = .error .noBundle) ∧
      (∀ b, Entries.get? d (.text language) = some (.dict b) → t.1.bundle = .dict b) ∧
      (∀ b, ¬d.HasLanguage language → Entries.get? d (.text fallback) = some (.dict b) →
        (t.1.bundle = .dict b ↔ ¬d.Hides language fallback)) ∧
      (¬d.HasLanguage language → ¬d.HasLanguage fallback → t.1.bundle = .dict d) := by
  obtain ⟨d, language, fallback, hasks, rfl⟩ := exists_asksFor h
  have husable := isUsable_create_iff d language fallback r.space library
  refine ⟨d, language, fallback, hasks, rfl, rfl, husable, fun hhides => ?_,
    fun b hb => Server.selectData_of_bundle hb, fun b hown hb => ⟨fun hbundle => ?_, ?_⟩,
    Server.selectData_of_neither⟩
  · exact translate_result_of_not_bundle (Server.entries?_selectData_of_hides hhides)
  · exact husable.1 (isUsable_of_bundle hbundle)
  · exact Server.selectData_of_fallback hown hb

/-- English greetings along with a version, and a language for which there is nothing yet. -/
def plannedData : Bundle :=
  [(.text "en", .dict [(.text "hello", .text "Hello")]), (.text "version", .text "2"),
    (.text "de", .null)]

theorem isUsable_ofRequest_iff_planned :
    ofRequest none none ⟨some plannedData, some "de", none, some "en"⟩ =
        .ok (create plannedData "de" "en" none) ∧
      (create plannedData "de" "en" none).1.bundle = .dict [(.text "hello", .text "Hello")] := by
  have hok : ofRequest none none ⟨some plannedData, some "de", none, some "en"⟩ =
      .ok (create plannedData "de" "en" none) := rfl
  refine ⟨hok, ?_⟩
  obtain ⟨d, language, fallback, hasks, -, -, -, -, -, hfallback, -⟩ := isUsable_ofRequest_iff hok
  cases hasks with
  | own hdata hd =>
    cases hdata
    have hde : Entries.get? plannedData (.text "de") = some .null := rfl
    refine (hfallback _ ?_ rfl).2 ?_
    · rintro ⟨b, hb⟩
      cases hde.symm.trans hb
    · rintro ⟨-, v, hv, -, htruthy⟩
      cases hde.symm.trans hv
      cases htruthy
  | configured hnone => exact absurd hnone (by simp [plannedData])

/-- English greetings, with a name in the place of the German ones. -/
def namedData : Bundle :=
  [(.text "en", .dict [(.text "hello", .text "Hello")]), (.text "de", .text "German")]

/-- The name is selected, though the default language has a bundle, and no key has a text. -/
theorem exists_not_isUsable :
    ∃ t, ofRequest none none ⟨some namedData, some "de", none, some "en"⟩ = .ok t ∧
      ¬namedData.HasLanguage "de" ∧ namedData.HasLanguage "en" ∧
      t.1.bundle = .text "German" ∧ ¬t.1.IsUsable ∧
      (t.1.translate "hello" []).result = .error .noBundle := by
  refine ⟨create namedData "de" "en" none, rfl, ?_, ⟨_, rfl⟩, rfl, ?_, rfl⟩
  · rintro ⟨b, hb⟩
    have hde : Entries.get? namedData (.text "de") = some (.text "German") := rfl
    cases hde.symm.trans hb
  · rintro ⟨b, hb, -⟩
    have hbundle : (create namedData "de" "en" none).1.bundle = .text "German" := rfl
    cases hbundle.symm.trans hb

end ServerTranslator
end Polyglot
