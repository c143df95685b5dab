import Polyglot.Proofs.Client.GivenLanguage
import Polyglot.Proofs.Server.Selection

/-!
# Clients and servers

A client and a server translator that are given the same data show the same messages: in the
default language of the client, and in each language of the data once the client has switched to
it. Only an empty language is one to a client and none to a server.
-/
namespace Polyglot

/-! ## Selected data -/

namespace Bundle

variable {d b : Bundle} {language : String}

theorem select_of_bundle {fallback : Key} (hd : d ≠ [])
    (hb : Entries.get? d (.text language) = some (.dict b)) :
    select (some d) (.text language) fallback = some b := by
  cases d with
  | nil => exact absurd rfl hd
  | cons e d => simp only [select, hb]

theorem select_of_not_bundle (hd : d ≠ [])
    (h : ∀ b, Entries.get? d (.text language) ≠ some (.dict b)) :
    select (some d) (.text language) (.text language) = some d := by
  cases d with
  | nil => exact absurd rfl hd
  | cons e d =>
    cases hget : Entries.get? (e :: d) (.text language) with
    | none => simp [select, coversLanguage, hget]
    | some v =>
      cases v with
      | dict b => exact absurd hget (h b)
      | _ => simp [select, coversLanguage, hget]

end Bundle

namespace Server

variable {d : Bundle}

/-- For the default language both sides select the same data. -/
theorem selectData_eq_select (hd : d ≠ []) (language : String) :
    ∃ b, Bundle.select (some d) (.text language) (.text language) = some b ∧
      selectData d language language = .dict b := by
  by_cases h : d.HasLanguage language
  · obtain ⟨b, hb⟩ := h
    exact ⟨b, Bundle.select_of_bundle hd hb, selectData_of_bundle hb⟩
  · exact ⟨d, Bundle.select_of_not_bundle hd (not_exists.1 h), selectData_of_neither h h⟩

end Server

/-! ## Requests -/

namespace ServerTranslator

/-- What a server answers when it is asked for one key. -/
def answer (installed settings : Option ServerSettings) (r : ServerRequest) (key : String)
    (values : Bundle) (library : LocaleLibrary := .known) : Except Failure String :=
  (ofRequest installed settings r library).bind fun t =>
    (t.1.translate key values).result.mapError Fault.failure

theorem ofRequest_of_data {d : Bundle} (hd : d ≠ []) {language : String} (hl : language ≠ "")
    (installed settings : Option ServerSettings) (space : Option String)
    (library : LocaleLibrary) :
    ofRequest installed settings ⟨some d, some language, space, none⟩ library =
      .ok (create d language language space library) := by
  have hfilled : Server.filled (some d) = some d := by
    simp [Server.filled, Option.filter, hd]
  have hgiven : Server.given (some language) = some language := by
    simp [Server.given, Option.filter, hl]
  have hnone : Server.given none = none := rfl
  simp only [ofRequest, hfilled, hgiven, hnone]
  rfl

theorem answer_of_data {d b : Bundle} (hd : d ≠ []) {language : String} (hl : language ≠ "")
    (hb : Server.selectData d language language = .dict b)
    (installed settings : Option ServerSettings) (space : Option String) (key : String)
    (values : Bundle) (library : LocaleLibrary) :
    answer installed settings ⟨some d, some language, space, none⟩ key values library =
      (translate ⟨.dict b, language, space, .usual language library⟩ key
        values).result.mapError Fault.failure := by
  rw [answer, ofRequest_of_data hd hl, create, hb]
  rfl

end ServerTranslator

/-! ## Messages -/

section Messages

variable {v : View} {space : Option String} {key : String}

theorem ServerTranslator.message?_eq_some {bundle : Bundle} {m : String}
    (h : message? bundle space key = some m) :
    Bundle.message? bundle (Bundle.namespacedKey space key) = some m ∨
      Bundle.message? bundle (Bundle.namespacedKey space key) = none ∧
        Bundle.message? bundle key = some m ∧ space ≠ none := by
  unfold message? at h
  split at h
  · rename_i m' hfull
    exact .inl (hfull.trans h)
  · rename_i hfull
    cases space with
    | none => cases h
    | some n =>
      obtain ⟨-, -, hkey⟩ := Option.bind_eq_some_iff.1 h
      exact .inr ⟨hfull, hkey, nofun⟩

theorem ServerTranslator.message?_eq_none {bundle : Bundle} (h : message? bundle space key = none) :
    Bundle.message? bundle (Bundle.namespacedKey space key) = none ∧
      Bundle.message? bundle key = none := by
  unfold message? at h
  split at h
  · cases h
  · rename_i hfull
    refine ⟨hfull, ?_⟩
    cases space with
    | none => exact hfull
    | some n =>
      by_cases hn : n = ""
      · rwa [Bundle.namespacedKey, if_pos hn] at hfull
      · simpa [Server.given, Option.filter, hn] using h

/-- What a server finds is what a client finds through a function for the namespace. -/
theorem View.message?_boundKey {m : String} (defaultLanguage : String)
    (h : ServerTranslator.message? v.translations space key = some m) :
    v.message? defaultLanguage (v.boundKey space key) = some m := by
  rcases ServerTranslator.message?_eq_some h with hfull | ⟨hnone, hkey, hspace⟩
  · have hbound : v.boundKey space key = Bundle.namespacedKey space key := by
      cases space with
      | none => rfl
      | some n => simp [boundKey, hfull]
    rw [hbound, message?, hfull]
  · have hbound : v.boundKey space key = key := by
      cases space with
      | none => exact absurd rfl hspace
      | some n => simp [boundKey, hnone, hkey]
    rw [hbound, message?, hkey]

/-- What a server does not find is looked up with its namespace. -/
theorem View.boundKey_of_none (h : ServerTranslator.message? v.translations space key = none) :
    v.boundKey space key = Bundle.namespacedKey space key := by
  obtain ⟨hfull, hkey⟩ := ServerTranslator.message?_eq_none h
  cases space with
  | none => rfl
  | some n => simp [boundKey, hfull, hkey]

/-- A client and a server with the same bundle and the same formatter answer alike, unless the
client comes to its default language. -/
theorem View.translateIn_result {t : ServerTranslator} (defaultLanguage : String)
    (hbundle : t.bundle = .dict v.translations) (hformatter : t.formatter = v.formatter)
    (hspace : t.space = space)
    (hfound : ServerTranslator.message? v.translations space key = none →
      v.language = .text defaultLanguage) (values : Bundle) :
    (t.translate key values).result.mapError ServerTranslator.Fault.failure =
      (v.translateIn defaultLanguage space key values).result.mapError MessageFault.failure := by
  unfold ServerTranslator.translate translateIn translate
  simp only [hbundle, hspace, hformatter]
  cases hm : ServerTranslator.message? v.translations space key with
  | some m =>
    rw [View.message?_boundKey defaultLanguage hm]
    by_cases hvalues : values.isEmpty = true
    · simp only [hvalues, if_true]
      rfl
    · simp only [hvalues]
      cases (v.formatter.format m values).result <;> rfl
  | none =>
    have hnone : v.message? defaultLanguage (v.boundKey space key) = none := by
      rw [View.boundKey_of_none hm, message?, (ServerTranslator.message?_eq_none hm).1,
        if_pos (hfound hm)]
    rw [hnone, View.boundKey_of_none hm]
    simp only
    split <;> rfl

end Messages

/-! ## Formatters -/

theorem Message.Formatter.setLanguage_usual (first second : String) (library : LocaleLibrary) :
    ((usual first library).setLanguage (.text second)).formatter = usual second library := by
  unfold setLanguage
  split
  · rename_i heq
    rw [Key.text.inj heq]
  · rfl

theorem View.activate_translations (v : View) (defaultLanguage : String) (language : Key)
    (b : Bundle) : (v.activate defaultLanguage language b).view.translations = b := by
  unfold activate
  simp only
  split <;> rfl

theorem View.activate_formatter (v : View) (defaultLanguage : String) (language : Key)
    (b : Bundle) :
    (v.activate defaultLanguage language b).view.formatter =
      (v.formatter.setLanguage language).formatter := by
  unfold activate
  simp only
  split <;> rfl

/-! ## Agreement -/

namespace Client

variable {c : Client} {settings : ClientSettings} {parts : Parts} {library : LocaleLibrary}
  {d : Bundle}

/-- A new client over some data shows in its default language what a server shows in it, and in
another language of the data, once it has switched to it, what a server shows of the keys that the
bundle of that language has. -/
theorem translate_eq_answer (hc : create settings parts library = .ok c)
    (hdata : parts.data = some d)
    (hd : d ≠ []) (hformatter : parts.formatter = none)
    (hcache : (parts.cache.getD .usual).entries = [])
    (installed config : Option ServerSettings) (space : Option String) (key : String)
    (values : Bundle) :
    (c.plan.defaultLanguage ≠ "" →
      ServerTranslator.answer installed config
          ⟨some d, some c.plan.defaultLanguage, space, none⟩ key values library =
        (c.translate space key values).2.2.mapError View.MessageFault.failure) ∧
    ∀ (σ : Type) (outside : Outside σ) (world : σ) (language : String) (b : Bundle),
      language ≠ "" → language ≠ c.plan.defaultLanguage →
        Entries.get? d (.text language) = some (.dict b) →
          (Bundle.message? b (Bundle.namespacedKey space key)).isSome ∨
              (Bundle.message? b key).isSome →
            ServerTranslator.answer installed config ⟨some d, some language, space, none⟩ key
                values library =
              ((c.switchLanguage outside language world).client.translate space key
                values).2.2.mapError View.MessageFault.failure := by
  obtain ⟨hsupply, hdefault, husual⟩ := create_parts hc
  obtain ⟨formatter, languages, hview, hloader⟩ := create_eq_ok hc
  rw [hformatter, Option.getD_none] at husual
  rw [hdata] at hsupply
  have hlanguage : c.view.language = .text c.plan.defaultLanguage := by
    rw [hview]
    rfl
  constructor
  · intro hL
    obtain ⟨b, hselect, hselectData⟩ := Server.selectData_eq_select hd c.plan.defaultLanguage
    have htranslations : c.view.translations = b := by
      have hgiven : c.supply.given? (.text c.plan.defaultLanguage) none = some b := by
        rw [Supply.given?, hsupply, hdefault, ← hselect]
      rw [hview, hgiven]
      rfl
    rw [ServerTranslator.answer_of_data hd hL hselectData]
    exact View.translateIn_result c.plan.defaultLanguage (by rw [htranslations]) husual.symm rfl
      (fun _ => hlanguage) values
  · intro σ outside world language b hl hne hb hresolves
    have hgiven : c.supply.given? (.text language) none = some b := by
      rw [Supply.given?, hsupply]
      exact Bundle.select_of_bundle hd hb
    have hspaces : c.view.spaces = [] := by
      rw [hview]
      rfl
    have hcached : c.loader.cache.entries = [] := by
      rw [hloader]
      exact hcache
    have hother : c.view.language ≠ .text language := by
      rw [hlanguage]
      exact fun heq => hne (Key.text.inj heq).symm
    have hshows := switchLanguage_of_given outside hspaces hcached hother hgiven world
    have htranslations := hshows.translations.trans (View.activate_translations _ _ _ b)
    have hformat := hshows.formatter.trans (View.activate_formatter _ _ _ b)
    rw [husual, Message.Formatter.setLanguage_usual] at hformat
    rw [ServerTranslator.answer_of_data hd hl (Server.selectData_of_bundle hb)]
    refine View.translateIn_result _ (by rw [htranslations]) hformat.symm rfl (fun hm => ?_) values
    obtain ⟨hfull, hkey⟩ := ServerTranslator.message?_eq_none hm
    rw [htranslations] at hfull hkey
    simp [hfull, hkey] at hresolves

theorem translate_eq_answer_bilingual :
    ServerTranslator.answer none none ⟨Parts.bilingual.data, some "en", some "shop", none⟩ "hello"
        [] =
      (bilingual.translate (some "shop") "hello" []).2.2.mapError View.MessageFault.failure ∧
    ServerTranslator.answer none none ⟨Parts.bilingual.data, some "de", some "shop", none⟩ "hello"
        [] =
      ((bilingual.switchLanguage (.serving []) "de" ()).client.translate (some "shop") "hello"
        []).2.2.mapError View.MessageFault.failure := by
  have hcreate : create (.ofEntries []) .bilingual = .ok bilingual := rfl
  have hdata : [((.text "en" : Key), Value.dict [(.text "hello", .text "Hello"),
    (.text "bye", .text "Bye")]), (.text "de", .dict [(.text "hello", .text "Hallo")])] ≠ [] :=
    List.cons_ne_nil _ _
  obtain ⟨hdefault, hother⟩ := translate_eq_answer hcreate rfl hdata rfl rfl none none (some "shop")
    "hello" []
  exact ⟨hdefault (by decide), hother Unit (.serving []) () "de" _ (by decide) (by decide) rfl
    (.inr (by decide))⟩

/-- Greetings in a language without a name, and in English. -/
def unnamedData : Bundle :=
  [(.text "", .dict [(.text "hello", .text "Hi")]),
    (.text "en", .dict [(.text "hello", .text "Hello")])]

/-- The language without a name is one to a client, as its default language and as one to switch
to; a server takes the usual one instead. -/
theorem exists_translate_ne_answer :
    ∃ c c', create (.ofEntries [(.text "default_language", .text "")])
        (.served (some unnamedData)) = .ok c ∧
      create (.ofEntries []) (.served (some unnamedData)) = .ok c' ∧
      (c.translate none "hello" []).2.2.mapError View.MessageFault.failure = .ok "Hi" ∧
      ((c'.switchLanguage (.serving []) "" ()).client.translate none "hello"
        []).2.2.mapError View.MessageFault.failure = .ok "Hi" ∧
      ServerTranslator.answer none none ⟨some unnamedData, some "", none, none⟩ "hello" [] =
        .ok "Hello" := by
  let c' : Client := {
    plan := ⟨"en", .text "en", []⟩
    supply := ⟨some unnamedData, "en", [.served "/locales"], .create (.int 1) ⟨0⟩ ⟨0⟩⟩
    view := .create "en" (some [(.text "hello", .text "Hello")]) (.usual "en") none
    loader := .create .usual []
    ownsConnection := false }
  have hshows : (c'.view.activate "en" (.text "") [(.text "hello", .text "Hi")]).view.ShowsSame
      (c'.switchLanguage (.serving []) "" ()).client.view :=
    switchLanguage_of_given _ rfl rfl (by decide) rfl ()
  have hmessage : ∀ defaultLanguage, (c'.switchLanguage (.serving []) "" ()).client.view.message?
      defaultLanguage "hello" = some "Hi" := by
    intro defaultLanguage
    rw [View.message?, hshows.translations, View.activate_translations]
    rfl
  refine ⟨_, c', rfl, rfl, rfl, ?_, rfl⟩
  simp only [translate, View.translateIn, View.boundKey, View.translate, hmessage]
  rfl

end Client
end Polyglot
