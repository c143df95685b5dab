import Polyglot.Bundle.Basic
import Polyglot.Message.Failure

/-!
# Server translators

Translations for one request, out of data that is given with the program: nothing is fetched.
The data is given with the request, with the settings of the call, or with settings that are
installed once for the whole program.
-/
namespace Polyglot

/-- Settings of translations on a server. -/
structure ServerSettings where
  data : Option Bundle
  defaultLanguage : String
  languages : List String

/-- What a request asks for; data of its own comes before any settings. -/
structure ServerRequest where
  data : Option Bundle
  language : Option String
  space : Option String
  defaultLanguage : Option String

/-- Translations into one language. The selected data need not be a bundle. -/
structure ServerTranslator where
  bundle : Value
  language : String
  space : Option String
  formatter : Message.Formatter

namespace Server

/-! ## Installed settings -/

/-- The failure of installing settings a second time. -/
def alreadyInstalled : Failure :=
  ⟨.configuration, "Server defaults are already configured; pass config= per call instead",
    some "SERVER_DEFAULTS_SET", [], none⟩

/-- Installs settings for the whole program, which is possible once. -/
def install (installed : Option ServerSettings) (s : ServerSettings) :
    Except Failure ServerSettings :=
  match installed with
  | none => .ok s
  | some _ => .error alreadyInstalled

/-! ## Selection -/

/-- The failure of a request for which there are neither data nor settings. -/
def noData : Failure :=
  .plain .noTranslations
    "No translations provided. Pass static_data in options or a ServerConfig with static_data."

/-- The failure of a request whose settings hold no data. -/
def emptyData : Failure :=
  .plain .noTranslations
    "No static_data in server config. Server-side translations never fetch over the network."

/-- The data that a language selects: its own bundle; the bundle of the default language when
there is one and the language has nothing; or else all of the data. -/
def selectData (data : Bundle) (language fallback : String) : Value :=
  match Entries.get? data language with
  | some (.dict b) => .dict b
  | own =>
      match Entries.get? data fallback with
      | some (.dict b) => (own.filter Value.truthy).getD (.dict b)
      | _ => .dict data

/-- A text that counts: an empty one is none. -/
def given (s : Option String) : Option String := s.filter (· ≠ "")

/-- Data that counts: empty data is none. -/
def filled (data : Option Bundle) : Option Bundle := data.filter (!·.isEmpty)

end Server

namespace ServerTranslator

/-- A translator over selected data, with what finding its locale reports. -/
def create (data : Bundle) (language fallback : String) (space : Option String)
    (library : LocaleLibrary := .known) : ServerTranslator × List Event :=
  (⟨Server.selectData data language fallback, language, space, .usual language library⟩,
    Message.Formatter.localeEvents language library)

/-- The translator of a request. Settings of the call come before installed ones. -/
def ofRequest (installed settings : Option ServerSettings) (r : ServerRequest)
    (library : LocaleLibrary := .known) : Except Failure (ServerTranslator × List Event) :=
  match Server.filled r.data with
  | some data =>
      let fallback :=
        (Server.given r.defaultLanguage <|> Server.given r.language).getD "en"
      .ok (create data ((Server.given r.language).getD fallback) fallback r.space library)
  | none =>
      match settings <|> installed with
      | none => .error Server.noData
      | some s =>
          match Server.filled s.data with
          | none => .error Server.emptyData
          | some data =>
              let fallback := (Server.given r.defaultLanguage).getD s.defaultLanguage
              .ok (create data ((Server.given r.language).getD fallback) fallback r.space library)

/-- Why a key cannot be translated. -/
inductive Fault
  /-- the selected data is no bundle -/
  | noBundle
  | format (message : String) (fault : Message.FormatFault)

def Fault.failure : Fault → Failure
  | noBundle => .plain .missingMember ""
  | format message f => f.failure message

/-- What translating a key yields. -/
structure Outcome where
  translator : ServerTranslator
  events : List Event
  result : Except Fault String

/-- The message of a key: under the key with its namespace, or else under the key alone. -/
def message? (bundle : Bundle) (space : Option String) (key : String) : Option String :=
  match Bundle.message? bundle (Bundle.namespacedKey space key) with
  | some m => some m
  | none => (Server.given space).bind fun _ => Bundle.message? bundle key

/-- Translates a key. Without values the message stays as it is; a key without a message comes
back with its namespace. -/
def translate (t : ServerTranslator) (key : String) (values : Bundle) : Outcome :=
  match t.bundle with
  | .dict bundle =>
      match message? bundle t.space key with
      | none =>
          let full := Bundle.namespacedKey t.space key
          ⟨t, [.translationMissing .debug t.language full], .ok full⟩
      | some m =>
          if values.isEmpty then ⟨t, [], .ok m⟩
          else
            let o := t.formatter.format m values
            ⟨{ t with formatter := o.formatter }, o.events, o.result.mapError (.format m)⟩
  | _ => ⟨t, [], .error .noBundle⟩

/-- Translates keys with their values in turn; the first fault ends it. -/
def translateAll (t : ServerTranslator) :
    List (String × Bundle) → List Event × Except Fault (List String)
  | [] => ([], .ok [])
  | (key, values) :: rest =>
      let o := t.translate key values
      match o.result with
      | .error f => (o.events, .error f)
      | .ok text =>
          let (events, texts) := o.translator.translateAll rest
          (o.events ++ events, texts.map (text :: ·))

end ServerTranslator

namespace Server

/-- The languages there are: those that given data lists, or those of the settings. -/
def availableLanguages (installed settings : Option ServerSettings) (data : Option Bundle) :
    List String :=
  match filled data with
  | some data => Bundle.names data
  | none =>
      match settings <|> installed with
      | none => ["en"]
      | some s =>
          if Bundle.coversLanguage s.data s.defaultLanguage then Bundle.names (s.data.getD [])
          else if s.languages.isEmpty then [s.defaultLanguage]
          else s.languages

end Server
end Polyglot
