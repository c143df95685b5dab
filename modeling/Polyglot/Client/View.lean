import Polyglot.Bundle.Basic
import Polyglot.Detection.Detector
import Polyglot.Message.Failure

/-!
# Client view

What a client shows: the active language with its translations, in which the keys of a loaded
namespace carry that namespace, and the translations of the default language, in which missing
keys are looked up. Loading does not touch the view; only a finished step of a call does.
-/
namespace Polyglot

/-- The view of a client. -/
structure View where
  language : Key
  translations : Bundle
  /-- the translations of the default language, once they are loaded -/
  fallback : Option Bundle
  /-- the namespaces that the translations of the default language have -/
  fallbackSpaces : List Key
  /-- the loaded namespaces, in the order in which they were loaded -/
  spaces : List Key
  formatter : Message.Formatter
  /-- the missing keys that were reported, with their languages -/
  reported : List (Key × String)
  detector : Option Detector
  isInitialized : Bool

namespace View

/-- The view of a new client, over the bundle that is given for the default language. -/
def create (defaultLanguage : String) (given : Option Bundle) (formatter : Message.Formatter)
    (detector : Option Detector) : View where
  language := defaultLanguage
  translations := given.getD []
  fallback := given.filter (!·.isEmpty)
  fallbackSpaces := []
  spaces := []
  formatter := formatter
  reported := []
  detector := detector
  isInitialized := false

/-! ## Changes -/

/-- What making a language the active one yields. -/
structure Activation where
  view : View
  events : List Event
  result : Except SettingsFault Unit

/-- Makes a language with its translations the active one. Those of the default language are
its fallback as well. A language that the formatter refuses is the active one nevertheless. -/
def activate (v : View) (defaultLanguage : String) (language : Key) (bundle : Bundle) :
    Activation :=
  let change := v.formatter.setLanguage language
  let v := { v with language := language, translations := bundle, formatter := change.formatter }
  let isDefault : Bool := change.result.toBool && decide (language = .text defaultLanguage)
  ⟨if isDefault then { v with fallback := some bundle, fallbackSpaces := v.spaces } else v,
    change.events, change.result⟩

/-- Adds a namespace, its name being in front of the keys already. -/
def addSpace (v : View) (space : Key) (bundle : Bundle) : View :=
  { v with
    translations := Entries.update v.translations bundle
    spaces := if space ∈ v.spaces then v.spaces else v.spaces ++ [space] }

/-- Adds a namespace to the translations of the default language. -/
def addFallbackSpace (v : View) (space : Key) (bundle : Bundle) : View :=
  { v with
    fallback := some (Entries.update (v.fallback.getD []) bundle)
    fallbackSpaces :=
      if space ∈ v.fallbackSpaces then v.fallbackSpaces else v.fallbackSpaces ++ [space] }

/-- Drops the compiled templates. -/
def clearCache (v : View) : View := { v with formatter := v.formatter.clearCache }

/-! ## Translation -/

/-- The message of a key: in the active translations, or else in those of the default
language. -/
def message? (v : View) (defaultLanguage key : String) : Option String :=
  match Bundle.message? v.translations key with
  | some m => some m
  | none =>
      if v.language = .text defaultLanguage then none
      else v.fallback.bind fun b => Bundle.message? b key

/-- A message that cannot be formatted, with the reason. -/
structure MessageFault where
  message : String
  fault : Message.FormatFault

def MessageFault.failure (f : MessageFault) : Failure := f.fault.failure f.message

/-- What translating a key yields. -/
structure Outcome where
  view : View
  events : List Event
  result : Except MessageFault String

/-- Translates a key. Without values the message stays as it is; a key without a message comes
back, and is reported once for each language. -/
def translate (v : View) (defaultLanguage key : String) (values : Bundle) : Outcome :=
  match v.message? defaultLanguage key with
  | none =>
      if (v.language, key) ∈ v.reported then ⟨v, [], .ok key⟩
      else
        ⟨{ v with reported := v.reported ++ [(v.language, key)] },
          [.translationMissing .warning v.language key], .ok key⟩
  | some m =>
      if values.isEmpty then ⟨v, [], .ok m⟩
      else
        let o := v.formatter.format m values
        ⟨{ v with formatter := o.formatter }, o.events, o.result.mapError fun f => ⟨m, f⟩⟩

/-- The key that a translate function bound to a namespace looks up: the key with the namespace,
unless only the key alone has a message in the active translations. -/
def boundKey (v : View) (space : Option String) (key : String) : String :=
  match space with
  | none => key
  | some _ =>
      let full := Bundle.namespacedKey space key
      if (Bundle.message? v.translations full).isSome then full
      else if (Bundle.message? v.translations key).isSome then key
      else full

/-- Translates a key through a function bound to a namespace. -/
def translateIn (v : View) (defaultLanguage : String) (space : Option String) (key : String)
    (values : Bundle) : Outcome :=
  v.translate defaultLanguage (v.boundKey space key) values

end View
end Polyglot
