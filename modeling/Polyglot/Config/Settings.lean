import Polyglot.Config.Binding
import Polyglot.Detection.Strategy

/-!
# Settings

The records of settings of the library and the sections that they are bound to. A setting may hold a
value of any kind: it is read where it is used.
-/
namespace Polyglot

namespace Settings

def field (es : Bundle) (name : String) (default : Value) : Value :=
  (Entries.get? es name).getD default

def real (n : Nat) : Value := .float (.ofRatio false n 1)

def textField (name default : String) : Config.Field := ⟨name, .text, some (.text default)⟩

def wholeField (name : String) (default : Int) : Config.Field := ⟨name, .whole, some (.int default)⟩

/-- A field that is a number; its default is a whole one. -/
def numberField (name : String) (default : Nat) : Config.Field :=
  ⟨name, .number, some (real default)⟩

def listField (name : String) (default : List String) : Config.Field :=
  ⟨name, .other, some (Config.textList default)⟩

end Settings

/-! ## Client -/

/-- Settings of a client. Bundles come from the translation service only when its address, the
project, the space and the environment are all given; of the local places a directory comes
before an address. -/
structure ClientSettings where
  defaultLanguage : Value
  fallbackLanguage : Value
  languages : Value
  namespaces : Value
  serviceAddress : Value
  project : Value
  space : Value
  environment : Value
  localAddress : Value
  localDirectory : Value
  /-- the longest time a request may take, in seconds -/
  timeout : Value
  deriving Repr

namespace ClientSettings

/-- The record of these settings. -/
def schema : Config.Schema :=
  ⟨"ClientProperties", some "lingx.client", false,
    [Settings.textField "default_language" "en", Settings.textField "fallback_language" "",
      Settings.listField "available_languages" [], Settings.listField "namespaces" [],
      Settings.textField "api_url" "", Settings.textField "project" "",
      Settings.textField "space" "", Settings.textField "environment" "",
      Settings.textField "locale_path" "", Settings.textField "locale_dir" "",
      Settings.numberField "timeout" 30]⟩

/-- Reads a filled record. -/
def ofEntries (es : Bundle) : ClientSettings where
  defaultLanguage := Settings.field es "default_language" (.text "en")
  fallbackLanguage := Settings.field es "fallback_language" (.text "")
  languages := Settings.field es "available_languages" (.list [])
  namespaces := Settings.field es "namespaces" (.list [])
  serviceAddress := Settings.field es "api_url" (.text "")
  project := Settings.field es "project" (.text "")
  space := Settings.field es "space" (.text "")
  environment := Settings.field es "environment" (.text "")
  localAddress := Settings.field es "locale_path" (.text "")
  localDirectory := Settings.field es "locale_dir" (.text "")
  timeout := Settings.field es "timeout" (Settings.real 30)

end ClientSettings

/-- Settings of the retries of a client; the pauses are in seconds. -/
structure RetrySettings where
  attempts : Value
  base : Value
  longest : Value
  deriving Repr

namespace RetrySettings

/-- The record of these settings. -/
def schema : Config.Schema :=
  ⟨"RetryProperties", some "lingx.client.retry", false,
    [Settings.wholeField "max_attempts" 3, Settings.numberField "base_delay" 1,
      Settings.numberField "max_delay" 10]⟩

/-- Reads a filled record. -/
def ofEntries (es : Bundle) : RetrySettings where
  attempts := Settings.field es "max_attempts" (.int 3)
  base := Settings.field es "base_delay" (Settings.real 1)
  longest := Settings.field es "max_delay" (Settings.real 10)

end RetrySettings

/-! ## Cache, formatter, detection and log -/

/-- Settings of a bundle cache; the lifetime is in seconds. -/
structure CacheSettings where
  lifetime : Value
  capacity : Value
  deriving Repr

namespace CacheSettings

/-- The record of these settings. -/
def schema : Config.Schema :=
  ⟨"CacheProperties", some "lingx.cache", false,
    [Settings.numberField "ttl" 300, Settings.wholeField "max_entries" 50]⟩

/-- Reads a filled record. -/
def ofEntries (es : Bundle) : CacheSettings where
  lifetime := Settings.field es "ttl" (Settings.real 300)
  capacity := Settings.field es "max_entries" (.int 50)

end CacheSettings

structure FormatterSettings where
  capacity : Value
  currency : Value
  deriving Repr

namespace FormatterSettings

/-- The record of these settings. -/
def schema : Config.Schema :=
  ⟨"FormatterProperties", some "lingx.format", false,
    [Settings.wholeField "cache_size" 500, Settings.textField "default_currency" "USD"]⟩

/-- Reads a filled record. -/
def ofEntries (es : Bundle) : FormatterSettings where
  capacity := Settings.field es "cache_size" (.int 500)
  currency := Settings.field es "default_currency" (.text "USD")

end FormatterSettings

/-- Settings of language detection. -/
structure DetectionSettings where
  isEnabled : Value
  order : Value
  stores : Value
  excluded : Value
  cookieName : Value
  cookieMaxAge : Value
  cookieDomain : Value
  storageKey : Value
  deriving Repr

namespace DetectionSettings

/-- The record of these settings. -/
def schema : Config.Schema :=
  let d := DetectionOptions.default
  ⟨"DetectionProperties", some "lingx.detection", false,
    [⟨"enabled", .truth, some (.bool true)⟩, Settings.listField "order" d.order,
      Settings.listField "caches" d.stores, Settings.listField "exclude_cache_for" d.excluded,
      ⟨"cookie_name", .text, some d.cookieName⟩,
      ⟨"cookie_max_age", .whole, some d.cookieMaxAge⟩, Settings.textField "cookie_domain" "",
      ⟨"storage_key", .text, some d.storageKey⟩]⟩

/-- Reads a filled record. -/
def ofEntries (es : Bundle) : DetectionSettings :=
  let d := DetectionOptions.default
  { isEnabled := Settings.field es "enabled" (.bool true)
    order := Settings.field es "order" (Config.textList d.order)
    stores := Settings.field es "caches" (Config.textList d.stores)
    excluded := Settings.field es "exclude_cache_for" (Config.textList d.excluded)
    cookieName := Settings.field es "cookie_name" d.cookieName
    cookieMaxAge := Settings.field es "cookie_max_age" d.cookieMaxAge
    cookieDomain := Settings.field es "cookie_domain" (.text "")
    storageKey := Settings.field es "storage_key" d.storageKey }

end DetectionSettings

/-- The record of the settings of the log. -/
def loggingSchema : Config.Schema :=
  ⟨"LoggingProperties", some "lingx.logging", false,
    [Settings.textField "format" "console",
      ⟨"level", .other, some (.dict [("root", .text "INFO")])⟩]⟩

end Polyglot
