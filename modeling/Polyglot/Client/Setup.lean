import Polyglot.Bundle.Cache
import Polyglot.Config.Settings
import Polyglot.Detection.Detector
import Polyglot.Failure.Settings
import Polyglot.Message.Formatter
import Polyglot.Retry
import Polyglot.Source.Basic

/-!
# Setup

What records of settings describe: a retry policy, a bundle cache, a formatter, a language
detector, and the sources of a client.
-/
namespace Polyglot

open SettingsFault (items letters positive seconds)

/-- The policy of these settings; every failure is retried. -/
def RetrySettings.policy (s : RetrySettings) : Except SettingsFault RetryPolicy := do
  let base ← seconds s.base
  let longest ← seconds s.longest
  positive s.attempts .noAttempts
  return .create s.attempts base longest

def CacheSettings.cache (s : CacheSettings) : Except SettingsFault BundleCache := do
  let lifetime ← seconds s.lifetime
  return .create lifetime (← SettingsFault.capacity s.capacity .noEntries)

def FormatterSettings.formatter (s : FormatterSettings) (language : Value)
    (library : LocaleLibrary := .known) : Except SettingsFault Message.Formatter := do
  let limit ← SettingsFault.capacity s.capacity .noTemplates
  return .create (← letters language) limit s.currency.text? library

namespace DetectionSettings

/-- The names in a list of names; nothing has a name that is no text. -/
def names (v : Value) : Except SettingsFault (List String) :=
  (items v).map fun vs => vs.filterMap Value.text?

/-- What can be looked up among some values; a collection cannot. -/
def keys (v : Value) : Except SettingsFault (List String) := do
  let vs ← items v
  if vs.any fun v => v matches .list _ | .dict _ then throw .wrongType
  return vs.filterMap Value.text?

def options (s : DetectionSettings) : Except SettingsFault DetectionOptions := do
  return {
    order := ← names s.order
    stores := ← names s.stores
    excluded := ← keys s.excluded
    cookieName := s.cookieName
    cookieMaxAge := s.cookieMaxAge
    cookieDomain := if s.cookieDomain.truthy then some s.cookieDomain.display else none
    storageKey := s.storageKey }

/-- The detector of these settings, unless detection is off. -/
def detector? (s : DetectionSettings) (c : DetectionContext) :
    Except SettingsFault (Option Detector) :=
  if s.isEnabled.truthy then s.options.map fun o => some (.create o c) else .ok none

end DetectionSettings

namespace ClientSettings

/-- Whether all settings of the translation service are given. -/
def usesService (s : ClientSettings) : Bool :=
  s.serviceAddress.truthy && s.project.truthy && s.space.truthy && s.environment.truthy

/-- Whether a source of these settings is asked by requests. -/
def needsConnection (s : ClientSettings) : Bool :=
  s.usesService || (!s.localDirectory.truthy && s.localAddress.truthy)

/-- An address; a value of another kind has no slashes at its end. -/
def address (v : Value) : Except SettingsFault String :=
  match v with
  | .text t => .ok t
  | _ => .error .missingMember

def directory (v : Value) : Except SettingsFault Path :=
  match v with
  | .text t => .ok (Path.ofString t)
  | _ => .error .wrongType

/-- The translation service, if all of its settings are given. -/
def service? (s : ClientSettings) : Except SettingsFault (Option Source) :=
  if s.usesService then
    (address s.serviceAddress).map fun a => some (.endpoint a s.project s.space s.environment)
  else .ok none

/-- The local place; a directory comes before an address. -/
def local? (s : ClientSettings) : Except SettingsFault (Option Source) :=
  if s.localDirectory.truthy then (directory s.localDirectory).map fun p => some (.directory p)
  else if s.localAddress.truthy then (address s.localAddress).map fun a => some (.filesAt a)
  else .ok none

/-- The sources, in the order in which they are tried. A client that makes its connection itself
makes it before them. -/
def sources (s : ClientSettings) (makesConnection : Bool) : Except SettingsFault (List Source) := do
  if makesConnection then discard (seconds s.timeout)
  let service ← s.service?
  return service.toList ++ (← s.local?).toList

/-- The language when detection finds none; null where it cannot be looked up. -/
def fallback (s : ClientSettings) (defaultLanguage : String) : Key :=
  if s.fallbackLanguage.truthy then s.fallbackLanguage.key?.getD .null else defaultLanguage

/-- The namespaces to start with, as far as they can be looked up; what lists none is one that
cannot. -/
def spaces (s : ClientSettings) : List (Option Key) :=
  match s.namespaces.items? with
  | some vs => vs.map Value.key?
  | none => [none]

end ClientSettings
end Polyglot
