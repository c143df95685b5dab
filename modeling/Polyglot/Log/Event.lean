import Polyglot.Value.Basic

/-!
# Events

What the library reports while it works. Every event has a level, a name and fields.
-/
namespace Polyglot

inductive EventLevel
  | debug
  | info
  | warning
  deriving DecidableEq, Repr

def EventLevel.name : EventLevel → String
  | debug => "debug"
  | info => "info"
  | warning => "warning"

/-- What is reported. -/
inductive Event
  | unknownLocale (language : String)
  | formatterLanguageChanged (language : String)
  | messageParseFailed (message : String) (language : Key) (error : String)
  /-- the error is missing when it is none of the template's own -/
  | messageFormatFailed (message : String) (language : Key) (error : Option String)
  | retryScheduled (attempt : Nat) (delay : Binary64) (error : String)
  | detectorLookupFailed (detector error : String)
  | detectorCacheFailed (detector error : String)
  | detectorClearFailed (detector error : String)
  | languageDetected (detector language : String)
  | bundleLoaded (source : String) (language : Key) (space : Option Key)
  | bundleSourceFailed (source : String) (language : Key) (space : Option Key) (error : String)
  | defaultBundleUnavailable (language error : String)
  | defaultNamespaceUnavailable (language : String) (space : Key) (error : String)
  | clientInitialized (language : Key) (spaces : List Key)
  | languageChanged (language : Key)
  | translationMissing (level : EventLevel) (language : Key) (key : String)
  deriving Repr

namespace Event

def level : Event → EventLevel
  | unknownLocale _ => .debug
  | formatterLanguageChanged _ => .debug
  | messageParseFailed .. => .warning
  | messageFormatFailed .. => .warning
  | retryScheduled .. => .debug
  | detectorLookupFailed .. => .debug
  | detectorCacheFailed .. => .debug
  | detectorClearFailed .. => .debug
  | languageDetected .. => .debug
  | bundleLoaded .. => .debug
  | bundleSourceFailed .. => .warning
  | defaultBundleUnavailable .. => .warning
  | defaultNamespaceUnavailable .. => .warning
  | clientInitialized .. => .info
  | languageChanged _ => .info
  | translationMissing l _ _ => l

def name : Event → String
  | unknownLocale _ => "unknown_locale"
  | formatterLanguageChanged _ => "formatter_language_changed"
  | messageParseFailed .. => "message_parse_failed"
  | messageFormatFailed .. => "message_format_failed"
  | retryScheduled .. => "retry_scheduled"
  | detectorLookupFailed .. => "detector_lookup_failed"
  | detectorCacheFailed .. => "detector_cache_failed"
  | detectorClearFailed .. => "detector_clear_failed"
  | languageDetected .. => "language_detected"
  | bundleLoaded .. => "bundle_loaded"
  | bundleSourceFailed .. => "bundle_source_failed"
  | defaultBundleUnavailable .. => "default_bundle_unavailable"
  | defaultNamespaceUnavailable .. => "default_namespace_unavailable"
  | clientInitialized .. => "client_initialized"
  | languageChanged _ => "language_changed"
  | translationMissing .. => "translation_missing"

/-- A key or null. -/
def optional (k : Option Key) : Value := k.elim .null Key.toValue

def fields : Event → Bundle
  | unknownLocale l => [("language", .text l), ("fallback", .text "en")]
  | formatterLanguageChanged l => [("language", .text l)]
  | messageParseFailed m l e => [("message", .text m), ("language", l.toValue), ("error", .text e)]
  | messageFormatFailed m l e =>
      let known : Bundle := e.elim [] fun t => [("error", .text t)]
      ("message", .text m) :: ("language", l.toValue) :: known
  | retryScheduled n d e =>
      [("attempt", .int (Int.ofNat n)), ("delay", .float d), ("error", .text e)]
  | detectorLookupFailed d e => [("detector", .text d), ("error", .text e)]
  | detectorCacheFailed d e => [("detector", .text d), ("error", .text e)]
  | detectorClearFailed d e => [("detector", .text d), ("error", .text e)]
  | languageDetected d l => [("detector", .text d), ("language", .text l)]
  | bundleLoaded s l n =>
      [("source", .text s), ("language", l.toValue), ("namespace", optional n)]
  | bundleSourceFailed s l n e =>
      [("source", .text s), ("language", l.toValue), ("namespace", optional n), ("error", .text e)]
  | defaultBundleUnavailable l e => [("language", .text l), ("error", .text e)]
  | defaultNamespaceUnavailable l n e =>
      [("language", .text l), ("namespace", n.toValue), ("error", .text e)]
  | clientInitialized l ns =>
      [("language", l.toValue), ("namespaces", .list (ns.map Key.toValue))]
  | languageChanged l => [("language", l.toValue)]
  | translationMissing _ l k => [("language", l.toValue), ("key", .text k)]

end Event
end Polyglot
