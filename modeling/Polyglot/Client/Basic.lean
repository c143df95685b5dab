import Polyglot.Client.Call
import Polyglot.Client.Loader
import Polyglot.Client.Setup

/-!
# Client

A client translates for one active language, with bundles that it loads when they are needed.
Its calls run one at a time here: each bundle that a call waits for is loaded before anything
else goes on. Only loads may go on side by side.
-/
namespace Polyglot

structure Client where
  plan : ClientPlan
  supply : Supply
  view : View
  loader : Loader
  /-- whether the client made its connection itself -/
  ownsConnection : Bool

namespace Client

/-! ## Creation -/

/-- What a client is made of besides its settings. -/
structure Parts where
  /-- the data given with the program -/
  data : Option Bundle
  retry : RetryPolicy
  /-- a cache in place of the usual one -/
  cache : Option BundleCache
  /-- a formatter in place of the usual one for the default language -/
  formatter : Option Message.Formatter
  detector : Option Detector
  /-- sources in place of those of the settings -/
  sources : Option (List Source)
  /-- whether requests go over a connection that is given from outside -/
  hasConnection : Bool

/-- A client with some settings. It makes a connection when its settings name a source that is
asked by requests and none is given. -/
def create (s : ClientSettings) (parts : Parts) (library : LocaleLibrary := .known) :
    Except SettingsFault Client := do
  let language ← SettingsFault.letters s.defaultLanguage
  let owns := parts.sources.isNone && !parts.hasConnection && s.needsConnection
  let sources ← parts.sources.elim (s.sources owns) .ok
  let languages ← SettingsFault.items s.languages
  let supply : Supply := ⟨parts.data, language, sources, parts.retry⟩
  return {
    plan := ⟨language, s.fallback language, s.spaces⟩
    supply := supply
    view := .create language (supply.given? language none)
      (parts.formatter.getD (.usual language library)) parts.detector
    loader := .create (parts.cache.getD .usual) languages
    ownsConnection := owns }

/-- Why a configuration describes no client. -/
inductive ConfigFault
  | bind (fault : Config.BindFault)
  | settings (fault : SettingsFault)
  deriving DecidableEq, Repr

def ofConfig (c : Config) (env : Config.Environment) (data : Option Bundle)
    (context : DetectionContext) (hasConnection : Bool)
    (library : LocaleLibrary := .known) : Except ConfigFault Client := do
  let client ← record ClientSettings.schema
  let cache ← record CacheSettings.schema
  let format ← record FormatterSettings.schema
  let detection ← record DetectionSettings.schema
  let detector ← ((DetectionSettings.ofEntries detection).detector? context).mapError .settings
  let retry ← record RetrySettings.schema
  let settings := ClientSettings.ofEntries client
  let made : Except SettingsFault Client := do
    let cache ← (CacheSettings.ofEntries cache).cache
    let formatter ← (FormatterSettings.ofEntries format).formatter
      settings.defaultLanguage library
    let retry ← (RetrySettings.ofEntries retry).policy
    create settings
      ⟨data, retry, some cache, some formatter, detector, none, hasConnection⟩ library
  made.mapError .settings
where
  /-- the filled record of a schema -/
  record (s : Config.Schema) : Except ConfigFault Bundle := (c.bind env s).mapError .bind

/-! ## What there is -/

/-- The languages there are: those that were told, or those of the given data, or the default
language alone. -/
def availableLanguages (c : Client) : List Value :=
  if !c.loader.languages.isEmpty then c.loader.languages
  else if Bundle.coversLanguage c.supply.data c.plan.defaultLanguage then
    (Entries.keys (c.supply.data.getD [])).map Key.toValue
  else [.text c.plan.defaultLanguage]

/-- The languages that can be found among those there are: the texts. -/
def supportedLanguages (c : Client) : List String := c.availableLanguages.filterMap Value.text?

/-- The keys of the cached bundles, the one that was used longest ago first. -/
def cachedKeys (c : Client) : List Key := Entries.keys c.loader.cache.entries

def pendingKeys (c : Client) : List Key := Entries.keys c.loader.pending

/-! ## Calls -/

/-- What an operation of a client yields. -/
structure Outcome (σ α : Type) where
  world : σ
  client : Client
  events : List Event
  result : α

/-- Outcome with events before its own. -/
def Outcome.after {σ α : Type} (events : List Event) (o : Outcome σ α) : Outcome σ α :=
  { o with events := events ++ o.events }

/-- Runs a call that waits for a bundle to its end. -/
def perform {σ : Type} (outside : Outside σ) (c : Client) (call : Call) (world : σ) :
    Outcome σ (Except CallFault (Option Bundle)) :=
  let wanted := call.wanted c.plan
  let l := c.loader.load outside c.supply wanted.1 wanted.2 world
  let loaded := { c with loader := l.loader }
  match h : call.resume c.plan loaded.supportedLanguages c.view l.result with
  | .ends view events result =>
      ⟨l.world, { loaded with view := view }, l.events ++ events, result⟩
  | .waits view events next =>
      have : RankLt (next.rank view) (call.rank c.view) := by
        have hb := Call.isBelow_resume c.plan loaded.supportedLanguages c.view call l.result
        rw [h] at hb
        exact hb
      (perform outside { loaded with view := view } next l.world).after (l.events ++ events)
termination_by call.rank c.view
decreasing_by exact this

def run {σ : Type} (outside : Outside σ) (c : Client) (begun : Progress) (world : σ) :
    Outcome σ (Except CallFault (Option Bundle)) :=
  match begun with
  | .ends view events result => ⟨world, { c with view := view }, events, result⟩
  | .waits view events call => (perform outside { c with view := view } call world).after events

/-- Starts a client: finds its language, loads the bundle and the namespaces to start with. -/
def start {σ : Type} (outside : Outside σ) (c : Client) (world : σ) :
    Outcome σ (Except CallFault (Option Bundle)) :=
  c.run outside (Call.start c.plan c.supportedLanguages c.view) world

/-- Switches to a language, for which every loaded namespace is loaded. -/
def switchLanguage {σ : Type} (outside : Outside σ) (c : Client) (language : String) (world : σ) :
    Outcome σ (Except CallFault (Option Bundle)) :=
  c.run outside (Call.switch c.view language) world

/-- Adds a namespace of the active language; the result is its bundle, with the namespace in
front of the keys. -/
def addSpace {σ : Type} (outside : Outside σ) (c : Client) (space : Key) (world : σ) :
    Outcome σ (Except CallFault (Option Bundle)) :=
  c.run outside (Call.addSpace c.view space) world

/-- Closes the connection if the client made it. -/
def stop {σ : Type} (outside : Outside σ) (c : Client) (world : σ) : σ :=
  if c.ownsConnection then outside.close world else world

/-! ## Loads -/

def load {σ : Type} (outside : Outside σ) (c : Client) (language : Key) (space : Option Key)
    (world : σ) : Outcome σ (Except LoadFault Bundle) :=
  let l := c.loader.load outside c.supply language space world
  ⟨l.world, { c with loader := l.loader }, l.events, l.result⟩

/-- Loads bundles side by side. -/
def loadAll {σ : Type} (outside : Outside σ) (c : Client) (wanted : List (Key × Option Key))
    (world : σ) : Outcome σ (List Loader.Shared) :=
  let l := c.loader.loadAll outside c.supply wanted world
  ⟨l.world, { c with loader := l.loader }, l.events, l.shares⟩

/-- How a load went whose caller gave up. -/
structure Abandoned where
  /-- whether the caller gave up before the bundle was there -/
  isCancelled : Bool
  /-- the keys that were being fetched when the caller gave up -/
  pending : List Key

/-- Loads a bundle for a caller that gives up while it waits; the fetch goes on to its end. -/
def abandonLoad {σ : Type} (outside : Outside σ) (c : Client) (language : Key)
    (space : Option Key) (world : σ) : Outcome σ Abandoned :=
  let (world, now) := outside.now world
  let (l, reply) := c.loader.request c.supply now language space
  let waiting := { c with loader := l }
  match reply with
  | .ready _ => ⟨world, waiting, [], ⟨false, waiting.pendingKeys⟩⟩
  | .waits .. =>
      let o := l.drain outside c.supply.retry world
      ⟨o.world, { c with loader := o.loader }, o.events, ⟨true, waiting.pendingKeys⟩⟩

/-- Drops the cached bundles and the compiled templates; the view keeps its translations. -/
def clearCache (c : Client) : Client :=
  { c with
    view := c.view.clearCache
    loader := { c.loader with cache := c.loader.cache.clear } }

/-! ## Translation -/

/-- Translates a key through a function bound to a namespace, or without one. -/
def translate (c : Client) (space : Option String) (key : String) (values : Bundle) :
    Client × List Event × Except View.MessageFault String :=
  let o := c.view.translateIn c.plan.defaultLanguage space key values
  ({ c with view := o.view }, o.events, o.result)

end Client
end Polyglot
