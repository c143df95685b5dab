import Polyglot.Config.Placeholder
import Polyglot.Failure.Basic
import Polyglot.File.Path
import Polyglot.Text.Case
import Polyglot.Toml.Reader
import Polyglot.Yaml.Reader

/-!
# Configuration

Configuration data comes from packaged defaults, a file and the profiles beside it, each layer
over the one before. A variable of the environment takes precedence over a configured value.
-/
namespace Polyglot

/-- Configuration data, and where it was loaded from. -/
structure Config where
  data : Bundle
  sources : List String
  deriving Repr

namespace Config

def ofData (data : Bundle) : Config := ⟨data, []⟩

/-! ## Reading -/

/-- What the keys of the library begin with; it is left out in the names of variables. -/
def root : String := "lingx."

/-- The variable that takes precedence over a key. -/
def variableOf (key : String) : String :=
  let base := if root.toList.isPrefixOf key.toList then key.toList.drop root.length else key.toList
  "LINGX_" ++ (Text.upper (String.ofList base)).map fun c => if c = '.' ∨ c = '-' then '_' else c

/-- The value under a key. A variable counts as it is; placeholders of a configured text are
resolved. -/
def get (c : Config) (env : Environment) (key : String) (default : Value) :
    Except PlaceholderFault Value :=
  match Entries.get? env (variableOf key) with
  | some t => .ok (.text t)
  | none =>
      match find? c.data key with
      | none => .ok default
      | some (.text t) =>
          if mayRefer t then (resolve env c.data t).map Value.text else .ok (.text t)
      | some v => .ok v

/-! ## Defaults -/

def texts (es : List (String × String)) : Bundle := es.map fun e => (e.1, .text e.2)

def textList (ts : List String) : Value := .list (ts.map Value.text)

/-- The packaged defaults. -/
def defaultData : Bundle :=
  [("lingx", .dict [
    ("client", .dict (
      Entries.update
        (texts [("default_language", "en"), ("fallback_language", "en"), ("api_url", ""),
          ("project", ""), ("space", ""), ("environment", ""), ("locale_path", ""),
          ("locale_dir", "")])
        [("timeout", .int 30),
          ("retry", .dict [("max_attempts", .int 3), ("base_delay", .float (.ofRatio false 1 1)),
            ("max_delay", .float (.ofRatio false 10 1))])])),
    ("cache", .dict [("ttl", .int 300), ("max_entries", .int 50)]),
    ("format", .dict [("cache_size", .int 500), ("default_currency", .text "USD")]),
    ("detection", .dict (
      [("enabled", .bool true),
        ("order", textList ["querystring", "cookie", "localStorage", "navigator"]),
        ("caches", textList ["cookie", "localStorage"]),
        ("exclude_cache_for", textList ["cimode"]),
        ("cookie_name", .text "lingx-lang"), ("cookie_max_age", .int 31536000),
        ("cookie_domain", .text ""), ("storage_key", .text "lingx-lang")])),
    ("logging", .dict [("format", .text "console"), ("level", .dict [("root", .text "INFO")])])])]

/-- The name of the packaged defaults among the sources. -/
def defaultSource : String := "lingx-defaults.yaml (packaged defaults)"

/-- The configuration of the packaged defaults alone. -/
def defaults : Config := ⟨defaultData, [defaultSource]⟩

/-! ## Files -/

/-- Why a file is no configuration. -/
inductive FileFault
  /-- the path cannot be asked for -/
  | path (failure : Failure)
  | yaml (fault : Yaml.Fault)
  | toml (fault : Toml.Fault)
  /-- the file holds something other than a mapping -/
  | notMapping
  deriving Repr

/-- The data in the text of a file; an empty value of any kind counts as an empty mapping. -/
def dataOf (path : Path) (text : String) : Except FileFault Bundle :=
  if path.suffix = ".toml" then
    (Toml.read text).mapError .toml
  else
    match Yaml.read (String.ofList (Text.plainLines text.toList)) with
    | .error f => .error (.yaml f)
    | .ok (.dict es) => .ok es
    | .ok v => if v.truthy then .error .notMapping else .ok []

/-- Merges the file of a path over a configuration, if there is one. `label` is how the source
is named. -/
def addFile (file : String → Except Failure (Option String)) (c : Config) (path : Path)
    (label : String) : Except FileFault Config :=
  match file path.text with
  | .error f => .error (.path f)
  | .ok none => .ok c
  | .ok (some text) => (dataOf path text).map fun es => ⟨merge c.data es, c.sources ++ [label]⟩

def profilePath (path : Path) (profile : String) : Path :=
  path.parent.join (path.stem ++ "-" ++ profile ++ path.suffix)

/-- Loads a file with its profiles; profiles count only where the file exists. -/
def load (file : String → Except Failure (Option String)) (path : Path) (profiles : List String)
    (withDefaults : Bool) : Except FileFault Config := do
  let start : Config := if withDefaults then defaults else ⟨[], []⟩
  match ← (file path.text).mapError .path with
  | none => .ok start
  | some _ =>
      let base ← addFile file start path path.text
      profiles.foldlM
        (fun c profile =>
          let p := profilePath path profile
          addFile file c p (p.text ++ " (profile: " ++ profile ++ ")"))
        base

end Config
end Polyglot
