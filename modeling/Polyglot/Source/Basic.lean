import Polyglot.Bundle.Basic
import Polyglot.File.Path
import Polyglot.Json.Reader
import Polyglot.Yaml.Failure
import Polyglot.Yaml.Reader

/-!
# Bundle sources

A source provides the bundle of a language, or of one of its namespaces. The remote source is
an endpoint of the translation service, which may also tell the languages there are; a served
source is a tree of files behind a web server; a directory holds the files themselves, in JSON
or YAML. Whatever goes wrong is a failure of the infrastructure or one that the transport
reported. A client may also be given sources of other kinds.
-/
namespace Polyglot

/-- Where bundles come from. -/
inductive Source
  | remote (url : String) (project space environment : Value)
  | served (path : String)
  | directory (path : Path)
  /-- a source given from outside -/
  | custom (name : String)
  deriving Repr

/-- A fetched bundle, with the languages there are when the source tells them. -/
structure Loaded where
  bundle : Bundle
  languages : Option (List String)
  deriving Repr

/-- The response to a request, its body being read as JSON. -/
structure Response where
  status : Int
  body : Except Json.Fault Value

/-- What the library needs of the world outside. `σ` is the state of that world. -/
structure Outside (σ : Type) where
  /-- performs a GET request -/
  get : σ → String → Option Bundle → σ × Except Failure Response
  /-- asks a source that is given from outside -/
  ask : σ → String → Key → Option Key → σ × Except Failure Loaded :=
    fun world _ _ _ => (world, .error (.plain .infrastructure "No such source"))
  /-- the text of a file, if there is one -/
  file : σ → String → Except Failure (Option String)
  /-- waits for some seconds -/
  pause : σ → Binary64 → σ
  /-- a random number between zero and one -/
  draw : σ → σ × Binary64
  /-- closes the connection of a client -/
  close : σ → σ
  /-- the time on the clock, in seconds -/
  now : σ → σ × Number

namespace Source

def name : Source → String
  | remote .. => "remote"
  | served _ => "local"
  | directory _ => "local"
  | custom name => name

/-- A text without the slashes at its end. -/
def trimSlashes (s : String) : String :=
  String.ofList (s.toList.reverse.dropWhile (· = '/')).reverse

def endpoint (address : String) (project space environment : Value) : Source :=
  .remote (trimSlashes address ++ "/sdk/translations") project space environment

def filesAt (address : String) : Source := .served (trimSlashes address)

/-- A namespace that counts: an empty one is none. -/
def effective (space : Option Key) : Option Key := space.filter Key.truthy

/-! ## Responses -/

def body (url : String) (r : Response) : Except Failure Value :=
  if 400 ≤ r.status then
    .error ⟨.infrastructure,
      "GET " ++ url ++ " failed with HTTP " ++ String.ofList (Text.intText r.status),
      some "HTTP_ERROR", [("status", .int r.status)], none⟩
  else
    r.body.mapError fun _ =>
      ⟨.infrastructure, "GET " ++ url ++ " did not return JSON", some "INVALID_RESPONSE", [],
        none⟩

def bundleOf (origin : String) (v : Value) : Except Failure Bundle :=
  match v with
  | .dict es => .ok es
  | _ =>
      .error ⟨.infrastructure, "Bundle from " ++ origin ++ " is not an object",
        some "INVALID_BUNDLE", [], none⟩

/-- The languages in the answer of the translation service: null or a list of texts. -/
def languages? (v : Option Value) : Option (Option (List String)) :=
  match v with
  | none => some none
  | some .null => some none
  | some (.list vs) => (vs.mapM Value.text?).map some
  | some _ => none

/-- The answer of the translation service. -/
def payload? (v : Value) : Option Loaded :=
  match v with
  | .dict es =>
      match Entries.get? es "language", Entries.get? es "translations" with
      | some (.text _), some (.dict bundle) =>
          let listed :=
            Entries.get? es "availableLanguages" <|> Entries.get? es "available_languages"
          (languages? listed).map fun languages => ⟨bundle, languages⟩
      | _, _ => none
  | _ => none

def ofService (url : String) (language : Key) (r : Response) : Except Failure Loaded := do
  let v ← body url r
  match payload? v with
  | some l => .ok l
  | none =>
      .error ⟨.infrastructure, "Malformed translations response from " ++ url,
        some "INVALID_RESPONSE", [("language", language.toValue)], none⟩

/-- The bundle in a response of a web server. -/
def ofResponse (url : String) (r : Response) : Except Failure Loaded := do
  let bundle ← bundleOf url (← body url r)
  .ok ⟨bundle, none⟩

/-! ## Files -/

/-- The suffixes of bundle files, in the order in which they are tried. -/
def suffixes : List String := [".json", ".yaml", ".yml"]

def malformedFile (path : Path) : Failure :=
  ⟨.infrastructure, "Cannot parse " ++ path.text, some "INVALID_BUNDLE", [], none⟩

/-- The failure of a JSON file: an integer of too many digits is no fault of the file's form. -/
def jsonFailure (path : Path) : Json.Fault → Failure
  | .malformed => malformedFile path
  | .tooLong n => .plain .badValue (Literal.tooLongText n)

def fileValue (path : Path) (text : String) : Except Failure Value :=
  if path.suffix = ".json" then (Json.parse text).mapError (jsonFailure path)
  else
    (Yaml.read (String.ofList (Text.plainLines text.toList))).mapError fun f =>
      f.failure?.getD (malformedFile path)

/-- The bundle of a file; an empty value of any kind counts as an empty mapping. -/
def ofFile (path : Path) (text : String) : Except Failure Loaded := do
  let v ← fileValue path text
  let bundle ← bundleOf path.text (if v.truthy then v else .dict [])
  .ok ⟨bundle, none⟩

/-- The path below a directory; only texts are parts of paths. -/
def below (directory : Path) (part : Key) : Except Failure Path :=
  match part with
  | .text s => .ok (directory.join s)
  | k =>
      .error (.plain .wrongType
        ("unsupported operand type(s) for /: 'PosixPath' and '" ++ k.toValue.kindName ++ "'"))

def bundlePath (directory : Path) (language : Key) (space : Option Key) : Except Failure Path := do
  let path ← below directory language
  match effective space with
  | none => .ok path
  | some n => below path n

/-- The first file that exists among the paths of a bundle, with its text. -/
def findFile (file : String → Except Failure (Option String)) (stem : Path) :
    List String → Except Failure (Option (Path × String))
  | [] => .ok none
  | suffix :: rest =>
      match stem.withName? (stem.name ++ suffix) with
      | none =>
          .error (.plain .badValue
            ("PosixPath(" ++ Text.quotedString stem.text ++ ") has an empty name"))
      | some p =>
          match file p.text with
          | .error f => .error f
          | .ok (some text) => .ok (some (p, text))
          | .ok none => findFile file stem rest

def ofDirectory (file : String → Except Failure (Option String)) (directory : Path)
    (language : Key) (space : Option Key) : Except Failure Loaded := do
  match ← findFile file (← bundlePath directory language space) suffixes with
  | some (path, text) => ofFile path text
  | none =>
      .error ⟨.infrastructure,
        "No bundle file for '" ++ language.display ++ "' in " ++ directory.text,
        some "BUNDLE_NOT_FOUND",
        [("language", language.toValue), ("namespace", space.elim .null Key.toValue)], none⟩

/-! ## Fetching -/

/-- The parameters of a request to the translation service. -/
def params (project space environment : Value) (language : Key) (namespace? : Option Key) :
    Bundle :=
  let named : Bundle := (effective namespace?).elim [] fun n => [("namespace", n.toValue)]
  ("project", project) :: ("space", space) :: ("environment", environment) ::
    ("lang", language.toValue) :: named

def address (path : String) (language : Key) (space : Option Key) : String :=
  match effective space with
  | none => path ++ "/" ++ language.display ++ ".json"
  | some n => path ++ "/" ++ language.display ++ "/" ++ n.display ++ ".json"

def fetch {σ : Type} (outside : Outside σ) (s : Source) (language : Key) (space : Option Key)
    (world : σ) : σ × Except Failure Loaded :=
  match s with
  | remote url project area environment =>
      let (world, reply) :=
        outside.get world url (some (params project area environment language space))
      (world, reply.bind (ofService url language))
  | served path =>
      let url := address path language space
      let (world, reply) := outside.get world url none
      (world, reply.bind (ofResponse url))
  | directory path => (world, ofDirectory (outside.file world) path language space)
  | custom name => outside.ask world name language space

end Source
end Polyglot
