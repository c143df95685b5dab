import Polyglot.Detection.Context
import Polyglot.Url.Basic

/-!
# Detection strategies

A strategy looks at one part of the context and answers with a language or with nothing. Some
strategies can also store a choice and remove it again. Beside the built-in strategies there
are custom ones, whose answers are given from outside.
-/
namespace Polyglot

/-- Settings of detection. -/
structure DetectionOptions where
  order : List String
  stores : List String
  excluded : List String
  cookieName : Value
  /-- the age of the cookie in seconds -/
  cookieMaxAge : Value
  cookieDomain : Option String
  storageKey : Value
  deriving Repr

/-- The settings unless told otherwise. -/
def DetectionOptions.default : DetectionOptions where
  order := ["querystring", "cookie", "localStorage", "navigator"]
  stores := ["cookie", "localStorage"]
  excluded := ["cimode"]
  cookieName := .text "lingx-lang"
  cookieMaxAge := .int 31536000
  cookieDomain := none
  storageKey := .text "lingx-lang"

/-- The domain of cookies; an empty one is none. -/
def DetectionOptions.domain (o : DetectionOptions) : Option String := o.cookieDomain.filter (· ≠ "")

/-- The built-in strategies. -/
inductive BuiltIn
  | cookie
  | localStorage
  | sessionStorage
  | navigator
  | query
  | path
  | document
  | fragment
  | subdomain
  deriving DecidableEq, Repr

/-- A strategy whose answers are given from outside. -/
structure CustomStrategy where
  answer : DetectionOptions → List String → DetectionContext → Except Failure (Option String)
  /-- what storing and removing a choice do, if the strategy can do so -/
  storing : Option (Except Failure Unit)

inductive Strategy
  | builtIn (kind : BuiltIn)
  | custom (strategy : CustomStrategy)

namespace BuiltIn

def name : BuiltIn → String
  | cookie => "cookie"
  | localStorage => "localStorage"
  | sessionStorage => "sessionStorage"
  | navigator => "navigator"
  | query => "querystring"
  | path => "path"
  | document => "htmlTag"
  | fragment => "hash"
  | subdomain => "subdomain"

def all : List BuiltIn :=
  [cookie, localStorage, sessionStorage, navigator, query, path, document, fragment, subdomain]

def supported? (supported : List String) (language : String) : Option String :=
  if language ≠ "" ∧ language ∈ supported then some language else none

/-- The first part of a text that is not empty, the parts being separated by slashes. -/
def firstSegment? (s : String) : Option String :=
  (((Text.splitOn '/' s.toList).filter fun p => !p.isEmpty).head?).map String.ofList

/-- The preferred language that is supported first, either as it is or by its base. -/
def preferred? (supported : List String) : List String → Option String
  | [] => none
  | tag :: rest =>
      let base := String.ofList (Text.cutAt '-' tag.toList).1
      if tag = "" then preferred? supported rest
      else if tag ∈ supported then some tag
      else if base ∈ supported then some base
      else preferred? supported rest

/-- The first value of the first of some fields that has one. -/
def firstValue? (fields : List (String × String)) (names : List String) : Option String :=
  names.findSome? (Url.formValue? fields)

def inQuery? (supported : List String) (query : String) : Option String :=
  (firstValue? (Url.parseForm query.toList) ["lang", "lng", "locale"]).bind (supported? supported)

/-- The language in a fragment: a field, or else the first part of a path. -/
def inFragment? (supported : List String) (fragment : String) : Option String :=
  let fields := Url.parseForm (fragment.toList.dropWhile (· = '/'))
  match (firstValue? fields ["lang", "lng"]).bind (supported? supported) with
  | some l => some l
  | none => (firstSegment? fragment).bind (supported? supported)

/-- The language in a host name: its first label. -/
def inHost? (supported : List String) (host : String) : Option String :=
  supported? supported (String.ofList (Text.cutAt '.' host.toList).1)

def malformedUrl : Failure := .plain .badValue "malformed URL"

def inUrl (c : DetectionContext) (read : Url → Option String) : Except Failure (Option String) :=
  match Url.parse? c.url with
  | some u => .ok (read u)
  | none => .error malformedUrl

/-- The text of a storage area; one that does not exist holds nothing. -/
def stored (store : Option KeyValueStore) (key : Value) : Except Failure (Option String) :=
  match store with
  | some s => s.get key
  | none => .ok none

def lookup (kind : BuiltIn) (o : DetectionOptions) (supported : List String)
    (c : DetectionContext) : Except Failure (Option String) :=
  match kind with
  | cookie => c.cookies.get o.cookieName
  | localStorage => stored c.localStorage o.storageKey
  | sessionStorage => stored c.sessionStorage o.storageKey
  | navigator => .ok (preferred? supported c.languages)
  | query => inUrl c fun u => inQuery? supported u.query
  | path => inUrl c fun u => (firstSegment? u.path).bind (supported? supported)
  | document => .ok (c.documentLanguage.filter (· ≠ ""))
  | fragment => inUrl c fun u => inFragment? supported u.fragment
  | subdomain => inUrl c fun u => inHost? supported u.host

/-- Whether a built-in strategy can store a choice. -/
def isPersistent : BuiltIn → Bool
  | cookie => true
  | localStorage => true
  | sessionStorage => true
  | _ => false

/-- Changes a storage area, if there is one. -/
def change (store : Option KeyValueStore) (f : KeyValueStore → Except Failure KeyValueStore) :
    Except Failure (Option KeyValueStore) :=
  match store with
  | some s => (f s).map some
  | none => .ok none

def remember (kind : BuiltIn) (o : DetectionOptions) (language : String) (c : DetectionContext) :
    Except Failure DetectionContext :=
  match kind with
  | cookie =>
      (c.cookies.set o.cookieName language o.cookieMaxAge o.domain).map fun jar =>
        { c with cookies := jar }
  | localStorage =>
      (change c.localStorage fun s => s.set o.storageKey language).map fun s =>
        { c with localStorage := s }
  | sessionStorage =>
      (change c.sessionStorage fun s => s.set o.storageKey language).map fun s =>
        { c with sessionStorage := s }
  | _ => .ok c

/-- Removes a stored choice. -/
def forget (kind : BuiltIn) (o : DetectionOptions) (c : DetectionContext) :
    Except Failure DetectionContext :=
  match kind with
  | cookie =>
      (c.cookies.set o.cookieName "" (.int 0) o.domain).map fun jar => { c with cookies := jar }
  | localStorage =>
      (change c.localStorage fun s => s.remove o.storageKey).map fun s =>
        { c with localStorage := s }
  | sessionStorage =>
      (change c.sessionStorage fun s => s.remove o.storageKey).map fun s =>
        { c with sessionStorage := s }
  | _ => .ok c

end BuiltIn

/-- A custom strategy that always gives the same answer. -/
def CustomStrategy.constant (answer : Except Failure (Option String)) (persistent : Bool) :
    CustomStrategy :=
  ⟨fun _ _ _ => answer, if persistent then some (answer.map fun _ => ()) else none⟩

/-- A custom strategy after it stored a choice or removed it: that is its answer from now on. -/
def CustomStrategy.answering (s : CustomStrategy) (language : Option String) : CustomStrategy :=
  { s with answer := fun _ _ _ => .ok language }

namespace Strategy

def lookup (s : Strategy) (o : DetectionOptions) (supported : List String)
    (c : DetectionContext) : Except Failure (Option String) :=
  match s with
  | builtIn kind => kind.lookup o supported c
  | custom s => s.answer o supported c

def isPersistent : Strategy → Bool
  | builtIn kind => kind.isPersistent
  | custom s => s.storing.isSome

/-- Stores a choice, or removes the stored one when there is none. Returns the strategy and
the context after it. -/
def store (s : Strategy) (o : DetectionOptions) (language : Option String)
    (c : DetectionContext) : Except Failure (Strategy × DetectionContext) :=
  match s with
  | builtIn kind =>
      (match language with
        | some l => kind.remember o l c
        | none => kind.forget o c).map fun c => (builtIn kind, c)
  | custom s =>
      match s.storing with
      | some (.error f) => .error f
      | some (.ok _) => .ok (custom (s.answering language), c)
      | none => .ok (custom s, c)

end Strategy
end Polyglot
