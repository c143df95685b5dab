import Polyglot.Detection.CookieHeader
import Polyglot.Detection.Preference
import Polyglot.Failure.Settings
import Polyglot.Text.Case
import Polyglot.Text.Digit
import Polyglot.Value.Text

/-!
# Detection context

What a strategy may look at to find the language of a user: the URL, the preferred languages,
the language of the document, the cookies and the storage areas. A storage area may be blocked;
every access to it then fails.
-/
namespace Polyglot

/-! ## Stores -/

/-- The key that a name is, where texts are kept by name. -/
def storeKey (name : Value) : Except Failure Key :=
  (SettingsFault.key name).mapError SettingsFault.failure

/-- A storage area of texts by name. -/
inductive KeyValueStore
  | items (entries : List (Key × String))
  | blocked (failure : Failure)
  deriving Repr

namespace KeyValueStore

/-- A storage area of some texts. -/
def ofList (entries : List (String × String)) : KeyValueStore :=
  items (entries.map fun e => (.text e.1, e.2))

def get : KeyValueStore → Value → Except Failure (Option String)
  | items es, name => (storeKey name).map (Entries.get? es)
  | blocked f, _ => .error f

def set : KeyValueStore → Value → String → Except Failure KeyValueStore
  | items es, name, v => (storeKey name).map fun k => items (Entries.put es k v)
  | blocked f, _, _ => .error f

def remove : KeyValueStore → Value → Except Failure KeyValueStore
  | items es, name => (storeKey name).map fun k => items (Entries.erase es k)
  | blocked f, _ => .error f

end KeyValueStore

/-- The cookies of a user agent. `written` lists the headers of the cookies that were set. -/
inductive CookieJar
  | jar (cookies : List (Key × String)) (written : List String)
  | blocked (failure : Failure)
  deriving Repr

namespace CookieJar

/-- A jar to which nothing was written yet. -/
def ofList (cookies : List (String × String)) : CookieJar :=
  jar (cookies.map fun e => (.text e.1, e.2)) []

/-- The header that sets a cookie for the whole site. -/
def header (name : Value) (value : String) (maxAge : Value) (domain : Option String) : String :=
  name.display ++ "=" ++ value ++ "; path=/; max-age=" ++ maxAge.display ++
    "; SameSite=Lax" ++ domain.elim "" fun d => "; domain=" ++ d

/-- The value of a cookie; an empty one is none. -/
def get : CookieJar → Value → Except Failure (Option String)
  | jar cookies _, name => (storeKey name).map fun k => (Entries.get? cookies k).filter (· ≠ "")
  | blocked f, _ => .error f

/-- Sets a cookie; one whose age is not above zero is removed. -/
def set (c : CookieJar) (name : Value) (value : String) (maxAge : Value)
    (domain : Option String) : Except Failure CookieJar :=
  match c with
  | jar cookies written => do
      let isSpent ← (SettingsFault.isAtMostZero maxAge).mapError SettingsFault.failure
      let key ← storeKey name
      let cookies := if isSpent then Entries.erase cookies key else Entries.put cookies key value
      return jar cookies (written ++ [header name value maxAge domain])
  | blocked f => .error f

end CookieJar

/-! ## Context -/

/-- What strategies look at. -/
structure DetectionContext where
  url : String
  languages : List String
  documentLanguage : Option String
  cookies : CookieJar
  localStorage : Option KeyValueStore
  sessionStorage : Option KeyValueStore
  deriving Repr

namespace DetectionContext

def empty : DetectionContext := ⟨"", [], none, .ofList [], none, none⟩

/-- The value of a header, its name being compared in lower case; the last one counts. -/
def header (headers : List (String × String)) (name : String) : String :=
  let lowered := Entries.ofList (headers.map fun h => (Text.lower h.1, h.2))
  (Entries.get? lowered name).getD ""

def ofRequest (url : String) (headers : List (String × String)) : DetectionContext :=
  { empty with
    url := url
    languages := Preference.parse (header headers "accept-language")
    cookies := .ofList (CookieHeader.parse (header headers "cookie")) }

end DetectionContext
end Polyglot
