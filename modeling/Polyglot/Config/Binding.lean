import Polyglot.Config.Basic
import Polyglot.Number.Basic
import Polyglot.Number.Literal

/-!
# Binding

Fills the fields of a settings record from a section of the configuration. A variable of the
environment takes precedence over the value of a field, and a field without a value keeps its
default. Texts are read as numbers or truth values where the field is one; other values are
taken as they are. A checked record is filled from the section alone and must fit its fields.
-/
namespace Polyglot.Config

inductive FieldKind
  | text
  | whole
  | number
  | truth
  /-- lists, mappings and optional values: what is there is taken as it is -/
  | other
  deriving DecidableEq, Repr

/-- A field of a record; one without a default must have a value. -/
structure Field where
  name : String
  kind : FieldKind
  default : Option Value
  deriving Repr

/-- A record of settings: the section that it is bound to and its fields. -/
structure Schema where
  name : String
  location : Option String
  isChecked : Bool
  fields : List Field
  deriving Repr

/-- Why a record cannot be filled. -/
inductive BindFault
  /-- the record belongs to no section -/
  | unbound (record : String)
  | placeholder (fault : PlaceholderFault)
  | notWhole (text : String) (fault : Literal.IntFault)
  | notNumber (text : String)
  /-- a field without a default has no value -/
  | missing (field : String)
  /-- a checked record does not fit -/
  | invalid (record location : String)
  deriving DecidableEq, Repr

/-- The first line of the text of a failure, if the library gives one. -/
def BindFault.text? : BindFault → Option String
  | unbound r => some (r ++ " is not decorated with @config_properties")
  | placeholder f => some f.text
  | notWhole t .malformed =>
      some ("invalid literal for int() with base 10: " ++
        String.ofList ((Text.quoted t.toList).take 200))
  | notWhole _ (.tooLong n) => some (Literal.tooLongText n)
  | notNumber t => some ("could not convert string to float: " ++ Text.quotedString t)
  | missing _ => none
  | invalid r l =>
      some ("Configuration validation failed for '" ++ r ++ "' (prefix='" ++ l ++ "'):")

/-! ## Records whose values are taken -/

def trueWords : List String := ["true", "1", "yes"]

def readText (kind : FieldKind) (t : String) : Except BindFault Value :=
  match kind with
  | .whole =>
      match Literal.int t.toList with
      | .ok n => .ok (.int n)
      | .error f => .error (.notWhole t f)
  | .number =>
      match Literal.binary64? t.toList with
      | some x => .ok (.float x)
      | none => .error (.notNumber t)
  | .truth => .ok (.bool (trueWords.contains (Text.lower t)))
  | _ => .ok (.text t)

/-- What a field becomes of a value: placeholders of a text are resolved before it is read. -/
def coerce (c : Config) (env : Environment) (kind : FieldKind) (v : Value) :
    Except BindFault Value :=
  match v with
  | .text t =>
      if mayRefer t then
        match resolve env c.data t with
        | .ok t => readText kind t
        | .error f => .error (.placeholder f)
      else readText kind t
  | v => .ok v

/-- The value that the environment or the section holds for a field; null is none. -/
def given? (env : Environment) (location : String) (entries : Bundle) (name : String) :
    Option Value :=
  match Entries.get? env (variableOf (location ++ "." ++ name)) with
  | some t => some (.text t)
  | none =>
      match Entries.get? entries name with
      | some .null => none
      | v => v

/-- The given values of fields, as far as there are any. -/
def givenFields (c : Config) (env : Environment) (location : String) (entries : Bundle) :
    List Field → Except BindFault Bundle
  | [] => .ok []
  | f :: rest =>
      match given? env location entries f.name with
      | none => givenFields c env location entries rest
      | some v => do
          let v ← coerce c env f.kind v
          let more ← givenFields c env location entries rest
          .ok ((f.name, v) :: more)

/-- All fields, those without a given value with their default. -/
def complete (given : Bundle) : List Field → Except BindFault Bundle
  | [] => .ok []
  | f :: rest =>
      match (Entries.get? given f.name <|> f.default : Option Value) with
      | none => .error (.missing f.name)
      | some v => (complete given rest).map fun es => (f.name, v) :: es

/-! ## Checked records -/

/-- A text without its single underscores between other characters, if it has such and no
others. -/
def withoutUnderscores? (cs : List Char) : Option (List Char) :=
  if cs.head? = some '_' || cs.getLast? = some '_' || Text.contains ['_', '_'] cs ||
      !cs.contains '_' then none
  else some (cs.filter (· ≠ '_'))

/-- Reads a number in the notation of checked records: the digits are those of ASCII, and blanks
or underscores may stand in it, but not both. -/
def strictNumber? (t : String) : Option Binary64 :=
  let read (cs : List Char) : Option Binary64 :=
    if cs.all (fun c => c.toNat < 128) && !cs.contains '_' && cs == Literal.trimPadding cs then
      Literal.binary64? cs
    else none
  read (Literal.trimPadding t.toList) <|> (withoutUnderscores? t.toList).bind read

/-- The binary64 number nearest to a decimal one; a signaling NaN has none. -/
def nearest? : Decimal → Option Binary64
  | .finite s c e => some (Literal.Parts.toBinary64 ⟨s, Text.natDigits c, [], e⟩)
  | .infinity s => some (.infinity s)
  | .nan _ signaling _ => if signaling then none else some .nan

/-- The value of a field of a checked record, if it fits. -/
def checked? (kind : FieldKind) (v : Value) : Option Value :=
  match kind, v with
  | .text, .text t => some (.text t)
  | .number, .float x => some (.float x)
  | .number, .int n => (Binary64.ofInt? n).map Value.float
  | .number, .bool b => some (.float (.ofRatio false (if b then 1 else 0) 1))
  | .number, .decimal d => (nearest? d).map Value.float
  | .number, .text t => (strictNumber? t).map Value.float
  | .other, v => some v
  | _, _ => none

/-- All fields of a checked record, if they fit. -/
def checkFields? (entries : Bundle) : List Field → Option Bundle
  | [] => some []
  | f :: rest =>
      let v : Option Value :=
        match Entries.get? entries f.name with
        | some v => checked? f.kind v
        | none => f.default
      match v, checkFields? entries rest with
      | some v, some es => some ((f.name, v) :: es)
      | _, _ => none

/-! ## Binding -/

def bind (c : Config) (env : Environment) (s : Schema) : Except BindFault Bundle :=
  match s.location with
  | none => .error (.unbound s.name)
  | some location =>
      let entries := sectionAt c.data location
      if s.isChecked then
        match checkFields? entries s.fields with
        | some es => .ok es
        | none => .error (.invalid s.name location)
      else do
        let given ← givenFields c env location entries s.fields
        complete given s.fields

end Polyglot.Config
