import Polyglot.Config.Layer
import Polyglot.Value.Text

/-!
# Placeholders

A text may refer to other values by `$` and a name in braces. The name is looked up among the
variables of the environment, then in the configuration; after a colon in the braces stands
what to use when neither has it. The text of a configured value may refer to others in turn,
up to a limit that a circle of references runs into.
-/
namespace Polyglot.Config

open Text

abbrev Environment := List (String × String)

/-- Why placeholders cannot be resolved. -/
inductive PlaceholderFault
  /-- the references go too deep; the text is the one that was reached -/
  | tooDeep (text : String)
  | unresolved (reference : String)
  /-- a number has too many digits to be written -/
  | numberTooLong
  deriving DecidableEq, Repr

def PlaceholderFault.text : PlaceholderFault → String
  | tooDeep t =>
      "Max recursion depth exceeded resolving placeholders in '" ++ t ++
        "'. Check for circular references."
  | unresolved r =>
      "Cannot resolve placeholder '$\x7b" ++ r ++ "\x7d': not found in environment or config"
  | numberTooLong => Literal.tooWideText

/-- A piece of a text: a character or what stands in the braces of a placeholder. -/
inductive Piece
  | char (c : Char)
  | reference (inner : List Char)
  deriving DecidableEq, Repr

/-- What stands in braces at the front, if it is not empty, and the rest. -/
def braced? : List Char → Option (List Char × List Char)
  | '\x7b' :: r =>
      match cutAt '\x7d' r with
      | (c :: inner, some rest) => some (c :: inner, rest)
      | _ => none
  | _ => none

theorem length_cutAt_lt {sep : Char} {cs front rest : List Char}
    (h : cutAt sep cs = (front, some rest)) : rest.length < cs.length := by
  induction cs generalizing front with
  | nil => simp [cutAt] at h
  | cons c r ih =>
    rw [cutAt] at h
    split at h
    · cases h; simp
    · obtain ⟨-, h2⟩ := Prod.mk.inj h
      have := @ih (cutAt sep r).1 (Prod.ext rfl h2)
      simp only [List.length_cons]; omega

theorem length_braced?_lt {cs : List Char} {p : List Char × List Char} (h : braced? cs = some p) :
    p.2.length < cs.length := by
  unfold braced? at h
  split at h
  · rename_i r
    split at h
    · rename_i c inner rest heq
      cases h
      have := length_cutAt_lt heq
      simp only [List.length_cons]; omega
    · cases h
  · cases h

def pieces (cs : List Char) : List Piece :=
  match cs with
  | [] => []
  | c :: r =>
      if c = '$' then
        match h : braced? r with
        | some (inner, rest) =>
            have : rest.length < r.length := length_braced?_lt h
            .reference inner :: pieces rest
        | none => .char c :: pieces r
      else .char c :: pieces r
termination_by cs.length

/-- Whether a text holds the beginning of a placeholder. -/
def mayRefer (s : String) : Bool := contains ['$', '\x7b'] s.toList

/-- How many levels of references are followed. -/
def maxDepth : Nat := 11

/-- What a reference stands for: the text of a variable, the text of a configured value,
which may refer to others, or what is given after the colon. -/
inductive Target
  | verbatim (text : String)
  | configured (text : String)
  /-- a configured value that has no text -/
  | unwritable
  | missing
  deriving DecidableEq, Repr

def target (env : Environment) (data : Bundle) (inner : List Char) : Target :=
  let (name, instead) := cutAt ':' inner
  let key := String.ofList name
  match Entries.get? env key with
  | some t => .verbatim t
  | none =>
      match find? data key with
      | some v => if v.isWritable then .configured v.display else .unwritable
      | none =>
          match instead with
          | some t => .verbatim (String.ofList t)
          | none => .missing

/-- Resolves the placeholders of a text, following references to the given depth. -/
def resolveTo (env : Environment) (data : Bundle) (depth : Nat) (s : String) :
    Except PlaceholderFault String :=
  match depth with
  | 0 => .error (.tooDeep s)
  | depth + 1 =>
      let replace (p : Piece) : Except PlaceholderFault String :=
        match p with
        | .char c => .ok (String.singleton c)
        | .reference inner =>
            match target env data inner with
            | .verbatim t => .ok t
            | .configured t => if mayRefer t then resolveTo env data depth t else .ok t
            | .unwritable => .error .numberTooLong
            | .missing => .error (.unresolved (String.ofList inner))
      ((pieces s.toList).mapM replace).map String.join

def resolve (env : Environment) (data : Bundle) (s : String) : Except PlaceholderFault String :=
  resolveTo env data maxDepth s

end Polyglot.Config
