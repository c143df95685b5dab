import Polyglot.Message.Syntax
import Polyglot.Number.Literal

/-!
# Message parser

Reads a message template. Arguments stand in braces, apostrophes quote syntax characters,
and inside the arms of a plural argument `#` stands for the number. Each function returns
what is left of the input together with a proof that it did not grow, which is why the
parser ends on every input; a failure tells how many characters were left.
-/
namespace Polyglot.Message

/-- Why a text is no message. -/
inductive SyntaxFault
  | unmatchedBrace
  | tooDeep
  | nameExpected
  | separatorExpected
  | typeExpected
  | typeUnknown (kind : String)
  | styleExpected
  | selectorExpected
  | selectorDuplicate (selector : String)
  | otherMissing
  | charExpected (c : Char)
  /-- the offset of a plural argument has more digits than a number may have -/
  | offsetTooLong (digits : Nat)
  deriving DecidableEq, Repr

/-- A failed parse: the cause and the number of characters left where it was found. -/
structure Failed where
  fault : SyntaxFault
  left : Nat
  deriving DecidableEq, Repr

/-- What is left of `cs` after something was read from it. -/
abbrev Shorter (cs : List Char) := { r : List Char // r.length < cs.length }

/-- What is left of `cs` after something, perhaps nothing, was read from it. -/
abbrev NotLonger (cs : List Char) := { r : List Char // r.length ≤ cs.length }

/-- Reads the rest of a quoted run, up to the next lone apostrophe or to the end. -/
def quotedRun : List Char → List Char × List Char
  | [] => ([], [])
  | '\'' :: '\'' :: r => let (q, t) := quotedRun r; ('\'' :: q, t)
  | '\'' :: r => ([], r)
  | c :: r => let (q, t) := quotedRun r; (c :: q, t)

theorem length_quotedRun_le (cs : List Char) : (quotedRun cs).2.length ≤ cs.length := by
  fun_induction quotedRun cs <;> simp_all <;> omega

/-- Whether a character opens a quoted run after an apostrophe. -/
def opensQuote (inPlural : Bool) (c : Char) : Bool :=
  c == '\x7b' || c == '\x7d' || (inPlural && c == '#')

/-- Reads what an apostrophe stands for; the input is what follows it. -/
def quoted (inPlural : Bool) : List Char → List Char × List Char
  | [] => (['\''], [])
  | c :: r =>
      if c = '\'' then (['\''], r)
      else if opensQuote inPlural c then quotedRun (c :: r)
      else (['\''], c :: r)

theorem length_quoted_le (inPlural : Bool) (cs : List Char) :
    (quoted inPlural cs).2.length ≤ cs.length := by
  cases cs with
  | nil => simp [quoted]
  | cons c r =>
    simp only [quoted]
    split
    · simp
    · split
      · exact length_quotedRun_le _
      · simp

/-- The text of a style and the rest: up to the brace that closes the argument. -/
def cutStyle : (depth : Nat) → List Char → List Char × List Char
  | _, [] => ([], [])
  | depth, c :: r =>
      if c = '\x7b' then let (s, t) := cutStyle (depth + 1) r; (c :: s, t)
      else if c = '\x7d' then
        match depth with
        | 0 => ([], c :: r)
        | d + 1 => let (s, t) := cutStyle d r; (c :: s, t)
      else let (s, t) := cutStyle depth r; (c :: s, t)

theorem length_cutStyle_le (depth : Nat) (cs : List Char) :
    (cutStyle depth cs).2.length ≤ cs.length := by
  fun_induction cutStyle depth cs <;> simp_all <;> omega

/-- Reads an optional style: a comma and a text that is not blank. -/
def style (cs : List Char) : Except Failed (Option String × NotLonger cs) :=
  match cs with
  | ',' :: r =>
      let s := Text.trim (cutStyle 0 r).1
      let rest := (cutStyle 0 r).2
      if s.isEmpty then .error ⟨.styleExpected, rest.length⟩
      else .ok (some (String.ofList s),
        ⟨rest, by have := length_cutStyle_le 0 r; simp only [rest, List.length_cons]; omega⟩)
  | cs => .ok (none, ⟨cs, Nat.le_refl _⟩)

/-- Passes over one given character. -/
def expect (c : Char) (cs : List Char) : Except Failed (Shorter cs) :=
  match cs with
  | [] => .error ⟨.charExpected c, 0⟩
  | d :: r => if d = c then .ok ⟨r, by simp⟩ else .error ⟨.charExpected c, (d :: r).length⟩

def dropWord? (word cs : List Char) : Option (List Char) :=
  if word.isPrefixOf cs then some (cs.drop word.length) else none

/-- The digits of an offset at the front, and the rest. -/
def cutOffset? (cs : List Char) : Option (List Char × List Char) :=
  match dropWord? "offset".toList cs with
  | none => none
  | some r =>
      match Text.skipBlanks r with
      | ':' :: r =>
          let r := Text.skipBlanks r
          let ds := r.takeWhile Text.isDigit
          if ds.isEmpty then none else some (ds, r.dropWhile Text.isDigit)
      | _ => none

theorem length_cutOffset?_le {cs ds r : List Char} (h : cutOffset? cs = some (ds, r)) :
    r.length ≤ cs.length := by
  simp only [cutOffset?, dropWord?] at h
  split at h
  · simp at h
  · rename_i t ht
    split at ht
    · simp only [Option.some.injEq] at ht
      subst ht
      split at h
      · rename_i u hu
        split at h
        · simp at h
        · simp only [Option.some.injEq, Prod.mk.injEq] at h
          obtain ⟨-, rfl⟩ := h
          have h1 := (List.dropWhile_suffix (l := Text.skipBlanks u) Text.isDigit).length_le
          have h2 := Text.length_skipBlanks_le u
          have h3 := Text.length_skipBlanks_le (cs.drop "offset".toList.length)
          rw [hu] at h3
          simp only [List.length_cons, List.length_drop] at h3
          omega
      · simp at h
    · simp at ht

/-- Reads an optional offset; without one it is zero. -/
def offset (cs : List Char) : Except Failed (Nat × NotLonger cs) :=
  match h : cutOffset? cs with
  | none => .ok (0, ⟨cs, Nat.le_refl _⟩)
  | some (ds, r) =>
      match Literal.natOfDigits ds with
      | .ok n => .ok (n, ⟨r, length_cutOffset?_le h⟩)
      | .error _ => .error ⟨.offsetTooLong ds.length, cs.length⟩

theorem length_cutMinus_le (cs : List Char) : (cutMinus cs).2.length ≤ cs.length := by
  unfold cutMinus; split <;> simp

theorem length_cutFraction_le (cs : List Char) : (cutFraction cs).2.length ≤ cs.length := by
  unfold cutFraction
  split
  · rename_i r
    split
    · simp
    · have := (List.dropWhile_suffix (l := r) Text.isDigit).length_le
      simp only [List.length_cons]
      omega
  · simp

theorem length_exactSelector?_le {cs : List Char} {p : List Char × List Char}
    (h : exactSelector? cs = some p) : p.2.length ≤ cs.length := by
  unfold exactSelector? at h
  split at h
  · rename_i r
    simp only at h
    split at h
    · simp at h
    · simp only [Option.some.injEq] at h
      subst h
      have h1 := length_cutMinus_le r
      have h2 := (List.dropWhile_suffix (l := (cutMinus r).2) Text.isDigit).length_le
      have h3 := length_cutFraction_le ((cutMinus r).2.dropWhile Text.isDigit)
      simp only [List.length_cons]
      omega
  · simp at h

theorem length_cutSelector_le (cs : List Char) : (cutSelector cs).2.length ≤ cs.length := by
  unfold cutSelector
  split
  · rename_i p hp
    exact length_exactSelector?_le hp
  · exact (List.dropWhile_suffix _).length_le

/-- Passes over blanks and a closing brace. -/
def close (cs : List Char) : Except Failed (Shorter cs) :=
  match expect '\x7d' (Text.skipBlanks cs) with
  | .error e => .error e
  | .ok ⟨r, h⟩ => .ok ⟨r, Nat.lt_of_lt_of_le h (Text.length_skipBlanks_le cs)⟩

/-- The types of arguments. -/
inductive Kind
  | plural (ordinal : Bool)
  | select
  | number
  | moment (kind : DateKind)
  deriving DecidableEq, Repr

def Kind.ofKeyword? : String → Option Kind
  | "plural" => some (.plural false)
  | "selectordinal" => some (.plural true)
  | "select" => some .select
  | "number" => some .number
  | "date" => some (.moment .date)
  | "time" => some (.moment .time)
  | _ => none

/-- The part of an argument up to its closing brace or to the end of its type, and what
is left after it. -/
inductive Head (cs : List Char)
  | simple (name : String) (rest : NotLonger cs)
  | typed (name : String) (kind : Kind) (rest : NotLonger cs)

/-- Reads the type of an argument; the input is what follows the comma after the name. -/
def kind (cs : List Char) : Except Failed (Kind × NotLonger cs) :=
  let start := Text.skipBlanks cs
  let keyword := start.takeWhile isKeywordChar
  let rest := Text.skipBlanks (start.dropWhile isKeywordChar)
  if keyword.isEmpty then .error ⟨.typeExpected, start.length⟩
  else
    match Kind.ofKeyword? (String.ofList keyword) with
    | none => .error ⟨.typeUnknown (String.ofList keyword), rest.length⟩
    | some k =>
        .ok (k, ⟨rest, Nat.le_trans (Text.length_skipBlanks_le _)
          (Nat.le_trans (List.dropWhile_suffix _).length_le (Text.length_skipBlanks_le _))⟩)

/-- Reads the head of an argument; the input is what follows the opening brace. -/
def head (cs : List Char) : Except Failed (Head cs) :=
  let start := Text.skipBlanks cs
  let name := start.takeWhile isNameChar
  if name.isEmpty then .error ⟨.nameExpected, start.length⟩
  else
    match h : Text.skipBlanks (start.dropWhile isNameChar) with
    | [] => .error ⟨.separatorExpected, 0⟩
    | c :: r =>
        have hr : r.length ≤ cs.length := by
          have h1 := Text.length_skipBlanks_le (start.dropWhile isNameChar)
          have h2 := (List.dropWhile_suffix (l := start) isNameChar).length_le
          have h3 : start.length ≤ cs.length := Text.length_skipBlanks_le cs
          rw [h] at h1
          simp only [List.length_cons] at h1
          omega
        if c = '\x7d' then .ok (.simple (String.ofList name) ⟨r, hr⟩)
        else if c = ',' then
          match kind r with
          | .error e => .error e
          | .ok (k, ⟨r1, h1⟩) =>
              .ok (.typed (String.ofList name) k ⟨r1, Nat.le_trans h1 hr⟩)
        else .error ⟨.separatorExpected, (c :: r).length⟩

mutual

/-- Reads a message up to the end of the input or, in an arm, up to the closing brace. -/
def message (levels : Nat) (inPlural nested : Bool) (cs : List Char) :
    Except Failed (List Node × NotLonger cs) :=
  match cs with
  | [] => .ok ([], ⟨[], Nat.le_refl _⟩)
  | c :: r =>
      if c = '\x7b' then
        match argument levels r with
        | .error e => .error e
        | .ok (node, ⟨r1, h1⟩) =>
            match message levels inPlural nested r1 with
            | .error e => .error e
            | .ok (nodes, ⟨r2, h2⟩) =>
                .ok (node :: nodes, ⟨r2, by simp only [List.length_cons]; omega⟩)
      else if c = '\x7d' then
        if nested then .ok ([], ⟨c :: r, Nat.le_refl _⟩)
        else .error ⟨.unmatchedBrace, (c :: r).length⟩
      else if inPlural && c == '#' then
        match message levels inPlural nested r with
        | .error e => .error e
        | .ok (nodes, ⟨r1, h1⟩) =>
            .ok (.pound :: nodes, ⟨r1, by simp only [List.length_cons]; omega⟩)
      else if c = '\'' then
        have hq := length_quoted_le inPlural r
        match message levels inPlural nested (quoted inPlural r).2 with
        | .error e => .error e
        | .ok (nodes, ⟨r1, h1⟩) =>
            .ok (consText (String.ofList (quoted inPlural r).1) nodes,
              ⟨r1, by simp only [List.length_cons]; omega⟩)
      else
        match message levels inPlural nested r with
        | .error e => .error e
        | .ok (nodes, ⟨r1, h1⟩) =>
            .ok (consText (String.singleton c) nodes,
              ⟨r1, by simp only [List.length_cons]; omega⟩)
termination_by cs.length

/-- Reads an argument; the input is what follows its opening brace. -/
def argument (levels : Nat) (cs : List Char) : Except Failed (Node × NotLonger cs) :=
  match levels with
  | 0 => .error ⟨.tooDeep, cs.length⟩
  | inner + 1 =>
      match head cs with
      | .error e => .error e
      | .ok (.simple name ⟨r, h⟩) =>
          .ok (.argument name (String.ofList ('\x7b' :: cs.take (cs.length - r.length))), ⟨r, h⟩)
      | .ok (.typed name (.plural ordinal) ⟨r, h⟩) =>
          match expect ',' r with
          | .error e => .error e
          | .ok ⟨r1, h1⟩ =>
              have h2 := Text.length_skipBlanks_le r1
              match offset (Text.skipBlanks r1) with
              | .error e => .error e
              | .ok (n, ⟨r2, h3⟩) =>
                  match options inner true [] r2 with
                  | .error e => .error e
                  | .ok (arms, ⟨r3, h4⟩) =>
                      match close r3 with
                      | .error e => .error e
                      | .ok ⟨r4, h5⟩ => .ok (.plural name n ordinal arms, ⟨r4, by omega⟩)
      | .ok (.typed name .select ⟨r, h⟩) =>
          match expect ',' r with
          | .error e => .error e
          | .ok ⟨r1, h1⟩ =>
              match options inner false [] r1 with
              | .error e => .error e
              | .ok (arms, ⟨r2, h2⟩) =>
                  match close r2 with
                  | .error e => .error e
                  | .ok ⟨r3, h3⟩ => .ok (.select name arms, ⟨r3, by omega⟩)
      | .ok (.typed name .number ⟨r, h⟩) =>
          match style r with
          | .error e => .error e
          | .ok (s, ⟨r1, h1⟩) =>
              match close r1 with
              | .error e => .error e
              | .ok ⟨r2, h2⟩ => .ok (.number name s, ⟨r2, by omega⟩)
      | .ok (.typed name (.moment k) ⟨r, h⟩) =>
          match style r with
          | .error e => .error e
          | .ok (s, ⟨r1, h1⟩) =>
              match close r1 with
              | .error e => .error e
              | .ok ⟨r2, h2⟩ => .ok (.moment k name s, ⟨r2, by omega⟩)
termination_by cs.length

/-- Reads arms up to the brace that closes the argument. -/
def options (levels : Nat) (inPlural : Bool) (seen : List String) (cs : List Char) :
    Except Failed (List (String × List Node) × NotLonger cs) :=
  have h0 := Text.length_skipBlanks_le cs
  if (Text.skipBlanks cs).isEmpty || (Text.skipBlanks cs).head? == some '\x7d' then
    if seen.contains "other" then .ok ([], ⟨Text.skipBlanks cs, h0⟩)
    else .error ⟨.otherMissing, (Text.skipBlanks cs).length⟩
  else
    have h1 := length_cutSelector_le (Text.skipBlanks cs)
    let selector := String.ofList (cutSelector (Text.skipBlanks cs)).1
    if (cutSelector (Text.skipBlanks cs)).1.isEmpty then
      .error ⟨.selectorExpected, (Text.skipBlanks cs).length⟩
    else if seen.contains selector then
      .error ⟨.selectorDuplicate selector, (cutSelector (Text.skipBlanks cs)).2.length⟩
    else
      have h2 := Text.length_skipBlanks_le (cutSelector (Text.skipBlanks cs)).2
      match expect '\x7b' (Text.skipBlanks (cutSelector (Text.skipBlanks cs)).2) with
      | .error e => .error e
      | .ok ⟨r1, k1⟩ =>
          match message levels inPlural true r1 with
          | .error e => .error e
          | .ok (arm, ⟨r2, k2⟩) =>
              match expect '\x7d' r2 with
              | .error e => .error e
              | .ok ⟨r3, k3⟩ =>
                  match options levels inPlural (selector :: seen) r3 with
                  | .error e => .error e
                  | .ok (arms, ⟨r4, k4⟩) => .ok ((selector, arm) :: arms, ⟨r4, by omega⟩)
termination_by cs.length

end

/-- A message that cannot be read: the cause and the position where it was found. -/
structure SyntaxError where
  fault : SyntaxFault
  position : Nat
  deriving DecidableEq, Repr

/-- Reads a whole message. -/
def parse (source : String) : Except SyntaxError (List Node) :=
  let cs := source.toList
  match message maxNesting false false cs with
  | .error e => .error ⟨e.fault, cs.length - e.left⟩
  | .ok (nodes, _) => .ok nodes

def SyntaxFault.text : SyntaxFault → String
  | unmatchedBrace => "Unmatched '\x7d'"
  | tooDeep => s!"Arguments nested deeper than {maxNesting} levels"
  | nameExpected => "Expected argument name"
  | separatorExpected => "Expected ',' or '\x7d' after argument name"
  | typeExpected => "Expected argument type"
  | typeUnknown kind => s!"Unknown argument type '{kind}'"
  | styleExpected => "Expected argument style"
  | selectorExpected => "Expected selector"
  | selectorDuplicate selector => s!"Duplicate selector '{selector}'"
  | otherMissing => "Missing 'other' option"
  | charExpected c => "Expected '" ++ String.singleton c ++ "'"
  | offsetTooLong digits => Literal.tooLongText digits

def SyntaxError.text (e : SyntaxError) : String := s!"{e.fault.text} at position {e.position}"

end Polyglot.Message
