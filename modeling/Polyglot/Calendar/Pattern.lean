import Polyglot.Calendar.Moment
import Polyglot.Locale.Data
import Polyglot.Text.Quoted

/-!
# Date patterns

A date pattern such as `EEE, d MMM` is a text in which runs of one letter are fields and
quoted parts are literal. A field is printed from a day, a time of day or an offset; a
pattern that asks for a part that is not there cannot be printed.
-/
namespace Polyglot

/-- A part of a date pattern. -/
inductive DateToken
  | literal (text : List Char)
  | field (letter : Char) (count : Nat)
  deriving DecidableEq, Repr

/-- Why a date cannot be printed. -/
inductive DateFault
  /-- a field has a length that it may not have -/
  | badLength (letter : Char) (count : Nat)
  /-- the pattern asks a time for a part of the day, or a day for a part of the time -/
  | missingPart (letter : Char)
  /-- the day of the year is asked of a time -/
  | wrongKind (letter : Char)
  /-- the locale has no names for the field -/
  | noNames (letter : Char)
  /-- the fraction of a second has too many places -/
  | tooManyPlaces
  /-- the week of the day belongs to a year that is out of range -/
  | yearOutOfRange
  /-- the locale has no pattern with these fields -/
  | noSkeleton (skeleton : String)
  deriving DecidableEq, Repr

namespace DatePattern

/-- The letters of fields, each with the lengths a field may have; none means any. -/
def fieldLengths : List (Char × List Nat) := [
  ('G', [1, 2, 3, 4, 5]), ('y', []), ('Y', []), ('u', []), ('Q', [1, 2, 3, 4, 5]),
  ('q', [1, 2, 3, 4, 5]), ('M', [1, 2, 3, 4, 5]), ('L', [1, 2, 3, 4, 5]), ('w', [1, 2]),
  ('W', [1]), ('d', [1, 2]), ('D', [1, 2, 3]), ('F', [1]), ('g', []),
  ('E', [1, 2, 3, 4, 5, 6]), ('e', [1, 2, 3, 4, 5, 6]), ('c', [1, 3, 4, 5, 6]),
  ('a', [1, 2, 3, 4, 5]), ('b', [1, 2, 3, 4, 5]), ('B', [1, 2, 3, 4, 5]), ('h', [1, 2]),
  ('H', [1, 2]), ('K', [1, 2]), ('k', [1, 2]), ('m', [1, 2]), ('s', [1, 2]), ('S', []),
  ('A', []), ('z', [1, 2, 3, 4]), ('Z', [1, 2, 3, 4, 5]), ('O', [1, 4]), ('v', [1, 4]),
  ('V', [1, 2, 3, 4]), ('x', [1, 2, 3, 4, 5]), ('X', [1, 2, 3, 4, 5])]

def isFieldLetter (c : Char) : Bool := fieldLengths.any (·.1 == c)

def lengthAllowed (c : Char) (n : Nat) : Bool :=
  match fieldLengths.lookup c with
  | some ls => ls.isEmpty || ls.contains n
  | none => false

/-- A character of a pattern after two apostrophes in a row have become one literal one; so does
a zero character. -/
inductive Unit
  | apostrophe
  | quote
  | plain (c : Char)
  deriving DecidableEq, Repr

def units : List Char → List Unit
  | [] => []
  | '\x00' :: r => .apostrophe :: units r
  | '\'' :: '\'' :: r => .apostrophe :: units r
  | '\'' :: r => .quote :: units r
  | c :: r => .plain c :: units r

def Unit.char : Unit → Char
  | apostrophe => '\''
  | quote => '\''
  | plain c => c

/-- The text up to the closing quote and what follows it; none when no quote follows. -/
def cutQuoted : List Unit → Option (List Char × List Unit)
  | [] => none
  | .quote :: r => some ([], r)
  | u :: r => (cutQuoted r).map fun (cs, t) => (u.char :: cs, t)

theorem length_cutQuoted_le {us : List Unit} {p : List Char × List Unit}
    (h : cutQuoted us = some p) : p.2.length ≤ us.length := by
  fun_induction cutQuoted us generalizing p with
  | case1 => simp at h
  | case2 r => simp only [Option.some.injEq] at h; subst h; simp
  | case3 u r _ ih =>
    simp only [Option.map_eq_some_iff] at h
    obtain ⟨q, hq, rfl⟩ := h
    have := ih hq
    simp only [List.length_cons]
    omega

/-- Adds a field letter in front: it joins a field of the same letter. -/
def consField (c : Char) : List DateToken → List DateToken
  | .field d n :: r => if c = d then .field d (n + 1) :: r else .field c 1 :: .field d n :: r
  | ts => .field c 1 :: ts

/-- The tokens of a pattern. A quoted part without a closing quote is dropped. -/
def tokens (us : List Unit) : List DateToken :=
  match us with
  | [] => []
  | .apostrophe :: r => .literal ['\''] :: tokens r
  | .quote :: r =>
      match h : cutQuoted r with
      | none => []
      | some (cs, t) =>
          have : t.length ≤ r.length := length_cutQuoted_le h
          .literal cs :: tokens t
  | .plain c :: r => if isFieldLetter c then consField c (tokens r) else .literal [c] :: tokens r
termination_by us.length
decreasing_by
  all_goals
    simp only [List.length_cons]
    omega

/-- Reads a pattern; every field must have a length that it may have. -/
def parse (pattern : String) : Except DateFault (List DateToken) :=
  let ts := tokens (units pattern.toList)
  match ts.findSome? fun t =>
      match t with
      | .field c n => if lengthAllowed c n then none else some (DateFault.badLength c n)
      | .literal _ => none with
  | some e => .error e
  | none => .ok ts

/-- What a pattern prints: a day, a time of day or both, and an offset from universal time
in microseconds. -/
structure Subject where
  date : Option Date
  clock : Option Clock
  offset : Int
  deriving DecidableEq, Repr

def Subject.ofDate (d : Date) : Subject := ⟨some d, none, 0⟩

/-- The time of day of a moment; a moment without an offset is in universal time. -/
def Subject.timeOf (m : Moment) : Subject := ⟨none, some m.clock, m.offset.getD 0⟩

/-- A moment; one without an offset is in universal time. -/
def Subject.ofMoment (m : Moment) : Subject := ⟨some m.date, some m.clock, m.offset.getD 0⟩

def number (width n : Nat) : List Char := Text.padZeros width (Text.natDigits n)

def name (letter : Char) (names : List String) (k : Nat) : Except DateFault (List Char) :=
  match names[k]? with
  | some s => .ok s.toList
  | none => .error (.noNames letter)

/-- A whole number of at least two digits with a sign in front. -/
def signedHours (h : Int) : List Char := (if h < 0 then '-' else '+') :: number 2 h.natAbs

/-- The offset as hours and minutes; both are rounded down to whole ones. -/
def offsetDigits (separator : List Char) (micros : Int) : List Char :=
  let seconds := Int.fdiv micros 1000000
  let hours := Int.fdiv seconds 3600
  let minutes := (Int.fmod seconds 3600).toNat / 60
  signedHours hours ++ separator ++ number 2 minutes

/-- The fraction of a second, rounded to so many digits. -/
def fractionDigits (places micro : Nat) : Except DateFault (List Char) :=
  match Binary64.ofInt? (Nat.pow 10 places) with
  | none => .error .tooManyPlaces
  | some unit =>
      let seconds := Binary64.ofRatio false micro 1000000
      let scaled := Binary64.mul (seconds.roundTo places) unit
      .ok (number places ((scaled.truncate?).getD 0).toNat)

/-- A name in the length that so many letters ask for. -/
def widthOf (count : Nat) (names : NameWidths) : String :=
  if count ≤ 3 then names.short else if count = 4 then names.long else names.narrow

def dateField (cal : CalendarData) (week : WeekRule) (letter : Char) (count : Nat) (d : Date) :
    Except DateFault (List Char) :=
  let ofYear (year : Nat) : List Char :=
    let ds := number count year
    if count = 2 then ds.drop (ds.length - 2) else ds
  let named (short long narrow : List String) (k : Nat) : Except DateFault (List Char) :=
    name letter (if count ≤ 3 then short else if count = 4 then long else narrow) k
  match letter with
  | 'G' => named cal.erasShort cal.erasLong cal.erasNarrow 1
  | 'y' | 'u' => .ok (ofYear d.year)
  | 'Y' => (week.yearOf? d).elim (.error .yearOutOfRange) fun y => .ok (ofYear y)
  | 'Q' | 'q' =>
      let quarter := (d.month - 1) / 3
      if count ≤ 2 then .ok (number count (quarter + 1))
      else named cal.quartersShort cal.quartersLong ["1", "2", "3", "4"] quarter
  | 'M' =>
      if count ≤ 2 then .ok (number count d.month)
      else named cal.monthsShort cal.monthsLong cal.monthsNarrow (d.month - 1)
  | 'L' =>
      if count ≤ 2 then .ok (number count d.month)
      else named cal.monthsAloneShort cal.monthsAloneLong cal.monthsNarrow (d.month - 1)
  | 'w' =>
      (week.weekOfYear? d).elim (.error .yearOutOfRange) fun w => .ok (number count w)
  | 'W' => .ok (number 1 (week.weekOfMonth d))
  | 'd' => .ok (number count d.day)
  | 'D' => .ok (number count d.dayOfYear)
  | 'F' => .ok (number 1 ((d.day - 1) / 7 + 1))
  | 'E' =>
      if count = 6 then name letter cal.daysBrief d.weekday
      else named cal.daysShort cal.daysLong cal.daysNarrow d.weekday
  | 'e' =>
      if count ≤ 2 then .ok (number count (week.dayOfWeek d))
      else if count = 6 then name letter cal.daysBrief d.weekday
      else named cal.daysShort cal.daysLong cal.daysNarrow d.weekday
  | 'c' =>
      if count ≤ 2 then .ok (number count (week.dayOfWeek d))
      else if count = 6 then name letter cal.daysBrief d.weekday
      else named cal.daysAloneShort cal.daysLong cal.daysAloneNarrow d.weekday
  | _ => .error (.noNames letter)

/-- Whether a time of day belongs to a part of the day. A part may reach over midnight. -/
def includes (p : DayPart) (c : Clock) : Bool :=
  let minute := c.hour * 60 + c.minute
  if p.start = p.stop then minute == p.start && c.second == 0
  else if p.start < p.stop then p.start ≤ minute && minute < p.stop
  else p.start ≤ minute || minute < p.stop

def halfName (cal : CalendarData) (letter : Char) (count : Nat) (c : Clock) :
    Except DateFault (List Char) :=
  name letter (if count = 5 then cal.halvesNarrow else cal.halves) (if 12 ≤ c.hour then 1 else 0)

/-- Prints a field of a time of day. -/
def clockField (cal : CalendarData) (letter : Char) (count : Nat) (c : Clock) :
    Except DateFault (List Char) :=
  match letter with
  | 'a' => halfName cal letter count c
  | 'b' | 'B' =>
      match cal.dayParts.find? (includes · c) with
      | some p => .ok (widthOf count (if letter = 'B' then p.beside else p.alone)).toList
      | none => halfName cal letter count c
  | 'h' => .ok (number count (if c.hour % 12 = 0 then 12 else c.hour % 12))
  | 'H' => .ok (number count c.hour)
  | 'K' => .ok (number count (c.hour % 12))
  | 'k' => .ok (number count (if c.hour = 0 then 24 else c.hour))
  | 'm' => .ok (number count c.minute)
  | 's' => .ok (number count c.second)
  | 'S' => fractionDigits count c.micro
  | 'A' => .ok (number count (((c.hour * 60 + c.minute) * 60 + c.second) * 1000 + c.micro / 1000))
  | _ => .error (.noNames letter)

/-! ## Zones -/

/-- Whether an offset counts as none; parts of a second do not count. -/
def isUniversal (offset : Int) : Bool := Int.fdiv offset 1000000 == 0

def markedOffset (cal : CalendarData) (offset : Int) : List Char :=
  cal.offsetMark.toList ++ offsetDigits [':'] offset

/-- Prints the name of the zone, which only universal time has, or the offset. -/
def zoneName (cal : CalendarData) (count : Nat) (offset : Int) : List Char :=
  if offset = 0 then (if count ≤ 3 then cal.universalShort else cal.universalLong).toList
  else if count ≤ 3 then offsetDigits [] offset
  else markedOffset cal offset

def zoneOffset (cal : CalendarData) (count : Nat) (offset : Int) : List Char :=
  if count ≤ 3 then offsetDigits [] offset
  else if count = 4 then markedOffset cal offset
  else if isUniversal offset then ['Z'] else offsetDigits [':'] offset

/-- Prints the offset in one of the forms of ISO 8601: without minutes where there are none,
without a colon or with one. -/
def isoOffset (count : Nat) (offset : Int) : List Char :=
  if count = 1 ∧ Int.fmod (Int.fdiv offset 1000000) 3600 = 0 then
    signedHours (Int.fdiv (Int.fdiv offset 1000000) 3600)
  else offsetDigits (if count = 3 ∨ count = 5 then [':'] else []) offset

/-- The name of a zone with an offset: `UTC`, a sign, hours and minutes, and seconds and
microseconds where there are any. -/
def zoneId (offset : Int) : List Char :=
  if offset = 0 then "UTC".toList
  else
    let micros := offset.natAbs
    let seconds := micros / 1000000
    let rest := if micros % 1000000 = 0 then [] else '.' :: number 6 (micros % 1000000)
    let tail :=
      if seconds % 60 = 0 ∧ rest.isEmpty then [] else ':' :: number 2 (seconds % 60) ++ rest
    "UTC".toList ++ (if offset < 0 then '-' else '+') :: number 2 (seconds / 3600) ++
      ':' :: number 2 (seconds / 60 % 60) ++ tail

/-- The place that stands for a zone; no zone with a fixed offset has a known region. -/
def zonePlace (cal : CalendarData) (offset : Int) : List Char :=
  cal.zoneFront.toList ++ zoneId offset ++ cal.zoneBack.toList

/-- Prints a field of a zone. The short form behind the mark of the locale is not known. -/
def zoneField (cal : CalendarData) (letter : Char) (count : Nat) (offset : Int) : List Char :=
  match letter with
  | 'z' => zoneName cal count offset
  | 'Z' => zoneOffset cal count offset
  | 'O' => if count = 4 then markedOffset cal offset else "None".toList
  | 'X' => if isUniversal offset then ['Z'] else isoOffset count offset
  | 'x' => isoOffset count offset
  | 'V' =>
      if count = 2 then (if offset = 0 then "Etc/UTC".toList else zoneId offset)
      else if count = 3 then zoneId offset
      else zonePlace cal offset
  | _ => zonePlace cal offset

/-- The letters that print a part of the day. -/
def isDateLetter (c : Char) : Bool := "GyYuQqMLwWdDFEec".toList.contains c

/-- The letters that print an offset in digits; a day has the offset of universal time. -/
def isOffsetLetter (c : Char) : Bool := "ZOxX".toList.contains c

def isZoneLetter (c : Char) : Bool := isOffsetLetter c || "zvV".toList.contains c

def field (cal : CalendarData) (week : WeekRule) (letter : Char) (count : Nat) (s : Subject) :
    Except DateFault (List Char) :=
  if letter = 'g' then .error (.noNames letter)
  else if isDateLetter letter then
    match s.date with
    | some d => dateField cal week letter count d
    | none =>
        .error (if letter = 'D' ∨ letter = 'w' then .wrongKind letter else .missingPart letter)
  else if isOffsetLetter letter then .ok (zoneField cal letter count s.offset)
  else
    match s.clock with
    | none => .error (.missingPart letter)
    | some c =>
        if isZoneLetter letter then .ok (zoneField cal letter count s.offset)
        else clockField cal letter count c

/-- Prints the tokens in order. -/
def render (cal : CalendarData) (week : WeekRule) (s : Subject) :
    List DateToken → Except DateFault (List Char)
  | [] => .ok []
  | .literal cs :: ts => (render cal week s ts).map (cs ++ ·)
  | .field c n :: ts =>
      match field cal week c n s with
      | .error e => .error e
      | .ok cs => (render cal week s ts).map (cs ++ ·)

def print (cal : CalendarData) (week : WeekRule) (pattern : String) (s : Subject) :
    Except DateFault String :=
  match parse pattern with
  | .error e => .error e
  | .ok ts => (render cal week s ts).map String.ofList

/-! ## Skeletons -/

/-- How long the fields of a skeleton are; of fields with one letter the last one counts. -/
def fieldCounts (skeleton : String) : List (Char × Nat) :=
  ((tokens (units skeleton.toList)).filterMap fun t =>
    match t with
    | .field c n => some (c, n)
    | .literal _ => none).reverse

/-- How far two lengths of one field are apart. Months in words are far from months in digits. -/
def fieldDistance (letter : Char) (wanted offered : Nat) : Nat :=
  if letter = 'M' ∧ (decide (2 < wanted) != decide (2 < offered)) then 256
  else (wanted - offered) + (offered - wanted)

/-- How far two skeletons are apart, if they have the same letters. -/
def distance? (wanted offered : List (Char × Nat)) : Option Nat :=
  fieldLengths.foldl (fun acc f =>
    match acc with
    | none => none
    | some d =>
        let a := (wanted.lookup f.1).getD 0
        let b := (offered.lookup f.1).getD 0
        if a = b then some d
        else if a = 0 ∨ b = 0 then none
        else some (d + fieldDistance f.1 a b)) (some 0)

/-- Letters that a locale may lack, and what takes their place. -/
def substitutes : List (Char × List Char) :=
  [('z', ['v']), ('k', ['H']), ('K', ['h']), ('a', []), ('b', [])]

/-- The skeleton with letters that no skeleton of the locale has replaced. -/
def substitute (offered : List String) (skeleton : List Char) : List Char :=
  substitutes.foldl (fun cs s =>
    if offered.any (·.toList.contains s.1) then cs
    else cs.flatMap fun c => if c = s.1 then s.2 else [c]) skeleton

/-- The closest skeleton that is offered, the first of those that are equally close. -/
def closest? (offered : List String) (skeleton : String) : Option String :=
  let wanted := fieldCounts (String.ofList (substitute offered skeleton.toList))
  let best := offered.foldl (fun (acc : Option (String × Nat)) s =>
    match distance? wanted (fieldCounts s) with
    | none => acc
    | some d =>
        match acc with
        | none => some (s, d)
        | some (t, e) => if d < e then some (s, d) else some (t, e)) none
  best.map (·.1)

/-- The pattern of a skeleton: its own, or that of the closest one. -/
def ofSkeleton (cal : CalendarData) (skeleton : String) : Except DateFault String :=
  match cal.skeletons.lookup skeleton with
  | some p => .ok p
  | none =>
      match closest? (cal.skeletons.map (·.1)) skeleton with
      | some s => .ok ((cal.skeletons.lookup s).getD "")
      | none => .error (.noSkeleton skeleton)

end DatePattern
end Polyglot
