import Polyglot.Text.Blank

/-!
# Bracketed hosts

What may stand in brackets in place of a host name: an address of 128 bits, with an optional
zone, or an address of a future version.
-/
namespace Polyglot.Url

open Text

def isHex (c : Char) : Bool :=
  ('0' ≤ c && c ≤ '9') || ('a' ≤ c && c ≤ 'f') || ('A' ≤ c && c ≤ 'F')

/-- Whether the text is one of the four numbers of an address of 32 bits. -/
def isOctet (cs : List Char) : Bool :=
  !cs.isEmpty && cs.all (fun c => '0' ≤ c && c ≤ '9') && cs.length ≤ 3 &&
    (cs.length == 1 || cs.head? != some '0') &&
    cs.foldl (fun n c => n * 10 + (c.toNat - 48)) 0 ≤ 255

/-- Whether the text is an address of 32 bits. -/
def isAddress4 (cs : List Char) : Bool :=
  let parts := splitOn '.' cs
  parts.length == 4 && parts.all isOctet

/-- Whether the text is one of the numbers of an address of 128 bits. -/
def isGroup (cs : List Char) : Bool := cs.length ≤ 4 && cs.all isHex

/-- Whether groups, separated by colons, are an address of 128 bits. An empty group inside
stands for all groups that are missing; at an end a group is empty only beside one. -/
def areGroups (parts : List (List Char)) : Bool :=
  let inner := parts.tail.dropLast
  let count := parts.length
  match inner.findIdx? List.isEmpty with
  | none =>
      count == 8 && parts.all fun p => !p.isEmpty && isGroup p
  | some k =>
      let high := k + 1
      let low := count - high - 1
      let openFront := parts.head?.any List.isEmpty
      let openBack := parts.getLast?.any List.isEmpty
      let high' := if openFront then high - 1 else high
      let low' := if openBack then low - 1 else low
      (inner.filter List.isEmpty).length == 1 && (!openFront || high' == 0) &&
        (!openBack || low' == 0) && high' + low' < 8 && parts.all isGroup

/-- Whether the text is an address of 128 bits without a zone. The last two groups may be
written as an address of 32 bits. -/
def isAddress6 (cs : List Char) : Bool :=
  let parts := splitOn ':' cs
  let last := parts.getLast?.getD []
  if parts.length < 3 then false
  else if last.contains '.' then
    let parts := parts.dropLast ++ [['0'], ['0']]
    isAddress4 last && parts.length ≤ 9 && areGroups parts
  else parts.length ≤ 9 && areGroups parts

/-- Whether the text is an address of a future version: `v`, hexadecimal digits, a point and
more. -/
def isFutureAddress (cs : List Char) : Bool :=
  match cs with
  | 'v' :: r =>
      let digits := r.takeWhile isHex
      match r.drop digits.length with
      | '.' :: t => !digits.isEmpty && !t.isEmpty
      | _ => false
  | _ => false

/-- Whether the text may stand in brackets. -/
def isBracketed (cs : List Char) : Bool :=
  if cs.head? = some 'v' then isFutureAddress cs
  else
    match cutAt '%' cs with
    | (address, none) => isAddress6 address
    | (address, some zone) => !zone.isEmpty && !zone.contains '%' && isAddress6 address

end Polyglot.Url
