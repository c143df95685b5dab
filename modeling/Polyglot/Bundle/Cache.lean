import Polyglot.Bundle.Basic
import Polyglot.Number.Duration

/-!
# Bundle cache

Keeps bundles by language and namespace for a limited time. Entries are ordered from the
one that was used longest ago to the one that was used last. An entry may be read while the
clock is before its end; an expired entry goes when it is read. Storing a new key in a full
cache drops the entry that was used longest ago.
-/
namespace Polyglot

/-- A kept bundle and its times. -/
structure CacheEntry where
  bundle : Bundle
  createdAt : Number
  expiresAt : Number
  lastUsed : Number
  deriving Repr

/-- Whether an entry may still be read. -/
def CacheEntry.isFresh (e : CacheEntry) (now : Number) : Bool := !Number.le e.expiresAt now

structure BundleCache where
  lifetime : Number
  /-- how many entries are kept, if there is a limit -/
  capacity : Option Nat
  entries : List (Key × CacheEntry)
  deriving Repr

/-- The key of a language and a namespace; an empty namespace is none. -/
def cacheKey (language : Key) (space : Option Key) : Key :=
  match space.bind Key.name? with
  | none => language
  | some n => .text (language.display ++ keyDelimiter ++ n)

namespace BundleCache

/-- How many entries a cache keeps unless it is told otherwise. -/
def defaultCapacity : Nat := 50

/-- How long an entry may be read unless a cache is told otherwise: five minutes. -/
def defaultLifetime : Duration := ⟨300000000⟩

def create (lifetime : Duration) (capacity : Option Nat) : BundleCache :=
  ⟨.float lifetime.seconds, capacity, []⟩

/-- The cache unless another one is given. -/
def usual : BundleCache := create defaultLifetime (some defaultCapacity)

def size (c : BundleCache) : Nat := c.entries.length

/-- Puts an entry at the end, where the entries that were used last are. -/
def touch (entries : List (Key × CacheEntry)) (key : Key) (e : CacheEntry) :
    List (Key × CacheEntry) :=
  Entries.erase entries key ++ [(key, e)]

/-- Reads a bundle. Reading counts as use; an expired entry is dropped. -/
def get (c : BundleCache) (now : Number) (language : Key) (space : Option Key) :
    BundleCache × Option Bundle :=
  let key := cacheKey language space
  match Entries.get? c.entries key with
  | none => (c, none)
  | some e =>
      if e.isFresh now then
        ({ c with entries := touch c.entries key { e with lastUsed := now } }, some e.bundle)
      else ({ c with entries := Entries.erase c.entries key }, none)

/-- Whether there is no room for another entry. -/
def isFull (c : BundleCache) : Bool := c.capacity.any fun n => n ≤ c.entries.length

/-- Makes room for a key: a new key in a full cache drops the first entry. -/
def makeRoom (c : BundleCache) (key : Key) : List (Key × CacheEntry) :=
  if Entries.has c.entries key then c.entries
  else if c.isFull then c.entries.drop 1
  else c.entries

theorem makeRoom_sublist (c : BundleCache) (key : Key) :
    (c.makeRoom key).Sublist c.entries := by
  unfold makeRoom
  split
  · exact List.Sublist.refl _
  · split
    · exact List.drop_sublist _ _
    · exact List.Sublist.refl _

/-- What storing a bundle leads to: the cache, and whether the bundle is in it. -/
structure Stored where
  cache : BundleCache
  isStored : Bool

/-- Stores a bundle. Where its end is beyond the numbers that a clock can show it is not stored,
although room was made for it. -/
def set (c : BundleCache) (now : Number) (language : Key) (space : Option Key)
    (bundle : Bundle) : Stored :=
  let key := cacheKey language space
  let entries := c.makeRoom key
  match now.add? c.lifetime with
  | none => ⟨{ c with entries := entries }, false⟩
  | some expiry =>
      ⟨{ c with entries := touch entries key ⟨bundle, now, expiry, now⟩ }, true⟩

def clear (c : BundleCache) : BundleCache := { c with entries := [] }

/-- Whether a key belongs to a language, with or without a namespace. -/
def belongsTo (language key : Key) : Bool :=
  key == language ||
    match key with
    | .text s => (language.display ++ keyDelimiter).toList.isPrefixOf s.toList
    | _ => false

/-- Drops the entries of a language and of all its namespaces. -/
def clearLanguage (c : BundleCache) (language : Key) : BundleCache :=
  { c with entries := c.entries.filter fun e => !belongsTo language e.1 }

end BundleCache
end Polyglot
