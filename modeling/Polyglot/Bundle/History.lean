import Polyglot.Bundle.Cache

/-!
# Runs of a bundle cache

The calls of a cache one after the other, each at a reading of the clock, and what each of them
did. What happened is told by languages and namespaces and not by the keys of the cache.
-/
namespace Polyglot

/-- What a bundle is stored for: a language and the name of a namespace, if there is one. -/
structure Slot where
  language : Key
  name : Option String
  deriving DecidableEq, Repr

namespace Slot

/-- The slot of a language and a namespace; an empty namespace is none. -/
def of (language : Key) (space : Option Key) : Slot := ⟨language, space.bind Key.name?⟩

end Slot

inductive CacheCall
  | get (language : Key) (space : Option Key)
  | set (language : Key) (space : Option Key) (bundle : Bundle)
  | clear
  | clearLanguage (language : Key)
  deriving Repr

/-- What a call of a cache did. -/
inductive CacheEvent
  /-- a bundle was read -/
  | read (slot : Slot)
  /-- there was no bundle to read -/
  | missed (slot : Slot)
  | stored (slot : Slot) (bundle : Bundle)
  /-- a bundle was to be stored, but its end could not be told -/
  | refused (slot : Slot)
  | cleared
  | clearedLanguage (language : Key)
  deriving Repr

/-- Events with the readings of the clock at which they happened, the last event first. -/
abbrev CachePast := List (Number × CacheEvent)

/-- A cache and what happened to it. -/
structure RecordedCache where
  cache : BundleCache
  past : CachePast

namespace RecordedCache

/-- A cache without entries, to which nothing happened. -/
def create (lifetime : Duration) (capacity : Nat) : RecordedCache :=
  ⟨BundleCache.create lifetime (some capacity), []⟩

def act (r : RecordedCache) (now : Number) : CacheCall → RecordedCache
  | .get l s =>
      let found := r.cache.get now l s
      ⟨found.1, (now, if found.2.isSome then .read (.of l s) else .missed (.of l s)) :: r.past⟩
  | .set l s b =>
      let stored := r.cache.set now l s b
      ⟨stored.cache, (now, if stored.isStored then .stored (.of l s) b else .refused (.of l s)) ::
        r.past⟩
  | .clear => ⟨r.cache.clear, (now, .cleared) :: r.past⟩
  | .clearLanguage l => ⟨r.cache.clearLanguage l, (now, .clearedLanguage l) :: r.past⟩

/-- Carries out calls one after the other. -/
def run (r : RecordedCache) (calls : List (Number × CacheCall)) : RecordedCache :=
  calls.foldl (fun r c => r.act c.1 c.2) r

end RecordedCache

end Polyglot
