import PagePress.Clock
import PagePress.Document

/-!
# The render cache in memory

Rendered documents by slug. An entry lives for a fixed span of time, and a change of the page does
not end it. When the cache is full, the entry that was least recently read or written goes.

Entries that have expired are dropped in the order in which they were written, up to the first that
is alive. As long as the clock does not go back, these are all that have expired.
-/

namespace PagePress

/-- A rendered document and the time it expires. -/
structure CacheEntry where
  slug : String
  document : Document
  expires : Micros
  /-- The number of the write that made the entry. -/
  written : Nat
deriving DecidableEq, Repr

def CacheEntry.isLive (e : CacheEntry) (now : Micros) : Bool := now < e.expires

/-- A bounded cache whose entries live for `ttl`. The least recently used entry comes first, and
each slug has at most one. -/
structure RenderCache where
  ttl : Micros
  capacity : Nat := 10000
  entries : List CacheEntry := []
  /-- The number of writes so far. -/
  writes : Nat := 0
deriving Repr

inductive CacheFault where
  /-- The cache has no room at all. -/
  | noRoom
  /-- The entry that should make room has expired behind one that is alive. -/
  | stuck
deriving DecidableEq, Repr

namespace RenderCache

def find? (cache : RenderCache) (now : Micros) (slug : String) : Option CacheEntry :=
  (cache.entries.find? (·.slug = slug)).filter (·.isLive now)

def without (cache : RenderCache) (slug : String) : List CacheEntry :=
  cache.entries.filter (·.slug ≠ slug)

/-- The cache in which the entry of a slug, if there is one, counts as used most recently. -/
def touch (cache : RenderCache) (slug : String) : RenderCache :=
  { cache with
    entries := cache.without slug ++ (cache.entries.find? (·.slug = slug)).toList }

/-- Reads the document of a slug. Its entry then counts as used most recently, even if it has
expired. -/
def get (cache : RenderCache) (now : Micros) (slug : String) : Option Document × RenderCache :=
  ((cache.find? now slug).map (·.document), cache.touch slug)

/-- The number of the first write whose entry is alive. -/
def firstLive? (cache : RenderCache) (now : Micros) : Option Nat :=
  ((cache.entries.filter (·.isLive now)).map (·.written)).min?

/-- The cache without the entries that have expired and were written before all that are alive. -/
def expire (cache : RenderCache) (now : Micros) : RenderCache :=
  match cache.firstLive? now with
  | none => { cache with entries := [] }
  | some first => { cache with entries := cache.entries.filter (first ≤ ·.written) }

/-- The entries that go when the slug is written to: none if it has an entry, and otherwise as many
as it takes to make room. -/
def evicted (cache : RenderCache) (slug : String) : List CacheEntry :=
  if cache.entries.any (·.slug = slug) then []
  else cache.entries.take (cache.entries.length + 1 - cache.capacity)

def kept (cache : RenderCache) (slug : String) : List CacheEntry :=
  if cache.entries.any (·.slug = slug) then cache.without slug
  else cache.entries.drop (cache.entries.length + 1 - cache.capacity)

/-- Writes the document of a slug into a cache with room for at least one entry. -/
def insert (cache : RenderCache) (now : Micros) (slug : String) (document : Document) :
    RenderCache :=
  let live := cache.expire now
  { live with
    entries := live.kept slug
      ++ [{ slug, document, expires := now + cache.ttl, written := cache.writes }]
    writes := cache.writes + 1 }

def insert? (cache : RenderCache) (now : Micros) (slug : String) (document : Document) :
    Except CacheFault RenderCache :=
  if cache.capacity = 0 then .error .noRoom
  else if ((cache.expire now).evicted slug).all (·.isLive now) then
    .ok (cache.insert now slug document)
  else .error .stuck

end RenderCache

end PagePress
