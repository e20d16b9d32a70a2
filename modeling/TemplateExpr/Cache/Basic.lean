import TemplateExpr.Cache.Key
import TemplateExpr.Config.Basic
import TemplateExpr.Number.Text

/-!
# The result cache

A bounded list of results, the one that was written last in front. When a result is written to a
full cache, the one that was written first goes. Looking at a result leaves the order alone; a
result that is too old is dropped when it is looked at. Times are in milliseconds.
-/

namespace TemplateExpr

/-- A result and the time at which it was written. -/
structure Cache.Entry (κ α : Type) where
  key : κ
  value : α
  created : Nat

/-- A cache and what has happened to it. -/
structure Cache (κ α : Type) where
  /-- The results, the last one written first. -/
  entries : List (Cache.Entry κ α)
  capacity : Nat
  /-- How long a result is kept. -/
  ttl : Nat
  hits : Nat
  misses : Nat
  evictions : Nat
  expirations : Nat

/-- The figures of a cache. -/
structure CacheStats where
  hits : Nat
  misses : Nat
  evictions : Nat
  expirations : Nat
  size : Nat
  capacity : Nat
deriving Repr, DecidableEq

namespace Cache

variable {κ α : Type}

/-- An empty cache with room for at least one result. -/
def ofConfig (c : CacheConfig) : Cache κ α := ⟨[], max 1 c.maxSize, c.ttl, 0, 0, 0, 0⟩

/-- The number of results, also of those that are too old. -/
def size (c : Cache κ α) : Nat := c.entries.length

/-- Whether an entry is too old. -/
def isExpired (c : Cache κ α) (now : Nat) (e : Entry κ α) : Bool := c.ttl ≤ now - e.created

/-- The entry with a key. -/
def find? [BEq κ] (c : Cache κ α) (key : κ) : Option (Entry κ α) := c.entries.find? (·.key == key)

/-- Looks for a result and counts whether it is there. -/
def get [BEq κ] (c : Cache κ α) (now : Nat) (key : κ) : Option α × Cache κ α :=
  match c.find? key with
  | none => (none, { c with misses := c.misses + 1 })
  | some e =>
    if c.isExpired now e then
      (none, { c with entries := c.entries.filter (!·.key == key), misses := c.misses + 1,
                      expirations := c.expirations + 1 })
    else (some e.value, { c with hits := c.hits + 1 })

/-- Writes a result. A result with the same key is replaced; otherwise the oldest one goes if the
cache is full. -/
def insert [BEq κ] (c : Cache κ α) (now : Nat) (key : κ) (value : α) : Cache κ α :=
  let entry : Entry κ α := ⟨key, value, now⟩
  match c.find? key with
  | some _ => { c with entries := entry :: c.entries.filter (!·.key == key) }
  | none =>
    if c.size < c.capacity then { c with entries := entry :: c.entries }
    else { c with entries := entry :: c.entries.take (c.capacity - 1),
                  evictions := c.evictions + 1 }

/-- Drops all results and figures. -/
def clear (c : Cache κ α) : Cache κ α := ⟨[], c.capacity, c.ttl, 0, 0, 0, 0⟩

/-- The figures of a cache. -/
def stats (c : Cache κ α) : CacheStats :=
  ⟨c.hits, c.misses, c.evictions, c.expirations, c.size, c.capacity⟩

end Cache

namespace CacheStats

/-- The share of the hits in percent, zero if nothing was looked for. -/
def hitRatio (s : CacheStats) : Float :=
  let total := s.hits + s.misses
  if total = 0 then 0 else Number.ofNat s.hits / Number.ofNat total * 100

/-- The figures in words. -/
def describe (s : CacheStats) : String :=
  "EvaluationCache \x7b capacity: " ++ Text.Digit.decimal s.capacity ++ ", len: " ++
    Text.Digit.decimal s.size ++ ", hit_ratio: \"" ++ Number.fixed 1 s.hitRatio ++ "%\" \x7d"

end CacheStats

end TemplateExpr
