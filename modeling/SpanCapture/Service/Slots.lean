import SpanCapture.Number.Power

/-! A table of slots for numbered things. A number has a home slot, given by a hash of its
eight bytes; what finds it taken goes into the next free slot, around the end. The table
doubles before it would be more than seven eighths full. Listing goes through the slots
in order, and that is the order in which a sweep visits contexts. -/
namespace SpanCapture

/-- A table of slots; their count is zero or a power of two. -/
abbrev Slots (α : Type u) := List (Option (Nat × α))

namespace Slots

variable {α : Type u}

/-- The bytes of a word, the lowest first. -/
def wordBytes (n : Nat) : List Nat := (List.range 8).map fun i => n / twoTo (8 * i) % 256

/-- A hash: each byte is mixed in by exclusive or, then all is multiplied by a prime. -/
def hash (n : Nat) : Nat :=
  (wordBytes n).foldl (fun h byte => (h ^^^ byte) * 1099511628211 % twoTo 64) 14695981039346656037

def capacity (slots : Nat) : Nat := if slots ≤ 8 then slots - 1 else slots / 8 * 7

/-- What the table holds, in the order of the slots. -/
def entries (table : Slots α) : List (Nat × α) := table.filterMap id

/-- The first thing of a number, in the order of the slots. -/
def find? (key : Nat) (table : Slots α) : Option α :=
  (table.entries.find? fun entry => entry.1 == key).map Prod.snd

/-- The first free slot from a place on, around the end. -/
def freeFrom (start : Nat) (table : Slots α) : Nat :=
  let order := (List.range table.length).map fun i => (start + i) % table.length
  (order.find? fun i => (table[i]?.map Option.isNone).getD false).getD 0

/-- Puts a thing into the free slot nearest to its home. -/
def put (key : Nat) (value : α) (table : Slots α) : Slots α :=
  table.set (table.freeFrom (hash key % table.length)) (some (key, value))

/-- The table with twice as many slots, four at first. -/
def grow (table : Slots α) : Slots α :=
  let size := if table.isEmpty then 4 else 2 * table.length
  table.entries.foldl (fun larger entry => larger.put entry.1 entry.2) (List.replicate size none)

/-- Adds a thing with a number not in the table. -/
def insert (key : Nat) (value : α) (table : Slots α) : Slots α :=
  if table.entries.length < capacity table.length then table.put key value
  else table.grow.put key value

def modify (key : Nat) (f : α → α) (table : Slots α) : Slots α :=
  table.map fun slot => slot.map fun entry =>
    if entry.1 = key then (entry.1, f entry.2) else entry

def erase (key : Nat) (table : Slots α) : Slots α :=
  table.map fun slot => slot.filter fun entry => entry.1 != key

def count (table : Slots α) : Nat := table.entries.length

theorem map_fst_entries_modify (key : Nat) (f : α → α) (table : Slots α) :
    (table.modify key f).entries.map Prod.fst = table.entries.map Prod.fst := by
  induction table with
  | nil => rfl
  | cons slot rest ih =>
    cases slot with
    | none => simpa [modify, entries] using ih
    | some entry =>
      have : (if entry.1 = key then (entry.1, f entry.2) else entry).1 = entry.1 := by
        split <;> rfl
      simp only [modify, entries, List.map_cons, Option.map_some, List.filterMap_cons, id] at ih ⊢
      rw [this, ih]

end Slots
end SpanCapture
