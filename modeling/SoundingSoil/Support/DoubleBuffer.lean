import Mathlib.Data.List.Range

/-!
# A double buffer

Items with the numbers `0, 1, 2, …` are taken from a source into one of two slots, and delivered from the
slots to a sink.  `DoubleBuffer` records which item each slot holds and what was delivered.

A double buffer that works in order is in one of three conditions, with `k` items delivered:

* `Idle` — every item that was taken is delivered.
* `Loaded` — one slot holds the next item to deliver.
* `Full` — one slot holds the next item to deliver, and the other slot the one after it.

`fill` and `drain` lead from one condition to the next.  `InOrder` is what a sink sees of all of them.
-/

namespace SoundingSoil
namespace Support

/-- The two slots, the number of items taken, and the contents of the slots that were delivered. -/
structure DoubleBuffer where
  taken : Nat
  slots : Bool → Option Nat
  delivered : List (Option Nat)

namespace DoubleBuffer

/-- Nothing is taken. -/
def empty : DoubleBuffer where
  taken := 0
  slots _ := none
  delivered := []

/-- The next item is taken into a slot. -/
def fill (b : Bool) (p : DoubleBuffer) : DoubleBuffer :=
  { p with taken := p.taken + 1, slots := Function.update p.slots b (some p.taken) }

/-- What a slot holds is lost. -/
def spoil (b : Bool) (p : DoubleBuffer) : DoubleBuffer :=
  { p with slots := Function.update p.slots b none }

/-- What a slot holds is delivered. -/
def drain (b : Bool) (p : DoubleBuffer) : DoubleBuffer :=
  { p with delivered := p.delivered ++ [p.slots b] }

/-- The first `k` items, in order. -/
def firstItems (k : Nat) : List (Option Nat) :=
  (List.range k).map some

theorem firstItems_succ (k : Nat) : firstItems (k + 1) = firstItems k ++ [some k] := by
  rw [firstItems, List.range_succ, List.map_append]
  rfl

theorem length_firstItems (k : Nat) : (firstItems k).length = k := by
  rw [firstItems, List.length_map, List.length_range]

/-- The sink got items in order, without a gap, a repetition or a stale slot. -/
def InOrder (p : DoubleBuffer) : Prop :=
  p.delivered = firstItems p.delivered.length

/-- Every item that was taken is delivered. -/
structure Idle (p : DoubleBuffer) (k : Nat) : Prop where
  delivered : p.delivered = firstItems k
  taken : p.taken = k

/-- The slot `b` holds the next item to deliver. -/
structure Loaded (p : DoubleBuffer) (b : Bool) (k : Nat) : Prop where
  delivered : p.delivered = firstItems k
  taken : p.taken = k + 1
  next : p.slots b = some k

/-- The slot `b` holds the next item to deliver, and the other slot the one after it. -/
structure Full (p : DoubleBuffer) (b : Bool) (k : Nat) : Prop where
  delivered : p.delivered = firstItems k
  taken : p.taken = k + 2
  next : p.slots b = some k
  after : p.slots (!b) = some (k + 1)

theorem idle_empty : Idle empty 0 :=
  ⟨rfl, rfl⟩

theorem inOrder_of_delivered {p : DoubleBuffer} {k : Nat} (h : p.delivered = firstItems k) :
    p.InOrder := by
  rw [InOrder, h, length_firstItems]

/-! ## Taking items -/

theorem Idle.fill {p : DoubleBuffer} {k : Nat} (h : p.Idle k) (b : Bool) :
    (p.fill b).Loaded b k := by
  refine ⟨h.delivered, ?_, ?_⟩
  · change p.taken + 1 = k + 1
    rw [h.taken]
  · change Function.update p.slots b (some p.taken) b = some k
    rw [Function.update_self, h.taken]

theorem Loaded.fill {p : DoubleBuffer} {b : Bool} {k : Nat} (h : p.Loaded b k) :
    (p.fill (!b)).Full b k := by
  have hne : b ≠ !b := by cases b <;> exact nofun
  refine ⟨h.delivered, ?_, ?_, ?_⟩
  · change p.taken + 1 = k + 2
    rw [h.taken]
  · change Function.update p.slots (!b) (some p.taken) b = some k
    rw [Function.update_of_ne hne, h.next]
  · change Function.update p.slots (!b) (some p.taken) (!b) = some (k + 1)
    rw [Function.update_self, h.taken]

theorem Idle.spoil {p : DoubleBuffer} {k : Nat} (h : p.Idle k) (b : Bool) : (p.spoil b).Idle k :=
  ⟨h.delivered, h.taken⟩

theorem InOrder.spoil {p : DoubleBuffer} (h : p.InOrder) (b : Bool) : (p.spoil b).InOrder :=
  h

/-! ## Delivering items -/

theorem delivered_drain {p : DoubleBuffer} {b : Bool} {k : Nat} (h : p.delivered = firstItems k)
    (hnext : p.slots b = some k) : (p.drain b).delivered = firstItems (k + 1) := by
  change p.delivered ++ [p.slots b] = firstItems (k + 1)
  rw [h, hnext, firstItems_succ]

theorem Loaded.drain {p : DoubleBuffer} {b : Bool} {k : Nat} (h : p.Loaded b k) :
    (p.drain b).Idle (k + 1) :=
  ⟨delivered_drain h.delivered h.next, h.taken⟩

theorem Full.drain {p : DoubleBuffer} {b : Bool} {k : Nat} (h : p.Full b k) :
    (p.drain b).Loaded (!b) (k + 1) :=
  ⟨delivered_drain h.delivered h.next, h.taken, h.after⟩

end DoubleBuffer
end Support
end SoundingSoil
