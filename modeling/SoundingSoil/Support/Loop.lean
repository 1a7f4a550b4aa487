import Mathlib.Data.Sum.Basic

/-!
# Loops

A loop whose body goes on with a new state or leaves with a result, run for a number of rounds.  The body itself may
fail to come back, as when it contains a loop of its own.

* `loop` / `Returns` / `Diverges` — the loop with fuel, what it returns, that it never does.
* **`returns_of_variant`** — a loop with a decreasing measure returns what its invariant promises.
* **`diverges_of_invariant`** — a loop that keeps an invariant and never leaves diverges.
-/

namespace SoundingSoil
namespace Support

variable {S R : Type*}

/-- Run the loop for at most `fuel` rounds. -/
def loop (body : S → Option (S ⊕ R)) : Nat → S → Option R
  | 0, _ => none
  | fuel + 1, s =>
      match body s with
      | none => none
      | some (.inl s') => loop body fuel s'
      | some (.inr r) => some r

section Loop

variable (body : S → Option (S ⊕ R))

def Returns (s : S) (r : R) : Prop :=
  ∃ fuel, loop body fuel s = some r

def Diverges (s : S) : Prop :=
  ∀ fuel, loop body fuel s = none

variable {body}

theorem returns_of_leave {s : S} {r : R} (h : body s = some (.inr r)) : Returns body s r :=
  ⟨1, by rw [loop, h]⟩

theorem returns_of_continue {s s' : S} {r : R} (h : body s = some (.inl s')) (hr : Returns body s' r) :
    Returns body s r := by
  obtain ⟨fuel, hfuel⟩ := hr
  exact ⟨fuel + 1, by rw [loop, h]; exact hfuel⟩

/-- **A loop with a variant returns.**  In a state with the invariant the body leaves with a good result, or goes on to
a smaller state with the invariant. -/
theorem returns_of_variant (variant : S → Nat) (Inv : S → Prop) (Post : R → Prop)
    (hbody : ∀ s, Inv s →
      (∃ r, body s = some (.inr r) ∧ Post r) ∨
        ∃ s', body s = some (.inl s') ∧ Inv s' ∧ variant s' < variant s)
    {s : S} (hs : Inv s) : ∃ r, Returns body s r ∧ Post r := by
  induction hn : variant s using Nat.strongRecOn generalizing s with
  | _ n ih =>
      rcases hbody s hs with ⟨r, hleave, hpost⟩ | ⟨s', hcontinue, hs', hless⟩
      · exact ⟨r, returns_of_leave hleave, hpost⟩
      · obtain ⟨r, hr, hpost⟩ := ih (variant s') (hn ▸ hless) hs' rfl
        exact ⟨r, returns_of_continue hcontinue hr, hpost⟩

/-- **A loop that never leaves diverges.** -/
theorem diverges_of_invariant (Inv : S → Prop)
    (hbody : ∀ s, Inv s → body s = none ∨ ∃ s', body s = some (.inl s') ∧ Inv s') {s : S} (hs : Inv s) :
    Diverges body s := by
  intro fuel
  induction fuel generalizing s with
  | zero => rfl
  | succ fuel ih =>
      rw [loop]
      rcases hbody s hs with hnone | ⟨s', hcontinue, hs'⟩
      · rw [hnone]
      · rw [hcontinue]
        exact ih hs'

end Loop

end Support
end SoundingSoil
