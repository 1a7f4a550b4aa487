import Mathlib.Data.List.Infix

/-!
# Runs of a deterministic labelled system

A transition function `step : S → L → S` over arbitrary states and labels, its runs, and the rules by
which a property of one step becomes a property of a whole run.

* `run` / `EveryStep` / `EveryState` — the state after a run, a property of every step taken, and a
  property of every state reached.
* `everyStep_of_invariant` — what an invariant gives at one step, it gives at every step of a run whose
  steps all meet the condition that keeps it.
* **`everyState_iff_everyStep`** — where a step keeps the property exactly when it meets the
  condition, a run is safe iff every step of it meets the condition.
* `observed` — the system with a record that its steps write and never read.
-/

namespace SoundingSoil
namespace Support

variable {S L : Type*}

section Runs

variable (step : S → L → S)

/-- The state after a run. -/
def run (s : S) (ls : List L) : S :=
  ls.foldl step s

@[simp] theorem run_cons (s : S) (l : L) (ls : List L) :
    run step s (l :: ls) = run step (step s l) ls := rfl

theorem run_append (s : S) (ls ms : List L) :
    run step s (ls ++ ms) = run step (run step s ls) ms :=
  List.foldl_append

/-- Every step of the run is taken in a state where it has the property. -/
def EveryStep (P : S → L → Prop) : S → List L → Prop
  | _, [] => True
  | s, l :: ls => P s l ∧ EveryStep P (step s l) ls

/-- Every state reached during the run has the property. -/
def EveryState (P : S → Prop) (s : S) (ls : List L) : Prop :=
  ∀ pre, pre <+: ls → P (run step s pre)

variable {step}

theorem everyState_nil {P : S → Prop} {s : S} : EveryState step P s [] ↔ P s := by
  constructor
  · intro h
    exact h [] (List.prefix_refl _)
  · intro h pre hpre
    rw [List.prefix_nil.mp hpre]
    exact h

theorem everyState_cons {P : S → Prop} {s : S} {l : L} {ls : List L} :
    EveryState step P s (l :: ls) ↔ P s ∧ EveryState step P (step s l) ls := by
  constructor
  · intro h
    refine ⟨h [] (List.nil_prefix), fun pre hpre => ?_⟩
    exact h (l :: pre) ((List.prefix_cons_inj l).mpr hpre)
  · rintro ⟨hs, hrest⟩ pre hpre
    cases pre with
    | nil => exact hs
    | cons m pre =>
        obtain ⟨rfl, htail⟩ := List.cons_prefix_cons.mp hpre
        exact hrest pre htail

/-- The property may be stated at any split of the run. -/
theorem everyStep_iff {P : S → L → Prop} {s : S} {ls : List L} :
    EveryStep step P s ls ↔
      ∀ pre l post, ls = pre ++ l :: post → P (run step s pre) l := by
  induction ls generalizing s with
  | nil =>
      refine ⟨fun _ pre l post h => ?_, fun _ => trivial⟩
      exact absurd h.symm (by simp)
  | cons l ls ih =>
      constructor
      · rintro ⟨hl, hrest⟩ pre m post h
        cases pre with
        | nil =>
            obtain ⟨rfl, -⟩ := List.cons.inj h
            exact hl
        | cons k pre =>
            obtain ⟨rfl, htail⟩ := List.cons.inj h
            exact ih.mp hrest pre m post htail
      · intro h
        refine ⟨h [] l ls rfl, ih.mpr fun pre m post hls => ?_⟩
        exact h (l :: pre) m post (by rw [hls]; rfl)

instance EveryStep.decidable {P : S → L → Prop} [∀ s l, Decidable (P s l)] :
    ∀ (s : S) (ls : List L), Decidable (EveryStep step P s ls)
  | _, [] => isTrue trivial
  | s, l :: ls =>
      have : Decidable (EveryStep step P (step s l) ls) := EveryStep.decidable (step s l) ls
      inferInstanceAs (Decidable (P s l ∧ EveryStep step P (step s l) ls))

theorem everyStep_append {P : S → L → Prop} {s : S} {ls ms : List L} :
    EveryStep step P s (ls ++ ms) ↔ EveryStep step P s ls ∧ EveryStep step P (run step s ls) ms := by
  induction ls generalizing s with
  | nil => exact ⟨fun h => ⟨trivial, h⟩, fun h => h.2⟩
  | cons l ls ih =>
      constructor
      · rintro ⟨hl, hrest⟩
        obtain ⟨hls, hms⟩ := ih.mp hrest
        exact ⟨⟨hl, hls⟩, hms⟩
      · rintro ⟨⟨hl, hls⟩, hms⟩
        exact ⟨hl, ih.mpr ⟨hls, hms⟩⟩

/-! ## From one step to a run -/

section Invariant

variable {Inv : S → Prop} {Cond : S → L → Prop}

/-- **The invariant rule.** -/
theorem invariant_run (hstep : ∀ s l, Inv s → Cond s l → Inv (step s l)) {s : S} (hs : Inv s)
    {ls : List L} (hls : EveryStep step Cond s ls) : Inv (run step s ls) := by
  induction ls generalizing s with
  | nil => exact hs
  | cons l ls ih => exact ih (hstep s l hs hls.1) hls.2

/-- The invariant rule for a system without a condition. -/
theorem invariant_run_all (hstep : ∀ s l, Inv s → Inv (step s l)) {s : S} (hs : Inv s)
    (ls : List L) : Inv (run step s ls) := by
  induction ls generalizing s with
  | nil => exact hs
  | cons l ls ih => exact ih (hstep s l hs)

/-- What the invariant and the condition give at one step, they give at every step. -/
theorem everyStep_of_invariant (hstep : ∀ s l, Inv s → Cond s l → Inv (step s l))
    {P : S → L → Prop} (hP : ∀ s l, Inv s → Cond s l → P s l) {s : S} (hs : Inv s) {ls : List L}
    (hls : EveryStep step Cond s ls) : EveryStep step P s ls := by
  induction ls generalizing s with
  | nil => trivial
  | cons l ls ih => exact ⟨hP s l hs hls.1, ih (hstep s l hs hls.1) hls.2⟩

/-- **The exact rule.**  Under an invariant of all steps, let a step from a good state lead to a good
state exactly when it meets the condition.  Then a run from a good state is good throughout iff all
its steps meet the condition. -/
theorem everyState_iff_everyStep (hinv : ∀ s l, Inv s → Inv (step s l)) {P : S → Prop}
    (hP : ∀ s l, Inv s → P s → (P (step s l) ↔ Cond s l)) {s : S} (hs : Inv s) (hPs : P s)
    {ls : List L} : EveryState step P s ls ↔ EveryStep step Cond s ls := by
  induction ls generalizing s with
  | nil => exact ⟨fun _ => trivial, fun _ => everyState_nil.mpr hPs⟩
  | cons l ls ih =>
      rw [everyState_cons]
      constructor
      · rintro ⟨-, hrest⟩
        have hnext : P (step s l) := hrest [] (List.nil_prefix)
        exact ⟨(hP s l hs hPs).mp hnext, (ih (hinv s l hs) hnext).mp hrest⟩
      · rintro ⟨hl, hrest⟩
        have hnext : P (step s l) := (hP s l hs hPs).mpr hl
        exact ⟨hPs, (ih (hinv s l hs) hnext).mpr hrest⟩

end Invariant

/-! ## Observers -/

section Observers

variable {G : Type*} (observe : G → S → L → G)

/-- The system with a record of its steps that it does not look at. -/
def observed (step : S → L → S) (observe : G → S → L → G) (p : S × G) (l : L) : S × G :=
  (step p.1 l, observe p.2 p.1 l)

theorem run_observed (s : S) (g : G) (ls : List L) :
    (run (observed step observe) (s, g) ls).1 = run step s ls := by
  induction ls generalizing s g with
  | nil => rfl
  | cons l ls ih => exact ih (step s l) (observe g s l)

/-- The record may be added to state a property of runs, and dropped again. -/
theorem everyState_observed {P : S → Prop} {s : S} (g : G) {ls : List L} :
    EveryState (observed step observe) (fun p => P p.1) (s, g) ls ↔ EveryState step P s ls := by
  refine forall_congr' fun pre => imp_congr_right fun _ => ?_
  dsimp only
  rw [run_observed]

theorem everyStep_observed {P : S → L → Prop} {s : S} (g : G) {ls : List L}
    (h : EveryStep step P s ls) :
    EveryStep (observed step observe) (fun p l => P p.1 l) (s, g) ls := by
  induction ls generalizing s g with
  | nil => trivial
  | cons l ls ih => exact ⟨h.1, ih (observe g s l) h.2⟩

end Observers

end Runs

end Support
end SoundingSoil
