import Mathlib.Logic.Function.Basic

/-!
# Separation of pin roles

A bank of bidirectional pins over an arbitrary type of pins: every pin has a direction, an output
latch and a pull enable, and the latch of an input pin selects the direction of its pull.  Software
gives some pins the role of an *indicator* (an output that shows a level) and others the role of a
*contact* (an input held by its pull-up), and then commands levels on the indicators.

* `Separated` — the two roles coexist: every indicator is an output that shows the commanded level,
  every contact is still an input with its pull-up.
* `operate_dir`, `operate_pullen`, `operate_out` — the registers of every pin after the set-up and
  any sequence of commands.
* **`separated_operate_iff`** — after the set-up and any sequence of commands the roles are separated
  **iff** no pin was given both roles.
-/

namespace SoundingSoil
namespace Support

variable {P : Type*} [DecidableEq P]

/-- The registers of a bank of pins, pin by pin. -/
@[ext] structure PinBank (P : Type*) where
  dir : P → Bool
  out : P → Bool
  pullen : P → Bool

namespace PinBank

/-- Make a pin an output; its latch is kept. -/
def makeOutput (bank : PinBank P) (p : P) : PinBank P :=
  { bank with
    dir := Function.update bank.dir p true
    pullen := Function.update bank.pullen p false }

/-- Make a pin an input with its pull-up. -/
def makePullUp (bank : PinBank P) (p : P) : PinBank P where
  dir := Function.update bank.dir p false
  out := Function.update bank.out p true
  pullen := Function.update bank.pullen p true

/-- Write the output latch of a pin. -/
def setLevel (level : Bool) (bank : PinBank P) (p : P) : PinBank P :=
  { bank with out := Function.update bank.out p level }

/-- Make a pin an output and give it a first level. -/
def makeIndicator (level : Bool) (bank : PinBank P) (p : P) : PinBank P :=
  (bank.makeOutput p).setLevel level p

/-- Set up the indicators, one after the other, and then the contacts. -/
def setUp (inds contacts : List P) (idle : Bool) (bank : PinBank P) : PinBank P :=
  contacts.foldl makePullUp (inds.foldl (makeIndicator idle) bank)

/-- Command one level on every indicator. -/
def command (inds : List P) (bank : PinBank P) (level : Bool) : PinBank P :=
  inds.foldl (setLevel level) bank

/-- The set-up followed by a sequence of commands. -/
def operate (inds contacts : List P) (idle : Bool) (levels : List Bool) (bank : PinBank P) :
    PinBank P :=
  levels.foldl (command inds) (setUp inds contacts idle bank)

/-- The two roles coexist under the commanded level. -/
structure Separated (inds contacts : List P) (level : Bool) (bank : PinBank P) : Prop where
  indicators : ∀ p ∈ inds, bank.dir p = true ∧ bank.out p = level
  contacts : ∀ p ∈ contacts, bank.dir p = false ∧ bank.pullen p = true ∧ bank.out p = true

/-! ## One pass over a list of pins -/

omit [DecidableEq P] in
/-- Where an update per element writes one value into a register view, the whole pass leaves that
value at the listed pins and keeps the view elsewhere. -/
theorem foldl_view {α β : Type*} (view : β → P → α) (op : β → P → β) (v : α)
    (hself : ∀ b p, view (op b p) p = v) (hother : ∀ b p q, q ≠ p → view (op b p) q = view b q)
    (pins : List P) [DecidablePred (· ∈ pins)] (b : β) (q : P) :
    view (pins.foldl op b) q = if q ∈ pins then v else view b q := by
  -- A pin listed twice is written twice with the same value, so the last write decides.
  suffices h : ∀ (pins : List P) (b : β),
      (q ∈ pins → view (pins.foldl op b) q = v) ∧
        (q ∉ pins → view (pins.foldl op b) q = view b q) by
    by_cases hq : q ∈ pins
    · rw [if_pos hq, (h pins b).1 hq]
    · rw [if_neg hq, (h pins b).2 hq]
  intro pins
  induction pins with
  | nil => intro b; simp
  | cons p rest ih =>
      intro b
      rw [List.foldl_cons]
      by_cases hrest : q ∈ rest
      · exact ⟨fun _ => (ih (op b p)).1 hrest, fun h => absurd (List.mem_cons_of_mem p hrest) h⟩
      · have hkeep := (ih (op b p)).2 hrest
        by_cases hqp : q = p
        · subst hqp
          refine ⟨fun _ => ?_, fun h => absurd (List.mem_cons_self ..) h⟩
          rw [hkeep, hself]
        · refine ⟨fun h => ?_, fun _ => ?_⟩
          · exact absurd h (by simp [hqp, hrest])
          · rw [hkeep, hother b p q hqp]

section Views

variable (bank : PinBank P) (pins : List P) (level : Bool) (q : P)

theorem makeIndicator_dir :
    (pins.foldl (makeIndicator level) bank).dir q = if q ∈ pins then true else bank.dir q :=
  foldl_view PinBank.dir (makeIndicator level) true
    (by intro b p; simp [makeIndicator, makeOutput, setLevel])
    (by intro b p q h; simp [makeIndicator, makeOutput, setLevel, h]) pins bank q

theorem makeIndicator_out :
    (pins.foldl (makeIndicator level) bank).out q = if q ∈ pins then level else bank.out q :=
  foldl_view PinBank.out (makeIndicator level) level
    (by intro b p; simp [makeIndicator, makeOutput, setLevel])
    (by intro b p q h; simp [makeIndicator, makeOutput, setLevel, h]) pins bank q

theorem makePullUp_dir :
    (pins.foldl makePullUp bank).dir q = if q ∈ pins then false else bank.dir q :=
  foldl_view PinBank.dir makePullUp false
    (by intro b p; simp [makePullUp]) (by intro b p q h; simp [makePullUp, h]) pins bank q

theorem makePullUp_out :
    (pins.foldl makePullUp bank).out q = if q ∈ pins then true else bank.out q :=
  foldl_view PinBank.out makePullUp true
    (by intro b p; simp [makePullUp]) (by intro b p q h; simp [makePullUp, h]) pins bank q

theorem makePullUp_pullen :
    (pins.foldl makePullUp bank).pullen q = if q ∈ pins then true else bank.pullen q :=
  foldl_view PinBank.pullen makePullUp true
    (by intro b p; simp [makePullUp]) (by intro b p q h; simp [makePullUp, h]) pins bank q

theorem command_out :
    (command pins bank level).out q = if q ∈ pins then level else bank.out q :=
  foldl_view PinBank.out (setLevel level) level
    (by intro b p; simp [setLevel]) (by intro b p q h; simp [setLevel, h]) pins bank q

end Views

/-- A command touches neither directions nor pulls. -/
theorem command_frame (inds : List P) (bank : PinBank P) (level : Bool) :
    (command inds bank level).dir = bank.dir ∧ (command inds bank level).pullen = bank.pullen := by
  unfold command
  induction inds generalizing bank with
  | nil => exact ⟨rfl, rfl⟩
  | cons p rest ih => exact ih (setLevel level bank p)

/-- A sequence of commands touches neither directions nor pulls. -/
theorem commands_frame (inds : List P) (levels : List Bool) (bank : PinBank P) :
    (levels.foldl (command inds) bank).dir = bank.dir ∧
      (levels.foldl (command inds) bank).pullen = bank.pullen := by
  induction levels generalizing bank with
  | nil => exact ⟨rfl, rfl⟩
  | cons level rest ih =>
      obtain ⟨hdir, hpullen⟩ := command_frame inds bank level
      obtain ⟨hdir', hpullen'⟩ := ih (command inds bank level)
      exact ⟨hdir'.trans hdir, hpullen'.trans hpullen⟩

/-- After a sequence of commands an indicator shows the last level, and no other latch moved. -/
theorem commands_out (inds : List P) (levels : List Bool) (bank : PinBank P) (q : P) :
    (levels.foldl (command inds) bank).out q =
      if q ∈ inds then levels.getLastD (bank.out q) else bank.out q := by
  induction levels generalizing bank with
  | nil => simp
  | cons level rest ih =>
      rw [List.foldl_cons, ih (command inds bank level), command_out]
      by_cases hq : q ∈ inds
      · simp only [if_pos hq]
        rw [List.getLastD_cons]
      · simp only [if_neg hq]

/-! ## The whole operation -/

variable (inds contacts : List P) (idle : Bool) (levels : List Bool) (bank : PinBank P)

/-- The contacts are set up last, so their direction prevails. -/
theorem operate_dir (q : P) :
    (operate inds contacts idle levels bank).dir q =
      if q ∈ contacts then false else if q ∈ inds then true else bank.dir q := by
  rw [operate, (commands_frame inds levels _).1, setUp, makePullUp_dir, makeIndicator_dir]

theorem operate_pullen {q : P} (hq : q ∈ contacts) :
    (operate inds contacts idle levels bank).pullen q = true := by
  rw [operate, (commands_frame inds levels _).2, setUp, makePullUp_pullen, if_pos hq]

theorem operate_out (q : P) :
    (operate inds contacts idle levels bank).out q =
      if q ∈ inds then levels.getLastD (if q ∈ contacts then true else idle)
      else if q ∈ contacts then true else bank.out q := by
  rw [operate, commands_out, setUp, makePullUp_out, makeIndicator_out]
  by_cases hq : q ∈ inds
  · simp only [if_pos hq]
  · simp only [if_neg hq]

/-- **Separation is exactly disjointness of the roles.**  Whatever levels were commanded, the
indicators show the last one (the idle level before the first) and the contacts are undisturbed iff
no pin has both roles. -/
theorem separated_operate_iff :
    Separated inds contacts (levels.getLastD idle) (operate inds contacts idle levels bank) ↔
      ∀ p ∈ inds, p ∉ contacts := by
  constructor
  · intro hsep p hind hcontact
    have hout := (hsep.indicators p hind).1
    rw [(hsep.contacts p hcontact).1] at hout
    exact Bool.false_ne_true hout
  · intro hdisj
    refine ⟨fun p hind => ?_, fun p hcontact => ?_⟩
    · rw [operate_dir, operate_out]
      simp [hind, hdisj p hind]
    · have hind : p ∉ inds := fun h => hdisj p h hcontact
      rw [operate_dir, operate_out]
      simp [hcontact, hind, operate_pullen]

end PinBank

end Support
end SoundingSoil
