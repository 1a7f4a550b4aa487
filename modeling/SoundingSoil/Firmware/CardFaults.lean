import SoundingSoil.Firmware.CardBooks

/-!
# Transfers that leave the card in disorder

A transfer that fails can leave the card inside an operation, or blocks in the books of `sd_mmc.c`.
`Faults` are the steps that do; `rests_iff` proves once that a run has good books between its transfers iff
none of its steps is a fault.

* **`closed_iff`** — a WRITE(10) that loses a block of the host always leaves the card in the write, and a
  command of no blocks leaves it waiting for one.
* **`settled_iff`** — when the assertion of `sd_mmc_select_slot` holds between two transfers.
-/

namespace SoundingSoil
namespace Firmware

open Support

/-! ## Transfers that end badly -/

/-- Steps that leave a transfer, told by its locals: at the loop test, when a block is not started, when a
wait fails, and when the USB loses a block (with what the last wait answers). -/
structure Faults where
  loop : Transfer → Prop
  start : Transfer → Prop
  wait : Transfer → Prop
  failed : SdMmcErr → Transfer → Prop

/-- The step is such a fault. -/
def Faults.At (f : Faults) (s : Sys) (l : Label) : Prop :=
  match l, s.pc with
  | .main _, .memory (.loop t) => t.nbStep = 0 ∧ f.loop t
  | .main answer, .memory (.startBlocks t) => answer ≠ .ok ∧ f.start t
  | .main answer, .memory (.waitEnd t) => answer ≠ .ok ∧ f.wait t
  | .main answer, .memory (.blockFailed t) => f.failed answer t
  | _, _ => False

/-- The faults are exactly the steps that leave a transfer with books that are not good. -/
structure Faults.Exact (f : Faults) (Good : CardBooks → Prop) : Prop where
  loop : ∀ {b t}, t.TestBooks b → t.nbStep = 0 → (Good b ↔ ¬ f.loop t)
  start : ∀ {b t}, MemoryPc.Booked b (.startBlocks t) →
    (Good (b.sdMmcStartBlocks t.read false) ↔ ¬ f.start t)
  wait : ∀ {b t}, MemoryPc.Booked b (.waitEnd t) → (Good b ↔ ¬ f.wait t)
  failed : ∀ {answer b t}, MemoryPc.Booked b (.blockFailed t) →
    (Good (b.memory answer (.blockFailed t)) ↔ ¬ f.failed answer t)

/-- While the main loop rests the books are good. -/
def Rests (Good : CardBooks → Prop) (p : Sys × CardBooks) : Prop :=
  p.1.pc.Resting → Good p.2

theorem afterBlock_not_resting (t : Transfer) : ¬ (Pc.memory t.afterBlock).Resting := by
  change ¬ (Pc.memory (if t.starts then .waitEnd t else t.nextStep)).Resting
  split_ifs
  · exact fun h => h
  · exact fun h => h

theorem afterStart_not_resting (t : Transfer) : ¬ (Pc.memory t.afterStart).Resting := by
  change ¬ (Pc.memory (if t.transfers then .ackTest t else t.afterBlock)).Resting
  split_ifs
  · exact fun h => h
  · exact afterBlock_not_resting t

theorem beginStep_not_resting (t : Transfer) : ¬ (Pc.memory t.beginStep).Resting := by
  change ¬ (Pc.memory (if t.starts then .startBlocks t else t.afterStart)).Resting
  split_ifs
  · exact fun h => h
  · exact afterStart_not_resting t

section Faults

variable {f : Faults} {Good : CardBooks → Prop}

/-- The transfer goes on. -/
theorem iff_of_not_resting {pc : Pc} {c g : Prop} (hpc : ¬ pc.Resting) (hc : ¬ c) :
    (pc.Resting → g) ↔ ¬ c :=
  ⟨fun _ => hc, fun _ h => absurd h hpc⟩

/-- The transfer ends. -/
theorem iff_of_resting {pc : Pc} {c c' g : Prop} (hpc : pc.Resting) (hc : c) (hg : g ↔ ¬ c') :
    (pc.Resting → g) ↔ ¬ (c ∧ c') :=
  ⟨fun h hboth => hg.mp (h hpc) hboth.2, fun hnot _ => hg.mpr fun hc' => hnot ⟨hc, hc'⟩⟩

/-- **The books after a step inside of a transfer.** -/
theorem rests_memory_iff (hexact : f.Exact Good) {answer : SdMmcErr} {s : Sys} {b : CardBooks}
    {p : MemoryPc} (hpc : s.pc = .memory p) (h : p.Booked b) (hrests : Rests Good (s, b)) :
    ((p.next answer s.dev.msc).Resting → Good (b.memory answer p)) ↔ ¬ f.At s (.main answer) := by
  unfold Rests at hrests
  dsimp only at hrests
  unfold Faults.At
  rw [hpc] at hrests ⊢
  -- A step either stays inside the loops, where no fault can be, or leaves them by a way that has a fault of its own.
  cases p with
  | select read lun addr nbSector => exact ⟨fun _ h => h, fun _ _ => hrests trivial⟩
  | initBlocks t =>
      unfold MemoryPc.next CardBooks.memory
      dsimp only
      split_ifs
      · exact iff_of_not_resting (fun h => h) (fun h => h)
      · exact ⟨fun _ h => h, fun _ _ => hrests trivial⟩
  | loop t =>
      unfold MemoryPc.next
      dsimp only
      split_ifs with hstep
      · exact iff_of_resting trivial hstep (hexact.loop h hstep)
      · exact iff_of_not_resting (beginStep_not_resting _) fun hfault => hstep hfault.1
  | startBlocks t =>
      unfold MemoryPc.next CardBooks.memory
      dsimp only
      split_ifs with hok
      · exact iff_of_not_resting (afterStart_not_resting t) fun hfault => hfault.1 hok
      · rw [decide_eq_false hok]
        exact iff_of_resting trivial hok (hexact.start h)
  | waitEnd t =>
      unfold MemoryPc.next CardBooks.memory
      dsimp only
      split_ifs with hok
      · exact iff_of_not_resting (fun h => h) fun hfault => hfault.1 hok
      · rw [decide_eq_false hok]
        exact iff_of_resting trivial hok (hexact.wait h)
  | blockFailed t =>
      have hfailed := @Faults.Exact.failed f Good hexact answer b t h
      exact ⟨fun hgood => hfailed.mp (hgood trivial), fun hnot _ => hfailed.mpr hnot⟩
  | exit status => exact ⟨fun _ h => h, fun _ _ => hrests trivial⟩
  | abortResult t =>
      unfold MemoryPc.next
      dsimp only
      split_ifs
      · exact iff_of_not_resting (fun h => h) (fun h => h)
      · exact iff_of_not_resting (afterBlock_not_resting t) (fun h => h)
  | ackTest t | ackWait t | abortTest t =>
      unfold MemoryPc.next
      dsimp only
      split_ifs
      · exact iff_of_not_resting (fun h => h) (fun h => h)
      · exact iff_of_not_resting (fun h => h) (fun h => h)
  | ackClear t | runDenied t | residue t =>
      exact iff_of_not_resting (fun h => h) (fun h => h)

/-- A step outside of the loops gives no command. -/
theorem watchCard_other {s : Sys} {b : CardBooks} {l : Label}
    (h : ∀ answer q, l = .main answer → s.pc ≠ .memory q) : watchCard b s l = b ∧ ¬ f.At s l := by
  cases l with
  | main answer =>
      unfold watchCard Faults.At
      cases hpc : s.pc with
      | memory q => exact absurd hpc (h answer q rfl)
      | _ => exact ⟨rfl, fun h => h⟩
  | raise irq => exact ⟨rfl, fun h => h⟩
  | serve => exact ⟨rfl, fun h => h⟩

theorem rests_step_iff (hexact : f.Exact Good) (p : Sys × CardBooks) (l : Label)
    (h : p.1.pc.Booked p.2) (hrests : Rests Good p) :
    Rests Good (observed (step lunDesc) watchCard p l) ↔ ¬ f.At p.1 l := by
  obtain ⟨s, b⟩ := p
  by_cases hmemory : ∃ answer q, l = .main answer ∧ s.pc = .memory q
  · obtain ⟨answer, q, rfl, hpc⟩ := hmemory
    dsimp only at h
    rw [hpc] at h
    rw [← rests_memory_iff hexact hpc h hrests]
    change ((mainStep answer s).pc.Resting → Good (watchCard b s (.main answer))) ↔ _
    rw [mainStep_memory answer hpc]
    simp only [watchCard, hpc]
  · have hother : ∀ answer q, l = .main answer → s.pc ≠ .memory q :=
      fun answer q hl hpc => hmemory ⟨answer, q, hl, hpc⟩
    obtain ⟨hsame, hnot⟩ := @watchCard_other f s b l hother
    refine ⟨fun _ => hnot, fun _ hresting => ?_⟩
    change Good (watchCard b s l)
    rw [hsame]
    exact hrests (resting_step lunDesc hother hresting)

/-- **A run keeps good books between its transfers iff none of its steps is a fault.** -/
theorem rests_iff (hexact : f.Exact Good) (hempty : Good .empty) (vbusHigh : Bool) (ls : List Label) :
    EveryState (observed (step lunDesc) watchCard) (Rests Good) (boot vbusHigh, .empty) ls ↔
      EveryStep (observed (step lunDesc) watchCard) (fun p l => ¬ f.At p.1 l)
        (boot vbusHigh, .empty) ls := by
  have hbooked : (boot vbusHigh).pc.Booked .empty := trivial
  exact everyState_iff_everyStep (fun _ l h => booked_step lunDesc l h) (rests_step_iff hexact) hbooked
    fun _ => hempty

end Faults

/-! ## Operations that stay open -/

/-- What `sd_mmc_select_slot` asserts: no block is still to come. -/
def CardBooks.Settled (b : CardBooks) : Prop :=
  b.nbBlockRemaining = 0

/-- The longest transfer was started and not begun, a wait failed before the last block, or the USB lost a
block without a successful wait after it. -/
def leavesBlocks : Faults where
  loop t := t.nbSector = 65535
  start _ := False
  wait t := t.left ≠ 0
  failed answer t := (t.bFirstStep = true ∨ answer ≠ .ok) ∧ t.left ≠ 0

theorem settled_of_remaining {b : CardBooks} {r : Nat} (h : b.nbBlockRemaining.toNat = r) :
    b.Settled ↔ r = 0 := by
  rw [← h]
  exact BitVec.toNat_eq

theorem settled_loop {b : CardBooks} {t : Transfer} (h : t.TestBooks b) (hstep : t.nbStep = 0) :
    b.Settled ↔ t.nbSector ≠ 65535 := by
  unfold Transfer.TestBooks at h
  rcases Bool.eq_false_or_eq_true t.bFirstStep with hfirst | hfirst
  · rw [if_pos hfirst] at h
    obtain ⟨hnb, hopen⟩ := h
    have hall := Transfer.nbSector_of_wrapped hnb hstep
    rw [settled_of_remaining hopen.remaining]
    refine ⟨fun hnone => ?_, fun hshort => absurd (BitVec.eq_of_toNat_eq hall) hshort⟩
    omega
  · rw [if_neg (ne_true_of_eq_false hfirst)] at h
    obtain ⟨hbound, -, hfinished⟩ := h
    have hleft : t.left = 0 := by
      unfold Transfer.left
      rw [hstep]
      split_ifs <;> rfl
    unfold Transfer.Finished at hfinished
    rw [if_pos hleft] at hfinished
    refine ⟨fun _ hlong => ?_, fun _ => (settled_of_remaining hfinished.remaining).mpr rfl⟩
    rw [hlong] at hbound
    exact absurd hbound (by decide)

theorem Transfer.Started.remaining {b : CardBooks} {t : Transfer} (h : t.Started b) :
    b.nbBlockRemaining.toNat = t.left := by
  unfold Transfer.Started at h
  split_ifs at h with hlast
  · rw [h.remaining, Transfer.left_of_read hlast.1, hlast.2]
    rfl
  · exact h.remaining

/-- An abort settles the books. -/
theorem settled_abort (b : CardBooks) (read : Bool) :
    (b.sdMmcWaitEndOfBlocks read true true).Settled := by
  rw [CardBooks.wait_ended (Or.inl rfl)]
  split_ifs <;> rfl

theorem settled_failed {answer : SdMmcErr} {b : CardBooks} {t : Transfer}
    (h : MemoryPc.Booked b (.blockFailed t)) :
    (b.memory answer (.blockFailed t)).Settled ↔ ¬ leavesBlocks.failed answer t := by
  have hleft := settled_of_remaining h.2.2.remaining
  change (if t.bFirstStep then b else b.sdMmcWaitEndOfBlocks t.read true (answer = .ok)).Settled ↔
    ¬ ((t.bFirstStep = true ∨ answer ≠ .ok) ∧ t.left ≠ 0)
  by_cases hfirst : t.bFirstStep = true
  · rw [if_pos hfirst, hleft]
    exact ⟨fun hnone hfault => hfault.2 hnone, fun hnot => not_not.mp fun hne => hnot ⟨Or.inl hfirst, hne⟩⟩
  · rw [if_neg hfirst]
    by_cases hok : answer = .ok
    · rw [hok]
      exact ⟨fun _ hfault => hfault.1.elim hfirst (fun hne => hne rfl), fun _ => settled_abort b t.read⟩
    · rw [decide_eq_false hok]
      change b.Settled ↔ _
      rw [hleft]
      exact ⟨fun hnone hfault => hfault.2 hnone,
        fun hnot => not_not.mp fun hne => hnot ⟨Or.inr hok, hne⟩⟩

theorem exact_leavesBlocks : leavesBlocks.Exact CardBooks.Settled where
  loop h hstep := settled_loop h hstep
  start _ := ⟨fun _ h => h, fun _ => rfl⟩
  wait h := by
    change _ ↔ ¬ ¬ _
    rw [not_not]
    exact settled_of_remaining h.2.2.remaining
  failed h := settled_failed h

/-- **When the assertion of `sd_mmc_select_slot` holds between two transfers.**  In a run no block stays in
the books while the main loop rests iff none of its steps leaves one there. -/
theorem settled_iff (vbusHigh : Bool) (ls : List Label) :
    EveryState (observed (step lunDesc) watchCard) (Rests CardBooks.Settled) (boot vbusHigh, .empty) ls ↔
      EveryStep (observed (step lunDesc) watchCard) (fun p l => ¬ leavesBlocks.At p.1 l)
        (boot vbusHigh, .empty) ls :=
  rests_iff exact_leavesBlocks rfl vbusHigh ls

end Firmware
end SoundingSoil
