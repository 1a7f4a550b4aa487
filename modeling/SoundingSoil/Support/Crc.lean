import Mathlib.Algebra.Field.ZMod
import Mathlib.Algebra.Polynomial.FieldDivision
import Mathlib.Algebra.Polynomial.OfFn
import Mathlib.Data.ZMod.Basic

/-!
# Cyclic redundancy checks

A register of `n` bits, shifted once for each bit of a message, holds the remainder of the message times `X ^ n`
by the generator polynomial over the field of two elements.

* `register` / **`generator_dvd_register`** — the shift register keeps that remainder, up to a multiple of the generator.
* **`dvd_codeword_iff`** — a message with its check bits is a multiple of the generator, and with no others.
* `detects_burst_within` — no error that fits into the register goes undetected.
* `detects_two` — nor do one or two errors, when the generator tells all pairs of places apart.
-/

namespace SoundingSoil
namespace Support
namespace Crc

open Polynomial

/-! ## Bits as polynomials -/

/-- A bit as an element of the field. -/
def bit (b : Bool) : ZMod 2 :=
  if b then 1 else 0

theorem bit_xor (a b : Bool) : bit (a ^^ b) = bit a + bit b := by
  cases a <;> cases b <;> decide

theorem bit_eq_zero {b : Bool} : bit b = 0 ↔ b = false := by
  cases b <;> decide

theorem bit_injective {a b : Bool} (h : bit a = bit b) : a = b := by
  cases a <;> cases b <;> first | rfl | exact absurd h (by decide)

/-- A word as a polynomial, its lowest bit first. -/
noncomputable def toPoly {n : Nat} (v : BitVec n) : (ZMod 2)[X] :=
  ofFn n fun i => bit (v.getLsbD i)

theorem coeff_toPoly {n : Nat} (v : BitVec n) (i : Nat) : (toPoly v).coeff i = bit (v.getLsbD i) := by
  by_cases hi : i < n
  · exact ofFn_coeff_eq_val_of_lt _ hi
  · rw [BitVec.getLsbD_of_ge v i (Nat.le_of_not_lt hi)]
    exact ofFn_coeff_eq_zero_of_ge _ (Nat.le_of_not_lt hi)

theorem degree_toPoly_lt {n : Nat} (v : BitVec n) : (toPoly v).degree < n :=
  ofFn_degree_lt _

theorem toPoly_injective {n : Nat} {v w : BitVec n} (h : toPoly v = toPoly w) : v = w := by
  apply BitVec.eq_of_getLsbD_eq
  intro i _
  refine bit_injective ?_
  rw [← coeff_toPoly, ← coeff_toPoly, h]

theorem toPoly_zero (n : Nat) : toPoly (0 : BitVec n) = 0 := by
  ext i
  rw [coeff_toPoly, coeff_zero, bit_eq_zero]
  simp

theorem toPoly_xor {n : Nat} (v w : BitVec n) : toPoly (v ^^^ w) = toPoly v + toPoly w := by
  ext i
  rw [coeff_add, coeff_toPoly, coeff_toPoly, coeff_toPoly, BitVec.getLsbD_xor, bit_xor]

/-- What leaves a word that is shifted up. -/
theorem toPoly_shiftLeft {n : Nat} (hn : 0 < n) (v : BitVec n) :
    toPoly (v <<< 1) = toPoly v * X + C (bit v.msb) * X ^ n := by
  have hmsb : v.msb = v.getLsbD (n - 1) := BitVec.msb_eq_getLsbD_last v
  ext i
  rw [coeff_add, coeff_C_mul, coeff_X_pow, coeff_toPoly, BitVec.getLsbD_shiftLeft]
  cases i with
  | zero =>
      rw [coeff_mul_X_zero, if_neg (by omega), mul_zero, add_zero]
      simp [bit]
  | succ i =>
      rw [coeff_mul_X, coeff_toPoly]
      by_cases hlt : i + 1 < n
      · rw [if_neg (by omega), mul_zero, add_zero]
        simp [hlt]
      · by_cases hlast : i + 1 = n
        · have hi : i = n - 1 := by omega
          rw [if_pos hlast, mul_one, hmsb, hi, CharTwo.add_self_eq_zero, bit_eq_zero]
          simp
          omega
        · rw [if_neg hlast, mul_zero, add_zero, BitVec.getLsbD_of_ge v i (by omega)]
          simp [hlt]

/-- The bits of a word in the order they are sent, the highest first. -/
def bitsOf {n : Nat} (v : BitVec n) : List Bool :=
  (List.range n).map v.getMsbD

theorem length_bitsOf {n : Nat} (v : BitVec n) : (bitsOf v).length = n := by
  rw [bitsOf, List.length_map, List.length_range]

/-- A message as a polynomial, its first bit the highest. -/
noncomputable def message : List Bool → (ZMod 2)[X]
  | [] => 0
  | b :: bs => C (bit b) * X ^ bs.length + message bs

theorem message_append (xs ys : List Bool) :
    message (xs ++ ys) = message xs * X ^ ys.length + message ys := by
  induction xs with
  | nil => rw [List.nil_append, message, zero_mul, zero_add]
  | cons x xs ih =>
      rw [List.cons_append, message, message, ih, List.length_append, pow_add]
      ring

theorem message_concat (xs : List Bool) (b : Bool) :
    message (xs ++ [b]) = message xs * X + C (bit b) := by
  rw [message_append, message, message, List.length_nil, List.length_singleton, pow_zero, pow_one, mul_one,
    add_zero]

/-- Messages of one length add up bit by bit. -/
theorem message_xor {xs ys : List Bool} (h : xs.length = ys.length) :
    message (List.zipWith (· ^^ ·) xs ys) = message xs + message ys := by
  induction xs generalizing ys with
  | nil =>
      rw [List.zipWith_nil_left, List.length_eq_zero_iff.mp h.symm, message, add_zero]
  | cons x xs ih =>
      cases ys with
      | nil => exact absurd h.symm (Nat.zero_ne_add_one xs.length)
      | cons y ys =>
          have hlength : xs.length = ys.length := Nat.succ.inj h
          rw [List.zipWith_cons_cons, message, message, message, ih hlength, List.length_zipWith, hlength,
            Nat.min_self, bit_xor, C_add]
          ring

theorem degree_message_lt (bs : List Bool) : (message bs).degree < bs.length := by
  induction bs with
  | nil => exact bot_lt_iff_ne_bot.mpr (by simp)
  | cons b bs ih =>
      refine lt_of_le_of_lt (degree_add_le _ _) (max_lt ?_ ?_)
      · refine lt_of_le_of_lt (degree_C_mul_X_pow_le bs.length _) ?_
        exact_mod_cast Nat.lt_succ_self bs.length
      · exact ih.trans (by exact_mod_cast Nat.lt_succ_self bs.length)

theorem message_eq_zero {bs : List Bool} : message bs = 0 ↔ true ∉ bs := by
  induction bs with
  | nil => simp [message]
  | cons b bs ih =>
      have hcoeff : (message (b :: bs)).coeff bs.length = bit b := by
        rw [message, coeff_add, coeff_C_mul_X_pow, if_pos rfl,
          coeff_eq_zero_of_degree_lt (degree_message_lt bs), add_zero]
      constructor
      · intro h
        rw [h, coeff_zero] at hcoeff
        have hb : b = false := bit_eq_zero.mp hcoeff.symm
        subst hb
        have hrest : message bs = 0 := by
          rw [message, bit, if_neg Bool.false_ne_true, C_0, zero_mul, zero_add] at h
          exact h
        rw [List.mem_cons, not_or]
        exact ⟨Bool.noConfusion, ih.mp hrest⟩
      · intro h
        rw [List.mem_cons, not_or] at h
        have hb : b = false := Bool.eq_false_of_not_eq_true (Ne.symm h.1)
        rw [message, hb, ih.mpr h.2, bit, if_neg Bool.false_ne_true, C_0, zero_mul, add_zero]

/-- The bits of a word are a message for its polynomial. -/
theorem message_bitsOf {n : Nat} (v : BitVec n) : message (bitsOf v) = toPoly v := by
  have hprefix (k : Nat) (hk : k ≤ n) (i : Nat) :
      (message ((List.range k).map v.getMsbD)).coeff i = if i < k then bit (v.getLsbD (i + (n - k))) else 0 := by
    induction k generalizing i with
    | zero => simp [message]
    | succ k ih =>
        rw [List.range_succ, List.map_append, List.map_singleton, message_concat, coeff_add, coeff_C]
        cases i with
        | zero =>
            rw [coeff_mul_X_zero, if_pos rfl, zero_add, if_pos (Nat.succ_pos k), BitVec.getMsbD]
            rw [decide_eq_true (by omega : k < n), Bool.true_and]
            congr 2
            omega
        | succ i =>
            rw [coeff_mul_X, if_neg (Nat.succ_ne_zero i), add_zero, ih (by omega)]
            by_cases hi : i < k
            · rw [if_pos hi, if_pos (Nat.succ_lt_succ hi)]
              congr 2
              omega
            · rw [if_neg hi, if_neg (fun h => hi (Nat.lt_of_succ_lt_succ h))]
  ext i
  rw [bitsOf, hprefix n (Nat.le_refl n), coeff_toPoly, Nat.sub_self, Nat.add_zero]
  split_ifs with hi
  · rfl
  · rw [BitVec.getLsbD_of_ge v i (Nat.le_of_not_lt hi)]
    rfl

/-! ## The shift register -/

section Register

variable {n : Nat}

/-- The generator: its lower coefficients are a word, its leading coefficient is one. -/
noncomputable def generator (g : BitVec n) : (ZMod 2)[X] :=
  X ^ n + toPoly g

/-- Take in one bit. -/
def shiftIn (g r : BitVec n) (b : Bool) : BitVec n :=
  if r.msb ^^ b then (r <<< 1) ^^^ g else r <<< 1

/-- The register after a message. -/
def register (g : BitVec n) (bs : List Bool) : BitVec n :=
  bs.foldl (shiftIn g) 0

variable (g : BitVec n)

theorem degree_generator : (generator g).degree = n := by
  have hlead : (X ^ n : (ZMod 2)[X]).degree = n := degree_X_pow n
  rw [generator, degree_add_eq_left_of_degree_lt (hlead ▸ degree_toPoly_lt g), hlead]

theorem generator_dvd_of_degree_lt {p : (ZMod 2)[X]} (hdegree : p.degree < n) (h : generator g ∣ p) : p = 0 := by
  refine eq_zero_of_dvd_of_degree_lt h ?_
  rw [degree_generator]
  exact hdegree

/-- One bit more, up to a multiple of the generator. -/
theorem toPoly_shiftIn (hn : 0 < n) (r : BitVec n) (b : Bool) :
    toPoly (shiftIn g r b) = toPoly r * X + C (bit b) * X ^ n + C (bit (r.msb ^^ b)) * generator g := by
  have htwice (p : (ZMod 2)[X]) : p + p = 0 := CharTwo.add_self_eq_zero p
  have hshift := toPoly_shiftLeft hn r
  unfold shiftIn generator
  split_ifs with hout
  · -- The bit that leaves the register is taken off with the generator.
    have hb : bit b = bit r.msb + 1 := by
      cases hmsb : r.msb <;> cases b <;> rw [hmsb] at hout <;> first | rfl | exact absurd hout (by decide)
    have hone : bit true = 1 := rfl
    rw [toPoly_xor, hshift, hout, hb, hone, C_add, C_1]
    calc toPoly r * X + C (bit r.msb) * X ^ n + toPoly g
        = toPoly r * X + C (bit r.msb) * X ^ n + toPoly g + (X ^ n + X ^ n) := by rw [htwice, add_zero]
      _ = toPoly r * X + (C (bit r.msb) + 1) * X ^ n + 1 * (X ^ n + toPoly g) := by ring
  · have hb : b = r.msb := by
      cases hmsb : r.msb <;> cases b <;> rw [hmsb] at hout <;> first | rfl | exact absurd rfl hout
    have hzero : bit false = 0 := rfl
    rw [hshift, hb, Bool.xor_self, hzero, C_0, zero_mul, add_zero]

theorem register_concat (bs : List Bool) (b : Bool) :
    register g (bs ++ [b]) = shiftIn g (register g bs) b := by
  unfold register
  rw [List.foldl_append]
  rfl

/-- The register differs from the message by a multiple of the generator. -/
theorem generator_dvd_register (hn : 0 < n) (bs : List Bool) :
    generator g ∣ message bs * X ^ n - toPoly (register g bs) := by
  induction bs using List.reverseRecOn with
  | nil =>
      have hzero : register g [] = 0 := rfl
      rw [message, hzero, toPoly_zero, zero_mul, sub_zero]
      exact dvd_zero _
  | append_singleton bs b ih =>
      rw [register_concat, toPoly_shiftIn g hn, message_concat]
      have hsplit : (message bs * X + C (bit b)) * X ^ n - (toPoly (register g bs) * X + C (bit b) * X ^ n +
          C (bit ((register g bs).msb ^^ b)) * generator g) =
          (message bs * X ^ n - toPoly (register g bs)) * X -
            C (bit ((register g bs).msb ^^ b)) * generator g := by
        ring
      rw [hsplit]
      exact dvd_sub (ih.mul_right X) (dvd_mul_left _ _)

/-! ## Error detection -/

/-- **The check bits.**  A message followed by check bits is a multiple of the generator iff these are the ones
of the message. -/
theorem dvd_codeword_iff (hn : 0 < n) (bs : List Bool) (c : BitVec n) :
    generator g ∣ message (bs ++ bitsOf c) ↔ c = register g bs := by
  have hsplit : message (bs ++ bitsOf c) =
      (message bs * X ^ n - toPoly (register g bs)) + (toPoly (register g bs) + toPoly c) := by
    rw [message_append, message_bitsOf, length_bitsOf]
    ring
  rw [hsplit, dvd_add_right (generator_dvd_register g hn bs), ← toPoly_xor]
  constructor
  · intro h
    have hzero := generator_dvd_of_degree_lt g (degree_toPoly_lt _) h
    rw [← toPoly_zero n] at hzero
    exact (BitVec.xor_eq_zero_iff.mp (toPoly_injective hzero)).symm
  · rintro rfl
    have hzero : toPoly (0#n) = 0 := toPoly_zero n
    rw [BitVec.xor_self, hzero]
    exact dvd_zero _

theorem dvd_iff_register (hn : 0 < n) (bs : List Bool) :
    generator g ∣ message bs * X ^ n ↔ register g bs = 0 := by
  have hsplit : message bs * X ^ n =
      (message bs * X ^ n - toPoly (register g bs)) + toPoly (register g bs) := by ring
  rw [hsplit, dvd_add_right (generator_dvd_register g hn bs)]
  constructor
  · intro h
    have hzero := generator_dvd_of_degree_lt g (degree_toPoly_lt _) h
    rw [← toPoly_zero n] at hzero
    exact toPoly_injective hzero
  · intro h
    rw [h, toPoly_zero]
    exact dvd_zero _

/-- A generator with a constant term has no factor in common with a shift. -/
theorem isCoprime_generator (hg : g.getLsbD 0 = true) (k : Nat) :
    IsCoprime (generator g) (X ^ k : (ZMod 2)[X]) := by
  refine IsCoprime.pow_right ?_
  by_cases hn : n = 0
  · subst hn
    exact absurd (BitVec.getLsbD_of_ge g 0 (Nat.le_refl 0)) (ne_false_of_eq_true hg)
  · have hcoeff : (generator g).coeff 0 = 1 := by
      rw [generator, coeff_add, coeff_X_pow, if_neg (fun h => hn h.symm), coeff_toPoly, hg, zero_add]
      rfl
    have hsplit := divX_mul_X_add (generator g)
    rw [hcoeff, C_1] at hsplit
    refine ⟨1, -divX (generator g), ?_⟩
    rw [one_mul, neg_mul, ← sub_eq_add_neg, sub_eq_iff_eq_add, add_comm]
    exact hsplit.symm

/-- Zeros before an error leave the register at zero. -/
theorem register_zeros (k : Nat) (bs : List Bool) :
    register g (List.replicate k false ++ bs) = register g bs := by
  have hstay : shiftIn g 0 false = 0 := by
    have hmsb : (0 : BitVec n).msb = false := BitVec.msb_zero
    rw [shiftIn, hmsb, Bool.xor_self, if_neg Bool.false_ne_true]
    simp
  induction k with
  | zero => rfl
  | succ k ih =>
      rw [List.replicate_succ, List.cons_append]
      unfold register at ih ⊢
      rw [List.foldl_cons, hstay]
      exact ih

/-- Zeros after an error do not change whether its register is zero. -/
theorem register_shifted (hg : g.getLsbD 0 = true) (hn : 0 < n) (bs : List Bool) (k : Nat) :
    register g (bs ++ List.replicate k false) = 0 ↔ register g bs = 0 := by
  have hzeros : message (List.replicate k false) = 0 := by
    rw [message_eq_zero]
    exact fun h => Bool.noConfusion (List.eq_of_mem_replicate h)
  rw [← dvd_iff_register g hn, ← dvd_iff_register g hn, message_append, hzeros, add_zero, List.length_replicate,
    mul_right_comm]
  exact ⟨fun h => (isCoprime_generator g hg k).dvd_of_dvd_mul_right h, fun h => h.mul_right _⟩

/-- **Bursts are detected.**  No error of at most the length of the register ends at zero. -/
theorem detects_burst (hg : g.getLsbD 0 = true) (hn : 0 < n) {bs : List Bool} (hlength : bs.length ≤ n)
    (herror : true ∈ bs) : register g bs ≠ 0 := by
  intro hzero
  have hdvd := (isCoprime_generator g hg n).dvd_of_dvd_mul_right ((dvd_iff_register g hn bs).mpr hzero)
  have hdegree : (message bs).degree < n :=
    (degree_message_lt bs).trans_le (by exact_mod_cast hlength)
  exact message_eq_zero.mp (generator_dvd_of_degree_lt g hdegree hdvd) herror

/-- **Errors that fit into the register are detected wherever they stand.** -/
theorem detects_burst_within (hg : g.getLsbD 0 = true) (hn : 0 < n) {bs : List Bool} (hlength : bs.length ≤ n)
    (herror : true ∈ bs) (a b : Nat) :
    register g (List.replicate a false ++ (bs ++ List.replicate b false)) ≠ 0 := by
  rw [register_zeros, Ne, register_shifted g hg hn]
  exact detects_burst g hg hn hlength herror

/-! ### Few errors -/

/-- Cut an error at its first bit. -/
theorem exists_first_error {e : List Bool} (h : true ∈ e) :
    ∃ a rest, e = List.replicate a false ++ true :: rest := by
  induction e with
  | nil => exact absurd h List.not_mem_nil
  | cons b e ih =>
      cases b with
      | true => exact ⟨0, e, rfl⟩
      | false =>
          have hrest : true ∈ e := (List.mem_cons.mp h).resolve_left Bool.noConfusion
          obtain ⟨a, rest, hsplit⟩ := ih hrest
          exact ⟨a + 1, rest, by rw [hsplit, List.replicate_succ, List.cons_append]⟩

theorem eq_zeros_of_count {e : List Bool} (h : e.count true = 0) : e = List.replicate e.length false := by
  refine List.eq_replicate_of_mem fun b hb => ?_
  cases b with
  | false => rfl
  | true => exact absurd hb (List.count_eq_zero.mp h)

theorem count_first_error (a : Nat) (rest : List Bool) :
    (List.replicate a false ++ true :: rest).count true = rest.count true + 1 := by
  rw [List.count_append, List.count_replicate, List.count_cons_self]
  simp

/-- **One or two errors are detected** when no two errors of the length of the word cancel out. -/
theorem detects_two (hg : g.getLsbD 0 = true) (hn : 0 < n) {m : Nat}
    (hpairs : ∀ k, k + 2 ≤ m → register g (true :: (List.replicate k false ++ [true])) ≠ 0) {e : List Bool}
    (hlength : e.length ≤ m) (herror : true ∈ e) (hfew : e.count true ≤ 2) : register g e ≠ 0 := by
  obtain ⟨a, rest, rfl⟩ := exists_first_error herror
  rw [count_first_error] at hfew
  by_cases hsecond : true ∈ rest
  · obtain ⟨k, last, rfl⟩ := exists_first_error hsecond
    rw [count_first_error] at hfew
    rw [eq_zeros_of_count (by omega : last.count true = 0)]
    have hshape : true :: (List.replicate k false ++ true :: List.replicate last.length false) =
        (true :: (List.replicate k false ++ [true])) ++ List.replicate last.length false := by
      rw [List.cons_append, List.append_assoc, List.singleton_append]
    rw [register_zeros, hshape, Ne, register_shifted g hg hn]
    refine hpairs k ?_
    simp only [List.length_append, List.length_replicate, List.length_cons] at hlength
    omega
  · rw [eq_zeros_of_count (List.count_eq_zero.mpr hsecond)]
    have hone : [true].length ≤ n := hn
    exact detects_burst_within g hg hn hone List.mem_cons_self a rest.length

end Register

end Crc
end Support
end SoundingSoil
