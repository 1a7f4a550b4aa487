import Mathlib.Data.List.Basic

/-!
# Sessions with a device

A program that puts requests to a device and goes on by its replies.  Nothing is assumed of the device: a reply may
depend on everything that was asked and answered before.

* `Session` / `run` — the program as a tree of requests, and its conversation with a device.
* `Machine` / `run_device` — a device with a state of its own, whose replies need no look back.
* `Monitor` / `wp` — what the requests may be, told from the conversation so far, and the weakest precondition.
* `wp_seq`, `wp_guard`, `wp_thenWith`, `wp_poll`, `wp_times` — the rules.
* **`run_spec`** — a program with its precondition keeps the monitor's rules with every device, and meets its
  postcondition when it ends.
* `EndsWithin` / **`run_endsWithin`** — with every device a session comes to its end, within a number of requests.
-/

namespace SoundingSoil
namespace Support

/-- A program that asks requests `q : Q`, with replies of type `R q`.  It ends with a result, or breaks off. -/
inductive Session (Q : Type*) (R : Q → Type*) (α : Type*) where
  | done (a : α)
  | stop
  | ask (q : Q) (next : R q → Session Q R α)

namespace Session

variable {Q : Type*} {R : Q → Type*} {α β : Type*}

def bind : Session Q R α → (α → Session Q R β) → Session Q R β
  | done a, f => f a
  | stop, _ => stop
  | ask q next, f => ask q fun r => (next r).bind f

/-- One request, and its reply as the result. -/
def request (q : Q) : Session Q R (R q) :=
  ask q done

/-- Go on only after success. -/
def guard (s : Session Q R Bool) (failed : α) (rest : Session Q R α) : Session Q R α :=
  s.bind fun ok => if ok then rest else done failed

/-- Go on only after success, with what the first part made. -/
def thenWith (s : Session Q R (Bool × α)) (rest : α → Session Q R (Bool × α)) : Session Q R (Bool × α) :=
  s.bind fun result => if result.1 then rest result.2 else done result

/-- Try until an attempt says it is done, or fails, or no retry is left. -/
def poll (attempt : Session Q R (Option Bool)) : Nat → Session Q R Bool
  | 0 => attempt.bind fun answer => done (answer == some true)
  | retry + 1 => attempt.bind fun answer =>
      match answer with
      | none => done false
      | some true => done true
      | some false => poll attempt retry

/-- A number of steps in a row, as long as they succeed. -/
def times (s : Session Q R Bool) : Nat → Session Q R Bool
  | 0 => done true
  | n + 1 => s.guard false (times s n)

/-! ## Conversations -/

/-- A request with its reply. -/
abbrev Exchange (R : Q → Type*) := (q : Q) × R q

/-- A device answers a request, given the conversation so far. -/
abbrev Device (R : Q → Type*) := List (Exchange R) → (q : Q) → R q

/-- The result, if there is one, and what was said after `past`. -/
def run (device : Device R) : Session Q R α → List (Exchange R) → Option α × List (Exchange R)
  | done a, _ => (some a, [])
  | stop, _ => (none, [])
  | ask q next, past =>
      let exchange := ⟨q, device past q⟩
      let rest := (next exchange.2).run device (past ++ [exchange])
      (rest.1, exchange :: rest.2)

/-! ## Devices with a state -/

/-- A device that keeps a state of its own, instead of all that was said. -/
structure Machine (R : Q → Type*) (σ : Type*) where
  reply : σ → (q : Q) → R q
  next : σ → Q → σ

variable {σ : Type*}

def Machine.after (machine : Machine R σ) (state : σ) (past : List (Exchange R)) : σ :=
  past.foldl (fun state e => machine.next state e.1) state

/-- The machine as a device, from a state on. -/
def Machine.device (machine : Machine R σ) (state : σ) : Device R :=
  fun past q => machine.reply (machine.after state past) q

/-- The result with a machine, without the conversation. -/
def runOn (machine : Machine R σ) : Session Q R α → σ → Option α
  | done a, _ => some a
  | stop, _ => none
  | ask q next, state => (next (machine.reply state q)).runOn machine (machine.next state q)

/-- The state stands for the conversation so far. -/
theorem run_device (machine : Machine R σ) (s : Session Q R α) (state : σ) (past : List (Exchange R)) :
    (s.run (machine.device state) past).1 = s.runOn machine (machine.after state past) := by
  induction s generalizing past with
  | done a => rfl
  | stop => rfl
  | ask q next ih =>
      have hafter (r : R q) : machine.after state (past ++ [⟨q, r⟩]) = machine.next (machine.after state past) q :=
        List.foldl_append
      simp only [run, runOn, ih, hafter]
      rfl

/-! ## Rules for the requests -/

/-- What is known from the conversation so far, and which requests that permits. -/
structure Monitor (R : Q → Type*) (M : Type*) where
  step : M → (q : Q) → R q → M
  Allows : M → Q → Prop

variable {M : Type*} (monitor : Monitor R M)

/-- What is known after a conversation. -/
def Monitor.after (m : M) (exchanges : List (Exchange R)) : M :=
  exchanges.foldl (fun m e => monitor.step m e.1 e.2) m

/-- Every request of the conversation is permitted where it stands. -/
def Monitor.Accepts : M → List (Exchange R) → Prop
  | _, [] => True
  | m, e :: rest => monitor.Allows m e.1 ∧ Monitor.Accepts (monitor.step m e.1 e.2) rest

/-- The weakest precondition: only permitted requests, and the postcondition at the end, whatever the replies. -/
def wp : Session Q R α → M → (α → M → Prop) → Prop
  | done a, m, post => post a m
  | stop, _, _ => True
  | ask q next, m, post => monitor.Allows m q ∧ ∀ r, (next r).wp (monitor.step m q r) post

variable {monitor}

theorem wp_mono {s : Session Q R α} {m : M} {post post' : α → M → Prop} (hpost : ∀ a m, post a m → post' a m)
    (h : s.wp monitor m post) : s.wp monitor m post' := by
  induction s generalizing m with
  | done a => exact hpost a m h
  | stop => trivial
  | ask q next ih => exact ⟨h.1, fun r => ih r (h.2 r)⟩

theorem wp_bind {s : Session Q R α} {f : α → Session Q R β} {m : M} {post : β → M → Prop} :
    (s.bind f).wp monitor m post ↔ s.wp monitor m fun a m' => (f a).wp monitor m' post := by
  induction s generalizing m with
  | done a => exact Iff.rfl
  | stop => exact Iff.rfl
  | ask q next ih => exact and_congr_right fun _ => forall_congr' fun r => ih r

/-- The rule of sequence. -/
theorem wp_seq {s : Session Q R α} {f : α → Session Q R β} {m : M} {mid : α → M → Prop} {post : β → M → Prop}
    (hfirst : s.wp monitor m mid) (hrest : ∀ a m', mid a m' → (f a).wp monitor m' post) :
    (s.bind f).wp monitor m post :=
  wp_bind.mpr (wp_mono hrest hfirst)

theorem wp_guard {s : Session Q R Bool} {failed : α} {rest : Session Q R α} {m : M}
    {post : α → M → Prop} (mid : Bool → M → Prop) (hfirst : s.wp monitor m mid) (hfailed : ∀ m', mid false m' → post failed m')
    (hrest : ∀ m', mid true m' → rest.wp monitor m' post) : (s.guard failed rest).wp monitor m post := by
  refine wp_seq hfirst ?_
  intro ok m' hmid
  cases ok with
  | false => exact hfailed m' hmid
  | true => exact hrest m' hmid

/-- The rule of sequence, where only success counts. -/
theorem wp_thenWith {s : Session Q R (Bool × α)} {rest : α → Session Q R (Bool × α)} {m : M}
    {post : α → M → Prop} (mid : α → M → Prop)
    (hfirst : s.wp monitor m fun result m' => result.1 = true → mid result.2 m')
    (hrest : ∀ a m', mid a m' → (rest a).wp monitor m' fun result m'' => result.1 = true → post result.2 m'') :
    (s.thenWith rest).wp monitor m fun result m' => result.1 = true → post result.2 m' := by
  refine wp_seq hfirst ?_
  rintro ⟨_ | _, a⟩ m' hmid
  · exact Bool.noConfusion
  · exact hrest a m' (hmid rfl)

/-- The same for a first part that only says whether it succeeds. -/
theorem wp_guardWith {s : Session Q R Bool} {failed : α} {rest : Session Q R (Bool × α)} {m : M}
    {post : α → M → Prop} (mid : M → Prop) (hfirst : s.wp monitor m fun ok m' => ok = true → mid m')
    (hrest : ∀ m', mid m' → rest.wp monitor m' fun result m'' => result.1 = true → post result.2 m'') :
    (s.guard (false, failed) rest).wp monitor m fun result m' => result.1 = true → post result.2 m' :=
  wp_guard (fun ok m' => ok = true → mid m') hfirst (fun _ _ => Bool.noConfusion) fun m' hmid => hrest m' (hmid rfl)

/-- The rule of polling: an attempt keeps the invariant, and the last one says how the polling ends. -/
theorem wp_poll {attempt : Session Q R (Option Bool)} {post : Bool → M → Prop} (inv : M → Prop)
    (hattempt : ∀ m, inv m → attempt.wp monitor m fun answer m' =>
      inv m' ∧ post (answer == some true) m') (retry : Nat) {m : M} (hm : inv m) :
    (poll attempt retry).wp monitor m post := by
  induction retry generalizing m with
  | zero => exact wp_seq (hattempt m hm) fun answer m' h => h.2
  | succ retry ih =>
      refine wp_seq (hattempt m hm) ?_
      rintro (_ | _ | _) m' ⟨hinv, hpost⟩
      · exact hpost
      · exact ih hinv
      · exact hpost

/-- The rule of repetition. -/
theorem wp_times {s : Session Q R Bool} (inv : Nat → M → Prop) (failed : M → Prop)
    (hstep : ∀ n m, inv (n + 1) m → s.wp monitor m fun ok m' => if ok then inv n m' else failed m') (n : Nat) {m : M}
    (hm : inv n m) : (times s n).wp monitor m fun ok m' => if ok then inv 0 m' else failed m' := by
  induction n generalizing m with
  | zero => exact hm
  | succ n ih => exact wp_guard _ (hstep n m hm) (fun _ h => h) fun _ h => ih h

/-- **The rules hold with every device.** -/
theorem run_spec (device : Device R) {s : Session Q R α} {m : M} {post : α → M → Prop} (h : s.wp monitor m post)
    (past : List (Exchange R)) :
    monitor.Accepts m (s.run device past).2 ∧
      ∀ a, (s.run device past).1 = some a → post a (monitor.after m (s.run device past).2) := by
  induction s generalizing m past with
  | done a =>
      refine ⟨trivial, fun a' ha => ?_⟩
      cases ha
      exact h
  | stop => exact ⟨trivial, fun a ha => absurd ha.symm (Option.some_ne_none a)⟩
  | ask q next ih =>
      obtain ⟨hrest, hpost⟩ := ih _ (h.2 (device past q)) (past ++ [⟨q, device past q⟩])
      exact ⟨⟨h.1, hrest⟩, hpost⟩

/-! ## Coming to an end -/

/-- A result after no more than `n` requests, whatever the replies, unless the session breaks off at a fatal one. -/
def EndsWithin (fatal : Exchange R → Prop) : Nat → Session Q R α → Prop
  | _, done _ => True
  | _, stop => False
  | 0, ask _ _ => False
  | n + 1, ask q next => ∀ r, EndsWithin fatal n (next r) ∨ fatal ⟨q, r⟩ ∧ next r = stop

section Length

variable {fatal : Exchange R → Prop}

theorem EndsWithin.mono {n n' : Nat} {s : Session Q R α} (h : s.EndsWithin fatal n) (hle : n ≤ n') :
    s.EndsWithin fatal n' := by
  induction s generalizing n n' with
  | done a => cases n' <;> trivial
  | stop => cases n <;> exact h.elim
  | ask q next ih =>
      cases n with
      | zero => exact h.elim
      | succ n =>
          cases n' with
          | zero => exact absurd hle (Nat.not_succ_le_zero n)
          | succ n' => exact fun r => (h r).imp_left fun hnext => ih r hnext (Nat.le_of_succ_le_succ hle)

theorem endsWithin_done (n : Nat) (a : α) : (done a : Session Q R α).EndsWithin fatal n := by
  cases n <;> trivial

theorem EndsWithin.bind {n : Nat} {s : Session Q R α} {f : α → Session Q R β} (hs : s.EndsWithin fatal n) (n' : Nat)
    (hf : ∀ a, (f a).EndsWithin fatal n') : (s.bind f).EndsWithin fatal (n + n') := by
  induction s generalizing n with
  | done a => exact (hf a).mono (Nat.le_add_left n' n)
  | stop => cases n <;> exact hs.elim
  | ask q next ih =>
      cases n with
      | zero => exact hs.elim
      | succ n =>
          rw [Nat.succ_add]
          intro r
          rcases hs r with hnext | ⟨hfatal, hstop⟩
          · exact Or.inl (ih r hnext)
          · exact Or.inr ⟨hfatal, congrArg (fun s => s.bind f) hstop⟩

theorem EndsWithin.guard {n : Nat} {s : Session Q R Bool} {failed : α} {rest : Session Q R α}
    (hs : s.EndsWithin fatal n) (n' : Nat) (hrest : rest.EndsWithin fatal n') :
    (s.guard failed rest).EndsWithin fatal (n + n') := by
  refine hs.bind n' fun ok => ?_
  cases ok with
  | false => exact endsWithin_done n' failed
  | true => exact hrest

theorem EndsWithin.thenWith {n : Nat} {s : Session Q R (Bool × α)} {rest : α → Session Q R (Bool × α)}
    (hs : s.EndsWithin fatal n) (n' : Nat) (hrest : ∀ a, (rest a).EndsWithin fatal n') :
    (s.thenWith rest).EndsWithin fatal (n + n') := by
  refine hs.bind n' ?_
  rintro ⟨_ | _, a⟩
  · exact endsWithin_done n' _
  · exact hrest a

theorem EndsWithin.poll {n : Nat} {attempt : Session Q R (Option Bool)} (h : attempt.EndsWithin fatal n) (retry : Nat) :
    (poll attempt retry).EndsWithin fatal (n * (retry + 1)) := by
  induction retry with
  | zero => exact (h.bind 0 fun _ => endsWithin_done 0 _).mono (by omega)
  | succ retry ih =>
      have hrest : ∀ answer : Option Bool, (match answer with
          | none => done false
          | some true => done true
          | some false => Session.poll attempt retry).EndsWithin fatal (n * (retry + 1)) := by
        rintro (_ | _ | _)
        · exact endsWithin_done _ false
        · exact ih
        · exact endsWithin_done _ true
      exact (h.bind _ hrest).mono (by rw [Nat.mul_succ n (retry + 1)]; omega)

theorem EndsWithin.times {n : Nat} {s : Session Q R Bool} (h : s.EndsWithin fatal n) (k : Nat) :
    (times s k).EndsWithin fatal (n * k) := by
  induction k with
  | zero => exact endsWithin_done _ true
  | succ k ih => exact (h.guard _ ih).mono (by rw [Nat.mul_succ]; omega)

theorem endsWithin_request (q : Q) : (request q : Session Q R (R q)).EndsWithin fatal 1 :=
  fun _ => Or.inl trivial

/-- **The bound holds with every device**, and there is a result unless the last reply was a fatal one. -/
theorem run_endsWithin (device : Device R) {n : Nat} {s : Session Q R α} (h : s.EndsWithin fatal n)
    (past : List (Exchange R)) :
    (s.run device past).2.length ≤ n ∧
      ((∃ a, (s.run device past).1 = some a) ∨ ∃ said e, (s.run device past).2 = said ++ [e] ∧ fatal e) := by
  induction s generalizing n past with
  | done a => exact ⟨Nat.zero_le n, Or.inl ⟨a, rfl⟩⟩
  | stop => cases n <;> exact h.elim
  | ask q next ih =>
      cases n with
      | zero => exact h.elim
      | succ n =>
          rcases h (device past q) with hnext | ⟨hfatal, hstop⟩
          · obtain ⟨hlength, hend⟩ := ih _ hnext (past ++ [⟨q, device past q⟩])
            refine ⟨Nat.succ_le_succ hlength, hend.imp_right ?_⟩
            rintro ⟨said, e, hsaid, he⟩
            exact ⟨⟨q, device past q⟩ :: said, e, congrArg (_ :: ·) hsaid, he⟩
          · have hrun : (ask q next).run device past = (none, [⟨q, device past q⟩]) := by
              simp only [run, hstop]
            rw [hrun]
            exact ⟨Nat.succ_le_succ (Nat.zero_le n), Or.inr ⟨[], _, rfl, hfatal⟩⟩

end Length

end Session

end Support
end SoundingSoil
