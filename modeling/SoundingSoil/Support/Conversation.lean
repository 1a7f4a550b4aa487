import SoundingSoil.Support.Session

/-!
# What is said in a session

The conversations of a session as a whole, and sessions that are carried out by means of another device.

* `Says` — a session that ends has had a conversation that fits its result.
* `says_bind`, `says_seq`, `says_poll`, `says_of_wp` — the rules, and **`says_run`**: they hold with every device.
* `implement` — a session whose requests are carried out, one by one, by sessions with another device.
* `Chain` — a conversation as the other device sees it, request by request.
* **`says_implement`** — what a session says stays true when it is implemented, and the other device sees it.
-/

namespace SoundingSoil
namespace Support
namespace Session

variable {Q P : Type*} {R : Q → Type*} {S : P → Type*} {σ α β : Type*}

/-! ## Conversations and results -/

/-- Whatever the replies, if the session ends then its result and what was said fit together. -/
def Says : Session Q R α → (α → List (Exchange R) → Prop) → Prop
  | done a, spec => spec a []
  | stop, _ => True
  | ask q next, spec => ∀ r, (next r).Says fun a said => spec a (⟨q, r⟩ :: said)

theorem Says.mono {s : Session Q R α} {spec spec' : α → List (Exchange R) → Prop} (h : s.Says spec)
    (hspec : ∀ a said, spec a said → spec' a said) : s.Says spec' := by
  induction s generalizing spec spec' with
  | done a => exact hspec a [] h
  | stop => trivial
  | ask q next ih => exact fun r => ih r (h r) fun a said => hspec a (⟨q, r⟩ :: said)

theorem says_bind {s : Session Q R α} {f : α → Session Q R β} {spec : β → List (Exchange R) → Prop} :
    (s.bind f).Says spec ↔ s.Says fun a said => (f a).Says fun b rest => spec b (said ++ rest) := by
  induction s generalizing spec with
  | done a => exact Iff.rfl
  | stop => exact Iff.rfl
  | ask q next ih => exact forall_congr' fun r => ih r

/-- The rule of sequence. -/
theorem says_seq {s : Session Q R α} {f : α → Session Q R β} {spec : β → List (Exchange R) → Prop}
    (first : α → List (Exchange R) → Prop) (hfirst : s.Says first)
    (hrest : ∀ a said, first a said → (f a).Says fun b rest => spec b (said ++ rest)) : (s.bind f).Says spec :=
  says_bind.mpr (hfirst.mono hrest)

/-- The result of a session, turned into another. -/
def map (f : α → β) (s : Session Q R α) : Session Q R β :=
  s.bind fun a => done (f a)

theorem says_map {s : Session Q R α} {f : α → β} {spec : β → List (Exchange R) → Prop} :
    (s.map f).Says spec ↔ s.Says fun a said => spec (f a) said := by
  induction s generalizing spec with
  | done a => exact Iff.rfl
  | stop => exact Iff.rfl
  | ask q next ih => exact forall_congr' fun r => ih r

/-- The rule of polling, for what is said in any number of attempts. -/
theorem says_poll {attempt : Session Q R (Option Bool)} {spec : List (Exchange R) → Prop}
    (hattempt : attempt.Says fun _ said => spec said)
    (happend : ∀ said rest, spec said → spec rest → spec (said ++ rest)) (retry : Nat) :
    (poll attempt retry).Says fun _ said => spec said := by
  have hlast (said : List (Exchange R)) (h : spec said) : spec (said ++ []) := by
    rwa [List.append_nil]
  induction retry with
  | zero => exact says_seq _ hattempt fun _ said h => hlast said h
  | succ retry ih =>
      refine says_seq _ hattempt ?_
      rintro (_ | _ | _) said h
      · exact hlast said h
      · exact ih.mono fun _ rest hrest => happend said rest h hrest
      · exact hlast said h

/-- What a monitor tells is told by the conversation. -/
theorem says_of_wp {M : Type*} {monitor : Monitor R M} {s : Session Q R α} {m : M} {post : α → M → Prop}
    (h : s.wp monitor m post) :
    s.Says fun a said => monitor.Accepts m said ∧ post a (monitor.after m said) := by
  induction s generalizing m with
  | done a => exact ⟨trivial, h⟩
  | stop => trivial
  | ask q next ih =>
      intro r
      refine (ih r (h.2 r)).mono ?_
      rintro a said ⟨haccepts, hpost⟩
      exact ⟨⟨h.1, haccepts⟩, hpost⟩

/-- **It holds with every device.** -/
theorem says_run (device : Device R) {s : Session Q R α} {spec : α → List (Exchange R) → Prop} (h : s.Says spec)
    (past : List (Exchange R)) {a : α} (hend : (s.run device past).1 = some a) : spec a (s.run device past).2 := by
  induction s generalizing past spec with
  | done a' =>
      cases hend
      exact h
  | stop => exact absurd hend.symm (Option.some_ne_none a)
  | ask q next ih => exact ih _ (h (device past q)) _ hend

/-! ## Implementing requests -/

/-- Each request is a session with another device, which also has a state of its own. -/
def implement (impl : (q : Q) → σ → Session P S (R q × σ)) : Session Q R α → σ → Session P S (α × σ)
  | done a, state => done (a, state)
  | stop, _ => stop
  | ask q next, state => (impl q state).bind fun result => (next result.1).implement impl result.2

theorem says_implement_bind {impl : (q : Q) → σ → Session P S (R q × σ)} {s : Session Q R α} {f : α → Session Q R β}
    {state : σ} {spec : β × σ → List (Exchange S) → Prop} :
    ((s.bind f).implement impl state).Says spec ↔
      (s.implement impl state).Says fun result seen =>
        ((f result.1).implement impl result.2).Says fun result' rest => spec result' (seen ++ rest) := by
  induction s generalizing state spec with
  | done a => exact Iff.rfl
  | stop => exact Iff.rfl
  | ask q next ih => simp only [bind, implement, says_bind, ih, List.append_assoc]

/-- The rule of sequence for an implementation. -/
theorem says_implement_seq {impl : (q : Q) → σ → Session P S (R q × σ)} {s : Session Q R α} {f : α → Session Q R β}
    {state : σ} {spec : β × σ → List (Exchange S) → Prop} (first : α × σ → List (Exchange S) → Prop)
    (hfirst : (s.implement impl state).Says first)
    (hrest : ∀ a state' seen, first (a, state') seen →
      ((f a).implement impl state').Says fun result rest => spec result (seen ++ rest)) :
    ((s.bind f).implement impl state).Says spec :=
  says_implement_bind.mpr (hfirst.mono fun result seen => hrest result.1 result.2 seen)

theorem says_implement_request {impl : (q : Q) → σ → Session P S (R q × σ)} {q : Q} {state : σ}
    {spec : R q × σ → List (Exchange S) → Prop} :
    ((request q).implement impl state).Says spec ↔ (impl q state).Says spec := by
  rw [request, implement, says_bind]
  simp only [implement, Says, List.append_nil]

/-- A conversation, and what the other device sees of it: each exchange `Shows` its part, between two states. -/
inductive Chain (Shows : σ → Exchange R → List (Exchange S) → σ → Prop) :
    σ → List (Exchange R) → List (Exchange S) → σ → Prop
  | nil (state : σ) : Chain Shows state [] [] state
  | cons {state state' state'' : σ} {e : Exchange R} {said : List (Exchange R)} {part rest : List (Exchange S)}
      (hfirst : Shows state e part state') (hrest : Chain Shows state' said rest state'') :
      Chain Shows state (e :: said) (part ++ rest) state''

/-- A conversation in two parts is seen in two parts. -/
theorem Chain.split {Shows : σ → Exchange R → List (Exchange S) → σ → Prop} {state state' : σ}
    {said rest : List (Exchange R)} {seen : List (Exchange S)} (h : Chain Shows state (said ++ rest) seen state') :
    ∃ middle first last, seen = first ++ last ∧ Chain Shows state said first middle ∧
      Chain Shows middle rest last state' := by
  induction said generalizing state seen with
  | nil => exact ⟨state, [], seen, rfl, .nil state, h⟩
  | cons e said ih =>
      cases h with
      | cons hfirst hrest =>
          obtain ⟨middle, first, last, rfl, hsaid, hlast⟩ := ih hrest
          exact ⟨middle, _ ++ first, last, (List.append_assoc _ _ _).symm, .cons hfirst hsaid, hlast⟩

/-- **What is said stays true of the implementation**, and the other device sees it exchange by exchange. -/
theorem says_implement {impl : (q : Q) → σ → Session P S (R q × σ)}
    {Shows : σ → Exchange R → List (Exchange S) → σ → Prop}
    (himpl : ∀ q state, (impl q state).Says fun result part => Shows state ⟨q, result.1⟩ part result.2)
    {s : Session Q R α} {spec : α → List (Exchange R) → Prop} (h : s.Says spec) (state : σ) :
    (s.implement impl state).Says fun result seen =>
      ∃ said, spec result.1 said ∧ Chain Shows state said seen result.2 := by
  induction s generalizing spec state with
  | done a => exact ⟨[], h, .nil state⟩
  | stop => trivial
  | ask q next ih =>
      refine says_seq _ (himpl q state) ?_
      rintro ⟨r, state'⟩ part hpart
      refine (ih r (h r) state').mono ?_
      rintro ⟨a, state''⟩ rest ⟨said, hspec, hchain⟩
      exact ⟨⟨q, r⟩ :: said, hspec, .cons hpart hchain⟩

end Session
end Support
end SoundingSoil
