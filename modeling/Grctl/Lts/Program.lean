import Mathlib.Init

/-!
# Programs that call operations

A handler works on shared state by calls of a few operations, and between two of its calls
everything else can happen. A `Program` is such a handler: it returns, or it calls an operation and
goes on from the answer. It is written once and has two readings. `Program.run` performs all its
calls, with nothing in between. A scheduler performs one call at a time, and what is left of a
program after a call is a program again.

The calls of a program depend on the answers it gets. `Program.Safe` follows a program with a
monitor, whose state changes with each call and its answer: whatever the answers are, the monitor
allows every call. The rule `Program.Safe.run` takes an invariant of the state and the monitor
through all calls; a scheduler uses the two halves of the definition for a single call.

## Main definitions

* `Program`, `Program.bind`, `Program.map`, `Program.embed`.
* `Program.run`, `Program.trace`: the result and the calls of a program that is not interrupted.
* `Monitor`, `Program.Safe`.

## Main results

* `Program.run_bind`, `Program.trace_bind`, `Program.run_map`: how runs compose.
* `Program.Safe.bind`, `Program.Safe.map`, `Program.Safe.embed`: how safety composes.
* `Program.Safe.run`: the invariant rule.
-/

namespace Lts

/-- A program that returns a value, or calls an operation and goes on from its answer. -/
inductive Program (ω : Type) (ρ : ω → Type) (α : Type)
  | done (a : α)
  | call (op : ω) (next : ρ op → Program ω ρ α)

/-- What the calls of a program have to keep to: a state that changes with each call and its answer,
and the calls that are allowed in it. -/
structure Monitor (ω : Type) (ρ : ω → Type) (Q : Type) where
  next : Q → (op : ω) → ρ op → Q
  ok : Q → ω → Prop

namespace Program

variable {ω ω' : Type} {ρ : ω → Type} {ρ' : ω' → Type} {α β σ Q : Type}

/-- The second program goes on from the value of the first. -/
def bind (f : α → Program ω ρ β) : Program ω ρ α → Program ω ρ β
  | .done a => f a
  | .call op next => .call op fun answer => (next answer).bind f

/-- The program with another value. -/
def map (f : α → β) (p : Program ω ρ α) : Program ω ρ β := p.bind fun a => .done (f a)

/-- The same program as one of a larger interface. -/
def embed (f : ω → ω') (g : (op : ω) → ρ' (f op) → ρ op) : Program ω ρ α → Program ω' ρ' α
  | .done a => .done a
  | .call op next => .call (f op) fun answer => (next (g op answer)).embed f g

/-- The value of a program and the state after it, when nothing comes between its calls. -/
def run (perform : σ → (op : ω) → ρ op × σ) : Program ω ρ α → σ → α × σ
  | .done a, s => (a, s)
  | .call op next, s => (next (perform s op).1).run perform (perform s op).2

/-- The calls of a program that nothing interrupts. -/
def trace (perform : σ → (op : ω) → ρ op × σ) : Program ω ρ α → σ → List ω
  | .done _, _ => []
  | .call op next, s => op :: (next (perform s op).1).trace perform (perform s op).2

section Run

variable {perform : σ → (op : ω) → ρ op × σ} {s : σ}

@[simp] theorem run_done (a : α) : (done a : Program ω ρ α).run perform s = (a, s) := rfl

@[simp] theorem run_call (op : ω) (next : ρ op → Program ω ρ α) :
    (call op next).run perform s = (next (perform s op).1).run perform (perform s op).2 := rfl

@[simp] theorem trace_done (a : α) : (done a : Program ω ρ α).trace perform s = [] := rfl

@[simp] theorem trace_call (op : ω) (next : ρ op → Program ω ρ α) :
    (call op next).trace perform s =
      op :: (next (perform s op).1).trace perform (perform s op).2 := rfl

@[simp] theorem run_bind (f : α → Program ω ρ β) (p : Program ω ρ α) :
    (p.bind f).run perform s = (f (p.run perform s).1).run perform (p.run perform s).2 := by
  induction p generalizing s with
  | done a => rfl
  | call op next ih => exact ih _

@[simp] theorem trace_bind (f : α → Program ω ρ β) (p : Program ω ρ α) :
    (p.bind f).trace perform s =
      p.trace perform s ++ (f (p.run perform s).1).trace perform (p.run perform s).2 := by
  induction p generalizing s with
  | done a => rfl
  | call op next ih => exact congrArg (op :: ·) (ih _)

@[simp] theorem run_map (f : α → β) (p : Program ω ρ α) :
    (p.map f).run perform s = (f (p.run perform s).1, (p.run perform s).2) :=
  run_bind ..

end Run

/-- Whatever answers it gets, the program makes only calls that the monitor allows, and it ends as
`post` says. -/
def Safe (m : Monitor ω ρ Q) (post : Q → α → Prop) : Q → Program ω ρ α → Prop
  | q, .done a => post q a
  | q, .call op next => m.ok q op ∧ ∀ answer, Safe m post (m.next q op answer) (next answer)

section Safe

variable {m : Monitor ω ρ Q} {post : Q → α → Prop} {p : Program ω ρ α} {q : Q}

theorem Safe.mono {post' : Q → α → Prop} (h : Safe m post q p)
    (himp : ∀ q a, post q a → post' q a) : Safe m post' q p := by
  induction p generalizing q with
  | done a => exact himp q a h
  | call op next ih => exact ⟨h.1, fun answer => ih answer (h.2 answer)⟩

theorem Safe.bind {f : α → Program ω ρ β} {post : Q → β → Prop}
    (h : Safe m (fun q a => Safe m post q (f a)) q p) : Safe m post q (p.bind f) := by
  induction p generalizing q with
  | done a => exact h
  | call op next ih => exact ⟨h.1, fun answer => ih answer (h.2 answer)⟩

theorem Safe.map {f : α → β} {post : Q → β → Prop} (h : Safe m (fun q a => post q (f a)) q p) :
    Safe m post q (p.map f) :=
  Safe.bind h

/-- A monitor of the larger interface that agrees with one of the smaller. -/
theorem Safe.embed {f : ω → ω'} {g : (op : ω) → ρ' (f op) → ρ op} {m' : Monitor ω' ρ' Q}
    (h : Safe m post q p) (hok : ∀ q op, m.ok q op → m'.ok q (f op))
    (hnext : ∀ q op answer, m'.next q (f op) answer = m.next q op (g op answer)) :
    Safe m' post q (p.embed f g) := by
  induction p generalizing q with
  | done a => exact h
  | call op next ih =>
    refine ⟨hok q op h.1, fun answer => ?_⟩
    rw [hnext]
    exact ih _ (h.2 _)

/-- The invariant rule: what every allowed call keeps, from whatever state, a safe program keeps. -/
theorem Safe.run {perform : σ → (op : ω) → ρ op × σ} {Inv : Q → σ → Prop} {s : σ}
    (h : Safe m post q p) (hs : Inv q s)
    (hcall : ∀ q s op, m.ok q op → Inv q s →
      Inv (m.next q op (perform s op).1) (perform s op).2) :
    ∃ q', post q' (p.run perform s).1 ∧ Inv q' (p.run perform s).2 := by
  induction p generalizing q s with
  | done a => exact ⟨q, h, hs⟩
  | call op next ih => exact ih _ (h.2 _) (hcall q s op h.1 hs)

end Safe

end Program

end Lts
