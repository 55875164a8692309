import Mathlib.Logic.Function.Basic
/-!
# Programs that call the operating system

A program is a tree of calls, each with a continuation for every result it may have.
`Ends p es a` says that `p` ends with `a` after the calls and results `es`: what holds of
all of these holds for every outcome of every call.
-/
namespace Os

/-- Programs over the calls `C`, where `c` has results in `R c`. -/
inductive Sys (C : Type) (R : C → Type) (α : Type) where
  | done (a : α)
  | call (c : C) (k : R c → Sys C R α)

variable {C : Type} {R : C → Type} {α β : Type}

/-- A call and its result. -/
abbrev Event (C : Type) (R : C → Type) := (c : C) × R c

namespace Sys

protected def bind : Sys C R α → (α → Sys C R β) → Sys C R β
  | done a, f => f a
  | call c k, f => call c fun r => (k r).bind f

instance : Monad (Sys C R) where
  pure := done
  bind := Sys.bind

/-- One call. -/
def sys (c : C) : Sys C R (R c) := call c done

/-- The program ends so, if the calls have these results. -/
inductive Ends : Sys C R α → List (Event C R) → α → Prop
  | done (a : α) : Ends (done a) [] a
  | call {c : C} {k : R c → Sys C R α} {r : R c} {es : List (Event C R)} {a : α} (h : Ends (k r) es a) :
      Ends (call c k) (⟨c, r⟩ :: es) a

variable {a b : α} {es : List (Event C R)}

@[simp] theorem ends_pure : Ends (pure a : Sys C R α) es b ↔ es = [] ∧ b = a := by
  constructor
  · intro h
    cases h
    exact ⟨rfl, rfl⟩
  · rintro ⟨rfl, rfl⟩
    exact .done _

theorem ends_sys_bind {c : C} {f : R c → Sys C R α} :
    Ends (sys c >>= f) es b ↔ ∃ r es', es = ⟨c, r⟩ :: es' ∧ Ends (f r) es' b := by
  constructor
  · intro h
    cases h with
    | call h => exact ⟨_, _, rfl, h⟩
  · rintro ⟨r, es', rfl, h⟩
    exact .call h

/-- What ends after a bind has ended in both of its parts. -/
theorem ends_bind {p : Sys C R α} {f : α → Sys C R β} {b : β} :
    Ends (p >>= f) es b ↔ ∃ a es₁ es₂, es = es₁ ++ es₂ ∧ Ends p es₁ a ∧ Ends (f a) es₂ b := by
  change Ends (p.bind f) es b ↔ _
  induction p generalizing es with
  | done a =>
    constructor
    · intro h
      exact ⟨a, [], es, rfl, .done a, h⟩
    · rintro ⟨_, _, es₂, rfl, ⟨⟩, h⟩
      exact h
  | call c k ih =>
    constructor
    · intro h
      cases h with
      | call h =>
        obtain ⟨a, es₁, es₂, rfl, h₁, h₂⟩ := (ih _).1 h
        exact ⟨a, _ :: es₁, es₂, rfl, .call h₁, h₂⟩
    · rintro ⟨a, _, es₂, rfl, h₁, h₂⟩
      cases h₁ with
      | call h₁ => exact .call ((ih _).2 ⟨a, _, es₂, rfl, h₁, h₂⟩)

theorem ends_sys {c : C} {r : R c} : Ends (sys c) es r ↔ es = [⟨c, r⟩] := by
  constructor
  · intro h
    cases h with
    | call h =>
      cases h
      rfl
  · rintro rfl
    exact .call (.done r)

theorem ends_bind_pure {p : Sys C R α} {f : α → β} {b : β} :
    Ends (p >>= fun a => pure (f a)) es b ↔ ∃ a, Ends p es a ∧ b = f a := by
  rw [ends_bind]
  constructor
  · rintro ⟨a, es₁, es₂, rfl, h, h'⟩
    obtain ⟨rfl, rfl⟩ := ends_pure.1 h'
    exact ⟨a, by rwa [List.append_nil], rfl⟩
  · rintro ⟨a, h, rfl⟩
    exact ⟨a, es, [], (List.append_nil es).symm, h, .done _⟩

/-- What is refused on a condition makes no call there. -/
theorem ends_refused {c : Prop} [Decidable c] {p : Sys C R α} (hc : c) (h : Ends (if c then pure a else p) es b) :
    es = [] ∧ b = a := by
  rw [if_pos hc] at h
  exact ends_pure.1 h

/-! ## Fixed answers -/

section Play
variable (answer : (c : C) → R c)

/-- What the program calls and ends with, where each call has its one answer. -/
def play : Sys C R α → List (Event C R) × α
  | done a => ([], a)
  | call c k => (⟨c, answer c⟩ :: (play (k (answer c))).1, (play (k (answer c))).2)

theorem play_ends (p : Sys C R α) : Ends p (p.play answer).1 (p.play answer).2 := by
  induction p with
  | done a => exact .done a
  | call c k ih => exact .call (ih _)

theorem play_answered (p : Sys C R α) : ∀ e ∈ (p.play answer).1, e.2 = answer e.1 := by
  induction p with
  | done a =>
    intro e he
    cases he
  | call c k ih =>
    intro e he
    rcases List.mem_cons.1 he with rfl | he
    · rfl
    · exact ih _ e he

end Play

/-! ## Programs that may be undefined -/

abbrev Partial (C : Type) (R : C → Type) := OptionT (Sys C R)

/-- What makes no call. -/
def checked (x : Option α) : Partial C R α := OptionT.mk (pure x)

theorem ends_checked {x : Option α} : Ends (checked x : Partial C R α).run es (some a) ↔ es = [] ∧ x = some a := by
  unfold checked
  rw [OptionT.run_mk, ends_pure]
  exact and_congr_right fun _ => eq_comm

theorem ends_lift {p : Sys C R α} : Ends (OptionT.lift p : Partial C R α).run es (some a) ↔ Ends p es a := by
  change Ends (p >>= fun a => pure (some a)) es (some a) ↔ _
  rw [ends_bind_pure]
  constructor
  · rintro ⟨b, h, he⟩
    obtain rfl := Option.some.inj he
    exact h
  · intro h
    exact ⟨a, h, rfl⟩

@[simp] theorem ends_partial_pure : Ends (pure a : Partial C R α).run es (some b) ↔ es = [] ∧ b = a := by
  change Ends (pure (some a)) es (some b) ↔ _
  rw [ends_pure, Option.some.injEq]

theorem ends_partial_bind {p : Partial C R α} {f : α → Partial C R β} {b : β} :
    Ends (p >>= f).run es (some b) ↔
      ∃ a es₁ es₂, es = es₁ ++ es₂ ∧ Ends p.run es₁ (some a) ∧ Ends (f a).run es₂ (some b) := by
  have hbind : (p >>= f).run = p.run >>= fun x => match x with
    | some a => (f a).run
    | none => pure none := rfl
  rw [hbind, ends_bind]
  constructor
  · rintro ⟨_ | a, es₁, es₂, rfl, h₁, h₂⟩
    · cases (ends_pure.1 h₂).2
    · exact ⟨a, es₁, es₂, rfl, h₁, h₂⟩
  · rintro ⟨a, es₁, es₂, rfl, h₁, h₂⟩
    exact ⟨some a, es₁, es₂, rfl, h₁, h₂⟩

/-- A bind whose first part makes no call. -/
theorem ends_checked_bind {x : Option α} {f : α → Partial C R β} {b : β} :
    Ends (checked x >>= f).run es (some b) ↔ ∃ a, x = some a ∧ Ends (f a).run es (some b) := by
  rw [ends_partial_bind]
  constructor
  · rintro ⟨a, es₁, es₂, rfl, h₁, h₂⟩
    obtain ⟨rfl, rfl⟩ := ends_checked.1 h₁
    exact ⟨a, rfl, h₂⟩
  · rintro ⟨a, rfl, h⟩
    exact ⟨a, [], es, rfl, ends_checked.2 ⟨rfl, rfl⟩, h⟩

/-! ## Weakest preconditions

A state of the caller's own that each call and its result move on: what has to hold of it
before a program, for every outcome of the calls. -/

section Wp
variable {σ : Type} (step : σ → Event C R → σ)

/-- `Q` holds of the state and the value that the program ends with. -/
def wp : Sys C R α → (σ → α → Prop) → σ → Prop
  | done a, Q, s => Q s a
  | call c k, Q, s => ∀ r, wp (k r) Q (step s ⟨c, r⟩)

variable {step} {p : Sys C R α} {Q Q' : σ → α → Prop} {s : σ}

@[simp] theorem wp_pure : wp step (pure a) Q s ↔ Q s a := Iff.rfl

@[simp] theorem wp_sys {c : C} {Q : σ → R c → Prop} : wp step (sys c) Q s ↔ ∀ r, Q (step s ⟨c, r⟩) r := Iff.rfl

@[simp] theorem wp_bind {f : α → Sys C R β} {Q : σ → β → Prop} :
    wp step (p >>= f) Q s ↔ wp step p (fun s a => wp step (f a) Q s) s := by
  change wp step (p.bind f) Q s ↔ _
  induction p generalizing s with
  | done a => exact Iff.rfl
  | call c k ih => exact forall_congr' fun r => ih r

theorem wp_mono (h : wp step p Q s) (hQ : ∀ s a, Q s a → Q' s a) : wp step p Q' s := by
  induction p generalizing s with
  | done a => exact hQ s a h
  | call c k ih => exact fun r => ih r (h r)

/-- It speaks of all runs of the program. -/
theorem wp_iff : wp step p Q s ↔ ∀ es a, Ends p es a → Q (es.foldl step s) a := by
  induction p generalizing s with
  | done a =>
    constructor
    · intro h es a he
      cases he
      exact h
    · intro h
      exact h [] a (.done a)
  | call c k ih =>
    constructor
    · intro h es a he
      cases he with
      | call he => exact (ih _).1 (h _) _ a he
    · intro h r
      exact (ih r).2 fun es a he => h (⟨c, r⟩ :: es) a (.call he)

end Wp

end Sys

end Os
