import Mathlib.Data.List.Forall2
import LibPmc.Machine.Run
import LibPmc.Os
/-!
# Machines that make calls

The steps of a machine are programs that call the operating system. Where each of them that ends
does what another machine does without calls, each run that ends is a run of the other machine:
`Implements.run`.
-/
namespace Machine

open Os Os.Sys

section Calls
variable {C : Type} {R : C → Type} {S E E' O : Type}

/-- A run with what is given back at each input. -/
def runOn (prog : S → E → Partial C R (S × O)) (s : S) : List E → Partial C R (S × List O)
  | [] => return (s, [])
  | e :: es => do
    let (s, out) ← prog s e
    let (s, outs) ← runOn prog s es
    return (s, out :: outs)

theorem runOn_cons {prog : S → E → Partial C R (S × O)} {s : S} {e : E} {es : List E} {calls : List (Event C R)}
    {r : S × List O} (h : Ends (runOn prog s (e :: es)).run calls (some r)) :
    ∃ t out outs calls₁ calls₂, calls = calls₁ ++ calls₂ ∧ r.2 = out :: outs ∧
      Ends (prog s e).run calls₁ (some (t, out)) ∧
      Ends (runOn prog t es).run calls₂ (some (r.1, outs)) := by
  obtain ⟨⟨t, out⟩, calls₁, _, rfl, h₁, h⟩ := ends_partial_bind.1 h
  obtain ⟨⟨u, outs⟩, calls₂, _, rfl, h₂, h⟩ := ends_partial_bind.1 h
  obtain ⟨rfl, rfl⟩ := ends_partial_pure.1 h
  exact ⟨t, out, outs, calls₁, calls₂, by rw [List.append_nil], rfl, h₁, h₂⟩

/-- Each step that ends with calls that may be is a step of the other machine, at an input that
stands for what was done. -/
def Implements (prog : S → E → Partial C R (S × O)) (step : S → E' → Option (S × O)) (may : Event C R → Prop)
    (stands : E → E' → List (Event C R) → O → Prop) : Prop :=
  ∀ ⦃s e calls t out⦄, Ends (prog s e).run calls (some (t, out)) → (∀ x ∈ calls, may x) →
    ∃ e', stands e e' calls out ∧ step s e' = some (t, out)

variable {prog : S → E → Partial C R (S × O)} {step : S → E' → Option (S × O)} {may : Event C R → Prop}
  {stands : E → E' → List (Event C R) → O → Prop}

theorem Implements.run (h : Implements prog step may stands) {s : S} {es : List E} {calls : List (Event C R)}
    {r : S × List O}
    (hr : Ends (runOn prog s es).run calls (some r)) (hm : ∀ x ∈ calls, may x) :
    ∃ trace : List (E' × List (Event C R) × O), calls = trace.flatMap (·.2.1) ∧ r.2 = trace.map (·.2.2) ∧
      List.Forall₂ (fun e x => stands e x.1 x.2.1 x.2.2) es trace ∧
      Machine.run step s (trace.map (·.1)) = some (r.1, trace.map fun x => (x.1, x.2.2)) := by
  induction es generalizing s calls r with
  | nil =>
    obtain ⟨rfl, rfl⟩ := ends_partial_pure.1 hr
    exact ⟨[], rfl, rfl, .nil, rfl⟩
  | cons e es ih =>
    obtain ⟨t, out, outs, calls₁, calls₂, rfl, hout, h₁, h₂⟩ := runOn_cons hr
    obtain ⟨e', he, hstep⟩ := h h₁ fun x hx => hm x (List.mem_append_left _ hx)
    obtain ⟨trace, rfl, hmap, hall, hrun⟩ := ih h₂ fun x hx => hm x (List.mem_append_right _ hx)
    refine ⟨(e', calls₁, out) :: trace, rfl, ?_, .cons he hall, run_cons.2 ⟨t, out, _, hstep, hrun, rfl⟩⟩
    rw [hout]
    exact congrArg (out :: ·) hmap

end Calls

end Machine
