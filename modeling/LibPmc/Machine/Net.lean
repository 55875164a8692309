import Mathlib.Logic.Function.Basic
import LibPmc.Machine.Run
/-!
# Machines on a network

Machines hear what the others say. Where they do not notice it, each runs as if it were alone:
`Hides.alone`.
-/
namespace Machine

section Net
variable {ι S E O M : Type} [DecidableEq ι]

/-- The machines, and what each of them has said. What is said stays there to be heard, any number
of times or never. -/
structure Net (ι S M : Type) where
  parts : ι → S
  said : List (ι × M)

/-- A machine takes an input of its own, or hears what another has said. -/
inductive Input (ι E : Type) where
  | own (i : ι) (e : E)
  | hear (i : ι) (k : Nat)

def Input.isHear : Input ι E → Bool
  | .own _ _ => false
  | .hear _ _ => true

/-- What a machine takes of the inputs as its own. -/
def Input.of (i : ι) : Input ι E → Option E
  | .own j e => if j = i then some e else none
  | .hear _ _ => none

variable (step : S → E → Option (S × O)) (tells : O → List M) (hears : M → E)

/-- One machine goes on. -/
def Net.go (n : Net ι S M) (i : ι) (e : E) : Option (Net ι S M × O) := do
  let (s, out) ← step (n.parts i) e
  return (⟨Function.update n.parts i s, n.said ++ (tells out).map (Prod.mk i)⟩, out)

def Net.next (n : Net ι S M) : Input ι E → Option (Net ι S M × O)
  | .own i e => n.go step tells i e
  | .hear i k => do
    let (j, m) ← n.said[k]?
    if j = i then none else n.go step tells i (hears m)

variable {step tells hears} {R : S → S → Prop} {silent : E → Bool} {quiet : O}

theorem Net.go_eq {n n' : Net ι S M} {i : ι} {e : E} {out : O} :
    n.go step tells i e = some (n', out) ↔
      ∃ s, step (n.parts i) e = some (s, out) ∧
      n' = ⟨Function.update n.parts i s, n.said ++ (tells out).map (Prod.mk i)⟩ := by
  constructor
  · intro h
    obtain ⟨⟨s, out⟩, hs, h⟩ := Option.bind_eq_some_iff.1 h
    cases h
    exact ⟨s, hs, rfl⟩
  · rintro ⟨s, hs, rfl⟩
    simp only [go, hs, Option.bind_eq_bind, Option.bind_some]
    rfl

/-- The messages that the machines do not notice. -/
structure Unheard (tells : O → List M) (hears : M → E) (step : S → E → Option (S × O)) (silent : E → Bool)
    (P : M → Prop) :
    Prop where
  tells : ∀ {s e r}, step s e = some r → ∀ m ∈ tells r.2, P m
  hears : ∀ {m}, P m → silent (hears m) = true

/-- What is said all over the network is not noticed. -/
theorem Unheard.next {P : M → Prop} (hu : Unheard tells hears step silent P) {n : Net ι S M} (hn : ∀ x ∈ n.said, P x.2)
    {x : Input ι E} {n' : Net ι S M} {out : O} (h : n.next step tells hears x = some (n', out)) :
    ∀ x ∈ n'.said, P x.2 := by
  have go {i : ι} {e : E} (h : n.go step tells i e = some (n', out)) : ∀ x ∈ n'.said, P x.2 := by
    obtain ⟨s, hs, rfl⟩ := Net.go_eq.1 h
    intro x hx
    rcases List.mem_append.1 hx with hx | hx
    · exact hn x hx
    · obtain ⟨m, hm, rfl⟩ := List.mem_map.1 hx
      exact hu.tells hs m hm
  cases x with
  | own i e => exact go h
  | hear i k =>
    obtain ⟨⟨j, m⟩, -, h⟩ := Option.bind_eq_some_iff.1 h
    dsimp only at h
    split at h
    · cases h
    · exact go h

/-- Where no machine notices what the others say, each does at its own inputs what it does alone
with them, in every order of the inputs and whatever is heard. -/
theorem Hides.alone (hh : Hides step R silent quiet) {P : M → Prop} (hu : Unheard tells hears step silent P)
    {n : Net ι S M}
    (hn : ∀ x ∈ n.said, P x.2) {i : ι} {s : S} (hs : R (n.parts i) s) (es : List (Input ι E))
    {r : Net ι S M × List (Input ι E × O)} (hr : Machine.run (Net.next step tells hears) n es = some r) :
    ∃ r', Machine.run step s (es.filterMap (Input.of i)) = some r' ∧ R (r.1.parts i) r'.1 ∧
      r'.2 = r.2.filterMap fun x => (Input.of i x.1).map fun e => (e, x.2) := by
  induction es generalizing n s r with
  | nil =>
    cases hr
    exact ⟨_, rfl, hs, rfl⟩
  | cons x es ih =>
    obtain ⟨n', out, trace, hnext, hrun, htrace⟩ := run_cons.1 hr
    have hn' := hu.next hn hnext
    -- the other machines leave this one as it is
    have other {j : ι} {e : E} (hij : j ≠ i) (h : n.go step tells j e = some (n', out)) : R (n'.parts i) s := by
      obtain ⟨t, -, hp⟩ := Net.go_eq.1 h
      rw [hp]
      dsimp only
      rwa [Function.update_of_ne hij.symm]
    have rest (hR : R (n'.parts i) s) (hx : Input.of i x = none) :
        ∃ r', Machine.run step s ((x :: es).filterMap (Input.of i)) = some r' ∧ R (r.1.parts i) r'.1 ∧
          r'.2 = r.2.filterMap fun x => (Input.of i x.1).map fun e => (e, x.2) := by
      rw [htrace, List.filterMap_cons_none hx, List.filterMap_cons_none (by simp [hx])]
      exact ih hn' hR hrun
    cases x with
    | own j e =>
      by_cases hij : j = i
      · subst hij
        obtain ⟨t, ht, hp⟩ := Net.go_eq.1 hnext
        obtain ⟨t', hR, ht'⟩ := Same.some (ht ▸ hh.same hs)
        have hR' : R (n'.parts j) t' := by
          rw [hp]
          dsimp only
          rwa [Function.update_self]
        obtain ⟨r', hr', hR'', htr⟩ := ih hn' hR' hrun
        have hx : Input.of j (Input.own j e) = some e := if_pos rfl
        refine ⟨(r'.1, (e, out) :: r'.2), ?_, hR'', ?_⟩
        · rw [List.filterMap_cons_some hx]
          exact run_cons.2 ⟨t', out, r'.2, ht', hr', rfl⟩
        · rw [htrace, List.filterMap_cons_some (b := (e, out)) (by simp [hx]), htr]
      · exact rest (other hij hnext) (if_neg hij)
    | hear j k =>
      obtain ⟨⟨l, m⟩, hm, h⟩ := Option.bind_eq_some_iff.1 hnext
      dsimp only at h
      split at h
      · cases h
      refine rest ?_ rfl
      by_cases hij : j = i
      · subst hij
        obtain ⟨t, ht, hp⟩ := Net.go_eq.1 h
        obtain ⟨u, hu', hR⟩ := hh.hidden hs (hu.hears (hn _ (List.mem_of_getElem? hm)))
        rw [ht] at hu'
        cases hu'
        rw [hp]
        dsimp only
        rwa [Function.update_self]
      · exact other hij h

/-- Nothing is given back where a machine hears another. -/
theorem Hides.hear_quiet (hh : Hides step R silent quiet) {P : M → Prop} (hu : Unheard tells hears step silent P)
    {n : Net ι S M} (hn : ∀ x ∈ n.said, P x.2) (hs : ∀ i, ∃ s, R (n.parts i) s) (es : List (Input ι E))
    {r : Net ι S M × List (Input ι E × O)} (hr : Machine.run (Net.next step tells hears) n es = some r) :
    ∀ x ∈ r.2, x.1.isHear = true → x.2 = quiet := by
  induction es generalizing n r with
  | nil => cases hr; simp
  | cons x es ih =>
    obtain ⟨n', out, trace, hnext, hrun, htrace⟩ := run_cons.1 hr
    have keeps {j : ι} {e : E} (h : n.go step tells j e = some (n', out)) : ∀ i, ∃ s, R (n'.parts i) s := by
      obtain ⟨t, ht, rfl⟩ := Net.go_eq.1 h
      intro i
      by_cases hij : i = j
      · subst hij
        obtain ⟨s, hs⟩ := hs i
        obtain ⟨b, hb, -⟩ := Same.some (ht ▸ hh.same hs)
        exact ⟨b, by dsimp only; rwa [Function.update_self]⟩
      · obtain ⟨s, hs⟩ := hs i
        exact ⟨s, by dsimp only; rwa [Function.update_of_ne hij]⟩
    have hx : (∀ i, ∃ s, R (n'.parts i) s) ∧ (x.isHear = true → out = quiet) := by
      cases x with
      | own j e => exact ⟨keeps hnext, fun h => by cases h⟩
      | hear j k =>
        obtain ⟨⟨l, m⟩, hm, h⟩ := Option.bind_eq_some_iff.1 hnext
        dsimp only at h
        split at h
        · cases h
        refine ⟨keeps h, fun _ => ?_⟩
        obtain ⟨s, hs⟩ := hs j
        obtain ⟨u, hu', -⟩ := hh.hidden hs (hu.hears (hn _ (List.mem_of_getElem? hm)))
        obtain ⟨t, ht, -⟩ := Net.go_eq.1 h
        rw [hu'] at ht
        cases ht
        rfl
    rw [htrace]
    intro y hy
    rcases List.mem_cons.1 hy with rfl | hy
    · exact hx.2
    · exact ih (hu.next hn hnext) hx.1 hrun y hy

end Net

end Machine
