import Mathlib.Data.Option.Defs
/-!
# Runs of a machine

A machine takes inputs one at a time, and gives something back at each. Where it goes by some of
them only, it runs as if there were no others: `Passes.run`, and `Hides.run` where the others do
nothing at all. Where the others go to a part of the state that these leave alone, there is a run
if and only if there is one of each: `Separates.run_isSome`. Where each step is one of an abstract
machine, each run is a path of it: `Follows.run`.
-/
namespace Machine

theorem rel_bind {α β α' β' : Type} {R : α → α' → Prop} {S : β → β' → Prop} {x : Option α} {y : Option α'}
    (h : Option.Rel R x y) {f : α → Option β} {g : α' → Option β'} (hf : ∀ a b, R a b → Option.Rel S (f a) (g b)) :
    Option.Rel S (x >>= f) (y >>= g) := by
  cases h with
  | some h => exact hf _ _ h
  | none => exact .none

theorem rel_bind_same {α β β' : Type} {S : β → β' → Prop} (x : Option α) {f : α → Option β} {g : α → Option β'}
    (hf : ∀ a, Option.Rel S (f a) (g a)) : Option.Rel S (x >>= f) (x >>= g) := by
  cases x with
  | some a => exact hf a
  | none => exact .none

section Run
variable {S E O : Type}

/-- A run with what is given back at each input. There is none where a step is undefined. -/
def run (step : S → E → Option (S × O)) (s : S) : List E → Option (S × List (E × O))
  | [] => some (s, [])
  | e :: es => do
    let (s, out) ← step s e
    let (s, trace) ← run step s es
    return (s, (e, out) :: trace)

theorem run_cons {step : S → E → Option (S × O)} {s : S} {e : E} {es : List E} {r : S × List (E × O)} :
    run step s (e :: es) = some r ↔
      ∃ t out trace, step s e = some (t, out) ∧ run step t es = some (r.1, trace) ∧ r.2 = (e, out) :: trace := by
  obtain ⟨u, trace⟩ := r
  constructor
  · intro h
    obtain ⟨⟨t, out⟩, hstep, h⟩ := Option.bind_eq_some_iff.1 h
    obtain ⟨⟨v, rest⟩, hrun, h⟩ := Option.bind_eq_some_iff.1 h
    cases h
    exact ⟨t, out, rest, hstep, hrun, rfl⟩
  · rintro ⟨t, out, rest, hstep, hrun, rfl⟩
    simp only [run, hstep, hrun, Option.bind_eq_bind, Option.bind_some]
    rfl

/-- The machine goes to related states, and gives back the same. -/
def Same (R : S → S → Prop) : Option (S × O) → Option (S × O) → Prop := Option.Rel fun r r' => R r.1 r'.1 ∧ r'.2 = r.2

theorem Same.some {R : S → S → Prop} {r : S × O} {y : Option (S × O)} (h : Same R (some r) y) :
    ∃ s, R r.1 s ∧ y = Option.some (s, r.2) := by
  cases h with
  | @some _ b h => exact ⟨b.1, h.1, by rw [← h.2]⟩

/-- At the other inputs the machine does the same in related states, and these keep the relation. -/
structure Passes (step : S → E → Option (S × O)) (R : S → S → Prop) (silent : E → Bool) : Prop where
  passed : ∀ {s s' e r}, R s s' → silent e = true → step s e = some r → R r.1 s'
  visible : ∀ {s s' e}, R s s' → silent e = false → Same R (step s e) (step s' e)

/-- The machine does the same in related states, and nothing at the silent inputs. -/
structure Hides (step : S → E → Option (S × O)) (R : S → S → Prop) (silent : E → Bool) (quiet : O) : Prop where
  hidden : ∀ {s s' e}, R s s' → silent e = true → ∃ t, step s e = some (t, quiet) ∧ R t s'
  same : ∀ {s s' e}, R s s' → Same R (step s e) (step s' e)

variable {step : S → E → Option (S × O)} {R : S → S → Prop} {silent : E → Bool} {quiet : O}

/-- What a run does at the other inputs it does without these. -/
theorem Passes.run (h : Passes step R silent) {s s' : S} (hs : R s s') (es : List E) {r : S × List (E × O)}
    (hr : run step s es = some r) :
    ∃ r', Machine.run step s' (es.filter fun e => !silent e) = some r' ∧ R r.1 r'.1 ∧
      r'.2 = r.2.filter fun x => !silent x.1 := by
  induction es generalizing s s' r with
  | nil =>
    obtain rfl := Option.some.inj hr
    exact ⟨_, rfl, hs, rfl⟩
  | cons e es ih =>
    obtain ⟨t, out, trace, hstep, hrun, htrace⟩ := run_cons.1 hr
    rw [htrace]
    cases he : silent e with
    | true =>
      obtain ⟨r', hr', hsame, htr⟩ := ih (h.passed hs he hstep) hrun
      refine ⟨r', ?_, hsame, ?_⟩
      · rwa [List.filter_cons_of_neg (by simp [he])]
      · rwa [List.filter_cons_of_neg (by simp [he])]
    | false =>
      obtain ⟨t', hR, ht'⟩ := Same.some (hstep ▸ h.visible hs he)
      obtain ⟨r', hr', hsame, htr⟩ := ih hR hrun
      refine ⟨(r'.1, (e, out) :: r'.2), ?_, hsame, ?_⟩
      · rw [List.filter_cons_of_pos (by simp [he])]
        exact run_cons.2 ⟨t', out, r'.2, ht', hr', rfl⟩
      · rw [List.filter_cons_of_pos (by simp [he]), htr]

/-- Where the others do nothing, there is a run with them if and only if there is one without. -/
theorem Hides.run (h : Hides step R silent quiet) {s s' : S} (hs : R s s') (es : List E) :
    Option.Rel (fun r r' => R r.1 r'.1 ∧ r'.2 = r.2.filter fun x => !silent x.1) (run step s es)
      (run step s' (es.filter fun e => !silent e)) := by
  induction es generalizing s s' with
  | nil => exact .some ⟨hs, rfl⟩
  | cons e es ih =>
    cases he : silent e with
    | true =>
      obtain ⟨t, ht, hr⟩ := h.hidden hs he
      have hi := ih hr
      rw [List.filter_cons_of_neg (by simp [he]), Machine.run, ht]
      dsimp only [Option.bind_eq_bind, Option.bind_some]
      generalize Machine.run step t es = x at hi ⊢
      generalize Machine.run step s' (es.filter fun e => !silent e) = y at hi ⊢
      cases hi with
      | some hi =>
        refine .some ⟨hi.1, ?_⟩
        rw [List.filter_cons_of_neg (by simp [he])]
        exact hi.2
      | none => exact .none
    | false =>
      rw [List.filter_cons_of_pos (by simp [he]), Machine.run, Machine.run]
      refine rel_bind (h.same hs) fun t t' ht => rel_bind (ih ht.1) fun r r' hr => ?_
      refine .some ⟨hr.1, ?_⟩
      rw [List.filter_cons_of_pos (by simp [he]), ← hr.2, ht.2]

/-- Nothing is given back at the silent inputs. -/
theorem Hides.quiet_run (h : Hides step R silent quiet) {s s' : S} (hs : R s s') (es : List E) {r : S × List (E × O)}
    (hr : Machine.run step s es = some r) : ∀ x ∈ r.2, silent x.1 = true → x.2 = quiet := by
  induction es generalizing s s' r with
  | nil => cases hr; simp
  | cons e es ih =>
    obtain ⟨t, out, trace, hstep, hrun, htrace⟩ := run_cons.1 hr
    obtain ⟨t', ht'⟩ : ∃ t', R t t' ∧ (silent e = true → out = quiet) := by
      cases he : silent e with
      | true =>
        obtain ⟨u, hu, hR⟩ := h.hidden hs he
        rw [hu] at hstep
        cases hstep
        exact ⟨s', hR, fun _ => rfl⟩
      | false =>
        obtain ⟨t', ht', -⟩ := Same.some (hstep ▸ h.same hs)
        exact ⟨t', ht', fun h => by cases h⟩
    rw [htrace]
    intro x hx
    rcases List.mem_cons.1 hx with rfl | hx
    · exact ht'.2
    · exact ih ht'.1 hrun x hx

/-- What the silent inputs do to a part of the state is what a machine of its own does, and the
other inputs leave this part alone. `I` is what holds of every state. -/
structure Separates {H : Type} (step : S → E → Option (S × O)) (R : S → S → Prop) (silent : E → Bool) (I : S → Prop)
    (view : S → H) (own : H → E → Option H) : Prop extends Passes step R silent where
  holds : ∀ {s e r}, I s → step s e = some r → I r.1
  own_step : ∀ {s e}, I s → silent e = true → (step s e).map (fun r => view r.1) = own (view s) e
  kept : ∀ {s e r}, I s → silent e = false → step s e = some r → view r.1 = view s

/-- There is a run if and only if there is one of the other inputs, and one of the part's machine. -/
theorem Separates.run_isSome {H : Type} {I : S → Prop} {view : S → H} {own : H → E → Option H}
    (h : Separates step R silent I view own) {s s' : S} (hI : I s) (hs : R s s') (es : List E) :
    (Machine.run step s es).isSome = true ↔ (Machine.run step s' (es.filter fun e => !silent e)).isSome = true ∧
      ((es.filter silent).foldlM own (view s)).isSome = true := by
  have rest {s : S} {e : E} {es : List E} : (Machine.run step s (e :: es)).isSome = true ↔
      ∃ t out, step s e = some (t, out) ∧ (Machine.run step t es).isSome = true := by
    simp only [Option.isSome_iff_exists, run_cons]
    constructor
    · rintro ⟨r, t, out, trace, hstep, hrun, -⟩
      exact ⟨t, out, hstep, _, hrun⟩
    · rintro ⟨t, out, hstep, r, hrun⟩
      exact ⟨(r.1, (e, out) :: r.2), t, out, r.2, hstep, hrun, rfl⟩
  induction es generalizing s s' with
  | nil => exact ⟨fun _ => ⟨rfl, rfl⟩, fun _ => rfl⟩
  | cons e es ih =>
    rw [rest]
    cases he : silent e with
    | true =>
      rw [List.filter_cons_of_neg (by simp [he]), List.filter_cons_of_pos he, List.foldlM_cons, ← h.own_step hI he]
      cases hstep : step s e with
      | none => simp
      | some r =>
        obtain ⟨t, out⟩ := r
        have hi := ih (h.holds hI hstep) (h.passed hs he hstep)
        constructor
        · rintro ⟨t', out', ht, hr⟩
          cases ht
          exact hi.1 hr
        · intro hr
          exact ⟨t, out, rfl, hi.2 hr⟩
    | false =>
      rw [List.filter_cons_of_pos (by simp [he]), List.filter_cons_of_neg (by simp [he]), rest]
      have hv := h.visible hs he
      cases hstep : step s e with
      | none =>
        rw [hstep] at hv
        generalize step s' e = y at hv
        cases hv
        simp
      | some r =>
        obtain ⟨t', hR, ht'⟩ := Same.some (hstep ▸ hv)
        have hi := ih (h.holds hI hstep) hR
        rw [h.kept hI he hstep] at hi
        constructor
        · rintro ⟨t, out, ht, hr⟩
          cases ht
          exact ⟨⟨t', out, ht', (hi.1 hr).1⟩, (hi.1 hr).2⟩
        · rintro ⟨⟨t, out, ht, hr⟩, hf⟩
          rw [ht'] at ht
          cases ht
          exact ⟨r.1, r.2, rfl, hi.2 ⟨hr, hf⟩⟩

/-- A path of an abstract machine, which may do something or not. -/
inductive Path {H : Type} (does : H → E → O → H → Prop) : H → List (E × O) → H → Prop
  | nil {h : H} : Path does h [] h
  | cons {h h' h'' : H} {e : E} {out : O} {trace : List (E × O)} (hd : does h e out h') (hp : Path does h' trace h'') :
      Path does h ((e, out) :: trace) h''

/-- Of the states that `I` holds of, each step is one of the abstract machine in what is seen. -/
structure Follows {H : Type} (step : S → E → Option (S × O)) (I : S → Prop) (view : S → H)
    (does : H → E → O → H → Prop) :
    Prop where
  holds : ∀ {s e r}, I s → step s e = some r → I r.1
  does : ∀ {s e r}, I s → step s e = some r → does (view s) e r.2 (view r.1)

/-- Each run is a path. -/
theorem Follows.run {H : Type} {I : S → Prop} {view : S → H} {does : H → E → O → H → Prop}
    (h : Follows step I view does)
    {s : S} (hI : I s) (es : List E) {r : S × List (E × O)} (hr : Machine.run step s es = some r) :
    Path does (view s) r.2 (view r.1) := by
  induction es generalizing s r with
  | nil =>
    obtain rfl := Option.some.inj hr
    exact .nil
  | cons e es ih =>
    obtain ⟨t, out, trace, hstep, hrun, htrace⟩ := run_cons.1 hr
    rw [htrace]
    exact .cons (h.does hI hstep) (ih (h.holds hI hstep) hrun)

end Run

end Machine
