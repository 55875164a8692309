import LibPmc.CfgLine
/-!
# The settings with a number

An integer literal as C writes it, and when `strtol` takes the whole of a text for one. The
settings do not ask whether it does.
-/
namespace LibPmc

open Cstr

/-! ## Integer literals -/

/-- The number that digits stand for. -/
def natOf (base : Nat) (digits : List UInt8) : Nat := digits.foldl (fun v c => v * base + (digit c).getD 0) 0

theorem natOf_append (base : Nat) (ds : List UInt8) (c : UInt8) :
    natOf base (ds ++ [c]) = natOf base ds * base + (digit c).getD 0 := by
  rw [natOf, List.foldl_append]
  rfl

theorem natOf_lt {base : Nat} {ds : List UInt8} (h : ∀ d ∈ ds, isDigit base d = true) :
    natOf base ds < base ^ ds.length := by
  induction ds using List.reverseRecOn with
  | nil => exact Nat.one_pos
  | append_singleton ds c ih =>
    have hds := ih fun d hd => h d (List.mem_append_left _ hd)
    obtain ⟨v, hv, hlt⟩ := (Option.any_eq_true _ _).1 (h c (List.mem_append_right _ List.mem_cons_self))
    have hv' : (digit c).getD 0 < base := by
      rw [hv]
      exact of_decide_eq_true hlt
    rw [natOf_append, List.length_append, List.length_singleton, Nat.pow_succ]
    calc natOf base ds * base + (digit c).getD 0 < (natOf base ds + 1) * base := by rw [Nat.succ_mul]; omega
      _ ≤ base ^ ds.length * base := Nat.mul_le_mul_right base hds

/-- A literal without a sign, and its value: decimal, octal with its 0, or hexadecimal. -/
inductive Unsigned : List UInt8 → Nat → Prop
  | decimal {c : UInt8} {ds : List UInt8} (hc : c ≠ 48) (h : ∀ d ∈ c :: ds, isDigit 10 d = true) :
      Unsigned (c :: ds) (natOf 10 (c :: ds))
  | octal {ds : List UInt8} (h : ∀ d ∈ ds, isDigit 8 d = true) : Unsigned (48 :: ds) (natOf 8 ds)
  | hex {x c : UInt8} {ds : List UInt8} (hx : x = 120 ∨ x = 88) (h : ∀ d ∈ c :: ds, isDigit 16 d = true) :
      Unsigned (48 :: x :: c :: ds) (natOf 16 (c :: ds))

/-- A literal and its value. -/
inductive Literal : List UInt8 → Int → Prop
  | unsigned {s : List UInt8} {n : Nat} (h : Unsigned s n) : Literal s n
  | plus {s : List UInt8} {n : Nat} (h : Unsigned s n) : Literal (43 :: s) n
  | minus {s : List UInt8} {n : Nat} (h : Unsigned s n) : Literal (45 :: s) (-n)

/-- The digits at the start of a text. -/
def digits (base : Nat) (s : List UInt8) : Option (Nat × List UInt8) :=
  if s.takeWhile (isDigit base) = [] then none
  else some (natOf base (s.takeWhile (isDigit base)), s.dropWhile (isDigit base))

theorem digits_whole {base : Nat} {s : List UInt8} {n : Nat} :
    digits base s = some (n, []) ↔ s ≠ [] ∧ (∀ d ∈ s, isDigit base d = true) ∧ natOf base s = n := by
  unfold digits
  constructor
  · intro h
    split at h
    · cases h
    · next hne =>
      obtain ⟨hn, hd⟩ := Prod.mk.inj (Option.some.inj h)
      have hall := List.dropWhile_eq_nil_iff.1 hd
      rw [List.takeWhile_eq_self_iff.2 hall] at hne hn
      exact ⟨hne, hall, hn⟩
  · rintro ⟨hne, hall, rfl⟩
    rw [List.takeWhile_eq_self_iff.2 hall, List.dropWhile_eq_nil_iff.2 hall, if_neg hne]

/-- `strtol` behind the sign. -/
def natural (s : List UInt8) : Option (Nat × List UInt8) :=
  if hexPrefix s = true then digits 16 (s.drop 2) else digits (if s.head? = some 48 then 8 else 10) s

theorem hexPrefix_iff {s : List UInt8} : hexPrefix s = true ↔
    ∃ x c r, s = 48 :: x :: c :: r ∧ (x = 120 ∨ x = 88) ∧ isDigit 16 c = true := by
  constructor
  · intro h
    unfold hexPrefix at h
    split at h
    · exact ⟨_, _, _, rfl, by simpa using h⟩
    · cases h
  · rintro ⟨x, c, r, rfl, hx, hc⟩
    simp [hexPrefix, hx, hc]

theorem natOf_zero_cons (base : Nat) (ds : List UInt8) : natOf base (48 :: ds) = natOf base ds := by
  change List.foldl _ (0 * base + 0) ds = _
  rw [Nat.zero_mul]
  rfl

/-- What is read as a whole is a literal. -/
theorem natural_whole {s : List UInt8} {n : Nat} : natural s = some (n, []) ↔ Unsigned s n := by
  unfold natural
  constructor
  · intro h
    split at h
    next hhex =>
      obtain ⟨x, c, r, rfl, hx, -⟩ := hexPrefix_iff.1 hhex
      obtain ⟨-, hall, rfl⟩ := digits_whole.1 h
      exact .hex hx hall
    next =>
      obtain ⟨hne, hall, rfl⟩ := digits_whole.1 h
      obtain ⟨c, r, rfl⟩ := List.exists_cons_of_ne_nil hne
      by_cases hc : c = 48
      · subst hc
        rw [List.head?_cons, if_pos rfl] at hall ⊢
        rw [natOf_zero_cons]
        exact .octal fun d hd => hall d (List.mem_cons_of_mem _ hd)
      · have hne : ¬ (c :: r).head? = some 48 := by simpa using hc
        rw [if_neg hne] at hall ⊢
        exact .decimal hc hall
  · intro h
    cases h with
    | @decimal c ds hc h =>
      have hhex : ¬ hexPrefix (c :: ds) = true := fun hh => by
        obtain ⟨x, c', r, he, -⟩ := hexPrefix_iff.1 hh
        exact hc (List.cons.inj he).1
      rw [if_neg hhex, if_neg (by simpa using hc)]
      exact digits_whole.2 ⟨List.cons_ne_nil _ _, h, rfl⟩
    | @octal ds h =>
      have hhex : ¬ hexPrefix (48 :: ds) = true := fun hh => by
        obtain ⟨x, c', r, he, hx, -⟩ := hexPrefix_iff.1 hh
        obtain rfl := (List.cons.inj he).2
        have := h x List.mem_cons_self
        rcases hx with rfl | rfl <;> exact absurd this (by decide)
      rw [if_neg hhex, List.head?_cons, if_pos rfl]
      refine digits_whole.2 ⟨List.cons_ne_nil _ _, fun d hd => ?_, natOf_zero_cons 8 ds⟩
      rcases List.mem_cons.1 hd with rfl | hd
      · decide
      · exact h d hd
    | @hex x c ds hx h =>
      have hhex : hexPrefix (48 :: x :: c :: ds) = true :=
        hexPrefix_iff.2 ⟨x, c, ds, rfl, hx, h c List.mem_cons_self⟩
      rw [if_pos hhex]
      exact digits_whole.2 ⟨List.cons_ne_nil _ _, h, rfl⟩

/-- Whether a text has a sign, and what is behind it. -/
def unsign (s : List UInt8) : Bool × List UInt8 :=
  (s.head? = some 45, if s.head? = some 45 ∨ s.head? = some 43 then s.tail else s)

theorem strtol_natural {s : List UInt8} (hs : ∀ c, s.head? = some c → isspace c = false) : strtol s 0 =
    (natural (unsign s).2).map fun r => (if (unsign s).1 then -(r.1 : Int) else r.1, r.2) := by
  have hdrop : s.dropWhile isspace = s := by
    cases s with
    | nil => rfl
    | cons c s => exact List.dropWhile_cons_of_neg (by simp [hs c rfl])
  unfold strtol
  simp only [hdrop]
  change _ = (natural (if s.head? = some 45 ∨ s.head? = some 43 then s.tail else s)).map _
  generalize (if s.head? = some 45 ∨ s.head? = some 43 then s.tail else s) = r
  have hdigits (base : Nat) (l : List UInt8) : (if l.takeWhile (isDigit base) = [] then none
      else some ((if s.head? = some 45 then -(natOf base (l.takeWhile (isDigit base)) : Int)
        else natOf base (l.takeWhile (isDigit base))), l.dropWhile (isDigit base))) =
      (digits base l).map fun r => (if (unsign s).1 then -(r.1 : Int) else r.1, r.2) := by
    unfold digits unsign
    split
    · rfl
    · simp
  unfold natural
  by_cases hhex : hexPrefix r = true
  · rw [if_pos hhex, ← hdigits]
    simp only [hhex, true_or, and_self, if_true, ne_eq, not_true_eq_false, if_false]
    rfl
  · rw [if_neg hhex, ← hdigits]
    simp only [hhex, ne_eq, not_true_eq_false, if_false]
    rfl

theorem Unsigned.starts {s : List UInt8} {n : Nat} (h : Unsigned s n) : ∃ c t, s = c :: t ∧ isDigit 10 c = true := by
  cases h with
  | decimal hc h => exact ⟨_, _, rfl, h _ List.mem_cons_self⟩
  | octal h => exact ⟨_, _, rfl, by decide⟩
  | hex hx h => exact ⟨_, _, rfl, by decide⟩

/-- A text that does not start with white space is read as a whole where it is a literal. -/
theorem strtol_whole {s : List UInt8} (hs : ∀ c, s.head? = some c → isspace c = false) {v : Int} :
    strtol s 0 = some (v, []) ↔ Literal s v := by
  rw [strtol_natural hs]
  constructor
  · intro h
    obtain ⟨⟨n, r⟩, hn, he⟩ := Option.map_eq_some_iff.1 h
    obtain ⟨rfl, rfl⟩ := Prod.mk.inj he
    have hu := natural_whole.1 hn
    unfold unsign at hu ⊢
    by_cases h45 : s.head? = some 45
    · obtain ⟨t, rfl⟩ := List.head?_eq_some_iff.1 h45
      exact .minus hu
    · by_cases h43 : s.head? = some 43
      · obtain ⟨t, rfl⟩ := List.head?_eq_some_iff.1 h43
        exact .plus hu
      · rw [if_neg (not_or.2 ⟨h45, h43⟩)] at hu
        simp only [h45, decide_false, Bool.false_eq_true, if_false]
        exact .unsigned hu
  · intro h
    cases h with
    | unsigned h =>
      obtain ⟨c, t, rfl, hc⟩ := h.starts
      have h45 : ¬ (c :: t).head? = some 45 := fun he => by
        obtain rfl := Option.some.inj he
        exact absurd hc (by decide)
      have h43 : ¬ (c :: t).head? = some 43 := fun he => by
        obtain rfl := Option.some.inj he
        exact absurd hc (by decide)
      unfold unsign
      simp only [h45, h43, or_self, decide_false, Bool.false_eq_true, if_false, natural_whole.2 h]
      rfl
    | @plus t n h =>
      have hu : natural (unsign (43 :: t)).2 = some (n, []) := natural_whole.2 h
      rw [hu]
      rfl
    | @minus t n h =>
      have hu : natural (unsign (45 :: t)).2 = some (n, []) := natural_whole.2 h
      rw [hu]
      rfl

/-! ## The settings -/

/-- The keys that have a number and a range. -/
inductive NumKey where
  | transportSpecific | domainNumber | udp6_scope | udp_ttl | socket_priority

namespace NumKey

def key : NumKey → CfgKey
  | transportSpecific => .transportSpecific
  | domainNumber => .domainNumber
  | udp6_scope => .udp6_scope
  | udp_ttl => .udp_ttl
  | socket_priority => .socket_priority

/-- A number as a value of the key. -/
def val (v : UInt8) : (k : NumKey) → k.key.Val
  | transportSpecific => v
  | domainNumber => v
  | udp6_scope => v
  | udp_ttl => v
  | socket_priority => v

def InRange (k : NumKey) (v : Int) : Prop := (ranges k.key).min.toNat ≤ v ∧ v ≤ (ranges k.key).max.toNat

instance (k : NumKey) (v : Int) : Decidable (k.InRange v) := inferInstanceAs (Decidable (_ ∧ _))

theorem read_eq (k : NumKey) (t : List UInt8) : k.key.read t =
    if k.InRange (((strtol t 0).map Prod.fst).getD 0) then
      some (k.val (UInt8.ofNat (((strtol t 0).map Prod.fst).getD 0).toNat)) else none := by
  cases k <;> rfl

end NumKey

/-- The section with a number stored. -/
def ConfigSection.setNum (sec : ConfigSection) (k : NumKey) (v : Int) : ConfigSection :=
  { sec.put k.key (k.val (UInt8.ofNat v.toNat)) with m_set := Function.update sec.m_set k.key true }

/-- A text without the white space around it. -/
def trim (text : List UInt8) : List UInt8 := stripEnd (text.dropWhile isspace)

/-- The setting is accepted where the text is a literal in the range of the key, and is then
stored. It is refused otherwise, and the section is left as it was. -/
structure AcceptsExactly (k : NumKey) (sec : ConfigSection) (text : List UInt8) (r : Option (Bool × ConfigSection)) :
    Prop where
  stored : ∀ v, Literal (trim text) v → k.InRange v → r = some (true, sec.setNum k v)
  refused : (¬ ∃ v, Literal (trim text) v ∧ k.InRange v) → r = some (false, sec)

/-- A line with a key: the name, white space and the text of the value. -/
def numLine (k : NumKey) (ws text behind : List UInt8) : List UInt8 :=
  (ranges k.key).name ++ (ws ++ (text ++ 0 :: behind))

/-- The number at the start of a text, 0 where there is none. -/
def leading (t : List UInt8) : Int := ((strtol t 0).map Prod.fst).getD 0

/-- A name is a string without white space, and is the one of its key. -/
theorem NumKey.name_spec (k : NumKey) : ((ranges k.key).name.all fun d => !isspace d) = true ∧
    cstr (ranges k.key).name = (ranges k.key).name ∧
    CfgKey.all.find? (fun idx => (ranges idx).name = (ranges k.key).name) = some k.key := by
  cases k <;> decide

/-- What the line says is what the text between the white space says. -/
theorem keyLine_num (k : NumKey) {ws text : List UInt8} (behind : List UInt8) (hne : ws ≠ [])
    (hws : ∀ c ∈ ws, isspace c = true) (htext : 0 ∉ text) : keyLine (numLine k ws text behind) =
      if trim text = [] then some .wrong
      else (k.key.read (trim text)).elim (some .wrong) fun v => some (.value k.key v) := by
  obtain ⟨c, ws, rfl⟩ := List.exists_cons_of_ne_nil hne
  obtain ⟨hall, hcstr, hfind⟩ := k.name_spec
  have hname (d : UInt8) (hd : d ∈ (ranges k.key).name) :
    isspace d = false := by simpa using List.all_eq_true.1 hall d hd
  have hc := hws c List.mem_cons_self
  have hdrop : (ws ++ (text ++ 0 :: behind)).dropWhile isspace = text.dropWhile isspace ++ 0 :: behind := by
    rw [List.dropWhile_append_of_pos fun d hd => hws d (List.mem_cons_of_mem _ hd), dropWhile_stop isspace_zero]
  have hstr : cstr (text.dropWhile isspace) = text.dropWhile isspace := by
    refine List.takeWhile_eq_self_iff.2 fun d hd => ?_
    simpa using ne_of_mem_of_not_mem ((List.dropWhile_suffix _).subset hd) htext
  unfold keyLine numLine trim
  rw [List.cons_append]
  simp only [takeWhile_key hname hc, dropWhile_key hname hc, hcstr, hfind, List.tail_cons, hdrop, cstr_append, hstr,
    List.mem_append, List.mem_cons, true_or, or_true, not_true_eq_false, reduceCtorEq, if_false]
  split
  · rfl
  · cases k.key.read (stripEnd (text.dropWhile isspace)) <;> rfl

theorem set_val_num (k : NumKey) (sec : ConfigSection) {ws text : List UInt8} (behind : List UInt8) (hne : ws ≠ [])
    (hws : ∀ c ∈ ws, isspace c = true) (htext : 0 ∉ text) : sec.set_val (numLine k ws text behind) =
      if trim text ≠ [] ∧ k.InRange (leading (trim text)) then some (true, sec.setNum k (leading (trim text)))
      else some (false, sec) := by
  unfold ConfigSection.set_val
  rw [keyLine_num k behind hne hws htext, k.read_eq]
  change _ = if trim text ≠ [] ∧ k.InRange (((strtol (trim text) 0).map Prod.fst).getD 0) then _ else _
  by_cases hnil : trim text = []
  · rw [if_pos hnil, if_neg fun h => h.1 hnil]
  · rw [if_neg hnil]
    by_cases hr : k.InRange (((strtol (trim text) 0).map Prod.fst).getD 0)
    · rw [if_pos hr, if_pos ⟨hnil, hr⟩]
      rfl
    · rw [if_neg hr, if_neg fun h => hr h.2]
      rfl

theorem trim_starts (text : List UInt8) (c : UInt8) (h : (trim text).head? = some c) : isspace c = false := by
  obtain ⟨t, ht⟩ := List.head?_eq_some_iff.1 h
  obtain ⟨r, hr⟩ : trim text <+: text.dropWhile isspace := List.rdropWhile_prefix _ _
  have hn := List.head?_dropWhile_not isspace text
  rw [← hr, ht] at hn
  simpa using hn

/-- A literal is read as its value. -/
theorem Literal.leading {text : List UInt8} {v : Int} (h : Literal (trim text) v) :
    trim text ≠ [] ∧ LibPmc.leading (trim text) = v := by
  have hs := (strtol_whole (trim_starts text)).2 h
  refine ⟨fun hnil => ?_, ?_⟩
  · rw [hnil] at hs
    cases hs
  · unfold LibPmc.leading
    rw [hs]
    rfl

theorem number_iff (k : NumKey) (sec : ConfigSection) (ws text behind : List UInt8) (hne : ws ≠ [])
    (hws : ∀ c ∈ ws, isspace c = true) (htext : 0 ∉ text) :
    AcceptsExactly k sec text (sec.set_val (numLine k ws text behind)) ↔
      trim text = [] ∨ (∃ v, Literal (trim text) v) ∨ ¬ k.InRange (leading (trim text)) := by
  rw [set_val_num k sec behind hne hws htext]
  constructor
  · intro h
    by_contra hn
    simp only [not_or, not_not] at hn
    obtain ⟨hnil, hlit, hr⟩ := hn
    have hf := h.refused fun ⟨v, hv, _⟩ => hlit ⟨v, hv⟩
    rw [if_pos ⟨hnil, hr⟩] at hf
    cases hf
  · intro h
    by_cases hr : trim text ≠ [] ∧ k.InRange (leading (trim text))
    · -- what is accepted is a literal, so it is accepted for its value
      obtain ⟨v, hv⟩ := (h.resolve_left hr.1).resolve_right (not_not.2 hr.2)
      rw [if_pos hr]
      refine ⟨fun w hw _ => by rw [hw.leading.2], fun hno => (hno ⟨v, hv, ?_⟩).elim⟩
      rw [← hv.leading.2]
      exact hr.2
    · rw [if_neg hr]
      refine ⟨fun w hw hwr => (hr ⟨hw.leading.1, ?_⟩).elim, fun _ => rfl⟩
      rw [hw.leading.2]
      exact hwr

/-- The domain in hexadecimal. -/
theorem number_iff_hex : AcceptsExactly .domainNumber default (octets " 0x1F\n")
    (ConfigSection.set_val default (numLine .domainNumber [32] (octets " 0x1F\n") [])) :=
  (number_iff .domainNumber default [32] (octets " 0x1F\n") [] (by decide)
    (List.all_eq_true.1 (by decide)) (by decide)).2
    (.inr (.inl ⟨31, .unsigned (.hex (.inl rfl) (List.all_eq_true.1 (by decide)))⟩))

/-- A typing error after the first digit sets the domain to that digit. -/
theorem typo_accepted : ConfigSection.set_val default (numLine .domainNumber [32] (octets "1O") []) =
      some (true, ConfigSection.setNum default .domainNumber 1) ∧
    ¬ ∀ (k : NumKey) (sec : ConfigSection) (ws text behind : List UInt8), ws ≠ [] → (∀ c ∈ ws, isspace c = true) →
      0 ∉ text → AcceptsExactly k sec text (sec.set_val (numLine k ws text behind)) := by
  have htrim : trim (octets "1O") = octets "1O" := by decide
  have hset : ConfigSection.set_val default (numLine .domainNumber [32] (octets "1O") []) =
      some (true, ConfigSection.setNum default .domainNumber 1) := by
    rw [set_val_num .domainNumber default [] (by decide) (List.all_eq_true.1 (by decide)) (by decide)]
    rfl
  refine ⟨hset, fun h => ?_⟩
  have hlit : ¬ ∃ v, Literal (trim (octets "1O")) v ∧ NumKey.domainNumber.InRange v := by
    rintro ⟨v, hv, -⟩
    have hs := (strtol_whole (trim_starts _)).2 hv
    have hrest : (strtol (octets "1O") 0).map Prod.snd = some [79] := by decide
    rw [htrim] at hs
    rw [hs] at hrest
    cases hrest
  have ha := (h .domainNumber default [32] (octets "1O") [] (by decide) (List.all_eq_true.1 (by decide))
    (by decide)).refused hlit
  rw [hset] at ha
  cases ha

end LibPmc
