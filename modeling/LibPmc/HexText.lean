import LibPmc.Bin
import LibPmc.CfgNumber
/-!
# The texts that are taken for octets

The texts that `fromHex` and `fromId` are for, and the pieces that `strtol` reads beside them:
with white space or a plus in front, or with a `0x`. A text of separators only has no piece that
could be refused.
-/
namespace LibPmc

open Cstr

/-! ## The grammar -/

/-- Hexadecimal digits and separators, with at least one digit. -/
def DigitsAndSeps (s : List UInt8) : Prop :=
  (∀ c ∈ s, isDigit 16 c = true ∨ idsep.contains c = true) ∧ ∃ c ∈ s, isDigit 16 c = true

instance (s : List UInt8) : Decidable (DigitsAndSeps s) :=
  have : Decidable (∀ c ∈ s, isDigit 16 c = true ∨ idsep.contains c = true) := List.decidableBAll _ s
  have : Decidable (∃ c ∈ s, isDigit 16 c = true) := List.decidableBEx _ s
  inferInstanceAs (Decidable (_ ∧ _))

/-- The values of the digits of a piece two by two, and of the last one alone where it is left over. -/
def pairValues : List UInt8 → List UInt8
  | [] => []
  | [c] => [UInt8.ofNat (natOf 16 [c])]
  | c₀ :: c₁ :: s => UInt8.ofNat (natOf 16 [c₀, c₁]) :: pairValues s

/-- A text for `fromHex`, and its octets. -/
def HexText (s l : List UInt8) : Prop := DigitsAndSeps s ∧ l = (tokens idsep s).flatMap pairValues

/-- A text for `fromId`, and its octets. -/
def IdText (s l : List UInt8) : Prop :=
  tokens idsep s ≠ [] ∧ (∀ t ∈ tokens idsep s, (∀ c ∈ t, isDigit 16 c = true) ∧ natOf 16 t ≤ 0xff) ∧
    l = (tokens idsep s).map fun t => UInt8.ofNat (natOf 16 t)

/-! ## What is read beside it -/

/-- A piece that `fromHex` reads: in front of the second digit of a pair there may be something else. -/
inductive HexPiece : List UInt8 → Prop
  | nil : HexPiece []
  | last {c : UInt8} (h : isDigit 16 c = true) : HexPiece [c]
  | pair {c₀ c₁ : UInt8} {s : List UInt8} (h₀ : isDigit 16 c₀ = true ∨ isspace c₀ = true ∨ c₀ = 43)
      (h₁ : isDigit 16 c₁ = true) (h : HexPiece s) : HexPiece (c₀ :: c₁ :: s)

/-- Digits, or a `0x` and digits. -/
inductive Prefixed : List UInt8 → Nat → Prop
  | digits {ds : List UInt8} (hne : ds ≠ []) (h : ∀ c ∈ ds, isDigit 16 c = true) : Prefixed ds (natOf 16 ds)
  | hex {x : UInt8} {ds : List UInt8} (hx : x = 120 ∨ x = 88) (hne : ds ≠ []) (h : ∀ c ∈ ds, isDigit 16 c = true) :
      Prefixed (48 :: x :: ds) (natOf 16 ds)

/-- A piece that `fromId` reads as a number: white space, and the digits with or without a plus. -/
inductive IdPiece : List UInt8 → Nat → Prop
  | unsigned {ws s : List UInt8} {n : Nat} (hws : ∀ c ∈ ws, isspace c = true) (h : Prefixed s n) : IdPiece (ws ++ s) n
  | plus {ws s : List UInt8} {n : Nat} (hws : ∀ c ∈ ws, isspace c = true) (h : Prefixed s n) : IdPiece (ws ++ 43 :: s) n

/-- A text that is no text of digits and separators, all of its pieces read. -/
def Lax (reads : List UInt8 → Prop) (s : List UInt8) : Prop := (∀ t ∈ tokens idsep s, reads t) ∧ ¬ DigitsAndSeps s

/-! ## The pieces of a text -/

theorem isDigit_of_notSep {s t : List UInt8} {c : UInt8} (h : DigitsAndSeps s) (ht : t ∈ tokens idsep s) (hc : c ∈ t) :
    isDigit 16 c = true := by
  obtain ⟨hs, hsep⟩ := mem_tokens.1 ⟨t, ht, hc⟩
  refine (h.1 c hs).resolve_right fun h => ?_
  rw [hsep] at h
  cases h

theorem notSep_of_isDigit {c : UInt8} (h : isDigit 16 c = true) : idsep.contains c = false := by
  have hall : (idsep.all fun d => !isDigit 16 d) = true := by decide
  refine Bool.eq_false_iff.2 fun hs => ?_
  have hc := List.all_eq_true.1 hall c (List.contains_iff_mem.1 hs)
  rw [h] at hc
  cases hc

/-- A text of digits and separators is one whose pieces, one at least, are of digits. -/
theorem digitsAndSeps_iff {s : List UInt8} :
    DigitsAndSeps s ↔ tokens idsep s ≠ [] ∧ ∀ t ∈ tokens idsep s, ∀ c ∈ t, isDigit 16 c = true := by
  constructor
  · intro h
    obtain ⟨c, hc, hd⟩ := h.2
    obtain ⟨t, ht, -⟩ := mem_tokens.2 ⟨hc, notSep_of_isDigit hd⟩
    exact ⟨List.ne_nil_of_mem ht, fun t ht c hc => isDigit_of_notSep h ht hc⟩
  · rintro ⟨hne, hall⟩
    constructor
    · intro c hc
      cases hsep : idsep.contains c with
      | true => exact .inr rfl
      | false =>
        obtain ⟨t, ht, hct⟩ := mem_tokens.2 ⟨hc, hsep⟩
        exact .inl (hall t ht c hct)
    · obtain ⟨t, ht⟩ := List.exists_mem_of_ne_nil _ hne
      obtain ⟨c, hc⟩ := List.exists_mem_of_ne_nil _ (ne_nil_of_mem_tokens ht)
      exact ⟨c, (mem_tokens.1 ⟨t, ht, hc⟩).1, hall t ht c hc⟩

theorem minus_notMem {s t : List UInt8} (ht : t ∈ tokens idsep s) : 45 ∉ t := fun h =>
  absurd (mem_tokens.1 ⟨t, ht, h⟩).2 (by decide)

/-! ## Numbers in base 16 -/

/-- The digits behind a `0x`. -/
def behindHex (s : List UInt8) : List UInt8 := if hexPrefix s = true then s.drop 2 else s

theorem behindHex_whole {s : List UInt8} {n : Nat} : digits 16 (behindHex s) = some (n, []) ↔ Prefixed s n := by
  unfold behindHex
  constructor
  · intro h
    split at h
    next hhex =>
      obtain ⟨x, c, r, rfl, hx, -⟩ := hexPrefix_iff.1 hhex
      obtain ⟨hne, hall, rfl⟩ := digits_whole.1 h
      exact .hex hx hne hall
    next =>
      obtain ⟨hne, hall, rfl⟩ := digits_whole.1 h
      exact .digits hne hall
  · intro h
    cases h with
    | digits hne h =>
      have hhex : ¬ hexPrefix s = true := fun hh => by
        -- the `x` is no digit
        obtain ⟨x, c, r, rfl, hx, -⟩ := hexPrefix_iff.1 hh
        have hd := h x (List.mem_cons_of_mem _ List.mem_cons_self)
        rcases hx with rfl | rfl <;> exact absurd hd (by decide)
      rw [if_neg hhex]
      exact digits_whole.2 ⟨hne, h, rfl⟩
    | @hex x ds hx hne h =>
      obtain ⟨c, ds, rfl⟩ := List.exists_cons_of_ne_nil hne
      have hhex : hexPrefix (48 :: x :: c :: ds) = true := hexPrefix_iff.2 ⟨x, c, ds, rfl, hx, h c List.mem_cons_self⟩
      rw [if_pos hhex]
      exact digits_whole.2 ⟨hne, h, rfl⟩

theorem strtol_sixteen {t : List UInt8} (h45 : 45 ∉ t) : strtol t 16 =
    (digits 16 (behindHex
      (if (t.dropWhile isspace).head? = some 43 then (t.dropWhile isspace).tail else t.dropWhile isspace))).map
      fun r => ((r.1 : Int), r.2) := by
  have hminus : ¬ (t.dropWhile isspace).head? = some 45 := fun h =>
    h45 ((List.dropWhile_sublist _).mem (List.mem_of_head? h))
  have h16 : (16 : Nat) ≠ 0 := by decide
  unfold strtol
  simp only [hminus, false_or, if_pos h16, or_true, true_and, if_false]
  generalize (if (t.dropWhile isspace).head? = some 43 then (t.dropWhile isspace).tail else t.dropWhile isspace) = r
  change (if (behindHex r).takeWhile (isDigit 16) = [] then none
    else some ((natOf 16 ((behindHex r).takeWhile (isDigit 16)) : Int), (behindHex r).dropWhile (isDigit 16))) = _
  unfold digits
  split <;> rfl

theorem Prefixed.starts {s : List UInt8} {n : Nat} (h : Prefixed s n) : ∃ c r, s = c :: r ∧ isDigit 16 c = true := by
  cases h with
  | digits hne h =>
    obtain ⟨c, r, rfl⟩ := List.exists_cons_of_ne_nil hne
    exact ⟨c, r, rfl, h c List.mem_cons_self⟩
  | hex hx hne h => exact ⟨_, _, rfl, by decide⟩

/-- What is read as a whole. -/
theorem strtol_sixteen_whole {t : List UInt8} (h45 : 45 ∉ t) {a : Int} :
    strtol t 16 = some (a, []) ↔ ∃ n : Nat, IdPiece t n ∧ a = n := by
  rw [strtol_sixteen h45]
  constructor
  · intro h
    obtain ⟨⟨n, r⟩, hn, he⟩ := Option.map_eq_some_iff.1 h
    obtain ⟨rfl, rfl⟩ := Prod.mk.inj he
    have hp := behindHex_whole.1 hn
    have hws : ∀ c ∈ t.takeWhile isspace, isspace c = true := fun c hc => List.mem_takeWhile_imp hc
    have ht : t.takeWhile isspace ++ t.dropWhile isspace = t := List.takeWhile_append_dropWhile
    refine ⟨n, ?_, rfl⟩
    rw [← ht]
    by_cases h43 : (t.dropWhile isspace).head? = some 43
    · rw [if_pos h43] at hp
      obtain ⟨r, hr⟩ := List.head?_eq_some_iff.1 h43
      rw [hr] at hp ⊢
      exact .plus hws hp
    · rw [if_neg h43] at hp
      exact .unsigned hws hp
  · rintro ⟨n, h, rfl⟩
    cases h with
    | unsigned hws h =>
      obtain ⟨c, r, rfl, hc⟩ := h.starts
      have h43 : ¬ (c :: r).head? = some 43 := fun he => by
        obtain rfl := Option.some.inj he
        exact absurd hc (by decide)
      rw [List.dropWhile_append_of_pos hws, List.dropWhile_cons_of_neg (by simp [isspace_of_digit hc]), if_neg h43,
        behindHex_whole.2 h]
      rfl
    | @plus ws s n hws h =>
      rw [List.dropWhile_append_of_pos hws, List.dropWhile_cons_of_neg (by decide), List.head?_cons, if_pos rfl,
        List.tail_cons,
        behindHex_whole.2 h]
      rfl

/-- A piece is read where its number is an octet. -/
theorem idOctet_ne_none {t : List UInt8} (h45 : 45 ∉ t) : idOctet t ≠ none ↔ ∃ n ≤ 0xff, IdPiece t n := by
  unfold idOctet
  constructor
  · intro h
    split at h
    · next a hs =>
      obtain ⟨n, hn, rfl⟩ := (strtol_sixteen_whole h45).1 hs
      split at h
      · exact absurd rfl h
      · exact ⟨n, by omega, hn⟩
    · exact absurd rfl h
  · rintro ⟨n, hle, hn⟩
    rw [(strtol_sixteen_whole h45).2 ⟨n, hn, rfl⟩]
    dsimp only
    rw [if_neg (by omega)]
    exact Option.some_ne_none _

theorem idOctet_digits {t : List UInt8} (hne : t ≠ []) (h : ∀ c ∈ t, isDigit 16 c = true) :
    idOctet t = if natOf 16 t ≤ 0xff then some (UInt8.ofNat (natOf 16 t)) else none := by
  have hs : strtol t 16 = some ((natOf 16 t : Int), []) := strtol_hex hne h
  rw [idOctet, hs]
  dsimp only
  by_cases hle : natOf 16 t ≤ 0xff
  · rw [if_pos hle, if_neg (by omega), Int.toNat_natCast]
  · rw [if_neg hle, if_pos (by omega)]

/-! ## Pairs of digits -/

theorem natOf_le_of_short {ds : List UInt8} (h : ∀ d ∈ ds, isDigit 16 d = true) (hlen : ds.length ≤ 2) :
    natOf 16 ds ≤ 0xff :=
  Nat.le_of_lt_succ (Nat.lt_of_lt_of_le (natOf_lt h) (Nat.pow_le_pow_right (by decide) hlen))

theorem hexToken_digits {t : List UInt8} (h : ∀ c ∈ t, isDigit 16 c = true) :
    Binary.hexToken t = some (pairValues t) := by
  induction t using pairValues.induct with
  | case1 => rfl
  | case2 c =>
    rw [Binary.hexToken, idOctet_digits (List.cons_ne_nil _ _) h, if_pos (natOf_le_of_short h (by simp))]
    rfl
  | case3 c₀ c₁ s ih =>
    have h₂ : ∀ c ∈ [c₀, c₁], isDigit 16 c = true := fun c hc => h c (List.mem_append_left s hc)
    have hs : ∀ c ∈ s, isDigit 16 c = true := fun c hc => h c (List.mem_append_right [c₀, c₁] hc)
    rw [Binary.hexToken, idOctet_digits (List.cons_ne_nil _ _) h₂, if_pos (natOf_le_of_short h₂ (by simp)), ih hs]
    rfl

/-- A piece of two octets at most has no `0x`. -/
theorem IdPiece.short {t : List UInt8} {n : Nat} (h : IdPiece t n) (hlen : t.length ≤ 2) :
    ∃ a ds, t = a ++ ds ∧ (∀ c ∈ a, isspace c = true ∨ c = 43) ∧ ds ≠ [] ∧ ∀ c ∈ ds, isDigit 16 c = true := by
  have hnoHex {x : UInt8} {ds ws : List UInt8} (hne : ds ≠ []) (hlen : (ws ++ 48 :: x :: ds).length ≤ 2) : False := by
    have hpos := List.length_pos_iff.2 hne
    simp only [List.length_append, List.length_cons] at hlen
    omega
  cases h with
  | @unsigned ws s n hws h =>
    cases h with
    | digits hne h => exact ⟨ws, s, rfl, fun c hc => .inl (hws c hc), hne, h⟩
    | hex hx hne h => exact (hnoHex hne hlen).elim
  | @plus ws s n hws h =>
    cases h with
    | digits hne h =>
      refine ⟨ws ++ [43], s, (List.append_assoc ws [43] s).symm, fun c hc => ?_, hne, h⟩
      rcases List.mem_append.1 hc with hc | hc
      · exact .inl (hws c hc)
      · exact .inr (List.mem_singleton.1 hc)
    | @hex x ds hx hne h =>
      rw [List.append_cons] at hlen
      exact (hnoHex hne hlen).elim

theorem idPiece_digits (ws : List UInt8) {ds : List UInt8} (hws : ∀ c ∈ ws, isspace c = true) (hne : ds ≠ [])
    (h : ∀ c ∈ ds, isDigit 16 c = true) (hlen : ds.length ≤ 2) : ∃ n ≤ 0xff, IdPiece (ws ++ ds) n :=
  ⟨natOf 16 ds, natOf_le_of_short h hlen, .unsigned hws (.digits hne h)⟩

theorem idPiece_one {c : UInt8} : (∃ n ≤ 0xff, IdPiece [c] n) ↔ isDigit 16 c = true := by
  constructor
  · rintro ⟨n, -, h⟩
    obtain ⟨a, ds, ht, -, hne, hds⟩ := h.short (by simp)
    rcases a with _ | ⟨x, a⟩
    · exact hds c (by rw [← List.nil_append ds, ← ht]; exact List.mem_cons_self)
    · exact absurd (List.append_eq_nil_iff.1 (List.cons.inj ht).2.symm).2 hne
  · intro h
    exact idPiece_digits [] (by simp) (List.cons_ne_nil _ _) (List.forall_mem_singleton.2 h) (by simp)

theorem idPiece_two {c₀ c₁ : UInt8} : (∃ n ≤ 0xff, IdPiece [c₀, c₁] n) ↔
    (isDigit 16 c₀ = true ∨ isspace c₀ = true ∨ c₀ = 43) ∧ isDigit 16 c₁ = true := by
  constructor
  · rintro ⟨n, -, h⟩
    obtain ⟨a, ds, ht, ha, hne, hds⟩ := h.short (by simp)
    rcases a with _ | ⟨x, _ | ⟨y, a⟩⟩
    · rw [List.nil_append] at ht
      subst ht
      exact ⟨.inl (hds c₀ List.mem_cons_self), hds c₁ (List.mem_cons_of_mem _ List.mem_cons_self)⟩
    · obtain ⟨rfl, rfl⟩ := List.cons.inj ht
      exact ⟨.inr (ha c₀ List.mem_cons_self), hds c₁ List.mem_cons_self⟩
    · exact absurd (List.append_eq_nil_iff.1 (List.cons.inj (List.cons.inj ht).2).2.symm).2 hne
  · rintro ⟨h₀ | h₀ | rfl, h₁⟩
    · exact idPiece_digits [] (by simp) (List.cons_ne_nil _ _)
        (List.forall_mem_cons.2 ⟨h₀, List.forall_mem_singleton.2 h₁⟩) (by simp)
    · exact idPiece_digits [c₀] (List.forall_mem_singleton.2 h₀) (List.cons_ne_nil _ _)
        (List.forall_mem_singleton.2 h₁) (by simp)
    · have h : ∀ c ∈ [c₁], isDigit 16 c = true := List.forall_mem_singleton.2 h₁
      have hp : Prefixed [c₁] (natOf 16 [c₁]) := .digits (List.cons_ne_nil _ _) h
      exact ⟨natOf 16 [c₁], natOf_le_of_short h (by simp), @IdPiece.plus [] _ _ (by simp) hp⟩

theorem hexToken_ne_none {t : List UInt8} (h45 : 45 ∉ t) : Binary.hexToken t ≠ none ↔ HexPiece t := by
  induction t using Binary.hexToken.induct with
  | case1 => exact iff_of_true (Option.some_ne_none _) .nil
  | case2 c =>
    have hone := (idOctet_ne_none h45).trans idPiece_one
    rw [Binary.hexToken, Ne, Option.map_eq_none_iff, ← Ne, hone]
    exact ⟨.last, fun h => by cases h; assumption⟩
  | case3 c₀ c₁ s ih =>
    have h₂ : 45 ∉ [c₀, c₁] := fun h => h45 (List.mem_append_left s h)
    have hs : 45 ∉ s := fun h => h45 (List.mem_append_right [c₀, c₁] h)
    have htwo := (idOctet_ne_none h₂).trans idPiece_two
    have hboth : Binary.hexToken (c₀ :: c₁ :: s) ≠ none ↔ idOctet [c₀, c₁] ≠ none ∧ Binary.hexToken s ≠ none := by
      rw [Binary.hexToken]
      rcases idOctet [c₀, c₁] with _ | o
      · simp
      · rcases Binary.hexToken s with _ | l <;> simp
    rw [hboth, htwo, ih hs]
    constructor
    · rintro ⟨⟨h₀, h₁⟩, h⟩
      exact .pair h₀ h₁ h
    · intro h
      cases h with
      | pair h₀ h₁ h => exact ⟨⟨h₀, h₁⟩, h⟩

/-! ## The texts -/

/-- A text is read piece by piece. What is read is what should be, but where a piece that
should not be is read as well. -/
theorem reads_exactly_iff {β γ : Type} {f : List UInt8 → Option β} {val : List UInt8 → β} {ok : List UInt8 → Prop}
    (g : List β → γ) (ts : List (List UInt8)) (hok : ∀ t ∈ ts, ok t → f t = some (val t)) :
    (∀ l, (ts.mapM f).map g = some l ↔ (ts ≠ [] ∧ ∀ t ∈ ts, ok t) ∧ l = g (ts.map val)) ↔
      ¬ ((∀ t ∈ ts, f t ≠ none) ∧ ¬ (ts ≠ [] ∧ ∀ t ∈ ts, ok t)) := by
  have hval (h : ∀ t ∈ ts, ok t) : ts.mapM f = some (ts.map val) := by
    rw [Binary.mapM_eq_some, List.map_map]
    exact List.map_congr_left fun t ht => hok t ht (h t ht)
  constructor
  · rintro h ⟨hall, hno⟩
    obtain ⟨l, hl⟩ := Binary.exists_map_eq_some.2 hall
    rw [← Binary.mapM_eq_some] at hl
    exact hno ((h (g l)).1 (by rw [hl]; rfl)).1
  · intro h l
    constructor
    · intro hl
      obtain ⟨l', hl', rfl⟩ := Option.map_eq_some_iff.1 hl
      have hall := Binary.exists_map_eq_some.1 ⟨l', Binary.mapM_eq_some.1 hl'⟩
      have hts : ts ≠ [] ∧ ∀ t ∈ ts, ok t := by
        by_contra hno
        exact h ⟨hall, hno⟩
      rw [hval hts.2] at hl'
      exact ⟨hts, by rw [Option.some.inj hl']⟩
    · rintro ⟨hts, rfl⟩
      rw [hval hts.2]
      rfl

section
variable (b : Binary) {s : List UInt8}

theorem settle_eq_true {id : Option (List UInt8)} {l : List UInt8} :
    some (b.settle id) = some (true, l) ↔ id = some l := by
  rcases id with _ | id <;> simp [Binary.settle]

theorem fromHex_exact_iff (h0 : 0 ∉ s) (hlen : 2 ≤ s.length) :
    (∀ l, b.fromHex s = some (true, l) ↔ HexText s l) ↔ ¬ Lax HexPiece s := by
  have hne : s ≠ [] := List.ne_nil_of_length_pos (Nat.lt_of_lt_of_le (by decide) hlen)
  have hlax : Lax HexPiece s ↔ (∀ t ∈ tokens idsep s, Binary.hexToken t ≠ none) ∧
      ¬ (tokens idsep s ≠ [] ∧ ∀ t ∈ tokens idsep s, ∀ c ∈ t, isDigit 16 c = true) := by
    rw [Lax, digitsAndSeps_iff]
    exact and_congr_left fun _ => forall₂_congr fun t ht => (hexToken_ne_none (minus_notMem ht)).symm
  rw [hlax, ← reads_exactly_iff List.flatten (tokens idsep s) fun t _ => hexToken_digits]
  refine forall_congr' fun l => ?_
  rw [Binary.fromHex_eq, settle_eq_true, Binary.ofHex, if_neg hne, cstr_of_notMem h0, HexText, digitsAndSeps_iff,
    List.flatMap_def]

theorem fromId_exact_iff (h0 : 0 ∉ s) (hlen : 2 ≤ s.length) :
    (∀ l, b.fromId s = some (true, l) ↔ IdText s l) ↔ ¬ Lax (fun t => ∃ n ≤ 0xff, IdPiece t n) s := by
  have hfits {t : List UInt8} (ht : t ∈ tokens idsep s) (h : idOctet t ≠ none) :
      (∀ c ∈ t, isDigit 16 c = true) ↔ (∀ c ∈ t, isDigit 16 c = true) ∧ natOf 16 t ≤ 0xff := by
    refine (and_iff_left_of_imp fun hd => ?_).symm
    by_contra hle
    rw [idOctet_digits (ne_nil_of_mem_tokens ht) hd, if_neg hle] at h
    exact h rfl
  have hlax : Lax (fun t => ∃ n ≤ 0xff, IdPiece t n) s ↔ (∀ t ∈ tokens idsep s, idOctet t ≠ none) ∧
      ¬ (tokens idsep s ≠ [] ∧ ∀ t ∈ tokens idsep s, (∀ c ∈ t, isDigit 16 c = true) ∧ natOf 16 t ≤ 0xff) := by
    rw [Lax, digitsAndSeps_iff, forall₂_congr fun t ht => (idOctet_ne_none (minus_notMem ht)).symm]
    exact and_congr_right fun hall => not_congr (and_congr_right fun _ => forall₂_congr fun t ht =>
      hfits ht (hall t ht))
  have hok : ∀ t ∈ tokens idsep s, ((∀ c ∈ t, isDigit 16 c = true) ∧ natOf 16 t ≤ 0xff) →
      idOctet t = some (UInt8.ofNat (natOf 16 t)) := by
    rintro t ht ⟨hd, hle⟩
    rw [idOctet_digits (ne_nil_of_mem_tokens ht) hd, if_pos hle]
  rw [hlax, ← reads_exactly_iff (fun l => l) (tokens idsep s) hok]
  refine forall_congr' fun l => ?_
  have hid : LibPmc.fromId s = ((tokens idsep s).mapM idOctet).map fun l => l := by
    rw [LibPmc.fromId, if_neg (Nat.not_lt.2 hlen), cstr_of_notMem h0, Option.map_id']
    rfl
  rw [Binary.fromId_eq, settle_eq_true, hid, IdText, and_assoc]

/-- The two readers take their texts and no others, but where a text that is none of digits
and separators has only pieces that are read. -/
theorem hex_texts_iff (h0 : 0 ∉ s) (hlen : 2 ≤ s.length) :
    (∀ l, b.fromHex s = some (true, l) ↔ HexText s l) ∧ (∀ l, b.fromId s = some (true, l) ↔ IdText s l) ↔
      ¬ Lax HexPiece s ∧ ¬ Lax (fun t => ∃ n ≤ 0xff, IdPiece t n) s :=
  and_congr (fromHex_exact_iff b h0 hlen) (fromId_exact_iff b h0 hlen)

end

theorem hex_texts_mixed :
    (∀ l, Binary.fromHex [] (octets "1-2a3") = some (true, l) ↔ HexText (octets "1-2a3") l) ∧
      (∀ l, Binary.fromId [] (octets "1-2a3") = some (true, l) ↔ IdText (octets "1-2a3") l) := by
  have hd : DigitsAndSeps (octets "1-2a3") := by decide
  exact (hex_texts_iff [] (by decide) (by decide)).2 ⟨fun h => h.2 hd, fun h => h.2 hd⟩

/-- Two separators are the text of no octets, and numbers have a plus or a `0x`. -/
theorem separators_taken :
    Binary.fromHex [] (octets "::") = some (true, []) ∧ ¬ HexText (octets "::") [] ∧
      Binary.fromId [] (octets "::") = some (true, []) ∧ ¬ IdText (octets "::") [] ∧
      Binary.fromHex [] (octets "+1: 2") = some (true, [1, 2]) ∧ ¬ HexText (octets "+1: 2") [1, 2] ∧
      Binary.fromId [] (octets "+1:0x2") = some (true, [1, 2]) ∧ ¬ IdText (octets "+1:0x2") [1, 2] := by
  have hseps : ¬ DigitsAndSeps (octets "::") := by decide
  have hplus : ¬ DigitsAndSeps (octets "+1: 2") := by decide
  have hnone : tokens idsep (octets "::") = [] := by decide
  have hpiece : octets "0x2" ∈ tokens idsep (octets "+1:0x2") := by decide
  refine ⟨by decide, fun h => hseps h.1, by decide, fun h => h.1 hnone, by decide, fun h => hplus h.1, by decide,
    fun h => ?_⟩
  have hx := (h.2.1 _ hpiece).1 120 (by decide)
  exact absurd hx (by decide)

end LibPmc
