import LibPmc.Cstr
import Mathlib.Data.List.TakeWhile
/-!
# Tokens in a buffer

A buffer is the octets from some address to where the memory ends, and a pointer into it
an offset. `strtok_r` ends its tokens in place. Where a function would read behind the
end of the memory it gives `none`: a string that has its 0 there (`Ended`) does not let
that happen.
-/
namespace Cstr

abbrev Buf := List UInt8

namespace Buf

/-- The string at an offset. -/
def str (b : Buf) (p : Nat) : Option (List UInt8) := if 0 ∈ b.drop p then some (cstr (b.drop p)) else none

/-- The first offset from `p` on where `f` does not hold. -/
def skip (b : Buf) (p : Nat) (f : UInt8 → Bool) : Nat := p + ((b.drop p).takeWhile f).length

/-- Write octets from `p` on. -/
def put (b : Buf) (p : Nat) (l : List UInt8) : Buf := b.take p ++ l ++ b.drop (p + l.length)

/-- There is a string at the offset. -/
def Ended (b : Buf) (p : Nat) : Prop := 0 ∈ b.drop p

theorem str_of_ended {b : Buf} {p : Nat} (h : b.Ended p) : b.str p = some (cstr (b.drop p)) := if_pos h

theorem put_length {b : Buf} {p : Nat} {l : List UInt8} (h : p + l.length ≤ b.length) :
    (b.put p l).length = b.length := by
  simp only [put, List.length_append, List.length_take, List.length_drop]
  omega

theorem ended_lt {b : Buf} {p : Nat} (h : b.Ended p) : p < b.length := by
  by_contra hn
  unfold Ended at h
  rw [List.drop_eq_nil_of_le (by omega)] at h
  cases h

theorem le_skip (b : Buf) (p : Nat) (f : UInt8 → Bool) : p ≤ b.skip p f := Nat.le_add_right _ _

theorem lt_skip {b : Buf} {p : Nat} {f : UInt8 → Bool} (hp : p < b.length) (h : f b[p] = true) : p < b.skip p f := by
  unfold skip
  rw [List.drop_eq_getElem_cons hp, List.takeWhile_cons_of_pos h, List.length_cons]
  omega

theorem drop_skip (b : Buf) (p : Nat) (f : UInt8 → Bool) : b.drop (b.skip p f) = (b.drop p).dropWhile f := by
  have h : (b.drop p).takeWhile f ++ (b.drop p).dropWhile f = b.drop p := List.takeWhile_append_dropWhile
  unfold skip
  rw [← List.drop_drop]
  exact (congrArg (List.drop _) h.symm).trans List.drop_left

/-- Where a skip stops, `f` does not hold. -/
theorem skip_stops {b : Buf} {p : Nat} {f : UInt8 → Bool} {c : UInt8} (h : b[b.skip p f]? = some c) :
    f c = false := by
  have hn := List.head?_dropWhile_not f (b.drop p)
  rw [← drop_skip, List.head?_drop, h] at hn
  simpa using hn

theorem skip_append {f : UInt8 → Bool} {ws l : List UInt8} (pre : Buf) (hws : ∀ c ∈ ws, f c = true)
    (hl : ∀ c ∈ l.head?, f c = false) : Buf.skip (pre ++ (ws ++ l)) pre.length f = pre.length + ws.length := by
  have hstop : l.takeWhile f = [] := by
    cases l with
    | nil => rfl
    | cons c l => exact List.takeWhile_cons_of_neg (by simpa using hl c rfl)
  unfold skip
  rw [List.drop_left, List.takeWhile_append_of_pos hws, hstop, List.append_nil]

/-- A skip over octets that are not 0 stays in the string. -/
theorem Ended.skip {b : Buf} {p : Nat} {f : UInt8 → Bool} (h : b.Ended p) (hf : f 0 = false) :
    b.Ended (b.skip p f) := by
  have h0 : (0 : UInt8) ∈ (b.drop p).takeWhile f ++ (b.drop p).dropWhile f := by
    rw [List.takeWhile_append_dropWhile]
    exact h
  unfold Ended
  rw [drop_skip]
  refine (List.mem_append.1 h0).resolve_left fun hm => ?_
  rw [List.mem_takeWhile_imp hm] at hf
  cases hf

/-- A string that does not start with its 0 goes on behind it. -/
theorem Ended.succ {b : Buf} {p : Nat} (h : b.Ended p) (hc : b[p]? ≠ some 0) : b.Ended (p + 1) := by
  have hp := ended_lt h
  unfold Ended at h ⊢
  rw [List.drop_eq_getElem_cons hp] at h
  refine (List.mem_cons.1 h).resolve_left fun h0 => hc ?_
  rw [List.getElem?_eq_getElem hp, ← h0]

/-- A 0 written in front of a string leaves it one. -/
theorem Ended.set {b : Buf} {p q : Nat} (h : b.Ended q) (hq : p < q) : Buf.Ended (List.set b p 0) q := by
  unfold Ended
  rw [List.drop_set_of_lt hq]
  exact h

theorem ended_set {b : Buf} {p q : Nat} (hp : p ≤ q) (hq : q < b.length) : Buf.Ended (List.set b q 0) p := by
  unfold Ended
  rw [List.drop_set, if_neg (by omega)]
  rw [List.mem_iff_getElem]
  exact ⟨q - p, by rw [List.length_set, List.length_drop]; omega, List.getElem_set_self _⟩

end Buf

/-- The end of the token that starts at the offset: a separator or the end of the string. -/
def tokenEnd (sep : List UInt8) (b : Buf) (p : Nat) : Nat := b.skip p fun c => c ≠ 0 ∧ ¬ sep.contains c

/-- `strtok_r`: the next token, the buffer with the token ended, and where to go on. -/
def strtok_r (sep : List UInt8) (b : Buf) (p : Nat) : Option (Option Nat × Buf × Nat) := do
  let start := b.skip p sep.contains
  if (← b[start]?) = 0 then return (none, b, start)
  else
    let stop := tokenEnd sep b start
    if (← b[stop]?) = 0 then return (some start, b, stop)
    else return (some start, b.set stop 0, stop + 1)

/-- A token takes an octet at least, and the buffer stays as long as it is. -/
theorem strtok_r_advances {sep : List UInt8} {b b' : Buf} {p t q : Nat}
    (h : strtok_r sep b p = some (some t, b', q)) :
    b'.length = b.length ∧ p < q ∧ q ≤ b.length := by
  have hle := b.le_skip p sep.contains
  have hns (c : UInt8) (hc : b[b.skip p sep.contains]? = some c) : sep.contains c = false := Buf.skip_stops hc
  unfold strtok_r at h
  dsimp only at h
  generalize b.skip p sep.contains = start at hle hns h
  simp only [bind, Option.bind_eq_some_iff] at h
  obtain ⟨c, hc, h⟩ := h
  obtain ⟨hlt, hc'⟩ := List.getElem?_eq_some_iff.1 hc
  by_cases h0 : c = 0
  · rw [if_pos h0] at h
    cases h
  rw [if_neg h0] at h
  have hstop : start < tokenEnd sep b start := Buf.lt_skip hlt (by rw [hc']; simpa [h0] using hns c hc)
  generalize tokenEnd sep b start = stop at hstop h
  simp only [Option.bind_eq_some_iff] at h
  obtain ⟨c', hcs, h⟩ := h
  obtain ⟨hlt', -⟩ := List.getElem?_eq_some_iff.1 hcs
  by_cases h0' : c' = 0
  · rw [if_pos h0'] at h
    cases h
    exact ⟨rfl, by omega, by omega⟩
  · rw [if_neg h0'] at h
    cases h
    exact ⟨List.length_set, by omega, by omega⟩

/-- In a string it gives a string, and goes on behind it. -/
theorem strtok_r_spec {sep : List UInt8} (hsep : sep.contains 0 = false) {b : Buf} {p : Nat} (h : b.Ended p) :
    (∃ q, strtok_r sep b p = some (none, b, q) ∧ b.Ended q) ∨
      ∃ t b' q, strtok_r sep b p = some (some t, b', q) ∧ b'.length = b.length ∧ p ≤ t ∧ t < q ∧ Buf.Ended b' t ∧
        Buf.Ended b' q := by
  have hs : b.Ended (b.skip p sep.contains) := h.skip hsep
  have hle := b.le_skip p sep.contains
  have hns (c : UInt8) (hc : b[b.skip p sep.contains]? = some c) : sep.contains c = false := Buf.skip_stops hc
  unfold strtok_r
  dsimp only
  generalize b.skip p sep.contains = start at hs hle hns ⊢
  have hlt := Buf.ended_lt hs
  rw [List.getElem?_eq_getElem hlt] at hns ⊢
  simp only [bind, Option.bind_some]
  by_cases h0 : b[start] = 0
  · exact .inl ⟨start, by rw [if_pos h0]; rfl, hs⟩
  right
  rw [if_neg h0]
  -- the first octet is neither a separator nor the end, so the token is not empty
  have hstop : start < tokenEnd sep b start := Buf.lt_skip hlt (by simpa [h0] using hns _ rfl)
  have he : b.Ended (tokenEnd sep b start) := hs.skip (by simp)
  generalize tokenEnd sep b start = stop at hstop he ⊢
  have hlt' := Buf.ended_lt he
  rw [List.getElem?_eq_getElem hlt']
  simp only [Option.bind_some]
  by_cases h0' : b[stop] = 0
  · exact ⟨start, b, stop, by rw [if_pos h0']; rfl, rfl, hle, hstop, hs, he⟩
  · rw [if_neg h0']
    have hnext : b.Ended (stop + 1) := he.succ (by rw [List.getElem?_eq_getElem hlt']; simpa using h0')
    exact ⟨start, b.set stop 0, stop + 1, rfl, List.length_set, hle, by omega, Buf.ended_set (by omega) hlt',
      hnext.set (by omega)⟩

section Token
variable {sep ws w rest : List UInt8} {c : UInt8} (pre : Buf)

/-- With separators only, there is no token. -/
theorem strtok_r_end (hsep : sep.contains 0 = false) (hws : ∀ c ∈ ws, sep.contains c = true) :
    strtok_r sep (pre ++ (ws ++ 0 :: rest)) pre.length =
      some (none, pre ++ (ws ++ 0 :: rest), pre.length + ws.length) := by
  have hskip := Buf.skip_append (l := 0 :: rest) pre hws fun c hc => Option.some.inj hc ▸ hsep
  have h0 : (pre ++ (ws ++ 0 :: rest))[pre.length + ws.length]? = some 0 := by
    rw [← List.append_assoc, ← List.length_append, List.getElem?_append_right (le_refl _), Nat.sub_self]
    rfl
  unfold strtok_r
  dsimp only
  rw [hskip, h0]
  rfl

/-- The token is what stands in front of the next separator, or of the end. -/
theorem strtok_r_token (hws : ∀ c ∈ ws, sep.contains c = true) (hw : ∀ c ∈ w, c ≠ 0 ∧ sep.contains c = false)
    (hne : w ≠ []) (hc : c = 0 ∨ sep.contains c = true) :
    strtok_r sep (pre ++ (ws ++ (w ++ c :: rest))) pre.length =
      some (some (pre.length + ws.length), pre ++ (ws ++ (w ++ 0 :: rest)),
        pre.length + ws.length + w.length + if c = 0 then 0 else 1) := by
  obtain ⟨x, w, rfl⟩ := List.exists_cons_of_ne_nil hne
  have hskip := Buf.skip_append (l := x :: w ++ c :: rest) pre hws fun y hy =>
    Option.some.inj hy ▸ (hw x List.mem_cons_self).2
  have hx : (pre ++ (ws ++ (x :: w ++ c :: rest)))[pre.length + ws.length]? = some x := by
    rw [← List.append_assoc, ← List.length_append, List.getElem?_append_right (le_refl _), Nat.sub_self]
    rfl
  have hstop : tokenEnd sep (pre ++ (ws ++ (x :: w ++ c :: rest))) (pre.length + ws.length) =
      pre.length + ws.length + (x :: w).length := by
    unfold tokenEnd
    rw [← List.append_assoc, ← List.length_append]
    refine Buf.skip_append (pre ++ ws) (fun y hy => ?_) fun y hy => ?_
    · obtain ⟨h0, hs⟩ := hw y hy
      simp only [h0, hs, Bool.false_eq_true, ne_eq, not_false_eq_true, and_self, decide_true]
    · obtain rfl := Option.some.inj hy
      rcases hc with rfl | hs
      · simp
      · simp only [hs, not_true_eq_false, and_false, decide_false]
  have hlen : pre.length + ws.length + (x :: w).length = (pre ++ (ws ++ x :: w)).length := by
    simp only [List.length_append]
    omega
  have hsplit (c : UInt8) : pre ++ (ws ++ (x :: w ++ c :: rest)) = (pre ++ (ws ++ x :: w)) ++ c :: rest := by
    simp only [List.append_assoc]
  have hend : (pre ++ (ws ++ (x :: w ++ c :: rest)))[pre.length + ws.length + (x :: w).length]? = some c := by
    rw [hlen, hsplit, List.getElem?_append_right (le_refl _), Nat.sub_self]
    rfl
  unfold strtok_r
  dsimp only
  rw [hskip, hx, hstop]
  dsimp only [bind, Option.bind_some]
  rw [if_neg (hw x List.mem_cons_self).1, hend]
  dsimp only [Option.bind_some]
  by_cases h0 : c = 0
  · rw [if_pos h0, if_pos h0, h0]
    rfl
  · rw [if_neg h0, if_neg h0, hlen, hsplit, hsplit, List.set_append_right _ _ (le_refl _), Nat.sub_self]
    rfl

end Token

/-! ## The tokens of a text -/

/-- What `strtok_r` finds one after the other: the pieces between separators, but for the empty ones. -/
def tokens (sep s : List UInt8) : List (List UInt8) := (s.splitOnP (sep.contains ·)).filter (· ≠ [])

section Tokens
variable {sep ws w s : List UInt8} {c : UInt8}

theorem tokens_sep_append (hws : ∀ c ∈ ws, sep.contains c = true) (s : List UInt8) :
    tokens sep (ws ++ s) = tokens sep s := by
  induction ws with
  | nil => rfl
  | cons c ws ih =>
    rw [List.forall_mem_cons] at hws
    rw [← ih hws.2, tokens, List.cons_append, List.splitOnP_cons_eq_if_modifyHead, if_pos hws.1]
    rfl

theorem tokens_of_sep (hws : ∀ c ∈ ws, sep.contains c = true) : tokens sep ws = [] := by
  rw [← List.append_nil ws, tokens_sep_append hws]
  rfl

theorem tokens_word (hw : ∀ c ∈ w, sep.contains c = false) (hne : w ≠ []) : tokens sep w = [w] := by
  rw [tokens, List.splitOnP_eq_singleton hw, List.filter_cons_of_pos (by simpa using hne)]
  rfl

theorem tokens_word_cons (hw : ∀ c ∈ w, sep.contains c = false) (hne : w ≠ []) (hc : sep.contains c = true)
    (s : List UInt8) :
    tokens sep (w ++ c :: s) = w :: tokens sep s := by
  rw [tokens, List.splitOnP_append_cons_of_forall_mem hw c hc, List.filter_cons_of_pos (by simpa using hne)]
  rfl

/-- The tokens are the text without the separators. -/
theorem tokens_flatten (sep s : List UInt8) : (tokens sep s).flatten = s.filter fun c => !sep.contains c := by
  have hall : (tokens sep s).flatten = (s.splitOnP (sep.contains ·)).flatten := by
    rw [tokens]
    exact List.flatten_filter_ne_nil
  rw [hall]
  clear hall
  induction s with
  | nil => rfl
  | cons c s ih =>
    rw [List.splitOnP_cons_eq_if_modifyHead, List.filter_cons, ← ih]
    cases hc : sep.contains c with
    | true => rfl
    | false =>
      obtain ⟨w, ws, hw⟩ := List.exists_cons_of_ne_nil (List.splitOnP_ne_nil (sep.contains ·) s)
      rw [hw]
      rfl

theorem mem_tokens {d : UInt8} : (∃ t ∈ tokens sep s, d ∈ t) ↔ d ∈ s ∧ sep.contains d = false := by
  rw [← List.mem_flatten, tokens_flatten, List.mem_filter, Bool.not_eq_true']

theorem ne_nil_of_mem_tokens {t : List UInt8} (h : t ∈ tokens sep s) : t ≠ [] := by
  simpa using (List.mem_filter.1 h).2

/-- A text is separators, a first word and the rest behind it. -/
theorem first_word (sep s : List UInt8) :
    (∀ c ∈ s, sep.contains c = true) ∨ ∃ ws w r, s = ws ++ (w ++ r) ∧ (∀ c ∈ ws, sep.contains c = true) ∧
      (∀ c ∈ w, sep.contains c = false) ∧ w ≠ [] ∧ ∀ c ∈ r.head?, sep.contains c = true := by
  have hws : ∀ c ∈ s.takeWhile sep.contains, sep.contains c = true := fun c hc => List.mem_takeWhile_imp hc
  have hs : s = s.takeWhile sep.contains ++ s.dropWhile sep.contains := List.takeWhile_append_dropWhile.symm
  have hhead := List.head?_dropWhile_not sep.contains s
  generalize s.dropWhile sep.contains = t at hs hhead
  rcases t with _ | ⟨c, t⟩
  · left
    rw [List.append_nil] at hs
    rwa [← hs] at hws
  · have hc : sep.contains c = false := by simpa using hhead
    have hr := List.head?_dropWhile_not (fun c => !sep.contains c) (c :: t)
    refine .inr ⟨_, (c :: t).takeWhile fun c => !sep.contains c, (c :: t).dropWhile fun c => !sep.contains c, ?_, hws,
      fun d hd => by simpa using List.mem_takeWhile_imp hd, ?_, fun d hd => ?_⟩
    · rw [List.takeWhile_append_dropWhile]
      exact hs
    · rw [List.takeWhile_cons_of_pos (by rw [hc]; rfl)]
      exact List.cons_ne_nil _ _
    · rw [hd] at hr
      simpa using hr

/-- A call takes the first token, and leaves a string with the others. -/
theorem strtok_r_next (hsep : sep.contains 0 = false) (h0 : 0 ∉ s) (pre rest : Buf) :
    (tokens sep s = [] ∧
        ∃ q, strtok_r sep (pre ++ (s ++ 0 :: rest)) pre.length = some (none, pre ++ (s ++ 0 :: rest), q)) ∨
      ∃ a w x pre' s', strtok_r sep (pre ++ (s ++ 0 :: rest)) pre.length =
          some (some a.length, a ++ (w ++ 0 :: x), pre'.length) ∧
        a ++ (w ++ 0 :: x) = pre' ++ (s' ++ 0 :: rest) ∧ tokens sep s = w :: tokens sep s' ∧ w ≠ [] ∧ 0 ∉ w ∧
          0 ∉ s' ∧ w.length + s'.length ≤ s.length := by
  rcases first_word sep s with hs | ⟨ws, w, r, rfl, hws, hw, hne, hr⟩
  · exact .inl ⟨tokens_of_sep hs, _, strtok_r_end pre hsep hs⟩
  right
  simp only [List.mem_append, not_or] at h0
  obtain ⟨-, h0w, h0r⟩ := h0
  have hword : ∀ c ∈ w, c ≠ 0 ∧ sep.contains c = false := fun c hc => ⟨fun h => h0w (h ▸ hc), hw c hc⟩
  rcases r with _ | ⟨c, r⟩
  · -- the last token
    refine ⟨pre ++ ws, w, rest, pre ++ ws ++ w, [], ?_, ?_, ?_, hne, h0w, List.not_mem_nil, ?_⟩
    · have ht := @strtok_r_token sep ws w rest 0 pre hws hword hne (.inl rfl)
      simpa only [List.append_nil, List.append_assoc, List.length_append, if_true, Nat.add_zero, Nat.add_assoc] using ht
    · simp only [List.append_assoc, List.nil_append]
    · rw [tokens_sep_append hws, List.append_nil, tokens_word hw hne]
      rfl
    · simp only [List.length_append, List.length_nil]
      omega
  · have hc : sep.contains c = true := hr c rfl
    have hc0 : c ≠ 0 := by
      rintro rfl
      rw [hsep] at hc
      cases hc
    refine ⟨pre ++ ws, w, r ++ 0 :: rest, pre ++ ws ++ w ++ [0], r, ?_, ?_, ?_, hne, h0w, ?_, ?_⟩
    · have ht := @strtok_r_token sep ws w (r ++ 0 :: rest) c pre hws hword hne (.inr hc)
      rw [if_neg hc0] at ht
      simpa only [List.append_assoc, List.length_append, List.length_singleton, List.cons_append,
        Nat.add_assoc] using ht
    · simp only [List.append_assoc, List.cons_append, List.nil_append]
    · rw [tokens_sep_append hws, tokens_word_cons hw hne hc]
    · exact fun h => h0r (List.mem_cons_of_mem _ h)
    · simp only [List.length_append, List.length_cons]
      omega

end Tokens

end Cstr
