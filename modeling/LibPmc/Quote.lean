import LibPmc.Keys
/-!
# Quoted strings

`parse_quote` finds the closing quote with a look at the octet in front of it, and replaces the
escapes afterwards. The two see a backslash at the end of a string in different ways.
-/
namespace LibPmc

open Cstr

/-! ## The closing quote -/

/-- No octet of the text closes the string, and none ends it. -/
def StaysOpen (close : UInt8) : UInt8 → List UInt8 → Prop
  | _, [] => True
  | prev, c :: s => (c = close → prev = 92) ∧ c ≠ 0 ∧ StaysOpen close c s

theorem StaysOpen.zero_notMem {close prev : UInt8} {body : List UInt8} (h : StaysOpen close prev body) : 0 ∉ body := by
  induction body generalizing prev with
  | nil => exact List.not_mem_nil
  | cons c body ih =>
    obtain ⟨-, h0, hrest⟩ := h
    intro hm
    rcases List.mem_cons.1 hm with he | hm
    · exact h0 he.symm
    · exact ih hrest hm

/-- The search goes past such a text with its last octet. -/
theorem closing_append {close prev : UInt8} {body : List UInt8} (h : StaysOpen close prev body) (rest : List UInt8) :
    closing close prev (body ++ rest) = Option.map (· + body.length) <$> closing close (body.getLastD prev) rest := by
  induction body generalizing prev with
  | nil =>
    rw [List.nil_append, List.getLastD_nil, List.length_nil]
    cases closing close prev rest with
    | none => rfl
    | some o => cases o <;> rfl
  | cons c body ih =>
    obtain ⟨hc, h0, hrest⟩ := h
    rw [List.cons_append, closing, if_neg fun ⟨he, hp⟩ => hp (hc he), if_neg h0, ih hrest, List.getLastD_cons]
    cases closing close (body.getLastD c) rest with
    | none => rfl
    | some o =>
      cases o with
      | none => rfl
      | some n => exact congrArg (fun m => some (some m)) (Nat.add_assoc n body.length 1)

theorem closing_at {close prev : UInt8} {body : List UInt8} (h : StaysOpen close prev body)
    (hl : body.getLastD prev ≠ 92) (rest : List UInt8) :
    closing close prev (body ++ close :: rest) = some (some body.length) := by
  rw [closing_append h, closing, if_pos ⟨rfl, hl⟩]
  simp

/-- A quote behind a backslash is passed. -/
theorem closing_behind {close prev : UInt8} {body rest : List UInt8} {n : Nat} (h : StaysOpen close prev body)
    (hl : body.getLastD prev = 92) (hz : close ≠ 0) (hn : closing close prev (body ++ close :: rest) = some (some n)) :
    body.length < n := by
  rw [closing_append h, closing, if_neg fun ⟨_, hp⟩ => hp hl, if_neg hz] at hn
  cases hc : closing close close rest with
  | none => rw [hc] at hn; cases hn
  | some o =>
    cases o with
    | none => rw [hc] at hn; cases hn
    | some m =>
      rw [hc] at hn
      cases hn
      show body.length < m + 1 + body.length
      omega

/-- What a search finds is the end of such a text. -/
theorem closing_sound {close prev : UInt8} {l : List UInt8} {n : Nat} (h : closing close prev l = some (some n)) :
    ∃ body rest, l = body ++ close :: rest ∧ body.length = n ∧ StaysOpen close prev body ∧ body.getLastD prev ≠ 92 := by
  induction l generalizing prev n with
  | nil => cases h
  | cons c l ih =>
    rw [closing] at h
    by_cases hc : c = close ∧ prev ≠ 92
    · obtain ⟨rfl, hp⟩ := hc
      rw [if_pos ⟨rfl, hp⟩] at h
      cases h
      exact ⟨[], l, rfl, rfl, trivial, hp⟩
    · rw [if_neg hc] at h
      by_cases h0 : c = 0
      · rw [if_pos h0] at h
        cases h
      · rw [if_neg h0] at h
        obtain ⟨o, ho, hn⟩ := Option.map_eq_some_iff.1 h
        obtain ⟨m, rfl, rfl⟩ := Option.map_eq_some_iff.1 hn
        obtain ⟨body, rest, rfl, rfl, hs, hl⟩ := ih ho
        refine ⟨c :: body, rest, rfl, rfl, ⟨fun he => ?_, h0, hs⟩, ?_⟩
        · by_contra hp
          exact hc ⟨he, hp⟩
        · rw [List.getLastD_cons]
          exact hl

/-- In a string the search has an end. -/
theorem closing_ended {close prev : UInt8} {l : List UInt8} (h : 0 ∈ l) : closing close prev l ≠ none := by
  induction l generalizing prev with
  | nil => cases h
  | cons c l ih =>
    rw [closing]
    by_cases hc : c = close ∧ prev ≠ 92
    · rw [if_pos hc]
      exact nofun
    · rw [if_neg hc]
      by_cases h0 : c = 0
      · rw [if_pos h0]
        exact nofun
      · rw [if_neg h0]
        intro hn
        exact ih ((List.mem_cons.1 h).resolve_left fun he => h0 he.symm) (Option.map_eq_none_iff.1 hn)

/-! ## The string -/

/-- A text that does not end with a backslash has all of its escapes, whatever is behind its 0. -/
theorem unescape_body {body : List UInt8} (h0 : 0 ∉ body) (hl : body.getLast? ≠ some 92) :
    ∃ str, (∀ rest, unescape (body ++ 0 :: rest) = some str) ∧ str.length ≤ body.length := by
  induction body using unescape.induct with
  | case1 => exact ⟨[], unescape_zero, Nat.le_refl 0⟩
  | case2 s => exact absurd List.mem_cons_self h0
  | case3 => exact absurd rfl hl
  | case4 e s _ ih =>
    have hs : s.getLast? ≠ some 92 := fun h => hl (by rw [List.getLast?_cons_cons, List.getLast?_cons, h]; rfl)
    obtain ⟨str, hstr, hlen⟩ := ih (fun hm => h0 (List.mem_cons_of_mem _ (List.mem_cons_of_mem _ hm))) hs
    refine ⟨escape e ++ str, fun rest => ?_, ?_⟩
    · rw [List.cons_append, List.cons_append, unescape_backslash, hstr]
      rfl
    · have := escape_length e
      simp only [List.length_append, List.length_cons]
      omega
  | case5 c s hc h92 ih =>
    have hs : s.getLast? ≠ some 92 := fun h => hl (by rw [List.getLast?_cons, h]; rfl)
    obtain ⟨str, hstr, hlen⟩ := ih (fun hm => h0 (List.mem_cons_of_mem _ hm)) hs
    refine ⟨c :: str, fun rest => ?_, Nat.succ_le_succ hlen⟩
    rw [List.cons_append, unescape_cons hc h92, hstr]
    rfl

theorem getLast?_ne {body : List UInt8} {prev : UInt8} (hl : body.getLastD prev ≠ 92) : body.getLast? ≠ some 92 := by
  intro h
  rw [List.getLastD_eq_getLast?, h] at hl
  exact hl rfl

/-- Octets written over the start of a list. -/
theorem put_left (a b l : List UInt8) : Buf.put (a ++ b) a.length l = a ++ (l ++ b.drop l.length) := by
  unfold Buf.put
  rw [List.take_left, List.append_assoc, ← List.drop_drop, List.drop_left]

section ParseQuote
variable {pre ws body rest : List UInt8} {q : UInt8} {save : Nat} {lastStr : Option Nat}

theorem append_at (pre ws : Buf) (c : UInt8) (l : List UInt8) :
    (pre ++ (ws ++ c :: l))[pre.length + ws.length]? = some c := by
  rw [← List.append_assoc, ← List.length_append, List.getElem?_append_right (le_refl _), Nat.sub_self]
  rfl

/-- An octet in front of the rest goes to what is before it. -/
theorem append_split (pre ws : Buf) (c : UInt8) (l : List UInt8) :
    pre ++ (ws ++ c :: l) = (pre ++ (ws ++ [c])) ++ l := by
  simp only [List.append_assoc, List.singleton_append]

theorem append_length (pre ws : Buf) (c : UInt8) : pre.length + ws.length + 1 = (pre ++ (ws ++ [c])).length := by
  simp only [List.length_append, List.length_singleton]
  omega

/-- The separators in front of a token are skipped. -/
theorem skip_blanks {c : UInt8} (hws : ∀ c ∈ ws, toksep.contains c = true) (h0 : c ≠ 0)
    (hc : toksep.contains c = false) :
    Buf.skip (pre ++ (ws ++ c :: rest)) pre.length (fun c => c = 0 ∨ toksep.contains c) = pre.length + ws.length := by
  apply Buf.skip_append
  · intro x hx
    exact decide_eq_true (.inr (hws x hx))
  · intro x hx
    obtain rfl := Option.some.inj hx
    simp only [h0, hc, Bool.false_eq_true, or_self, decide_false]

/-- In front of a quote there is the search for its end. -/
theorem parse_quote_open (hpos : lastStr.getD save = pre.length) (hws : ∀ c ∈ ws, toksep.contains c = true)
    (hq : q = 34 ∨ q = 39) :
    parse_quote (pre ++ (ws ++ q :: rest)) save lastStr = (do
      let start := pre.length + ws.length + 1
      match ← access (closing q q rest) with
      | none => throw .error
      | some n =>
        let buf : Buf := pre ++ (ws ++ q :: rest.set n 0)
        let str ← access (unescape (rest.set n 0))
        return (.found start (start + n + 1), buf.put start (str ++ [0]))) := by
  have hset (n : Nat) : List.set (pre ++ (ws ++ q :: rest)) (pre.length + ws.length + 1 + n) 0 =
      pre ++ (ws ++ q :: rest.set n 0) := by
    rw [append_split, append_split pre ws q (rest.set n 0), append_length pre ws q,
      List.set_append_right _ _ (Nat.le_add_right _ _), Nat.add_sub_cancel_left]
  have hdrop (l : List UInt8) : List.drop (pre.length + ws.length + 1) (pre ++ (ws ++ q :: l)) = l := by
    rw [append_split, append_length pre ws q, List.drop_left]
  have h0 : q ≠ 0 ∧ toksep.contains q = false := by
    rcases hq with rfl | rfl
    · decide
    · decide
  unfold parse_quote
  dsimp only
  rw [hpos, skip_blanks hws h0.1 h0.2, append_at, hdrop]
  simp only [hset, hdrop]
  rcases hq with rfl | rfl
  · rfl
  · rfl

/-- A string that is closed is a token, and the next one is looked for behind the quote. -/
theorem parse_quote_closed (rest : List UInt8) (hpos : lastStr.getD save = pre.length)
    (hws : ∀ c ∈ ws, toksep.contains c = true)
    (hq : q = 34 ∨ q = 39) (ho : StaysOpen q q body) (hl : body.getLastD q ≠ 92) :
    ∃ str mid, (∀ rest, unescape (body ++ 0 :: rest) = some str) ∧ str.length + mid.length = body.length ∧
      parse_quote (pre ++ (ws ++ q :: (body ++ q :: rest))) save lastStr =
        .ok (.found (pre.length + ws.length + 1) (pre.length + ws.length + 1 + body.length + 1),
          pre ++ (ws ++ q :: (str ++ 0 :: (mid ++ rest)))) := by
  obtain ⟨str, hstr, hlen⟩ := unescape_body ho.zero_notMem (getLast?_ne hl)
  have hset : (body ++ q :: rest).set body.length 0 = body ++ 0 :: rest := by
    rw [List.set_append_right _ _ (le_refl _), Nat.sub_self]
    rfl
  refine ⟨str, (body ++ [0]).drop (str.length + 1), hstr, by simp; omega, ?_⟩
  rw [parse_quote_open hpos hws hq, closing_at ho hl]
  change (access (unescape ((body ++ q :: rest).set body.length 0)) >>= fun str => pure (_, _) : Keyed _) = _
  rw [hset, hstr]
  refine congrArg (fun b => Except.ok (Quote.found _ _, b)) ?_
  have hmid : (body ++ 0 :: rest).drop (str.length + 1) = (body ++ [0]).drop (str.length + 1) ++ rest := by
    rw [show body ++ 0 :: rest = (body ++ [0]) ++ rest by rw [List.append_assoc]; rfl]
    exact List.drop_append_of_le_length (by rw [List.length_append, List.length_singleton]; omega)
  rw [append_split, append_split pre ws q (str ++ _), append_length pre ws q, put_left, List.length_append,
    List.length_singleton, hmid]
  simp only [List.append_assoc, List.singleton_append]

/-- Another token is left to `strtok_r`. -/
theorem parse_quote_bare {c : UInt8} (hpos : lastStr.getD save = pre.length) (hws : ∀ c ∈ ws, toksep.contains c = true)
    (h0 : c ≠ 0) (hs : toksep.contains c = false) (hq : ¬ (c = 34 ∨ c = 39)) :
    parse_quote (pre ++ (ws ++ c :: rest)) save lastStr = .ok (.noQuote, pre ++ (ws ++ c :: rest)) := by
  unfold parse_quote
  dsimp only
  rw [hpos, skip_blanks hws h0 hs, append_at]
  change (if c = 0 then _ else if c ≠ 34 ∧ c ≠ 39 then _ else _) = _
  rw [if_neg h0, if_pos (not_or.1 hq)]
  rfl

end ParseQuote

/-! ## Quoting and back -/

/-- A string as it is written between double quotes: each of them, and each backslash, behind a
backslash. -/
def escaped (s : List UInt8) : List UInt8 := s.flatMap fun c => if c = 92 ∨ c = 34 then [92, c] else [c]

/-- The call at the opening quote returns 2 with the string, and the text behind the closing
quote, up to the end of the memory, is next. -/
def RoundTrips (pre s text : List UInt8) : Prop :=
  ∀ save lastStr, lastStr.getD save = pre.length →
    ∃ tkn next buf, parse_quote (pre ++ 34 :: (escaped s ++ 34 :: text)) save lastStr = .ok (.found tkn next, buf) ∧
      buf.str tkn = some s ∧ next = pre.length + 1 + (escaped s).length + 1 ∧ List.drop next buf = text

section Escaped
variable {s : List UInt8}

theorem escaped_cons (c : UInt8) (s : List UInt8) :
    escaped (c :: s) = (if c = 92 ∨ c = 34 then [92, c] else [c]) ++ escaped s := List.flatMap_cons

theorem staysOpen_escaped (h0 : 0 ∉ s) (prev : UInt8) : StaysOpen 34 prev (escaped s) := by
  induction s generalizing prev with
  | nil => trivial
  | cons c s ih =>
    have hrest := ih fun hm => h0 (List.mem_cons_of_mem _ hm)
    have hc : c ≠ 0 := fun h => h0 (h ▸ List.mem_cons_self)
    rw [escaped_cons]
    by_cases hq : c = 92 ∨ c = 34
    · rw [if_pos hq]
      -- the backslash in front is what keeps the string open
      exact ⟨fun h => absurd h (by decide), by decide, fun _ => rfl, hc, hrest c⟩
    · rw [if_neg hq]
      exact ⟨fun h => absurd (.inr h) hq, hc, hrest c⟩

theorem escaped_getLastD (s : List UInt8) (prev : UInt8) : (escaped s).getLastD prev = s.getLastD prev := by
  induction s generalizing prev with
  | nil => rfl
  | cons c s ih =>
    rw [escaped_cons, List.getLastD_cons]
    by_cases hq : c = 92 ∨ c = 34
    · rw [if_pos hq, List.cons_append, List.cons_append, List.getLastD_cons, List.getLastD_cons]
      exact ih c
    · rw [if_neg hq, List.cons_append, List.getLastD_cons]
      exact ih c

theorem unescape_escaped (h0 : 0 ∉ s) (rest : List UInt8) : unescape (escaped s ++ 0 :: rest) = some s := by
  induction s with
  | nil => exact unescape_zero rest
  | cons c s ih =>
    have hc : c ≠ 0 := fun h => h0 (h ▸ List.mem_cons_self)
    have hrest := ih fun hm => h0 (List.mem_cons_of_mem _ hm)
    rw [escaped_cons]
    by_cases hq : c = 92 ∨ c = 34
    · have he : escape c = [c] := by rcases hq with rfl | rfl <;> decide
      rw [if_pos hq]
      change unescape (92 :: c :: (escaped s ++ 0 :: rest)) = _
      rw [unescape_backslash, hrest, he]
      rfl
    · rw [if_neg hq]
      change unescape (c :: (escaped s ++ 0 :: rest)) = _
      rw [unescape_cons hc (not_or.1 hq).1, hrest]
      rfl

theorem roundTrips_of_last (h0 : 0 ∉ s) (hl : s.getLast? ≠ some 92) (pre text : List UInt8) :
    RoundTrips pre s text := by
  intro save lastStr hpos
  have hlast : (escaped s).getLastD 34 ≠ 92 := by
    rw [escaped_getLastD, List.getLastD_eq_getLast?]
    cases h : s.getLast? with
    | none => exact fun h => absurd h (by decide)
    | some c => exact fun hc => hl (by rw [h]; exact congrArg some hc)
  obtain ⟨str, mid, hstr, hlen, hp⟩ := parse_quote_closed text hpos
    (show ∀ c ∈ ([] : List UInt8), toksep.contains c = true from nofun) (.inl rfl) (staysOpen_escaped h0 34) hlast
  obtain rfl : str = s := Option.some.inj ((hstr []).symm.trans (unescape_escaped h0 []))
  have hstart : pre.length + 1 = (pre ++ [34]).length := by simp
  refine ⟨_, _, _, hp, ?_, rfl, ?_⟩
  · have hd : List.drop (pre.length + 1) (pre ++ ([] ++ 34 :: (str ++ 0 :: (mid ++ text)))) =
        str ++ 0 :: (mid ++ text) := by
      rw [hstart, show pre ++ ([] ++ 34 :: (str ++ 0 :: (mid ++ text))) = (pre ++ [34]) ++
        (str ++ 0 :: (mid ++ text)) by
        simp, List.drop_left]
    unfold Buf.str
    rw [List.length_nil, Nat.add_zero, hd, if_pos (by simp), cstr_append]
    exact congrArg some (cstr_of_notMem h0)
  · have hsplit : pre ++ ([] ++ 34 :: (str ++ 0 :: (mid ++ text))) = (pre ++ 34 :: (str ++ 0 :: mid)) ++ text := by simp
    rw [hsplit]
    exact List.drop_left' (by simp; omega)

/-- The closing quote is behind a backslash, and is not seen. -/
theorem not_roundTrips (h0 : 0 ∉ s) (hl : s.getLast? = some 92) (pre text : List UInt8) : ¬ RoundTrips pre s text := by
  intro h
  obtain ⟨tkn, next, buf, hp, -, hnext, -⟩ := h pre.length none rfl
  have hopen : parse_quote (pre ++ ([] ++ 34 :: (escaped s ++ 34 :: text))) pre.length none = _ :=
    parse_quote_open rfl nofun (.inl rfl)
  rw [List.nil_append, hp] at hopen
  obtain ⟨o, ho, hopen⟩ := bind_eq_ok hopen.symm
  cases o with
  | none => cases hopen
  | some n =>
    have hlast : (escaped s).getLastD 34 = 92 := by
      rw [escaped_getLastD, List.getLastD_eq_getLast?, hl]
      rfl
    have hn := closing_behind (staysOpen_escaped h0 34) hlast (by decide) (access_eq_ok ho)
    obtain ⟨str, -, hopen⟩ := bind_eq_ok hopen
    cases hopen
    rw [List.length_nil] at hnext
    omega

end Escaped

/-- Quoting is undone for every string and every text behind it, except where the string ends
with a backslash. -/
theorem roundTrips_iff (pre s text : List UInt8) (h0 : 0 ∉ s) : RoundTrips pre s text ↔ s.getLast? ≠ some 92 :=
  ⟨fun h hl => not_roundTrips h0 hl pre text h, fun hl => roundTrips_of_last h0 hl pre text⟩

theorem roundTrips_path : RoundTrips (octets "set USER_DESCRIPTION ") (octets "C:\\pmc \"a\"") [0] :=
  (roundTrips_iff _ _ _ (by decide)).2 (by decide)

/-- A single backslash, with nothing behind the closing quote. -/
theorem backslash_not_closed : ¬ RoundTrips (octets "set USER_DESCRIPTION ") (octets "\\") [0] :=
  not_roundTrips (by decide) (by decide) _ _

end LibPmc
