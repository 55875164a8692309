import Mathlib.Data.List.DropRight
/-!
# C strings

A `char *` is the list of the octets from there to the end of its buffer. The string ends
at the first 0, and what is behind it stays in the buffer: `dropWhile_stop` and
`takeWhile_stop` say that the functions which stop at the 0 do not see it.
-/
namespace Cstr

/-- The octets of a string literal. -/
def octets (s : String) : List UInt8 := s.toUTF8.data.toList

/-- `isspace` in the C locale. -/
def isspace (c : UInt8) : Bool := c = 32 ∨ (9 ≤ c ∧ c ≤ 13)

theorem isspace_zero : isspace 0 = false := rfl

/-- The string at the start of the list. -/
def cstr (s : List UInt8) : List UInt8 := s.takeWhile (· ≠ 0)

/-- A string without the white space at its end. -/
def stripEnd (s : List UInt8) : List UInt8 := s.rdropWhile isspace

section Stop
variable {α : Type} {p : α → Bool} {c : α}

theorem dropWhile_stop (h : p c = false) (l r : List α) : (l ++ c :: r).dropWhile p = l.dropWhile p ++ c :: r := by
  rw [List.dropWhile_append]
  split
  · rename_i he
    rw [List.isEmpty_iff.1 he, List.dropWhile_cons_of_neg (by simp [h])]
    rfl
  · rfl

theorem takeWhile_stop (h : p c = false) (l r : List α) : (l ++ c :: r).takeWhile p = l.takeWhile p := by
  rw [List.takeWhile_append]
  split
  · rename_i he
    rw [List.takeWhile_cons_of_neg (by simp [h]), List.append_nil]
    exact ((List.takeWhile_prefix p).eq_of_length he).symm
  · rfl

/-- Where the list itself has an element to stop at, nothing behind the list is seen. -/
theorem takeWhile_append_of_stop {l : List α} (h : ∃ x ∈ l, p x = false) (r : List α) :
    (l ++ r).takeWhile p = l.takeWhile p := by
  obtain ⟨x, hx, hp⟩ := h
  obtain ⟨a, b, rfl⟩ := List.append_of_mem hx
  rw [List.append_assoc, List.cons_append, takeWhile_stop hp, takeWhile_stop hp]

theorem dropWhile_append_of_stop {l : List α} (h : ∃ x ∈ l, p x = false) (r : List α) :
    (l ++ r).dropWhile p = l.dropWhile p ++ r := by
  obtain ⟨x, hx, hp⟩ := h
  obtain ⟨a, b, rfl⟩ := List.append_of_mem hx
  rw [List.append_assoc, List.cons_append, dropWhile_stop hp, dropWhile_stop hp, List.append_assoc, List.cons_append]

end Stop

/-- What is behind the end of a string is not part of it. -/
theorem cstr_append (s r : List UInt8) : cstr (s ++ 0 :: r) = cstr s := takeWhile_stop rfl s r

theorem zero_notMem_cstr (s : List UInt8) : 0 ∉ cstr s := by
  intro h
  have := List.mem_takeWhile_imp h
  simp at this

theorem cstr_of_notMem {s : List UInt8} (h : 0 ∉ s) : cstr s = s :=
  List.takeWhile_eq_self_iff.2 fun _ hc => decide_eq_true fun h0 => h (h0 ▸ hc)

/-! ## Numbers -/

/-- The value of a digit or a letter. -/
def digit (c : UInt8) : Option Nat :=
  if 48 ≤ c ∧ c ≤ 57 then some (c.toNat - 48)
  else if 97 ≤ c ∧ c ≤ 122 then some (c.toNat - 97 + 10)
  else if 65 ≤ c ∧ c ≤ 90 then some (c.toNat - 65 + 10)
  else none

def isDigit (base : Nat) (c : UInt8) : Bool := (digit c).any (· < base)

/-- The `0x` in front of a hexadecimal digit. -/
def hexPrefix : List UInt8 → Bool
  | 48 :: x :: c :: _ => (x = 120 ∨ x = 88) ∧ isDigit 16 c
  | _ => false

/-- `strtol`: the value and what is behind it, `none` where nothing is converted. The value
is not cut to a `long`: what is out of its range is out of the callers' ranges. -/
def strtol (s : List UInt8) (base : Nat) : Option (Int × List UInt8) :=
  let s := s.dropWhile isspace
  let neg := s.head? = some 45
  let s := if s.head? = some 45 ∨ s.head? = some 43 then s.tail else s
  let hex := (base = 0 ∨ base = 16) ∧ hexPrefix s = true
  let base := if base ≠ 0 then base else if hex then 16 else if s.head? = some 48 then 8 else 10
  let s := if hex then s.drop 2 else s
  let digits := s.takeWhile (isDigit base)
  if digits = [] then none
  else
    let val : Nat := digits.foldl (fun v c => v * base + (digit c).getD 0) 0
    some (if neg then -val else val, s.dropWhile (isDigit base))

/-- Signs and white space are in front of all digits. -/
theorem le_of_isDigit {base : Nat} {c : UInt8} (h : isDigit base c = true) : 48 ≤ c.toNat := by
  by_contra hlt
  have hn {d : UInt8} (hd : 48 ≤ d.toNat) : ¬ d ≤ c := fun hd' => by
    have := UInt8.le_iff_toNat_le.1 hd'
    omega
  unfold isDigit digit at h
  rw [if_neg fun hc => hn (by decide) hc.1, if_neg fun hc => hn (by decide) hc.1,
    if_neg fun hc => hn (by decide) hc.1] at h
  cases h

theorem isspace_of_digit {base : Nat} {c : UInt8} (h : isDigit base c = true) : isspace c = false := by
  have hc := le_of_isDigit h
  by_contra hs
  rcases of_decide_eq_true (by simpa using hs : isspace c = true) with rfl | ⟨-, hle⟩
  · exact absurd hc (by decide)
  · have := UInt8.le_iff_toNat_le.1 hle
    exact absurd (Nat.le_trans hc this) (by decide)

/-- Hexadecimal digits are read as a whole. -/
theorem strtol_hex {s : List UInt8} (hne : s ≠ []) (h : ∀ c ∈ s, isDigit 16 c = true) :
    strtol s 16 = some (((s.foldl (fun v c => v * 16 + (digit c).getD 0) 0 : Nat) : Int), []) := by
  obtain ⟨c, t, rfl⟩ := List.exists_cons_of_ne_nil hne
  have hc := h c List.mem_cons_self
  have hdrop : (c :: t).dropWhile isspace = c :: t := List.dropWhile_cons_of_neg (by simp [isspace_of_digit hc])
  have hsign {d : UInt8} (hd : d.toNat < 48) : ¬ (c :: t).head? = some d := fun he => by
    obtain rfl := Option.some.inj he
    exact absurd (le_of_isDigit hc) (Nat.not_le.2 hd)
  have hprefix : hexPrefix (c :: t) = false := by
    unfold hexPrefix
    split
    · next x d r he =>
      -- the `x` of a prefix is no digit
      have hx := h x (by rw [he]; exact List.mem_cons_of_mem _ List.mem_cons_self)
      have hne : ¬ (x = 120 ∨ x = 88) := by
        rintro (rfl | rfl) <;> exact absurd hx (by decide)
      simp [hne]
    · rfl
  have h16 : (16 : Nat) ≠ 0 := by decide
  have h45 := hsign (show (45 : UInt8).toNat < 48 by decide)
  have h43 := hsign (show (43 : UInt8).toNat < 48 by decide)
  unfold strtol
  simp only [hdrop, h45, h43, or_self, hprefix, if_false, Bool.false_eq_true, and_false, if_pos h16,
    List.takeWhile_eq_self_iff.2 h, List.dropWhile_eq_nil_iff.2 h]
  rfl

/-! ## Reading lines -/

/-- What `fgets` takes of a text, at most `n` octets and no further than a new line. -/
def fgets : Nat → List UInt8 → List UInt8 × List UInt8
  | 0, s => ([], s)
  | _ + 1, [] => ([], [])
  | n + 1, c :: s => if c = 10 then ([c], s) else ((c :: (fgets n s).1), (fgets n s).2)

theorem fgets_append (n : Nat) (s : List UInt8) : (fgets n s).1 ++ (fgets n s).2 = s := by
  induction n generalizing s with
  | zero => rfl
  | succ n ih =>
    cases s with
    | nil => rfl
    | cons c s =>
      unfold fgets
      split
      · rfl
      · simp only [List.cons_append, ih s]

/-- The lines that `fgets` gives one after the other, at most `fuel` of them. -/
def linesUpTo (size : Nat) : Nat → List UInt8 → List (List UInt8)
  | 0, _ => []
  | _ + 1, [] => []
  | fuel + 1, s => (fgets size s).1 :: linesUpTo size fuel (fgets size s).2

/-- All of them: each takes an octet at least. -/
def lines (size : Nat) (s : List UInt8) : List (List UInt8) := linesUpTo size s.length s

/-- With nothing but a last octet for a new line, it takes the octets that there is room for. -/
theorem fgets_eq_take (n : Nat) {s : List UInt8} (h : 10 ∉ s.dropLast) : fgets n s = (s.take n, s.drop n) := by
  induction n generalizing s with
  | zero => rfl
  | succ n ih =>
    rcases s with _ | ⟨c, _ | ⟨d, s⟩⟩
    · rfl
    · unfold fgets
      split
      · rename_i hc
        simp [hc]
      · rw [ih (by simp)]
        simp
    · rw [List.dropLast_cons_cons, List.mem_cons, not_or] at h
      unfold fgets
      rw [if_neg (Ne.symm h.1), ih h.2]
      simp

theorem fgets_length (n : Nat) (s : List UInt8) : (fgets n s).1.length ≤ n := by
  induction n generalizing s with
  | zero => simp [fgets]
  | succ n ih =>
    rcases s with _ | ⟨c, s⟩
    · simp [fgets]
    · unfold fgets
      split
      · simp
      · simpa using ih s

theorem fgets_ne_nil {n : Nat} (hn : 0 < n) {s : List UInt8} (hs : s ≠ []) : (fgets n s).1 ≠ [] := by
  obtain ⟨n, rfl⟩ := Nat.exists_eq_succ_of_ne_zero (Nat.ne_of_gt hn)
  obtain ⟨c, s, rfl⟩ := List.exists_cons_of_ne_nil hs
  unfold fgets
  split <;> simp

theorem fgets_snd_length {n : Nat} (hn : 0 < n) {s : List UInt8} (hs : s ≠ []) : (fgets n s).2.length < s.length := by
  have ha := congrArg List.length (fgets_append n s)
  have hpos := List.length_pos_iff.2 (fgets_ne_nil hn hs)
  rw [List.length_append] at ha
  omega

/-- Whole lines. -/
def EndsLine (s : List UInt8) : Prop := s = [] ∨ s.getLast? = some 10

/-- What is behind whole lines is left for later. -/
theorem fgets_append_text (n : Nat) {s : List UInt8} (hs : s ≠ []) (h : EndsLine s) (t : List UInt8) :
    fgets n (s ++ t) = ((fgets n s).1, (fgets n s).2 ++ t) := by
  induction n generalizing s with
  | zero => rfl
  | succ n ih =>
    obtain ⟨c, s, rfl⟩ := List.exists_cons_of_ne_nil hs
    have hl := h.resolve_left hs
    rw [List.cons_append]
    unfold fgets
    split
    · rfl
    · rename_i hc
      have hs' : s ≠ [] := by
        rintro rfl
        exact hc (Option.some.inj hl)
      rw [ih hs' (.inr (by rwa [List.getLast?_cons_of_ne_nil hs'] at hl))]

theorem fgets_snd_endsLine (n : Nat) {s : List UInt8} (h : EndsLine s) : EndsLine (fgets n s).2 := by
  rcases h with rfl | h
  · cases n <;> exact .inl rfl
  · by_cases hr : (fgets n s).2 = []
    · exact .inl hr
    · rw [← fgets_append n s, List.getLast?_append_of_ne_nil _ hr] at h
      exact .inr h

section Lines
variable {size : Nat} (hn : 0 < size)
include hn

theorem linesUpTo_eq {fuel fuel' : Nat} {s : List UInt8} (h : s.length ≤ fuel) (h' : s.length ≤ fuel') :
    linesUpTo size fuel s = linesUpTo size fuel' s := by
  induction fuel generalizing fuel' s with
  | zero =>
    rw [List.eq_nil_of_length_eq_zero (Nat.le_zero.1 h)]
    cases fuel' <;> rfl
  | succ fuel ih =>
    rcases s with _ | ⟨c, s⟩
    · cases fuel' <;> rfl
    · obtain ⟨fuel', rfl⟩ := Nat.exists_eq_succ_of_ne_zero (Nat.ne_of_gt (Nat.lt_of_lt_of_le (Nat.succ_pos _) h'))
      have hlt := fgets_snd_length hn (List.cons_ne_nil c s)
      rw [linesUpTo, linesUpTo, @ih fuel' _ (by omega) (by omega)]
      · simp
      · simp

theorem lines_cons {s : List UInt8} (hs : s ≠ []) : lines size s = (fgets size s).1 :: lines size (fgets size s).2 := by
  obtain ⟨c, s, rfl⟩ := List.exists_cons_of_ne_nil hs
  have hlt := fgets_snd_length hn (List.cons_ne_nil c s)
  rw [lines, lines, List.length_cons, linesUpTo, linesUpTo_eq hn (Nat.le_of_lt_succ hlt) (Nat.le_refl _)]
  simp

/-- The induction on a text by its lines. -/
theorem lines_induction {motive : List UInt8 → Prop} (nil : motive [])
    (cons : ∀ s, s ≠ [] → motive (fgets size s).2 → motive s) (s : List UInt8) : motive s := by
  induction hl : s.length using Nat.strong_induction_on generalizing s with
  | h n ih =>
    by_cases hs : s = []
    · rwa [hs]
    · exact cons s hs (ih _ (hl ▸ fgets_snd_length hn hs) _ rfl)

theorem lines_append {s : List UInt8} (h : EndsLine s) (t : List UInt8) :
    lines size (s ++ t) = lines size s ++ lines size t := by
  induction s using lines_induction hn with
  | nil => rfl
  | cons s hs ih =>
    rw [lines_cons hn hs, lines_cons hn (List.append_ne_nil_of_left_ne_nil hs t), fgets_append_text size hs h t,
      ih (fgets_snd_endsLine size h), List.cons_append]

theorem lines_length {s l : List UInt8} (h : l ∈ lines size s) : l.length ≤ size := by
  induction s using lines_induction hn with
  | nil => cases h
  | cons s hs ih =>
    rw [lines_cons hn hs] at h
    rcases List.mem_cons.1 h with rfl | h
    · exact fgets_length size s
    · exact ih h

/-- The pieces of one long line are full but for the last. -/
theorem lines_dropLast_length {s p : List UInt8} (h : 10 ∉ s.dropLast) (hp : p ∈ (lines size s).dropLast) :
    p.length = size := by
  induction s using lines_induction hn with
  | nil => cases hp
  | cons s hs ih =>
    rw [lines_cons hn hs, fgets_eq_take size h] at hp
    rw [fgets_eq_take size h] at ih
    by_cases hd : s.drop size = []
    · rw [hd] at hp
      cases hp
    · rw [lines_cons hn hd, List.dropLast_cons_cons, ← lines_cons hn hd] at hp
      rcases List.mem_cons.1 hp with rfl | hp
      · rw [List.length_take]
        have := List.length_pos_iff.2 hd
        rw [List.length_drop] at this
        omega
      · refine ih (fun hm => h ?_) hp
        rw [← List.take_append_drop size s, List.dropLast_append_of_ne_nil hd]
        exact List.mem_append_right _ hm

end Lines

/-! ## Lines of a text -/

/-- The lines of a text, each with the new line that ends it. The last one may lack it. -/
def wholeLines : List UInt8 → List (List UInt8)
  | [] => []
  | c :: s =>
    if c = 10 then [10] :: wholeLines s
    else
      match wholeLines s with
      | [] => [[c]]
      | line :: rest => (c :: line) :: rest

/-- The first line of a text and what is behind it. -/
theorem wholeLines_cons {s : List UInt8} (hs : s ≠ []) :
    ∃ line r, s = line ++ r ∧ line ≠ [] ∧ wholeLines s = line :: wholeLines r ∧ (EndsLine line ∨ r = []) := by
  induction s with
  | nil => exact absurd rfl hs
  | cons c s ih =>
    by_cases hc : c = 10
    · subst hc
      exact ⟨[10], s, rfl, by simp, if_pos rfl, .inl (.inr rfl)⟩
    · rw [wholeLines, if_neg hc]
      by_cases hs : s = []
      · subst hs
        exact ⟨[c], [], rfl, by simp, rfl, .inr rfl⟩
      · obtain ⟨line, r, rfl, hne, hw, he⟩ := ih hs
        refine ⟨c :: line, r, rfl, by simp, by rw [hw], he.imp_left fun h => .inr ?_⟩
        rw [List.getLast?_cons_of_ne_nil hne]
        exact h.resolve_left hne

/-- `fgets` gives each line in its pieces. -/
theorem lines_eq_flatMap {size : Nat} (h : 0 < size) (s : List UInt8) :
    lines size s = (wholeLines s).flatMap (lines size) := by
  induction hl : s.length using Nat.strong_induction_on generalizing s with
  | h n ih =>
    by_cases hs : s = []
    · rw [hs]
      rfl
    · obtain ⟨line, r, rfl, hne, hw, he⟩ := wholeLines_cons hs
      have hr : r.length < n := by
        have := List.length_pos_iff.2 hne
        rw [List.length_append] at hl
        omega
      rw [hw, List.flatMap_cons, ← ih _ hr r rfl]
      rcases he with he | rfl
      · exact lines_append h he r
      · rw [List.append_nil]
        exact (List.append_nil _).symm

/-- A line that there is room for is one piece. -/
theorem lines_of_fits {size : Nat} {line : List UInt8} (hne : line ≠ []) (hl : line.length ≤ size)
    (h : 10 ∉ line.dropLast) :
    lines size line = [line] := by
  have hpos : 0 < size := lt_of_lt_of_le (List.length_pos_iff.2 hne) hl
  rw [lines_cons hpos hne, fgets_eq_take size h, List.take_of_length_le hl, List.drop_of_length_le hl]
  rfl

end Cstr
