import LibPmc.Lookup
import LibPmc.Scan
/-!
# A line of a configuration file

`ConfigSection::set_val` once more, with its scans as they run over the buffer, and the
positions they read and write. Where a line has white space they stay in it. Then, what
texts the settings with a number accept.
-/
namespace LibPmc

open Cstr

/-! ## The scans -/

/-- `skip_spaces` from position `i` on and `strip_end_spaces` at the end of the string: every
position, where the value starts, and the buffer. -/
def valueScan (line : Buf) (i : Nat) : List Int × Option (Nat × Buf) :=
  let skip := forward isspace (line.drop i) i
  match skip.pos with
  | none => (skip.log, none)
  | some val =>
    let strlen := forward (· ≠ 0) (line.drop val) val
    match strlen.pos with
    | none => (skip.log ++ strlen.log, none)
    | some stop =>
      let strip := backward isspace line stop
      match strip.pos with
      | none => (skip.log ++ strlen.log ++ strip.log, none)
      | some p => (skip.log ++ strlen.log ++ strip.log ++ [(p + 1 : Int)], some (val, line.set (p + 1) 0))

/-- `set_val` up to what it stores: every position its scans read or write, counted from the
first character of the line, and what the line says. -/
def scanLine (line : Buf) : List Int × Option KeyLine :=
  let key := forward (fun c => !isspace c) line 0
  match key.pos with
  | none => (key.log, none)
  | some k =>
    let line := line.set k 0
    match CfgKey.all.find? fun idx => (ranges idx).name = cstr line with
    | none => (key.log ++ [(k : Int)], some .unknown)
    | some idx =>
      match valueScan line (k + 1) with
      | (log, none) => (key.log ++ [(k : Int)] ++ log, none)
      | (log, some (val, line)) =>
        (key.log ++ [(k : Int)] ++ log,
          some (if cstr (line.drop val) = [] then .wrong
            else match idx.read (cstr (line.drop val)) with
              | none => .wrong
              | some v => .value idx v))

/-- The scans stop at the 0 behind the text, whatever is behind it. -/
def StaysInside (text behind : List UInt8) : Prop :=
  ∀ p ∈ (scanLine (text ++ 0 :: behind)).1, 0 ≤ p ∧ p ≤ text.length

/-- A 0 written into a string ends it there. -/
theorem cstr_set {l : List UInt8} {i : Nat} (h : i ≤ (cstr l).length) (hi : i < l.length) :
    cstr (l.set i 0) = (cstr l).take i := by
  have hle : cstr l <+: l := List.takeWhile_prefix _
  have htake : l.take i = (cstr l).take i := by
    obtain ⟨t, ht⟩ := hle
    conv_lhs => rw [← ht]
    rw [List.take_append_of_le_length h]
  have hne (c : UInt8) (hc : c ∈ (cstr l).take i) : decide (c ≠ 0) = true :=
    List.mem_takeWhile_imp (p := fun c => decide (c ≠ 0)) (List.mem_of_mem_take hc)
  rw [List.set_eq_take_append_cons_drop, if_pos hi, htake, cstr_append]
  exact List.takeWhile_eq_self_iff.2 hne

/-- What is stripped from the end is the white space behind the last other character. -/
theorem stripEnd_append {x y : List UInt8} (hx : ∀ hne : x ≠ [], isspace (x.getLast hne) = false)
    (hy : ∀ c ∈ y, isspace c = true) : stripEnd (x ++ y) = x := by
  unfold stripEnd
  induction y using List.reverseRecOn with
  | nil =>
    rw [List.append_nil]
    exact List.rdropWhile_eq_self_iff.2 fun hne => by simp [hx hne]
  | append_singleton y c ih =>
    rw [← List.append_assoc, List.rdropWhile_concat_pos _ _ _ (hy c (by simp))]
    exact ih fun d hd => hy d (List.mem_append_left _ hd)

/-- The 0 that is written behind the last character leaves the value without the white space. -/
theorem strip_value {buf s b : List UInt8} {val p : Nat} (hval : buf.drop val = s ++ 0 :: b)
    (hhead : ∀ c, s.head? = some c → isspace c = false) (hpe : p < val + (cstr s).length)
    (hpns : buf[p]?.any isspace = false)
    (hall : ∀ q, p < q → q < val + (cstr s).length → buf[q]?.any isspace = true) :
    cstr ((buf.set (p + 1) 0).drop val) = stripEnd (cstr s) := by
  have hcstr : cstr (buf.drop val) = cstr s := by rw [hval, cstr_append]
  have hpre : cstr s <+: s := List.takeWhile_prefix _
  have hget (j : Nat) (hj : j < (cstr s).length) : buf[val + j]? = (cstr s)[j]? ∧ (cstr s)[j]? = s[j]? := by
    have hjs := lt_of_lt_of_le hj hpre.length_le
    have hs : (cstr s)[j]? = s[j]? := by
      rw [List.getElem?_eq_getElem hj, List.getElem?_eq_getElem hjs, hpre.getElem hj]
    refine ⟨?_, hs⟩
    rw [hs, ← List.getElem?_drop, hval, List.getElem?_append_left hjs]
  have hlen : (cstr s).length < (buf.drop val).length := by
    have hle : (cstr s).length ≤ s.length := (List.takeWhile_prefix _).length_le
    rw [hval, List.length_append, List.length_cons]
    omega
  rw [List.drop_set]
  by_cases hne : cstr s = []
  · have h0 : p + 1 ≤ val := by
      rw [hne, List.length_nil] at hpe
      omega
    rw [hne]
    split
    · rw [hcstr, hne]
      rfl
    · rw [show p + 1 - val = 0 by omega, cstr_set (Nat.zero_le _) (by omega)]
      rfl
  · -- the value starts with a character, so the scan stops in it
    have hpos := List.length_pos_iff.2 hne
    have hvp : val ≤ p := by
      by_contra hlt
      have hspace := hall val (by omega) (by omega)
      obtain ⟨h1, h2⟩ := hget 0 hpos
      rw [Nat.add_zero] at h1
      rw [h1, h2, ← List.head?_eq_getElem?] at hspace
      cases hh : s.head? with
      | none =>
        rw [hh] at hspace
        cases hspace
      | some c =>
        rw [hh] at hspace
        exact Bool.false_ne_true ((hhead c hh).symm.trans hspace)
    rw [if_neg (by omega), cstr_set (by rw [hcstr]; omega) (by omega), hcstr]
    have hsplit := List.take_append_drop (p + 1 - val) (cstr s)
    conv_rhs => rw [← hsplit]
    refine (stripEnd_append (fun hx => ?_) fun c hc => ?_).symm
    · have h := (hget (p - val) (by omega)).1
      rw [Nat.add_sub_of_le hvp] at h
      rw [h, List.getElem?_eq_getElem (by omega)] at hpns
      have hlast : p + 1 - val - 1 = p - val := by omega
      rw [List.getLast_eq_getElem, List.getElem_take]
      simp only [List.length_take, Nat.min_eq_left (show p + 1 - val ≤ (cstr s).length by omega), hlast]
      exact hpns
    · obtain ⟨j, hj, rfl⟩ := List.mem_iff_getElem.1 hc
      rw [List.length_drop] at hj
      have h := (hget (p + 1 - val + j) (by omega)).1
      have hsp := hall (val + (p + 1 - val + j)) (by omega) (by omega)
      rw [h, List.getElem?_eq_getElem (by omega)] at hsp
      simpa using hsp

/-- The scans of the value stay behind the key and in front of the 0, and the value is what is
between the white space. -/
theorem valueScan_spec (key s b : List UInt8) :
    ∃ log val line', valueScan (key ++ 0 :: (s ++ 0 :: b)) (key.length + 1) = (log, some (val, line')) ∧
      (∀ p ∈ log, 0 ≤ p ∧ p ≤ key.length + 1 + s.length) ∧
      cstr (line'.drop val) = stripEnd (cstr (s.dropWhile isspace)) := by
  have hdrop : (key ++ 0 :: (s ++ 0 :: b)).drop (key.length + 1) = s ++ 0 :: b := by
    rw [← List.drop_drop, List.drop_left]
    rfl
  have hk0 : (key ++ 0 :: (s ++ 0 :: b))[key.length]?.any isspace = false := by
    rw [List.getElem?_append_right (le_refl _)]
    simp [isspace_zero]
  have hlen : (key ++ 0 :: (s ++ 0 :: b)).length = key.length + 1 + s.length + 1 + b.length := by simp; omega
  generalize key ++ 0 :: (s ++ 0 :: b) = buf at hdrop hk0 hlen ⊢
  -- the white space in front of the value
  have hsplit : (s.takeWhile isspace).length + (s.dropWhile isspace).length = s.length := by
    rw [← List.length_append, List.takeWhile_append_dropWhile]
  have hval : buf.drop (key.length + 1 + (s.takeWhile isspace).length) = s.dropWhile isspace ++ 0 :: b := by
    have h := Buf.drop_skip buf (key.length + 1) isspace
    rw [Buf.skip, hdrop, takeWhile_stop isspace_zero, dropWhile_stop isspace_zero] at h
    exact h
  have hskip : (forward isspace (buf.drop (key.length + 1)) (key.length + 1)).pos =
      some (key.length + 1 + (s.takeWhile isspace).length) := by
    rw [forward_pos, hdrop, dropWhile_stop isspace_zero, takeWhile_stop isspace_zero, if_neg (by simp)]
  have hskiplog (p : Int) (hp : p ∈ (forward isspace (buf.drop (key.length + 1)) (key.length + 1)).log) :
      0 ≤ p ∧ p ≤ key.length + 1 + s.length := by
    rw [mem_forward, hdrop, takeWhile_stop isspace_zero] at hp
    omega
  have hhead (c : UInt8) (hc : (s.dropWhile isspace).head? = some c) : isspace c = false := by
    have := List.head?_dropWhile_not isspace s
    rw [hc] at this
    simpa using this
  generalize hvaldef : key.length + 1 + (s.takeWhile isspace).length = val at hval hskip
  generalize s.dropWhile isspace = s' at hsplit hval hhead ⊢
  -- its end
  have hcle : (cstr s').length ≤ s'.length := (List.takeWhile_prefix _).length_le
  have hstrlen : (forward (· ≠ 0) (buf.drop val) val).pos = some (val + (cstr s').length) := by
    rw [forward_pos, hval, dropWhile_stop (by simp), takeWhile_stop (by simp), if_neg (by simp)]
    rfl
  have hstrlenlog (p : Int) (hp : p ∈ (forward (· ≠ 0) (buf.drop val) val).log) :
      0 ≤ p ∧ p ≤ key.length + 1 + s.length := by
    rw [mem_forward, hval, takeWhile_stop (by simp)] at hp
    change _ ∧ p ≤ val + (cstr s').length at hp
    omega
  -- the white space behind it
  obtain ⟨p, hp, hkp, hpe, hpns, hall, hbacklog⟩ :=
    backward_stops (f := isspace) (b := buf) (k := key.length) (i := val + (cstr s').length) (by omega) hk0
  refine ⟨_, val, buf.set (p + 1) 0, by unfold valueScan; simp only [hskip, hstrlen, hp]; rfl, fun q hq => ?_, ?_⟩
  · simp only [List.mem_append, List.mem_singleton] at hq
    rcases hq with ((hq | hq) | hq) | rfl
    · exact hskiplog q hq
    · exact hstrlenlog q hq
    · have := hbacklog q hq
      omega
    · omega
  · exact strip_value hval hhead hpe hpns hall

/-- The search for the end of the key reads every position up to the first white space. -/
theorem mem_scanLine_key {line : Buf} {p : Int} (h0 : 0 ≤ p) (h : p ≤ (line.takeWhile fun c => !isspace c).length) :
    p ∈ (scanLine line).1 := by
  have hkey : p ∈ (forward (fun c => !isspace c) line 0).log := mem_forward.2 ⟨h0, by simpa using h⟩
  unfold scanLine
  dsimp only
  split
  · exact hkey
  · split
    · exact List.mem_append_left _ hkey
    · split <;> exact List.mem_append_left _ (List.mem_append_left _ hkey)

section Key
variable {key : List UInt8} {c : UInt8} (hkey : ∀ d ∈ key, isspace d = false) (hc : isspace c = true) (r : List UInt8)

include hkey hc

/-- The key ends at the first white space. -/
theorem takeWhile_key : (key ++ c :: r).takeWhile (fun c => !isspace c) = key := by
  rw [takeWhile_stop (by simp [hc])]
  exact List.takeWhile_eq_self_iff.2 fun d hd => by simp [hkey d hd]

theorem dropWhile_key : (key ++ c :: r).dropWhile (fun c => !isspace c) = c :: r := by
  rw [dropWhile_stop (by simp [hc]), List.dropWhile_eq_nil_iff.2 fun d hd => by simp [hkey d hd]]
  rfl

theorem forward_key : (forward (fun c => !isspace c) (key ++ c :: r) 0).pos = some key.length := by
  rw [forward_pos, takeWhile_key hkey hc, dropWhile_key hkey hc, if_neg (by simp), Nat.zero_add]

end Key

theorem set_key (key : List UInt8) (c : UInt8) (r : List UInt8) : (key ++ c :: r).set key.length 0 = key ++ 0 :: r := by
  rw [List.set_append_right _ _ (le_refl _), Nat.sub_self, List.set_cons_zero]

theorem exists_key {text : List UInt8} (h : ∃ c ∈ text, isspace c = true) :
    ∃ key c s, text = key ++ c :: s ∧ isspace c = true ∧ ∀ d ∈ key, isspace d = false := by
  obtain ⟨c, hc, hs⟩ := h
  obtain ⟨x, t, ht⟩ := List.exists_cons_of_ne_nil (l := text.dropWhile fun c => !isspace c) fun he => by
    have := List.dropWhile_eq_nil_iff.1 he c hc
    simp [hs] at this
  refine ⟨text.takeWhile fun c => !isspace c, x, t, ?_, ?_, fun d hd => ?_⟩
  · rw [← ht, List.takeWhile_append_dropWhile]
  · have := List.head?_dropWhile_not (fun c => !isspace c) text
    rw [ht] at this
    simpa using this
  · simpa using List.mem_takeWhile_imp hd

theorem stays_inside_iff (text behind : List UInt8) :
    StaysInside text behind ↔ ∃ c ∈ text, isspace c = true := by
  constructor
  · intro h
    by_contra hn
    push Not at hn
    -- the search for the end of the key reads behind the 0
    have hall : ∀ c ∈ text ++ [0], (!isspace c) = true := by
      intro c hc
      rcases List.mem_append.1 hc with hc | hc
      · simpa using hn c hc
      · obtain rfl := List.mem_singleton.1 hc
        rfl
    have hlen : (text ++ [0]).length ≤ ((text ++ 0 :: behind).takeWhile fun c => !isspace c).length := by
      rw [show text ++ 0 :: behind = (text ++ [0]) ++ behind by simp, List.takeWhile_append_of_pos hall]
      exact (List.prefix_append _ _).length_le
    rw [List.length_append, List.length_singleton] at hlen
    have := (h _ (mem_scanLine_key (p := (text.length + 1 : Nat)) (by omega) (by omega))).2
    omega
  · intro h
    obtain ⟨key, c, s, rfl, hc, hkey⟩ := exists_key h
    have hlen : ((key ++ c :: s).length : Int) = key.length + 1 + s.length := by simp; omega
    unfold StaysInside
    rw [hlen, List.append_assoc, List.cons_append]
    have hkeylog (p : Int) (hp : p ∈ (forward (fun c => !isspace c) (key ++ c :: (s ++ 0 :: behind)) 0).log) :
        0 ≤ p ∧ p ≤ key.length + 1 + s.length := by
      rw [mem_forward, takeWhile_key hkey hc] at hp
      omega
    obtain ⟨log, val, line', hval, hlog, -⟩ := valueScan_spec key s behind
    intro p hp
    unfold scanLine at hp
    simp only [forward_key hkey hc, set_key, hval] at hp
    split at hp
    · rcases List.mem_append.1 hp with hp | hp
      · exact hkeylog p hp
      · obtain rfl := List.mem_singleton.1 hp
        omega
    · rcases List.mem_append.1 hp with hp | hp
      · rcases List.mem_append.1 hp with hp | hp
        · exact hkeylog p hp
        · obtain rfl := List.mem_singleton.1 hp
          omega
      · exact hlog p hp

/-- Without a 0 behind the key, the value has no end in the memory. -/
theorem valueScan_none (key : List UInt8) {r : List UInt8} (h : 0 ∉ r.dropWhile isspace) :
    (valueScan (key ++ 0 :: r) (key.length + 1)).2 = none := by
  have hdrop : (key ++ 0 :: r).drop (key.length + 1) = r := by
    rw [← List.drop_drop, List.drop_left]
    rfl
  have hval := Buf.drop_skip (key ++ 0 :: r) (key.length + 1) isspace
  rw [Buf.skip, hdrop] at hval
  unfold valueScan
  simp only [forward_pos, hdrop]
  by_cases hnil : r.dropWhile isspace = []
  · simp only [if_pos hnil]
  · have hall : (r.dropWhile isspace).dropWhile (fun c => decide (c ≠ 0)) = [] :=
      List.dropWhile_eq_nil_iff.2 fun c hc => by simpa using ne_of_mem_of_not_mem hc h
    simp only [if_neg hnil, hval, if_pos hall]

/-- What the scans make of the buffer is what `keyLine` says of it. -/
theorem scanLine_keyLine (line : List UInt8) : (scanLine line).2 = keyLine line := by
  by_cases hs : ∃ c ∈ line, isspace c = true
  · obtain ⟨key, c, r, rfl, hc, hkey⟩ := exists_key hs
    unfold scanLine keyLine
    simp only [forward_key hkey hc, set_key, takeWhile_key hkey hc, dropWhile_key hkey hc, cstr_append,
      reduceCtorEq, if_false, List.tail_cons]
    cases hfind : CfgKey.all.find? fun idx => (ranges idx).name = cstr key with
    | none => rfl
    | some idx =>
      by_cases h0 : 0 ∈ r.dropWhile isspace
      · obtain ⟨s, b, rfl⟩ := List.append_of_mem ((List.dropWhile_suffix _).subset h0)
        obtain ⟨log, val, line', hval, -, hv⟩ := valueScan_spec key s b
        have hcstr : cstr ((s ++ 0 :: b).dropWhile isspace) = cstr (s.dropWhile isspace) := by
          rw [dropWhile_stop isspace_zero, cstr_append]
        simp only [hval, if_neg (not_not.2 h0), hcstr, ← hv]
        split
        · rfl
        · cases idx.read (cstr (line'.drop val)) <;> rfl
      · have hnone := valueScan_none key h0
        rcases hvs : valueScan (key ++ 0 :: r) (key.length + 1) with ⟨log, _ | ⟨val, line'⟩⟩
        · simp only [if_pos h0]
        · rw [hvs] at hnone
          cases hnone
  · have hall : line.dropWhile (fun c => !isspace c) = [] :=
      List.dropWhile_eq_nil_iff.2 fun c hc => by simpa using fun h => hs ⟨c, hc, h⟩
    unfold scanLine keyLine
    simp only [forward_pos, if_pos hall]

/-! ## The lines of a file -/

/-- A text that `read_cfg` passes to `set_val`. -/
structure PassedLine (text : List UInt8) : Prop where
  length : text.length ≤ 511
  string : 0 ∉ text
  starts : ∃ c, text.head? = some c ∧ isspace c = false ∧ c ≠ 35 ∧ c ≠ 91

/-- A last line without a new line: the search for the end of its key reads what is behind the 0. -/
theorem leaves_line : PassedLine (octets "domainNumber") ∧ ¬ StaysInside (octets "domainNumber") [10] ∧
    ¬ ∀ text behind, PassedLine text → StaysInside text behind := by
  have hp : PassedLine (octets "domainNumber") :=
    ⟨by decide, by decide, 100, by decide, by decide, by decide, by decide⟩
  have hn : ¬ StaysInside (octets "domainNumber") [10] := fun h =>
    absurd (h 13 (by decide)).2 (by decide)
  exact ⟨hp, hn, fun h => hn (h _ _ hp)⟩

end LibPmc
