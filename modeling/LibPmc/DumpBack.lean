import LibPmc.Dump
import LibPmc.HexText
import LibPmc.SignedField
/-!
# Printed values as commands

What pmc prints of a structure is a rest of a command line: labels with their values. This
module says what `parseKeysFunc` makes of such lines, where the values are all taken and
where one of them is refused.
-/
namespace LibPmc

open Cstr

/-! ## Labels and values -/

/-- The name of a label. -/
def nameOf (s : String) : List UInt8 := (octets s).takeWhile (¬ toksep.contains ·)

/-- A name and the white space behind it. -/
def isLabel (s : String) : Bool :=
  let name := nameOf s
  let mid := (octets s).dropWhile (¬ toksep.contains ·)
  name ≠ [] && name.all (· ≠ 0) && mid ≠ [] && mid.all toksep.contains

/-- A value that a command takes as it stands. -/
structure IsWord (s : List UInt8) : Prop where
  ne : s ≠ []
  octets : ∀ c ∈ s, c ≠ 0 ∧ toksep.contains c = false ∧ c ≠ 34 ∧ c ≠ 39

/-- A line of a dump: a label and a value, for an entry of a table, the condition for the
entry to take the value, and the number that it then holds. -/
structure Row where
  label : String
  label_ok : isLabel label = true
  entry : String
  value : List UInt8
  word : IsWord value
  ok : Prop
  num : Int

namespace Row
variable (row : Row)

def octets : List UInt8 := field row.label row.value

def name : Token where
  string := nameOf row.label
  ne := by
    have h := row.label_ok
    simp only [isLabel, Bool.and_eq_true, decide_eq_true_eq] at h
    exact h.1.1.1
  octets := by
    intro c hc
    have h := row.label_ok
    simp only [isLabel, Bool.and_eq_true, decide_eq_true_eq] at h
    have hz := List.all_eq_true.1 h.1.1.2 c hc
    have hs := List.mem_takeWhile_imp hc
    exact ⟨by simpa using hz, by simpa using hs⟩

def mid : Space where
  string := (Cstr.octets row.label).dropWhile (¬ toksep.contains ·)
  seps := by
    intro c hc
    have h := row.label_ok
    simp only [isLabel, Bool.and_eq_true] at h
    exact List.all_eq_true.1 h.2 c hc

theorem mid_ne : row.mid.string ≠ [] := by
  have h := row.label_ok
  simp only [isLabel, Bool.and_eq_true, decide_eq_true_eq] at h
  exact h.1.2

def pair : Pair where
  name := row.name
  value := .bare ⟨row.value, row.word.ne, fun c hc => ⟨(row.word.octets c hc).1, (row.word.octets c hc).2.1⟩⟩
    fun c hc => not_or.2 (row.word.octets c (List.mem_of_head? hc)).2.2

/-- The line in a text, with the white space behind it. -/
def written (gap : Space) : Written := ⟨row.pair, row.mid, gap, row.mid_ne⟩

end Row

def ident : Space := .ofString "\n\t\t" (by decide)

theorem noSpace_seps : ∀ c ∈ ([] : List UInt8), toksep.contains c = true := List.forall_mem_nil _

def noSpace : Space := ⟨[], noSpace_seps⟩

theorem row_octets (row : Row) (gap : Space) :
    ident.string ++ (row.written gap).octets = row.octets ++ gap.string := by
  have hl : row.name.string ++ row.mid.string = octets row.label := List.takeWhile_append_dropWhile
  unfold Row.octets field Written.octets
  rw [← hl]
  simp only [Row.written, Row.pair, Value.octets, List.append_assoc]
  rfl

/-- The lines one after the other, with `last` behind the last of them. -/
def writtens (last : Space) : List Row → List Written
  | [] => []
  | [row] => [row.written last]
  | row :: row' :: rows => row.written ident :: writtens last (row' :: rows)

theorem text_writtens (last : Space) {rows : List Row} (h : rows ≠ []) :
    ident.string ++ text (writtens last rows) = rows.flatMap Row.octets ++ last.string := by
  induction rows with
  | nil => exact absurd rfl h
  | cons row rows ih =>
    cases rows with
    | nil =>
      have ht : text (writtens last [row]) = (row.written last).octets ++ [] := List.flatMap_cons
      rw [ht, List.append_nil, row_octets, List.flatMap_singleton]
    | cons row' rows =>
      have ht : text (writtens last (row :: row' :: rows)) =
          (row.written ident).octets ++ text (writtens last (row' :: rows)) :=
        List.flatMap_cons
      rw [ht, ← List.append_assoc, row_octets, List.append_assoc, ih (List.cons_ne_nil _ _), ← List.append_assoc]
      exact congrArg (· ++ last.string) List.flatMap_cons.symm

theorem pairs_writtens (last : Space) (rows : List Row) :
    (writtens last rows).map Written.pair = rows.map Row.pair := by
  induction rows with
  | nil => rfl
  | cons row rows ih =>
    cases rows with
    | nil => rfl
    | cons row' rows => exact congrArg (row.pair :: ·) ih

theorem gaps_writtens {last : Space} (hl : last.string ≠ []) (rows : List Row) :
    ∀ w ∈ writtens last rows, w.gap.string ≠ [] := by
  induction rows with
  | nil => exact List.forall_mem_nil _
  | cons row rows ih =>
    cases rows with
    | nil => exact List.forall_mem_singleton.2 hl
    | cons row' rows => exact List.forall_mem_cons.2 ⟨List.cons_ne_nil _ _, ih⟩

theorem separated_writtens (last : Space) (rows : List Row) : Separated (writtens last rows) := by
  induction rows with
  | nil => trivial
  | cons row rows ih =>
    cases rows with
    | nil => exact ⟨fun h => absurd rfl h, trivial⟩
    | cons row' rows => exact ⟨fun _ => List.cons_ne_nil _ _, ih⟩

/-- The line that the rows are. -/
def rowLine (rows : List Row) : Line := ⟨ident, writtens noSpace rows, separated_writtens noSpace rows⟩

theorem rowLine_octets {rows : List Row} (h : rows ≠ []) : (rowLine rows).octets = rows.flatMap Row.octets := by
  rw [Line.octets, rowLine, text_writtens noSpace h]
  exact List.append_nil _

theorem rowLine_pairs (rows : List Row) : (rowLine rows).pairs = rows.map Row.pair := pairs_writtens noSpace rows

/-! ## What a table makes of the rows -/

/-- The labels find their entries in a table, different ones, and all the required ones. -/
def Keys.fits (keys : Keys) (labels : List (String × String)) : Bool :=
  labels ≠ [] && ¬ keys.start.singleCanStr && decide (keys.map (·.1)).Nodup &&
    labels.all (fun l => (keys.index (nameOf l.1)).bind (fun i => (keys.map (·.1))[i]?) = some l.2) &&
    decide (labels.map fun l => keys.index (nameOf l.1)).Nodup &&
    keys.all (fun k => !k.2.req || labels.any (·.2 = k.1))

structure Fits (keys : Keys) (rows : List Row) : Prop where
  fits : keys.fits (rows.map fun row => (row.label, row.entry)) = true
  tokenOnly : keys.TokenOnly

section Rows
variable {keys : Keys} {rows : List Row}

theorem Fits.parts (h : Fits keys rows) : rows ≠ [] ∧ keys.start.singleCanStr = false ∧ (keys.map (·.1)).Nodup ∧
    (∀ row ∈ rows, (keys.index row.name.string).bind (fun i => (keys.map (·.1))[i]?) = some row.entry) ∧
    (rows.map fun row => keys.index row.name.string).Nodup ∧
    ∀ k ∈ keys, k.2.req = true → ∃ row ∈ rows, row.entry = k.1 := by
  have hf := h.fits
  simp only [Keys.fits, Bool.and_eq_true, decide_eq_true_eq, Bool.not_eq_true, List.all_eq_true, List.mem_map,
    List.map_map, Bool.or_eq_true, Bool.not_eq_true', List.any_eq_true, ne_eq, List.map_eq_nil_iff] at hf
  obtain ⟨⟨⟨⟨⟨hne, hs⟩, hnd⟩, he⟩, hd⟩, hc⟩ := hf
  refine ⟨hne, hs, hnd, fun row hm => he _ ⟨row, hm, rfl⟩, hd, fun k hk hreq => ?_⟩
  rcases hc k hk with hc | ⟨_, ⟨row, hm, rfl⟩, hrow⟩
  · exact absurd hreq (by rw [hc]; decide)
  · exact ⟨row, hm, hrow⟩

/-- The entry of a row, as the loop finds it. -/
def Row.key (row : Row) (keys : Keys) : val_key_t := keys.start.get row.entry

theorem Fits.entry (h : Fits keys rows) {row : Row} (hm : row ∈ rows) :
    ∃ i, keys.index row.name.string = some i ∧ keys.start[i]? = some (row.entry, row.key keys) := by
  obtain ⟨-, -, hnd, he, -⟩ := h.parts
  obtain ⟨i, hi, hn⟩ := Option.bind_eq_some_iff.1 (he row hm)
  rw [← start_names, List.getElem?_map] at hn
  obtain ⟨⟨name, key⟩, hk, rfl⟩ := Option.map_eq_some_iff.1 hn
  refine ⟨i, hi, hk.trans ?_⟩
  unfold Row.key Keys.get
  rw [← start_names] at hnd
  rw [lookup_of_nodup hnd (List.mem_of_getElem? hk)]
  rfl

theorem Fits.names (h : Fits keys rows) {row : Row} (hm : row ∈ rows) :
    ∃ i, row.pair.Names keys.start i (row.entry, row.key keys) := by
  obtain ⟨i, hi, hk⟩ := h.entry hm
  exact ⟨i, (start_index keys _).trans hi, hk, fun hq => Bool.noConfusion hq⟩

theorem Fits.named (h : Fits keys rows) : ∀ p ∈ rows.map Row.pair, ∃ i k, p.Names keys.start i k := by
  intro p hp
  obtain ⟨row, hm, rfl⟩ := List.mem_map.1 hp
  obtain ⟨i, hn⟩ := h.names hm
  exact ⟨i, _, hn⟩

theorem Fits.pairwise (h : Fits keys rows) :
    (rows.map Row.pair).Pairwise fun p q => keys.index p.name.string ≠ keys.index q.name.string :=
  List.pairwise_map.2 (List.pairwise_map.1 h.parts.2.2.2.2.1)

/-- The values that a label has in the table are those of its row. -/
theorem Fits.unique (h : Fits keys rows) {row : Row} (hm : row ∈ rows) {i : Nat} {k : String × val_key_t}
    (hn : row.pair.Names keys.start i k) : k = (row.entry, row.key keys) := by
  obtain ⟨j, hj⟩ := h.names hm
  obtain rfl : i = j := Option.some.inj (hn.1.symm.trans hj.1)
  exact Option.some.inj (hn.2.1.symm.trans hj.2.1)

theorem Fits.all (h : Fits keys rows) : keys.Complete (rows.map Row.pair) := by
  intro i k hk hreq
  obtain ⟨row, hm, he⟩ := h.parts.2.2.2.2.2 k (List.mem_of_getElem? hk) hreq
  obtain ⟨j, hj, hrow⟩ := h.entry hm
  refine ⟨row.pair, List.mem_map_of_mem hm, hj.trans (congrArg some ?_)⟩
  -- the names of the table are different
  obtain ⟨key, hkey, -⟩ := start_get hrow
  have hn : (keys.map (·.1))[j]? = (keys.map (·.1))[i]? := by
    rw [List.getElem?_map, List.getElem?_map, hkey, hk]
    exact congrArg some he
  exact List.getElem?_inj (by rw [List.length_map]; exact (List.getElem?_eq_some_iff.1 hkey).1) h.parts.2.2.1 |>.1 hn

/-- An entry that no pair names keeps its number. -/
theorem Settled.rest_num {keys' : Keys} {buf : Buf} {ps : List Pair} (h : Settled keys.start keys' buf ps)
    (hnd : (keys.map (·.1)).Nodup) (hn : ∀ p ∈ ps, ∃ i k, p.Names keys.start i k) {name : String}
    (hname : ∀ p ∈ ps, ∀ i k, p.Names keys.start i k → k.1 ≠ name) : keys'.num name = keys.start.num name := by
  have hstart : (keys.start.map (·.1)).Nodup := (start_names keys).symm ▸ hnd
  have hnodup : (keys'.map (·.1)).Nodup := h.names.symm ▸ hstart
  unfold Keys.num Keys.get
  by_cases hin : ∃ k ∈ keys.start, k.1 = name
  · obtain ⟨⟨n, key⟩, hk, rfl⟩ := hin
    obtain ⟨i, hi⟩ := List.getElem?_of_mem hk
    have hrest := h.rest i fun p hp hidx => by
      obtain ⟨j, k, hj⟩ := hn p hp
      obtain rfl : j = i := Option.some.inj (hj.1.symm.trans hidx)
      exact hname p hp j k hj (congrArg Prod.fst (Option.some.inj (hj.2.1.symm.trans hi)))
    rw [lookup_of_nodup hnodup (List.mem_of_getElem? (hrest.trans hi)), lookup_of_nodup hstart hk]
  · have hnone (l : Keys) (hl : ∀ k ∈ l, k.1 ≠ name) : l.lookup name = none :=
      List.lookup_eq_none_iff.2 fun k hk => bne_iff_ne.2 (hl k hk).symm
    have h1 : ∀ k ∈ keys.start, k.1 ≠ name := fun k hk he => hin ⟨k, hk, he⟩
    have h2 : ∀ k ∈ keys', k.1 ≠ name := fun k hk he => by
      have hm : k.1 ∈ keys'.map (·.1) := List.mem_map_of_mem hk
      rw [h.names] at hm
      obtain ⟨k', hk', he'⟩ := List.mem_map.1 hm
      exact h1 k' hk' (he'.trans he)
    rw [hnone _ h1, hnone _ h2]

/-- Where every row's value is taken, each entry holds its number, and the others what they start with. -/
theorem parse_rows (h : Fits keys rows) (ht : ∀ row ∈ rows, ∃ s, (row.key keys).settle row.value = .ok (row.num, s))
    (pre r : Buf) :
    ∃ keys' buf, parseKeysFunc keys (pre ++ (rows.flatMap Row.octets ++ 0 :: r)) pre.length = .ok (keys', buf) ∧
      (∀ row ∈ rows, keys'.num row.entry = row.num) ∧
      ∀ name, (∀ row ∈ rows, row.entry ≠ name) → keys'.num name = keys.start.num name := by
  have hp := rowLine_pairs rows
  have hs := parseKeysFunc_pairs h.parts.2.1 h.tokenOnly (rowLine rows) (hp ▸ h.named) (hp ▸ h.pairwise) pre r
  rw [rowLine_octets h.parts.1, hp] at hs
  rcases hs with ⟨-, p, hm, i, k, hn, hbad⟩ | ⟨keys', buf, hset, hres⟩
  · obtain ⟨row, hrow, rfl⟩ := List.mem_map.1 hm
    obtain rfl := h.unique hrow hn
    obtain ⟨s, hok⟩ := ht row hrow
    cases hbad.symm.trans hok
  · rw [hres, if_neg (by rw [(hset.complete_iff h.named).2 h.all]; decide)]
    have hnodup : (keys'.map (·.1)).Nodup := by
      rw [hset.names, start_names]
      exact h.parts.2.2.1
    refine ⟨keys', buf, rfl, fun row hm => ?_, fun name hname => ?_⟩
    · obtain ⟨i, hn⟩ := h.names hm
      obtain ⟨key', s, hget, hout, -, -⟩ := hset.pair row.pair (List.mem_map_of_mem hm) i _ hn
      obtain ⟨s', hok⟩ := ht row hm
      unfold Keys.num Keys.get
      rw [lookup_of_nodup hnodup (List.mem_of_getElem? hget)]
      exact (Prod.mk.inj (Except.ok.inj (hout.symm.trans hok))).1
    · refine hset.rest_num h.parts.2.2.1 h.named fun p hp i k hn => ?_
      obtain ⟨row, hm, rfl⟩ := List.mem_map.1 hp
      rw [h.unique hm hn]
      exact hname row hm

end Rows

/-! ## Refused values -/

section Refused
variable {keys : Keys} {pl : Place} {front tx r : List UInt8}

/-- A value that is refused ends the loop, whatever stands behind it. -/
theorem keyLoop_refused (n : Nat) (ws : List Written) (hs : keys.singleCanStr = false) (hh : keys.TokenOnly)
    (hsep : ∀ w ∈ ws, w.gap.string ≠ []) (hn : ∀ w ∈ ws, ∃ i k, w.pair.Names keys i k)
    (hd : ws.Pairwise fun w w' => keys.index w.pair.name.string ≠ keys.index w'.pair.name.string)
    (h : Ahead pl front (text ws ++ tx) r) (hf : ws.length ≤ n)
    (hbad : ∃ w ∈ ws, ∃ i k, w.pair.Names keys i k ∧ k.2.settle w.pair.value.string = .error .error) :
    keyLoop n keys pl = .error .error := by
  induction ws generalizing n keys pl front with
  | nil => exact absurd hbad.choose_spec.1 List.not_mem_nil
  | cons w ws ih =>
    obtain ⟨n, rfl⟩ := Nat.exists_eq_succ_of_ne_zero (Nat.ne_of_gt (Nat.lt_of_lt_of_le (Nat.succ_pos _) hf))
    obtain ⟨hgap, hsep'⟩ := List.forall_mem_cons.1 hsep
    obtain ⟨hdw, hd'⟩ := List.pairwise_cons.1 hd
    obtain ⟨i, k, hname⟩ := hn w List.mem_cons_self
    have htext : text (w :: ws) ++ tx = w.octets ++ (text ws ++ tx) := by
      rw [text, List.flatMap_cons, List.append_assoc]
      rfl
    rw [htext] at h
    rw [keyLoop_succ]
    rcases keyRound_pair hs hh w hname (fun _ => hgap) h with
      ⟨hr, -⟩ | ⟨key', pl', front', s', hr, -, ha, hset, -, -, hcan, hhandle⟩
    · rw [hr]
      rfl
    rw [hr]
    have hk := hname.2.1
    have hother {w' : Written} (hw : w' ∈ ws) {j : Nat} {k' : String × val_key_t}
        (hnm : w'.pair.Names keys j k') : i ≠ j := by
      rintro rfl
      exact hdw w' hw (hname.1.trans hnm.1.symm)
    have hnames := names_set hk key'
    refine ih n ?_ ?_ hsep' ?_ ?_ ha (Nat.le_of_succ_le_succ hf) ?_
    · unfold Keys.singleCanStr at hs ⊢
      rw [List.length_set, any_set hk (show (k.1, key').2.can_str = k.2.can_str from hcan)]
      exact hs
    · intro k' hm f hf
      rcases List.mem_or_eq_of_mem_set hm with hold | rfl
      · exact hh k' hold f hf
      · exact hh k (List.mem_of_getElem? hk) f (hhandle ▸ hf)
    · intro w' hw
      obtain ⟨j, k', hnm⟩ := hn w' (List.mem_cons_of_mem w hw)
      exact ⟨j, k', (names_of_set hk key' (hother hw hnm)).2 hnm⟩
    · exact hd'.imp fun h => by rwa [index_congr hnames, index_congr hnames]
    · -- the head was taken, so that the refused one is behind it
      obtain ⟨w', hm, j, k', hnm, hb⟩ := hbad
      rcases List.mem_cons.1 hm with rfl | hm
      · obtain rfl : j = i := Option.some.inj (hnm.1.symm.trans hname.1)
        obtain rfl : k' = k := Option.some.inj (hnm.2.1.symm.trans hk)
        cases hb.symm.trans hset
      · exact ⟨w', hm, j, k', (names_of_set hk key' (hother hm hnm)).2 hnm, hb⟩

/-- A first token that names no key ends it at once. -/
theorem keyLoop_unknown (n : Nat) (t : Token) (gap : Space) (hgap : tx ≠ [] → gap.string ≠ [])
    (hs : keys.length ≠ 1) (hi : keys.index t.string = none) (h : Ahead pl front (t.string ++ (gap.string ++ tx)) r) :
    keyLoop (n + 1) keys pl = .error .error := by
  obtain ⟨a, b, pl', hnext, htaken⟩ := nextToken_token t gap hgap h
  have hstr := htaken.str fun h0 => (t.octets 0 h0).1 rfl
  have hsc : keys.singleCanStr = false := by simp [Keys.singleCanStr, hs]
  have hfind : keys.find pl'.buf (front ++ a).length = .error .error := by
    unfold Keys.index at hi
    rw [if_neg hs] at hi
    unfold Keys.find
    rw [if_neg hs, hstr]
    change keys.entry (keys.findIdx? fun k => caseEq (octets k.1) t.string) = _
    rw [hi]
    rfl
  have hround : keyRound keys pl = .error .error := by
    unfold keyRound
    rw [hsc, hnext]
    change (keys.find pl'.buf (front ++ a).length >>= _) = _
    rw [hfind]
    rfl
  rw [keyLoop_succ, hround]
  rfl

end Refused

section Rows
variable {keys : Keys} {rows : List Row}

/-- A refused value among the rows, with anything behind the last of them. -/
theorem parse_rows_refused (h : Fits keys rows)
    (hb : ∃ row ∈ rows, (row.key keys).settle row.value = .error .error) (tail r : Buf)
    (ht : tail = [] ∨ tail.head? = some 32) :
    parseKeysFunc keys (rows.flatMap Row.octets ++ (tail ++ 0 :: r)) 0 = .error .error := by
  have hbad : ∃ p ∈ rows.map Row.pair, ∃ i k, p.Names keys.start i k ∧ k.2.settle p.value.string = .error .error := by
    obtain ⟨row, hm, hb⟩ := hb
    obtain ⟨i, hn⟩ := h.names hm
    exact ⟨row.pair, List.mem_map_of_mem hm, i, _, hn, hb⟩
  rcases ht with rfl | ht
  · have hp := rowLine_pairs rows
    have hs := parseKeysFunc_pairs h.parts.2.1 h.tokenOnly (rowLine rows) (hp ▸ h.named) (hp ▸ h.pairwise) [] r
    simp only [List.nil_append, List.length_nil] at hs
    rw [rowLine_octets h.parts.1, hp] at hs
    rcases hs with ⟨hres, -⟩ | ⟨keys', buf, hset, -⟩
    · exact hres
    · obtain ⟨p, hm, i, k, hn, hb⟩ := hbad
      obtain ⟨key', s, -, hok, -⟩ := hset.pair p hm i k hn
      cases hb.symm.trans hok
  · obtain ⟨tx, rfl⟩ := List.head?_eq_some_iff.1 ht
    have hw := pairs_writtens blank rows
    have ha : Ahead ⟨rows.flatMap Row.octets ++ (32 :: tx ++ 0 :: r), 0, none⟩ []
        (text (writtens blank rows) ++ tx) r := by
      refine ⟨ident, ?_, rfl⟩
      have ht := text_writtens blank h.parts.1
      rw [List.nil_append, List.append_assoc, ← List.append_assoc ident.string, ht, List.append_assoc]
      rfl
    have hlen : (writtens blank rows).length ≤ (rows.flatMap Row.octets ++ (32 :: tx ++ 0 :: r)).length + 1 := by
      have h1 := length_le_text (writtens blank rows)
      have h2 := congrArg List.length (text_writtens blank h.parts.1)
      have h3 : blank.string.length = 1 := by decide
      simp only [List.length_append, List.length_cons] at h2 ⊢
      omega
    rw [parseKeysFunc_eq, keyLoop_refused _ (writtens blank rows) h.parts.2.1 (start_tokenOnly h.tokenOnly)
      (gaps_writtens blank_ne rows) ?_ ?_ ha hlen ?_]
    · rfl
    · intro w hm
      exact h.named w.pair (hw ▸ List.mem_map_of_mem hm)
    · have hd := h.pairwise
      rw [← hw] at hd
      exact (List.pairwise_map.1 hd).imp fun h => by rwa [start_index, start_index]
    · obtain ⟨p, hm, hrest⟩ := hbad
      rw [← hw] at hm
      obtain ⟨w, hw, rfl⟩ := List.mem_map.1 hm
      exact ⟨w, hw, hrest⟩

end Rows

/-! ## Numbers -/

theorem isWord_of_ge {s : List UInt8} (hne : s ≠ []) (h : ∀ c ∈ s, 48 ≤ c.toNat ∨ c = 45) : IsWord s := by
  refine ⟨hne, fun c hc => ?_⟩
  have hsep : ∀ c : UInt8, toksep.contains c = true → c.toNat ≤ 32 := by
    intro c hc
    have hm : c ∈ [32, 9, 10, 13] := by simpa [toksep, show octets " \t\n\r" = [32, 9, 10, 13] by decide] using hc
    simp only [List.mem_cons, List.not_mem_nil, or_false] at hm
    rcases hm with rfl | rfl | rfl | rfl <;> decide
  rcases h c hc with h | rfl
  · refine ⟨?_, ?_, ?_, ?_⟩
    · rintro rfl
      exact absurd h (by decide)
    · by_contra hs
      have := hsep c (by simpa using hs)
      omega
    · rintro rfl
      exact absurd h (by decide)
    · rintro rfl
      exact absurd h (by decide)
  · decide

theorem isWord_decimal (n : Nat) : IsWord (decimal n) := by
  obtain ⟨hne, hall, -⟩ := decimal_digits n
  exact isWord_of_ge hne fun c hc => .inl (le_of_isDigit (hall c hc))

theorem isWord_signed (v : Int) : IsWord (signed v) := by
  obtain ⟨hne, hall, -⟩ := decimal_digits v.natAbs
  unfold signed minus
  refine isWord_of_ge (List.append_ne_nil_of_right_ne_nil _ hne) fun c hc => ?_
  rcases List.mem_append.1 hc with hc | hc
  · split at hc
    · exact .inr (List.mem_singleton.1 hc)
    · cases hc
  · exact .inl (le_of_isDigit (hall c hc))

def hexOctet (d : Nat) : UInt8 := UInt8.ofNat (Nat.digitChar d).toNat

theorem digit_hexOctet : ∀ d < 16, digit (hexOctet d) = some d := by decide

theorem hexadecimal_eq (n : Nat) :
    hexadecimal n = if n < 16 then [hexOctet n] else hexadecimal (n / 16) ++ [hexOctet (n % 16)] := by
  unfold hexadecimal
  rw [Nat.toDigits_eq_if (by decide)]
  split
  · rfl
  · exact List.map_append

theorem hexadecimal_digits (n : Nat) :
    hexadecimal n ≠ [] ∧ (∀ c ∈ hexadecimal n, isDigit 16 c = true) ∧ natOf 16 (hexadecimal n) = n := by
  have hdigit {d : Nat} (h : d < 16) : isDigit 16 (hexOctet d) = true := by
    simp only [isDigit, digit_hexOctet d h, Option.any_some]
    exact decide_eq_true h
  induction n using Nat.strong_induction_on with
  | _ n ih =>
    rw [hexadecimal_eq]
    by_cases h : n < 16
    · rw [if_pos h]
      refine ⟨List.cons_ne_nil _ _, List.forall_mem_singleton.2 (hdigit h), ?_⟩
      change 0 * 16 + (digit (hexOctet n)).getD 0 = n
      rw [digit_hexOctet n h, Nat.zero_mul, Nat.zero_add]
      rfl
    · rw [if_neg h]
      obtain ⟨-, hall, hval⟩ := ih (n / 16) (by omega)
      have hm := Nat.mod_lt n (show 0 < 16 by decide)
      refine ⟨List.append_ne_nil_of_right_ne_nil _ (List.cons_ne_nil _ _),
        List.forall_mem_append.2 ⟨hall, List.forall_mem_singleton.2 (hdigit hm)⟩, ?_⟩
      rw [natOf_append, hval, digit_hexOctet _ hm]
      exact Nat.div_add_mod' n 16

theorem isWord_hex (n : Nat) : IsWord (hex n) := by
  obtain ⟨hne, hall, -⟩ := hexadecimal_digits n
  refine isWord_of_ge (List.append_ne_nil_of_right_ne_nil _ hne) fun c hc => ?_
  rcases List.mem_append.1 hc with hc | hc
  · have hx : c ∈ [48, 120] := hc
    simp only [List.mem_cons, List.not_mem_nil, or_false] at hx
    rcases hx with rfl | rfl <;> exact .inl (by decide)
  · exact .inl (le_of_isDigit (hall c hc))

/-- `strtoll` cuts a number to its range. -/
def cut (v : Int) : Int := max (-0x8000000000000000) (min v 0x7fffffffffffffff)

theorem strtoll_cut (v : Int) : strtoll (signed v) 0 = (cut v, []) := by
  unfold strtoll
  rw [(strtol_whole (signed_head v)).2 (literal_signed v)]
  rfl

theorem zero_notMem_word {s : List UInt8} (h : IsWord s) : 0 ∉ s := fun hm => (h.octets 0 hm).1 rfl

theorem strtoll_hex (n : Nat) : strtoll (hex n) 0 = (cut n, []) ∧ strtoll (hex n) 16 = (cut n, []) := by
  obtain ⟨hne, hall, hval⟩ := hexadecimal_digits n
  have hx : hex n = 48 :: 120 :: hexadecimal n := rfl
  constructor
  · obtain ⟨c, ds, hd⟩ := List.exists_cons_of_ne_nil hne
    have hu : Unsigned (hex n) n := by
      have h := Unsigned.hex (x := 120) (.inl rfl) (hd ▸ hall)
      rwa [← hd, hval, ← hx] at h
    unfold strtoll
    rw [(strtol_whole (v := n) fun c hc => by cases hc; rfl).2 (.unsigned hu)]
    rfl
  · have hp : Prefixed (hex n) n := by
      have h := Prefixed.hex (x := 120) (.inl rfl) hne hall
      rwa [hval] at h
    have h45 : 45 ∉ hex n := by
      rw [hx]
      intro hm
      rcases List.mem_cons.1 hm with hm | hm
      · exact absurd hm (by decide)
      rcases List.mem_cons.1 hm with hm | hm
      · exact absurd hm (by decide)
      · exact absurd (hall 45 hm) (by decide)
    unfold strtoll
    rw [(strtol_sixteen_whole (a := n) h45).2 ⟨n, @IdPiece.unsigned [] _ _ (List.forall_mem_nil _) hp, rfl⟩]
    rfl

/-- A key of a number from 0 on. -/
structure val_key_t.IsNumber (key : val_key_t) (base : Nat) (min max : Int) : Prop where
  handle : key.handle = none
  flag : key.flag = false
  can_str : key.can_str = false
  base : key.base = base
  min : key.min = min
  max : key.max = max

section Settle
variable {key : val_key_t} {base : Nat} {min max : Int}

theorem settle_cut (hk : key.IsNumber base min max) {s : List UInt8} {v : Int} (h0 : 0 ∉ s)
    (hs : strtoll s base = (cut v, []))
    (hn : 0 ≤ min) (hm : max < 0x7fffffffffffffff) : (min ≤ v ∧ v ≤ max → key.settle s = .ok (v, s)) ∧
      (¬ (min ≤ v ∧ v ≤ max) → key.settle s = .error .error) := by
  rw [settle_number hk.handle hk.flag hk.can_str (hk.base ▸ hs) h0, hk.min, hk.max]
  have hc : cut v = v ∨ v < 0 ∧ cut v < 0 ∨ max < v ∧ max < cut v := by
    unfold cut
    omega
  constructor
  · intro h
    rcases hc with hc | hc | hc
    · rw [hc, if_pos h]
    · omega
    · omega
  · intro h
    rw [if_neg (by omega)]

theorem strtoll_flag {s : List UInt8} {v : Int} (hk : key.IsFlag) (h0 : 0 ∉ s) (hs : strtoll s key.base = (v, []))
    (hv : 0 ≤ v ∧ v ≤ 255) : key.settle s = .ok (v, s) := by
  rw [settle_read hk.handle h0]
  unfold val_key_t.read
  simp only [hk.flag, hk.can_str, hs, if_true, true_and]
  rw [if_pos hv]
  rfl

/-- Any other word sets a flag where it is one of three. -/
theorem word_flag {s : List UInt8} (hk : key.IsFlag) (h0 : 0 ∉ s) (hs : (strtoll s key.base).2 ≠ []) :
    key.settle s =
      .ok (if caseEq s (octets "enable") || caseEq s (octets "on") || caseEq s (octets "true") then 1 else 0, s) := by
  rw [settle_read hk.handle h0]
  unfold val_key_t.read
  simp only [hk.flag, hk.can_str, if_true]
  rw [if_neg fun h => hs h.1]
  rfl

end Settle

end LibPmc
