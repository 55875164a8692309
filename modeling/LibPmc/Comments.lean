import LibPmc.Lookup
/-!
# Comments

`read_cfg` reads a file through `buf[512]`: of a longer line, what `fgets` has no room for
comes as the next lines, and these are read as settings and headers also where the line is
a comment. What the buffer holds behind a line is what the lines before left there.
-/
namespace LibPmc

open Cstr

/-! ## What a buffer says -/

/-- What the loop of `read_cfg` finds in the buffer, where `set_val` does not leave it. -/
def CfgLine.ofBuf (buf : List UInt8) : Option CfgLine :=
  let cur := buf.dropWhile isspace
  if cur.headD 0 = 91 then
    match ConfigFile.header cur.tail with
    | none => some .wrong
    | some name => some (.header name)
  else if cur.headD 0 ≠ 0 ∧ cur.headD 0 ≠ 35 then
    match keyLine cur with
    | none => none
    | some .unknown => some .nothing
    | some .wrong => some .wrong
    | some (.value idx v) => some (.setting idx v)
  else some .nothing

/-- The settings of the buffers up to a wrong one, and whether there is none. -/
def said (curSection : List UInt8) : List (List UInt8) → Option (Bool × List Setting)
  | [] => some (true, [])
  | buf :: bufs =>
    match CfgLine.ofBuf buf with
    | none => none
    | some .nothing => said curSection bufs
    | some (.header name) => said name bufs
    | some .wrong => some (false, [])
    | some (.setting idx v) => (said curSection bufs).map fun r => (r.1, ⟨curSection, idx, v⟩ :: r.2)

/-- The buffer is blank or a comment, or its first word is no key. -/
def Ignored (buf : List UInt8) : Prop :=
  let cur := buf.dropWhile isspace
  cur.headD 0 = 0 ∨ cur.headD 0 = 35 ∨
    cur.headD 0 ≠ 91 ∧ (∃ c ∈ cur, isspace c = true) ∧
      ∀ idx, (ranges idx).name ≠ cstr (cur.takeWhile fun c => !isspace c)

theorem keyLine_unknown {cur : List UInt8} : keyLine cur = some .unknown ↔
    (∃ c ∈ cur, isspace c = true) ∧ ∀ idx, (ranges idx).name ≠ cstr (cur.takeWhile fun c => !isspace c) := by
  have hall (idx : CfgKey) : idx ∈ CfgKey.all := by cases idx <;> decide
  have hrest : cur.dropWhile (fun c => !isspace c) = [] ↔ ¬ ∃ c ∈ cur, isspace c = true := by
    rw [List.dropWhile_eq_nil_iff]
    simp
  unfold keyLine
  constructor
  · intro h
    dsimp only at h
    split at h
    · cases h
    · rename_i hne
      refine ⟨not_not.1 (mt hrest.2 hne), fun idx he => ?_⟩
      split at h
      · rename_i hf
        exact absurd (List.find?_eq_none.1 hf idx (hall idx)) (by simp [he])
      · split at h
        · cases h
        · split at h
          · cases h
          · split at h <;> cases h
  · rintro ⟨hs, hn⟩
    dsimp only
    rw [if_neg (mt hrest.1 (not_not.2 hs)), List.find?_eq_none.2 fun idx _ => by simp [hn idx]]

theorem ofBuf_nothing {buf : List UInt8} : CfgLine.ofBuf buf = some .nothing ↔ Ignored buf := by
  unfold CfgLine.ofBuf Ignored
  dsimp only
  rw [← keyLine_unknown]
  generalize buf.dropWhile isspace = cur
  by_cases h91 : cur.headD 0 = 91
  · rw [if_pos h91]
    constructor
    · intro h
      split at h <;> cases h
    · rintro (h | h | h)
      · rw [h91] at h
        cases h
      · rw [h91] at h
        cases h
      · exact absurd h91 h.1
  · rw [if_neg h91]
    by_cases hkey : cur.headD 0 ≠ 0 ∧ cur.headD 0 ≠ 35
    · rw [if_pos hkey]
      simp only [hkey.1, hkey.2, h91, false_or, ne_eq, not_false_eq_true, true_and]
      rcases keyLine cur with _ | _ | _ | _ <;> simp
    · rw [if_neg hkey]
      simp only [true_iff]
      rw [not_and_or, not_not, not_not] at hkey
      exact hkey.imp_right .inl

/-- A line on its own, with anything behind it. -/
theorem ofBuf_line {line : List UInt8} (h : LineEnds line) (behind : List UInt8) :
    CfgLine.ofBuf (line ++ 0 :: behind) = some (CfgLine.of line) := by
  have hcur (r : List UInt8) : (line ++ 0 :: r).dropWhile isspace = line.dropWhile isspace ++ 0 :: r :=
    dropWhile_stop isspace_zero _ _
  unfold CfgLine.ofBuf CfgLine.of LineEnds at *
  simp only [hcur]
  generalize line.dropWhile isspace = cur at h
  have hhead (r : List UInt8) : (cur ++ 0 :: r).headD 0 = cur.headD 0 := by cases cur <;> rfl
  simp only [hhead]
  by_cases h91 : cur.headD 0 = 91
  · obtain ⟨s, rfl⟩ : ∃ s, cur = 91 :: s := by
      cases cur with
      | nil => cases h91
      | cons x s => exact ⟨s, congrArg (· :: s) h91⟩
    simp only [if_pos h91, List.cons_append, List.tail_cons, header_append s behind]
    rcases ConfigFile.header (s ++ [0]) with _ | name <;> rfl
  · simp only [if_neg h91]
    by_cases hkey : cur.headD 0 ≠ 0 ∧ cur.headD 0 ≠ 35
    · simp only [if_pos hkey]
      obtain ⟨k, hk⟩ := keyLine_append (((h.resolve_left hkey.1).resolve_left hkey.2).resolve_left h91)
      simp only [hk]
      cases k <;> rfl
    · simp only [if_neg hkey]

/-! ## What a file says -/

/-- What the getters show of a call of `read_cfg`, beside its result. -/
def seen (r : Option (Bool × ConfigFile)) : Option (Bool × ((idx : CfgKey) → List UInt8 → Option idx.Val)) :=
  r.map fun r => (r.1, fun idx section_ => r.2.get idx section_)

/-- The getters of settings. -/
def shows (r : Option (Bool × List Setting)) : Option (Bool × ((idx : CfgKey) → List UInt8 → Option idx.Val)) :=
  r.map fun r => (r.1, fun idx section_ => some (expected r.2 idx section_))

namespace ConfigFile

variable {alloc : Allocator} {c : ConfigFile} {l : List Setting}

/-- The loop shows what its buffers say, also where it stops at a wrong one. -/
theorem readLines_said (h : Holds c l) (curSection : List UInt8) (bufs : List (List UInt8)) :
    seen (c.readLines alloc curSection bufs) = shows ((said curSection bufs).map fun r => (r.1, l ++ r.2)) := by
  have hseen {c : ConfigFile} {l : List Setting} (h : Holds c l) (ok : Bool) :
      seen (some (ok, c)) = shows (some (ok, l)) := by
    simp only [seen, shows, Option.map_some, h.get]
  induction bufs generalizing c l curSection with
  | nil => simpa [readLines, said] using hseen h true
  | cons buf bufs ih =>
    unfold readLines said CfgLine.ofBuf
    dsimp only
    generalize buf.dropWhile isspace = cur
    by_cases h91 : cur.headD 0 = 91
    · simp only [if_pos h91]
      rcases header cur.tail with _ | name
      · simpa using hseen h false
      · exact ih h name
    · simp only [if_neg h91]
      by_cases hkey : cur.headD 0 ≠ 0 ∧ cur.headD 0 ≠ 35
      · simp only [if_pos hkey]
        obtain ⟨hs, hf⟩ := h.sec alloc curSection
        unfold ConfigSection.set_val
        rcases keyLine cur with _ | _ | _ | ⟨idx, v⟩
        · rfl
        · simp only [Function.update_eq_self]
          exact ih hs curSection
        · simp only [Function.update_eq_self]
          simpa using hseen hs false
        · rw [ih (hs.put hf idx v) curSection, Option.map_map]
          simp only [Function.comp_def, List.append_assoc, List.singleton_append]
      · simp only [if_neg hkey]
        exact ih h curSection

end ConfigFile

/-- `buf[512]`, before the first line of what the memory had. -/
abbrev CfgBuf := { mem : List UInt8 // mem.length = 512 }

/-- What `fgets` leaves in the buffer. -/
def fill (mem line : List UInt8) : List UInt8 := line ++ 0 :: mem.drop (line.length + 1)

def fills (mem : List UInt8) : List (List UInt8) → List (List UInt8)
  | [] => []
  | line :: rest => fill mem line :: fills (fill mem line) rest

/-- A text that is read into the buffer. -/
def inBuffer (mem : List UInt8) (text : List UInt8) : CfgText where
  text := some text
  stale i := (((lines 511 text).take i).foldl fill mem).drop (((lines 511 text).getD i []).length + 1)

theorem buffers_inBuffer (mem text : List UInt8) :
    ConfigFile.buffers (inBuffer mem text) text = fills mem (lines 511 text) := by
  unfold ConfigFile.buffers inBuffer
  generalize lines 511 text = ls
  induction ls generalizing mem with
  | nil => rfl
  | cons line rest ih =>
    rw [List.mapIdx_cons, fills, ← ih]
    rfl

/-- Both texts are accepted or both are not, and the getters give the same. -/
def SameReading (text text' : List UInt8) : Prop :=
  ∀ (alloc : Allocator) (c : ConfigFile) (mem mem' : CfgBuf),
    seen (c.read_cfg alloc (inBuffer mem text)) = seen (c.read_cfg alloc (inBuffer mem' text'))

theorem seen_read_cfg (alloc : Allocator) (c : ConfigFile) (mem text : List UInt8) :
    seen (c.read_cfg alloc (inBuffer mem text)) =
      if alloc.addr c.count [] = c.cfgGlobal then shows (said globalSection (fills mem (lines 511 text)))
      else none := by
  by_cases ha : alloc.addr c.count [] = c.cfgGlobal
  · obtain ⟨c', hc', hh, -⟩ := ConfigFile.reset_holds ha
    have hr : c.read_cfg alloc (inBuffer mem text) =
        c'.readLines alloc globalSection (ConfigFile.buffers (inBuffer mem text) text) := by
      unfold ConfigFile.read_cfg
      simp only [inBuffer, hc']
    rw [if_pos ha, hr, buffers_inBuffer, ConfigFile.readLines_said hh]
    simp
  · rw [if_neg ha]
    unfold ConfigFile.read_cfg
    simp [inBuffer, ConfigFile.reset_dangles ha, seen]

/-- It is a matter of what the buffers say. -/
theorem sameReading_iff {text text' : List UInt8} : SameReading text text' ↔ ∀ mem mem' : CfgBuf,
    shows (said globalSection (fills mem (lines 511 text))) =
      shows (said globalSection (fills mem' (lines 511 text'))) := by
  constructor
  · intro h mem mem'
    have hc : firstFit.addr (ConfigFile.new firstFit fun _ => default).count [] =
        (ConfigFile.new firstFit fun _ => default).cfgGlobal := rfl
    have hread := h firstFit (.new firstFit fun _ => default) mem mem'
    rwa [seen_read_cfg, seen_read_cfg, if_pos hc, if_pos hc] at hread
  · intro h alloc c mem mem'
    rw [seen_read_cfg, seen_read_cfg, h mem mem']

/-! ## The buffer from line to line -/

theorem fill_length {mem line : List UInt8} (hm : mem.length = 512) (hl : line.length ≤ 511) :
    (fill mem line).length = 512 := by
  unfold fill
  rw [List.length_append, List.length_cons, List.length_drop]
  omega

/-- A full line leaves nothing of what there was. -/
theorem fill_full {mem line : List UInt8} (hm : mem.length = 512) (hl : line.length = 511) :
    fill mem line = line ++ [0] := by
  unfold fill
  rw [hl, List.drop_eq_nil_of_le (Nat.le_of_eq hm)]

theorem fills_append (mem : List UInt8) (xs ys : List (List UInt8)) :
    fills mem (xs ++ ys) = fills mem xs ++ fills (xs.foldl fill mem) ys := by
  induction xs generalizing mem with
  | nil => rfl
  | cons x xs ih => rw [List.cons_append, fills, fills, ih, List.cons_append, List.foldl_cons]

theorem foldl_fill_length {mem : List UInt8} (hm : mem.length = 512) {ls : List (List UInt8)}
    (h : ∀ line ∈ ls, line.length ≤ 511) : (ls.foldl fill mem).length = 512 := by
  induction ls generalizing mem with
  | nil => exact hm
  | cons line rest ih =>
    rw [List.forall_mem_cons] at h
    exact ih (fill_length hm h.1) h.2

/-- A line whose key ends in it says the same in any buffer. -/
theorem said_cons_congr {line mem mem' curSection : List UInt8} {bufs bufs' : List (List UInt8)} (hl : LineEnds line)
    (h : CfgLine.of line ≠ .wrong → ∀ curSection, said curSection bufs = said curSection bufs') :
    said curSection (fill mem line :: bufs) = said curSection (fill mem' line :: bufs') := by
  simp only [said, fill, ofBuf_line hl]
  generalize CfgLine.of line = k at h
  cases k with
  | nothing => exact h (by simp) curSection
  | header name => exact h (by simp) name
  | wrong => rfl
  | setting idx v => simp only [h (by simp) curSection]

theorem said_linesEnd {ls : List (List UInt8)} (h : LinesEnd ls) (mem mem' curSection : List UInt8) :
    said curSection (fills mem ls) = said curSection (fills mem' ls) := by
  induction ls generalizing mem mem' curSection with
  | nil => rfl
  | cons line rest ih => exact said_cons_congr h.1 fun hw => ih (h.2 hw) _ _

theorem said_ignored {bufs : List (List UInt8)} (h : ∀ buf ∈ bufs, Ignored buf) (curSection : List UInt8)
    (rest : List (List UInt8)) : said curSection (bufs ++ rest) = said curSection rest := by
  induction bufs with
  | nil => rfl
  | cons buf bufs ih =>
    rw [List.forall_mem_cons] at h
    rw [List.cons_append, said, ofBuf_nothing.2 h.1]
    exact ih h.2

/-- Lines that say nothing can be left out. -/
theorem said_insert {a b c : List (List UInt8)} (h : LinesEnd (a ++ b)) (ha : ∀ line ∈ a, line.length ≤ 511)
    (hc : ∀ mem : CfgBuf, ∀ buf ∈ fills mem c, Ignored buf) (mem mem' : CfgBuf) (curSection : List UInt8) :
    said curSection (fills mem (a ++ (c ++ b))) = said curSection (fills mem' (a ++ b)) := by
  induction a generalizing mem mem' curSection with
  | nil =>
    rw [List.nil_append, List.nil_append, fills_append, said_ignored (hc mem)]
    exact said_linesEnd h _ _ _
  | cons line a ih =>
    rw [List.forall_mem_cons] at ha
    refine said_cons_congr h.1 fun hw curSection => ?_
    exact ih (h.2 hw) ha.2 ⟨_, fill_length mem.2 ha.1⟩ ⟨_, fill_length mem'.2 ha.1⟩ curSection

/-! ## The pieces of a comment -/

/-- A line, without its new line, whose first octet that is no white space is a `#`. -/
structure IsComment (body : List UInt8) : Prop where
  hash : (body.dropWhile isspace).head? = some 35
  line : 10 ∉ body

/-- The pieces behind the first are ignored, each in the buffer of the full piece before it. -/
def Inert : List (List UInt8) → Prop
  | p :: q :: rest => Ignored (fill (p ++ [0]) q) ∧ Inert (q :: rest)
  | _ => True

theorem inert_iff {p : List UInt8} {ps : List (List UInt8)} (h : ∀ x ∈ (p :: ps).dropLast, x.length = 511)
    {mem : List UInt8} (hm : mem.length = 512) :
    (∀ buf ∈ fills mem (p :: ps), Ignored buf) ↔ Ignored (fill mem p) ∧ Inert (p :: ps) := by
  induction ps generalizing p mem with
  | nil => simp [fills, Inert]
  | cons q ps ih =>
    rw [List.dropLast_cons_cons, List.forall_mem_cons] at h
    rw [fills, List.forall_mem_cons, ih h.2 (fill_length hm (Nat.le_of_eq h.1)), Inert, fill_full hm h.1]

/-- The first piece of a comment is blank, or has the `#`. -/
theorem ignored_first {s p r : List UInt8} (hs : s = p ++ r) (h : (s.dropWhile isspace).head? = some 35)
    (mem : List UInt8) :
    Ignored (fill mem p) := by
  have hcur : (fill mem p).dropWhile isspace = p.dropWhile isspace ++ 0 :: mem.drop (p.length + 1) :=
    dropWhile_stop isspace_zero _ _
  unfold Ignored
  rw [hcur]
  rw [hs, List.dropWhile_append] at h
  rcases hp : p.dropWhile isspace with _ | ⟨x, t⟩
  · exact .inl rfl
  · rw [hp] at h
    exact .inr (.inl (Option.some.inj h))

theorem comment_ignored_iff {s : List UInt8} (hash : (s.dropWhile isspace).head? = some 35) (hline : 10 ∉ s.dropLast)
    (mem : CfgBuf) : (∀ buf ∈ fills mem (lines 511 s), Ignored buf) ↔ Inert (lines 511 s) := by
  have hs : s ≠ [] := by
    rintro rfl
    cases hash
  have hp := fun x => @lines_dropLast_length 511 (by decide) s x hline
  rw [lines_cons (by decide) hs] at hp ⊢
  rw [inert_iff hp mem.2]
  exact and_iff_right (ignored_first (fgets_append 511 s).symm hash mem)

/-- A comment whose pieces say nothing can be left out of any file whose lines end. -/
theorem sameReading_of_inert {before comment after : List UInt8} (hb : EndsLine before)
    (hc : EndsLine comment ∨ after = [])
    (hl : LinesEnd (lines 511 (before ++ after))) (hash : (comment.dropWhile isspace).head? = some 35)
    (hline : 10 ∉ comment.dropLast) (hi : Inert (lines 511 comment)) :
    SameReading (before ++ (comment ++ after)) (before ++ after) := by
  have hn : 0 < 511 := by decide
  have hca : lines 511 (comment ++ after) = lines 511 comment ++ lines 511 after := by
    rcases hc with hc | rfl
    · exact lines_append hn hc after
    · rw [List.append_nil]
      exact (List.append_nil _).symm
  rw [sameReading_iff]
  intro mem mem'
  rw [lines_append hn hb] at hl ⊢
  rw [lines_append hn hb after, hca]
  congr 1
  exact said_insert hl (fun line => lines_length hn) (fun mem => (comment_ignored_iff hash hline mem).2 hi) mem mem' _

/-! ## Comments that say something -/

/-- The section that the buffers leave. -/
def lastSection (curSection : List UInt8) : List (List UInt8) → List UInt8
  | [] => curSection
  | buf :: bufs =>
    match CfgLine.ofBuf buf with
    | some (.header name) => lastSection name bufs
    | _ => lastSection curSection bufs

def HasHeader (bufs : List (List UInt8)) : Prop := ∃ buf ∈ bufs, ∃ name, CfgLine.ofBuf buf = some (.header name)

section Said

variable {curSection : List UInt8} {bufs : List (List UInt8)} {l : List Setting}

theorem said_append (h : said curSection bufs = some (true, l)) (rest : List (List UInt8)) :
    said curSection (bufs ++ rest) = (said (lastSection curSection bufs) rest).map fun r => (r.1, l ++ r.2) := by
  induction bufs generalizing curSection l with
  | nil =>
    obtain ⟨-, rfl⟩ := Prod.mk.inj (Option.some.inj h)
    simp [lastSection]
  | cons buf bufs ih =>
    unfold said at h
    rw [List.cons_append, said, lastSection]
    generalize CfgLine.ofBuf buf = k at h
    rcases k with _ | _ | name | _ | ⟨idx, v⟩
    · cases h
    · exact ih h
    · exact ih h
    · cases h
    · obtain ⟨⟨ok, l'⟩, hr, he⟩ := Option.map_eq_some_iff.1 h
      obtain ⟨rfl, rfl⟩ := Prod.mk.inj he
      simp only [ih hr, Option.map_map, Function.comp_def, List.cons_append]

/-- Whether the buffers are right does not depend on the section. -/
theorem said_other (h : said curSection bufs = some (true, l)) (other : List UInt8) :
    ∃ l', said other bufs = some (true, l') := by
  induction bufs generalizing curSection other l with
  | nil => exact ⟨[], rfl⟩
  | cons buf bufs ih =>
    unfold said at h ⊢
    generalize CfgLine.ofBuf buf = k at h
    rcases k with _ | _ | name | _ | ⟨idx, v⟩
    · cases h
    · exact ih h other
    · exact ⟨l, h⟩
    · cases h
    · obtain ⟨⟨ok, l₁⟩, hr, he⟩ := Option.map_eq_some_iff.1 h
      obtain ⟨rfl, -⟩ := Prod.mk.inj he
      obtain ⟨l', h'⟩ := ih hr other
      exact ⟨⟨other, idx, v⟩ :: l', by simp only [h', Option.map_some]⟩

theorem lastSection_header (h : HasHeader bufs) (other : List UInt8) :
    lastSection curSection bufs = lastSection other bufs := by
  induction bufs generalizing curSection other with
  | nil =>
    obtain ⟨buf, hm, -⟩ := h
    cases hm
  | cons buf bufs ih =>
    obtain ⟨b, hm, name, hn⟩ := h
    have hrest (hb : b ∈ bufs) : HasHeader bufs := ⟨b, hb, name, hn⟩
    rcases List.mem_cons.1 hm with rfl | hb
    · simp only [lastSection, hn]
    · unfold lastSection
      split
      · rfl
      · exact ih (hrest hb) other

/-- Without a header, the settings are in the section at the start. -/
theorem said_sec (hn : ¬ HasHeader bufs) (h : said curSection bufs = some (true, l)) : ∀ s ∈ l, s.sec = curSection := by
  induction bufs generalizing l with
  | nil =>
    obtain ⟨-, rfl⟩ := Prod.mk.inj (Option.some.inj h)
    simp
  | cons buf bufs ih =>
    have hrest : ¬ HasHeader bufs := fun ⟨b, hb, hh⟩ => hn ⟨b, List.mem_cons_of_mem _ hb, hh⟩
    have hbuf (name : List UInt8) : CfgLine.ofBuf buf ≠ some (.header name) :=
      fun he => hn ⟨buf, List.mem_cons_self, name, he⟩
    unfold said at h
    generalize CfgLine.ofBuf buf = k at h hbuf
    rcases k with _ | _ | name | _ | ⟨idx, v⟩
    · cases h
    · exact ih hrest h
    · exact absurd rfl (hbuf name)
    · cases h
    · obtain ⟨⟨ok, l'⟩, hr, he⟩ := Option.map_eq_some_iff.1 h
      obtain ⟨rfl, rfl⟩ := Prod.mk.inj he
      exact List.forall_mem_cons.2 ⟨rfl, ih hrest hr⟩

/-- Without a header and a setting, all say nothing. -/
theorem said_nil (hn : ¬ HasHeader bufs) (h : said curSection bufs = some (true, [])) : ∀ buf ∈ bufs, Ignored buf := by
  induction bufs with
  | nil => simp
  | cons buf bufs ih =>
    have hrest : ¬ HasHeader bufs := fun ⟨b, hb, hh⟩ => hn ⟨b, List.mem_cons_of_mem _ hb, hh⟩
    have hbuf (name : List UInt8) : CfgLine.ofBuf buf ≠ some (.header name) :=
      fun he => hn ⟨buf, List.mem_cons_self, name, he⟩
    rw [List.forall_mem_cons, ← ofBuf_nothing]
    unfold said at h
    generalize CfgLine.ofBuf buf = k at h hbuf
    rcases k with _ | _ | name | _ | ⟨idx, v⟩
    · cases h
    · exact ⟨rfl, ih hrest h⟩
    · exact absurd rfl (hbuf name)
    · cases h
    · obtain ⟨r, -, he⟩ := Option.map_eq_some_iff.1 h
      cases (Prod.mk.inj he).2

end Said

theorem shows_eq {r : Option (Bool × List Setting)} {ok : Bool} {l : List Setting}
    (h : shows r = shows (some (ok, l))) :
    ∃ l', r = some (ok, l') ∧ ∀ idx section_, expected l' idx section_ = expected l idx section_ := by
  obtain ⟨⟨ok', l'⟩, rfl, he⟩ := Option.map_eq_some_iff.1 h
  obtain ⟨rfl, hg⟩ := Prod.mk.inj he
  exact ⟨l', rfl, fun idx section_ => Option.some.inj (congrFun (congrFun hg idx) section_)⟩

theorem lastIn_of_mem {l : List Setting} {s : Setting} (h : s ∈ l) : ∃ v, lastIn s.sec s.key l = some v := by
  induction l with
  | nil => cases h
  | cons t l ih =>
    rw [lastIn]
    rcases List.mem_cons.1 h with rfl | h
    · rcases lastIn s.sec s.key l with _ | v
      · exact ⟨s.value, by simp [Setting.valueOf]⟩
      · exact ⟨v, rfl⟩
    · obtain ⟨v, hv⟩ := ih h
      exact ⟨v, by rw [hv]; rfl⟩

section Expected

variable (idx : CfgKey) (v : idx.Val) (l : List Setting)

theorem valueOf_self (name : List UInt8) : (⟨name, idx, v⟩ : Setting).valueOf name idx = some v := by
  simp [Setting.valueOf]

theorem valueOf_other {name other : List UInt8} (h : name ≠ other) :
    (⟨name, idx, v⟩ : Setting).valueOf other idx = none := by
  simp [Setting.valueOf, h]

theorem expected_global_cons :
    expected (⟨globalSection, idx, v⟩ :: l) idx globalSection = (lastIn globalSection idx l).getD v := by
  rw [expected, if_neg (by decide), Option.or_self, lastIn, valueOf_self]
  cases lastIn globalSection idx l <;> rfl

theorem expected_global_append : expected (l ++ [⟨globalSection, idx, v⟩]) idx globalSection = v := by
  rw [expected, if_neg (by decide), Option.or_self, lastIn_append, lastIn, valueOf_self]
  rfl

theorem expected_append_other {name other : List UInt8} (h : name ≠ other) (hg : name ≠ globalSection) :
    expected (l ++ [⟨name, idx, v⟩]) idx other = expected l idx other := by
  simp only [expected, lastIn_append, lastIn, valueOf_other idx v h, valueOf_other idx v hg, Option.or_none,
    Option.none_or]

theorem expected_single {name : List UInt8} (h : name ≠ []) : expected [⟨name, idx, v⟩] idx name = v := by
  simp only [expected, if_neg h, lastIn, valueOf_self, Option.none_or, Option.some_or, Option.getD_some]

theorem expected_single_global {name : List UInt8} (hg : name ≠ globalSection) :
    expected [⟨name, idx, v⟩] idx globalSection = idx.dflt := by
  rw [expected, if_neg (by decide), Option.or_self, lastIn, lastIn, valueOf_other idx v hg]
  rfl

end Expected

/-- A line that is a setting, and a line of its own. -/
structure IsSetting (line : List UInt8) (idx : CfgKey) (v : idx.Val) : Prop where
  ends : LineEnds line
  setting : CfgLine.of line = .setting idx v
  one : lines 511 line = [line]
  whole : EndsLine line

/-- Every key can be set to two values. -/
theorem two_settings (idx : CfgKey) :
    ∃ line line' v v', v ≠ v' ∧ IsSetting line idx v ∧ IsSetting line' idx v' := by
  have hset {line : List UInt8} {idx : CfgKey} {v : idx.Val} (hs : 32 ∈ line.dropWhile isspace)
      (ho : CfgLine.of line = .setting idx v) (h1 : lines 511 line = [line]) (hw : line.getLast? = some 10) :
      IsSetting line idx v := ⟨.inr (.inr (.inr ⟨32, hs, rfl⟩)), ho, h1, .inr hw⟩
  cases idx with
  | transportSpecific =>
    exact ⟨octets "transportSpecific 1\n", octets "transportSpecific 2\n", (1 : UInt8), (2 : UInt8), by decide,
      hset (by decide) rfl rfl rfl, hset (by decide) rfl rfl rfl⟩
  | domainNumber =>
    exact ⟨octets "domainNumber 1\n", octets "domainNumber 2\n", (1 : UInt8), (2 : UInt8), by decide,
      hset (by decide) rfl rfl rfl, hset (by decide) rfl rfl rfl⟩
  | udp6_scope =>
    exact ⟨octets "udp6_scope 1\n", octets "udp6_scope 2\n", (1 : UInt8), (2 : UInt8), by decide,
      hset (by decide) rfl rfl rfl, hset (by decide) rfl rfl rfl⟩
  | udp_ttl =>
    exact ⟨octets "udp_ttl 1\n", octets "udp_ttl 2\n", (1 : UInt8), (2 : UInt8), by decide,
      hset (by decide) rfl rfl rfl, hset (by decide) rfl rfl rfl⟩
  | socket_priority =>
    exact ⟨octets "socket_priority 1\n", octets "socket_priority 2\n", (1 : UInt8), (2 : UInt8), by decide,
      hset (by decide) rfl rfl rfl, hset (by decide) rfl rfl rfl⟩
  | network_transport =>
    exact ⟨octets "network_transport L2\n", octets "network_transport UDPv6\n", (50 : UInt8), (54 : UInt8), by decide,
      hset (by decide) rfl rfl rfl, hset (by decide) rfl rfl rfl⟩
  | uds_address =>
    exact ⟨octets "uds_address /a\n", octets "uds_address /b\n", octets "/a", octets "/b", by decide,
      hset (by decide) rfl rfl rfl, hset (by decide) rfl rfl rfl⟩
  | ptp_dst_mac =>
    exact ⟨octets "ptp_dst_mac 1:2:3:4:5:6\n", octets "ptp_dst_mac 1:2:3:4:5:7\n",
      [1, 2, 3, 4, 5, 6], [1, 2, 3, 4, 5, 7],
      by decide, hset (by decide) rfl rfl rfl, hset (by decide) rfl rfl rfl⟩
  | p2p_dst_mac =>
    exact ⟨octets "p2p_dst_mac 1:2:3:4:5:6\n", octets "p2p_dst_mac 1:2:3:4:5:7\n",
      [1, 2, 3, 4, 5, 6], [1, 2, 3, 4, 5, 7],
      by decide, hset (by decide) rfl rfl rfl, hset (by decide) rfl rfl rfl⟩

/-- The header of a section with a name of one letter. -/
def headerLine (x : UInt8) : List UInt8 := [91, x, 93, 10]

theorem headerLine_of {x : UInt8} (hx : x = 97 ∨ x = 98) :
    LineEnds (headerLine x) ∧ CfgLine.of (headerLine x) = .header [x] ∧ lines 511 (headerLine x) = [headerLine x] ∧
      EndsLine (headerLine x) := by
  rcases hx with rfl | rfl <;> exact ⟨.inr (.inr (.inl rfl)), rfl, rfl, .inr rfl⟩

theorem said_setting {line : List UInt8} {idx : CfgKey} {v : idx.Val} (h : IsSetting line idx v)
    (mem curSection : List UInt8)
    (bufs : List (List UInt8)) : said curSection (fill mem line :: bufs) =
      (said curSection bufs).map fun r => (r.1, ⟨curSection, idx, v⟩ :: r.2) := by
  simp only [said, fill, ofBuf_line h.ends, h.setting]

theorem said_headerLine {x : UInt8} (hx : x = 97 ∨ x = 98) (mem curSection : List UInt8) (bufs : List (List UInt8)) :
    said curSection (fill mem (headerLine x) :: bufs) = said [x] bufs := by
  simp only [said, fill, ofBuf_line (headerLine_of hx).1, (headerLine_of hx).2.1]

theorem fills_pieces {p : List UInt8} {ps : List (List UInt8)} (h : ∀ x ∈ (p :: ps).dropLast, x.length = 511)
    {mem : List UInt8} (hm : mem.length = 512) : fills mem (p :: ps) = fill mem p :: fills (p ++ [0]) ps := by
  cases ps with
  | nil => rfl
  | cons q ps =>
    rw [List.dropLast_cons_cons, List.forall_mem_cons] at h
    rw [fills, fill_full hm h.1]

section Speaks

variable {r : List (List UInt8)} {l : List Setting}

/-- Buffers with a header are seen in the section of what comes behind them. -/
theorem no_header (hr : said globalSection r = some (true, l))
    (h : ∀ x : UInt8, x = 97 ∨ x = 98 → ∀ line v, IsSetting line .domainNumber v → ∃ mem,
      shows (said [x] (r ++ [fill mem line])) = shows (some (true, [⟨[x], .domainNumber, v⟩]))) : ¬ HasHeader r := by
  intro hh
  obtain ⟨x, hx, hN⟩ : ∃ x : UInt8, (x = 97 ∨ x = 98) ∧ lastSection globalSection r ≠ [x] := by
    by_cases h97 : lastSection globalSection r = [97]
    · exact ⟨98, .inr rfl, by rw [h97]; decide⟩
    · exact ⟨97, .inl rfl, h97⟩
  have hxg : [x] ≠ globalSection := by rcases hx with rfl | rfl <;> decide
  obtain ⟨lx, hlx⟩ := said_other hr [x]
  have hsees {line : List UInt8} {v : CfgKey.domainNumber.Val} (hs : IsSetting line .domainNumber v)
    (section_ : List UInt8) :
      expected (lx ++ [⟨lastSection globalSection r, .domainNumber, v⟩]) .domainNumber section_ =
        expected [⟨[x], .domainNumber, v⟩] .domainNumber section_ := by
    obtain ⟨mem, hmem⟩ := h x hx line v hs
    rw [said_append hlx, lastSection_header hh globalSection, said_setting hs] at hmem
    obtain ⟨l', hl', he⟩ := shows_eq hmem
    obtain ⟨-, rfl⟩ := Prod.mk.inj (Option.some.inj hl')
    exact he .domainNumber section_
  obtain ⟨line, line', v, v', hv, hs, hs'⟩ := two_settings .domainNumber
  by_cases hg : lastSection globalSection r = globalSection
  · -- the setting behind is global
    have he := hsees hs globalSection
    have he' := hsees hs' globalSection
    rw [hg, expected_global_append, expected_single_global _ _ hxg] at he he'
    exact hv (he.trans he'.symm)
  · have he := hsees hs [x]
    have he' := hsees hs' [x]
    rw [expected_append_other _ _ _ hN hg, expected_single _ _ (by simp)] at he he'
    exact hv (he.symm.trans he')

/-- Settings are seen behind another value of their key. -/
theorem no_setting (hn : ¬ HasHeader r) (hr : said globalSection r = some (true, l))
    (h : ∀ line idx v, IsSetting line idx v →
      shows ((said globalSection r).map fun a => (a.1, ⟨globalSection, idx, v⟩ :: a.2)) =
        shows (some (true, [⟨globalSection, idx, v⟩]))) : l = [] := by
  refine List.eq_nil_iff_forall_not_mem.2 fun s hs => ?_
  obtain ⟨w, hw⟩ := lastIn_of_mem hs
  rw [said_sec hn hr s hs] at hw
  have hsees {line : List UInt8} {v : s.key.Val} (hset : IsSetting line s.key v) : w = v := by
    have hshow := h line s.key v hset
    rw [hr] at hshow
    obtain ⟨l', hl', he⟩ := shows_eq hshow
    obtain ⟨-, rfl⟩ := Prod.mk.inj (Option.some.inj hl')
    have he := he s.key globalSection
    rwa [expected_global_cons, expected_global_cons, hw] at he
  obtain ⟨line, line', v, v', hv, hset, hset'⟩ := two_settings s.key
  exact hv ((hsees hset).symm.trans (hsees hset'))

end Speaks

def zeroBuf : CfgBuf := ⟨List.replicate 512 0, List.length_replicate⟩

/-- A comment that can be left out of every file says nothing. -/
theorem inert_of_sameReading {comment : List UInt8} (hash : (comment.dropWhile isspace).head? = some 35)
    (hline : 10 ∉ comment.dropLast) (hc : EndsLine comment)
    (h : ∀ before after, EndsLine before → LinesEnd (lines 511 (before ++ after)) →
      SameReading (before ++ (comment ++ after)) (before ++ after)) : Inert (lines 511 comment) := by
  have hn : 0 < 511 := by decide
  have hne : comment ≠ [] := by
    rintro rfl
    cases hash
  have hp := fun x => @lines_dropLast_length 511 hn comment x hline
  have hlen := fun x => @lines_length 511 hn comment x
  have hread (before after : List UInt8) (hb : EndsLine before) (hl : LinesEnd (lines 511 (before ++ after))) :
      ∃ mem' mem'' : List UInt8, mem'.length = 512 ∧
        shows (said globalSection (fills zeroBuf (lines 511 before) ++
          (fills mem' (lines 511 comment) ++ fills mem'' (lines 511 after)))) =
          shows (said globalSection (fills zeroBuf (lines 511 before ++ lines 511 after))) := by
    have hs := sameReading_iff.1 (h before after hb hl) zeroBuf zeroBuf
    rw [lines_append hn hb, lines_append hn hb, lines_append hn hc, fills_append,
      fills_append _ (lines 511 comment)] at hs
    exact ⟨_, _, foldl_fill_length zeroBuf.2 fun line => lines_length hn, hs⟩
  obtain ⟨p, ps, hpieces⟩ : ∃ p ps, lines 511 comment = p :: ps := ⟨_, _, lines_cons hn hne⟩
  have hfirst (mem : List UInt8) : Ignored (fill mem p) := by
    have he := List.cons.inj (hpieces.symm.trans (lines_cons hn hne))
    exact ignored_first (he.1 ▸ (fgets_append 511 comment).symm) hash mem
  rw [hpieces] at hp hread ⊢
  -- the first piece says nothing, and what follows it is the same in every file
  have hsaid {mem : List UInt8} (hm : mem.length = 512) (curSection : List UInt8) (rest : List (List UInt8)) :
      said curSection (fills mem (p :: ps) ++ rest) = said curSection (fills (p ++ [0]) ps ++ rest) := by
    rw [fills_pieces hp hm, List.cons_append, said, ofBuf_nothing.2 (hfirst mem)]
  suffices hr : ∀ buf ∈ fills (p ++ [0]) ps, Ignored buf by
    have hall : ∀ buf ∈ fills zeroBuf.1 (p :: ps), Ignored buf := by
      rw [fills_pieces hp zeroBuf.2]
      exact List.forall_mem_cons.2 ⟨hfirst _, hr⟩
    exact ((inert_iff hp zeroBuf.2).1 hall).2
  have hnil : lines 511 [] = [] := rfl
  obtain ⟨l, hl⟩ : ∃ l, said globalSection (fills (p ++ [0]) ps) = some (true, l) := by
    obtain ⟨mem', mem'', hm, hs⟩ := hread [] [] (.inl rfl) trivial
    rw [hnil, List.nil_append, fills, List.nil_append, hsaid hm, fills, List.append_nil] at hs
    obtain ⟨l, hl, -⟩ := shows_eq hs
    exact ⟨l, hl⟩
  have hheader := no_header hl fun x hx line v hset => by
    obtain ⟨hx1, hx2, hx3, hx4⟩ := headerLine_of hx
    obtain ⟨mem', mem'', hm, hs⟩ := hread (headerLine x) line hx4 (by
      rw [lines_append hn hx4, hx3, hset.one]
      refine ⟨hx1, fun _ => ?_⟩
      exact ⟨hset.ends, fun _ => trivial⟩)
    rw [hx3, hset.one] at hs
    simp only [fills, List.cons_append, List.nil_append, said_headerLine hx, said_setting hset] at hs
    refine ⟨mem'', ?_⟩
    rw [← hsaid hm]
    exact hs
  have hsetting := no_setting hheader hl fun line idx v hset => by
    obtain ⟨mem', mem'', hm, hs⟩ := hread line [] hset.whole (by
      rw [List.append_nil, hset.one]
      exact ⟨hset.ends, fun _ => trivial⟩)
    rw [hset.one, hnil, List.append_nil] at hs
    simp only [fills, List.cons_append, List.nil_append, said_setting hset] at hs
    rw [← List.append_nil (fills (p ++ [0]) ps), ← hsaid hm]
    exact hs
  rw [hsetting] at hl
  exact said_nil hheader hl

theorem IsComment.hash_append {body : List UInt8} (h : IsComment body) (r : List UInt8) :
    ((body ++ r).dropWhile isspace).head? = some 35 := by
  rw [List.dropWhile_append]
  rcases hb : body.dropWhile isspace with _ | ⟨x, t⟩
  · have hh := h.hash
    rw [hb] at hh
    cases hh
  · have hh := h.hash
    rw [hb] at hh
    exact hh

/-- A comment line can be left out of every file whose lines end if and only if each of
its pieces behind the first is ignored. At the end of a file it may lack its new line. -/
theorem comment_left_out_iff {body : List UInt8} (hc : IsComment body) :
    ((∀ before after, EndsLine before → LinesEnd (lines 511 (before ++ after)) →
        SameReading (before ++ (body ++ [10] ++ after)) (before ++ after)) ↔ Inert (lines 511 (body ++ [10]))) ∧
      (Inert (lines 511 body) → ∀ before, EndsLine before → LinesEnd (lines 511 before) →
        SameReading (before ++ body) before) := by
  have hash := hc.hash_append [10]
  have hline : 10 ∉ (body ++ [10]).dropLast := by
    rw [List.dropLast_concat]
    exact hc.line
  have hends : EndsLine (body ++ [10]) := .inr List.getLast?_concat
  refine ⟨⟨fun h => ?_, fun hi before after hb hl => ?_⟩, fun hi before hb hl => ?_⟩
  · exact inert_of_sameReading hash hline hends h
  · exact sameReading_of_inert hb (.inl hends) hl hash hline hi
  · rw [← List.append_nil before] at hl
    have hline' : 10 ∉ body.dropLast := fun hm => hc.line (List.dropLast_subset body hm)
    have hs := sameReading_of_inert hb (.inr rfl) hl hc.hash hline' hi
    rwa [List.append_nil, List.append_nil] at hs

/-- A comment that fits into the buffer. -/
theorem comment_left_out_short :
    SameReading (octets "domainNumber 5\n" ++ (octets "# domainNumber 9" ++ [10] ++ octets "udp_ttl 2\n"))
      (octets "domainNumber 5\n" ++ octets "udp_ttl 2\n") := by
  have hc : IsComment (octets "# domainNumber 9") := ⟨rfl, by decide⟩
  have hl : LinesEnd (lines 511 (octets "domainNumber 5\n" ++ octets "udp_ttl 2\n")) :=
    ⟨.inr (.inr (.inr ⟨32, by decide, rfl⟩)), fun _ => ⟨.inr (.inr (.inr ⟨32, by decide, rfl⟩)), fun _ => trivial⟩⟩
  exact (comment_left_out_iff hc).1.2 trivial _ _ (.inr rfl) hl

/-- A comment whose second piece is a setting. -/
def longComment : List UInt8 := 35 :: List.replicate 510 120 ++ octets "domainNumber 5"

theorem long_comment_pieces :
    lines 511 (longComment ++ [10]) = [35 :: List.replicate 510 120, octets "domainNumber 5\n"] := by
  have hn : 0 < 511 := by decide
  have hsplit : longComment ++ [10] = (35 :: List.replicate 510 120) ++ octets "domainNumber 5\n" := by
    rw [longComment, List.append_assoc]
    rfl
  have hline : 10 ∉ (longComment ++ [10]).dropLast := by
    rw [List.dropLast_concat, longComment, List.mem_append, List.mem_cons, List.mem_replicate]
    decide
  have hlen : (35 :: List.replicate 510 120 : List UInt8).length = 511 := by
    rw [List.length_cons, List.length_replicate]
  have hne : longComment ++ [10] ≠ [] := List.append_ne_nil_of_right_ne_nil _ (List.cons_ne_nil _ _)
  rw [lines_cons hn hne, fgets_eq_take 511 hline, hsplit, List.take_left' hlen, List.drop_left' hlen]
  rfl

theorem long_comment_configures :
    IsComment longComment ∧ ¬ SameReading ([] ++ (longComment ++ [10] ++ [])) ([] ++ []) := by
  refine ⟨⟨rfl, ?_⟩, fun h => ?_⟩
  · rw [longComment, List.mem_append, List.mem_cons, List.mem_replicate]
    decide
  · have hs := sameReading_iff.1 h zeroBuf zeroBuf
    rw [List.nil_append, List.append_nil, List.append_nil, long_comment_pieces] at hs
    have hset : IsSetting (octets "domainNumber 5\n") .domainNumber (5 : UInt8) :=
      ⟨.inr (.inr (.inr ⟨32, by decide, rfl⟩)), rfl, rfl, .inr rfl⟩
    have hfirst : Ignored (fill zeroBuf.1 (35 :: List.replicate 510 120)) := .inr (.inl rfl)
    rw [fills, fills, said, ofBuf_nothing.2 hfirst] at hs
    dsimp only at hs
    rw [said_setting hset] at hs
    obtain ⟨l, hl, he⟩ := shows_eq (hs.trans (show _ = shows (some (true, [])) from rfl))
    obtain ⟨-, rfl⟩ := Prod.mk.inj (Option.some.inj hl)
    have hd := he .domainNumber globalSection
    rw [expected_single _ _ (by decide)] at hd
    exact absurd hd (by decide)

/-- A key that ends with the file takes its value from what the buffer has behind it. -/
theorem said_key_alone (c : UInt8) (hc : c = 53 ∨ c = 55) (behind : List UInt8) :
    shows (said globalSection [octets "domainNumber" ++ 0 :: 32 :: c :: 10 :: 0 :: behind]) =
      shows (some (true, [⟨globalSection, .domainNumber, c - 48⟩])) := by
  have hl : LineEnds (octets "domainNumber" ++ [0, 32, c, 10]) :=
    .inr (.inr (.inr ⟨32, by rcases hc with rfl | rfl <;> decide, rfl⟩))
  have ho : CfgLine.of (octets "domainNumber" ++ [0, 32, c, 10]) = .setting .domainNumber (c - 48) := by
    rcases hc with rfl | rfl <;> rfl
  have hbuf : octets "domainNumber" ++ 0 :: 32 :: c :: 10 :: 0 :: behind =
      octets "domainNumber" ++ [0, 32, c, 10] ++ 0 :: behind := by simp
  rw [hbuf, said, ofBuf_line hl, ho]
  rfl

/-- There it is what a comment before has left. -/
theorem comment_behind_key :
    ¬ SameReading (octets "# udp_ttl xxx 5\n" ++ octets "domainNumber") (octets "domainNumber") := by
  intro h
  have hlen : (octets "              7\n" ++ List.replicate 496 0).length = 512 := by
    rw [List.length_append, List.length_replicate]
    rfl
  have hs := sameReading_iff.1 h zeroBuf ⟨_, hlen⟩
  have hfirst : Ignored (fill zeroBuf.1 (octets "# udp_ttl xxx 5\n")) := .inr (.inl rfl)
  have hlines : lines 511 (octets "# udp_ttl xxx 5\n" ++ octets "domainNumber") =
      [octets "# udp_ttl xxx 5\n", octets "domainNumber"] := rfl
  have hline : lines 511 (octets "domainNumber") = [octets "domainNumber"] := rfl
  have hfive (mem : List UInt8) : fill (fill mem (octets "# udp_ttl xxx 5\n")) (octets "domainNumber") =
      octets "domainNumber" ++ 0 :: 32 :: 53 :: 10 :: 0 :: mem.drop 17 := rfl
  have hseven (mem : List UInt8) : fill (octets "              7\n" ++ 0 :: mem) (octets "domainNumber") =
      octets "domainNumber" ++ 0 :: 32 :: 55 :: 10 :: 0 :: mem := rfl
  rw [hlines, hline, fills, fills, fills, fills, fills, hfive, said, ofBuf_nothing.2 hfirst] at hs
  have hs' := (said_key_alone 53 (.inl rfl) _).symm.trans
    (hs.trans (said_key_alone 55 (.inr rfl) (List.replicate 495 0)))
  obtain ⟨l, hl, he⟩ := shows_eq hs'
  obtain ⟨-, rfl⟩ := Prod.mk.inj (Option.some.inj hl)
  have hd := he .domainNumber globalSection
  rw [expected_single _ _ (by decide), expected_single _ _ (by decide)] at hd
  exact absurd hd (by decide)

end LibPmc
