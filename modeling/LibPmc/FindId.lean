import LibPmc.JsonProc
import LibPmc.Keys
import Mathlib.Data.List.Infix
import Mathlib.Data.List.Nodup
/-!
# The management id of a command

A command may shorten the name of an id. One pass over the table looks for the name itself
and for names that start as the text does.
-/
namespace LibPmc

open Cstr

/-- `strncmp` finds no difference in the first `n` characters. -/
def sameStart (s t : List UInt8) (n : Nat) : Bool := s.take n = t.take n

/-- The loop over the ids, with the matches so far and the id of the last one. -/
def findIdLoop (str : List UInt8) : List MngVals → Nat → MngVals → Bool × MngVals
  | [], find, id => (find = 1, id)
  | i :: is, find, id =>
    let sid := octets (mng2str_c i)
    if sid = str then (true, i)
    else if find < 2 ∧ sameStart sid str str.length then findIdLoop str is (find + 1) i
    else findIdLoop str is find id

/-- Whether an id was found, `id` as it is left, and the text in upper case. -/
def findId (id : MngVals) (str : List UInt8) : Bool × MngVals × List UInt8 :=
  if str.length = 0 then (false, id, str)
  else
    let str := str.map toupper
    if contains str (octets "NULL") then (true, .NULL_PTP_MANAGEMENT, str)
    else
      let (found, id) := findIdLoop str MngVals.all 0 id
      (found, id, str)

/-! ## Names -/

/-- The name of an id, as the table has it. -/
abbrev MngVals.name (id : MngVals) : List UInt8 := octets (mng2str_c id)

theorem sameStart_iff {s t : List UInt8} : sameStart s t t.length = true ↔ t <+: s := by
  rw [List.prefix_iff_eq_take]
  unfold sameStart
  rw [List.take_length, decide_eq_true_iff]
  exact eq_comm

theorem contains_iff {s t : List UInt8} : contains s t = true ↔ t <:+: s := by
  rw [List.infix_iff_prefix_suffix]
  simp [contains, and_comm]

theorem all_nodup : MngVals.all.Nodup := by decide

theorem names_nodup : (MngVals.all.map MngVals.name).Nodup := by decide +kernel

theorem name_inj {i j : MngVals} (h : i.name = j.name) : i = j :=
  List.inj_on_of_nodup_map names_nodup i.mem_all j.mem_all h

theorem null_infix_iff (id : MngVals) : octets "NULL" <:+: id.name ↔ id = .NULL_PTP_MANAGEMENT := by
  have hall : ∀ i ∈ MngVals.all, contains i.name (octets "NULL") = true ↔ i = .NULL_PTP_MANAGEMENT := by decide +kernel
  rw [← contains_iff]
  exact hall id id.mem_all

/-! ## The loop -/

section Loop
variable {str : List UInt8}

/-- A name that is the text ends the loop, whatever came before it. -/
theorem findIdLoop_whole {i : MngVals} (hi : i.name = str) :
    ∀ {l : List MngVals}, i ∈ l → ∀ (find : Nat) (id : MngVals), findIdLoop str l find id = (true, i)
  | j :: l, hl, find, id => by
    unfold findIdLoop
    by_cases hj : j.name = str
    · obtain rfl := name_inj (hi.trans hj.symm)
      simp only [if_pos hj]
    · have hl : i ∈ l := (List.mem_cons.1 hl).resolve_left fun h => hj (h ▸ hi)
      simp only [if_neg hj]
      split
      · exact findIdLoop_whole hi hl _ _
      · exact findIdLoop_whole hi hl _ _

/-- Without such a name each turn counts a match, as long as there are fewer than 2. -/
theorem findIdLoop_cons {i : MngVals} (hi : i.name ≠ str) (l : List MngVals) (find : Nat) (id : MngVals) :
    findIdLoop str (i :: l) find id =
      if find < 2 ∧ str <+: i.name then findIdLoop str l (find + 1) i else findIdLoop str l find id := by
  rw [findIdLoop]
  simp only [if_neg hi, sameStart_iff]

/-- Two matches are two for good. -/
theorem findIdLoop_two : ∀ {l : List MngVals}, (∀ i ∈ l, i.name ≠ str) → ∀ id : MngVals,
    (findIdLoop str l 2 id).1 = false
  | [], _, _ => rfl
  | i :: l, h, id => by
    rw [findIdLoop_cons (h i List.mem_cons_self), if_neg fun hn => absurd hn.1 (by decide)]
    exact findIdLoop_two (fun j hj => h j (List.mem_cons_of_mem _ hj)) id

/-- One match stays the only one if no name follows that starts with the text. -/
theorem findIdLoop_one : ∀ {l : List MngVals}, (∀ i ∈ l, i.name ≠ str) → ∀ id : MngVals,
    findIdLoop str l 1 id = (true, id) ∧ (∀ i ∈ l, ¬ str <+: i.name) ∨
      (findIdLoop str l 1 id).1 = false ∧ ∃ i ∈ l, str <+: i.name
  | [], _, _ => .inl ⟨rfl, fun _ hi => absurd hi (List.not_mem_nil)⟩
  | i :: l, h, id => by
    have hl (j) (hj : j ∈ l) : j.name ≠ str := h j (List.mem_cons_of_mem _ hj)
    rw [findIdLoop_cons (h i List.mem_cons_self)]
    by_cases hp : str <+: i.name
    · rw [if_pos ⟨by decide, hp⟩]
      exact .inr ⟨findIdLoop_two hl i, i, List.mem_cons_self, hp⟩
    · rw [if_neg fun hn => hp hn.2]
      rcases findIdLoop_one hl id with ⟨he, hn⟩ | ⟨he, j, hj, hjp⟩
      · exact .inl ⟨he, List.forall_mem_cons.2 ⟨hp, hn⟩⟩
      · exact .inr ⟨he, j, List.mem_cons_of_mem _ hj, hjp⟩

/-- Without a name that is the text, the loop finds the only id whose name starts with it. -/
theorem findIdLoop_start {i : MngVals} : ∀ {l : List MngVals}, l.Nodup → (∀ j ∈ l, j.name ≠ str) → ∀ id : MngVals,
    ((findIdLoop str l 0 id).1 = true ∧ (findIdLoop str l 0 id).2 = i ↔
      i ∈ l ∧ str <+: i.name ∧ ∀ j ∈ l, j ≠ i → ¬ str <+: j.name)
  | [], _, _, id => by simp [findIdLoop]
  | k :: l, hd, h, id => by
    have hl (j) (hj : j ∈ l) : j.name ≠ str := h j (List.mem_cons_of_mem _ hj)
    obtain ⟨hk, hd⟩ := List.nodup_cons.1 hd
    rw [findIdLoop_cons (h k List.mem_cons_self)]
    by_cases hp : str <+: k.name
    · rw [if_pos ⟨by decide, hp⟩]
      have heq (hu : ∀ j ∈ k :: l, j ≠ i → ¬ str <+: j.name) : k = i :=
        by_contra fun hne => hu k List.mem_cons_self hne hp
      rcases findIdLoop_one hl k with ⟨he, hn⟩ | ⟨he, j, hj, hjp⟩
      · rw [he]
        refine ⟨fun ⟨_, hi⟩ => ?_, fun ⟨_, _, hu⟩ => ⟨rfl, heq hu⟩⟩
        obtain rfl : k = i := hi
        exact ⟨List.mem_cons_self, hp, List.forall_mem_cons.2 ⟨fun hne => absurd rfl hne, fun j hj _ => hn j hj⟩⟩
      · rw [he]
        refine ⟨fun ⟨hf, _⟩ => (Bool.false_ne_true hf).elim, fun ⟨_, _, hu⟩ => ?_⟩
        obtain rfl := heq hu
        exact absurd hjp (hu j (List.mem_cons_of_mem _ hj) fun hjk => hk (hjk ▸ hj))
    · rw [if_neg fun hn => hp hn.2, findIdLoop_start hd hl id]
      constructor
      · rintro ⟨hi, hip, hu⟩
        exact ⟨List.mem_cons_of_mem _ hi, hip, List.forall_mem_cons.2 ⟨fun _ => hp, hu⟩⟩
      · rintro ⟨hi, hip, hu⟩
        exact ⟨(List.mem_cons.1 hi).resolve_left fun hik => hp (hik ▸ hip), hip, (List.forall_mem_cons.1 hu).2⟩

end Loop

/-! ## What a text stands for -/

/-- `s`, in upper case, is a proper prefix of the id's name. -/
def Shortens (s : List UInt8) (id : MngVals) : Prop := s <+: id.name ∧ s ≠ id.name

/-- The id that a text in upper case stands for: NULL comes first, then a whole name, then
the start of one name only. -/
inductive StandsFor (s : List UInt8) : MngVals → Prop where
  | null (h : octets "NULL" <:+: s) : StandsFor s .NULL_PTP_MANAGEMENT
  | whole {id : MngVals} (h : ¬ octets "NULL" <:+: s) (hs : s = id.name) : StandsFor s id
  | start {id : MngVals} (h : ¬ octets "NULL" <:+: s) (hn : ∀ i : MngVals, s ≠ i.name) (hs : Shortens s id)
      (hu : ∀ i : MngVals, i ≠ id → ¬ Shortens s i) : StandsFor s id

theorem findId_of_ne_nil {s : List UInt8} (hs : s ≠ []) (id : MngVals) : findId id s =
    if octets "NULL" <:+: s.map toupper then (true, .NULL_PTP_MANAGEMENT, s.map toupper)
    else ((findIdLoop (s.map toupper) MngVals.all 0 id).1, (findIdLoop (s.map toupper) MngVals.all 0 id).2,
      s.map toupper) := by
  unfold findId
  rw [if_neg fun h => hs (List.length_eq_zero_iff.1 h)]
  simp only [contains_iff]

theorem findId_stands {s : List UInt8} (hs : s ≠ []) (id₀ id : MngVals) :
    (findId id₀ s).1 = true ∧ (findId id₀ s).2.1 = id ↔ StandsFor (s.map toupper) id := by
  rw [findId_of_ne_nil hs]
  by_cases hnull : octets "NULL" <:+: s.map toupper
  · rw [if_pos hnull]
    constructor
    · rintro ⟨-, rfl⟩
      exact .null hnull
    · intro h
      cases h with
      | null => exact ⟨rfl, rfl⟩
      | whole h | start h => exact absurd hnull h
  · rw [if_neg hnull]
    by_cases he : ∃ i : MngVals, s.map toupper = i.name
    · obtain ⟨i, hi⟩ := he
      rw [findIdLoop_whole hi.symm i.mem_all]
      constructor
      · rintro ⟨-, rfl⟩
        exact .whole hnull hi
      · intro h
        cases h with
        | null h => exact absurd h hnull
        | whole _ hid => exact ⟨rfl, name_inj (hi.symm.trans hid)⟩
        | start _ hn => exact absurd hi (hn i)
    · have hn (i : MngVals) : s.map toupper ≠ i.name := fun h => he ⟨i, h⟩
      refine (findIdLoop_start all_nodup (fun j _ => (hn j).symm) id₀).trans ⟨?_, fun h => ?_⟩
      · rintro ⟨-, hp, hu⟩
        exact .start hnull hn ⟨hp, hn id⟩ fun i hi hsi => hu i i.mem_all hi hsi.1
      · cases h with
        | null h => exact absurd h hnull
        | whole _ hid => exact absurd hid (hn id)
        | start _ _ hsi hu => exact ⟨id.mem_all, hsi.1, fun j _ hj hp => hu j hj ⟨hp, hn j⟩⟩

/-- An id is found exactly where the text stands for one, and it is that one. A whole name
wins over longer ones, and the start of two names finds none. -/
theorem findId_iff (id₀ : MngVals) (s : List UInt8) (hs : s ≠ []) :
    (∀ id : MngVals, (findId id₀ s).1 = true ∧ (findId id₀ s).2.1 = id ↔ StandsFor (s.map toupper) id) ∧
    (∀ id : MngVals, s.map toupper = id.name → (findId id₀ s).1 = true ∧ (findId id₀ s).2.1 = id) ∧
    ∀ i j : MngVals, i ≠ j → ¬ octets "NULL" <:+: s.map toupper → (∀ k : MngVals, s.map toupper ≠ k.name) →
      Shortens (s.map toupper) i → Shortens (s.map toupper) j → (findId id₀ s).1 = false := by
  refine ⟨findId_stands hs id₀, fun id hid => (findId_stands hs id₀ id).2 ?_, fun i j hij hnull hn hi hj => ?_⟩
  · by_cases hnull : octets "NULL" <:+: s.map toupper
    · rw [(null_infix_iff id).1 (hid ▸ hnull)]
      exact .null hnull
    · exact .whole hnull hid
  · by_contra hf
    have hst := (findId_stands hs id₀ _).1 ⟨eq_true_of_ne_false hf, rfl⟩
    generalize (findId id₀ s).2.1 = k at hst
    cases hst with
    | null h => exact hnull h
    | whole _ hk => exact hn k hk
    | start _ _ _ hu =>
      by_cases hik : i = k
      · exact hu j (fun hjk => hij (hik.trans hjk.symm)) hj
      · exact hu i hik hi

/-- TIME is a whole name, with longer ones before and behind it in the table. -/
theorem findId_time : (findId .DOMAIN (octets "time")).1 = true ∧ (findId .DOMAIN (octets "time")).2.1 = .TIME :=
  (findId_iff .DOMAIN (octets "time") (by decide)).2.1 .TIME (by decide)

example : findId .DOMAIN (octets "clock_d") = (true, .CLOCK_DESCRIPTION, octets "CLOCK_D") := by decide +kernel
example : (findId .DOMAIN (octets "clock")).1 = false := by decide +kernel

end LibPmc
