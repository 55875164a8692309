import LibPmc.Cfg
import LibPmc.JsonProc
import LibPmc.Strtok
/-!
# The texts of a Binary

The parsers of `bin.cpp`, over the buffer that `strtok_r` cuts up, and the texts they read
back. `fromId` of `Cfg.lean` and `ofHex` are what the loops compute.
-/
namespace LibPmc

open Cstr

/-- A `Binary` is the octets of its `m_str`. -/
abbrev Binary := List UInt8

namespace Binary

/-! ## The loops -/

/-- The loop of `fromId`. The object is written behind it. -/
def fromIdLoop (m_str : Binary) : Nat → Buf → Nat → List UInt8 → Option (Bool × Binary)
  | 0, _, _, _ => none
  | fuel + 1, buf, save, id => do
    let (cur, buf, save) ← strtok_r idsep buf save
    match cur with
    | none => return (true, id)
    | some cur =>
      let token ← buf.str cur
      if token = [] then return (true, id)
      else
        match idOctet token with
        | none => return (false, m_str)
        | some a => fromIdLoop m_str fuel buf save (id ++ [a])

def fromId (m_str : Binary) (string : List UInt8) : Option (Bool × Binary) :=
  if string.length < 2 then some (false, m_str)
  else fromIdLoop m_str (string.length + 1) (cstr string ++ [0]) 0 []

/-- A round of the loop of `fromHex`: the octet of two nibbles, or of one at the end of a
token, and whether the token ends. Where `strtol` converts nothing, `end` is at the first
nibble, which is not 0. -/
def nibbles (buf : Buf) (cur : Nat) : Option (Option (List UInt8) × Bool) := do
  let c₀ ← buf[cur]?
  if c₀ = 0 then return (some [], true)
  else
    let c₁ ← buf[cur + 1]?
    match idOctet (cstr [c₀, c₁]) with
    | none => return (none, true)
    | some val =>
      if c₁ = 0 then return (some [val], true)
      else
        let c₂ ← buf[cur + 2]?
        return (some [val], c₂ = 0)

def fromHexLoop (m_str : Binary) : Nat → Buf → Option Nat → Nat → List UInt8 → Option (Bool × Binary)
  | 0, _, _, _, _ => none
  | _ + 1, _, none, _, id => some (true, id)
  | fuel + 1, buf, some cur, save, id => do
    let (val, ends) ← nibbles buf cur
    match val with
    | none => return (false, m_str)
    | some val =>
      if ends then
        let (cur, buf, save) ← strtok_r idsep buf save
        fromHexLoop m_str fuel buf cur save (id ++ val)
      else fromHexLoop m_str fuel buf (some (cur + 2)) save (id ++ val)

def fromHex (m_str : Binary) (hex : List UInt8) : Option (Bool × Binary) :=
  if hex = [] then some (false, m_str)
  else do
    let (cur, buf, save) ← strtok_r idsep (cstr hex ++ [0]) 0
    fromHexLoop m_str (hex.length + 1) buf cur save []

/-- `return fromId(string) && isMacLen()`. -/
def fromMac (m_str : Binary) (string : List UInt8) : Option (Bool × Binary) := do
  let (ok, m_str) ← m_str.fromId string
  return (ok && isMacLen m_str, m_str)

def toId (b : Binary) : List UInt8 := bufToId b

def bufToHex (bin : List UInt8) : List UInt8 := bin.flatMap hex2

def toHex (b : Binary) : List UInt8 := bufToHex b

def eui48ToEui64 (bin : Binary) : Bool × Binary :=
  if bin.length = 8 then (true, bin)
  else if bin.length ≠ 6 then (false, bin)
  else (true, bin.take 3 ++ [0xff, 0xfe] ++ bin.drop 3)

/-- `copy`, into a clock identity. -/
def copy (bin : Binary) (target : ClockIdentity_t) : ClockIdentity_t :=
  ⟨⟨(bin ++ target.v.val.drop bin.length).take 8, by simp [target.v.2]; omega⟩⟩

/-! ## What the loops compute -/

/-- The octets of a token of `fromHex`. -/
def hexToken : List UInt8 → Option (List UInt8)
  | [] => some []
  | [c] => (idOctet [c]).map ([·])
  | c₀ :: c₁ :: s => do return (← idOctet [c₀, c₁]) :: (← hexToken s)

/-- The octets of a text, without the object. -/
def ofHex (hex : List UInt8) : Option (List UInt8) :=
  if hex = [] then none else ((tokens idsep (cstr hex)).mapM hexToken).map List.flatten

/-- What a parser returns, and what it leaves in the object. -/
def settle (m_str : Binary) : Option (List UInt8) → Bool × Binary
  | none => (false, m_str)
  | some id => (true, id)

section Loops
variable (m_str : Binary) {s w : List UInt8} {fuel : Nat}

theorem fromIdLoop_eq (h0 : 0 ∉ s) (hf : s.length < fuel) (pre rest : Buf) (id : List UInt8) :
    fromIdLoop m_str fuel (pre ++ (s ++ 0 :: rest)) pre.length id =
      some (m_str.settle (((tokens idsep s).mapM idOctet).map (id ++ ·))) := by
  induction fuel generalizing s pre id with
  | zero => cases hf
  | succ fuel ih =>
    unfold fromIdLoop
    rcases strtok_r_next (show idsep.contains 0 = false by decide) h0 pre rest with
      ⟨ht, q, hq⟩ | ⟨a, w, x, pre', s', hq, hb, ht, hne, hw, h0', hl⟩
    · rw [hq, ht]
      simp [settle]
    · have hstr : Buf.str (a ++ (w ++ 0 :: x)) a.length = some w := by
        rw [Buf.str_of_ended, List.drop_left, cstr_append, cstr_of_notMem hw]
        unfold Buf.Ended
        rw [List.drop_left]
        exact List.mem_append_right _ List.mem_cons_self
      have hpos := List.length_pos_iff.2 hne
      rw [hq, ht]
      dsimp only [bind, Option.bind_some]
      rw [hstr]
      dsimp only [Option.bind_some]
      rw [if_neg hne, List.mapM_cons]
      rcases idOctet w with _ | o
      · rfl
      · dsimp only
        rw [hb, ih h0' (by omega)]
        dsimp only [bind, Option.bind_some]
        rcases (tokens idsep s').mapM idOctet with _ | l
        · rfl
        · simp [settle]

/-- The loop always ends, with the octets of the tokens where each is one. -/
theorem fromId_eq (string : List UInt8) :
    m_str.fromId string = some (m_str.settle (LibPmc.fromId string)) := by
  unfold fromId LibPmc.fromId
  split
  · rfl
  · have hlen : (cstr string).length ≤ string.length := (List.takeWhile_sublist _).length_le
    have hloop := fromIdLoop_eq m_str (zero_notMem_cstr string) (Nat.lt_succ_of_le hlen) [] [] []
    change fromIdLoop m_str (string.length + 1) (cstr string ++ [0]) 0 [] = _ at hloop
    rw [hloop]
    simp only [List.nil_append, Option.map_id']
    rfl

/-- The loop behind a token. -/
def nextToken (m_str : Binary) (fuel : Nat) (buf : Buf) (save : Nat) (id : List UInt8) : Option (Bool × Binary) := do
  let (cur, buf, save) ← strtok_r idsep buf save
  fromHexLoop m_str fuel buf cur save id

theorem getElem?_append_add (a l : Buf) (i : Nat) : (a ++ l)[a.length + i]? = l[i]? := by
  rw [List.getElem?_append_right (Nat.le_add_right _ _), Nat.add_sub_cancel_left]

theorem nibbles_last {c : UInt8} (hc : c ≠ 0) (a x : Buf) :
    nibbles (a ++ c :: 0 :: x) a.length = some ((idOctet [c]).map ([·]), true) := by
  have hcstr : cstr [c, 0] = [c] := by
    rw [← List.singleton_append, cstr_append, cstr_of_notMem (by simpa using Ne.symm hc)]
  have hc₀ : (a ++ c :: 0 :: x)[a.length]? = some c := getElem?_append_add a _ 0
  have hc₁ : (a ++ c :: 0 :: x)[a.length + 1]? = some 0 := getElem?_append_add a _ 1
  unfold nibbles
  rw [hc₀, hc₁]
  dsimp only [bind, Option.bind_some]
  rw [if_neg hc, hcstr]
  rcases idOctet [c] with _ | o <;> rfl

theorem nibbles_pair {c₀ c₁ c₂ : UInt8} (h₀ : c₀ ≠ 0) (h₁ : c₁ ≠ 0) (a x : Buf) :
    nibbles (a ++ c₀ :: c₁ :: c₂ :: x) a.length =
      some ((idOctet [c₀, c₁]).map ([·]), decide (idOctet [c₀, c₁] = none) || decide (c₂ = 0)) := by
  have hcstr : cstr [c₀, c₁] = [c₀, c₁] := cstr_of_notMem (by simpa using ⟨Ne.symm h₀, Ne.symm h₁⟩)
  have hc₀ : (a ++ c₀ :: c₁ :: c₂ :: x)[a.length]? = some c₀ := getElem?_append_add a _ 0
  have hc₁ : (a ++ c₀ :: c₁ :: c₂ :: x)[a.length + 1]? = some c₁ := getElem?_append_add a _ 1
  have hc₂ : (a ++ c₀ :: c₁ :: c₂ :: x)[a.length + 2]? = some c₂ := getElem?_append_add a _ 2
  unfold nibbles
  rw [hc₀, hc₁, hc₂]
  dsimp only [bind, Option.bind_some]
  rw [if_neg h₀, hcstr]
  rcases idOctet [c₀, c₁] with _ | o
  · rfl
  · dsimp only
    rw [if_neg h₁]
    rfl

/-- A token is read by pairs, up to the 0 behind it. -/
theorem fromHexLoop_token (hne : w ≠ []) (h0 : 0 ∉ w) (fuel : Nat) (a x : Buf) (save : Nat) (id : List UInt8) :
    (hexToken w = none ∧
        fromHexLoop m_str (fuel + w.length) (a ++ (w ++ 0 :: x)) (some a.length) save id = some (false, m_str)) ∨
      ∃ l fuel', hexToken w = some l ∧ fuel ≤ fuel' ∧
        fromHexLoop m_str (fuel + w.length) (a ++ (w ++ 0 :: x)) (some a.length) save id =
          nextToken m_str fuel' (a ++ (w ++ 0 :: x)) save (id ++ l) := by
  induction w using hexToken.induct generalizing fuel a id with
  | case1 => exact absurd rfl hne
  | case2 c =>
    have hc : c ≠ 0 := fun h => h0 (h ▸ List.mem_cons_self)
    rw [List.length_singleton, fromHexLoop, List.cons_append, List.nil_append, nibbles_last hc, hexToken]
    rcases idOctet [c] with _ | o
    · exact .inl ⟨rfl, rfl⟩
    · exact .inr ⟨[o], fuel, rfl, Nat.le_refl _, rfl⟩
  | case3 c₀ c₁ s ih =>
    simp only [List.mem_cons, not_or] at h0
    obtain ⟨h₀, h₁, hs0⟩ := h0
    rw [List.length_cons, List.length_cons, ← Nat.add_assoc, fromHexLoop, hexToken]
    rcases s with _ | ⟨c₂, s⟩
    · rw [List.cons_append, List.cons_append, List.nil_append, nibbles_pair (Ne.symm h₀) (Ne.symm h₁)]
      rcases idOctet [c₀, c₁] with _ | o
      · exact .inl ⟨rfl, rfl⟩
      · exact .inr ⟨[o], fuel + 1, rfl, Nat.le_succ _, rfl⟩
    · have h₂ : c₂ ≠ 0 := fun h => hs0 (h ▸ List.mem_cons_self)
      rw [List.cons_append, List.cons_append, List.cons_append, nibbles_pair (Ne.symm h₀) (Ne.symm h₁)]
      rcases idOctet [c₀, c₁] with _ | o
      · exact .inl ⟨rfl, rfl⟩
      · -- the token goes on
        have hends : (decide (some o = none) || decide (c₂ = 0)) = false := by simp [h₂]
        rw [hends]
        have hnext := ih (List.cons_ne_nil _ _) hs0 (fuel + 1) (a ++ [c₀, c₁]) (id ++ [o])
        have hpos : (a ++ [c₀, c₁]).length = a.length + 2 := List.length_append
        have hfuel : fuel + 1 + (c₂ :: s).length = fuel + (c₂ :: s).length + 1 := by omega
        rw [hpos, hfuel, List.append_assoc] at hnext
        rcases hnext with ⟨ht, hl⟩ | ⟨l, fuel', ht, hf, hl⟩
        · rw [ht]
          exact .inl ⟨rfl, hl⟩
        · rw [ht]
          refine .inr ⟨o :: l, fuel', rfl, by omega, ?_⟩
          rw [List.append_assoc] at hl
          exact hl

theorem nextToken_eq (h0 : 0 ∉ s) (hf : s.length < fuel) (pre rest : Buf) (id : List UInt8) :
    nextToken m_str fuel (pre ++ (s ++ 0 :: rest)) pre.length id =
      some (m_str.settle (((tokens idsep s).mapM hexToken).map (id ++ ·.flatten))) := by
  induction hn : s.length using Nat.strong_induction_on generalizing s fuel pre id with
  | h n ih =>
    unfold nextToken
    rcases strtok_r_next (show idsep.contains 0 = false by decide) h0 pre rest with
      ⟨ht, q, hq⟩ | ⟨a, w, x, pre', s', hq, hb, ht, hne, hw, h0', hl⟩
    · rw [hq, ht]
      obtain ⟨fuel, rfl⟩ := Nat.exists_eq_succ_of_ne_zero (Nat.ne_of_gt (Nat.zero_lt_of_lt hf))
      simp [fromHexLoop, settle]
    · have hpos := List.length_pos_iff.2 hne
      rw [hq, ht, List.mapM_cons]
      dsimp only [bind, Option.bind_some]
      have hfuel : fuel = fuel - w.length + w.length := by omega
      rw [hfuel]
      rcases fromHexLoop_token m_str hne hw (fuel - w.length) a x pre'.length id with ⟨hw', hloop⟩ |
        ⟨l, fuel', hw', hf', hloop⟩
      · rw [hloop, hw']
        rfl
      · rw [hloop, hw', hb, ih _ (by omega) h0' (by omega) pre' _ rfl]
        dsimp only [Option.bind_some]
        rcases (tokens idsep s').mapM hexToken with _ | ls
        · rfl
        · simp [settle]

theorem fromHex_eq (hex : List UInt8) : m_str.fromHex hex = some (m_str.settle (ofHex hex)) := by
  unfold fromHex ofHex
  split
  · rfl
  · have hlen : (cstr hex).length ≤ hex.length := (List.takeWhile_sublist _).length_le
    have hloop := nextToken_eq m_str (zero_notMem_cstr hex) (Nat.lt_succ_of_le hlen) [] [] []
    simp only [List.nil_append, List.length_nil] at hloop
    exact hloop

example : fromHex [] (octets "1-2a3") = some (true, [0x01, 0x2a, 0x03]) := by decide

end Loops

/-- `fromMac` leaves what `fromId` has read, also where the length is wrong. -/
theorem fromMac_eq (m_str : Binary) (string : List UInt8) :
    m_str.fromMac string = some (LibPmc.fromMac m_str string) := by
  unfold fromMac LibPmc.fromMac
  rw [fromId_eq]
  rcases LibPmc.fromId string with _ | id <;> rfl

/-! ## The texts are read back -/

/-- The value of a digit, and what it is not. -/
theorem hexChar_spec {n : UInt8} (h : n < 16) :
    digit (hexChar n) = some n.toNat ∧ idsep.contains (hexChar n) = false ∧ hexChar n ≠ 0 := by
  have hall : ∀ k < 16, digit (hexChar (UInt8.ofNat k)) = some (UInt8.ofNat k).toNat ∧
      idsep.contains (hexChar (UInt8.ofNat k)) = false ∧ hexChar (UInt8.ofNat k) ≠ 0 := by decide
  rw [← UInt8.ofNat_toNat (x := n)]
  exact hall _ (UInt8.lt_iff_toNat_lt.1 h)

theorem high_lt (b : UInt8) : b / 16 < 16 := by
  have hb := b.toNat_lt
  rw [UInt8.lt_iff_toNat_lt, UInt8.toNat_div]
  change b.toNat / 16 < 16
  omega

theorem low_lt (b : UInt8) : b % 16 < 16 := by
  rw [UInt8.lt_iff_toNat_lt, UInt8.toNat_mod]
  exact Nat.mod_lt _ (by decide)

theorem hex2_notSep (b : UInt8) : ∀ c ∈ hex2 b, idsep.contains c = false :=
  List.forall_mem_cons.2 ⟨(hexChar_spec (high_lt b)).2.1, List.forall_mem_singleton.2 (hexChar_spec (low_lt b)).2.1⟩

theorem zero_notMem_hex2 (b : UInt8) : 0 ∉ hex2 b := by
  intro h
  rcases List.mem_cons.1 h with h | h
  · exact (hexChar_spec (high_lt b)).2.2 h.symm
  · exact (hexChar_spec (low_lt b)).2.2 (List.mem_singleton.1 h).symm

theorem strtol_hex2 (b : UInt8) : strtol (hex2 b) 16 = some ((b.toNat : Int), []) := by
  obtain ⟨hd, -⟩ := hexChar_spec (high_lt b)
  obtain ⟨hd', -⟩ := hexChar_spec (low_lt b)
  have hdigits : ∀ c ∈ hex2 b, isDigit 16 c = true := by
    refine List.forall_mem_cons.2 ⟨?_, List.forall_mem_singleton.2 ?_⟩
    · rw [isDigit, hd, Option.any_some]
      exact decide_eq_true (UInt8.lt_iff_toNat_lt.1 (high_lt b))
    · rw [isDigit, hd', Option.any_some]
      exact decide_eq_true (UInt8.lt_iff_toNat_lt.1 (low_lt b))
  have hval : (hex2 b).foldl (fun v c => v * 16 + (digit c).getD 0) 0 = b.toNat := by
    rw [hex2, List.foldl_cons, List.foldl_cons, List.foldl_nil, hd, hd', Option.getD_some,
      Option.getD_some, Nat.zero_mul,
      Nat.zero_add, UInt8.toNat_div, UInt8.toNat_mod]
    exact Nat.div_add_mod' _ _
  have hne : hex2 b ≠ [] := List.cons_ne_nil _ _
  rw [strtol_hex hne hdigits, hval]

theorem idOctet_hex2 (b : UInt8) : idOctet (hex2 b) = some b := by
  have hb := b.toNat_lt
  rw [idOctet, strtol_hex2]
  dsimp only
  rw [if_neg (by omega), Int.toNat_natCast, UInt8.ofNat_toNat]

/-! ### One octet after the other -/

/-- Each of the results is there, and they are the list. -/
theorem mapM_eq_some {α β : Type} {f : α → Option β} {l : List α} {l' : List β} :
    l.mapM f = some l' ↔ l.map f = l'.map some := by
  induction l generalizing l' with
  | nil =>
    rw [List.mapM_nil, List.map_nil, eq_comm, eq_comm (a := []), List.map_eq_nil_iff]
    exact Option.some_inj
  | cons a l ih =>
    have hcons : (a :: l).mapM f = (f a).bind fun b => (l.mapM f).map (b :: ·) := by
      rw [List.mapM_cons]
      rcases f a with _ | b
      · rfl
      · rcases l.mapM f <;> rfl
    rw [hcons, Option.bind_eq_some_iff, List.map_cons]
    constructor
    · rintro ⟨b, hb, h⟩
      obtain ⟨m, hm, rfl⟩ := Option.map_eq_some_iff.1 h
      rw [hb, ih.1 hm, List.map_cons]
    · intro h
      cases l' with
      | nil => cases h
      | cons b l' =>
        obtain ⟨hb, hl⟩ := List.cons.inj h
        exact ⟨b, hb, by rw [ih.2 hl]; rfl⟩

theorem exists_map_eq_some {α β : Type} {f : α → Option β} {l : List α} :
    (∃ l' : List β, l.map f = l'.map some) ↔ ∀ a ∈ l, f a ≠ none := by
  constructor
  · rintro ⟨l', h⟩ a ha h0
    have hmem : f a ∈ l'.map some := h ▸ List.mem_map_of_mem ha
    rw [h0] at hmem
    simp at hmem
  · intro h
    induction l with
    | nil => exact ⟨[], rfl⟩
    | cons a l ih =>
      obtain ⟨ha, hl⟩ := List.forall_mem_cons.1 h
      obtain ⟨b, hb⟩ := Option.ne_none_iff_exists'.1 ha
      obtain ⟨l', hl'⟩ := ih hl
      exact ⟨b :: l', by rw [List.map_cons, hb, hl', List.map_cons]⟩

theorem mapM_idOctet (b : Binary) : (b.map hex2).mapM idOctet = some b := by
  rw [mapM_eq_some, List.map_map]
  exact List.map_congr_left fun c _ => idOctet_hex2 c

theorem hexToken_flatMap (b : Binary) : hexToken (b.flatMap hex2) = some b := by
  induction b with
  | nil => rfl
  | cons c b ih =>
    have hc : idOctet [hexChar (c / 16), hexChar (c % 16)] = some c := idOctet_hex2 c
    rw [List.flatMap_cons, hex2, List.cons_append, List.cons_append, List.nil_append, hexToken, hc, ih]
    rfl

/-- Where the tokens are octets in hexadecimal, they are read one behind the other. -/
theorem ofHex_of_tokens {hex : List UInt8} (hne : hex ≠ []) (h0 : 0 ∉ hex) (l : List Binary)
    (ht : tokens idsep hex = l.map (·.flatMap hex2)) : ofHex hex = some l.flatten := by
  have hm : (l.map (·.flatMap hex2)).mapM hexToken = some l := by
    rw [mapM_eq_some, List.map_map]
    exact List.map_congr_left fun b _ => hexToken_flatMap b
  rw [ofHex, if_neg hne, cstr_of_notMem h0, ht, hm]
  rfl

theorem flatMap_hex2_notSep (b : Binary) : ∀ c ∈ b.flatMap hex2, idsep.contains c = false := by
  intro c hc
  obtain ⟨o, -, ho⟩ := List.mem_flatMap.1 hc
  exact hex2_notSep o c ho

theorem zero_notMem_flatMap_hex2 (b : Binary) : 0 ∉ b.flatMap hex2 := by
  intro h
  obtain ⟨o, -, ho⟩ := List.mem_flatMap.1 h
  exact zero_notMem_hex2 o ho

theorem flatMap_hex2_ne_nil {b : Binary} (hb : b ≠ []) : b.flatMap hex2 ≠ [] := by
  obtain ⟨c, b, rfl⟩ := List.exists_cons_of_ne_nil hb
  exact List.cons_ne_nil _ _

theorem tokens_bufToId {b : Binary} (hb : b ≠ []) : tokens idsep (bufToId b) = b.map hex2 := by
  obtain ⟨c, b, rfl⟩ := List.exists_cons_of_ne_nil hb
  rw [bufToId, List.map_cons]
  induction b generalizing c with
  | nil => exact (congrArg _ (List.append_nil _)).trans (tokens_word (hex2_notSep c) (List.cons_ne_nil _ _))
  | cons d b ih =>
    rw [List.map_cons, ← ih d (List.cons_ne_nil _ _)]
    exact tokens_word_cons (hex2_notSep c) (List.cons_ne_nil _ _) (by decide) _

theorem zero_notMem_bufToId (b : Binary) : 0 ∉ bufToId b := by
  cases b with
  | nil => exact List.not_mem_nil
  | cons c b =>
    rw [bufToId, List.mem_append, List.mem_flatMap]
    rintro (h | ⟨d, -, h⟩)
    · exact zero_notMem_hex2 c h
    · rcases List.mem_append.1 h with h | h
      · exact absurd h (by decide)
      · exact zero_notMem_hex2 d h

theorem bufToId_length {b : Binary} (hb : b ≠ []) : 2 ≤ (bufToId b).length := by
  obtain ⟨c, b, rfl⟩ := List.exists_cons_of_ne_nil hb
  rw [bufToId, List.length_append]
  exact Nat.le_add_right 2 _

/-- An octet string is read back from each of its texts, into any object. -/
theorem texts_read_back (m_str : Binary) {b : Binary} (hb : b ≠ []) :
    m_str.fromId b.toId = some (true, b) ∧ m_str.fromHex b.toHex = some (true, b) ∧
      m_str.fromHex b.toId = some (true, b) := by
  have hid : LibPmc.fromId (bufToId b) = some b := by
    have htok : LibPmc.fromId (bufToId b) = (tokens idsep (bufToId b)).mapM idOctet := by
      rw [LibPmc.fromId, if_neg (Nat.not_lt.2 (bufToId_length hb)), cstr_of_notMem (zero_notMem_bufToId b)]
      rfl
    rw [htok, tokens_bufToId hb, mapM_idOctet]
  have hhex : ofHex (b.flatMap hex2) = some b := by
    have ht := tokens_word (flatMap_hex2_notSep b) (flatMap_hex2_ne_nil hb)
    rw [ofHex_of_tokens (flatMap_hex2_ne_nil hb) (zero_notMem_flatMap_hex2 b) [b] ht]
    exact congrArg some (List.append_nil b)
  have hids : ofHex (bufToId b) = some b := by
    have hne : bufToId b ≠ [] := List.ne_nil_of_length_pos (Nat.lt_of_lt_of_le (by decide) (bufToId_length hb))
    rw [ofHex_of_tokens hne (zero_notMem_bufToId b) (b.map ([·])) ?_]
    · rw [← List.flatMap_def, List.flatMap_singleton']
    · rw [tokens_bufToId hb, List.map_map]
      exact List.map_congr_left fun c _ => (List.flatMap_singleton hex2 c).symm
  refine ⟨?_, ?_, ?_⟩
  · rw [fromId_eq, toId, hid]
    rfl
  · rw [fromHex_eq, toHex, bufToHex, hhex]
    rfl
  · rw [fromHex_eq, toId, hids]
    rfl

theorem texts_read_back_zeros :
    fromId [] (toId [0x00, 0x0a, 0xff]) = some (true, [0x00, 0x0a, 0xff]) ∧
      fromHex [] (toHex [0x00, 0x0a, 0xff]) = some (true, [0x00, 0x0a, 0xff]) ∧
      fromHex [] (toId [0x00, 0x0a, 0xff]) = some (true, [0x00, 0x0a, 0xff]) :=
  texts_read_back [] (by decide)

end Binary

end LibPmc
