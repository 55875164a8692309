import LibPmc.CfgNumber
import LibPmc.Command
import LibPmc.Json.Printf
import LibPmc.Pairs
import Mathlib.Data.List.Nodup
/-!
# The signed fields of the commands

A key of a number has a minimum, and where the functions leave it out it is 0. So half of
the values of a signed field are refused; and one function sets its field to 0 or 1.
-/
namespace LibPmc

open Cstr

/-- The signed fields that a command has a key for. `currentUtcOffset` is in two structures. -/
inductive SignedField where
  | logAnnounceInterval
  | logSyncInterval
  | logMinPdelayReqInterval
  | logAlternateMulticastSyncInterval
  | currentUtcOffset
  | currentUtcOffset_NP
  | currentOffset
  | jumpSeconds
  | asCapable
  deriving DecidableEq

namespace SignedField

def id : SignedField → MngVals
  | logAnnounceInterval => .LOG_ANNOUNCE_INTERVAL
  | logSyncInterval => .LOG_SYNC_INTERVAL
  | logMinPdelayReqInterval => .LOG_MIN_PDELAY_REQ_INTERVAL
  | logAlternateMulticastSyncInterval => .ALTERNATE_MASTER
  | currentUtcOffset => .UTC_PROPERTIES
  | currentUtcOffset_NP => .GRANDMASTER_SETTINGS_NP
  | currentOffset => .ALTERNATE_TIME_OFFSET_PROPERTIES
  | jumpSeconds => .ALTERNATE_TIME_OFFSET_PROPERTIES
  | asCapable => .PORT_DATA_SET_NP

def key : SignedField → String
  | logAnnounceInterval => "logAnnounceInterval"
  | logSyncInterval => "logSyncInterval"
  | logMinPdelayReqInterval => "logMinPdelayReqInterval"
  | logAlternateMulticastSyncInterval => "logAlternateMulticastSyncInterval"
  | currentUtcOffset => "currentUtcOffset"
  | currentUtcOffset_NP => "currentUtcOffset"
  | currentOffset => "currentOffset"
  | jumpSeconds => "jumpSeconds"
  | asCapable => "asCapable"

/-- The table of its TLV. -/
def keys : SignedField → Keys
  | logAnnounceInterval => [("logAnnounceInterval", { dflt := 1, max := 0x7f })]
  | logSyncInterval => [("logSyncInterval", { max := 0x7f })]
  | logMinPdelayReqInterval => [("logMinPdelayReqInterval", { max := 0x7f })]
  | logAlternateMulticastSyncInterval => [("logAlternateMulticastSyncInterval", { max := 0x7f }),
      ("numberOfAlternateMasters", { max := 0xff }), ("transmitAlternateMulticastSync", { flag := true })]
  | currentUtcOffset => [("currentUtcOffset", { max := 0x7fff, req := true }),
      ("currentUtcOffsetValid", { flag := true }),
      ("leap59", { flag := true }), ("leap61", { flag := true })]
  | currentUtcOffset_NP => [("clockAccuracy", { base := 16, max := 0xff, req := true }),
      ("clockClass", { max := 0xff, req := true }), ("currentUtcOffset", { max := 0x7fff, req := true }),
      ("currentUtcOffsetValid", { flag := true }), ("frequencyTraceable", { flag := true }),
        ("leap59", { flag := true }),
      ("leap61", { flag := true }), ("offsetScaledLogVariance", { base := 16, max := 0xffff, req := true }),
      ("ptpTimescale", { flag := true }), ("timeSource", { req := true, handle := some getTimeSource }),
      ("timeTraceable", { flag := true })]
  | currentOffset => [("currentOffset", { max := 0x7fffffff }), ("jumpSeconds", { max := 0x7fffffff }),
      ("keyField", { max := 0xff }), ("timeOfNextJump", { max := 0xffffffffffff })]
  | jumpSeconds => [("currentOffset", { max := 0x7fffffff }), ("jumpSeconds", { max := 0x7fffffff }),
      ("keyField", { max := 0xff }), ("timeOfNextJump", { max := 0xffffffffffff })]
  | asCapable => [("asCapable", { max := 0x7fffffff, req := true }),
      ("neighborPropDelayThresh", { max := 0xffffffff, req := true })]

/-- What a value of its type is less than. -/
def bound : SignedField → Int
  | logAnnounceInterval | logSyncInterval | logMinPdelayReqInterval | logAlternateMulticastSyncInterval => 0x80
  | currentUtcOffset | currentUtcOffset_NP => 0x8000
  | currentOffset | jumpSeconds | asCapable => 0x80000000

/-- The field in the structure. -/
def get : SignedField → BaseMngTlv → Option Int
  | logAnnounceInterval, .LOG_ANNOUNCE_INTERVAL d => some d.logAnnounceInterval.toInt
  | logSyncInterval, .LOG_SYNC_INTERVAL d => some d.logSyncInterval.toInt
  | logMinPdelayReqInterval, .LOG_MIN_PDELAY_REQ_INTERVAL d => some d.logMinPdelayReqInterval.toInt
  | logAlternateMulticastSyncInterval, .ALTERNATE_MASTER d => some d.logAlternateMulticastSyncInterval.toInt
  | currentUtcOffset, .UTC_PROPERTIES d => some d.currentUtcOffset.toInt
  | currentUtcOffset_NP, .GRANDMASTER_SETTINGS_NP d => some d.currentUtcOffset.toInt
  | currentOffset, .ALTERNATE_TIME_OFFSET_PROPERTIES d => some d.currentOffset.toInt
  | jumpSeconds, .ALTERNATE_TIME_OFFSET_PROPERTIES d => some d.jumpSeconds.toInt
  | asCapable, .PORT_DATA_SET_NP d => some d.asCapable.toInt
  | _, _ => none

/-- What the function of the TLV makes of the number. -/
def made : SignedField → Int → Int
  | logSyncInterval, n => if n > 0 then 1 else 0
  | logAnnounceInterval, n | logMinPdelayReqInterval, n | logAlternateMulticastSyncInterval, n => (Int8.ofInt n).toInt
  | currentUtcOffset, n | currentUtcOffset_NP, n => (Int16.ofInt n).toInt
  | currentOffset, n | jumpSeconds, n | asCapable, n => (Int32.ofInt n).toInt

/-- A line that names the key of the field with a value in decimal, and sets the other keys to
any values that they take. -/
structure SetBy (f : SignedField) (v : Int) (line : Line) : Prop where
  named : ∀ p ∈ line.pairs, ∃ i k, p.Names f.keys.start i k
  distinct : line.pairs.Pairwise fun p q => f.keys.index p.name.string ≠ f.keys.index q.name.string
  field : ∃ p ∈ line.pairs, caseEq (octets f.key) p.name.string = true ∧ p.value.string = signed v
  others : ∀ p ∈ line.pairs, caseEq (octets f.key) p.name.string = false → ∀ i k, p.Names f.keys.start i k →
    ∃ out, k.2.settle p.value.string = .ok out
  complete : f.keys.Complete line.pairs

end SignedField

/-! ## Numbers in decimal -/

theorem digit_ofNat : ∀ d < 10, digit (UInt8.ofNat (0x30 + d)) = some d := by decide

theorem decimal_digits (n : Nat) :
    decimal n ≠ [] ∧ (∀ c ∈ decimal n, isDigit 10 c = true) ∧ natOf 10 (decimal n) = n := by
  induction n using Nat.strong_induction_on with
  | _ n ih =>
    rw [Json.decimal_eq]
    by_cases h : n < 10
    · rw [if_pos h]
      refine ⟨List.cons_ne_nil _ _, List.forall_mem_singleton.2 ?_, ?_⟩
      · simp only [isDigit, digit_ofNat n h, Option.any_some]
        exact decide_eq_true h
      · change 0 * 10 + (digit (UInt8.ofNat (0x30 + n))).getD 0 = n
        rw [digit_ofNat n h, Nat.zero_mul, Nat.zero_add]
        rfl
    · rw [if_neg h]
      obtain ⟨-, hall, hval⟩ := ih (n / 10) (by omega)
      have hd := digit_ofNat (n % 10) (Nat.mod_lt n (by decide))
      refine ⟨List.append_ne_nil_of_right_ne_nil _ (List.cons_ne_nil _ _),
        List.forall_mem_append.2 ⟨hall, List.forall_mem_singleton.2 ?_⟩, ?_⟩
      · simp only [isDigit, hd, Option.any_some]
        exact decide_eq_true (Nat.mod_lt n (by decide))
      · rw [natOf_append, hval, hd]
        exact Nat.div_add_mod' n 10

theorem unsigned_decimal (n : Nat) : Unsigned (decimal n) n := by
  obtain ⟨hne, hall, hval⟩ := decimal_digits n
  by_cases h0 : (decimal n).head? = some 48
  · obtain rfl := Json.head_decimal h0
    exact .octal (List.forall_mem_nil fun d => isDigit 8 d = true)
  · obtain ⟨c, ds, hd⟩ := List.exists_cons_of_ne_nil hne
    rw [hd] at hall hval h0 ⊢
    rw [← hval]
    exact .decimal (fun hc => h0 (by rw [hc]; rfl)) hall

theorem literal_signed (v : Int) : Literal (signed v) v := by
  unfold signed minus
  by_cases h : v < 0
  · have hv : v = -(v.natAbs : Int) := by omega
    rw [if_pos h]
    conv => rhs; rw [hv]
    exact .minus (unsigned_decimal _)
  · have hv : v = (v.natAbs : Int) := by omega
    rw [if_neg h]
    conv => rhs; rw [hv]
    exact .unsigned (unsigned_decimal _)

theorem signed_head (v : Int) : ∀ c, (signed v).head? = some c → isspace c = false := by
  intro c hc
  obtain ⟨hne, hall, -⟩ := decimal_digits v.natAbs
  unfold signed minus at hc
  split at hc
  · rw [show octets "-" = [45] by decide] at hc
    cases hc
    rfl
  · rw [List.nil_append] at hc
    exact isspace_of_digit (hall c (List.mem_of_head? hc))

theorem zero_notMem_signed (v : Int) : 0 ∉ signed v := by
  obtain ⟨-, hall, -⟩ := decimal_digits v.natAbs
  unfold signed minus
  intro hm
  rcases List.mem_append.1 hm with hm | hm
  · split at hm
    · exact absurd hm (by decide)
    · cases hm
  · exact absurd (hall 0 hm) (by decide)

/-- `strtoll` reads the number back. -/
theorem strtoll_signed {v : Int} (hv : -0x80000000 ≤ v) (hv' : v < 0x80000000) : strtoll (signed v) 0 = (v, []) := by
  unfold strtoll
  rw [(strtol_whole (signed_head v)).2 (literal_signed v)]
  refine Prod.ext ?_ rfl
  dsimp only [Option.getD_some]
  omega

/-! ## The value of a number -/

theorem settle_number {key : val_key_t} {s : List UInt8} {n : Int} (hk : key.handle = none) (hf : key.flag = false)
    (hc : key.can_str = false) (hs : strtoll s key.base = (n, [])) (h0 : 0 ∉ s) :
    key.settle s = if key.min ≤ n ∧ n ≤ key.max then .ok (n, s) else .error .error := by
  rw [settle_read hk h0]
  unfold val_key_t.read
  simp only [hf, hc, hs, Bool.false_eq_true, if_false, true_and]
  split
  · rfl
  · rfl

namespace SignedField

theorem caseEq_congr {s t : List UInt8} (h : caseEq s t = true) (n : List UInt8) : caseEq n t = caseEq n s := by
  unfold caseEq at h ⊢
  rw [of_decide_eq_true h]

/-- The key is found by its name in any case. -/
theorem index_caseEq {keys : Keys} {s t : List UInt8} (h : caseEq s t = true) : keys.index t = keys.index s := by
  unfold Keys.index
  simp only [caseEq_congr h]

theorem entry (f : SignedField) : ∃ i key, f.keys.start[i]? = some (f.key, key) ∧ f.keys.index (octets f.key) = some i ∧
    key.handle = none ∧ key.flag = false ∧ key.can_str = false ∧ key.base = 0 ∧ key.min = 0 ∧
    key.max = f.bound - 1 := by
  cases f
  case currentUtcOffset_NP => exact ⟨2, _, rfl, by decide, rfl, rfl, rfl, rfl, rfl, rfl⟩
  case jumpSeconds => exact ⟨1, _, rfl, by decide, rfl, rfl, rfl, rfl, rfl, rfl⟩
  all_goals exact ⟨0, _, rfl, by decide, rfl, rfl, rfl, rfl, rfl, rfl⟩

theorem tokenOnly (f : SignedField) : f.keys.TokenOnly := by
  cases f <;> simp [Keys.TokenOnly, keys, getTimeSource_tokenOnly]

theorem singleCanStr (f : SignedField) : f.keys.start.singleCanStr = false := by
  cases f <;> rfl

theorem names_nodup (f : SignedField) : (f.keys.map (·.1)).Nodup := by
  cases f <;> decide

theorem bound_le (f : SignedField) : f.bound ≤ 0x80000000 := by
  cases f <;> decide

/-- The structure is made of the numbers of the keys. -/
theorem call_data_keys (f : SignedField) {mem : BaseMngTlv} (hid : mem.id = f.id) (buf : Buf) (save : Nat) :
    ∃ g : Keys × Buf → BaseMngTlv, call_data mem buf save = g <$> parseKeysFunc f.keys buf save ∧
      ∀ r, f.get (g r) = some (f.made (r.1.num f.key)) := by
  cases f
  case logAnnounceInterval =>
    cases mem <;> cases hid
    simp only [call_data, build_LOG_ANNOUNCE_INTERVAL, bind_pure_comp, Functor.map_map]
    exact ⟨_, rfl, fun _ => rfl⟩
  case logSyncInterval =>
    cases mem <;> cases hid
    simp only [call_data, build_LOG_SYNC_INTERVAL, bind_pure_comp, Functor.map_map]
    refine ⟨_, rfl, fun r => ?_⟩
    change some (Int8.toInt (if r.1.num "logSyncInterval" > 0 then 1 else 0)) =
      some (if r.1.num "logSyncInterval" > 0 then 1 else 0)
    split
    · rfl
    · rfl
  case logMinPdelayReqInterval =>
    cases mem <;> cases hid
    simp only [call_data, build_LOG_MIN_PDELAY_REQ_INTERVAL, bind_pure_comp, Functor.map_map]
    exact ⟨_, rfl, fun _ => rfl⟩
  case logAlternateMulticastSyncInterval =>
    cases mem <;> cases hid
    simp only [call_data, build_ALTERNATE_MASTER, bind_pure_comp, Functor.map_map]
    exact ⟨_, rfl, fun _ => rfl⟩
  case currentUtcOffset =>
    cases mem <;> cases hid
    simp only [call_data, build_UTC_PROPERTIES, bind_pure_comp, Functor.map_map]
    exact ⟨_, rfl, fun _ => rfl⟩
  case currentUtcOffset_NP =>
    cases mem <;> cases hid
    simp only [call_data, build_GRANDMASTER_SETTINGS_NP, bind_pure_comp, Functor.map_map]
    exact ⟨_, rfl, fun _ => rfl⟩
  case currentOffset =>
    cases mem <;> cases hid
    simp only [call_data, build_ALTERNATE_TIME_OFFSET_PROPERTIES, bind_pure_comp, Functor.map_map]
    exact ⟨_, rfl, fun _ => rfl⟩
  case jumpSeconds =>
    cases mem <;> cases hid
    simp only [call_data, build_ALTERNATE_TIME_OFFSET_PROPERTIES, bind_pure_comp, Functor.map_map]
    exact ⟨_, rfl, fun _ => rfl⟩
  case asCapable =>
    cases mem <;> cases hid
    simp only [call_data, build_PORT_DATA_SET_NP, bind_pure_comp, Functor.map_map]
    exact ⟨_, rfl, fun _ => rfl⟩

/-- A number that the key takes arrives in the field, except in the one that is set to 0 or 1. -/
theorem made_iff (f : SignedField) {v : Int} (h0 : 0 ≤ v) (hv : v < f.bound) :
    f.made v = v ↔ (f = .logSyncInterval → v ≤ 1) := by
  cases f
  case logSyncInterval =>
    unfold made
    dsimp only
    constructor
    · intro h _
      split at h <;> omega
    · intro h
      have := h rfl
      split <;> omega
  case currentUtcOffset | currentUtcOffset_NP =>
    exact ⟨fun _ h => (nomatch h), fun _ => Int16.toInt_ofInt_of_le (by omega) hv⟩
  case currentOffset | jumpSeconds | asCapable =>
    exact ⟨fun _ h => (nomatch h), fun _ => Int32.toInt_ofInt_of_le (by omega) hv⟩
  all_goals exact ⟨fun _ h => (nomatch h), fun _ => Int8.toInt_ofInt_of_le (by omega) hv⟩

end SignedField

theorem lookup_of_nodup {l : Keys} {n : String} {key : val_key_t} (hn : (l.map (·.1)).Nodup) (h : (n, key) ∈ l) :
    l.lookup n = some key := by
  obtain ⟨l₁, l₂, rfl⟩ := List.append_of_mem h
  refine List.lookup_eq_some_iff.2 ⟨l₁, l₂, rfl, fun k hk => ?_⟩
  rw [List.map_append, List.map_cons] at hn
  have hne : n ≠ k.1 := fun he =>
    (List.nodup_append.1 hn).2.2 k.1 (List.mem_map_of_mem hk) n List.mem_cons_self he.symm
  simpa using hne

section Field
variable {f : SignedField} {v : Int} {line : Line}

/-- Of the pairs, only one is about the field. -/
theorem SignedField.SetBy.unique (h : f.SetBy v line) {p q : Pair} (hp : p ∈ line.pairs) (hq : q ∈ line.pairs)
    (hcp : caseEq (octets f.key) p.name.string = true) (hcq : caseEq (octets f.key) q.name.string = true) : p = q := by
  have hi : f.keys.index p.name.string = f.keys.index q.name.string :=
    (SignedField.index_caseEq hcp).trans (SignedField.index_caseEq hcq).symm
  exact List.inj_on_of_nodup_map (List.pairwise_map.2 h.distinct) hp hq hi

/-- The value of the field, and whether its key takes it. -/
theorem SignedField.SetBy.settle (hv : -f.bound ≤ v) (hv' : v < f.bound) {p : Pair} {i : Nat} {k : String × val_key_t}
    (hc : caseEq (octets f.key) p.name.string = true) (hs : p.value.string = signed v) (hn : p.Names f.keys.start i k) :
    k.1 = f.key ∧ k.2.settle p.value.string = if 0 ≤ v then .ok (v, signed v) else .error .error := by
  obtain ⟨j, key, hget, hindex, hhandle, hflag, hcan, hbase, hmin, hmax⟩ := f.entry
  obtain ⟨hi, hk, -⟩ := hn
  rw [start_index, SignedField.index_caseEq hc, hindex] at hi
  cases hi
  rw [hget] at hk
  cases hk
  have hb := f.bound_le
  refine ⟨rfl, ?_⟩
  rw [hs, settle_number hhandle hflag hcan (by rw [hbase]; exact strtoll_signed (by omega) (by omega))
    (zero_notMem_signed v), hmin, hmax]
  by_cases h0 : 0 ≤ v
  · rw [if_pos ⟨h0, by omega⟩, if_pos h0]
  · rw [if_neg fun h => h0 h.1, if_neg h0]

/-- The keys end with the value of the field, or the command is refused. -/
theorem SignedField.SetBy.parse (h : f.SetBy v line) (hv : -f.bound ≤ v) (hv' : v < f.bound) (front r : List UInt8) :
    if 0 ≤ v then ∃ keys' buf, parseKeysFunc f.keys (front ++ (line.octets ++ 0 :: r)) front.length = .ok (keys', buf) ∧
      keys'.num f.key = v
    else parseKeysFunc f.keys (front ++ (line.octets ++ 0 :: r)) front.length = .error .error := by
  obtain ⟨p, hp, hc, hs⟩ := h.field
  obtain ⟨i, k, hn⟩ := h.named p hp
  obtain ⟨hkey, hset⟩ := settle hv hv' hc hs hn
  rcases parseKeysFunc_pairs f.singleCanStr f.tokenOnly line h.named h.distinct front r with
    ⟨hparse, q, hq, j, k', hn', hbad⟩ | ⟨keys', buf, hsettled, hparse⟩
  · -- only the field's own value is refused
    have hcq : caseEq (octets f.key) q.name.string = true := by
      by_contra hcq
      obtain ⟨out, hok⟩ := h.others q hq (by simpa using hcq) j k' hn'
      rw [hbad] at hok
      cases hok
    obtain rfl := h.unique hp hq hc hcq
    obtain rfl : i = j := Option.some.inj (hn.1.symm.trans hn'.1)
    obtain rfl : k = k' := Option.some.inj (hn.2.1.symm.trans hn'.2.1)
    have h0 : ¬ 0 ≤ v := fun h0 => by
      rw [hset, if_pos h0] at hbad
      cases hbad
    rw [if_neg h0]
    exact hparse
  · obtain ⟨key', s, hget, hout, -, -⟩ := hsettled.pair p hp i k hn
    rw [hset] at hout
    have h0 : 0 ≤ v := by
      by_contra h0
      rw [if_neg h0] at hout
      cases hout
    rw [if_pos h0] at hout ⊢
    have hreq := (hsettled.complete_iff h.named).2 h.complete
    rw [hparse, if_neg (by rw [hreq]; decide)]
    refine ⟨keys', buf, rfl, ?_⟩
    have hnodup : (keys'.map (·.1)).Nodup := by
      rw [hsettled.names, start_names]
      exact f.names_nodup
    have hlookup := lookup_of_nodup hnodup (List.mem_of_getElem? hget)
    unfold Keys.num Keys.get
    rw [← hkey, hlookup]
    exact (Prod.mk.inj (Except.ok.inj hout)).1.symm

/-- Each line that sets a signed field: it is accepted with just the values that are not
negative, and the field gets the value except where it gets 1 for more. -/
theorem signed_field_iff {mem : BaseMngTlv} (hid : mem.id = f.id) (h : f.SetBy v line) (hv : -f.bound ≤ v)
    (hv' : v < f.bound) (front r : List UInt8) :
    (∃ d, call_data mem (front ++ (line.octets ++ 0 :: r)) front.length = .ok d ∧ f.get d = some v) ↔
      0 ≤ v ∧ (f = .logSyncInterval → v ≤ 1) := by
  have hparse := h.parse hv hv' front r
  obtain ⟨g, hg, hget⟩ := f.call_data_keys hid (front ++ (line.octets ++ 0 :: r)) front.length
  rw [hg]
  by_cases h0 : 0 ≤ v
  · rw [if_pos h0] at hparse
    obtain ⟨keys', buf, hok, hnum⟩ := hparse
    rw [hok, ← f.made_iff h0 hv']
    constructor
    · rintro ⟨d, hd, hfield⟩
      cases hd
      rw [hget, hnum] at hfield
      exact ⟨h0, Option.some.inj hfield⟩
    · rintro ⟨-, hmade⟩
      refine ⟨g (keys', buf), rfl, ?_⟩
      rw [hget, hnum, hmade]
  · rw [if_neg h0] at hparse
    rw [hparse]
    constructor
    · rintro ⟨d, hd, -⟩
      cases hd
    · rintro ⟨h, -⟩
      exact absurd h h0

end Field

section Offset

def offsetPair : Pair :=
  ⟨.ofString "currentOffset" (by decide) (by decide), .ofToken (.ofString "37" (by decide) (by decide)) (by decide)⟩

def keyFieldPair : Pair :=
  ⟨.ofString "keyField" (by decide) (by decide), .ofToken (.ofString "2" (by decide) (by decide)) (by decide)⟩

def offsetLine : Line where
  lead := blank
  ws := [⟨keyFieldPair, blank, blank, blank_ne⟩, ⟨offsetPair, blank, .ofString "\n" (by decide), blank_ne⟩]
  separated := ⟨fun _ => by decide, fun h => absurd rfl h, trivial⟩

theorem offsetLine_setBy : SignedField.currentOffset.SetBy 37 offsetLine where
  named := by
    intro p hp
    rcases List.mem_cons.1 hp with rfl | hp
    · exact ⟨2, _, by decide, rfl, fun h => absurd h (by decide)⟩
    · obtain rfl := List.mem_singleton.1 hp
      exact ⟨0, _, by decide, rfl, fun h => absurd h (by decide)⟩
  distinct := by decide
  field := ⟨offsetPair, List.mem_cons_of_mem _ List.mem_cons_self, by decide, by decide⟩
  others := by
    intro p hp hc i k hn
    rcases List.mem_cons.1 hp with rfl | hp
    · obtain rfl : i = 2 := Option.some.inj (hn.1.symm.trans (by decide))
      obtain rfl := Option.some.inj (hn.2.1.symm.trans rfl)
      exact ⟨(2, octets "2"), rfl⟩
    · obtain rfl := List.mem_singleton.1 hp
      exact absurd hc (by decide)
  complete := by
    intro i k hk hreq
    have hmem := List.mem_of_getElem? hk
    simp only [SignedField.keys, List.mem_cons, List.not_mem_nil, or_false] at hmem
    rcases hmem with rfl | rfl | rfl | rfl <;> cases hreq

theorem offset_accepted : ∃ d, call_data (.ALTERNATE_TIME_OFFSET_PROPERTIES default)
    (offsetLine.octets ++ [0]) 0 = .ok d ∧
    SignedField.currentOffset.get d = some 37 :=
  (signed_field_iff (f := .currentOffset) rfl offsetLine_setBy (by decide) (by decide) [] []).2
    ⟨by decide, fun h => nomatch h⟩

/-- An announce interval of an eighth of a second. -/
theorem negative_refused : ¬ ∃ d,
    call_data (.LOG_ANNOUNCE_INTERVAL default) (octets " logAnnounceInterval -3" ++ [0]) 0 = .ok d ∧
    SignedField.logAnnounceInterval.get d = some (-3) := by
  rintro ⟨d, hd, -⟩
  have hbad : call_data (.LOG_ANNOUNCE_INTERVAL default) (octets " logAnnounceInterval -3" ++ [0]) 0 =
      .error .error := rfl
  rw [hbad] at hd
  cases hd

end Offset

end LibPmc
