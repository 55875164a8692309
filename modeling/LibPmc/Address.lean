import LibPmc.Bin
import LibPmc.Sock
/-!
# Addresses in texts

`toIp` and `fromIp` of `bin.cpp` over the two functions of libc, and what the parsers leave
in the object where they refuse a text.
-/
namespace LibPmc

open Cstr

/-- The functions of libc between addresses and texts. `inet_pton` gives the octets where it
returns 1. -/
structure Inet where
  inet_ntop : Domain → List UInt8 → Option (List UInt8)
  inet_pton : Domain → List UInt8 → Option (List UInt8)

namespace Binary

def toIp (libc : Inet) (b : Binary) : List UInt8 :=
  let ret :=
    if b.length = 4 then libc.inet_ntop .AF_INET b
    else if b.length = 16 then libc.inet_ntop .AF_INET6 b
    else none
  (ret.map cstr).getD []

/-- The `switch` over the domain. -/
def ipLen : Domain → Option Nat
  | .AF_INET => some 4
  | .AF_INET6 => some 16
  | _ => none

/-- `fromIp` with a domain. -/
def fromIpIn (libc : Inet) (m_str : Binary) (string : List UInt8) (domain : Domain) : Bool × Binary :=
  if string.length < 2 then (false, m_str)
  else
    match ipLen domain with
    | none => (false, m_str)
    | some len =>
      match libc.inet_pton domain (cstr string) with
      | none => (false, m_str)
      | some buf => (true, buf.take len)

def fromIp (libc : Inet) (m_str : Binary) (string : List UInt8) : Bool × Binary :=
  if string.length < 2 then (false, m_str)
  else if 46 ∈ string then m_str.fromIpIn libc string .AF_INET
  else if 58 ∈ string then m_str.fromIpIn libc string .AF_INET6
  else (false, m_str)

end Binary

/-! ## The text of an IP address -/

/-- `inet_pton` undoes `inet_ntop` on an address. No text is shorter than `::`. -/
structure Inet.Undoes (libc : Inet) (domain : Domain) (b text : List UInt8) : Prop where
  ntop : libc.inet_ntop domain b = some text
  pton : libc.inet_pton domain text = some b
  string : 0 ∉ text
  long : 2 ≤ text.length

/-- An IPv6 address whose text ends in an IPv4 address: an IPv4-mapped one, or an
IPv4-compatible one, where the IPv4 address starts with more than two zeros. -/
def HasV4Tail (b : List UInt8) : Prop :=
  b.take 10 = List.replicate 10 0 ∧
    ((b.drop 10).take 2 = [0xff, 0xff] ∨ (b.drop 10).take 2 = [0, 0] ∧ (b.drop 12).take 2 ≠ [0, 0])

instance (b : List UInt8) : Decidable (HasV4Tail b) := inferInstanceAs (Decidable (_ ∧ _))

/-- What is documented of the text of an address: `inet_pton` undoes it, the one of an IPv4
address has a dot, the one of an IPv6 address has a colon, and a dot where it ends in an
IPv4 address. -/
structure Inet.Documented (libc : Inet) (b : List UInt8) : Prop where
  inet : b.length = 4 → ∃ text, libc.Undoes .AF_INET b text ∧ 46 ∈ text
  inet6 : b.length = 16 → ∃ text, libc.Undoes .AF_INET6 b text ∧ 58 ∈ text ∧ (46 ∈ text ↔ HasV4Tail b)

section Ip
variable {libc : Inet} {m_str : Binary} {b text : List UInt8}

theorem toIp_four (h : libc.Undoes .AF_INET b text) (hlen : b.length = 4) : Binary.toIp libc b = text := by
  rw [Binary.toIp, if_pos hlen, h.ntop]
  exact cstr_of_notMem h.string

theorem toIp_sixteen (h : libc.Undoes .AF_INET6 b text) (hlen : b.length = 16) : Binary.toIp libc b = text := by
  rw [Binary.toIp, if_neg (by omega), if_pos hlen, h.ntop]
  exact cstr_of_notMem h.string

/-- The text is read back by the function of its own family. -/
theorem fromIpIn_undoes {domain : Domain} (h : libc.Undoes domain b text) (hlen : Binary.ipLen domain = some b.length) :
    Binary.fromIpIn libc m_str text domain = (true, b) := by
  rw [Binary.fromIpIn, if_neg (Nat.not_lt.2 h.long), cstr_of_notMem h.string, h.pton, hlen]
  exact congrArg (Prod.mk true) (List.take_length (l := b))

/-- The other family gives four octets at most. -/
theorem fromIpIn_inet_ne (hlen : b.length = 16) : Binary.fromIpIn libc m_str text .AF_INET ≠ (true, b) := by
  unfold Binary.fromIpIn
  split
  · simp
  · dsimp only [Binary.ipLen]
    rcases libc.inet_pton .AF_INET (cstr text) with _ | buf
    · simp
    · intro h
      have hb : buf.take 4 = b := (Prod.mk.inj h).2
      have hle := List.length_take_le 4 buf
      rw [hb] at hle
      omega

end Ip

/-- An address is read back from its text, if and only if that does not end in an IPv4
address behind a colon. -/
theorem ip_read_back_iff (libc : Inet) (m_str b : Binary) (hlen : b.length = 4 ∨ b.length = 16)
    (h : libc.Documented b) :
    m_str.fromIp libc (b.toIp libc) = (true, b) ↔ ¬ (b.length = 16 ∧ HasV4Tail b) := by
  rcases hlen with hlen | hlen
  · obtain ⟨text, hu, hdot⟩ := h.inet hlen
    refine iff_of_true ?_ (by omega)
    rw [toIp_four hu hlen, Binary.fromIp, if_neg (Nat.not_lt.2 hu.long), if_pos hdot]
    exact fromIpIn_undoes hu (congrArg some hlen.symm)
  · obtain ⟨text, hu, hcolon, hdot⟩ := h.inet6 hlen
    rw [toIp_sixteen hu hlen, Binary.fromIp, if_neg (Nat.not_lt.2 hu.long)]
    by_cases ht : HasV4Tail b
    · rw [if_pos (hdot.2 ht)]
      exact iff_of_false (fromIpIn_inet_ne hlen) (fun hn => hn ⟨hlen, ht⟩)
    · rw [if_neg (mt hdot.1 ht), if_pos hcolon]
      exact iff_of_true (fromIpIn_undoes hu (congrArg some hlen.symm)) (fun hn => ht hn.2)

def documentationAddress : Binary := [0x20, 0x01, 0x0d, 0xb8, 0, 0, 0, 0, 0, 0, 0, 0, 0, 0, 0, 1]

def mappedAddress : Binary := [0, 0, 0, 0, 0, 0, 0, 0, 0, 0, 0xff, 0xff, 1, 2, 3, 4]

/-- The functions of libc on two addresses and their texts. -/
def twoAddresses : Inet where
  inet_ntop domain b :=
    if domain = .AF_INET6 ∧ b = documentationAddress then some (octets "2001:db8::1")
    else if domain = .AF_INET6 ∧ b = mappedAddress then some (octets "::ffff:1.2.3.4")
    else none
  inet_pton domain text :=
    if domain = .AF_INET6 ∧ text = octets "2001:db8::1" then some documentationAddress
    else if domain = .AF_INET6 ∧ text = octets "::ffff:1.2.3.4" then some mappedAddress
    else none

theorem ip_read_back_documentation :
    Binary.fromIp twoAddresses [] (Binary.toIp twoAddresses documentationAddress) = (true, documentationAddress) := by
  have hd : twoAddresses.Documented documentationAddress := by
    refine ⟨fun h => absurd h (by decide),
      fun _ => ⟨octets "2001:db8::1", ⟨rfl, rfl, by decide, by decide⟩, by decide, ?_⟩⟩
    exact iff_of_false (by decide) (by decide)
  exact (ip_read_back_iff twoAddresses [] documentationAddress (.inr rfl) hd).2 (by decide)

/-- `::ffff:1.2.3.4` is asked for as an IPv4 address. -/
theorem mapped_address_refused :
    twoAddresses.Documented mappedAddress ∧
      Binary.fromIp twoAddresses [] (Binary.toIp twoAddresses mappedAddress) = (false, []) := by
  constructor
  · refine ⟨fun h => absurd h (by decide),
      fun _ => ⟨octets "::ffff:1.2.3.4", ⟨?_, ?_, by decide, by decide⟩, by decide, ?_⟩⟩
    · rfl
    · rfl
    · exact iff_of_true (by decide) (by decide)
  · decide

/-! ## A refused text -/

/-- A text of octets that are neither 6 nor 8, and not the ones in the object. -/
structure NoMac (b : Binary) (string : List UInt8) : Prop where
  long : 2 ≤ string.length
  octets : ∀ t ∈ tokens idsep (cstr string), idOctet t ≠ none
  count : (tokens idsep (cstr string)).length ≠ 6 ∧ (tokens idsep (cstr string)).length ≠ 8
  other : (tokens idsep (cstr string)).map idOctet ≠ b.map some

theorem fromId_eq_some {string id : List UInt8} :
    fromId string = some id ↔ 2 ≤ string.length ∧ (tokens idsep (cstr string)).map idOctet = id.map some := by
  unfold fromId
  split
  · simp
    omega
  · rw [Binary.mapM_eq_some]
    exact (and_iff_right (by omega)).symm

theorem settle_false {m_str r : Binary} {id : Option (List UInt8)} (h : m_str.settle id = (false, r)) : r = m_str := by
  cases id with
  | none => exact (Prod.mk.inj h).2.symm
  | some id => cases (Prod.mk.inj h).1

theorem fromIpIn_false {libc : Inet} {m_str r : Binary} {string : List UInt8} {domain : Domain}
    (h : m_str.fromIpIn libc string domain = (false, r)) : r = m_str := by
  unfold Binary.fromIpIn at h
  split at h
  · exact (Prod.mk.inj h).2.symm
  · split at h
    · exact (Prod.mk.inj h).2.symm
    · split at h
      · exact (Prod.mk.inj h).2.symm
      · cases (Prod.mk.inj h).1

theorem fromIp_false {libc : Inet} {m_str r : Binary} {string : List UInt8}
    (h : m_str.fromIp libc string = (false, r)) :
    r = m_str := by
  unfold Binary.fromIp at h
  split at h
  · exact (Prod.mk.inj h).2.symm
  · split at h
    · exact fromIpIn_false h
    · split at h
      · exact fromIpIn_false h
      · exact (Prod.mk.inj h).2.symm

/-- `fromMac` keeps the octets, but for a text of others that are not a MAC address. -/
theorem fromMac_false_iff (m_str : Binary) (string : List UInt8) :
    (∀ r, m_str.fromMac string = some (false, r) → r = m_str) ↔ ¬ NoMac m_str string := by
  rw [Binary.fromMac_eq]
  unfold fromMac
  rcases hid : fromId string with _ | id
  · refine iff_of_true (fun r h => (Prod.mk.inj (Option.some.inj h)).2.symm) (fun hn => ?_)
    obtain ⟨id, hmap⟩ := Binary.exists_map_eq_some.2 hn.octets
    rw [fromId_eq_some.2 ⟨hn.long, hmap⟩] at hid
    cases hid
  · obtain ⟨hlong, hmap⟩ := fromId_eq_some.1 hid
    have hlen : (tokens idsep (cstr string)).length = id.length := by
      simpa using congrArg List.length hmap
    have hmac : isMacLen id = false ↔ id.length ≠ 6 ∧ id.length ≠ 8 := by simp [isMacLen]
    constructor
    · intro h hn
      have hf : isMacLen id = false := hmac.2 (hlen ▸ hn.count)
      have he := h id (congrArg (fun ok => some (ok, id)) hf)
      exact hn.other (by rw [hmap, he])
    · intro hn r h
      obtain ⟨hf, rfl⟩ := Prod.mk.inj (Option.some.inj h)
      by_contra hne
      refine hn ⟨hlong, Binary.exists_map_eq_some.1 ⟨id, hmap⟩, by rw [hlen]; exact hmac.1 hf, fun he => hne ?_⟩
      rw [hmap] at he
      exact List.map_injective_iff.2 (Option.some_injective _) he

/-- The parsers that write the object last keep it where they refuse a text. `fromMac`
refuses behind `fromId`. -/
theorem refused_text_kept_iff (libc : Inet) (b : Binary) (s : List UInt8) :
    ((∀ r, b.fromIp libc s = (false, r) → r = b) ∧
        (∀ domain r, b.fromIpIn libc s domain = (false, r) → r = b) ∧
        (∀ r, b.fromId s = some (false, r) → r = b) ∧
        (∀ r, b.fromHex s = some (false, r) → r = b)) ∧
      ((∀ r, b.fromMac s = some (false, r) → r = b) ↔ ¬ NoMac b s) := by
  refine ⟨⟨fun r => fromIp_false, fun domain r => fromIpIn_false, fun r h => ?_, fun r h => ?_⟩, fromMac_false_iff b s⟩
  · rw [Binary.fromId_eq] at h
    exact settle_false (Option.some.inj h)
  · rw [Binary.fromHex_eq] at h
    exact settle_false (Option.some.inj h)

/-- Three octets take the place of a MAC address. -/
theorem refused_mac_taken :
    Binary.fromMac [0x01, 0x1b, 0x19, 0, 0, 0] (octets "aa:bb:cc") = some (false, [0xaa, 0xbb, 0xcc]) := by
  decide

end LibPmc
