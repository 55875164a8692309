import LibPmc.Machine.Calls
import LibPmc.Numbered
import LibPmc.Transport
/-!
# The tool on its socket

The lines and the datagrams of the tool with the calls that they make: `sendAction` and `rcv` of
`pmc.cpp` on `sk`. On a network each run on a socket is a run of the tool: `runOn_refines`.
-/
namespace LibPmc

open Cstr Os Os.Sys Wire Pmc

/-! ## The socket -/

/-- What `sk` points to. -/
inductive Sk where
  | unix (s : SockUnix)
  | ip (s : SockIp)
  | raw (s : SockRaw)

namespace Sk

def send : Sk → List UInt8 → OS Bool
  | unix s, msg => s.sendBase msg
  | ip s, msg => s.sendBase msg
  | raw s, msg => s.sendBase msg

/-- It blocks. -/
def rcv : Sk → Mem → Nat → OS (Int × Mem)
  | unix s, buf, bufSize => s.rcvBase buf bufSize true
  | ip s, buf, bufSize => s.rcvBase buf bufSize true
  | raw s, buf, bufSize => s.rcvBase buf bufSize true

def isUnix : Sk → Bool
  | unix _ => true
  | _ => false

end Sk

abbrev Run := Partial SysCall SysCall.Res

namespace Pmc

/-! ## The tool with its calls -/

def sendActionOn (sk : Sk) (s : Pmc) : Run (Bool × Pmc × List Out) := do
  let b ← checked (s.msg.build s.buf bufSize (UInt16.ofNat s.seq))
  let s := { s with msg := b.msg, buf := b.mem }
  if b.err ≠ .OK then return (false, s, [.stdout (octets "build error " ++ octets (err2str_c b.err) ++ octets "\n")])
  else
    let sent ← OptionT.lift (sk.send (b.mem.slice 0 b.msg.msgLen))
    if ¬ sent then return (false, s, [])
    else return (true, { s with seq := s.seq + 1 }, [.datagram (b.mem.slice 0 b.msg.msgLen)])

def commandOn (sk : Sk) (s : Pmc) (action : ActionField) (id : MngVals) (heap : Heap) (line : Buf) (save : Nat) :
    Run (Bool × Pmc × List Out) := do
  let (ok, msg) ← checked (setCommand s.msg action id heap line save)
  if ¬ ok then return (false, { s with msg }, [])
  else
    let (ok, s, out) ← { s with msg }.sendActionOn sk
    if ¬ ok then return (false, s, out)
    else return (true, s, out ++ [.stdout (octets "sending: " ++ octets (act2str_c s.msg.sendAction) ++ octets " " ++
      octets (mng2str_c id) ++ octets "\n")])

def run_lineOn (sk : Sk) (s : Pmc) (heap : Heap) (line : Buf) : Run (Bool × Pmc × List Out) := do
  let (cur, line, save) ← checked (strtok_r toksep line 0)
  match cur with
  | none => return (false, s, [])
  | some cur =>
    let cur ← checked (line.str cur)
    match action? cur with
    | some action =>
      let (cur, line, save) ← checked (strtok_r toksep line save)
      match cur with
      | none => return (false, s, [])
      | some cur =>
        let (found, id, str) := findId .NULL_PTP_MANAGEMENT (← checked (line.str cur))
        if ¬ found then return (false, s, [])
        else s.commandOn sk action id heap (line.put cur str) save
    | none =>
      if ¬ caseEq cur (octets "target") then return (false, s, [])
      else
        let (cur, line, _) ← checked (strtok_r toksep line save)
        match cur with
        | none => return (false, s, [])
        | some cur =>
          let (s, out) ← checked (s.target (← checked (line.str cur)))
          return (false, s, out)

def rcvOn (libc : Inet) (sk : Sk) (s : Pmc) : Run (Int × Pmc × List Out) := do
  let (cnt, buf) ← OptionT.lift (sk.rcv s.buf bufSize)
  if cnt < 0 then return (-1, { s with buf }, []) else checked (s.afterRcv libc cnt buf)

/-- What `poll` reports. -/
inductive Ready where
  | line (heap : Heap) (line : Buf)
  | socket

def stepOn (libc : Inet) (sk : Sk) (s : Pmc) : Ready → Run (Pmc × List Out)
  | .line heap line => do
    let (_, s, out) ← s.run_lineOn sk heap line
    return (s, out)
  | .socket => do
    let (_, s, out) ← s.rcvOn libc sk
    return (s, out)

/-- The loop on a network, with what it does each time. -/
def runOn (libc : Inet) (sk : Sk) (s : Pmc) (es : List Ready) : Run (Pmc × List (List Out)) :=
  Machine.runOn (stepOn libc sk) s es

end Pmc

/-! ## What goes out -/

/-- The datagram of a send that has sent all of it. -/
def SysEvent.datagram? : SysEvent → Option (List UInt8)
  | ⟨.sendto _ msg _, r⟩ => if sendReply r msg.length then some msg else none
  | ⟨.sendmsg _ [_, msg] _, r⟩ => if sendReply r (msg.length + ethhdrSize) then some msg else none
  | _ => none

/-- The datagrams of these calls. -/
def wire (es : List SysEvent) : List (List UInt8) := es.filterMap SysEvent.datagram?

theorem wire_append (es es' : List SysEvent) : wire (es ++ es') = wire es ++ wire es' := List.filterMap_append

/-- A send that is one call, or none. -/
theorem wire_sent {c : SysCall} {f : c.Res → Bool} {l : List UInt8} {refused : Prop} [Decidable refused]
    {es : List SysEvent}
    {ok : Bool} (hc : ∀ r, SysEvent.datagram? ⟨c, r⟩ = if f r then some l else none)
    (h : Ends (if refused then pure false else sys c >>= fun r => pure (f r)) es ok) :
    wire es = if ok then [l] else [] := by
  split at h
  · obtain ⟨rfl, rfl⟩ := ends_pure.1 h
    rfl
  · obtain ⟨r, hs, rfl⟩ := ends_bind_pure.1 h
    rw [ends_sys.1 hs]
    have hr := hc r
    cases hf : f r <;> rw [hf] at hr <;> simp [wire, hr]

theorem Sk.send_wire {sk : Sk} {l : List UInt8} {es : List SysEvent} {ok : Bool} (h : Ends (sk.send l) es ok) :
    wire es = if ok then [l] else [] := by
  cases sk with
  | unix s => exact wire_sent (fun _ => rfl) h
  | ip s => exact wire_sent (fun _ => rfl) h
  | raw s => exact wire_sent (fun _ => rfl) h

/-! ## A line -/

/-- A line sends nothing, or it tries to send the next request. -/
inductive Attempt (sk : Sk) (s : Pmc) : List SysEvent → Bool × Pmc × List Out → Prop
  | none {t : Pmc} {out : List Out} (ho : datagrams out = []) : Attempt sk s [] (false, t, out)
  | send {t : Pmc} {out : List Out} {es : List SysEvent} {ok : Bool} (q : Request) (hq : q.prms = s.msg.prms)
      (h : Ends (sk.send (q.datagram (UInt16.ofNat s.seq))) es ok)
      (ho : datagrams out = if ok then [q.datagram (UInt16.ofNat s.seq)] else []) : Attempt sk s es (ok, t, out)

theorem Attempt.wire {sk : Sk} {s : Pmc} {es : List SysEvent} {r : Bool × Pmc × List Out} (h : Attempt sk s es r) :
    wire es = datagrams r.2.2 := by
  cases h with
  | none ho => exact ho.symm
  | send q _ h ho => exact (Sk.send_wire h).trans ho.symm

/-- The program ends with what the function gives for one of the two answers of the socket. -/
def Told {α : Type} (Q : List SysEvent → α → Prop) (p : Run α) (f : Bool → Option α) : Prop :=
  ∀ es r, Ends p.run es (some r) → Q es r ∧ ∃ sends, f sends = some r

theorem told_bind {α β : Type} {Q : List SysEvent → β → Prop} {x : Option α} {p : α → Run β} {f : Bool → α → Option β}
    (h : ∀ a, Told Q (p a) fun sends => f sends a) : Told Q (checked x >>= p) fun sends => x >>= f sends := by
  intro es r hr
  obtain ⟨a, ha, hr⟩ := ends_checked_bind.1 hr
  obtain ⟨hq, sends, hf⟩ := h a es r hr
  exact ⟨hq, sends, Option.bind_eq_some_iff.2 ⟨a, ha, hf⟩⟩

section Line
variable {sk : Sk} {s : Pmc}

theorem told_quiet {t : Pmc} {out : List Out} (ho : datagrams out = []) :
    Told (Attempt sk s) (pure (false, t, out)) fun _ => some (false, t, out) := by
  intro es r hr
  obtain ⟨rfl, rfl⟩ := ends_partial_pure.1 hr
  exact ⟨.none ho, true, rfl⟩

theorem told_sendAction (ha : (mngAllVals s.msg.tlvId).allowed &&& s.msg.sendAction.bit ≠ 0) :
    Told (Attempt sk s) (s.sendActionOn sk) s.sendAction := by
  intro es r h
  obtain ⟨b, hb, h⟩ := ends_checked_bind.1 h
  dsimp only at h
  split at h
  · rename_i he
    obtain ⟨rfl, rfl⟩ := ends_partial_pure.1 h
    exact ⟨.none rfl, true, Option.bind_eq_some_iff.2 ⟨b, hb, if_pos he⟩⟩
  · rename_i he
    obtain ⟨q, hq, -, -, ho⟩ := built_request hb (not_not.1 he) le_rfl ha
    obtain ⟨sent, es₁, es₂, rfl, h₁, h₂⟩ := ends_partial_bind.1 h
    have hs : Ends (sk.send (q.datagram (UInt16.ofNat s.seq))) es₁ sent := by
      rw [← ho]
      exact ends_lift.1 h₁
    cases sent with
    | false =>
      obtain ⟨rfl, rfl⟩ := ends_partial_pure.1 h₂
      rw [List.append_nil]
      exact ⟨.send q hq hs rfl, false, Option.bind_eq_some_iff.2 ⟨b, hb, if_neg he⟩⟩
    | true =>
      obtain ⟨rfl, rfl⟩ := ends_partial_pure.1 h₂
      rw [List.append_nil]
      refine ⟨.send q hq hs ?_, true, Option.bind_eq_some_iff.2 ⟨b, hb, if_neg he⟩⟩
      rw [ho]
      rfl

theorem told_command (action : ActionField) (id : MngVals) (heap : Heap) (line : Buf) (save : Nat) :
    Told (Attempt sk s) (s.commandOn sk action id heap line save) fun sends =>
      s.command action id heap sends line save := by
  intro es r h
  obtain ⟨⟨ok, m⟩, hset, h⟩ := ends_checked_bind.1 h
  obtain ⟨⟨hp, -⟩, hok⟩ := setCommand_set hset
  cases ok with
  | false =>
    obtain ⟨hq, sends, hf⟩ := told_quiet rfl es r h
    exact ⟨hq, sends, Option.bind_eq_some_iff.2 ⟨_, hset, hf⟩⟩
  | true =>
    obtain ⟨hact, hid, hallow⟩ := hok rfl
    obtain ⟨⟨sent, t, out⟩, es₁, es₂, rfl, h₁, h₂⟩ := ends_partial_bind.1 h
    have hallow' : (mngAllVals m.tlvId).allowed &&& m.sendAction.bit ≠ 0 := by rw [hact, hid]; exact hallow
    obtain ⟨ha, sends, hs⟩ := told_sendAction hallow' _ _ h₁
    have command {r : Bool × Pmc × List Out} (hr : (if ¬ sent then some (false, t, out) else
        some (true, t, out ++ [.stdout (octets "sending: " ++ octets (act2str_c t.msg.sendAction) ++ octets " " ++
          octets (mng2str_c id) ++ octets "\n")])) = some r) : s.command action id heap sends line save = some r :=
      Option.bind_eq_some_iff.2 ⟨_, hset, Option.bind_eq_some_iff.2 ⟨_, hs, hr⟩⟩
    cases sent with
    | false =>
      obtain ⟨rfl, rfl⟩ := ends_partial_pure.1 h₂
      rw [List.append_nil]
      refine ⟨?_, sends, command rfl⟩
      cases ha with
      | none ho => exact .none ho
      | send q hq h ho => exact .send q (hq.trans hp) h ho
    | true =>
      obtain ⟨rfl, rfl⟩ := ends_partial_pure.1 h₂
      rw [List.append_nil]
      refine ⟨?_, sends, command rfl⟩
      cases ha with
      | send q hq h ho =>
        refine .send q (hq.trans hp) h ?_
        rw [← ho]
        exact List.filterMap_append.trans (List.append_nil _)

/-- A line on a socket is the line of the tool that is told whether the socket has sent it. -/
theorem told_line (heap : Heap) (line : Buf) :
    Told (Attempt sk s) (s.run_lineOn sk heap line) fun sends => s.run_line heap sends line := by
  have stop : Told (Attempt sk s) (pure (false, s, [])) fun _ => some (false, s, []) := told_quiet rfl
  unfold Pmc.run_lineOn Pmc.run_line
  refine told_bind fun ⟨cur, line, save⟩ => ?_
  cases cur with
  | none => exact stop
  | some cur =>
    refine told_bind fun cur => ?_
    dsimp only
    cases action? cur with
    | some action =>
      refine told_bind fun ⟨cur, line, save⟩ => ?_
      cases cur with
      | none => exact stop
      | some cur =>
        refine told_bind fun str => ?_
        rcases findId .NULL_PTP_MANAGEMENT str with ⟨found, id, str⟩
        dsimp only
        split
        · exact stop
        · exact told_command action id heap _ save
    | none =>
      dsimp only
      split
      · exact stop
      refine told_bind fun ⟨cur, line, _⟩ => ?_
      cases cur with
      | none => exact stop
      | some cur =>
        refine told_bind fun str => ?_
        intro es r h
        obtain ⟨⟨t, out⟩, ht, h⟩ := ends_checked_bind.1 h
        obtain ⟨hq, sends, hf⟩ := told_quiet (target_cases ht).1 es r h
        exact ⟨hq, sends, Option.bind_eq_some_iff.2 ⟨_, ht, hf⟩⟩

end Line

/-! ## What arrives -/

/-- What is there is stored. -/
theorem store_slice (m : Mem) (off n : Nat) : m.store off (m.slice off n) = m := by
  induction n generalizing off with
  | zero => exact m.store_nil off
  | succ n ih =>
    have hm : m.store off [m off] = m := by
      funext i
      simp only [Mem.store, List.length_singleton]
      split
      · obtain rfl : i = off := by omega
        simp
      · rfl
    rw [Mem.slice, show m off :: m.slice (off + 1) n = [m off] ++ m.slice (off + 1) n from rfl, ← Mem.store_append, hm]
    exact ih (off + 1)

/-- A receive gives a datagram as far as it fits, or a frame with its header that is not longer than
the buffer. Where it fails it gives nothing. -/
def Honest : SysEvent → Prop
  | ⟨.recv _ size _, r⟩ => (∃ data, r = arrives size data) ∨ r.cnt < 0 ∧ r.octets = []
  | ⟨.recvmsg _ iov _, r⟩ =>
    (∃ hdr p, hdr.length = ethhdrSize ∧ (hdr ++ p).length ≤ bufSize ∧ r = arrives iov.sum (hdr ++ p)) ∨
      r.cnt < 0 ∧ r.octets = []
  | _ => True

/-- What a receive has given, without the header of a frame. -/
def SysEvent.arrived? : SysEvent → Option (List UInt8)
  | ⟨.recv .., r⟩ => if r.cnt < 0 then none else some r.octets
  | ⟨.recvmsg .., r⟩ => if r.cnt < 0 then none else some (r.octets.drop ethhdrSize)
  | _ => none

/-- The octets that a socket counts and does not give. -/
def Sk.surplus : Sk → Nat
  | .raw _ => ethhdrSize
  | _ => 0

/-- What the tool is told of what has arrived. -/
inductive Hears (sk : Sk) (es : List SysEvent) : Option (List UInt8) → Prop
  | nothing (h : es.filterMap SysEvent.arrived? = []) : Hears sk es none
  | datagram {p rest : List UInt8} (h : es.filterMap SysEvent.arrived? = [p]) (hr : rest.length = sk.surplus) :
      Hears sk es (some (p ++ rest))

/-- What a receive leaves in the buffer: what was there, or what it counts, with all of it inside. -/
inductive Stored (sk : Sk) (buf : Mem) (es : List SysEvent) : Int × Mem → Prop
  | nothing (h : Hears sk es none) : Stored sk buf es (-1, buf)
  | datagram {l : List UInt8} (hl : l.length ≤ bufSize) (h : Hears sk es (some l)) :
      Stored sk buf es (l.length, buf.store 0 l)

section Stored
variable {buf : Mem} {es : List SysEvent} {r : Int × Mem}

/-- A receive sends nothing. -/
theorem Sk.rcv_wire {sk : Sk} (h : Ends (sk.rcv buf bufSize) es r) : wire es = [] := by
  have received {β : Type} {refused : Prop} [Decidable refused] {c : SysCall} {a b : β} {f : c.Res → β}
      (hc : ∀ r, SysEvent.datagram? ⟨c, r⟩ = none)
      (h : Ends (if refused then pure a else sys c >>= fun r => pure (f r)) es b) : wire es = [] := by
    split at h
    · rw [(ends_pure.1 h).1]
      rfl
    · obtain ⟨r, hs, -⟩ := ends_bind_pure.1 h
      rw [ends_sys.1 hs]
      exact List.filterMap_cons_none (hc r)
  cases sk with
  | unix s =>
    change Ends (s.rcvBase buf bufSize true) es r at h
    unfold SockUnix.rcvBase at h
    split at h
    · rw [(ends_pure.1 h).1]
      rfl
    obtain ⟨x, h, -⟩ := ends_bind_pure.1 h
    unfold SockUnix.rcvFrom at h
    split at h
    · rw [(ends_pure.1 h).1]
      rfl
    obtain ⟨⟨r, path⟩, es', rfl, h₁⟩ := ends_sys_bind.1 h
    dsimp only at h₁
    split at h₁ <;> rw [(ends_pure.1 h₁).1] <;> rfl
  | ip s => exact received (fun _ => rfl) h
  | raw s => exact received (fun _ => rfl) h

theorem SockIp.rcv_stored {s : SockIp} (h : Ends (s.rcvBase buf bufSize true) es r) (hh : ∀ e ∈ es, Honest e) :
    Stored (.ip s) buf es r := by
  unfold SockIp.rcvBase at h
  split at h
  · obtain ⟨rfl, rfl⟩ := ends_pure.1 h
    exact .nothing (.nothing rfl)
  obtain ⟨x, hx, rfl⟩ := ends_bind_pure.1 h
  obtain rfl := ends_sys.1 hx
  rcases hh _ List.mem_cons_self with ⟨data, rfl⟩ | ⟨hneg, ho⟩
  · have hl : (data.take bufSize).length ≤ bufSize := by simp
    dsimp only [arrives]
    rw [rcvReply_of_le hl, List.take_take, Nat.min_self]
    refine .datagram hl ?_
    rw [← List.append_nil (data.take bufSize)]
    refine .datagram ?_ rfl
    simp [SysEvent.arrived?]
  · rw [rcvReply, if_pos hneg, ho, List.take_nil, Mem.store_nil]
    refine .nothing (.nothing ?_)
    simp [SysEvent.arrived?, hneg]

theorem SockRaw.rcv_stored {s : SockRaw} (h : Ends (s.rcvBase buf bufSize true) es r) (hh : ∀ e ∈ es, Honest e) :
    Stored (.raw s) buf es r := by
  unfold SockRaw.rcvBase at h
  split at h
  · obtain ⟨rfl, rfl⟩ := ends_pure.1 h
    exact .nothing (.nothing rfl)
  obtain ⟨x, hx, rfl⟩ := ends_bind_pure.1 h
  obtain rfl := ends_sys.1 hx
  rcases hh _ List.mem_cons_self with ⟨hdr, p, hhdr, hlen, rfl⟩ | ⟨hneg, ho⟩
  · have hsum : [ethhdrSize, bufSize].sum = ethhdrSize + bufSize := rfl
    have hp : (hdr ++ p).length = p.length + ethhdrSize := by rw [List.length_append, hhdr, Nat.add_comm]
    have hd : (hdr ++ p).drop ethhdrSize = p := by rw [← hhdr, List.drop_left]
    have ha : arrives [ethhdrSize, bufSize].sum (hdr ++ p) = ⟨((hdr ++ p).length : Nat), hdr ++ p⟩ :=
      arrives_of_fits (by rw [hsum]; omega)
    -- the count has the octets of the buffer behind the payload
    let rest := (buf.store 0 p).slice p.length ethhdrSize
    have hrest : rest.length = ethhdrSize := Mem.slice_length _ _ _
    have hl : (p ++ rest).length = (hdr ++ p).length := by rw [hp, List.length_append, hrest]
    have hstore : buf.store 0 (p ++ rest) = buf.store 0 p := by
      have hs := Mem.store_append buf 0 p rest
      rw [Nat.zero_add, store_slice] at hs
      exact hs.symm
    have hheard : Hears (.raw s) [⟨.recvmsg s.m_fd [ethhdrSize, bufSize] !true, ⟨((hdr ++ p).length : Nat), hdr ++ p⟩⟩]
        (some (p ++ rest)) := by
      refine .datagram ?_ hrest
      have hpos : ¬ (((hdr ++ p).length : Nat) : Int) < 0 := by omega
      simp only [List.filterMap_cons, List.filterMap_nil, SysEvent.arrived?, if_neg hpos, hd]
    rw [ha]
    dsimp only
    rw [rcvReply_of_le (by omega), hd, List.take_of_length_le (by omega), ← hstore, ← hl]
    exact .datagram (by omega) (hl ▸ hheard)
  · rw [rcvReply, if_pos hneg, ho, List.drop_nil, List.take_nil, Mem.store_nil]
    refine .nothing (.nothing ?_)
    simp [SysEvent.arrived?, hneg]

theorem Sk.rcv_stored {sk : Sk} (hu : sk.isUnix = false) (h : Ends (sk.rcv buf bufSize) es r)
    (hh : ∀ e ∈ es, Honest e) :
    Stored sk buf es r := by
  cases sk with
  | unix s => cases hu
  | ip s => exact SockIp.rcv_stored h hh
  | raw s => exact SockRaw.rcv_stored h hh

end Stored

section Rcv
variable {libc : Inet} {sk : Sk} {s : Pmc} {es : List SysEvent} {r : Int × Pmc × List Out}

theorem rcvOn_ends (hu : sk.isUnix = false) (h : Ends (s.rcvOn libc sk).run es (some r)) (hh : ∀ e ∈ es, Honest e) :
    wire es = [] ∧ ∃ d, Hears sk es d ∧ s.rcv libc d = some r := by
  obtain ⟨⟨cnt, buf⟩, es₁, es₂, rfl, h₁, h₂⟩ := ends_partial_bind.1 h
  dsimp only at h₂
  have hw := Sk.rcv_wire (ends_lift.1 h₁)
  cases Sk.rcv_stored hu (ends_lift.1 h₁) fun e he => hh e (List.mem_append_left _ he) with
  | nothing hd =>
    rw [if_pos (by decide)] at h₂
    obtain ⟨rfl, rfl⟩ := ends_partial_pure.1 h₂
    rw [List.append_nil]
    exact ⟨hw, none, hd, rfl⟩
  | @datagram l hl hd =>
    rw [if_neg (by omega)] at h₂
    obtain ⟨rfl, hr⟩ := ends_checked.1 h₂
    rw [List.append_nil]
    refine ⟨hw, some l, hd, ?_⟩
    unfold Pmc.rcv
    dsimp only
    rw [List.take_of_length_le hl]
    exact hr

end Rcv

/-! ## A run -/

/-- What the tool does without a socket of its own, for what was done on one. -/
inductive Stands (sk : Sk) : Ready → Pmc.Event → List SysEvent → List Out → Prop
  | line {heap : Heap} {sends : Bool} {line : Buf} {es : List SysEvent} {out : List Out} (h : wire es = datagrams out) :
      Stands sk (.line heap line) (.line ⟨heap, sends, line⟩) es out
  | packet {d : Option (List UInt8)} {es : List SysEvent} {out : List Out} (hd : Hears sk es d)
      (h : wire es = datagrams out) :
      Stands sk .socket (.packet d) es out

theorem implements (libc : Inet) {sk : Sk} (hu : sk.isUnix = false) :
    Machine.Implements (stepOn libc sk) (Pmc.step libc) Honest (Stands sk) := by
  rintro s (⟨heap, line⟩ | _) es t out h hh
  · obtain ⟨⟨sent, u, out⟩, es₁, es₂, rfl, h₁, h₂⟩ := ends_partial_bind.1 h
    obtain ⟨rfl, he⟩ := ends_partial_pure.1 h₂
    cases he
    obtain ⟨ha, sends, hs⟩ := told_line heap line _ _ h₁
    refine ⟨_, .line ?_, step_line.2 ⟨sent, hs⟩⟩
    rw [List.append_nil]
    exact ha.wire
  · obtain ⟨⟨n, u, out⟩, es₁, es₂, rfl, h₁, h₂⟩ := ends_partial_bind.1 h
    obtain ⟨rfl, he⟩ := ends_partial_pure.1 h₂
    cases he
    obtain ⟨hw, d, hd, hr⟩ := rcvOn_ends hu h₁ fun e he => hh e (List.mem_append_left _ he)
    rw [List.append_nil]
    refine ⟨_, .packet hd ?_, step_packet.2 ⟨n, hr⟩⟩
    rw [hw]
    exact (rcv_datagrams hr).symm

/-- A run on a socket of a network is a run of the tool: what it is told has arrived, and what it
sends goes out, each datagram at its step and in its order. -/
theorem runOn_refines (libc : Inet) {sk : Sk} (hu : sk.isUnix = false) {s : Pmc} {es : List Ready}
    {calls : List SysEvent}
    {r : Pmc × List (List Out)} (h : Ends (s.runOn libc sk es).run calls (some r)) (hh : ∀ e ∈ calls, Honest e) :
    ∃ trace : List (Pmc.Event × List SysEvent × List Out), calls = trace.flatMap (·.2.1) ∧ r.2 = trace.map (·.2.2) ∧
      List.Forall₂ (fun e x => Stands sk e x.1 x.2.1 x.2.2) es trace ∧
      s.run libc (trace.map (·.1)) = some (r.1, trace.map fun x => (x.1, x.2.2)) :=
  (implements libc hu).run h hh

/-- A kernel that sends what it is given, and has a reply for each receive of an IP socket. The
process 77 is one of root. -/
def replies : (c : SysCall) → c.Res
  | .socket _ => (3 : Int)
  | .close _ => (0 : Int)
  | .bind _ _ => (0 : Int)
  | .setsockopt _ _ => (0 : Int)
  | .unlink _ => (0 : Int)
  | .sendto _ msg _ => (msg.length : Int)
  | .sendmsg _ iov _ => (iov.flatten.length : Int)
  | .recv _ size _ => arrives size (priorityReply.slice 0 56)
  | .recvfrom .. => (⟨-1, []⟩, [])
  | .recvmsg .. => ⟨-1, []⟩
  | .getuid => (0 : Nat)
  | .getpid => (77 : Nat)
  | .getpwuid _ => []
  | .inet_pton .. => none
  | .SIOCGIFINDEX .. => none
  | .SIOCGIFNAME .. => none
  | .SIOCGIFHWADDR .. => none
  | .SIOCETHTOOL .. => none

theorem honest_replies {e : SysEvent} (h : e.2 = replies e.1) : Honest e := by
  obtain ⟨c, r⟩ := e
  obtain rfl : r = replies c := h
  cases c with
  | recv fd size dontwait => exact .inl ⟨_, rfl⟩
  | recvmsg fd iov dontwait => exact .inr ⟨Int.negSucc_lt_zero 0, rfl⟩
  | _ => exact trivial

theorem priority_on_socket : ∃ (calls : List SysEvent) (r : Pmc × List (List Out))
    (trace : List (Pmc.Event × List SysEvent × List Out)),
    Ends (started.runOn twoAddresses (.ip ipOpen) [.line newHeap (octets "GET PRIORITY1" ++ [10, 0]), .socket]).run
      calls (some r) ∧
      calls = trace.flatMap (·.2.1) ∧
      started.run twoAddresses (trace.map (·.1)) = some (r.1, trace.map fun x => (x.1, x.2.2)) := by
  let p := (started.runOn twoAddresses (.ip ipOpen) [.line newHeap (octets "GET PRIORITY1" ++ [10, 0]), .socket]).run
  obtain ⟨r, hr⟩ := Option.isSome_iff_exists.1 (show (p.play replies).2.isSome = true by decide +kernel)
  have h : Ends p (p.play replies).1 (some r) := hr ▸ play_ends replies p
  obtain ⟨trace, hc, -, -, hrun⟩ := runOn_refines twoAddresses (show (Sk.ip ipOpen).isUnix = false from rfl) h
    fun e he => honest_replies (play_answered replies p e he)
  exact ⟨_, r, trace, h, hc, hrun⟩

end LibPmc
