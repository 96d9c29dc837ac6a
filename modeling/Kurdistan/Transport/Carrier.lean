import Kurdistan.Protocol.WireBijection
import Kurdistan.Support.Framed
import Kurdistan.Support.Runs

/-!
# The framed carrier

Frames go over a TLS byte stream, each behind its length. A `Receive` which fails does not
remember how far it has read, so a pair stays synchronised exactly as long as every deadline
falls between two frames.
-/

namespace Kurdistan.Transport

open Support List Wire Function

inductive ConnMode where
  | framed
  | selected
  | closed
  deriving DecidableEq

/-- `Conn` without its stream. -/
structure Conn where
  planDigest : FixedBytes 32
  maxFrame : UInt32
  mode : ConnMode := .framed

/-- One direction of a stream: the bytes written to it, whether a write has failed, and how many
bytes were read. `sent` and `received` are the frames of the calls which succeeded. -/
structure Stream where
  written : List UInt8 := []
  broken : Bool := false
  taken : ℕ := 0
  sent : List Frame := []
  received : List Frame := []

/-- Two ends. The end `side` writes `stream side` and reads the other one. -/
structure CarrierPair where
  conn : Bool → Conn
  stream : Bool → Stream := fun _ => {}

/-- A call at one end. A deadline stands for the number of bytes which the stream moves before
it, and `admissible` for valid arguments while no other call is in progress. -/
inductive CarrierCall where
  | send (frame : Frame) (deadline : Option ℕ)
  | receive (deadline : Option ℕ)
  | selectRecordStreamV3 (admissible : Bool)
  | close

/-- `ErrCarrier`, or what the call returns. -/
inductive CarrierReply where
  | failed
  | done
  | frame (frame : Frame)
  deriving DecidableEq

/-- A frame behind its length. -/
def record (frame : Frame) : List UInt8 := lengthPrefixed (writeFrame frame)

/-- The two writes of `Send`, which have one deadline. -/
def Stream.write (s : Stream) (frame : Frame) (deadline : ℕ) : Stream × CarrierReply :=
  if s.broken then (s, .failed)
  else if deadline < (record frame).length then
    ({ s with written := s.written ++ (record frame).take deadline, broken := true }, .failed)
  else ({ s with written := s.written ++ record frame, sent := s.sent ++ [frame] }, .done)

namespace Conn

variable (c : Conn) (s : Stream)

def send (frame : Frame) (deadline : Option ℕ) : Stream × CarrierReply :=
  match deadline, encode frame with
  | some deadline, .ok encoded =>
    if frame.planDigest = c.planDigest ∧ c.mode = .framed ∧ encoded.length ≤ c.maxFrame.toNat then
      s.write frame deadline
    else (s, .failed)
  | _, _ => (s, .failed)

/-- The reads of `Receive` from the bytes which arrive before its deadline: how many bytes are
taken, and the frame. -/
def readFrame (arrived : List UInt8) : ℕ × Option Frame :=
  if arrived.length < 4 then (arrived.length, none)
  else
    let size := (getUint32 arrived).toNat
    if size < headerBytes ∨ c.maxFrame.toNat < size then (4, none)
    else if arrived.length < 4 + size then (arrived.length, none)
    else
      match decode ((arrived.drop 4).take size) with
      | .error _ => (4 + size, none)
      | .ok frame => (4 + size, if frame.planDigest = c.planDigest then some frame else none)

def receive (deadline : Option ℕ) : Stream × CarrierReply :=
  match deadline with
  | none => (s, .failed)
  | some deadline =>
    if c.mode = .framed then
      match c.readFrame ((s.written.drop s.taken).take deadline) with
      | (n, none) => ({ s with taken := s.taken + n }, .failed)
      | (n, some frame) =>
        ({ s with taken := s.taken + n, received := s.received ++ [frame] }, .frame frame)
    else (s, .failed)

end Conn

namespace CarrierPair

variable (p : CarrierPair)

/-- The pair after a call on one of its streams. -/
def onStream (direction : Bool) (turn : Stream × CarrierReply) : CarrierPair × CarrierReply :=
  ({ p with stream := update p.stream direction turn.1 }, turn.2)

def setMode (side : Bool) (mode : ConnMode) : CarrierPair :=
  { p with conn := update p.conn side { p.conn side with mode } }

def step : Bool × CarrierCall → CarrierPair × CarrierReply
  | (side, .send frame deadline) =>
    p.onStream side ((p.conn side).send (p.stream side) frame deadline)
  | (side, .receive deadline) =>
    p.onStream (!side) ((p.conn side).receive (p.stream !side) deadline)
  | (side, .selectRecordStreamV3 admissible) =>
    if admissible ∧ (p.conn side).mode = .framed then (p.setMode side .selected, .done)
    else (p, .failed)
  | (side, .close) => (p.setMode side .closed, .done)

end CarrierPair

/-- A whole frame which the end accepts is next on its stream, and arrives before the deadline. -/
def Conn.Meets (c : Conn) (s : Stream) (deadline : ℕ) (frame : Frame) : Prop :=
  validate frame = .ok () ∧ frame.planDigest = c.planDigest ∧
    (writeFrame frame).length ≤ c.maxFrame.toNat ∧
    record frame <+: (s.written.drop s.taken).take deadline

namespace CarrierPair

/-- A framed `Receive` meets no other frame than the first one which was sent and not received. -/
def InOrder (p : CarrierPair) : Bool × CarrierCall → Prop
  | (side, .receive (some deadline)) => (p.conn side).mode = .framed →
    ∀ frame, (p.conn side).Meets (p.stream !side) deadline frame →
      (p.stream !side).sent[(p.stream !side).received.length]? = some frame
  | _ => True

/-- Before the deadline of a framed `Receive` comes a whole frame, or no byte. -/
def Whole (p : CarrierPair) : Bool × CarrierCall → Prop
  | (side, .receive (some deadline)) => (p.conn side).mode = .framed →
    ((p.stream !side).written.drop (p.stream !side).taken).take deadline = [] ∨
      ∃ frame, (p.conn side).Meets (p.stream !side) deadline frame
  | _ => True

end CarrierPair

namespace Stream

/-- The stream holds the frames which were sent, and of the next one what a failed write has
left there. -/
def Sound (s : Stream) : Prop :=
  (∀ f ∈ s.sent, validate f = .ok ()) ∧ ∃ f k, validate f = .ok () ∧ k < (record f).length ∧
    s.written = s.sent.flatMap record ++ (record f).take k ∧ (s.broken = false → k = 0)

/-- What was received is a prefix of what was sent, and nothing else was read. -/
def Synchronised (s : Stream) : Prop :=
  s.received <+: s.sent ∧ s.taken = (s.received.flatMap record).length

/-- What a call does to a stream. -/
structure Turn (s after : Stream) (inOrder whole : Prop) : Prop where
  sound : after.Sound
  order : s.received <+: s.sent → (after.received <+: after.sent ↔ inOrder)
  place : s.Synchronised → (after.Synchronised ↔ whole)

end Stream

def sampleHeartbeat : Frame := ⟨typeHeartbeat, 0, 0, fixedBytes 32 [1], []⟩

theorem sound_empty : ({} : Stream).Sound :=
  ⟨by simp, sampleHeartbeat, 0, by decide, by simp [record], rfl, fun _ => rfl⟩

variable {c : Conn} {s : Stream} {frame : Frame} {deadline : Option ℕ}

theorem length_writeFrame_lt (h : validate frame = .ok ()) :
    (writeFrame frame).length < 2 ^ 32 := by
  have hpayload := length_payload_le h
  simp only [length_writeFrame, headerBytes, maxPayloadBytes] at hpayload ⊢
  omega

/-- Two records which start at the same place are the same. -/
theorem record_append_inj {f : Frame} {more rest : List UInt8} (hframe : validate frame = .ok ())
    (hf : validate f = .ok ()) (h : record frame ++ more = record f ++ rest) : frame = f := by
  have hbody := (lengthPrefixed_append_inj (length_writeFrame_lt hframe)
    (length_writeFrame_lt hf) h).1
  have hdecode := decode_writeFrame hframe
  rw [hbody, decode_writeFrame hf] at hdecode
  cases hdecode
  rfl

/-- The reads return the frame whose record has arrived. -/
theorem readFrame_eq_some {arrived : List UInt8} {n : ℕ} :
    c.readFrame arrived = (n, some frame) ↔ n = (record frame).length ∧
      validate frame = .ok () ∧ frame.planDigest = c.planDigest ∧
      (writeFrame frame).length ≤ c.maxFrame.toNat ∧ record frame <+: arrived := by
  simp only [Conn.readFrame]
  constructor
  · intro h
    split_ifs at h with hshort hbounds hroom
    · cases h
    · cases h
    · cases h
    rcases hdecode : decode ((arrived.drop 4).take (getUint32 arrived).toNat) with err | f <;>
      rw [hdecode] at h <;> dsimp only at h
    · cases h
    split_ifs at h with hdigest <;> cases h
    obtain ⟨hvalid, hbody⟩ := decode_eq_ok.mp hdecode
    have hlength : (writeFrame frame).length = (getUint32 arrived).toNat := by
      rw [← hbody, length_take, length_drop]
      omega
    have hword : putUint32 (getUint32 arrived) = arrived.take 4 := by
      rw [← putUint32_getUint32 (show (arrived.take 4).length = 4 by simp; omega), getUint32,
        getUint32, take_take, Nat.min_self]
    refine ⟨by simp [record, hlength], hvalid, hdigest, by omega, ?_⟩
    rw [record, lengthPrefixed, hlength, UInt32.ofNat_toNat, hword, ← hbody]
    refine ⟨(arrived.drop 4).drop (getUint32 arrived).toNat, ?_⟩
    rw [append_assoc, take_append_drop, take_append_drop]
  · rintro ⟨rfl, hvalid, hdigest, hsize, rest, rfl⟩
    have hbody : ((record frame ++ rest).drop 4).take (writeFrame frame).length =
        writeFrame frame := by
      rw [record, lengthPrefixed, append_assoc, drop_left' (length_putUint32 _), take_left]
    have hheader := length_writeFrame frame
    have hword := getUint32_lengthPrefixed (length_writeFrame_lt hvalid) rest
    rw [← record] at hword
    have hlength : (record frame).length = 4 + (writeFrame frame).length := by simp [record]
    rw [if_neg (by rw [length_append]; omega), hword, if_neg (by omega),
      if_neg (by rw [length_append]; omega), hbody, decode_writeFrame hvalid, hlength]
    simp [hdigest]

/-- Reads which fail have taken some of what arrived. -/
theorem readFrame_pos {arrived : List UInt8} (h : arrived ≠ []) : 0 < (c.readFrame arrived).1 := by
  have hlength := length_pos_of_ne_nil h
  simp only [Conn.readFrame]
  split_ifs
  · exact hlength
  · exact Nat.succ_pos 3
  · exact hlength
  · split
    · exact Nat.add_pos_left (Nat.succ_pos 3) _
    · exact Nat.add_pos_left (Nat.succ_pos 3) _

/-- A frame which is met in step is the next one which was sent. -/
theorem meets_synchronised (hsound : s.Sound) (h : s.Synchronised) {limit : ℕ}
    (hmeets : c.Meets s limit frame) : s.received ++ [frame] <+: s.sent := by
  obtain ⟨hvalid, f, k, hf, hk, hwritten, -⟩ := hsound
  obtain ⟨⟨rest, hsent⟩, htaken⟩ := h
  obtain ⟨hframe, -, -, harrived⟩ := hmeets
  obtain ⟨more, hmore⟩ := harrived.trans ( take_prefix _ _)
  rw [hwritten, ← hsent, flatMap_append, append_assoc, htaken, drop_left] at hmore
  cases rest with
  | nil =>
    -- Of a torn record too little is there.
    rw [flatMap_nil, nil_append] at hmore
    have hwhole : record frame ++ (more ++ (record f).drop k) = record f ++ [] := by
      rw [← append_assoc, hmore, take_append_drop, append_nil]
    have hlength := congrArg length hmore
    rw [record_append_inj hframe hf hwhole, length_append, length_take] at hlength
    omega
  | cons g rest =>
    rw [flatMap_cons, append_assoc] at hmore
    rw [record_append_inj hframe (hvalid g (hsent ▸ by simp)) hmore, ← hsent]
    exact ⟨rest, by rw [append_assoc, singleton_append]⟩

theorem next_iff {received sent : List Frame} (h : received <+: sent) :
    received ++ [frame] <+: sent ↔ sent[received.length]? = some frame := by
  obtain ⟨rest, rfl⟩ := h
  rw [prefix_append_right_inj, getElem?_append_right le_rfl, Nat.sub_self]
  cases rest with
  | nil => simp
  | cons g rest => simp [eq_comm]

/-- A call which reads nothing. -/
theorem turn_unread {after : Stream} {inOrder whole : Prop} (hsound : after.Sound)
    (hsent : s.sent <+: after.sent) (hread : after.taken = s.taken ∧ after.received = s.received)
    (horder : inOrder) (hwhole : whole) : s.Turn after inOrder whole := by
  refine ⟨hsound, fun h => iff_of_true ?_ horder, fun h => iff_of_true ?_ hwhole⟩
  · rw [hread.2]
    exact h.trans hsent
  · rw [Stream.Synchronised, hread.1, hread.2]
    exact ⟨h.1.trans hsent, h.2⟩

theorem turn_write (h : s.Sound) (hframe : validate frame = .ok ()) (limit : ℕ) :
    s.Turn (s.write frame limit).1 True True := by
  obtain ⟨hvalid, f, k, hf, hk, hwritten, hwhole⟩ := id h
  rw [Stream.write]
  split_ifs with hbroken hlimit
  · exact turn_unread h prefix_rfl ⟨rfl, rfl⟩ trivial trivial
  · rw [hwhole (by simpa using hbroken), take_zero, append_nil] at hwritten
    exact turn_unread ⟨hvalid, frame, limit, hframe, hlimit, by rw [hwritten], by simp⟩
      prefix_rfl ⟨rfl, rfl⟩ trivial trivial
  · rw [hwhole (by simpa using hbroken), take_zero, append_nil] at hwritten
    refine turn_unread ⟨?_, f, 0, hf, by omega, ?_, fun _ => rfl⟩ (prefix_append _ _) ⟨rfl, rfl⟩
      trivial trivial
    · simpa [or_imp, forall_and] using ⟨hvalid, hframe⟩
    · simp [hwritten]

theorem turn_send (h : s.Sound) : s.Turn (c.send s frame deadline).1 True True := by
  unfold Conn.send
  split
  · rename_i hencode
    split_ifs
    · exact turn_write h (check_ok_iff.mp hencode).1 _
    · exact turn_unread h prefix_rfl ⟨rfl, rfl⟩ trivial trivial
  · exact turn_unread h prefix_rfl ⟨rfl, rfl⟩ trivial trivial

theorem turn_receive (h : s.Sound) (limit : ℕ) (hmode : c.mode = .framed) :
    s.Turn (c.receive s (some limit)).1
      (∀ frame, c.Meets s limit frame → s.sent[s.received.length]? = some frame)
      ((s.written.drop s.taken).take limit = [] ∨ ∃ frame, c.Meets s limit frame) := by
  have hmeets (f : Frame) : c.Meets s limit f ↔
      c.readFrame ((s.written.drop s.taken).take limit) = ((record f).length, some f) := by
    rw [readFrame_eq_some, Conn.Meets, eq_self_iff_true, true_and]
  simp only [Conn.receive, if_pos hmode]
  rcases hread : c.readFrame ((s.written.drop s.taken).take limit) with ⟨n, _ | frame⟩ <;>
    simp only [hread, Prod.mk.injEq, reduceCtorEq, and_false] at hmeets ⊢
  · refine ⟨h, fun horder => iff_of_true horder fun f hf => absurd hf (hmeets f).mp, ?_⟩
    intro hsync
    simp only [hmeets, exists_false, or_false]
    constructor
    · intro hnext
      by_contra harrived
      have hpos := readFrame_pos (c := c) harrived
      have hplace := hnext.2
      rw [hread] at hpos
      simp only [← hsync.2] at hplace
      omega
    · intro hnone
      rw [hnone] at hread
      cases hread
      exact hsync
  · have hmet : c.Meets s limit frame := (hmeets frame).mpr ⟨(readFrame_eq_some.mp hread).1, rfl⟩
    refine ⟨h, fun horder => ?_, fun hsync => iff_of_true ?_ (.inr ⟨frame, hmet⟩)⟩
    · rw [next_iff horder]
      refine ⟨fun hnext f hf => ?_, fun hall => hall frame hmet⟩
      cases ((hmeets f).mp hf).2
      exact hnext
    · exact ⟨meets_synchronised h hsync hmet,
        by simp [hsync.2, (readFrame_eq_some.mp hread).1]⟩

namespace CarrierPair

variable {p : CarrierPair} {side : Bool}

/-- A call acts on one stream, or on none. -/
theorem step_stream (h : ∀ direction, (p.stream direction).Sound) (action : Bool × CarrierCall) :
    ∃ direction after, (p.stream direction).Turn after (p.InOrder action) (p.Whole action) ∧
      (p.step action).1.stream = update p.stream direction after := by
  obtain ⟨side, call⟩ := action
  have hquiet {inOrder whole : Prop} (horder : inOrder) (hwhole : whole) : ∃ direction after,
      (p.stream direction).Turn after inOrder whole ∧ p.stream = update p.stream direction after :=
    ⟨side, p.stream side, turn_unread (h side) prefix_rfl ⟨rfl, rfl⟩ horder hwhole, by simp⟩
  cases call with
  | send frame deadline => exact ⟨side, _, turn_send (h side), rfl⟩
  | receive deadline =>
    rcases deadline with _ | limit
    · exact ⟨!side, _, turn_unread (h _) prefix_rfl ⟨rfl, rfl⟩ trivial trivial, rfl⟩
    by_cases hmode : (p.conn side).mode = .framed
    · refine ⟨!side, _, ?_, rfl⟩
      simp only [InOrder, Whole, hmode, forall_const]
      exact turn_receive (h _) limit hmode
    · simp only [step, onStream, Conn.receive, if_neg hmode, update_eq_self]
      exact hquiet (fun hframed => absurd hframed hmode) fun hframed => absurd hframed hmode
  | selectRecordStreamV3 admissible =>
    rw [step]
    split_ifs
    · exact hquiet trivial trivial
    · exact hquiet trivial trivial
  | close => exact hquiet trivial trivial

theorem sound_step (h : ∀ direction, (p.stream direction).Sound) (action : Bool × CarrierCall) :
    ∀ direction, ((p.step action).1.stream direction).Sound := by
  obtain ⟨changed, after, hturn, hstream⟩ := step_stream h action
  rw [hstream]
  exact (forall_update_iff p.stream fun _ s => s.Sound).mpr ⟨hturn.sound, fun other _ => h other⟩

theorem order_step (hsound : ∀ direction, (p.stream direction).Sound)
    (h : ∀ direction, (p.stream direction).received <+: (p.stream direction).sent)
    (action : Bool × CarrierCall) : (∀ direction, ((p.step action).1.stream direction).received <+:
      ((p.step action).1.stream direction).sent) ↔ p.InOrder action := by
  obtain ⟨changed, after, hturn, hstream⟩ := step_stream hsound action
  rw [hstream, forall_update_iff p.stream fun _ s => s.received <+: s.sent,
    hturn.order (h changed)]
  simp only [h, implies_true, and_true]

theorem synchronised_step (hsound : ∀ direction, (p.stream direction).Sound)
    (h : ∀ direction, (p.stream direction).Synchronised) (action : Bool × CarrierCall) :
    (∀ direction, ((p.step action).1.stream direction).Synchronised) ↔ p.Whole action := by
  obtain ⟨changed, after, hturn, hstream⟩ := step_stream hsound action
  rw [hstream, forall_update_iff p.stream fun _ s => s.Synchronised, hturn.place (h changed)]
  simp only [h, implies_true, and_true]

theorem mode_setMode (h : (p.conn side).mode ≠ .framed) (other : Bool) {mode : ConnMode}
    (hmode : mode ≠ .framed) : ((p.setMode other mode).conn side).mode ≠ .framed := by
  by_cases hside : side = other
  · simpa [setMode, hside] using hmode
  · simpa [setMode, hside] using h

theorem mode_step (h : (p.conn side).mode ≠ .framed) (action : Bool × CarrierCall) :
    ((p.step action).1.conn side).mode ≠ .framed := by
  obtain ⟨other, call⟩ := action
  cases call with
  | send frame deadline => exact h
  | receive deadline => exact h
  | selectRecordStreamV3 admissible =>
    rw [step]
    split_ifs
    · exact mode_setMode h other (by decide)
    · exact h
  | close => exact mode_setMode h other (by decide)

/-- An end which is not framed refuses the framed calls. -/
theorem refused_of_mode (h : (p.conn side).mode ≠ .framed) (frame : Frame) (deadline : Option ℕ) :
    (p.step (side, .send frame deadline)).2 = .failed ∧
      (p.step (side, .receive deadline)).2 = .failed := by
  constructor
  · rw [step, onStream, Conn.send.eq_def]
    split <;> simp [h]
  · rw [step, onStream, Conn.receive.eq_def]
    split <;> simp [h]

end CarrierPair

open CarrierPair

/-- All along a run what was received is a prefix of what was sent exactly when every framed
`Receive`, at the place where it starts, meets no other frame than the next one before its
deadline. The place is right, too, exactly when the deadlines fall between frames. Once the
record stream is selected, no framed call succeeds. -/
theorem carrier_synchronisation (conn : Bool → Conn) :
    let after := stateAfter step { conn }
    let reply := replyAfter step { conn }
    (∀ calls, (∀ pre, pre <+: calls → ∀ direction,
        ((after pre).stream direction).received <+: ((after pre).stream direction).sent) ↔
      ∀ pre call, pre ++ [call] <+: calls → (after pre).InOrder call) ∧
    (∀ calls, (∀ pre, pre <+: calls → ∀ direction, ((after pre).stream direction).Synchronised) ↔
      ∀ pre call, pre ++ [call] <+: calls → (after pre).Whole call) ∧
    ∀ pre side admissible, reply pre (side, .selectRecordStreamV3 admissible) = .done →
      ∀ post frame deadline,
        let calls := pre ++ (side, .selectRecordStreamV3 admissible) :: post
        reply calls (side, .send frame deadline) = .failed ∧
          reply calls (side, .receive deadline) = .failed := by
  intro after reply
  refine ⟨fun calls => ?_, fun calls => ?_, ?_⟩
  · exact forall_prefix_iff_safe (fun p : CarrierPair => ∀ direction, (p.stream direction).Sound)
      (fun p => ∀ direction, (p.stream direction).received <+: (p.stream direction).sent) _
      (fun _ action h => sound_step h action)
      (fun _ action hsound h => order_step hsound h action)
      (s := { conn }) (fun _ => sound_empty) (fun _ => prefix_rfl) calls
  · exact forall_prefix_iff_safe (fun p : CarrierPair => ∀ direction, (p.stream direction).Sound)
      (fun p => ∀ direction, (p.stream direction).Synchronised) _
      (fun _ action h => sound_step h action)
      (fun _ action hsound h => synchronised_step hsound h action)
      (s := { conn }) (fun _ => sound_empty) (fun _ => ⟨prefix_rfl, rfl⟩) calls
  · intro pre side admissible hselected post frame deadline
    refine refused_of_mode ?_ frame deadline
    rw [stateAfter_append, stateAfter_cons]
    refine stateAfter_invariant (fun p : CarrierPair => (p.conn side).mode ≠ .framed)
      (fun _ action h => mode_step h action) ?_ post
    simp only [reply, replyAfter, step] at hselected ⊢
    split_ifs at hselected ⊢
    simp [setMode]

/-- Two framed ends. -/
def sampleConn : Bool → Conn := fun _ => ⟨fixedBytes 32 [1], 4096, .framed⟩

/-- A frame arrives, and of the next one, whose `Send` fails, a `Receive` takes what there is: the
place is lost, but every `Receive` is in order. -/
theorem carrier_synchronisation_torn :
    let calls := [(true, .send sampleHeartbeat (some 52)), (false, .receive (some 60)),
      (true, .send sampleHeartbeat (some 30)), (false, .receive (some 60))]
    let pair := stateAfter step { conn := sampleConn } calls
    (pair.stream true).received = [sampleHeartbeat] ∧ (pair.stream true).taken = 82 ∧
      ∀ pre call, pre ++ [call] <+: calls →
        (stateAfter step { conn := sampleConn } pre).InOrder call := by
  intro calls pair
  refine ⟨by decide +kernel, by decide +kernel,
    ((carrier_synchronisation sampleConn).1 calls).mp fun pre hpre => ?_⟩
  have hinits : ∀ pre ∈ calls.inits, ∀ direction,
      ((stateAfter step { conn := sampleConn } pre).stream direction).received <+:
        ((stateAfter step { conn := sampleConn } pre).stream direction).sent := by
    decide +kernel
  exact hinits pre ((mem_inits pre calls).mpr hpre)

/-- A `Receive` which is stopped behind the length word loses its place. The next ones refuse two
sizes and a frame, and the last one returns a frame which stands in the payload and was never
sent. -/
theorem carrier_synchronisation_lost :
    let payload := replicate 12 0 ++ record sampleHeartbeat
    let data : Frame := ⟨typeReliableData, 0, 48, fixedBytes 32 [1], payload⟩
    let pair := stateAfter step { conn := sampleConn }
      ((true, .send data (some 116)) :: (false, .receive (some 4)) ::
        replicate 4 (false, .receive (some 112)))
    (pair.stream true).sent = [data] ∧ (pair.stream true).received = [sampleHeartbeat] := by
  decide +kernel

end Kurdistan.Transport
