import Kurdistan.Runtime.DuplexInvariant

/-!
# Safety of a pair of duplex endpoints

A client and a relay run their calls in any order. The bytes of a record which a call
opens are arguments of the call, so that an adversary may drop, reorder, repeat, alter and
invent records. The pair keeps one log of both endpoints; that the cipher is ideal is the
property `Unforgeable` of this log: what is decrypted under a key was encrypted before,
under the same key, with the same nonce and additional data.
-/

namespace Kurdistan.Runtime

open Support Security Framing Protocol ProcessDuplexStateV1 List

variable {source : RandSource} {aead : AEAD}

/-! ## Pairs -/

inductive DuplexRole where
  | client
  | relay
  deriving DecidableEq

/-- What an endpoint is made from; no workspace is the first version. -/
structure DuplexSetup (source : RandSource) where
  digest : FixedBytes 32
  codec : EnvelopeCodecV1
  program : ProgramV1
  limit : ℕ
  bounded : Option (DuplexWorkspaceV3 source)

def DuplexSetup.endpoint (setup : DuplexSetup source) (client : Bool) :
    ProcessDuplexStateV1 source :=
  newProcessDuplexStateV1 client setup.digest setup.codec setup.program setup.limit setup.bounded

structure DuplexPair (source : RandSource) where
  endpoint : DuplexRole → ProcessDuplexStateV1 source
  log : List AEADEvent

/-- Two endpoints before their first call. -/
def newDuplexPair (client relay : DuplexSetup source) : DuplexPair source where
  endpoint role :=
    match role with
    | .client => client.endpoint true
    | .relay => relay.endpoint false
  log := []

/-- What a call added to the log of its endpoint. -/
def newEvents (before after : ProcessDuplexStateV1 source) : List AEADEvent :=
  after.log.take (after.log.length - before.log.length)

/-- A call on the endpoint of one role. -/
abbrev DuplexAction := DuplexRole × DuplexCall

namespace DuplexPair

def step (aead : AEAD) (p : DuplexPair source) (action : DuplexAction) :
    DuplexPair source × DuplexReply :=
  let result := (p.endpoint action.1).step aead action.2
  ({ endpoint := Function.update p.endpoint action.1 result.1
     log := newEvents (p.endpoint action.1) result.1 ++ p.log },
    result.2)

theorem endpoint_step_self (p : DuplexPair source) (role : DuplexRole) (call : DuplexCall) :
    (p.step aead (role, call)).1.endpoint role = ((p.endpoint role).step aead call).1 :=
  Function.update_self _ _ _

theorem endpoint_step_of_ne {role other : DuplexRole} (h : role ≠ other)
    (p : DuplexPair source) (call : DuplexCall) :
    (p.step aead (other, call)).1.endpoint role = p.endpoint role :=
  Function.update_of_ne h _ _

/-- A property of endpoints which their calls keep is kept by both endpoints of a pair. -/
theorem endpoint_step_invariant (Inv : ProcessDuplexStateV1 source → Prop)
    (hstep : ∀ s call, Inv s → Inv (s.step aead call).1) {p : DuplexPair source}
    {role : DuplexRole} (h : Inv (p.endpoint role)) (action : DuplexAction) :
    Inv ((p.step aead action).1.endpoint role) := by
  obtain ⟨other, call⟩ := action
  by_cases hrole : role = other
  · subst hrole
    rw [endpoint_step_self]
    exact hstep _ call h
  · rw [endpoint_step_of_ne hrole]
    exact h

end DuplexPair

theorem newEvents_append {s t : ProcessDuplexStateV1 source} {events : List AEADEvent}
    (h : t.log = events ++ s.log) : newEvents s t = events := by
  simp [newEvents, h]

/-! ## Where encryptions come from -/

theorem profileBindBody_inj {exporter exporter' digest digest' : FixedBytes 32}
    (h : profileBindBody exporter digest = profileBindBody exporter' digest') :
    exporter = exporter' ∧ digest = digest' := by
  rw [profileBindBody, profileBindBody, append_assoc, append_assoc] at h
  obtain ⟨hexporter, hdigest⟩ := append_inj (append_cancel_left h)
    (by rw [List.Vector.toList_length, List.Vector.toList_length])
  exact ⟨List.Vector.toList_injective hexporter, List.Vector.toList_injective hdigest⟩

theorem take_profileBindBody (exporter digest : FixedBytes 32) :
    (profileBindBody exporter digest).take 8 = processBindMagicV1 := by
  simp [profileBindBody, processBindMagicV1]

/-- A body which starts like a profile bind body is one that the client was asked to
seal. -/
def SealedByBind (digest : FixedBytes 32) (history : List DuplexAction)
    (body : List UInt8) : Prop :=
  body.take 8 = processBindMagicV1 →
    ∃ exporter, (.client, .profileBind exporter) ∈ history ∧ body = profileBindBody exporter digest

/-- Only a client which is asked to bind seals such a body. -/
theorem bind_of_seals {s : ProcessDuplexStateV1 source} {call : DuplexCall}
    {body : List UInt8} (h : call.Seals s body) (hmagic : body.take 8 = processBindMagicV1) :
    s.client = true ∧ ∃ exporter, call = .profileBind exporter ∧
      body = profileBindBody exporter s.digest := by
  cases call with
  | profileBind exporter => exact ⟨h.1, exporter, rfl, h.2⟩
  | acceptProfileBind encoded exporter =>
    obtain rfl : body = processReadyMagicV1 := h
    exact absurd hmagic (by decide)
  | sealOperation | sealData | sealKeepalive | sealClose =>
    have hduplex : body.take 8 = duplexMagicV1 := h
    rw [hmagic] at hduplex
    exact absurd hduplex (by decide)
  | acceptEngineReady | openFrame | commit | discard | abort => exact h.elim

/-! ## The invariant of a pair -/

/-- What a pair keeps along its history: its endpoints are sound, their logs are part of
the log of the pair, and profile bind bodies were encrypted by the client alone. -/
structure PairSound (client relay : DuplexSetup source) (p : DuplexPair source)
    (history : List DuplexAction) : Prop where
  frames : ∀ role, (p.endpoint role).FramesSound
  isClient : (p.endpoint .client).client = true ∧ (p.endpoint .relay).client = false
  digest : (p.endpoint .client).digest = client.digest ∧ (p.endpoint .relay).digest = relay.digest
  logged : ∀ role, ∀ event ∈ (p.endpoint role).log, event ∈ p.log
  sealed : ∀ key m ciphertext, .released key m ciphertext ∈ p.log →
    SealedByBind client.digest history m.plaintext

namespace PairSound

variable {client relay : DuplexSetup source} {p : DuplexPair source} {history : List DuplexAction}

theorem init (client relay : DuplexSetup source) :
    PairSound client relay (newDuplexPair client relay) [] where
  frames role := by
    cases role with
    | client => exact framesSound_new ..
    | relay => exact framesSound_new ..
  isClient := ⟨rfl, rfl⟩
  digest := ⟨rfl, rfl⟩
  logged role event hevent := by cases role <;> cases hevent
  sealed key m ciphertext hmem := by cases hmem

/-- The log of a pair after a call, in the terms of the endpoint. -/
theorem log_step (h : PairSound client relay p history) (aead : AEAD) (role : DuplexRole)
    (call : DuplexCall) :
    ∃ events, (p.step aead (role, call)).1.log = events ++ p.log ∧
      ((p.endpoint role).step aead call).1.log = events ++ (p.endpoint role).log ∧
      ∀ event ∈ events, EventOf aead (p.endpoint role) call event := by
  obtain ⟨events, hlog, hevents⟩ := ProcessDuplexStateV1.log_step aead (h.frames role).tidy call
  refine ⟨events, ?_, hlog, hevents⟩
  simp only [DuplexPair.step, newEvents_append hlog]

theorem sealed_mono {digest : FixedBytes 32} {body : List UInt8}
    (h : SealedByBind digest history body) (action : DuplexAction) :
    SealedByBind digest (history ++ [action]) body := by
  intro hmagic
  obtain ⟨exporter, hmem, hbody⟩ := h hmagic
  exact ⟨exporter, mem_append_left _ hmem, hbody⟩

theorem step (h : PairSound client relay p history) (aead : AEAD) (action : DuplexAction) :
    PairSound client relay (p.step aead action).1 (history ++ [action]) := by
  obtain ⟨role, call⟩ := action
  obtain ⟨events, hlog, hown, hevents⟩ := h.log_step aead role call
  have hfixed := client_step aead (h.frames role).tidy call
  refine ⟨?_, ?_, ?_, ?_, ?_⟩
  · intro other
    exact DuplexPair.endpoint_step_invariant ProcessDuplexStateV1.FramesSound
      (fun s call hs => framesSound_step hs call) (h.frames other) _
  · cases role with
    | client =>
      exact ⟨hfixed.1.trans h.isClient.1, h.isClient.2⟩
    | relay =>
      exact ⟨h.isClient.1, hfixed.1.trans h.isClient.2⟩
  · cases role with
    | client =>
      exact ⟨hfixed.2.trans h.digest.1, h.digest.2⟩
    | relay =>
      exact ⟨h.digest.1, hfixed.2.trans h.digest.2⟩
  · intro other event hevent
    rw [hlog]
    by_cases hother : other = role
    · subst hother
      rw [DuplexPair.endpoint_step_self, hown] at hevent
      rcases mem_append.mp hevent with hnew | hold
      · exact mem_append_left _ hnew
      · exact mem_append_right _ (h.logged other event hold)
    · rw [DuplexPair.endpoint_step_of_ne hother] at hevent
      exact mem_append_right _ (h.logged other event hevent)
  · intro key m ciphertext hmem
    rw [hlog] at hmem
    rcases mem_append.mp hmem with hnew | hold
    · have hevent := hevents _ hnew
      generalize hreleased : CryptoEvent.released key m ciphertext = event at hevent
      cases hevent with
      | opened => cases hreleased
      | sealed sealed hseals =>
        cases hreleased
        intro hmagic
        obtain ⟨hclient, exporter, rfl, hbody⟩ := bind_of_seals hseals hmagic
        cases role with
        | client => exact ⟨exporter, by simp, h.digest.1 ▸ hbody⟩
        | relay =>
          rw [h.isClient.2] at hclient
          cases hclient
    · exact sealed_mono (h.sealed key m ciphertext hold) _

theorem stateAfter (client relay : DuplexSetup source) (aead : AEAD) (actions : List DuplexAction) :
    PairSound client relay
      (stateAfter (DuplexPair.step aead) (newDuplexPair client relay) actions) actions := by
  induction actions using reverseRecOn with
  | nil => exact init client relay
  | append_singleton actions action ih =>
    rw [stateAfter_concat]
    exact ih.step aead action

/-- The call which binds the relay follows the call which made the client seal the
profile bind record for the same digest and exporter. -/
theorem profileBind_mem (h : PairSound client relay p history) {call : DuplexCall}
    (hideal : CryptoEvent.Unforgeable (p.step aead (.relay, call)).1.log)
    (hunbound : (p.endpoint .relay).bound = false)
    (hbound : ((p.step aead (.relay, call)).1.endpoint .relay).bound = true) :
    ∃ encoded exporter, call = .acceptProfileBind encoded exporter ∧
      (.client, .profileBind exporter) ∈ history ∧ client.digest = relay.digest := by
  obtain ⟨encoded, exporter, rfl, m, ciphertext, haccepted, hbody⟩ :=
    relay_binds (h.frames .relay).tidy h.isClient.2 hunbound hbound
  refine ⟨encoded, exporter, rfl, ?_⟩
  -- The cipher is ideal, so the body was encrypted; the relay's own call did not do it.
  have hnext := (h.step aead (.relay, .acceptProfileBind encoded exporter)).logged .relay
  have hreleased := hideal.released_of_accepted (hnext _ haccepted)
  have hmagic : m.plaintext.take 8 = processBindMagicV1 := by
    rw [hbody, take_profileBindBody]
  obtain ⟨events, hlog, -, hevents⟩ := h.log_step aead .relay (.acceptProfileBind encoded exporter)
  rw [hlog] at hreleased
  rcases mem_append.mp hreleased with hnew | hold
  · have hevent := hevents _ hnew
    generalize hevents' : CryptoEvent.released _ m ciphertext = event at hevent
    cases hevent with
    | opened => cases hevents'
    | sealed sealed hseals =>
      obtain ⟨-, rfl, -⟩ := CryptoEvent.released.inj hevents'
      obtain ⟨-, other, hcall, -⟩ := bind_of_seals hseals hmagic
      cases hcall
  · obtain ⟨other, hmem, hother⟩ := h.sealed _ m ciphertext hold hmagic
    rw [hbody, h.digest.2] at hother
    obtain ⟨rfl, hdigest⟩ := profileBindBody_inj hother
    exact ⟨hmem, hdigest.symm⟩

end PairSound

/-! ## Safety -/

section Safety

variable (aead : AEAD) (client relay : DuplexSetup source) (actions : List DuplexAction)

/-- A bound relay has accepted a profile bind record which the client sealed before, for
the digest of both plans and the exporter of both ends of the carrier. -/
theorem bound_relay_history (hideal : CryptoEvent.Unforgeable
      (stateAfter (DuplexPair.step aead) (newDuplexPair client relay) actions).log)
    (hbound : ((stateAfter (DuplexPair.step aead) (newDuplexPair client relay)
      actions).endpoint .relay).bound = true) :
    ∃ before encoded exporter rest,
      actions = before ++ (.relay, .acceptProfileBind encoded exporter) :: rest ∧
        (.client, .profileBind exporter) ∈ before ∧ client.digest = relay.digest := by
  induction actions using reverseRecOn with
  | nil => cases hbound
  | append_singleton actions action ih =>
    have hsound := PairSound.stateAfter client relay aead actions
    rw [stateAfter_concat] at hideal hbound
    generalize stateAfter (DuplexPair.step aead) (newDuplexPair client relay) actions = p
      at hideal hbound hsound ih
    have hearlier : CryptoEvent.Unforgeable p.log := by
      obtain ⟨events, hlog, -⟩ := hsound.log_step aead action.1 action.2
      exact (hlog ▸ hideal).of_append
    have hextend : (p.endpoint .relay).bound = true →
        ∃ before encoded exporter rest, actions ++ [action] =
            before ++ (.relay, .acceptProfileBind encoded exporter) :: rest ∧
          (.client, .profileBind exporter) ∈ before ∧ client.digest = relay.digest := by
      intro hbefore
      obtain ⟨before, encoded, exporter, rest, rfl, hmem, hdigest⟩ := ih hearlier hbefore
      exact ⟨before, encoded, exporter, rest ++ [action], by simp, hmem, hdigest⟩
    obtain ⟨role, call⟩ := action
    cases role with
    | client =>
      exact hextend hbound
    | relay =>
      rcases hrelay : (p.endpoint .relay).bound with _ | _
      · obtain ⟨encoded, exporter, rfl, hmem, hdigest⟩ :=
          hsound.profileBind_mem hideal hrelay hbound
        exact ⟨actions, encoded, exporter, [], rfl, hmem, hdigest⟩
      · exact hextend hrelay

/-- After a close, a failed open or a discarded frame the endpoint refuses every seal and
every open. -/
theorem failed_after_terminates {before rest : List DuplexAction} {role : DuplexRole}
    {call later : DuplexCall} (hactions : actions = before ++ (role, call) :: rest)
    (hterminates : call.terminates (replyAfter (DuplexPair.step aead)
      (newDuplexPair client relay) before (role, call)) = true)
    (hlater : later.sealsOrOpens = true) :
    ∃ err, replyAfter (DuplexPair.step aead) (newDuplexPair client relay) actions
      (role, later) = .failed err := by
  subst hactions
  have hsound := PairSound.stateAfter client relay aead before
  generalize hp : stateAfter (DuplexPair.step aead) (newDuplexPair client relay) before = p
    at hsound
  rw [replyAfter, hp] at hterminates
  have hclosed : ((stateAfter (DuplexPair.step aead) (p.step aead (role, call)).1
      rest).endpoint role).Tidy ∧
      ((stateAfter (DuplexPair.step aead) (p.step aead (role, call)).1
      rest).endpoint role).closed = true := by
    refine stateAfter_invariant (fun p : DuplexPair source =>
      (p.endpoint role).Tidy ∧ (p.endpoint role).closed = true) ?_ ?_ rest
    · intro p action h
      exact DuplexPair.endpoint_step_invariant (fun s => s.Tidy ∧ s.closed = true)
        (fun s call hs => ⟨tidy_step aead hs.1 call, closed_step hs.1 hs.2 call⟩) h action
    · rw [DuplexPair.endpoint_step_self]
      exact ⟨tidy_step aead (hsound.frames role).tidy call,
        closed_of_terminates (hsound.frames role).tidy hterminates⟩
  rw [replyAfter, stateAfter_append, hp]
  exact failed_of_closed hclosed.1 hclosed.2 hlater

/-- The frame which an action committed. -/
def committedFrame (action : DuplexAction) (reply : DuplexReply) : Option (DuplexRole × ℕ) :=
  (action.2.committedFrame reply).map (action.1, ·)

theorem committed_nodup :
    (emissions (DuplexPair.step aead) committedFrame (newDuplexPair client relay)
      actions).Nodup := by
  refine emissions_nodup_of_invariant (fun p : DuplexPair source => ∀ role, (p.endpoint role).Tidy)
    (fun p frame => (p.endpoint frame.1).Finished frame.2) ?_ ?_ ?_ ?_ actions
  · intro p action h role
    exact DuplexPair.endpoint_step_invariant ProcessDuplexStateV1.Tidy
      (fun s call hs => tidy_step aead hs call) (h role) action
  · intro p action frame h hfinished
    have hkeep := DuplexPair.endpoint_step_invariant
      (fun s : ProcessDuplexStateV1 source => s.Tidy ∧ s.Finished frame.2)
      (fun s call hs => ⟨tidy_step aead hs.1 call,
        finished_step hs.1 hs.2 call⟩) ⟨h frame.1, hfinished⟩ action
    exact hkeep.2
  · rintro p ⟨role, call⟩ frame h hemit
    obtain ⟨address, hcommit, rfl⟩ : ∃ address, call.committedFrame
        ((p.endpoint role).step aead call).2 = some address ∧ (role, address) = frame := by
      simpa [committedFrame, DuplexPair.step] using hemit
    rw [DuplexPair.endpoint_step_self]
    exact finished_of_commit (h role) hcommit
  · exact fun role => ((PairSound.init client relay).frames role).tidy

end Safety

/-- Safety of every run of a client and a relay with an ideal cipher. Data is sealed and
delivered only by a bound endpoint, and the relay is bound only after a profile bind record
for the exact digest and exporter. After a close, a failed open or a discarded frame every
seal and open fails. At most one frame is open, no frame is committed twice, and apart
from control records the replay windows move only by a commit, for the record of the
committed frame. -/
theorem duplex_protocol_safety (aead : AEAD) (client relay : DuplexSetup source)
    (actions : List DuplexAction) (hideal : CryptoEvent.Unforgeable
      (stateAfter (DuplexPair.step aead) (newDuplexPair client relay) actions).log) :
    let p := stateAfter (DuplexPair.step aead) (newDuplexPair client relay) actions
    (∀ (role : DuplexRole) (call : DuplexCall), call.movesData (p.step aead (role, call)).2 = true →
      (p.endpoint role).bound = true) ∧
    ((p.endpoint .relay).bound = true → ∃ before encoded exporter rest,
      actions = before ++ (.relay, .acceptProfileBind encoded exporter) :: rest ∧
        (.client, .profileBind exporter) ∈ before ∧ client.digest = relay.digest) ∧
    (∀ (before : List DuplexAction) (role : DuplexRole) (call : DuplexCall)
      (rest : List DuplexAction), actions = before ++ (role, call) :: rest →
      call.terminates (replyAfter (DuplexPair.step aead) (newDuplexPair client relay) before
        (role, call)) = true →
      ∀ later : DuplexCall, later.sealsOrOpens = true →
        ∃ err, (p.step aead (role, later)).2 = .failed err) ∧
    (∀ (role : DuplexRole) (i : ℕ) (frame : AuthenticatedInnerFrameV1),
      (p.endpoint role).frames[i]? = some frame → frame.terminal = false →
      (p.endpoint role).pending = some i) ∧
    (emissions (DuplexPair.step aead) committedFrame (newDuplexPair client relay)
      actions).Nodup ∧
    (∀ (role : DuplexRole) (call : DuplexCall),
      let s := p.endpoint role
      let next := (s.step aead call).1
      SameReplay s.codec next.codec ∨
      (call.receivesControl (s.step aead call).2 = true ∧ Advances s.codec next.codec) ∨
      (∃ address frame, call = .commit address ∧ (s.step aead call).2 = .done ∧
        s.pending = some address ∧ s.frames[address]? = some frame ∧
        s.codec.codec.commitReplayV1 frame.streamID.toUInt16 frame.sequence =
          (next.codec.codec, .ok ()))) := by
  intro p
  have hsound : PairSound client relay p actions := PairSound.stateAfter client relay aead actions
  refine ⟨?_, ?_, ?_, ?_, ?_, ?_⟩
  · intro role call hmoves
    exact bound_of_movesData (hsound.frames role).tidy hmoves
  · exact bound_relay_history aead client relay actions hideal
  · intro before role call rest hactions hterminates later hlater
    exact failed_after_terminates aead client relay actions hactions hterminates hlater
  · intro role
    exact (hsound.frames role).only
  · exact committed_nodup aead client relay actions
  · intro role call
    exact replay_step (hsound.frames role) call

/-! ## A bound pair -/

/-- The setup of a role, of the first version. -/
def sampleSetup (client : Bool) : DuplexSetup zeroSource where
  digest := fixedBytes 32 [1]
  codec := freshEnvelopeCodecV1 sampleScheduleV1 sampleContextV1 client false
  program := sampleProgram
  limit := 4
  bounded := none

/-- The client seals a profile bind record and the relay accepts it. -/
def bindActions : List DuplexAction :=
  let exporter := fixedBytes 32 [2]
  let bind := ((sampleSetup true).endpoint true).step plainAEAD (.profileBind exporter)
  match bind.2 with
  | .record encoded =>
    [(.client, .profileBind exporter), (.relay, .acceptProfileBind ⟨0, encoded⟩ exporter)]
  | _ => []

theorem duplex_protocol_safety_bind :
    ((stateAfter (DuplexPair.step plainAEAD)
      (newDuplexPair (sampleSetup true) (sampleSetup false)) bindActions).endpoint
        .relay).bound = true ∧
    (sampleSetup true).digest = (sampleSetup false).digest := by
  have hbound : ((stateAfter (DuplexPair.step plainAEAD)
      (newDuplexPair (sampleSetup true) (sampleSetup false)) bindActions).endpoint
        .relay).bound = true := by decide +kernel
  obtain ⟨-, hrelay, -⟩ := duplex_protocol_safety plainAEAD (sampleSetup true)
    (sampleSetup false) bindActions (by decide +kernel)
  obtain ⟨-, -, -, -, -, -, hdigest⟩ := hrelay hbound
  exact ⟨hbound, hdigest⟩

end Kurdistan.Runtime
