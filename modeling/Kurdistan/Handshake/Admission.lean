import Kurdistan.Handshake.NetworkInvariant

/-!
# Each hello is answered once

A relay answers a hello only after it has recorded the hello's replay key, which
must be new to its cache, and caches never lose a key. So two relays which share
a cache never answer hellos with one replay key. No assumption about the hash or
the signatures is needed.

The nonces relays answer with are collected in the same way: if none was drawn
twice, a server nonce determines the relay.
-/

namespace Kurdistan.Handshake

open Support Security Function List

/-- The replay key of the hello a relay received. -/
def RelayProcessHandshakeV1.recordedKey (p : Primitives) (s : RelayProcessHandshakeV1) :
    Option (FixedBytes 32) :=
  match parseClientHello s.clientHello with
  | .ok (hello, _) => some (replayKey p hello)
  | .error _ => none

theorem RelayProcessHandshakeV1.Answered.recordedKey_eq {p : Primitives} {a : Authority}
    {session : RelayProcessHandshakeV1.Session} {s : RelayProcessHandshakeV1}
    (h : s.Answered p a session) : s.recordedKey p = some (replayKey p session.hello) := by
  have hparse : parseClientHello s.clientHello = .ok (session.hello, s.receivedClientBody) :=
    parseClientHello_eq_ok.mpr ⟨h.clientHello, h.parsed⟩
  rw [recordedKey, hparse]

namespace Network

variable {p : Primitives} {net net' : Network}

/-- Relay `j` has answered in state `s`, on cache `cache`. -/
def AnsweredBy (net : Network) (j : ℕ) (cache : Option ℕ) (s : RelayProcessHandshakeV1) :
    Prop :=
  ∃ r, net.relays j = some r ∧ r.cache = cache ∧ r.answered = some s

/-- What the caches and the drawn nonces say about the relays which answered. -/
structure Admitted (p : Primitives) (net : Network) : Prop where
  recorded : ∀ j k s, net.AnsweredBy j k s → ∃ address cache key, k = some address ∧
    net.caches address = some cache ∧ s.recordedKey p = some key ∧ key ∈ cache.seen
  distinct : ∀ i j k s t, net.AnsweredBy i k s → net.AnsweredBy j k t →
    s.recordedKey p = t.recordedKey p → i = j
  drawn : ∀ j k s, net.AnsweredBy j k s → s.serverNonce ∈ net.serverNonces
  fresh : net.serverNonces.Nodup → ∀ i j k l s t, net.AnsweredBy i k s →
    net.AnsweredBy j l t → s.serverNonce = t.serverNonce → i = j

theorem admitted_empty : Admitted p empty where
  recorded := fun _ _ _ ⟨_, h, _⟩ => nomatch h
  distinct := fun _ _ _ _ _ ⟨_, h, _⟩ => nomatch h
  drawn := fun _ _ _ ⟨_, h, _⟩ => nomatch h
  fresh := fun _ _ _ _ _ _ _ ⟨_, h, _⟩ => nomatch h

/-- A step which makes no relay answer and loses no recorded key. -/
theorem Admitted.of_quiet (h : net.Admitted p)
    (hrelays : ∀ j k s, net'.AnsweredBy j k s → net.AnsweredBy j k s)
    (hcaches : ∀ k, CacheGrows (net.caches k) (net'.caches k))
    (hnonces : net'.serverNonces = net.serverNonces) : net'.Admitted p where
  recorded := by
    intro j k s hs
    obtain ⟨address, cache, key, rfl, hcache, hkey, hmem⟩ := h.recorded j k s (hrelays j k s hs)
    obtain ⟨cache', hcache', hseen⟩ := hcaches address cache hcache
    exact ⟨address, cache', key, rfl, hcache', hkey, hseen hmem⟩
  distinct := fun i j k s t hs ht =>
    h.distinct i j k s t (hrelays i k s hs) (hrelays j k t ht)
  drawn := by
    intro j k s hs
    rw [hnonces]
    exact h.drawn j k s (hrelays j k s hs)
  fresh := by
    intro hnodup i j k l s t hs ht
    rw [hnonces] at hnodup
    exact h.fresh hnodup i j k l s t (hrelays i k s hs) (hrelays j l t ht)

/-- A turn of one relay which leaves what it answered as it was. -/
theorem answeredBy_of_update {j : ℕ} {r : RelayParty} (hj : net.relays j = some r) (r' : RelayParty)
    (hrelays : net'.relays = update net.relays j (some r'))
    (hcache : r'.cache = r.cache) (hanswered : r'.answered = r.answered)
    {i : ℕ} {k : Option ℕ} {s : RelayProcessHandshakeV1} (h : net'.AnsweredBy i k s) :
    net.AnsweredBy i k s := by
  obtain ⟨party, hparty, hk, hs⟩ := h
  rw [hrelays] at hparty
  rcases update_some_cases hparty with ⟨rfl, rfl⟩ | ⟨-, hold⟩
  · exact ⟨r, hj, by rw [← hcache, hk], by rw [← hanswered, hs]⟩
  · exact ⟨party, hold, hk, hs⟩

/-- A step in which relay `j` answers: its cache gets a key it did not have. -/
theorem Admitted.of_answer (h : net.Admitted p) {j address : ℕ}
    {before after : HandshakeReplayCache} {key : FixedBytes 32} {state : RelayProcessHandshakeV1}
    (hrelays : ∀ i k s, net'.AnsweredBy i k s →
      (i ≠ j ∧ net.AnsweredBy i k s) ∨ (i = j ∧ k = some address ∧ s = state))
    (hbefore : net.caches address = some before) (hfresh : key ∉ before.seen)
    (hcaches : net'.caches = update net.caches address (some after))
    (hafter : after.seen = key :: before.seen) (hkey : state.recordedKey p = some key)
    (hnonces : net'.serverNonces = state.serverNonce :: net.serverNonces) : net'.Admitted p := by
  have hgrows : ∀ k, CacheGrows (net.caches k) (net'.caches k) := by
    intro k
    rw [hcaches]
    by_cases hk : k = address
    · subst hk
      rw [update_self, hbefore]
      rintro c ⟨⟩
      exact ⟨after, rfl, by rw [hafter]; exact subset_cons_self _ _⟩
    · rw [update_of_ne hk]
      exact CacheGrows.refl _
  -- a key of another relay on this cache was recorded before
  have hother : ∀ i s, net.AnsweredBy i (some address) s → s.recordedKey p ≠ some key := by
    intro i s hs hsame
    obtain ⟨address', cache, key', haddress, hcache, hkey', hmem⟩ := h.recorded i _ s hs
    rw [Option.some.injEq] at haddress
    rw [← haddress, hbefore, Option.some.injEq] at hcache
    rw [hsame, Option.some.injEq] at hkey'
    rw [← hcache, ← hkey'] at hmem
    exact hfresh hmem
  refine ⟨?_, ?_, ?_, ?_⟩
  · intro i k s hs
    rcases hrelays i k s hs with ⟨-, hold⟩ | ⟨-, rfl, rfl⟩
    · obtain ⟨address', cache, key', rfl, hcache, hkey', hmem⟩ := h.recorded i k s hold
      obtain ⟨cache', hcache', hseen⟩ := hgrows address' cache hcache
      exact ⟨address', cache', key', rfl, hcache', hkey', hseen hmem⟩
    · refine ⟨address, after, key, rfl, ?_, hkey, ?_⟩
      · rw [hcaches, update_self]
      · rw [hafter]
        exact mem_cons_self
  · intro i i' k s t hs ht hsame
    rcases hrelays i k s hs with ⟨-, hs⟩ | ⟨rfl, rfl, rfl⟩
    · rcases hrelays i' k t ht with ⟨-, ht⟩ | ⟨-, rfl, rfl⟩
      · exact h.distinct i i' k s t hs ht hsame
      · exact absurd (hsame.trans hkey) (hother i s hs)
    · rcases hrelays i' (some address) t ht with ⟨-, ht⟩ | ⟨rfl, -, -⟩
      · exact absurd (hsame.symm.trans hkey) (hother i' t ht)
      · rfl
  · intro i k s hs
    rw [hnonces]
    rcases hrelays i k s hs with ⟨-, hold⟩ | ⟨-, -, rfl⟩
    · exact mem_cons_of_mem _ (h.drawn i k s hold)
    · exact mem_cons_self
  · intro hnodup i i' k l s t hs ht hsame
    rw [hnonces, nodup_cons] at hnodup
    rcases hrelays i k s hs with ⟨-, hs⟩ | ⟨rfl, rfl, rfl⟩
    · rcases hrelays i' l t ht with ⟨-, ht⟩ | ⟨-, -, rfl⟩
      · exact h.fresh hnodup.2 i i' k l s t hs ht hsame
      · exact absurd (hsame ▸ h.drawn i k s hs) hnodup.1
    · rcases hrelays i' l t ht with ⟨-, ht⟩ | ⟨rfl, -, -⟩
      · exact absurd (hsame ▸ h.drawn i' l t ht) hnodup.1
      · rfl

theorem cacheGrows_storeCache {r : RelayProcessHandshakeV1}
    {cache' : Option HandshakeReplayCache} (h : CacheGrows (net.cacheOf r) cache') (k : ℕ) :
    CacheGrows (net.caches k) (net.storeCache r cache' k) := by
  rw [storeCache]
  rw [cacheOf] at h
  cases hreplay : r.replay with
  | none => exact CacheGrows.refl _
  | some address =>
    rw [hreplay, Option.bind_some] at h
    by_cases hk : k = address
    · subst hk
      simpa only [update_self] using h
    · simpa only [update_of_ne hk] using CacheGrows.refl (net.caches k)

section

variable (h : net.Admitted p)

include h

/-- A relay which answers has recorded a key its cache did not have. -/
theorem Admitted.greetRelay (hsound : net.Sound p) (j : ℕ)
    (message : List UInt8) (draw : Option Contribution) :
    (net.greetRelay p j message draw).1.Admitted p := by
  cases hj : net.relays j with
  | none => simpa only [Network.greetRelay, hj] using h
  | some r =>
    rcases RelayParty.acceptClientHello_cases p r (net.cacheOf r.state) message draw with
      ⟨code, cache', hgrows, hturn⟩ | ⟨hello, body, cache', state, reply, hadmit, hanswer, hturn⟩
    · simp only [Network.greetRelay, hj, hturn]
      refine h.of_quiet (fun i k s hs => ?_) (cacheGrows_storeCache hgrows) ?_
      · exact answeredBy_of_update hj { r with state := r.state.close } rfl rfl rfl hs
      · rfl
    · obtain ⟨hstage, hmessage, hparsed, hverify, before, hbefore, hfresh, hseen⟩ :=
        RelayProcessHandshakeV1.admitClientHello_eq_ok hadmit
      have hstaged := (hsound.relays j r hj).staged
      rw [RelayParty.Staged, hstage] at hstaged
      obtain ⟨hcreated, hreplay, hanswered, -⟩ := hstaged
      obtain ⟨-, -, -, session, rfl, hsession⟩ :=
        RelayProcessHandshakeV1.answerClientHello_eq_ok hcreated hmessage hparsed hverify hanswer
      obtain ⟨address, haddress, hcache⟩ := Option.bind_eq_some_iff.mp hbefore
      simp only [Network.greetRelay, hj, hturn]
      refine h.of_answer (j := j) ?_ hcache hfresh ?_ hseen hsession.recordedKey_eq rfl
      · rintro i k s ⟨party, hparty, hk, hs⟩
        rcases update_some_cases hparty with ⟨rfl, rfl⟩ | ⟨hne, hold⟩
        · refine Or.inr ⟨rfl, ?_, (Option.some.inj hs).symm⟩
          rw [← hk, ← haddress, hreplay]
        · exact Or.inl ⟨hne, party, hold, hk, hs⟩
      · simp only [storeCache, haddress]

theorem Admitted.callRelay (j : ℕ)
    {call : RelayParty → RelayParty × List Event × Reply} (hcache : ∀ r, (call r).1.cache = r.cache)
    (hanswered : ∀ r, (call r).1.answered = r.answered) : (net.callRelay j call).1.Admitted p := by
  cases hj : net.relays j with
  | none => simpa only [Network.callRelay, hj] using h
  | some r =>
    simp only [Network.callRelay, hj]
    refine h.of_quiet (fun i k s hs => ?_) (fun k => CacheGrows.refl _) rfl
    exact answeredBy_of_update hj (call r).1 rfl (hcache r) (hanswered r) hs

theorem Admitted.callClient (i : ℕ) (call : ClientParty → ClientParty × List Event × Reply) :
    (net.callClient i call).1.Admitted p := by
  cases hi : net.clients i with
  | none => simpa only [Network.callClient, hi] using h
  | some c =>
    simp only [Network.callClient, hi]
    exact h.of_quiet (fun _ _ _ hs => hs) (fun _ => CacheGrows.refl _) rfl

theorem Admitted.addCache (k : ℕ) (capacity : Int) : (net.addCache k capacity).1.Admitted p := by
  rw [Network.addCache]
  split
  · exact h
  · exact h
  · rename_i cache hnone _
    refine h.of_quiet (fun _ _ _ hs => hs) (fun k' => ?_) rfl
    by_cases hk : k' = k
    · subst hk
      rw [hnone]
      intro c hc
      cases hc
    · simpa only [update_of_ne hk] using CacheGrows.refl (net.caches k')

theorem Admitted.addRelay (j : ℕ) (config : FirstContactInput)
    (deps : Dependencies) (cache : Option ℕ) :
    (net.addRelay p j config deps cache).1.Admitted p := by
  rw [Network.addRelay]
  split
  · exact h
  · exact h
  · refine h.of_quiet ?_ (fun _ => CacheGrows.refl _) rfl
    rintro i k s ⟨party, hparty, hk, hs⟩
    rcases update_some_cases hparty with ⟨rfl, rfl⟩ | ⟨-, hold⟩
    · cases hs
    · exact ⟨party, hold, hk, hs⟩

theorem Admitted.addClient (i : ℕ) (config : FirstContactInput)
    (deps : Dependencies) : (net.addClient p i config deps).1.Admitted p := by
  rw [Network.addClient]
  split
  · exact h
  · exact h
  · exact h.of_quiet (fun _ _ _ hs => hs) (fun _ => CacheGrows.refl _) rfl

theorem Admitted.step (hsound : net.Sound p) (action : Action) :
    (net.step p action).1.Admitted p := by
  cases action with
  | newCache k capacity => exact h.addCache k capacity
  | newClient i config deps => exact h.addClient i config deps
  | newRelay j config deps cache => exact h.addRelay j config deps cache
  | start i draw => exact h.callClient i _
  | acceptServerHello i message => exact h.callClient i _
  | acceptServerFinish i message => exact h.callClient i _
  | closeClient i => exact h.callClient i _
  | acceptClientHello j message draw => exact h.greetRelay hsound j message draw
  | acceptClientFinish j message =>
    apply h.callRelay j
    · intro r
      rcases r.acceptClientFinish_cases p message with ⟨_, hturn⟩ | ⟨_, _, _, _, hturn⟩ <;>
        rw [hturn]
    · intro r
      rcases r.acceptClientFinish_cases p message with ⟨_, hturn⟩ | ⟨_, _, _, _, hturn⟩ <;>
        rw [hturn]
  | closeRelay j => exact h.callRelay j (fun _ => rfl) (fun _ => rfl)

end

theorem admitted_after (p : Primitives) (actions : List Action) : (after p actions).Admitted p := by
  have hrun : (after p actions).Sound p ∧ (after p actions).Admitted p :=
    stateAfter_invariant (fun net : Network => net.Sound p ∧ net.Admitted p)
      (fun _ action h => ⟨h.1.step action, h.2.step h.1 action⟩) ⟨sound_empty, admitted_empty⟩
      actions
  exact hrun.2

/-- In every run, relays which share a cache never answer two hellos of one identity with one
nonce, ephemeral key and profile, whatever else differs, and the cache of a relay which
answered has recorded the hello. -/
theorem answered_hellos_recorded (p : Primitives) (actions : List Action) :
    (∀ i j k s t hello other body body', (after p actions).AnsweredBy i k s →
      (after p actions).AnsweredBy j k t → parseClientHello s.clientHello = .ok (hello, body) →
      parseClientHello t.clientHello = .ok (other, body') →
      hello.identityID = other.identityID → hello.nonce = other.nonce →
      hello.ephemeral = other.ephemeral → hello.profileHash = other.profileHash → i = j) ∧
    ∀ j k s, (after p actions).AnsweredBy j k s → ∃ address cache key, k = some address ∧
      (after p actions).caches address = some cache ∧ s.recordedKey p = some key ∧
      key ∈ cache.seen := by
  have hadmitted := admitted_after p actions
  refine ⟨?_, hadmitted.recorded⟩
  intro i j k s t hello other body body' hs ht hhello hother hidentity hnonce hephemeral hprofile
  apply hadmitted.distinct i j k s t hs ht
  simp only [RelayProcessHandshakeV1.recordedKey, hhello, hother, replayKey, hidentity, hnonce,
    hephemeral, hprofile]

end Network

end Kurdistan.Handshake
