/-
ExaWire/Proofs/Connect/Pinning.lean

A search among hosts of which one certificate is expected.

If a certificate is pinned, what comes of a visit is decided before the connection is
upgraded (`Met`): a peer that shows no certificate, or another one, is told so and is sent
nothing more.  That is no failure to reach a host, so a search does not pass over it; it
halts there, and no order of the hosts leads around it.  The connection to such a peer is
not closed.
-/
import ExaWire.Proofs.Connect.Search

namespace ExaWire.Connect

open Network

variable {ω : Type} {pin : String} {der : Option Bytes} {t : Target} {o : TlsOptions}

/-! ### Certificates -/

/-- The certificate is the pinned one: there is one, and its digest is the given one in one
or the other case. -/
def Pinned (pin : String) (der : Option Bytes) : Prop :=
  ∃ bytes, der = some bytes ∧ bytes ≠ [] ∧ (fingerprint bytes).toLower = pin.toLower

/-- The certificate is not the pinned one, and what is told of that. -/
inductive Unpinned (pin : String) (der : Option Bytes) : Rejection → Prop
  | missing (h : der = none ∨ der = some []) : Unpinned pin der .missing
  | mismatch {bytes} (h : der = some bytes) (ne : bytes ≠ [])
      (differs : (fingerprint bytes).toLower ≠ pin.toLower) :
    Unpinned pin der (.mismatch (fingerprint bytes) pin)

/-- A check against a digest that is not empty accepts the pinned certificate and no other. -/
theorem pinned_or_unpinned (der : Option Bytes) (h : pin ≠ "") :
    verifyFingerprint der pin = .ok () ∧ Pinned pin der ∨
      ∃ r, verifyFingerprint der pin = .error r ∧ Unpinned pin der r := by
  unfold verifyFingerprint
  rw [if_neg h]
  rcases der with _ | _ | ⟨b, bs⟩
  · exact .inr ⟨_, rfl, .missing (.inl rfl)⟩
  · exact .inr ⟨_, rfl, .missing (.inr rfl)⟩
  · have ne : b :: bs ≠ [] := List.cons_ne_nil b bs
    dsimp only [Option.getD_some]
    by_cases same : (fingerprint (b :: bs)).toLower = pin.toLower
    · rw [if_pos same]
      exact .inl ⟨rfl, _, rfl, ne, same⟩
    · rw [if_neg same]
      exact .inr ⟨_, rfl, .mismatch rfl ne same⟩

theorem Unpinned.not_pinned {r : Rejection} (h : Unpinned pin der r) : ¬ Pinned pin der := by
  rintro ⟨bytes, rfl, ne, same⟩
  cases h with
  | missing h =>
    rcases h with h | h
    · cases h
    · exact ne (Option.some.inj h)
  | mismatch h _ differs =>
    cases h
    exact differs same

theorem Unpinned.unique {r r' : Rejection} (h : Unpinned pin der r) (h' : Unpinned pin der r') :
    r = r' := by
  cases h with
  | missing h =>
    cases h' with
    | missing => rfl
    | mismatch h' ne =>
      subst h'
      rcases h with h | h
      · cases h
      · exact absurd (Option.some.inj h) ne
  | mismatch h ne =>
    subst h
    cases h' with
    | missing h' =>
      rcases h' with h' | h'
      · cases h'
      · exact absurd (Option.some.inj h') ne
    | mismatch h' =>
      cases h'
      rfl

/-! ### Visits -/

/-- What is met in the visit of a host whose certificate is pinned: what the host answers,
what comes of that, and what can be seen. -/
inductive Met (pin host : String) (port : Int) (url : String) :
    Answer → Except Obstacle Unit → List Event → Prop
  /-- there is no connection -/
  | refused {text} : Met pin host port url (.error text) (.error (.network (.socket text)))
      [.dialled host port]
  /-- the connection cannot be secured -/
  | broken {peer text} (handshake : peer.handshake = .broken text) :
    Met pin host port url (.ok peer) (.error (.network (.socket text)))
      [.dialled host port, .secured host false false, .closed host]
  /-- the chain was checked all the same, and is not trusted -/
  | untrusted {peer reason} (handshake : peer.handshake = .untrusted reason) :
    Met pin host port url (.ok peer) (.error (.rejected (.validation reason)))
      [.dialled host port, .secured host false false, .closed host]
  /-- the certificate is absent, or another one; the connection stays open -/
  | imposter {peer r} (handshake : peer.handshake = .accepted)
      (unpinned : Unpinned pin peer.certificate r) :
    Met pin host port url (.ok peer) (.error (.rejected r))
      [.dialled host port, .secured host false false, .abandoned host]
  /-- the certificate is the pinned one, but there are no frames -/
  | notUpgraded {peer text} (handshake : peer.handshake = .accepted)
      (pinned : Pinned pin peer.certificate) (fails : peer.upgradeFailure = some text) :
    Met pin host port url (.ok peer) (.error (.network (.upgrade text)))
      [.dialled host port, .secured host false false, .upgraded url, .closed host]
  /-- the host can be opened -/
  | opened {peer} (handshake : peer.handshake = .accepted) (pinned : Pinned pin peer.certificate)
      (upgrades : peer.upgradeFailure = none) :
    Met pin host port url (.ok peer) (.ok ())
      [.dialled host port, .secured host false false, .upgraded url]

theorem met_attempt (tls : t.tls = some o) (h : o.fingerprint ≠ "") (v : Visit) :
    Met o.fingerprint v.host t.port (t.url v.host) v.answer (t.attempt v).1 (t.attempt v).2 := by
  obtain ⟨host, answer⟩ := v
  -- a pinned certificate takes the place of the chain, whether or not that was to be checked
  have unchecked : o.checksChain = false := by
    unfold TlsOptions.checksChain
    rw [decide_eq_false h, Bool.and_false]
  cases answer with
  | error text =>
    unfold Target.attempt openHost
    exact .refused
  | ok peer =>
    unfold Target.attempt openHost
    rw [tls, Option.toList_some, List.map_singleton, secureEvent, unchecked]
    unfold secure checkPin
    dsimp only
    cases handshake : peer.handshake with
    | untrusted reason => exact .untrusted handshake
    | broken text => exact .broken handshake
    | accepted =>
      rcases pinned_or_unpinned peer.certificate h with ⟨e, pinned⟩ | ⟨r, e, unpinned⟩
      · simp only [e]
        unfold upgrade
        cases upgraded : peer.upgradeFailure with
        | some text => exact .notUpgraded handshake pinned upgraded
        | none => exact .opened handshake pinned upgraded
      · simp only [e]
        exact .imposter handshake unpinned

section Met

variable {host : String} {port : Int} {url : String} {answer : Answer} {peer : Peer}
  {outcome : Except Obstacle Unit} {events : List Event}

/-- No upgrade is begun before the certificate is known to be the pinned one. -/
theorem Met.pinned_of_upgraded {url' : String} (h : Met pin host port url answer outcome events)
    (begun : .upgraded url' ∈ events) : ∃ peer, answer = .ok peer ∧ Pinned pin peer.certificate := by
  cases h with
  | notUpgraded _ pinned => exact ⟨_, rfl, pinned⟩
  | opened _ pinned => exact ⟨_, rfl, pinned⟩
  | _ => simp at begun

theorem Met.pinned_of_ok (h : Met pin host port url answer (.ok ()) events) :
    ∃ peer, answer = .ok peer ∧ Pinned pin peer.certificate := by
  cases h with
  | opened _ pinned => exact ⟨_, rfl, pinned⟩

/-- Whoever shows another certificate, or none, is rejected for it. -/
theorem Met.of_unpinned {r : Rejection} (h : Met pin host port url (.ok peer) outcome events)
    (handshake : peer.handshake = .accepted) (unpinned : Unpinned pin peer.certificate r) :
    outcome = .error (.rejected r) ∧
      events = [.dialled host port, .secured host false false, .abandoned host] := by
  cases h with
  | broken handshake' => rw [handshake] at handshake'; cases handshake'
  | untrusted handshake' => rw [handshake] at handshake'; cases handshake'
  | imposter _ unpinned' =>
    rw [unpinned.unique unpinned']
    exact ⟨rfl, rfl⟩
  | notUpgraded _ pinned => exact absurd pinned unpinned.not_pinned
  | opened _ pinned => exact absurd pinned unpinned.not_pinned

end Met

/-! ### Searches -/

/-- What a search among hosts of which one certificate is expected comes to, by the visits
that it made. -/
structure Search.KeepsPin (S : Search ω) (pin : String) (made : List Visit) (r : Attempt String)
    (c' : Client ω) : Prop where
  first : made <+: S.visits
  happenings : c'.happenings = S.client.happenings ++
    (made.flatMap fun v => (S.target.attempt v).2).map .network
  met : ∀ v ∈ made, Met pin v.host S.target.port (S.target.url v.host) v.answer
    (S.target.attempt v).1 (S.target.attempt v).2
  /-- a channel leads to a host that showed the pinned certificate -/
  opens : ∀ url, r = .ok url → ∃ v peer, made.getLast? = some v ∧ url = S.target.url v.host ∧
    v.answer = .ok peer ∧ Pinned pin peer.certificate
  /-- no upgrade is begun with anyone else -/
  upgrades : ∀ v ∈ made, ∀ url, .upgraded url ∈ (S.target.attempt v).2 →
    ∃ peer, v.answer = .ok peer ∧ Pinned pin peer.certificate
  /-- the first who shows another certificate, or none, ends the search; the socket that was
  dialled is closed, but the connection stays open -/
  rejects : ∀ i v peer rejection, made[i]? = some v → v.answer = .ok peer →
    peer.handshake = .accepted → Unpinned pin peer.certificate rejection →
    i + 1 = made.length ∧ r = .error (.certificate rejection) ∧ (S.target.attempt v).2 =
      [.dialled v.host S.target.port, .secured v.host false false, .abandoned v.host]
  /-- a host that cannot be reached leads to the next, unless there is none or the scope is
  cancelled -/
  movesOn : ∀ i v e, made[i]? = some v → (S.target.attempt v).1 = .error (.network e) →
    i + 1 < made.length ∨
    i + 1 = S.visits.length ∧ r = .error (unreachable (S.tried ++ S.hosts) S.target.port (some e)) ∨
    ∃ cause, S.asked (i + 1) = some cause ∧ r = .error (.cancelled cause)

theorem Search.FailsOver.keepsPin {S : Search ω} {passed ahead reached : List Visit}
    {r : Attempt String} {c' : Client ω} (h : S.FailsOver passed ahead reached r c')
    (tls : S.target.tls = some o) (pinned : o.fingerprint ≠ "") :
    S.KeepsPin o.fingerprint (passed ++ reached) r c' := by
  have met (v : Visit) := met_attempt tls pinned v
  exact {
    first := by
      rw [h.visits]
      exact (List.prefix_append_right_inj passed).2 h.halts.reaches
    happenings := h.happenings
    met := fun v _ => met v
    opens := by
      intro url hr
      have halts := h.halts
      rw [hr] at halts
      cases halts with
      | @accepted v _ _ opens =>
        have met := met v
        rw [opens] at met
        obtain ⟨peer, answers, pinned⟩ := met.pinned_of_ok
        exact ⟨v, peer, List.getLast?_concat, rfl, answers, pinned⟩
    upgrades := fun v _ url begun => (met v).pinned_of_upgraded begun
    rejects := by
      intro i v peer rejection hi answers handshake unpinned
      have met := met v
      rw [answers] at met
      obtain ⟨rejected, events⟩ := met.of_unpinned handshake unpinned
      rcases h.passed_or_last hi with hi | ⟨rfl, rfl⟩
      · obtain ⟨-, e, failed⟩ := h.passedOver i v hi
        rw [failed] at rejected
        cases rejected
      · refine ⟨List.length_append.symm ▸ rfl, ?_, events⟩
        cases h.halts with
        | accepted _ opens => rw [opens] at rejected; cases rejected
        | rejected _ rejects => rw [rejects] at rejected; cases rejected; rfl
    movesOn := by
      intro i v e hi failed
      rcases h.passed_or_last hi with passing | ⟨rfl, rfl⟩
      · obtain ⟨inside, -⟩ := List.getElem?_eq_some_iff.1 passing
        by_cases last : i + 1 < (passed ++ reached).length
        · exact .inl last
        · rw [List.length_append] at last
          have end_of_passed : i + 1 = passed.length := by omega
          have nothing : reached.length = 0 := by omega
          rw [end_of_passed]
          cases h.halts with
          | exhausted =>
            have met_last : S.lastError passed = some e := by
              have final : passed.getLast? = some v := by
                rw [List.getLast?_eq_getElem?, ← end_of_passed]
                exact passing
              unfold Search.lastError
              rw [final, Option.bind_some, Target.error?_eq_some failed, Option.some_or]
            rw [h.visits, List.append_nil, met_last]
            exact .inr (.inl ⟨rfl, rfl⟩)
          | cancelled told => exact .inr (.inr ⟨_, told, rfl⟩)
          | accepted => cases nothing
          | rejected => cases nothing
      · cases h.halts with
        | accepted _ opens => rw [opens] at failed; cases failed
        | rejected _ rejects => rw [rejects] at failed; cases failed }

/-- Pinning a certificate cannot be circumvented by the order of the hosts. -/
theorem channel_keeps_pin (env : Environment ω) (hosts : List String) (t : Target)
    (scope : Option ScopeId) (c : Client ω) (tls : t.tls = some o) (pinned : o.fingerprint ≠ "") :
    Ends (channel env hosts t scope) c fun r c' => ∃ made,
      Search.KeepsPin { env, target := t, scope, hosts, client := c } o.fingerprint made r c' := by
  obtain ⟨passed, ahead, reached, h⟩ :=
    Search.failsOver { env, target := t, scope, hosts, client := c }
  exact ⟨_, h.keepsPin tls pinned⟩

/-- A search for a pinned certificate among hosts of which one can be reached, and that one
shows no certificate. -/
def oneNameless : Search (List Bytes) where
  env := { Script.cannedEnvironment with
    directory := fun _ host =>
      if host = "nameless" then .ok { socket := { host } } else .error "no route" }
  target := { port := 8563, tls := some { fingerprint := "00" } }
  scope := none
  hosts := ["away", "nameless", "last"]
  client := { wire := [] }

theorem nameless_ends_search :
    oneNameless.target.tls = some { fingerprint := "00" } ∧ "00" ≠ "" ∧
    Ends (channel oneNameless.env oneNameless.hosts oneNameless.target oneNameless.scope)
      oneNameless.client fun r c' =>
        r = .error (.certificate .missing) ∧ ∃ made, oneNameless.KeepsPin "00" made r c' := by
  have tls : oneNameless.target.tls = some { fingerprint := "00" } := rfl
  have pinned : "00" ≠ "" := by decide
  have kept := channel_keeps_pin oneNameless.env oneNameless.hosts oneNameless.target
    oneNameless.scope oneNameless.client tls pinned
  exact ⟨tls, pinned, rfl, kept⟩

/-- The connection to the host without a certificate is open when the search has ended. -/
theorem nameless_left_open :
    Ends (channel oneNameless.env oneNameless.hosts oneNameless.target oneNameless.scope)
      oneNameless.client fun r c' => r = .error (.certificate .missing) ∧
        .network (.secured "nameless" false false) ∈ c'.happenings ∧
        .network (.closed "nameless") ∉ c'.happenings := by
  have seen : (channel oneNameless.env oneNameless.hosts oneNameless.target oneNameless.scope
      oneNameless.client).2.happenings = [.network (.dialled "away" 8563),
        .network (.dialled "nameless" 8563), .network (.secured "nameless" false false),
        .network (.abandoned "nameless")] := rfl
  refine ⟨rfl, ?_⟩
  rw [seen]
  simp

end ExaWire.Connect
