/-
ExaWire/Proofs/Connect/Search.lean

The search for a host.

A search visits hosts one after the other.  What a visit comes to depends on the host
alone (`Target.attempt`), and what the scope tells before a visit on nothing but what
became of all scopes until then (`Search.asked`); so the two schedules, of the hosts and
of the scope, are there before the search begins, and `FailsOver` says where in them it
halts.

What can be seen of a visit is a stretch of events of its own (`Seen`): it begins with
the only dialling, and if a host cannot be opened although there was a socket, it ends
with the closing of that socket.  The connection is closed with it, but for one case: it
was secured, and the certificate is not the pinned one (`Mistrusts`).  Such a visit is the
last of its search, and what it leaves open, nobody closes.
-/
import ExaWire.Connect.Failover
import ExaWire.Proofs.Action
import ExaWire.Proofs.Scope
import ExaWire.Proofs.Script.Course

namespace ExaWire.Connect

open Network
open ExaWire.Action

variable {ω : Type}

/-! ### Visits -/

/-- A host that is dialled, and what it answers. -/
structure Visit where
  host : String
  answer : Answer

/-- The visits of a search that goes through all its hosts. -/
def visits (directory : Directory) : Nat → List String → List Visit
  | _, [] => []
  | dials, host :: hosts => ⟨host, directory dials host⟩ :: visits directory (dials + 1) hosts

theorem map_host_visits (directory : Directory) (dials : Nat) (hosts : List String) :
    (visits directory dials hosts).map Visit.host = hosts := by
  induction hosts generalizing dials with
  | nil => rfl
  | cons host hosts ih => rw [visits, List.map_cons, ih]

/-- What a visit comes to, and what can be seen of it. -/
def Target.attempt (t : Target) (v : Visit) : Except Obstacle Unit × List Event :=
  openHost v.answer t.tls v.host t.port (t.url v.host)

/-- The error of a visit that another host may make good. -/
def Target.error? (t : Target) (v : Visit) : Option NetworkError :=
  match (t.attempt v).1 with
  | .error (.network e) => some e
  | _ => none

/-- The host that an event dials, if it dials one. -/
def Event.dialled? : Event → Option String
  | .dialled host _ => some host
  | _ => none

/-- Whether an event is the making or the end of a socket. -/
def Event.isOfSocket : Event → Bool
  | .dialled _ _ | .shut _ | .closed _ | .abandoned _ => true
  | _ => false

/-- The connection to a peer is secured, and the certificate is not the pinned one. -/
def Target.Mistrusts (t : Target) (peer : Peer) (r : Rejection) : Prop :=
  ∃ o, t.tls = some o ∧ peer.handshake = .accepted ∧
    verifyFingerprint peer.certificate o.fingerprint = .error r

theorem Target.mistrusts_iff {t : Target} {peer : Peer} {r : Rejection} :
    t.Mistrusts peer r ↔ secure t.tls peer = .ok () ∧ checkPin t.tls peer = .error r := by
  unfold Mistrusts secure checkPin
  cases t.tls with
  | none => simp
  | some o => cases peer.handshake <;> simp

/-- What can be seen of a visit, by what the host answers and what the visit comes to. -/
inductive Seen (t : Target) (host : String) : Answer → Except Obstacle Unit → List Event → Prop
  /-- there is no socket -/
  | refused {text} :
    Seen t host (.error text) (.error (.network (.socket text))) [.dialled host t.port]
  /-- the connection is closed, last of all -/
  | failed {peer o between} (h : ∀ e ∈ between, Event.isOfSocket e = false)
      (trusts : ∀ r, ¬ t.Mistrusts peer r) :
    Seen t host (.ok peer) (.error o) (.dialled host t.port :: between ++ [.closed host])
  /-- a socket is closed that holds the connection no more, and that stays open -/
  | abandoned {peer r between} (h : ∀ e ∈ between, Event.isOfSocket e = false)
      (mistrusts : t.Mistrusts peer r) :
    Seen t host (.ok peer) (.error (.rejected r))
      (.dialled host t.port :: between ++ [.abandoned host])
  /-- the connection stays open -/
  | opened {peer between} (h : ∀ e ∈ between, Event.isOfSocket e = false) :
    Seen t host (.ok peer) (.ok ()) (.dialled host t.port :: between)

theorem seen_attempt (t : Target) (v : Visit) :
    Seen t v.host v.answer (t.attempt v).1 (t.attempt v).2 := by
  obtain ⟨host, answer⟩ := v
  unfold Target.attempt openHost
  cases answer with
  | error text => exact .refused
  | ok peer =>
    have secured : ∀ e ∈ t.tls.toList.map (secureEvent · host), Event.isOfSocket e = false :=
      List.forall_mem_map.2 fun _ _ => rfl
    have upgraded : ∀ e ∈ t.tls.toList.map (secureEvent · host) ++ [.upgraded (t.url host)],
        Event.isOfSocket e = false :=
      List.forall_mem_append.2 ⟨secured, List.forall_mem_singleton.2 rfl⟩
    dsimp only
    cases made : secure t.tls peer with
    | error o =>
      refine .failed secured fun r mistrusts => ?_
      cases made.symm.trans (Target.mistrusts_iff.1 mistrusts).1
    | ok _ =>
      cases checked : checkPin t.tls peer with
      | error r => exact .abandoned secured (Target.mistrusts_iff.2 ⟨made, checked⟩)
      | ok _ =>
        cases upgrade peer with
        | error o =>
          have ends : Seen t host (.ok peer) (.error o) _ := .failed upgraded fun r mistrusts => by
            cases checked.symm.trans (Target.mistrusts_iff.1 mistrusts).2
          rwa [List.cons_append, List.append_assoc] at ends
        | ok _ => exact .opened upgraded

/-- A visit dials its host, and no other. -/
theorem Seen.dialled {t : Target} {host : String} {answer : Answer} {outcome : Except Obstacle Unit}
    {events : List Event} (h : Seen t host answer outcome events) :
    events.filterMap Event.dialled? = [host] := by
  have none {between : List Event} (h : ∀ e ∈ between, Event.isOfSocket e = false) :
      between.filterMap Event.dialled? = [] := by
    refine List.filterMap_eq_nil_iff.2 fun e he => ?_
    have other := h e he
    cases e with
    | dialled => cases other
    | _ => rfl
  cases h with
  | refused => rfl
  | failed between => simp [Event.dialled?, none between]
  | abandoned between => simp [Event.dialled?, none between]
  | opened between => simp [Event.dialled?, none between]

/-- A host that makes way for the next keeps no connection. -/
theorem Seen.closed_of_network {t : Target} {host : String} {peer : Peer} {e : NetworkError}
    {events : List Event} (h : Seen t host (.ok peer) (.error (.network e)) events) :
    .closed host ∈ events := by
  cases h with
  | failed => exact List.mem_append_right _ (List.mem_singleton_self _)

/-! ### The scope of a search -/

/-- Asks the scope of a search, if it has one: what it tells, and all scopes after that. -/
def ask (scope : Option ScopeId) (scopes : Scopes) : Option Cause × Scopes :=
  match scope with
  | none => (none, scopes)
  | some id => scopes.poll id

/-- What the scope tells before the visit of a number, and all scopes after that, if `meanwhile`
is what becomes of scopes during each visit. -/
def askedBefore (meanwhile : Nat → Scopes → Scopes) (scope : Option ScopeId) (scopes : Scopes) :
    Nat → Option Cause × Scopes
  | 0 => ask scope scopes
  | n + 1 => ask scope (meanwhile n (askedBefore meanwhile scope scopes n).2)

theorem askedBefore_succ (meanwhile : Nat → Scopes → Scopes) (scope : Option ScopeId)
    (scopes : Scopes) (n : Nat) : askedBefore meanwhile scope scopes (n + 1) =
      askedBefore (fun k => meanwhile (k + 1)) scope (meanwhile 0 (ask scope scopes).2) n := by
  induction n with
  | zero => rfl
  | succ n ih => rw [askedBefore, ih, askedBefore]

/-! ### Searches -/

/-- A search under way: what is to be opened on which hosts, under which scope; the hosts
tried so far with the error met last, the hosts ahead, and the client. -/
structure Search (ω : Type) where
  env : Environment ω
  target : Target
  scope : Option ScopeId
  tried : List String := []
  last : Option NetworkError := none
  hosts : List String
  client : Client ω

namespace Search

variable {S : Search ω}

/-- Goes on with the search. -/
def run (S : Search ω) : Attempt String × Client ω :=
  tryHosts S.env S.target S.scope S.tried S.last S.hosts S.client

/-- The visits ahead of a search, up to the last host. -/
def visits (S : Search ω) : List Visit := Connect.visits S.env.directory S.client.dials S.hosts

/-- What the scope tells before the visit of a number. -/
def asked (S : Search ω) (n : Nat) : Option Cause :=
  (askedBefore (fun k => S.env.meanwhile (S.client.dials + k)) S.scope S.client.scopes n).1

/-- The error met last, after some visits. -/
def lastError (S : Search ω) (passed : List Visit) : Option NetworkError :=
  (passed.getLast?.bind S.target.error?).or S.last

/-- How a search halts after the hosts that it passed over: what is ahead, what it still
reaches of that, and what it gives. -/
inductive Halts (S : Search ω) (passed : List Visit) :
    List Visit → List Visit → Attempt String → Prop
  /-- there is no host left -/
  | exhausted : Halts S passed [] []
      (.error (unreachable (S.tried ++ S.hosts) S.target.port (S.lastError passed)))
  /-- the scope is seen cancelled before the next host -/
  | cancelled {v ahead cause} (told : S.asked passed.length = some cause) :
    Halts S passed (v :: ahead) [] (.error (.cancelled cause))
  /-- the next host can be opened -/
  | accepted {v ahead} (told : S.asked passed.length = none)
      (opens : (S.target.attempt v).1 = .ok ()) :
    Halts S passed (v :: ahead) [v] (.ok (S.target.url v.host))
  /-- the certificate of the next host is not accepted -/
  | rejected {v ahead rejection} (told : S.asked passed.length = none)
      (rejects : (S.target.attempt v).1 = .error (.rejected rejection)) :
    Halts S passed (v :: ahead) [v] (.error (.certificate rejection))

/-! ### A step of a search -/

/-- The visit of the host that is next. -/
def visit (S : Search ω) (host : String) : Visit := ⟨host, S.env.directory S.client.dials host⟩

/-- The client after the scope was asked. -/
def heeded (S : Search ω) : Client ω :=
  { S.client with scopes := (ask S.scope S.client.scopes).2 }

/-- The client after the visit of the host that is next. -/
def visited (S : Search ω) (host : String) : Client ω :=
  { S.client with
    scopes := S.env.meanwhile S.client.dials (ask S.scope S.client.scopes).2
    dials := S.client.dials + 1
    happenings := S.client.happenings ++ (S.target.attempt (S.visit host)).2.map .network
    notes := S.client.notes ++ [⟨.info, "Connecting to " ++ host ++ ":" ++ toString S.target.port ++
      (if S.target.tls.isSome then " (tls)" else " (tcp)")⟩] }

/-- The search that is left when the host that is next was visited in vain. -/
def next (S : Search ω) (host : String) (hosts : List String) (e : NetworkError) : Search ω :=
  { S with
    tried := S.tried ++ [host]
    last := some e
    hosts
    client := (S.visited host).annotate [⟨.warn,
      "Connection to " ++ host ++ ":" ++ toString S.target.port ++ " failed: " ++ e.text⟩] }

theorem heed_apply (scope : Option ScopeId) (c : Client ω) :
    heed scope c = (match (ask scope c.scopes).1 with
      | some cause => .error (.cancelled cause)
      | none => .ok (), { c with scopes := (ask scope c.scopes).2 }) := by
  cases scope with
  | none => rfl
  | some id =>
    show (poll id >>= _) c = _
    rw [bind_apply]
    show (match (ask (some id) c.scopes).1 with
      | some cause => throw (.cancelled cause)
      | none => pure () : Action ω Unit) { c with scopes := (ask (some id) c.scopes).2 } = _
    cases (ask (some id) c.scopes).1 <;> rfl

/-- A host that is tried is visited once, whatever comes of it. -/
theorem tryHost_apply (S : Search ω) (host : String) :
    tryHost S.env S.target host S.heeded =
      (.ok (S.target.attempt (S.visit host)).1, S.visited host) := rfl

theorem run_of_cancelled {host : String} {hosts : List String} {cause : Cause}
    (h : S.hosts = host :: hosts) (told : (ask S.scope S.client.scopes).1 = some cause) :
    S.run = (.error (.cancelled cause), S.heeded) := by
  unfold run
  rw [h, tryHosts, bind_apply, heed_apply, told]
  rfl

theorem run_of_not_cancelled {host : String} {hosts : List String}
    (h : S.hosts = host :: hosts) (told : (ask S.scope S.client.scopes).1 = none) :
    S.run = match (S.target.attempt (S.visit host)).1 with
      | .ok () => (.ok (S.target.url host),
          { S.visited host with link := .framed (S.target.url host) false })
      | .error (.rejected r) => (.error (.certificate r), S.visited host)
      | .error (.network e) => (S.next host hosts e).run := by
  unfold run
  rw [h, tryHosts, bind_apply, heed_apply, told]
  show (tryHost S.env S.target host >>= _) S.heeded = _
  rw [bind_apply, tryHost_apply]
  rcases (S.target.attempt (S.visit host)).1 with (_ | _) | _ <;> rfl

theorem visits_cons {host : String} {hosts : List String} (h : S.hosts = host :: hosts) :
    S.visits =
      S.visit host :: Connect.visits S.env.directory (S.client.dials + 1) hosts := by
  unfold visits
  rw [h]
  rfl

theorem asked_succ {host : String} {hosts : List String} (e : NetworkError) (n : Nat) :
    S.asked (n + 1) = (S.next host hosts e).asked n := by
  have later : (fun k => S.env.meanwhile (S.client.dials + (k + 1))) =
      fun k => S.env.meanwhile (S.client.dials + 1 + k) := by
    funext k
    rw [Nat.add_assoc, Nat.add_comm 1]
  unfold asked
  rw [askedBefore_succ, later]
  rfl

theorem Target.error?_eq_some {t : Target} {v : Visit} {e : NetworkError}
    (failed : (t.attempt v).1 = .error (.network e)) : t.error? v = some e := by
  rw [Target.error?, failed]

theorem lastError_cons {host : String} {hosts : List String} {e : NetworkError}
    {passed : List Visit} (failed : (S.target.attempt (S.visit host)).1 = .error (.network e))
    (passedOver : ∀ v ∈ passed, ∃ e, (S.target.attempt v).1 = .error (.network e)) :
    S.lastError (S.visit host :: passed) = (S.next host hosts e).lastError passed := by
  unfold lastError
  rw [List.getLast?_cons]
  cases last : passed.getLast? with
  | none =>
    show (S.target.error? (S.visit host)).or S.last = some e
    rw [Target.error?_eq_some failed, Option.some_or]
  | some v =>
    obtain ⟨e', failed'⟩ := passedOver v (List.mem_of_getLast? last)
    show (S.target.error? v).or S.last = (S.target.error? v).or (some e)
    rw [Target.error?_eq_some failed', Option.some_or, Option.some_or]

/-! ### A whole search -/

/-- How a search goes over its hosts: which visits it passed over, which are ahead when it
halts, which of them it still reaches, and what is left then. -/
structure FailsOver (S : Search ω) (passed ahead reached : List Visit) (r : Attempt String)
    (c' : Client ω) : Prop where
  visits : S.visits = passed ++ ahead
  passedOver : ∀ i v, passed[i]? = some v →
    S.asked i = none ∧ ∃ e, (S.target.attempt v).1 = .error (.network e)
  halts : S.Halts passed ahead reached r
  happenings : c'.happenings = S.client.happenings ++
    ((passed ++ reached).flatMap fun v => (S.target.attempt v).2).map .network
  taken : ∀ url, r = .ok url → c'.link = .framed url false
  untaken : ∀ e, r = .error e → c'.link = S.client.link
  cause : ∀ cause, r = .error (.cancelled cause) →
    ∃ id, S.scope = some id ∧ c'.scopes.cause? id = some cause

/-- A search that passes over its first host goes over the others as the search that is left
does. -/
theorem FailsOver.cons {host : String} {hosts : List String} {e : NetworkError}
    {passed ahead reached : List Visit} {r : Attempt String} {c' : Client ω}
    (h : S.hosts = host :: hosts) (told : S.asked 0 = none)
    (failed : (S.target.attempt (S.visit host)).1 = .error (.network e))
    (later : FailsOver (S.next host hosts e) passed ahead reached r c') :
    FailsOver S (S.visit host :: passed) ahead reached r c' where
  visits := (visits_cons h).trans (congrArg (S.visit host :: ·) later.visits)
  passedOver
    | 0, v, hv => by
      obtain rfl := Option.some.inj hv
      exact ⟨told, e, failed⟩
    | i + 1, v, hv => by
      rw [asked_succ e]
      exact later.passedOver i v hv
  halts := by
    have asked : S.asked (S.visit host :: passed).length =
        (S.next host hosts e).asked passed.length := asked_succ e _
    cases later.halts with
    | exhausted =>
      have unreached : ∀ v ∈ passed, ∃ e, (S.target.attempt v).1 = .error (.network e) := by
        intro v hv
        obtain ⟨i, hi⟩ := List.mem_iff_getElem?.1 hv
        exact (later.passedOver i v hi).2
      have names : (S.next host hosts e).tried ++ (S.next host hosts e).hosts = S.tried ++ S.hosts := by
        rw [h]
        exact List.append_assoc S.tried [host] hosts
      rw [names, ← lastError_cons failed unreached]
      exact .exhausted
    | cancelled told => exact .cancelled (asked.trans told)
    | accepted told opens => exact .accepted (asked.trans told) opens
    | rejected told rejects => exact .rejected (asked.trans told) rejects
  happenings := by
    rw [later.happenings]
    show (S.client.happenings ++ _) ++ _ = _
    rw [List.append_assoc, ← List.map_append]
    rfl
  taken := later.taken
  untaken := later.untaken
  cause := later.cause

/-- What the scope told before the next host it knows as its cause. -/
theorem cause?_heeded {cause : Cause} (told : S.asked 0 = some cause) :
    ∃ id, S.scope = some id ∧ S.heeded.scopes.cause? id = some cause := by
  unfold asked askedBefore ask at told
  unfold heeded ask
  cases scope : S.scope with
  | none =>
    rw [scope] at told
    cases told
  | some id =>
    rw [scope] at told
    exact ⟨id, rfl, Scopes.cause?_poll told⟩

/-- Every search goes over its hosts. -/
theorem failsOver (S : Search ω) :
    ∃ passed ahead reached, FailsOver S passed ahead reached S.run.1 S.run.2 := by
  induction h : S.hosts generalizing S with
  | nil =>
    have ran : S.run = (.error (unreachable (S.tried ++ S.hosts) S.target.port S.last), S.client) := by
      unfold run
      rw [h, List.append_nil]
      rfl
    rw [ran]
    exact ⟨[], [], [], {
      visits := by rw [visits, h]; rfl
      passedOver := fun i v hv => by cases hv
      halts := .exhausted
      happenings := (List.append_nil _).symm
      taken := fun url hr => by cases hr
      untaken := fun e _ => rfl
      cause := fun cause hr => by cases hr }⟩
  | cons host hosts ih =>
    cases told : S.asked 0 with
    | some cause =>
      rw [run_of_cancelled h told]
      exact ⟨[], _, [], {
        visits := visits_cons h
        passedOver := fun i v hv => by cases hv
        halts := .cancelled told
        happenings := (List.append_nil _).symm
        taken := fun url hr => by cases hr
        untaken := fun e _ => rfl
        cause := fun cause' hr => by
          cases hr
          exact cause?_heeded told }⟩
    | none =>
      rw [run_of_not_cancelled h told]
      -- a visit that does not let the search go on is the last one, and all that is left to see
      have seen : (S.visited host).happenings = S.client.happenings ++
          (([] ++ [S.visit host]).flatMap fun v => (S.target.attempt v).2).map .network := by
        rw [List.nil_append, List.flatMap_singleton]
        rfl
      rcases attempted : (S.target.attempt (S.visit host)).1 with (rejection | e) | _
      · exact ⟨[], _, [S.visit host], {
          visits := visits_cons h
          passedOver := fun i v hv => by cases hv
          halts := .rejected told attempted
          happenings := seen
          taken := fun url hr => by cases hr
          untaken := fun e _ => rfl
          cause := fun cause hr => by cases hr }⟩
      · obtain ⟨passed, ahead, reached, later⟩ := ih (S.next host hosts e) rfl
        exact ⟨_, ahead, reached, later.cons h told attempted⟩
      · exact ⟨[], _, [S.visit host], {
          visits := visits_cons h
          passedOver := fun i v hv => by cases hv
          halts := .accepted told attempted
          happenings := seen
          taken := fun url hr => by cases hr; rfl
          untaken := fun e hr => by cases hr
          cause := fun cause hr => by cases hr }⟩

/-! ### What a search dials -/

/-- What a search that made some visits did on the network. -/
structure Dials (S : Search ω) (made : List Visit) : Prop where
  /-- the visits were made in the order of the hosts, and none was left out -/
  inOrder : made.map Visit.host <+: S.hosts
  /-- every visit dialled its host once -/
  once : (made.flatMap fun v => (S.target.attempt v).2).filterMap Event.dialled? =
    made.map Visit.host
  /-- every visit in vain closed its connection, if there was one, before it ended; a connection
  that was secured with another certificate than the pinned one it left open -/
  seen : ∀ v ∈ made, Seen S.target v.host v.answer (S.target.attempt v).1 (S.target.attempt v).2
  /-- so every connection is closed before the next host is dialled -/
  closed : ∀ v ∈ made, ∀ peer e, v.answer = .ok peer →
    (S.target.attempt v).1 = .error (.network e) → .closed v.host ∈ (S.target.attempt v).2

theorem Halts.reaches {passed ahead reached : List Visit} {r : Attempt String}
    (h : S.Halts passed ahead reached r) : reached <+: ahead := by
  cases h with
  | exhausted => exact List.prefix_rfl
  | cancelled => exact List.nil_prefix
  | accepted => exact ⟨_, rfl⟩
  | rejected => exact ⟨_, rfl⟩

/-- A visit was passed over, or it is the last that was made. -/
theorem FailsOver.passed_or_last {passed ahead reached : List Visit} {r : Attempt String}
    {c' : Client ω} (h : FailsOver S passed ahead reached r c') {i : Nat} {v : Visit}
    (hi : (passed ++ reached)[i]? = some v) :
    passed[i]? = some v ∨ i = passed.length ∧ reached = [v] := by
  by_cases early : i < passed.length
  · rw [List.getElem?_append_left early] at hi
    exact .inl hi
  · have late : passed.length ≤ i := Nat.le_of_not_lt early
    rw [List.getElem?_append_right late] at hi
    have only (w : Visit) (hw : [w][i - passed.length]? = some v) : i = passed.length ∧ [w] = [v] := by
      cases further : i - passed.length with
      | zero =>
        rw [further] at hw
        obtain rfl := Option.some.inj hw
        exact ⟨Nat.le_antisymm (Nat.sub_eq_zero_iff_le.1 further) late, rfl⟩
      | succ n =>
        rw [further] at hw
        cases hw
    cases h.halts with
    | exhausted => cases hi
    | cancelled => cases hi
    | accepted => exact .inr (only _ hi)
    | rejected => exact .inr (only _ hi)

theorem FailsOver.dials {passed ahead reached : List Visit} {r : Attempt String} {c' : Client ω}
    (h : FailsOver S passed ahead reached r c') : S.Dials (passed ++ reached) where
  inOrder := by
    have hosts : S.visits.map Visit.host = S.hosts := map_host_visits _ _ _
    rw [← hosts, h.visits]
    exact ((List.prefix_append_right_inj passed).2 h.halts.reaches).map Visit.host
  once := by
    induction passed ++ reached with
    | nil => rfl
    | cons v made ih =>
      rw [List.flatMap_cons, List.filterMap_append, ih, (seen_attempt S.target v).dialled]
      rfl
  seen v _ := seen_attempt S.target v
  closed v _ peer e answers failed := by
    have seen := seen_attempt S.target v
    rw [answers, failed] at seen
    exact seen.closed_of_network

end Search

/-- To open a channel is to go over the hosts in order: those that cannot be opened are
passed over, and the search halts at the first that can be opened or whose certificate is
not accepted, or just before the first at which the scope is cancelled, or at the end of
the list. -/
theorem channel_fails_over (env : Environment ω) (hosts : List String) (t : Target)
    (scope : Option ScopeId) (c : Client ω) : Ends (channel env hosts t scope) c fun r c' =>
      ∃ passed ahead reached,
        Search.FailsOver { env, target := t, scope, hosts, client := c } passed ahead reached r c' ∧
        Search.Dials { env, target := t, scope, hosts, client := c } (passed ++ reached) := by
  obtain ⟨passed, ahead, reached, h⟩ :=
    Search.failsOver { env, target := t, scope, hosts, client := c }
  exact ⟨passed, ahead, reached, h, h.dials⟩

/-- A search for a pinned certificate among hosts that all can be reached and show none. -/
def allNameless : Search (List Bytes) where
  env := { Script.cannedEnvironment with directory := fun _ host => .ok { socket := { host } } }
  target := { port := 443, tls := some { fingerprint := "00" } }
  scope := none
  hosts := ["first", "second"]
  client := { wire := [] }

/-- The first of them fails, and its connection is not closed before the error is told. -/
theorem failed_host_left_open :
    Ends (channel allNameless.env allNameless.hosts allNameless.target allNameless.scope)
      allNameless.client fun r c' => r = .error (.certificate .missing) ∧
        .network (.secured "first" false false) ∈ c'.happenings ∧
        .network (.closed "first") ∉ c'.happenings := by
  have seen : (channel allNameless.env allNameless.hosts allNameless.target allNameless.scope
      allNameless.client).2.happenings = [.network (.dialled "first" 443),
        .network (.secured "first" false false), .network (.abandoned "first")] := rfl
  refine ⟨rfl, ?_⟩
  rw [seen]
  simp

end ExaWire.Connect
