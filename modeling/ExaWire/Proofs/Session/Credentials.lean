/-
ExaWire/Proofs/Session/Credentials.lean

Which credentials a login presents, and what can be seen of them.

A login has two requests.  The first one announces either a token or a password, and the
second one carries the credentials: one token, or user and sealed password, as announced.
`Presents` lists the cases, and `Conversation` how far the two requests come: the second is
made only when the first was answered, and the reply says that it is well.

What is not presented cannot be seen.  Two logins whose settings differ only in credentials
that neither of them presents have the same course: the requests are the same, and an
exchange does not look at settings.  A password is presented under the server's key only,
so two passwords that are sealed alike cannot be told apart either.
-/
import ExaWire.Proofs.Script.Course
import ExaWire.Proofs.Session.Beginning
import ExaWire.Proofs.Session.Reconfigured
import ExaWire.Proofs.Session.Tried

namespace ExaWire

open Network

variable {ω α : Type} {env : Environment ω} {c : Client ω}

/-! ### The credentials of a request -/

namespace Login

/-- The keys of credentials. -/
def credentialKeys : List String := ["accessToken", "refreshToken", "username", "password"]

/-- The credentials among entries. -/
def amongEntries (entries : List (Value × Value)) : List (Value × Value) :=
  entries.filter fun entry => credentialKeys.any fun key => entry.1.isText key

/-- The credentials in a request. -/
def presented : Value → List (Value × Value)
  | .object entries => amongEntries entries
  | _ => []

/-- What a login announces, and the credentials that follow the reply to that. -/
inductive Presents (padding : Padding) (c : Config) (reply : List (Value × Value)) :
    Value → List (Value × Value) → Prop
  | accessToken (given : c.accessToken ≠ "") : Presents padding c reply
      (Command.loginToken (.int 3)) [(.text "accessToken", .text c.accessToken)]
  | refreshToken (without : c.accessToken = "") (given : c.refreshToken ≠ "") :
    Presents padding c reply
      (Command.loginToken (.int 3)) [(.text "refreshToken", .text c.refreshToken)]
  | password {key sealed} (without : c.accessToken = "") (without' : c.refreshToken = "")
      (told : Session.answer KeyReply.ofValue reply = .ok key)
      (hs : encryptPassword padding c.password key = .ok sealed) : Presents padding c reply
      (Command.login (.int 2)) [(.text "username", .text c.user), (.text "password", .text sealed)]

/-- The part of the second request that is the same for all credentials has none. -/
theorem credentialKeys_introduction (station : Workstation) (c : Config) :
    ∀ key ∈ (introduction station c).map Prod.fst, key ∉ credentialKeys := by
  unfold introduction
  rcases station.user with text | name
  · simp only [List.map_append, List.map_cons, List.map_nil]
    decide
  · by_cases h : name = ""
    · simp only [h, if_true, List.map_append, List.map_cons, List.map_nil]
      decide
    · simp only [h, if_false, List.map_append, List.map_cons, List.map_nil]
      decide

theorem presented_request (station : Workstation) (c : Config) (fields : List (String × Value)) :
    presented (.ofFields (introduction station c ++ fields)) = presented (.ofFields fields) := by
  show amongEntries (List.map _ _) = amongEntries (List.map _ _)
  unfold amongEntries
  rw [List.map_append, List.filter_append, List.filter_eq_nil_iff.2, List.nil_append]
  intro entry h
  obtain ⟨⟨key, v⟩, hmem, rfl⟩ := List.mem_map.1 h
  have other := credentialKeys_introduction station c key (List.mem_map_of_mem hmem)
  intro named
  obtain ⟨known, hk, same⟩ := List.any_eq_true.1 named
  obtain rfl : key = known := of_decide_eq_true same
  exact other hk

theorem request_eq {padding padding' : Padding} {station : Workstation} {settings config : Config}
    {key : Option KeyReply}
    (introduced : introduction station settings = introduction station config)
    (presented : credentials padding settings key = credentials padding' config key) :
    request padding station settings key = request padding' station config key := by
  unfold request
  rw [introduced, presented]

/-- The first request announces what the second one presents. -/
theorem presents_request {padding : Padding} {station : Workstation} {c : Config}
    {reply : List (Value × Value)} {key : Option KeyReply} {v : Value}
    (told : ∀ k, key = some k → Session.answer KeyReply.ofValue reply = .ok k)
    (h : (request padding station c key).2 = .ok v) :
    Presents padding c reply (opening c) (presented v) := by
  have made : (request padding station c key).2 = (credentials padding c key).2.map fun fields =>
      .ofFields (introduction station c ++ fields) := rfl
  rw [made] at h
  unfold opening Config.protocolVersion Config.usesToken
  unfold credentials at h
  by_cases access : c.accessToken = ""
  · by_cases refresh : c.refreshToken = ""
    · simp only [access, refresh, ne_eq, not_true_eq_false, if_false] at h ⊢
      cases key with
      | none => cases h
      | some k =>
        simp only at h
        cases hs : encryptPassword padding c.password k with
        | error f =>
          rw [hs] at h
          cases h
        | ok sealed =>
          rw [hs] at h
          cases h
          rw [presented_request]
          exact .password access refresh (told k rfl) hs
    · simp only [access, refresh, ne_eq, not_true_eq_false, not_false_eq_true, if_false,
        if_true] at h ⊢
      cases h
      rw [presented_request]
      exact .refreshToken access refresh
  · simp only [access, ne_eq, not_false_eq_true, if_true] at h ⊢
    cases h
    rw [presented_request]
    exact .accessToken access

end Login

/-! ### The course of a login -/

namespace Session

open ExaWire.Action

/-- What follows the last request on a channel: nothing, a reply, or the abort of a wait that its
scope has ended. -/
inductive Aftermath (env : Environment ω) (scope : Option ScopeId) : List Happening → Prop
  | silence : Aftermath env scope []
  | reply (bs : Bytes) : Aftermath env scope [.received bs]
  | abort {payload} (given : scope ≠ none)
      (hp : encode env.codec false Command.abortQuery = .ok payload) :
    Aftermath env scope [.sent ⟨payload, false⟩]

/-- How a request ends on a session that does not compress: it is not written, or given up once
it was written, or answered. -/
inductive Posed (env : Environment ω) (request : Value) (read : Value → Attempt α)
    (scope : Option ScopeId) (c : Client ω) : Attempt α → Client ω → Prop
  | unwritten {f c'} (trace : c'.trace = c.trace) : Posed env request read scope c (.error f) c'
  | givenUp {payload f c' news} (hp : encode env.codec false request = .ok payload)
      (follows : Aftermath env scope news)
      (trace : c'.trace = c.trace ++ .sent ⟨payload, false⟩ :: news) :
    Posed env request read scope c (.error f) c'
  | answered {payload bs entries r c'} (hp : encode env.codec false request = .ok payload)
      (decoded : decode env.codec false bs = .ok entries) (given : answer read entries = r)
      (goes : c.Goes c' c.session [.sent ⟨payload, false⟩, .received bs]) :
    Posed env request read scope c r c'

/-- Without a scope nothing but the request itself is written. -/
theorem ends_send_frames (fields : List (Value × Value)) (read : Value → Attempt α) (c : Client ω) :
    Ends (send env (.object fields) read none) c fun _ c' =>
      c'.frames.length ≤ c.frames.length + 1 := by
  refine (ends_send_once fields read c).mono ?_
  rintro r c' (⟨-, rfl⟩ | tried)
  · exact Nat.le_succ _
  · obtain same | ⟨payload, -, more⟩ := tried.frames
    · rw [same]
      exact Nat.le_succ _
    · rw [more, List.length_append]
      exact Nat.le_refl _

theorem ends_send_posed (plain : c.session.compressing = false) (fields : List (Value × Value))
    (read : Value → Attempt α) (scope : Option ScopeId) :
    Ends (send env (.object fields) read scope) c (Posed env (.object fields) read scope c) := by
  have frames : Ends (send env (.object fields) read scope) c fun _ c' =>
      scope = none → c'.frames.length ≤ c.frames.length + 1 := by
    rintro rfl
    exact ends_send_frames fields read c
  refine ((ends_send_told fields read scope c).and frames).mono ?_
  rintro r c' ⟨_ | @⟨payload, f, _, news, -, -, -, hp, cut, goes⟩ | ⟨-, h, given⟩, once⟩
  · exact .unwritten rfl
  · rw [plain] at hp cut
    cases cut with
    | unsent => exact .unwritten (goes.trace.trans (List.append_nil _))
    | written breaks =>
      refine .givenUp hp ?_ goes.trace
      cases breaks with
      | lost => exact .silence
      | garbled bs => exact .reply bs
      | aborted ha =>
        refine .abort (fun unscoped => ?_) ha
        -- the abort would be a second frame
        have twice := once unscoped
        rw [goes.frames, List.length_append] at twice
        exact absurd twice (by simp [Happening.frames])
  · have encoded := h.encoded
    have decoded := h.decoded
    have goes := h.goes
    rw [plain] at encoded decoded goes
    exact .answered encoded decoded given goes

/-- What two requests of a login leave on the channel: the announcement and what follows it, or
both requests and what follows the second, which is made of a reply that says that the first was
carried out. -/
inductive Conversation (env : Environment ω) (config : Config) (scope : Option ScopeId) :
    List Happening → Prop
  | unsaid : Conversation env config scope []
  | announced {payload news} (hp : encode env.codec false (Login.opening config) = .ok payload)
      (follows : Aftermath env scope news) :
    Conversation env config scope (.sent ⟨payload, false⟩ :: news)
  | presented {payload bs reply key request payload' news}
      (hp : encode env.codec false (Login.opening config) = .ok payload)
      (decoded : decode env.codec false bs = .ok reply)
      (well : (Value.field reply "status").isText "ok" = true)
      (made : (Login.request env.padding env.station config key).2 = .ok request)
      (consistent : Login.Presents env.padding config reply
        (Login.opening config) (Login.presented request))
      (hp' : encode env.codec false request = .ok payload') (follows : Aftermath env scope news) :
    Conversation env config scope
      (.sent ⟨payload, false⟩ :: .received bs :: .sent ⟨payload', false⟩ :: news)

theorem well_of_answer {read : Value → Attempt α} {reply : List (Value × Value)} {a : α}
    (h : answer read reply = .ok a) : (Value.field reply "status").isText "ok" = true := by
  unfold answer data at h
  by_contra other
  simp only [other, if_false] at h
  split at h <;> cases h

/-- What the second request of a login adds to the first one and its reply. -/
theorem ends_present (config : Config) (key : Option KeyReply) (scope : Option ScopeId)
    {payload bs : Bytes} {reply : List (Value × Value)} {c₀ : Client ω}
    (plain : c₀.session.compressing = false)
    (hp : encode env.codec false (Login.opening config) = .ok payload)
    (decoded : decode env.codec false bs = .ok reply)
    (well : (Value.field reply "status").isText "ok" = true)
    (told : ∀ k, key = some k → answer KeyReply.ofValue reply = .ok k)
    (goes : c₀.Goes c c₀.session [.sent ⟨payload, false⟩, .received bs]) :
    Ends (introduce env config key scope) c fun _ c' =>
      ∃ news, c'.trace = c₀.trace ++ news ∧ Conversation env config scope news := by
  let noted := c.annotate (Login.request env.padding env.station config key).1
  have reached : c₀.Goes noted c₀.session [.sent ⟨payload, false⟩, .received bs] :=
    goes.steady (c.steady_annotate _)
  -- the reply was heard, and nothing follows it
  have heard : Conversation env config scope [.sent ⟨payload, false⟩, .received bs] :=
    .announced hp (.reply bs)
  refine .update (.ofAttempt (fun request hr => ?_) fun _ _ => ⟨_, reached.trace, heard⟩)
  have consistent := Login.presents_request told hr
  obtain ⟨fields, rfl⟩ := Login.isObject_request hr
  have plain' : noted.session.compressing = false := by rw [reached.session, plain]
  refine (ends_send_posed plain' fields _ scope).mono ?_
  have more {c' : Client ω} {news : List Happening} (h : c'.trace = noted.trace ++ news) :
      c'.trace = c₀.trace ++ (.sent ⟨payload, false⟩ :: .received bs :: news) := by
    rw [h, reached.trace, List.append_assoc]
    rfl
  rintro r c' (trace | ⟨hp', follows, trace⟩ | ⟨hp', -, -, goes'⟩)
  · exact ⟨_, trace.trans reached.trace, heard⟩
  · exact ⟨_, more trace, .presented hp decoded well hr consistent hp' follows⟩
  · exact ⟨_, more goes'.trace, .presented hp decoded well hr consistent hp' (.reply _)⟩

theorem ends_converse_course (plain : c.session.compressing = false) (scope : Option ScopeId) :
    Ends (converse env scope) c fun _ c' =>
      ∃ news, c'.trace = c.trace ++ news ∧ Conversation env c.session.config scope news := by
  have opens {α : Type} (read : Value → Attempt α) :
      Ends (send env (Login.opening c.session.config) read scope) c
        (Posed env (Login.opening c.session.config) read scope c) := by
    obtain ⟨fields, e⟩ := Login.isObject_opening c.session.config
    rw [e]
    exact ends_send_posed plain fields read scope
  -- a login that does not come to its second request
  have stays {α : Type} {read : Value → Attempt α} {r : Attempt α} {c' : Client ω}
      (h : Posed env (Login.opening c.session.config) read scope c r c') :
      ∃ news, c'.trace = c.trace ++ news ∧ Conversation env c.session.config scope news := by
    obtain trace | ⟨hp, follows, trace⟩ | ⟨hp, -, -, goes⟩ := h
    · exact ⟨[], trace.trans (List.append_nil _).symm, .unsaid⟩
    · exact ⟨_, trace, .announced hp follows⟩
    · exact ⟨_, goes.trace, .announced hp (.reply _)⟩
  refine ends_converse_of (opens noData) (opens KeyReply.ofValue) ?_ ?_ (fun _ _ => stays)
    fun _ _ => stays
  · rintro c₁ (_ | _ | ⟨hp, decoded, given, goes⟩)
    refine ends_present _ none scope plain hp decoded (well_of_answer given) ?_ goes
    exact fun _ hk => nomatch hk
  · rintro key c₁ (_ | _ | ⟨hp, decoded, given, goes⟩)
    refine ends_present _ (some key) scope plain hp decoded (well_of_answer given) ?_ goes
    rintro _ ⟨⟩
    exact given

/-- What a login leaves on the channel: the conversation, and the closing of the channel if the
session was given up. -/
def Converses (env : Environment ω) (config : Config) (scope : Option ScopeId)
    (c c' : Client ω) : Prop :=
  ∃ news closing, c'.trace = c.trace ++ news ++ closing ∧ Conversation env config scope news ∧
    (closing = [] ∨ closing = [.detached])

theorem ends_login_course (scope : Option ScopeId) (c : Client ω) :
    Ends (login env scope) c fun _ c' => Converses env c.session.config scope c c' := by
  let begun := { c with session := c.session.opened }
  have course : Ends (converse env scope) begun fun _ c' =>
      ∃ news, c'.trace = c.trace ++ news ∧ Conversation env c.session.config scope news :=
    ends_converse_course rfl scope
  refine .setSession (.attempt course ?_)
  rintro r c₁ ⟨news, trace, said⟩
  have left : Converses env c.session.config scope c c₁ :=
    ⟨news, [], by rw [trace, List.append_nil], said, .inl rfl⟩
  cases r with
  | ok info => exact left
  | error f =>
    refine .ite (fun _ => .throw left) fun _ => ?_
    refine (ends_shutdown env c₁).bind (fun _ c₂ ⟨_, detached⟩ => .throw ?_) ?_
    · cases detached with
      | idle _ goes _ => exact ⟨news, [], by rw [goes.trace, trace], said, .inl rfl⟩
      | shut _ _ _ closed _ => exact ⟨news, [.detached], by rw [closed, trace], said, .inr rfl⟩
    · rintro _ _ ⟨⟨⟩, -⟩

/-! ### Logins side by side -/

/-- Other settings, and another padding, that a login makes the same requests of. -/
structure SameRequests (env : Environment ω) (scope : Option ScopeId) (c : Client ω)
    (settings : Config) (padding : Login.Padding) : Prop where
  usesToken : settings.usesToken = c.session.config.usesToken
  compression : settings.compression = c.session.config.compression
  token : c.session.config.usesToken = true →
    Login.request padding env.station settings none =
      Login.request env.padding env.station c.session.config none
  password : c.session.config.usesToken = false → ∀ key,
    (send env (Login.opening c.session.config) KeyReply.ofValue scope
      { c with session := c.session.opened }).1 = .ok key →
    Login.request padding env.station settings (some key) =
      Login.request env.padding env.station c.session.config (some key)

variable {settings : Config} {padding : Login.Padding} {scope : Option ScopeId}

open Client (Resets)

/-- The second request of two logins that make the same one. -/
theorem parallel_present_reset {config : Config} {key : Option KeyReply}
    (same : Login.request padding env.station settings key =
      Login.request env.padding env.station config key) :
    Parallel (Resets settings) (introduce env config key scope)
      (introduce (env.withPadding padding) settings key scope) := by
  unfold introduce
  have made : Login.request (env.withPadding padding).padding (env.withPadding padding).station
      settings key = Login.request env.padding env.station config key := same
  rw [made]
  refine .bind (parallel_reset fun _ => rfl) fun _ => .bind (.ofAttempt _) fun request => ?_
  exact parallel_send_reset request _ scope

theorem agree_converse_reset (same : SameRequests env scope c settings padding) :
    Agree (converse env scope) (converse (env.withPadding padding) scope)
      { c with session := c.session.opened }
      (Client.withConfig { c with session := c.session.opened } settings)
      fun _ => Resets settings := by
  have opening : Login.opening settings = Login.opening c.session.config := by
    unfold Login.opening Config.protocolVersion
    rw [same.usesToken]
  have opens {α : Type} (read : Value → Attempt α) : Parallel (Resets settings)
      (send env (Login.opening c.session.config) read scope)
      (send (env.withPadding padding) (Login.opening c.session.config) read scope) :=
    parallel_send_reset _ read scope
  rw [converse_eq, converse_eq]
  refine agree_session_reset ?_
  show Agree (if c.session.config.usesToken then _ else _) (if settings.usesToken then _ else _) _ _ _
  rw [same.usesToken, opening]
  by_cases e : c.session.config.usesToken = true
  · rw [if_pos e, if_pos e]
    refine (opens noData _ _ rfl).bind (fun _ t₁ t₂ h => ?_) fun _ _ _ h => h
    exact parallel_present_reset (same.token e) t₁ t₂ h
  · rw [if_neg e, if_neg e]
    let begun := { c with session := c.session.opened }
    let opened := send env (Login.opening c.session.config) KeyReply.ofValue scope
    -- the key of the second request is the one that this very exchange gives
    have given : Ends (some <$> opened) begun fun r _ =>
        ∀ key, r = .ok key → ∃ k, key = some k ∧ (opened begun).1 = .ok k := by
      refine Ends.map (R := fun r _ => (opened begun).1 = r) rfl ?_
      rintro (f | k) t told key ⟨⟩
      exact ⟨k, rfl, told⟩
    obtain ⟨alike, related⟩ := Parallel.map some (opens KeyReply.ofValue) begun _ rfl
    refine Agree.bind (R := fun r t₁ t₂ => Resets settings t₁ t₂ ∧
      ∀ key, r = .ok key → ∃ k, key = some k ∧ (opened begun).1 = .ok k)
      ⟨alike, related, given⟩ ?_ fun _ _ _ h => h.1
    rintro _ t₁ t₂ ⟨h, given⟩
    obtain ⟨key, rfl, told⟩ := given _ rfl
    exact parallel_present_reset (same.password (by simpa using e) key told) t₁ t₂ h

/-- A login makes the same requests, so it goes the same way. -/
theorem agree_login_reset (same : SameRequests env scope c settings padding) :
    Agree (login env scope) (login (env.withPadding padding) scope) c (c.withConfig settings)
      fun _ => Resets settings := by
  let begun := { c with session := c.session.opened }
  have kept : Ends (converse env scope) begun fun r c' =>
      ∀ info, r = .ok info → c'.session.config = c.session.config := by
    refine (ends_converse scope begun).mono ?_
    rintro _ c' (⟨⟨_, _, goes, _⟩, _⟩ | _ | _) info given
    · rw [goes.session]
      rfl
    · cases given
    · cases given
  obtain ⟨alike, related⟩ := agree_converse_reset same
  refine .setSession (Agree.attempt (R := fun r t₁ t₂ => Resets settings t₁ t₂ ∧
    ∀ info, r = .ok info → t₁.session.config = c.session.config) ⟨alike, related, kept⟩ ?_)
  rintro r t₁ _ ⟨rfl, kept⟩
  cases r with
  | ok info =>
    -- both sessions compress from now on, or none
    have compression : settings.compression = t₁.session.config.compression := by
      rw [kept info rfl, same.compression]
    have letIn : { (t₁.withConfig settings).session with
          compressing := settings.compression, info := some info } =
        { t₁.session with
          config := settings, compressing := t₁.session.config.compression, info := some info } := by
      rw [compression]
      rfl
    refine ⟨rfl, ?_⟩
    exact congrArg (fun session => Client.annotate _ { t₁ with session }) letIn
  | error f =>
    refine .ite (.throw rfl) ?_
    exact Parallel.bind parallel_shutdown_reset (fun _ => .throw _) t₁ _ rfl

/-! ### What cannot be told apart -/

/-- Other settings, and another padding, that differ in credentials that a login does not present,
or presents sealed alike: under the key, if there is one, that the server gives in this very
login. -/
inductive Interchangeable (env : Environment ω) (scope : Option ScopeId) (c : Client ω) :
    Config → Login.Padding → Prop
  | accessToken (given : c.session.config.accessToken ≠ "") (user password refreshToken : String)
      (padding : Login.Padding) :
    Interchangeable env scope c { c.session.config with user, password, refreshToken } padding
  | refreshToken (given : c.session.config.refreshToken ≠ "") (user password : String)
      (padding : Login.Padding) :
    Interchangeable env scope c { c.session.config with user, password } padding
  | password (without : c.session.config.accessToken = "")
      (without' : c.session.config.refreshToken = "") (password : String) (padding : Login.Padding)
      (alike : ∀ key, (send env (Login.opening c.session.config) KeyReply.ofValue scope
          { c with session := c.session.opened }).1 = .ok key →
        Login.encryptPassword padding password key =
          Login.encryptPassword env.padding c.session.config.password key) :
    Interchangeable env scope c { c.session.config with password } padding

theorem Interchangeable.sameRequests (h : Interchangeable env scope c settings padding) :
    SameRequests env scope c settings padding := by
  cases h with
  | accessToken given user password refreshToken =>
    have uses : c.session.config.usesToken = true := by simp [Config.usesToken, given]
    refine ⟨?_, rfl, fun _ => ?_, fun unset => nomatch unset.symm.trans uses⟩
    · rw [uses]
      simp [Config.usesToken, given]
    · refine Login.request_eq rfl ?_
      simp only [Login.credentials, ne_eq, given, not_false_eq_true, if_true]
  | refreshToken given user password =>
    have uses : c.session.config.usesToken = true := by simp [Config.usesToken, given]
    refine ⟨rfl, rfl, fun _ => ?_, fun unset => nomatch unset.symm.trans uses⟩
    refine Login.request_eq rfl ?_
    simp only [Login.credentials, ne_eq, given, not_false_eq_true, if_true]
  | password without without' password _ alike =>
    have uses : c.session.config.usesToken = false := by simp [Config.usesToken, without, without']
    refine ⟨rfl, rfl, fun set => (nomatch set.symm.trans uses), fun _ key told => ?_⟩
    refine Login.request_eq rfl ?_
    simp only [Login.credentials, without, without', ne_eq, not_true_eq_false, if_false,
      alike key told]

/-- Whatever the far end and the scope do, a login holds the conversation of its two requests and
presents what the first one announced; and what it does not present, or what is sealed alike,
changes nothing in what it does, writes, notes or comes to. -/
theorem login_discreet (env : Environment ω) (scope : Option ScopeId) (c : Client ω) :
    Converses env c.session.config scope c (login env scope c).2 ∧
      ∀ settings padding, Interchangeable env scope c settings padding →
        login (env.withPadding padding) scope (c.withConfig settings) =
          ((login env scope c).1, (login env scope c).2.withConfig settings) := by
  refine ⟨ends_login_course scope c, fun settings padding interchangeable => ?_⟩
  obtain ⟨same, resets⟩ := agree_login_reset interchangeable.sameRequests
  exact Prod.ext same.symm resets

/-- A login with a token does not show user and password, and one with a password does not show it
when the server's key cannot seal anything. -/
theorem canned_discreet :
    let env := Script.cannedEnvironment
    let client (config : Config) := Script.onChannel config none (Script.cannedLogin []) []
    let named := { Script.cannedConfig with user := "sys", password := "exasol" }
    let token := login env none (client Script.cannedConfig)
    let password := login env none (client { user := "sys", password := "exasol" })
    (token.1.toBool = true ∧ token.2.frames.length = 2 ∧
      login (env.withPadding fun n => List.replicate n 1) none
          ((client Script.cannedConfig).withConfig named) = (token.1, token.2.withConfig named)) ∧
    password.1.toBool = false ∧ password.2.frames.length = 1 ∧
      login (env.withPadding env.padding) none
          ((client { user := "sys", password := "exasol" }).withConfig
            { user := "sys", password := "secret" }) =
        (password.1, password.2.withConfig { user := "sys", password := "secret" }) := by
  intro env client named token password
  have hidden := (login_discreet env none (client Script.cannedConfig)).2 named
    (fun n => List.replicate n 1) (.accessToken (by decide) "sys" "exasol" "" _)
  let c := client { user := "sys", password := "exasol" }
  -- the reply to the opening has no key that could be read
  have empty : (send env (Login.opening c.session.config) KeyReply.ofValue none
      { c with session := c.session.opened }).1.toOption = some ⟨"", "", ""⟩ := by decide +kernel
  have unsealed := (login_discreet env none c).2 { user := "sys", password := "secret" } env.padding
    (.password rfl rfl "secret" _ fun key told => by
      obtain rfl : key = ⟨"", "", ""⟩ :=
        Option.some.inj ((congrArg Except.toOption told).symm.trans empty)
      rfl)
  refine ⟨⟨?_, ?_, hidden⟩, ?_, ?_, unsealed⟩
  all_goals decide +kernel

end Session

end ExaWire
