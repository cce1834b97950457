/-
ExaWire/Proofs/Import/Raced.lean

An import as it is run is one of the races.

`supervise` lets its statement run, the upload go on whenever the statement waits, and
judges both in between.  Each of these is retraced by steps of a race: what an upload does
to its socket and to scopes (`Feeds`), what an upload and a judgement do to an errand
(`Progress.race`), and what a client does while a statement runs (`Attends`).  All three are
preorders, so that the retracing follows the text of the actions.

An upload that waits for good never ends, and then neither does the race; in all other
cases the race is over when `supervise` is, with the same outcome.
-/
import ExaWire.Import.Run
import ExaWire.Proofs.Import.Race
import ExaWire.Proofs.Session.Elementary

namespace ExaWire.Import

variable {α β ω : Type}

/-! ### The elementary steps of an upload -/

/-- A relation that allows the elementary steps of an upload. -/
structure Upload.Allows (R : Upload → Upload → Prop) : Prop where
  write : ∀ bs, Leads R (Upload.write bs)
  check : ∀ scope, Leads R (Upload.check scope)
  count : ∀ (n : Nat) (u : Upload), R u { u with payload := u.payload + n }

namespace Upload.Allows

variable {R : Upload → Upload → Prop} [IsPreorder Upload R] (h : Upload.Allows R)

include h

theorem line (scope : Option ScopeId) (bs : Bytes) : Leads R (Upload.line scope bs) :=
  .bind (h.check scope) fun _ => .bind (.forM fun part => h.write part) fun _ => h.count bs.length

theorem file (scope : Option ScopeId) (delimiter : Bytes) (lines : Lines) (file : LocalFile) :
    Leads R (Upload.file scope delimiter lines file) := by
  -- by induction on what is read, for any reader: a block sends the lines that it completes
  induction file generalizing lines with
  | nil => exact .forM fun bs => h.line scope bs
  | cons delivery rest ih =>
    cases delivery with
    | failure text => exact .throw _
    | bytes block => exact .bind (.forM fun bs => h.line scope bs) fun _ => ih _

theorem run (scope : Option ScopeId) (separator : Bytes) (files : List LocalFile) :
    Leads R (Upload.run scope separator files) := by
  refine .bind (h.write _) fun _ => .bind (.forM fun file => h.file scope _ _ file) fun _ => ?_
  refine .bind (h.write _) fun _ => .bind .get fun u => ?_
  cases u.socket.flushFailure with
  | some text => exact .throw _
  | none => exact .pure _

end Upload.Allows

namespace Race

variable {own : ScopeId} {s s' s'' : Race α} {trace more : List (Act α)} {act : Act α}

/-! ### Stretches of a race -/

theorem Run.append (run : Run own s trace s') (run' : Run own s' more s'') :
    Run own s (trace ++ more) s'' := by
  induction run' with
  | nil => rwa [List.append_nil]
  | snoc _ step ih =>
    rw [← List.append_assoc]
    exact ih.snoc step

/-- Some steps lead from one state of a race to another. -/
def Reaches (own : ScopeId) (s s' : Race α) : Prop := ∃ trace, Run own s trace s'

theorem Reaches.refl (s : Race α) : Reaches own s s := ⟨[], .nil⟩

theorem Reaches.trans (h : Reaches own s s') (h' : Reaches own s' s'') : Reaches own s s'' := by
  obtain ⟨trace, run⟩ := h
  obtain ⟨more, run'⟩ := h'
  exact ⟨trace ++ more, run.append run'⟩

theorem Reaches.step (h : Reaches own s s') (step : Step own s' act s'') : Reaches own s s'' := by
  obtain ⟨trace, run⟩ := h
  exact ⟨_, run.snoc step⟩

/-- Cancelling scopes one after the other is a stretch of a race. -/
theorem reaches_apply (s : Race α) (cancellations : List Cancellation) :
    Reaches own s { s with scopes := s.scopes.apply cancellations } := by
  induction cancellations generalizing s with
  | nil => exact .refl s
  | cons wish rest ih =>
    have first : Reaches own s { s with scopes := s.scopes.cancel wish.scope wish.cause } :=
      (Reaches.refl s).step (.outside s (.cancel wish.scope wish.cause))
    exact first.trans (ih _)

/-! ### The upload -/

/-- What became of an upload is a stretch of any race in which it takes part. -/
def Feeds (α : Type) (own : ScopeId) (u v : Upload) : Prop :=
  ∀ s : Race α, s.tasks.upload = none → s.endpoint.socket = u.socket → s.scopes = u.scopes →
    Reaches own s
      { s with endpoint := { s.endpoint with socket := v.socket }, scopes := v.scopes }

theorem Feeds.of_same {u v : Upload} (socket : v.socket = u.socket) (scopes : v.scopes = u.scopes) :
    Feeds α own u v := by
  intro s _ hsocket hscopes
  rw [socket, scopes, ← hsocket, ← hscopes]
  exact .refl s

instance : IsPreorder Upload (Feeds α own) where
  refl _ := .of_same rfl rfl
  trans _ _ _ h h' s pending socket scopes :=
    (h s pending socket scopes).trans (h' { s with endpoint := _, scopes := _ } pending rfl rfl)

theorem isShut_write (socket : Network.Socket) (bs : Bytes) :
    (socket.write bs).2.isShut = socket.isShut := by
  unfold Network.Socket.write
  dsimp only
  split
  · rfl
  · split
    · split <;> rfl
    · rfl

theorem feeds_write (bs : Bytes) : Leads (Feeds α own) (Upload.write bs) := by
  intro u
  have fed : Feeds α own u { u with
      socket := (u.socket.write bs).2
      scopes := u.scopes.apply (u.socket.write bs).2.dueAlarms } := by
    intro s pending socket scopes
    rw [← socket, ← scopes]
    let written : Race α := { s with endpoint := { s.endpoint with socket := (s.endpoint.socket.write bs).2 } }
    have write : Reaches own s written := (Reaches.refl s).step (.fed s _ pending (isShut_write _ bs))
    exact write.trans (reaches_apply written _)
  unfold Ends Upload.write
  rw [get_bind_apply]
  generalize u.socket.write bs = turn at fed ⊢
  obtain ⟨_ | _ | _, socket⟩ := turn <;> exact fed

theorem feeds_check (scope : Option ScopeId) : Leads (Feeds α own) (Upload.check scope) := by
  intro u
  cases scope with
  | none => exact .of_same rfl rfl
  | some id =>
    have asked : Feeds α own u { u with scopes := (u.scopes.poll id).2 } := by
      intro s pending socket scopes
      rw [← socket, ← scopes]
      exact (Reaches.refl s).step (.asked s id)
    unfold Ends Upload.check
    dsimp only
    rw [get_bind_apply]
    generalize u.scopes.poll id = turn at asked ⊢
    obtain ⟨_ | cause, scopes⟩ := turn <;> exact asked

theorem feeds_allowed : Upload.Allows (Feeds α own) where
  write := feeds_write
  check := feeds_check
  count _ _ := .of_same rfl rfl

theorem feeds_upload (scope : Option ScopeId) (separator : Bytes) (files : List LocalFile)
    (s : Race α) (pending : s.tasks.upload = none) :
    Reaches own s { s with
      endpoint := (s.endpoint.upload scope separator files s.scopes).2.1
      scopes := (s.endpoint.upload scope separator files s.scopes).2.2.1 } := by
  unfold Endpoint.upload
  split
  · have fed : Feeds α own ⟨s.endpoint.socket, s.scopes, 0⟩
        ((Upload.run scope separator files).run ⟨s.endpoint.socket, s.scopes, 0⟩).2 :=
      feeds_allowed.run scope separator files _
    generalize (Upload.run scope separator files).run ⟨s.endpoint.socket, s.scopes, 0⟩ = turn at fed ⊢
    obtain ⟨(_ | _ | _) | _, u⟩ := turn <;> exact fed s pending rfl rfl
  · exact .refl s

end Race

/-! ### Errands -/

namespace Progress

open Race (Reaches Step)

variable {statement : Option (Attempt α)}

/-- The race that an errand is, given how the statement ended if it has: a supervisor with a
verdict has cancelled the scope and shut the connection down. -/
def race (statement : Option (Attempt α)) (p : Progress) : Race α where
  tasks := { statement, upload := p.errand.result }
  watch := match p.errand.verdict with
    | none => .waiting
    | some f => .shut f
  endpoint := p.endpoint
  scopes := p.scopes

theorem race_of_verdict {p : Progress} {f : Failure} (h : p.errand.verdict = some f) :
    (p.race statement).watch = .shut f := by
  unfold race
  rw [h]

theorem race_of_none {p : Progress} (h : p.errand.verdict = none) :
    (p.race statement).watch = .waiting := by
  unfold race
  rw [h]

theorem scope_judge (p : Progress) : (p.judge statement).errand.scope = p.errand.scope := by
  unfold judge
  split
  · rfl
  · split <;> rfl

/-- To judge is to wake up, to decide, to cancel the scope and to shut the connection down; or
nothing, if there is no failure. -/
theorem reaches_judge (p : Progress) :
    Reaches p.errand.scope (p.race statement) ((p.judge statement).race statement) := by
  unfold judge
  split
  · exact .refl _
  · next waits =>
    split
    · next f cause =>
      have failed : (p.race statement).tasks.failures ≠ [] := fun none =>
        absurd (cause.symm.trans (firstCause_eq_none.mpr none)) (Option.some_ne_none f)
      have seen : Reaches p.errand.scope (p.race statement)
          { p.race statement with watch := (p.race statement).tasks.verdict } :=
        (Reaches.refl _).step (.noticed _ _ (race_of_none waits) (.refl _) (.inl failed))
      have verdict : (p.race statement).tasks.verdict = .decided f := by
        unfold Tally.verdict
        rw [show firstCause (p.race statement).tasks.failures = some f from cause]
      rw [verdict] at seen
      exact (seen.step (.cancelled _ f rfl)).step (.shut _ f rfl)
    · exact .refl _

theorem scope_upload (p : Progress) : p.upload.errand.scope = p.errand.scope := by
  unfold upload
  split
  · rfl
  · dsimp only
    split <;> rfl

/-- To let the upload go on is to feed the server, and to end the upload if it ends. -/
theorem reaches_upload (p : Progress) :
    Reaches p.errand.scope (p.race statement) (p.upload.race statement) := by
  unfold upload
  split
  · exact .refl _
  · next pending =>
    have fed : Reaches p.errand.scope (p.race statement) _ :=
      Race.feeds_upload (some p.errand.scope) p.errand.separator p.errand.files (p.race statement) pending
    change Reaches _ _ { p.race statement with
      endpoint := (p.endpoint.upload _ _ _ p.scopes).2.1
      scopes := (p.endpoint.upload _ _ _ p.scopes).2.2.1 } at fed
    generalize p.endpoint.upload _ _ _ p.scopes = turn at fed ⊢
    obtain ⟨result | _, endpoint, scopes, notes⟩ := turn
    · exact fed.step (.uploaded _ result pending)
    · exact fed

theorem scope_round (p : Progress) : (p.upload.judge statement).errand.scope = p.errand.scope :=
  p.upload.scope_judge.trans p.scope_upload

/-- To let the upload go on and then to judge, as a supervisor does again and again. -/
theorem reaches_round (p : Progress) :
    Reaches p.errand.scope (p.race statement) ((p.upload.judge statement).race statement) :=
  p.reaches_upload.trans (p.scope_upload ▸ p.upload.reaches_judge)

end Progress

/-! ### Clients -/

/-- The errand of a client, if one is under way at an endpoint. -/
def underway (c : Client ω) : Option Progress :=
  match c.errand, c.endpoint with
  | some errand, some endpoint => some { errand, endpoint, scopes := c.scopes }
  | _, _ => none

/-- What a client does while a statement runs is a stretch of the race that it takes part in,
if there is one. -/
def Attends (α : Type) (c c' : Client ω) : Prop :=
  ∀ p, underway c = some p → ∃ p', underway c' = some p' ∧ p'.errand.scope = p.errand.scope ∧
    Race.Reaches p.errand.scope (p.race (none : Option (Attempt α))) (p'.race none)

section Attends

open Network
open Race (Reaches)

variable {c c' : Client ω} {env : Environment ω}

theorem underway_eq {errand : Errand} {endpoint : Endpoint} (h : c.errand = some errand)
    (h' : c.endpoint = some endpoint) : underway c = some { errand, endpoint, scopes := c.scopes } := by
  unfold underway
  rw [h, h']

theorem of_underway {p : Progress} (h : underway c = some p) : ∃ errand endpoint,
    c.errand = some errand ∧ c.endpoint = some endpoint ∧
      p = { errand, endpoint, scopes := c.scopes } := by
  unfold underway at h
  split at h
  · next hasErrand hasEndpoint =>
    cases h
    exact ⟨_, _, hasErrand, hasEndpoint, rfl⟩
  · cases h

instance : IsPreorder (Client ω) (Attends α) where
  refl _ p h := ⟨p, h, rfl, .refl _⟩
  trans _ _ _ h h' p is := by
    obtain ⟨p', is', scope', reaches'⟩ := h p is
    obtain ⟨p'', is'', scope'', reaches''⟩ := h' p' is'
    rw [scope'] at scope'' reaches''
    exact ⟨p'', is'', scope'', reaches'.trans reaches''⟩

/-- Only scopes were changed, in a way that any race may see. -/
theorem Attends.of_scopes (errand : c'.errand = c.errand) (endpoint : c'.endpoint = c.endpoint)
    (scopes : ∀ (own : ScopeId) (s : Race α), s.scopes = c.scopes →
      Reaches own s { s with scopes := c'.scopes }) : Attends α c c' := by
  intro p is
  obtain ⟨errand₀, endpoint₀, hasErrand, hasEndpoint, rfl⟩ := of_underway is
  have is' := underway_eq (errand.trans hasErrand) (endpoint.trans hasEndpoint)
  exact ⟨_, is', rfl, scopes _ _ rfl⟩

/-- Nothing was changed that a race could see. -/
theorem Attends.of_same (errand : c'.errand = c.errand) (endpoint : c'.endpoint = c.endpoint)
    (scopes : c'.scopes = c.scopes) : Attends α c c' :=
  .of_scopes errand endpoint fun _ s h => by
    rw [scopes, ← h]
    exact .refl s

theorem attends_after {β : Type} (turn : Turn ω β) (c : Client ω) : Attends α c (c.after turn) :=
  .of_scopes rfl rfl fun _ s h => by
    show Reaches _ s { s with scopes := c.scopes.apply turn.cancellations }
    rw [← h]
    exact Race.reaches_apply s _

theorem attends_poll (scope : ScopeId) (c : Client ω) : Attends α c (c.poll scope).2 :=
  .of_scopes rfl rfl fun _ s h => by
    show Reaches _ s { s with scopes := (c.scopes.poll scope).2 }
    rw [← h]
    exact (Reaches.refl s).step (.asked s scope)

/-- What is done to an errand that is under way. -/
theorem underway_advance {p : Progress} (step : Progress → Progress) (h : underway c = some p) :
    underway (c.advance step) = some { step p with events := [], notes := [] } := by
  obtain ⟨errand, endpoint, hasErrand, hasEndpoint, rfl⟩ := of_underway h
  unfold Client.advance
  rw [hasErrand, hasEndpoint]
  rfl

theorem attends_idle (c : Client ω) : Attends α c c.idle := fun p is =>
  ⟨_, underway_advance _ is, p.scope_round, p.reaches_round⟩

/-- A request that is under way lets the upload go on while it waits, and does nothing else to
the race. -/
theorem attends_allowed : Client.Allows (Attends α : Client ω → Client ω → Prop) where
  session _ _ := .of_same rfl rfl rfl
  annotate _ _ := .of_same rfl rfl rfl
  after turn c := attends_after turn c
  sent _ _ := .of_same rfl rfl rfl
  received _ _ := .of_same rfl rfl rfl
  poll := attends_poll
  idle := attends_idle

/-- A statement, with parameters or without, attends to the upload while it waits. -/
theorem attends_run (sql : String) (values : Value) (scope : Option ScopeId) :
    Leads (Attends α) (Statement.run env sql values scope) :=
  attends_allowed.run sql values scope

end Attends

/-! ### The supervisor -/

/-- Two outcomes of a race: what was returned, and what was raised. -/
def Watch.ofOutcome : Attempt α → Watch α
  | .ok a => .returned a
  | .error f => .raised f

/-- What an errand comes to, given what the statement gave. -/
def Errand.outcome (r : Attempt α) (errand : Errand) : Attempt α :=
  match errand.verdict with
  | some f => .error f
  | none => r

/-- A race whose tasks have ended comes to its end, with the verdict or with what the statement
gave. -/
theorem Progress.reaches_end {r : Attempt α} {p : Progress} {result : Attempt Nat}
    (ended : p.errand.result = some result)
    (judged : p.errand.verdict = none → failuresOf (some r) p.errand.result = []) :
    Race.Reaches p.errand.scope (p.race (some r))
      { p.race (some r) with watch := .ofOutcome (p.errand.outcome r) } := by
  have both : (p.race (some r)).tasks.Ended := ⟨rfl, Option.isSome_of_eq_some ended⟩
  unfold Errand.outcome
  cases verdict : p.errand.verdict with
  | some f => exact (Race.Reaches.refl _).step (.raised _ f (race_of_verdict verdict) both)
  | none =>
    have none : (p.race (some r)).tasks.failures = [] := judged verdict
    obtain ⟨a, statement, -⟩ := both.succeeded none
    obtain rfl : r = .ok a := Option.some.inj statement
    have seen : Race.Reaches p.errand.scope (p.race (some (.ok a))) { p.race (some (.ok a)) with
        watch := (p.race (some (.ok a))).tasks.verdict } :=
      (Race.Reaches.refl _).step (.noticed _ _ (race_of_none verdict) (.refl _) (.inr both))
    have satisfied : (p.race (some (.ok a))).tasks.verdict = .satisfied := by
      unfold Tally.verdict
      rw [firstCause_eq_none.mpr none]
    rw [satisfied] at seen
    exact seen.step (.returned _ a rfl rfl)

/-- An errand that was judged and has no verdict has no failure. -/
theorem Progress.failuresOf_judge {statement : Option (Attempt α)} {p : Progress}
    (h : (p.judge statement).errand.verdict = none) :
    failuresOf statement (p.judge statement).errand.result = [] := by
  unfold judge at h ⊢
  cases verdict : p.errand.verdict with
  | some f =>
    simp only [verdict] at h
    cases h
  | none =>
    cases cause : firstCause (failuresOf statement p.errand.result) with
    | some f =>
      simp only [verdict, cause] at h
      cases h
    | none => exact firstCause_eq_none.mp cause

/-- When the statement has ended, its end is judged, and the upload goes on as far as it can and is
judged too. -/
theorem underway_settle {c : Client ω} {p : Progress} (r : Attempt α) (h : underway c = some p) :
    ∃ p', underway ((c.advance (Progress.judge (some r))).advance
        fun p => p.upload.judge (some r)) = some p' ∧
      p'.errand.scope = p.errand.scope ∧
      Race.Reaches p.errand.scope (p.race (some r)) (p'.race (some r)) ∧
      (p'.errand.verdict = none → failuresOf (some r) p'.errand.result = []) := by
  -- what is told of a step is left to the client, and is none of the race
  let judged : Progress := { p.judge (some r) with events := [], notes := [] }
  have scope : judged.errand.scope = p.errand.scope := p.scope_judge
  have judge : Race.Reaches p.errand.scope (p.race (some r)) (judged.race (some r)) := p.reaches_judge
  have round : Race.Reaches p.errand.scope (judged.race (some r))
      ((judged.upload.judge (some r)).race (some r)) := scope ▸ judged.reaches_round
  exact ⟨_, underway_advance _ (underway_advance _ h), judged.scope_round.trans scope,
    judge.trans round, Progress.failuresOf_judge⟩

theorem ends_supervise {errand : Errand} {execute : Action ω α} {c : Client ω}
    {Q : Attempt α → Client ω → Prop} {R : Attempt α → Client ω → Prop}
    (executes : Ends execute { c with errand := some errand } R)
    (h : ∀ r c₁, R r c₁ → ∀ c₃, c₃ = (c₁.advance (Progress.judge (some r))).advance
        (fun p => p.upload.judge (some r)) →
      Q ((c₃.errand.map (·.outcome r)).getD r) { c₃ with errand := none }) :
    Ends (supervise errand execute) c Q := by
  refine .update (.attempt executes fun r c₁ h₁ => .update (.update ?_))
  have leaves := h r c₁ h₁ _ rfl
  generalize (c₁.advance (Progress.judge (some r))).advance _ = c₃ at leaves ⊢
  show Ends (do
    Action.update fun c => { c with errand := none }
    match c₃.errand.bind (·.verdict) with
    | some f => throw f
    | none => Action.ofAttempt r) c₃ Q
  refine .update ?_
  cases is : c₃.errand with
  | none =>
    rw [is] at leaves
    exact leaves
  | some errand =>
    rw [is] at leaves
    change Q (errand.outcome r) _ at leaves
    unfold Errand.outcome at leaves
    cases verdict : errand.verdict with
    | none =>
      rw [verdict] at leaves
      simp only [Option.bind, verdict]
      exact leaves
    | some f =>
      rw [verdict] at leaves
      simp only [Option.bind, verdict]
      exact .throw leaves

/-- A statement and an upload that are supervised race: the client ends where some steps of a race
lead that begins as the errand does, and if the upload has ended, the race is over, with the
outcome that is given. -/
theorem supervise_races {errand : Errand} {execute : Action ω α}
    (attends : Leads (Attends α) execute) {c : Client ω} {endpoint : Endpoint}
    (dialled : c.endpoint = some endpoint) (goesOn : errand.result = none)
    (undecided : errand.verdict = none) :
    Ends (supervise errand execute) c fun r c' =>
      ∃ trace s, Race.Run errand.scope { endpoint, scopes := c.scopes } trace s ∧
        c'.endpoint = some s.endpoint ∧ c'.scopes = s.scopes ∧
        (s.tasks.upload.isSome → s.watch = .ofOutcome r) := by
  have begins : Progress.race (none : Option (Attempt α)) { errand, endpoint, scopes := c.scopes } =
      { endpoint, scopes := c.scopes } := by
    unfold Progress.race
    rw [goesOn, undecided]
  refine ends_supervise (attends _) ?_
  rintro r c₁ attended c₃ rfl
  obtain ⟨p₁, is₁, scope₁, reaches₁⟩ := attended _ (underway_eq rfl dialled)
  obtain ⟨p₃, is₃, scope₃, reaches₃, judged⟩ := underway_settle r is₁
  rw [begins] at reaches₁
  rw [scope₁] at scope₃ reaches₃
  have reaches := (reaches₁.step (.executed _ r rfl)).trans reaches₃
  obtain ⟨errand₃, endpoint₃, hasErrand, hasEndpoint, rfl⟩ := of_underway is₃
  generalize (c₁.advance (Progress.judge (some r))).advance _ = c₃ at hasErrand hasEndpoint reaches ⊢
  rw [hasErrand]
  cases ended : errand₃.result with
  | none =>
    obtain ⟨trace, run⟩ := reaches
    refine ⟨trace, _, run, hasEndpoint, rfl, fun uploaded => ?_⟩
    change errand₃.result.isSome at uploaded
    rw [ended] at uploaded
    exact absurd uploaded Bool.false_ne_true
  | some result =>
    have ending := Progress.reaches_end (p := ⟨errand₃, endpoint₃, c₃.scopes, [], []⟩) ended judged
    obtain ⟨trace, run⟩ := reaches.trans (scope₃ ▸ ending)
    exact ⟨trace, _, run, hasEndpoint, rfl, fun _ => rfl⟩

end ExaWire.Import
