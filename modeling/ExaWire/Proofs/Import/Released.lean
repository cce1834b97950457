/-
ExaWire/Proofs/Import/Released.lean

What an import acquires, and that all of it is released.

An import is prepared in stages: its statement is read, its files are opened, a host is
dialled, an endpoint is negotiated, and the statement is redirected to it.  `Prepares` tells
at which stage that ends, and what was acquired until then.  Of all this the statement and
the upload know nothing; they are started when the last stage is done, and not before.

The statement is any action that minds its own business (`Minds`): while it runs, it leaves
the connection to the endpoint as it is, and neither opens nor closes anything itself.  So
what was acquired in the stages is what is there to release, however the import ends.
-/
import ExaWire.Proofs.Import.Raced
import ExaWire.Proofs.Script.Course

namespace ExaWire

open Network

/-- What is seen of acquiring and releasing: files that are opened and closed, hosts that are
dialled, connections that are closed. -/
def Happening.isOfResource : Happening → Bool
  | .opened _ | .released _ => true
  | .network (.shut _) => false
  | .network _ => true
  | _ => false

namespace Import

variable {ω α : Type} {env : Environment ω}

/-! ### Actions that mind their own business -/

/-- The host of an endpoint, and whether the connection is open. -/
def Endpoint.connection (e : Endpoint) : String × Bool := (e.socket.host, e.isOpen)

/-- A client acquired and released nothing, and is connected as it was. -/
structure Minds (c c' : Client ω) : Prop where
  connection : c'.endpoint.map Endpoint.connection = c.endpoint.map Endpoint.connection
  happenings : ∃ during, c'.happenings = c.happenings ++ during ∧
    ∀ h ∈ during, h.isOfResource = false

theorem Minds.of_same {c c' : Client ω} (endpoint : c'.endpoint = c.endpoint)
    (happenings : c'.happenings = c.happenings) : Minds c c' where
  connection := by rw [endpoint]
  happenings := ⟨[], by rw [happenings, List.append_nil], List.forall_mem_nil _⟩

theorem Minds.adds {c c' : Client ω} (endpoint : c'.endpoint = c.endpoint) {during : List Happening}
    (happenings : c'.happenings = c.happenings ++ during)
    (other : ∀ h ∈ during, h.isOfResource = false) : Minds c c' where
  connection := by rw [endpoint]
  happenings := ⟨during, happenings, other⟩

instance : IsPreorder (Client ω) Minds where
  refl c := .of_same rfl rfl
  trans c c' c'' h h' := by
    obtain ⟨during, happenings, other⟩ := h.happenings
    obtain ⟨during', happenings', other'⟩ := h'.happenings
    refine ⟨h'.connection.trans h.connection, during ++ during', ?_, ?_⟩
    · rw [happenings', happenings, List.append_assoc]
    · exact List.forall_mem_append.2 ⟨other, other'⟩

/-- A step of an upload under way keeps the connection, but for shutting it down. -/
structure Progress.Keeps (p q : Progress) : Prop where
  connection : q.endpoint.connection = p.endpoint.connection
  events : ∃ during, q.events = p.events ++ during ∧ ∀ e ∈ during, ∃ host, e = .shut host

namespace Progress.Keeps

variable {p q s : Progress}

theorem of_same (connection : q.endpoint.connection = p.endpoint.connection)
    (events : q.events = p.events) : Keeps p q :=
  ⟨connection, [], by rw [events, List.append_nil], List.forall_mem_nil _⟩

theorem trans (h : Keeps p q) (h' : Keeps q s) : Keeps p s := by
  obtain ⟨during, events, shut⟩ := h.events
  obtain ⟨during', events', shut'⟩ := h'.events
  refine ⟨h'.connection.trans h.connection, during ++ during', ?_, ?_⟩
  · rw [events', events, List.append_assoc]
  · exact List.forall_mem_append.2 ⟨shut, shut'⟩

end Progress.Keeps

theorem keeps_giveUp (f : Failure) (p : Progress) : p.Keeps (p.giveUp f) := by
  have aborted : p.endpoint.abort.1.connection = p.endpoint.connection := by
    unfold Endpoint.abort
    split <;> rfl
  refine ⟨aborted, p.endpoint.abort.2.1, rfl, ?_⟩
  unfold Endpoint.abort
  split
  · exact List.forall_mem_singleton.2 ⟨_, rfl⟩
  · exact List.forall_mem_nil _

theorem keeps_judge (statement : Option (Attempt α)) (p : Progress) :
    p.Keeps (p.judge statement) := by
  unfold Progress.judge
  split
  · exact .of_same rfl rfl
  · split
    · exact keeps_giveUp _ p
    · exact .of_same rfl rfl

/-- Two uploads through one connection. -/
def SameHost (u v : Upload) : Prop := v.socket.host = u.socket.host

instance : IsPreorder Upload SameHost where
  refl _ := rfl
  trans _ _ _ h h' := h'.trans h

theorem host_write (socket : Socket) (bs : Bytes) : (socket.write bs).2.host = socket.host := by
  unfold Socket.write
  dsimp only
  split
  · rfl
  · split
    · split <;> rfl
    · rfl

theorem sameHost_allowed : Upload.Allows SameHost where
  write bs u := by
    have same : SameHost u { u with
        socket := (u.socket.write bs).2
        scopes := u.scopes.apply (u.socket.write bs).2.dueAlarms } := host_write _ bs
    unfold Ends Upload.write
    rw [get_bind_apply]
    generalize u.socket.write bs = turn at same ⊢
    obtain ⟨_ | _ | _, socket⟩ := turn <;> exact same
  check scope u := by
    cases scope with
    | none => exact refl_of SameHost u
    | some id =>
      unfold Ends Upload.check
      dsimp only
      rw [get_bind_apply]
      obtain ⟨_ | cause, scopes⟩ := u.scopes.poll id <;> exact refl_of SameHost u
  count _ u := refl_of SameHost u

theorem connection_upload (scope : Option ScopeId) (separator : Bytes) (files : List LocalFile)
    (scopes : Scopes) (e : Endpoint) :
    (e.upload scope separator files scopes).2.1.connection = e.connection := by
  unfold Endpoint.upload
  split
  · have same : SameHost ⟨e.socket, scopes, 0⟩
        ((Upload.run scope separator files).run ⟨e.socket, scopes, 0⟩).2 :=
      sameHost_allowed.run scope separator files _
    generalize (Upload.run scope separator files).run ⟨e.socket, scopes, 0⟩ = turn at same ⊢
    obtain ⟨(_ | _ | _) | _, u⟩ := turn <;> exact Prod.ext same rfl
  · rfl

theorem keeps_upload (p : Progress) : p.Keeps p.upload := by
  unfold Progress.upload
  split
  · exact .of_same rfl rfl
  · have connection := connection_upload (some p.errand.scope) p.errand.separator p.errand.files
      p.scopes p.endpoint
    generalize p.endpoint.upload _ _ _ p.scopes = turn at connection ⊢
    obtain ⟨_ | _, endpoint, scopes, notes⟩ := turn
    · exact .of_same connection rfl
    · exact .of_same connection rfl

theorem minds_advance {step : Progress → Progress} (keeps : ∀ p, Progress.Keeps p (step p))
    (c : Client ω) : Minds c (c.advance step) := by
  unfold Client.advance
  split
  · next errand endpoint _ hasEndpoint =>
    have kept := keeps { errand, endpoint, scopes := c.scopes }
    obtain ⟨during, events, shut⟩ := kept.events
    refine ⟨?_, during.map .network, ?_, ?_⟩
    · rw [hasEndpoint]
      exact congrArg some kept.connection
    · exact congrArg (fun es => c.happenings ++ es.map .network) events
    · refine List.forall_mem_map.2 fun e he => ?_
      obtain ⟨host, rfl⟩ := shut e he
      rfl
  · exact refl_of Minds c

theorem minds_allowed : Client.Allows (Minds : Client ω → Client ω → Prop) where
  session _ _ := .of_same rfl rfl
  annotate _ _ := .of_same rfl rfl
  after _ _ := .adds rfl rfl fun _ hx => by rw [List.eq_of_mem_replicate hx]; rfl
  sent _ _ := .adds rfl rfl (List.forall_mem_singleton.2 rfl)
  received _ _ := .adds rfl rfl (List.forall_mem_singleton.2 rfl)
  poll _ _ := .of_same rfl rfl
  idle := minds_advance fun p => (keeps_upload p).trans (keeps_judge _ _)

/-- A statement, with parameters or without, minds its own business. -/
theorem minds_run (sql : String) (values : Value) (scope : Option ScopeId) :
    Leads Minds (Statement.run env sql values scope) := minds_allowed.run sql values scope

/-- So do a statement and an upload that are supervised. -/
theorem minds_supervise (errand : Errand) {execute : Action ω α} (minds : Leads Minds execute) :
    Leads Minds (supervise errand execute) := by
  intro c
  refine ends_supervise (minds _) ?_
  intro r c₁ minded c₃ settled
  have begun : Minds c { c with errand := some errand } := .of_same rfl rfl
  have judged := minds_advance (keeps_judge (some r)) c₁
  have ended := minds_advance (fun p => (keeps_upload p).trans (keeps_judge (some r) _))
    (c₁.advance (Progress.judge (some r)))
  rw [← settled] at ended
  have left : Minds c₃ { c₃ with errand := none } := .of_same rfl rfl
  have during := trans_of Minds minded (trans_of Minds judged ended)
  exact trans_of Minds begun (trans_of Minds during left)

/-! ### The stages of an import -/

/-- An import as it is asked for, but for what executes its statement. -/
structure Asked (ω : Type) where
  env : Environment ω
  spec : String
  port : Int
  sql : String
  parent : Option ScopeId
  client : Client ω

namespace Asked

/-- Runs the import. -/
def run (A : Asked ω) (execute : String → ScopeId → Action ω α) : Attempt α × Client ω :=
  Import.run A.env A.spec A.port A.sql execute A.parent A.client

/-- The hosts that it asks for, in the order in which they are tried. -/
def candidates (A : Asked ω) : Attempt (List String) :=
  (Hosts.resolve A.spec).map (A.env.order A.client.dials)

/-- The two tasks of an import: a statement to execute, and what to upload meanwhile. -/
structure Tasks where
  statement : String
  errand : Errand

/-- The statement was read, and all files that it names are open, in order. -/
structure Opens (A : Asked ω) (job : Job) (files : List LocalFile) : Prop where
  read : Job.ofStatement A.sql = .ok job
  found : job.paths.map A.env.files = files.map some

/-- One of the hosts was dialled, and some of them in vain before that. -/
structure Dials (A : Asked ω) (job : Job) (files : List LocalFile) (dialling : List Event)
    (e : Endpoint) : Prop extends A.Opens job files where
  dials : ∃ hosts, A.candidates = .ok hosts ∧
    Endpoint.dial A.env.directory A.client.dials hosts A.port = (.ok e, dialling)

/-- Where the stages of an import end: the files that were opened, the hosts that were dialled,
the connection if one was made, and the tasks that are ready or else the failure. -/
inductive Prepares (A : Asked ω) :
    List String → List Event → Option Endpoint → Attempt Tasks → Prop
  | unread {f} (unread : Job.ofStatement A.sql = .error f) : Prepares A [] [] none (.error f)
  | missing {job path rest} {opened : List String} {files : List LocalFile}
      (read : Job.ofStatement A.sql = .ok job) (paths : job.paths = opened ++ path :: rest) (found : opened.map A.env.files = files.map some)
      (missing : A.env.files path = none) :
    Prepares A opened [] none (.error (.noFile path))
  | unresolved {job files f} (opens : A.Opens job files) (fails : A.candidates = .error f) :
    Prepares A job.paths [] none (.error f)
  | unreachable {job files hosts dialling f} (opens : A.Opens job files)
      (resolves : A.candidates = .ok hosts)
      (fails : Endpoint.dial A.env.directory A.client.dials hosts A.port = (.error f, dialling)) :
    Prepares A job.paths dialling none (.error f)
  | refused {job files dialling dialled e notes f} (dials : A.Dials job files dialling dialled)
      (fails : dialled.negotiate = (.error f, e, notes)) :
    Prepares A job.paths dialling (some e) (.error f)
  | unredirected {job files dialling dialled address e notes f}
      (dials : A.Dials job files dialling dialled)
      (negotiates : dialled.negotiate = (.ok address, e, notes))
      (fails : job.bindTo e.url = .error f) :
    Prepares A job.paths dialling (some e) (.error f)
  | ready {job files dialling dialled address e notes bound}
      (dials : A.Dials job files dialling dialled)
      (negotiates : dialled.negotiate = (.ok address, e, notes))
      (redirects : job.bindTo e.url = .ok bound) :
    Prepares A job.paths dialling (some e) (.ok {
      statement := bound.redirected
      errand := { scope := A.client.scopes.length, separator := bound.separator, files } })

end Asked

/-! ### Files -/

/-- Either all files are there, or one of them is the first that is missing. -/
theorem found_or_missing (env : Environment ω) (paths : List String) :
    (∃ files : List LocalFile, paths.map env.files = files.map some) ∨
    ∃ (opened : List String) (files : List LocalFile) (path : String) (rest : List String),
      paths = opened ++ path :: rest ∧ opened.map env.files = files.map some ∧
      env.files path = none := by
  induction paths with
  | nil => exact .inl ⟨[], rfl⟩
  | cons path paths ih =>
    cases is : env.files path with
    | none => exact .inr ⟨[], [], path, paths, rfl, rfl, is⟩
    | some file =>
      rcases ih with ⟨files, found⟩ | ⟨opened, files, absent, rest, rfl, found, none⟩
      · refine .inl ⟨file :: files, ?_⟩
        rw [List.map_cons, is, found]
        rfl
      · refine .inr ⟨path :: opened, file :: files, absent, rest, rfl, ?_, none⟩
        rw [List.map_cons, is, found]
        rfl

/-- Files that are there are opened, and then those that follow. -/
theorem openFiles_append {opened : List String} {files : List LocalFile}
    (found : opened.map env.files = files.map some) (rest : List String) :
    openFiles env (opened ++ rest) =
      (opened.zip files ++ (openFiles env rest).1, (openFiles env rest).2) := by
  induction opened generalizing files with
  | nil => rfl
  | cons path opened ih =>
    cases files with
    | nil => cases found
    | cons file files =>
      obtain ⟨is, found⟩ := List.cons.inj found
      rw [List.cons_append, openFiles, is]
      simp only [ih found, List.zip_cons_cons, List.cons_append]

/-- What is told of files that are opened and released are their names. -/
theorem map_zip_of_found {opened : List String} {files : List LocalFile}
    (found : opened.map env.files = files.map some) (f : String → Happening) :
    (opened.zip files).map (fun file => f file.1) = opened.map f := by
  have length : opened.length = files.length := by
    rw [← List.length_map env.files, found, List.length_map]
  have names : (opened.zip files).map Prod.fst = opened :=
    List.map_fst_zip (Nat.le_of_eq length)
  calc (opened.zip files).map (fun file => f file.1)
      = ((opened.zip files).map Prod.fst).map f := (List.map_map ..).symm
    _ = opened.map f := by rw [names]

/-! ### The connection -/

theorem host_receive (size : Nat) (s : Socket) : (s.receive size).2.host = s.host := by
  unfold Socket.receive
  split <;> rfl

theorem host_receiveExactly (size : Nat) (got : Bytes) (s : Socket) :
    (Endpoint.receiveExactly size got s).2.host = s.host := by
  fun_induction Endpoint.receiveExactly size got s with
  | case1 => rfl
  | case2 got s _ text s' received | case3 got s _ s' received =>
    have same := host_receive (size - got.length) s
    rw [received] at same
    exact same
  | case4 got s _ b chunk s' received ih =>
    have same := host_receive (size - got.length) s
    rw [received] at same
    exact ih.trans same

/-- To negotiate an endpoint leaves the connection to it as it is. -/
theorem connection_negotiate (e : Endpoint) : e.negotiate.2.1.connection = e.connection := by
  have sends : (e.socket.send Endpoint.request).2.host = e.socket.host := by
    unfold Socket.send
    split <;> rfl
  unfold Endpoint.negotiate
  split
  · generalize e.socket.send Endpoint.request = turn at sends ⊢
    obtain ⟨text | _, socket⟩ := turn
    · exact congrArg (·, e.isOpen) sends
    · have receives := (host_receiveExactly Endpoint.replySize [] socket).trans sends
      dsimp only
      generalize Endpoint.receiveExactly Endpoint.replySize [] socket = turn at receives ⊢
      obtain ⟨f | reply, socket'⟩ := turn <;> exact congrArg (·, e.isOpen) receives
  · rfl

/-- A connection that is made is open. -/
theorem isOpen_dialFrom {directory : Directory} {port : Int} {hosts : List String} (dials : Nat)
    (reasons : List String) {e : Endpoint} {dialling : List Event}
    (h : Endpoint.dialFrom directory port dials reasons hosts = (.ok e, dialling)) : e.isOpen := by
  induction hosts generalizing dials reasons dialling with
  | nil => cases h
  | cons host hosts ih =>
    unfold Endpoint.dialFrom at h
    cases answer : directory dials host with
    | ok peer =>
      rw [answer] at h
      cases h
      rfl
    | error text =>
      rw [answer] at h
      dsimp only at h
      generalize later : Endpoint.dialFrom directory port (dials + 1) _ hosts = turn at h
      obtain ⟨r, events⟩ := turn
      cases h
      exact ih _ _ later

theorem guarded_closeEndpoint (a : Action ω α) (c : Client ω) : Action.guarded a closeEndpoint c =
    ((a c).1, ((closeEndpoint : Action ω Unit) (a c).2).2) := by
  show (Action.attempt a >>= _) c = _
  rw [bind_apply]
  show ((closeEndpoint : Action ω Unit) >>= fun _ => Action.ofAttempt (a c).1) (a c).2 = _
  rw [bind_apply]
  rfl

namespace Asked

variable {A : Asked ω} {job : Job} {files : List LocalFile} {execute : String → ScopeId → Action ω α}

/-! ### The run of an import -/

theorem ofAttempt_ok_bind {β : Type} (b : β) (f : β → Action ω α) :
    (Action.ofAttempt (.ok b) >>= f) = f b := rfl

/-- The client when some files are open. -/
def opened (A : Asked ω) (paths : List String) : Client ω :=
  Client.record (paths.map .opened)
    { A.client with scopes := (A.client.scopes.create .none A.parent).2 }

theorem run_of_unread {f : Failure} (unread : Job.ofStatement A.sql = .error f) :
    A.run execute = (.error f, A.client) := by
  unfold run Import.run
  rw [unread]
  rfl

theorem run_of_missing {opened rest : List String} {path : String}
    (read : Job.ofStatement A.sql = .ok job) (paths : job.paths = opened ++ path :: rest)
    (found : opened.map A.env.files = files.map some) (missing : A.env.files path = none) :
    A.run execute =
      (.error (.noFile path), (A.opened opened).record (opened.reverse.map .released)) := by
  have opens : openFiles A.env job.paths = (opened.zip files, .error (.noFile path)) := by
    rw [paths, openFiles_append found, openFiles, missing, List.append_nil]
  unfold run Import.run
  rw [read, ofAttempt_ok_bind, opens]
  show (_, Client.record ((opened.zip files).reverse.map fun f => Happening.released f.1)
    (Client.record ((opened.zip files).map fun f => Happening.opened f.1) _)) = _
  rw [List.map_reverse, map_zip_of_found found, map_zip_of_found found, ← List.map_reverse]
  rfl

/-- Files that were opened are released in reverse order, whatever was done in between. -/
theorem run_of_opens (opens : A.Opens job files) {r : Attempt α} {c : Client ω}
    (loads : load A.env job A.spec A.port A.client.scopes.length files execute
      (A.opened job.paths) = (r, c)) :
    A.run execute = (r, c.record (job.paths.reverse.map .released)) := by
  have all : openFiles A.env job.paths = (job.paths.zip files, .ok ()) := by
    have none_left := openFiles_append opens.found []
    rw [List.append_nil] at none_left
    rw [none_left, openFiles, List.append_nil]
  have contents : (job.paths.zip files).map (fun file => file.2) = files := by
    refine List.map_snd_zip (Nat.le_of_eq ?_)
    rw [← List.length_map some, ← opens.found, List.length_map]
  have begun : Client.record ((job.paths.zip files).map fun file => Happening.opened file.1)
      { A.client with scopes := (A.client.scopes.create .none A.parent).2 } = A.opened job.paths :=
    congrArg (Client.record · _) (map_zip_of_found opens.found .opened)
  unfold run Import.run
  rw [opens.read, ofAttempt_ok_bind, all]
  let loaded := load A.env job A.spec A.port A.client.scopes.length
    ((job.paths.zip files).map fun file => file.2) execute
    (Client.record ((job.paths.zip files).map fun file => Happening.opened file.1)
      { A.client with scopes := (A.client.scopes.create .none A.parent).2 })
  show (loaded.1, loaded.2.record
    ((job.paths.zip files).reverse.map fun file => Happening.released file.1)) = _
  have is : loaded = (r, c) :=
    (congrArg₂ (fun files c => load A.env job A.spec A.port A.client.scopes.length files execute c)
      contents begun).trans loads
  rw [is, List.map_reverse, map_zip_of_found opens.found, ← List.map_reverse]

/-- The client when some hosts were dialled and, if one of them answered, an endpoint was asked
for. -/
def reached (A : Asked ω) (paths : List String) (dialling : List Event) : Client ω :=
  Client.record (dialling.map .network)
    { A.opened paths with dials := A.client.dials + dialling.length }

theorem candidates_apply (paths : List String) :
    Action.candidates A.env A.spec (A.opened paths) = (A.candidates, A.opened paths) := rfl

theorem load_of_unresolved {scope : ScopeId} {f : Failure} (fails : A.candidates = .error f) :
    load A.env job A.spec A.port scope files execute (A.opened job.paths) =
      (.error f, A.opened job.paths) := by
  unfold load
  rw [bind_apply, candidates_apply, fails]

theorem load_of_unreachable {scope : ScopeId} {f : Failure} {hosts : List String}
    {dialling : List Event} (resolves : A.candidates = .ok hosts)
    (fails : Endpoint.dial A.env.directory A.client.dials hosts A.port = (.error f, dialling)) :
    load A.env job A.spec A.port scope files execute (A.opened job.paths) =
      (.error f, A.reached job.paths dialling) := by
  have dials : dial A.env hosts A.port (A.opened job.paths) =
      (.error f, A.reached job.paths dialling) := by
    unfold dial
    rw [show (A.opened job.paths).dials = A.client.dials from rfl, fails]
    rfl
  unfold load
  rw [bind_apply, candidates_apply, resolves]
  dsimp only
  rw [bind_apply, dials]

/-- A connection that was made is closed, whatever came of it. -/
theorem load_of_dials {scope : ScopeId} {e : Endpoint} {dialling : List Event}
    (dials : A.Dials job files dialling e) {r : Attempt α} {c : Client ω}
    (transfers : transfer job scope files execute
      { A.reached job.paths dialling with endpoint := some e } = (r, c)) :
    load A.env job A.spec A.port scope files execute (A.opened job.paths) =
      (r, ((closeEndpoint : Action ω Unit) c).2) := by
  obtain ⟨hosts, resolves, answers⟩ := dials.dials
  have made : dial A.env hosts A.port (A.opened job.paths) =
      (.ok (), { A.reached job.paths dialling with endpoint := some e }) := by
    unfold dial
    rw [show (A.opened job.paths).dials = A.client.dials from rfl, answers]
    rfl
  unfold load
  rw [bind_apply, candidates_apply, resolves]
  dsimp only
  rw [bind_apply, made]
  show Action.guarded _ closeEndpoint _ = _
  rw [guarded_closeEndpoint, transfers]

/-- The client when an endpoint was asked for. -/
def negotiated (A : Asked ω) (paths : List String) (dialling : List Event) (e : Endpoint)
    (notes : List Note) : Client ω :=
  Client.annotate notes { A.reached paths dialling with endpoint := some e }

theorem endpoint_negotiated {paths : List String} {dialling : List Event} {e : Endpoint}
    {notes : List Note} : (A.negotiated paths dialling e notes).endpoint = some e := rfl

theorem negotiate_apply {paths : List String} {dialling : List Event} {dialled e : Endpoint}
    {notes : List Note} {address : Attempt (String × Nat)}
    (negotiates : dialled.negotiate = (address, e, notes)) :
    atEndpoint Endpoint.negotiate { A.reached paths dialling with endpoint := some dialled } =
      (address, A.negotiated paths dialling e notes) := by
  unfold atEndpoint
  simp only [negotiates]
  rfl

theorem transfer_of_refused {scope : ScopeId} {paths : List String} {dialling : List Event}
    {dialled e : Endpoint} {notes : List Note} {f : Failure}
    (fails : dialled.negotiate = (.error f, e, notes)) :
    transfer job scope files execute { A.reached paths dialling with endpoint := some dialled } =
      (.error f, A.negotiated paths dialling e notes) := by
  unfold transfer
  rw [bind_apply, negotiate_apply fails]

theorem transfer_of_unredirected {scope : ScopeId} {paths : List String} {dialling : List Event}
    {dialled e : Endpoint} {notes : List Note} {address : String × Nat} {f : Failure}
    (negotiates : dialled.negotiate = (.ok address, e, notes))
    (fails : job.bindTo e.url = .error f) :
    transfer job scope files execute { A.reached paths dialling with endpoint := some dialled } =
      (.error f, A.negotiated paths dialling e notes) := by
  unfold transfer
  rw [bind_apply, negotiate_apply negotiates]
  show ((get : Action ω (Client ω)) >>= _) (A.negotiated paths dialling e notes) = _
  rw [get_bind_apply, endpoint_negotiated, Option.map_some, Option.getD_some, fails]
  rfl

/-- The statement and the upload are started when the endpoint is negotiated, and not before. -/
theorem transfer_of_ready (A : Asked ω) (execute : String → ScopeId → Action ω α) (scope : ScopeId)
    (files : List LocalFile) (paths : List String) (dialling : List Event) {dialled e : Endpoint}
    {notes : List Note} {address : String × Nat} {bound : Job}
    (negotiates : dialled.negotiate = (.ok address, e, notes))
    (redirects : job.bindTo e.url = .ok bound) :
    ∃ c₁ : Client ω, c₁.endpoint = some e ∧
      c₁.happenings = A.client.happenings ++ paths.map .opened ++ dialling.map .network ∧
      transfer job scope files execute { A.reached paths dialling with endpoint := some dialled } =
        supervise { scope, separator := bound.separator, files }
          (execute bound.redirected scope) c₁ := by
  refine ⟨(A.negotiated paths dialling e notes).annotate [⟨.debug,
    "Importing " ++ toString files.length ++ " file(s) through " ++ e.url⟩], rfl, rfl, ?_⟩
  unfold transfer
  rw [bind_apply, negotiate_apply negotiates]
  show ((get : Action ω (Client ω)) >>= _) (A.negotiated paths dialling e notes) = _
  rw [get_bind_apply, endpoint_negotiated, Option.map_some, Option.getD_some, redirects]
  rfl

/-! ### Everything that was acquired is released -/

/-- What an import leaves, by where its stages ended: which files were opened, which hosts were
dialled, the connection if one was made, and the tasks if they were ready. -/
structure Unwinds (A : Asked ω) (execute : String → ScopeId → Action ω α) (opened : List String)
    (dialling : List Event) (endpoint : Option Endpoint) (outcome : Attempt Tasks) (r : Attempt α)
    (c' : Client ω) : Prop where
  prepares : A.Prepares opened dialling endpoint outcome
  /-- if a stage failed, that is all: neither statement nor upload had a part in it -/
  spares : ∀ f, outcome = .error f → r = .error f ∧
    (∀ e, endpoint = some e → c'.endpoint = some { e with isOpen := false }) ∧
    ∀ other : String → ScopeId → Action ω α, A.run other = (r, c')
  /-- if not, both are started when the stages are done, the statement as it was redirected -/
  starts : ∀ tasks, outcome = .ok tasks → ∃ c₁ c₂ : Client ω, c₁.endpoint = endpoint ∧
    c₁.happenings = A.client.happenings ++ opened.map .opened ++ dialling.map .network ∧
    supervise tasks.errand (execute tasks.statement tasks.errand.scope) c₁ = (r, c₂)
  /-- at the end the connection is closed if one was made, and then all files are -/
  releases : ∃ during, c'.happenings = A.client.happenings ++ opened.map .opened ++
      dialling.map .network ++ during ++
      endpoint.toList.map (fun e => .network (.closed e.socket.host)) ++
      opened.reverse.map .released ∧
    ∀ h ∈ during, h.isOfResource = false
  closes : ∀ e, endpoint = some e →
    ∃ e', c'.endpoint = some e' ∧ e'.socket.host = e.socket.host ∧ e'.isOpen = false

theorem exists_prepares (A : Asked ω) :
    ∃ opened dialling endpoint outcome, A.Prepares opened dialling endpoint outcome := by
  cases read : Job.ofStatement A.sql with
  | error f => exact ⟨_, _, _, _, .unread read⟩
  | ok job =>
    rcases found_or_missing A.env job.paths with ⟨files, found⟩ | ⟨_, _, _, _, paths, found, missing⟩
    · have opens : A.Opens job files := ⟨read, found⟩
      cases resolves : A.candidates with
      | error f => exact ⟨_, _, _, _, .unresolved opens resolves⟩
      | ok hosts =>
        rcases answers : Endpoint.dial A.env.directory A.client.dials hosts A.port with
          ⟨f | dialled, dialling⟩
        · exact ⟨_, _, _, _, .unreachable opens resolves answers⟩
        · have dials : A.Dials job files dialling dialled := ⟨opens, hosts, resolves, answers⟩
          rcases negotiates : dialled.negotiate with ⟨f | address, e, notes⟩
          · exact ⟨_, _, _, _, .refused dials negotiates⟩
          · cases redirects : job.bindTo e.url with
            | error f => exact ⟨_, _, _, _, .unredirected dials negotiates redirects⟩
            | ok bound => exact ⟨_, _, _, _, .ready dials negotiates redirects⟩
    · exact ⟨_, _, _, _, .missing read paths found missing⟩

theorem Unwinds.of_failed {opened : List String} {dialling : List Event} {endpoint : Option Endpoint}
    {f : Failure} {c' : Client ω} (prepares : A.Prepares opened dialling endpoint (.error f))
    (runs : ∀ other : String → ScopeId → Action ω α, A.run other = (.error f, c'))
    (closed : ∀ e, endpoint = some e → c'.endpoint = some { e with isOpen := false })
    (happenings : c'.happenings = A.client.happenings ++ opened.map .opened ++
      dialling.map .network ++ endpoint.toList.map (fun e => .network (.closed e.socket.host)) ++
      opened.reverse.map .released) :
    A.Unwinds execute opened dialling endpoint (.error f) (A.run execute).1 (A.run execute).2 := by
  rw [runs execute]
  exact {
    prepares
    spares := fun f' hf => by
      cases hf
      exact ⟨rfl, closed, runs⟩
    starts := fun tasks ht => by cases ht
    releases := ⟨[], by rw [happenings, List.append_nil], List.forall_mem_nil _⟩
    closes := fun e he => ⟨_, closed e he, rfl, rfl⟩ }

theorem closeEndpoint_of_open {c : Client ω} {e : Endpoint} (h : c.endpoint = some e)
    (isOpen : e.isOpen) :
    ((closeEndpoint : Action ω Unit) c).2.endpoint = some { e with isOpen := false } ∧
    ((closeEndpoint : Action ω Unit) c).2.happenings =
      c.happenings ++ [.network (.closed e.socket.host)] := by
  rw [closeEndpoint_of_some h]
  unfold Endpoint.close
  rw [if_pos isOpen]
  exact ⟨rfl, rfl⟩

theorem Dials.isOpen_negotiated {dialling : List Event} {dialled e : Endpoint}
    {address : Attempt (String × Nat)} {notes : List Note}
    (dials : A.Dials job files dialling dialled)
    (negotiates : dialled.negotiate = (address, e, notes)) : e.isOpen := by
  obtain ⟨hosts, -, answers⟩ := dials.dials
  have same := connection_negotiate dialled
  rw [negotiates] at same
  exact (congrArg Prod.snd same).trans (isOpen_dialFrom _ _ answers)

/-- An import whose tasks are not ready leaves nothing acquired. -/
theorem Prepares.unwinds_of_error {opened : List String} {dialling : List Event}
    {endpoint : Option Endpoint} {f : Failure} (h : A.Prepares opened dialling endpoint (.error f)) :
    A.Unwinds execute opened dialling endpoint (.error f) (A.run execute).1 (A.run execute).2 := by
  -- what a failed transfer leaves is closed and released in the same way, whatever it failed for
  have transferred {job : Job} {files : List LocalFile} {dialling : List Event}
      {dialled e : Endpoint} {address : Attempt (String × Nat)} {notes : List Note}
      (dials : A.Dials job files dialling dialled)
      (negotiates : dialled.negotiate = (address, e, notes))
      (h : A.Prepares job.paths dialling (some e) (.error f))
      (transfers : ∀ other : String → ScopeId → Action ω α,
        transfer job A.client.scopes.length files other
          { A.reached job.paths dialling with endpoint := some dialled } =
        (.error f, A.negotiated job.paths dialling e notes)) :
      A.Unwinds execute job.paths dialling (some e) (.error f)
        (A.run execute).1 (A.run execute).2 := by
    have left : (A.negotiated job.paths dialling e notes).endpoint = some e := rfl
    obtain ⟨closed, seen⟩ := closeEndpoint_of_open left (dials.isOpen_negotiated negotiates)
    refine .of_failed h
      (fun other => run_of_opens dials.toOpens (load_of_dials dials (transfers other)))
      (fun e' he => ?_) ?_
    · cases he
      exact closed
    · show _ ++ _ = _
      rw [seen]
      rfl
  cases h with
  | unread unread =>
    refine .of_failed (.unread unread) (fun _ => run_of_unread unread) (fun _ he => by cases he) ?_
    simp
  | missing read paths found missing =>
    refine .of_failed (.missing read paths found missing)
      (fun _ => run_of_missing read paths found missing) (fun _ he => by cases he) ?_
    simp [Client.record, Asked.opened]
  | unresolved opens fails =>
    refine .of_failed (.unresolved opens fails)
      (fun _ => run_of_opens opens (load_of_unresolved fails)) (fun _ he => by cases he) ?_
    simp [Client.record, Asked.opened]
  | unreachable opens resolves fails =>
    refine .of_failed (.unreachable opens resolves fails)
      (fun _ => run_of_opens opens (load_of_unreachable resolves fails)) (fun _ he => by cases he) ?_
    simp [Client.record, Asked.opened, Asked.reached]
  | refused dials fails =>
    exact transferred dials fails (.refused dials fails) fun _ => transfer_of_refused fails
  | unredirected dials negotiates fails =>
    exact transferred dials negotiates (.unredirected dials negotiates fails) fun _ =>
      transfer_of_unredirected negotiates fails

/-- An import whose tasks are ready starts them, and releases everything when they have ended. -/
theorem Prepares.unwinds_of_ok {opened : List String} {dialling : List Event}
    {endpoint : Option Endpoint} {tasks : Tasks} (h : A.Prepares opened dialling endpoint (.ok tasks))
    (minds : ∀ sql scope, Leads Minds (execute sql scope)) :
    A.Unwinds execute opened dialling endpoint (.ok tasks) (A.run execute).1 (A.run execute).2 := by
  have prepares := h
  cases h with
  | @ready job files _ dialled address e notes bound dials negotiates redirects =>
    let scope := A.client.scopes.length
    let errand : Errand := { scope, separator := bound.separator, files }
    obtain ⟨c₁, connected, before, transfers⟩ :=
      transfer_of_ready A execute scope files job.paths dialling negotiates redirects
    rcases supervised : supervise errand (execute bound.redirected scope) c₁ with ⟨r, c₂⟩
    rw [supervised] at transfers
    rw [run_of_opens dials.toOpens (load_of_dials dials transfers)]
    -- the tasks left the connection open, so that it is there to be closed
    have minded := minds_supervise errand (minds bound.redirected scope) c₁
    unfold Ends at minded
    rw [supervised] at minded
    obtain ⟨during, seen, other⟩ := minded.happenings
    have connection := minded.connection
    rw [connected] at connection
    obtain ⟨e₂, left, same⟩ := Option.map_eq_some_iff.1 connection
    have isOpen : e₂.isOpen := (congrArg Prod.snd same).trans (dials.isOpen_negotiated negotiates)
    have host : e₂.socket.host = e.socket.host := congrArg Prod.fst same
    obtain ⟨closed, closing⟩ := closeEndpoint_of_open left isOpen
    exact {
      prepares
      spares := fun f hf => by cases hf
      starts := fun tasks ht => by
        cases ht
        exact ⟨c₁, c₂, connected, before, supervised⟩
      releases := by
        refine ⟨during, ?_, other⟩
        show _ ++ _ = _
        rw [closing, seen, before, host]
        rfl
      closes := fun e' he => by
        cases he
        exact ⟨_, closed, host, rfl⟩ }

end Asked

/-- An import starts its statement and its upload only when its files are open, in order, and an
endpoint is negotiated, and however it ends, it leaves nothing open that it opened. -/
theorem run_unwinds (A : Asked ω) {execute : String → ScopeId → Action ω α}
    (minds : ∀ sql scope, Leads Minds (execute sql scope)) :
    Ends (Import.run A.env A.spec A.port A.sql execute A.parent) A.client fun r c' =>
      ∃ opened dialling endpoint outcome,
        A.Unwinds execute opened dialling endpoint outcome r c' := by
  obtain ⟨opened, dialling, endpoint, outcome, prepares⟩ := A.exists_prepares
  cases outcome with
  | error f => exact ⟨_, _, _, _, prepares.unwinds_of_error⟩
  | ok tasks => exact ⟨_, _, _, _, prepares.unwinds_of_ok minds⟩

/-- An import of a file of one line through an endpoint at the second host that is dialled. -/
def oneLine : Asked (List Bytes) where
  env := { Script.cannedEnvironment with
    directory := fun _ host =>
      if host = "b" then .ok { socket := { host, incoming := [.bytes
        ([0, 0, 0, 0, 80, 0, 0, 0] ++ Utf8.encode "10.0.0.7" ++ List.replicate 8 0)] } }
      else .error "no route"
    files := fun path => if path = "t.csv" then some [.bytes [49, 10]] else none }
  spec := "a,b"
  port := 8563
  sql := "IMPORT INTO t FROM LOCAL CSV FILE 't.csv'"
  parent := none
  client := { wire := [] }

/-- Executes nothing, and gives the statement back. -/
def handBack (sql : String) (_ : ScopeId) : Action (List Bytes) String := pure sql

theorem oneLine_unwinds : (∀ sql scope, Leads Minds (handBack sql scope)) ∧
    Ends (Import.run oneLine.env oneLine.spec oneLine.port oneLine.sql handBack oneLine.parent)
      oneLine.client fun r c' =>
        r.toOption = some "IMPORT INTO t FROM CSV AT 'http://10.0.0.7:80' FILE 'data.csv' " ∧
        ∃ opened dialling endpoint outcome,
          oneLine.Unwinds handBack opened dialling endpoint outcome r c' := by
  have minds : ∀ sql scope, Leads Minds (handBack sql scope) := fun sql _ => .pure sql
  have redirected : Ends
      (Import.run oneLine.env oneLine.spec oneLine.port oneLine.sql handBack oneLine.parent)
      oneLine.client fun r _ =>
        r.toOption = some "IMPORT INTO t FROM CSV AT 'http://10.0.0.7:80' FILE 'data.csv' " := by
    unfold Ends
    decide +kernel
  exact ⟨minds, redirected.and (run_unwinds oneLine minds)⟩

end Import

end ExaWire
