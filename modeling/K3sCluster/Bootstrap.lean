import K3sCluster.Readiness

namespace K3sCluster

/-!
# Loading bootstrap data

`Bootstrap` assigns the managed driver, asks `shouldBootstrapLoad` whether bootstrap data
must be loaded, and loads it if so: over HTTP from the server named by the join URL for a
managed datastore, from the datastore otherwise. For a managed datastore the join token is
validated first, and a 503 answer is forgiven when the local datastore is already
initialized. A stamp file named after the raw token records a completed bootstrap.

`Bootstrap_fetch_authorized` says what an HTTP fetch of bootstrap data requires, and
`Bootstrap_validation_failure` what follows a failed token validation. A server that is
assigned no managed driver only checks the drivers, looks its stamp up and loads from the
datastore (`Bootstrap_unmanaged_calls`), and a run that returns nil ends with the load it
decided on (`Bootstrap_loaded`).
-/

/-- `bootstrapStamp`: `db/joined-<keyHash(Token)>` under the data directory. -/
def bootstrapStamp (ext : Externals) (c : Cluster) : Path :=
  (lit "joined-" ++ ext.keyHash c.config.token) :: lit "db" :: c.config.dataDir

/-- The error of `shouldBootstrapLoad` for a managed datastore without a token. -/
def tokenRequired (ext : Externals) : GoError :=
  .message (ext.programUpper ++ lit "_TOKEN is required to join a cluster")

/-- The end of `shouldBootstrapLoad`: the stamp check, then the token requirement. -/
def checkStamp (ext : Externals) (c : Cluster) : Prog (Except GoError Bool × Cluster) := do
  match ← osStat (bootstrapStamp ext c) with
  | .ok _ => pure (.ok false, c)
  | .error _ =>
      if c.managedDB ≠ none ∧ c.config.token = [] then pure (.error (tokenRequired ext), c)
      else pure (.ok true, c)

/-- `shouldBootstrapLoad`. -/
def shouldBootstrapLoad (ext : Externals) (c : Cluster) :
    Prog (Except GoError Bool × Cluster) :=
  match c.managedDB with
  | none => checkStamp ext c
  | some driver =>
      let c := { c with runtime := { c.runtime with httpBootstrap := true } }
      if c.config.joinURL = [] then pure (.ok false, c)
      else do
        match ← parseAndValidateTokenForUser ext c.config.joinURL c.config.token
            (lit "server") with
        | .ok info => checkStamp ext { c with clientAccessInfo := some info }
        | .error err =>
            if err.isServiceUnavailable then
              match ← driver.isInitialized c.config with
              | .ok true => pure (.ok false, c)
              | _ => pure (.error err, c)
            else pure (.error err, c)

/-- The path of the bootstrap-data endpoint. -/
def serverBootstrapPath (ext : Externals) : GoString :=
  lit "/v1-" ++ ext.program ++ lit "/server-bootstrap"

/-- `bootstrap.Read` into `runtime.ControlRuntimeBootstrap`. -/
def readBootstrap (content : Bytes) : Prog (Except GoError Unit) :=
  Prog.query (.readBootstrap content)

/-- `c.storageBootstrap(ctx)`. -/
def storageBootstrap : Prog (Except GoError Unit) :=
  Prog.query .storageBootstrap

@[simp] theorem readBootstrap_run (world : World) (host : Host) (content : Bytes) :
    (readBootstrap content).run world host =
      (world.answer host.trace (.readBootstrap content),
        { fs := world.writes host.trace (.readBootstrap content) host.fs,
          trace := host.trace ++
            [⟨.readBootstrap content, world.answer host.trace (.readBootstrap content)⟩] }) := rfl

@[simp] theorem storageBootstrap_run (world : World) (host : Host) :
    storageBootstrap.run world host =
      (world.answer host.trace .storageBootstrap,
        { fs := world.writes host.trace .storageBootstrap host.fs,
          trace := host.trace ++ [⟨.storageBootstrap, world.answer host.trace .storageBootstrap⟩] }) :=
  rfl

/-- `httpBootstrap`; `Get` dereferences `c.clientAccessInfo`. -/
def httpBootstrap (ext : Externals) (c : Cluster) : Prog (Except GoError Unit) :=
  match c.clientAccessInfo with
  | none => pure (.error .nilDereference)
  | some info => do
      match ← Get ext (serverBootstrapPath ext) info with
      | .error err => pure (.error err)
      | .ok content => readBootstrap content

/-- `bootstrap`: over HTTP when `shouldBootstrapLoad` asked for it, otherwise from the
datastore. -/
def bootstrap (ext : Externals) (c : Cluster) : Prog (Except GoError Unit × Cluster) := do
  let c := { c with joining := true }
  if c.runtime.httpBootstrap then
    let loaded ← httpBootstrap ext c
    pure (loaded, c)
  else
    let loaded ← storageBootstrap
    pure (loaded, c)

/-- `Bootstrap`. -/
def Bootstrap (ext : Externals) (c : Cluster) : Prog (Except GoError Unit × Cluster) := do
  match ← assignManagedDriver ext c with
  | (.error err, c) => pure (.error err, c)
  | (.ok (), c) =>
      match ← shouldBootstrapLoad ext c with
      | (.error err, c) => pure (.error err, c)
      | (.ok shouldBootstrap, c) =>
          let c := { c with shouldBootstrap }
          if shouldBootstrap then bootstrap ext c else pure (.ok (), c)

/-! ## One lemma per function -/

theorem FS.stat_error {fs : FS} {path : Path} {err : GoError}
    (failed : fs.stat path = .error err) : fs.entry path = none := by
  unfold FS.stat at failed
  split at failed
  · cases failed
  · assumption

theorem FS.stat_present {fs : FS} {path : Path} (present : fs.entry path ≠ none) :
    ∃ kind, fs.stat path = .ok kind := by
  obtain ⟨kind, found⟩ := Option.ne_none_iff_exists'.mp present
  exact ⟨kind, by simp [FS.stat, found]⟩

/-- The stamp check asks for loading only when the stamp is absent, and changes nothing. -/
theorem checkStamp_true
    {ext : Externals} {world : World} {host host' : Host} {c c' : Cluster}
    (ran : (checkStamp ext c).run world host = ((.ok true, c'), host')) :
    c' = c ∧ host'.fs = host.fs ∧ host.fs.entry (bootstrapStamp ext c) = none ∧
      ¬(c.managedDB ≠ none ∧ c.config.token = []) := by
  simp only [checkStamp, Prog.bind_eq, Prog.run_bind, osStat_run] at ran
  split at ran
  · simp at ran
  · next err absent =>
      split at ran
      · simp at ran
      · next allowed =>
          simp only [Prog.pure_eq, Prog.run_pure, Prod.mk.injEq] at ran
          exact ⟨ran.1.2.symm, by rw [← ran.2]; rfl, FS.stat_error absent, allowed⟩

/-- A present stamp ends `shouldBootstrapLoad`'s check: no loading. -/
theorem checkStamp_present
    {ext : Externals} {world : World} {host : Host} {c : Cluster}
    (present : host.fs.entry (bootstrapStamp ext c) ≠ none) :
    ((checkStamp ext c).run world host).1 = (.ok false, c) := by
  obtain ⟨kind, found⟩ := FS.stat_present present
  simp [checkStamp, found]

/-- When `shouldBootstrapLoad` asks for loading: without a managed datastore, from an
absent stamp; with one, after a successful validation of the token, kept as the client
access info, from an absent stamp and with a token. -/
theorem shouldBootstrapLoad_true
    {ext : Externals} {world : World} {host host' : Host} {c c' : Cluster}
    (ran : (shouldBootstrapLoad ext c).run world host = ((.ok true, c'), host')) :
    (c.managedDB = none ∧ c' = c ∧ host.fs.entry (bootstrapStamp ext c) = none) ∨
      ∃ driver info host₁, c.managedDB = some driver ∧ c.config.joinURL ≠ [] ∧
        c.config.token ≠ [] ∧
        (parseAndValidateTokenForUser ext c.config.joinURL c.config.token (lit "server")).run
          world host = (.ok info, host₁) ∧
        host₁.fs.entry (bootstrapStamp ext c) = none ∧
        c' = { c with runtime := { c.runtime with httpBootstrap := true },
                      clientAccessInfo := some info } := by
  unfold shouldBootstrapLoad at ran
  split at ran
  · next unmanaged =>
      obtain ⟨same, -, absent, -⟩ := checkStamp_true ran
      exact .inl ⟨unmanaged, same, absent⟩
  · next driver managed =>
      dsimp only at ran
      split at ran
      · simp at ran
      · next joining =>
          simp only [Prog.bind_eq, Prog.run_bind] at ran
          split at ran
          · next info validated =>
              obtain ⟨same, -, absent, tokenGiven⟩ := checkStamp_true ran
              refine .inr ⟨driver, info, _, managed, joining, ?_, validated.symm ▸ rfl,
                absent, same⟩
              simpa [managed] using tokenGiven
          · split at ran
            · simp only [Prog.run_bind] at ran
              split at ran <;> cases ran
            · cases ran

/-! ## Which calls load bootstrap data -/

/-- A call that loads bootstrap data: the request for the bootstrap-data endpoint, or the
datastore path. -/
def Call.loadsBootstrap (ext : Externals) : Call → Prop
  | .roundTrip request => request.target.path = serverBootstrapPath ext
  | .storageBootstrap => True
  | _ => False

/-- The request `httpBootstrap` sends with `info`, under the base URL parsed from it. -/
def bootstrapRequest (ext : Externals) (info : Info) (base : URL) : Request :=
  getRequest { base with path := serverBootstrapPath ext } (getHTTPClient info.caCerts)
    info.username info.password

/-- The calls of `httpBootstrap` with `info`: the request for the bootstrap data, and
reading the answer. -/
def Call.fromHTTPBootstrap (ext : Externals) (info : Info) : Call → Prop
  | .roundTrip request =>
      ∃ base, ext.parseURL info.baseURL = .ok base ∧ request = bootstrapRequest ext info base
  | .readBootstrap _ => True
  | _ => False

/-- A request for `/cacerts` does not load bootstrap data. -/
theorem Call.asksCACerts.not_loadsBootstrap {ext : Externals} :
    ∀ {call : Call}, call.asksCACerts → ¬ call.loadsBootstrap ext
  | .roundTrip _, ⟨_, _, rfl⟩, same => by
      have prefixes := congrArg (List.take 2) same
      simp only [caCertsRequest, getRequest, serverBootstrapPath, List.append_assoc] at prefixes
      rw [List.take_append_of_le_length (by decide)] at prefixes
      exact absurd prefixes (by decide)

/-- The calls that decide whether to load: asking the drivers, asking the peers for
`/cacerts`, and looking up the stamp. -/
def Call.decidesLoading : Call → Prop
  | .isInitialized .. => True
  | .stat _ => True
  | call => call.asksCACerts

theorem Call.decidesLoading.not_loadsBootstrap {ext : Externals} :
    ∀ {call : Call}, call.decidesLoading → ¬ call.loadsBootstrap ext
  | .roundTrip _, asks => Call.asksCACerts.not_loadsBootstrap asks
  | .isInitialized .., _ | .stat _, _ => id

/-- The stamp check only looks the stamp up. -/
theorem checkStamp_calls (ext : Externals) (c : Cluster) :
    (checkStamp ext c).CallsWithin (· = .stat (bootstrapStamp ext c)) := by
  refine (Prog.CallsWithin.query ?_).bind fun _ => ?_
  · rfl
  split
  · exact .pure _
  · split <;> exact .pure _

/-- Deciding whether to load makes only the calls that decide it. -/
theorem shouldBootstrapLoad_calls (ext : Externals) (c : Cluster) :
    (shouldBootstrapLoad ext c).CallsWithin Call.decidesLoading := by
  have stamp : ∀ c', (checkStamp ext c').CallsWithin Call.decidesLoading :=
    fun c' => (checkStamp_calls ext c').mono fun _ looked => looked ▸ trivial
  unfold shouldBootstrapLoad
  split
  · exact stamp c
  · dsimp only
    split
    · exact .pure _
    · refine ((parseAndValidate_calls ext _ _ _).mono fun call asks => ?_).bind fun _ => ?_
      · cases call <;> first | exact asks | exact asks.elim
      split
      · exact stamp _
      · split
        · exact (Prog.CallsWithin.query trivial).bind fun _ => by split <;> exact .pure _
        · exact .pure _

/-- With the HTTP flag set and an info to use, `bootstrap` only fetches with that info. -/
theorem bootstrap_calls_http {ext : Externals} {c : Cluster} {info : Info}
    (http : c.runtime.httpBootstrap = true) (given : c.clientAccessInfo = some info) :
    (bootstrap ext c).CallsWithin (Call.fromHTTPBootstrap ext info) := by
  simp only [bootstrap, http, if_true]
  refine Prog.CallsWithin.bind ?_ fun _ => .pure _
  simp only [httpBootstrap, given]
  refine Prog.CallsWithin.bind ?_ fun _ => ?_
  · unfold Get
    split
    · exact .pure _
    · next base parsed =>
        exact (Prog.CallsWithin.query ⟨base, parsed, rfl⟩).bind fun _ => .pure _
  · split
    · exact .pure _
    · exact Prog.CallsWithin.query trivial

/-- Without the HTTP flag, `bootstrap` only takes the datastore path. -/
theorem bootstrap_calls_storage {ext : Externals} {c : Cluster}
    (storage : c.runtime.httpBootstrap = false) :
    (bootstrap ext c).CallsWithin (· = .storageBootstrap) := by
  simp only [bootstrap, storage, Bool.false_eq_true, ↓reduceIte]
  exact Prog.CallsWithin.bind (Prog.CallsWithin.query rfl) fun _ => .pure _

/-- `bootstrap` marks the cluster as joining, and changes nothing else. -/
theorem bootstrap_cluster (ext : Externals) (world : World) (host : Host) (c : Cluster) :
    ((bootstrap ext c).run world host).1.2 = { c with joining := true } := by
  unfold bootstrap
  dsimp only
  split <;> simp

/-- A successful `Get` parsed the base URL and got a 200 answer whose body it returns. -/
theorem Get_ok {ext : Externals} {world : World} {host host' : Host} {path : GoString} {info : Info}
    {content : Bytes} (ran : (Get ext path info).run world host = (.ok content, host')) :
    ∃ base status, ext.parseURL info.baseURL = .ok base ∧
      host'.trace = host.trace ++ [⟨.roundTrip (getRequest { base with path } (getHTTPClient info.caCerts)
        info.username info.password), Answer.response 200 status (.bytes content)⟩] := by
  unfold Get at ran
  split at ran
  · cases ran
  · next base parsed =>
      rw [get_run, Prod.mk.injEq] at ran
      obtain ⟨read, rfl⟩ := ran
      obtain ⟨status, answered⟩ := readAnswer_eq_ok.mp read
      exact ⟨base, status, parsed, by rw [Host.record_trace, answered]⟩

/-- A successful `httpBootstrap` fetched the bootstrap data with the client access info and
read the body of the 200 answer. -/
theorem httpBootstrap_ok {ext : Externals} {world : World} {host host' : Host} {c : Cluster}
    (ran : (httpBootstrap ext c).run world host = (.ok (), host')) :
    ∃ info base status content, c.clientAccessInfo = some info ∧
      ext.parseURL info.baseURL = .ok base ∧
      host'.trace = host.trace ++
        [⟨.roundTrip (bootstrapRequest ext info base), Answer.response 200 status (.bytes content)⟩,
         ⟨.readBootstrap content, Except.ok ()⟩] := by
  unfold httpBootstrap at ran
  split at ran
  · cases ran
  · next info given =>
      simp only [Prog.bind_eq, Prog.run_bind] at ran
      rcases fetched : (Get ext (serverBootstrapPath ext) info).run world host with
        ⟨_ | content, host₁⟩
      all_goals rw [fetched] at ran
      · simp at ran
      obtain ⟨base, status, parsed, trace⟩ := Get_ok fetched
      simp only [readBootstrap_run, Prod.mk.injEq] at ran
      obtain ⟨read, rfl⟩ := ran
      refine ⟨info, base, status, content, given, parsed, ?_⟩
      dsimp only
      rw [read, trace, List.append_assoc]
      rfl

/-- A successful `bootstrap` loaded the data by its last calls: over HTTP, the request for
the bootstrap data answered 200 and the reading of its body; otherwise `storageBootstrap`. -/
theorem bootstrap_ok {ext : Externals} {world : World} {host host' : Host} {c c' : Cluster}
    (ran : (bootstrap ext c).run world host = ((.ok (), c'), host')) :
    (∃ info base status content, c.runtime.httpBootstrap = true ∧ c.clientAccessInfo = some info ∧
        ext.parseURL info.baseURL = .ok base ∧
        host'.trace = host.trace ++
          [⟨.roundTrip (bootstrapRequest ext info base), Answer.response 200 status (.bytes content)⟩,
           ⟨.readBootstrap content, Except.ok ()⟩]) ∨
      (c.runtime.httpBootstrap = false ∧ host'.trace = host.trace ++ [⟨.storageBootstrap, Except.ok ()⟩]) := by
  unfold bootstrap at ran
  dsimp only at ran
  split at ran
  · next http =>
      simp only [Prog.bind_eq, Prog.run_bind, Prog.pure_eq, Prog.run_pure, Prod.mk.injEq] at ran
      obtain ⟨⟨loaded, -⟩, rfl⟩ := ran
      obtain ⟨info, base, status, content, given, parsed, trace⟩ := httpBootstrap_ok (Prod.ext loaded rfl)
      exact .inl ⟨info, base, status, content, http, given, parsed, trace⟩
  · next storage =>
      simp only [Prog.bind_eq, Prog.run_bind, storageBootstrap_run, Prog.pure_eq, Prog.run_pure,
        Prod.mk.injEq] at ran
      obtain ⟨⟨loaded, -⟩, rfl⟩ := ran
      exact .inr ⟨by simpa using storage, by simp [loaded]⟩

/-- `Bootstrap` runs its three phases in turn, each from where the one before stopped. -/
theorem Bootstrap_run (ext : Externals) (world : World) (host : Host) (c : Cluster) :
    (Bootstrap ext c).run world host =
      match (assignManagedDriver ext c).run world host with
      | ((.error err, c₁), host₁) => ((.error err, c₁), host₁)
      | ((.ok (), c₁), host₁) =>
          match (shouldBootstrapLoad ext c₁).run world host₁ with
          | ((.error err, c₂), host₂) => ((.error err, c₂), host₂)
          | ((.ok shouldBootstrap, c₂), host₂) =>
              if shouldBootstrap then
                (bootstrap ext { c₂ with shouldBootstrap }).run world host₂
              else ((.ok (), { c₂ with shouldBootstrap }), host₂) := by
  simp only [Bootstrap, Prog.bind_eq, Prog.run_bind]
  rcases (assignManagedDriver ext c).run world host with ⟨⟨_ | ⟨⟩, c₁⟩, host₁⟩
  · rfl
  · simp only [Prog.run_bind]
    rcases (shouldBootstrapLoad ext c₁).run world host₁ with ⟨⟨_ | _ | _, c₂⟩, host₂⟩ <;> rfl

/-! ## What a loading event requires -/

/--
Every event of `Bootstrap` that loads bootstrap data belongs to its third phase: the
driver was assigned, `shouldBootstrapLoad` asked for loading, and the event is one of the
calls of `bootstrap` on the resulting cluster.
-/
theorem Bootstrap_loads (ext : Externals) (world : World) (host : Host) (c : Cluster) :
    ∃ added, ((Bootstrap ext c).run world host).2.trace = host.trace ++ added ∧
      ∀ event ∈ added, event.1.loadsBootstrap ext →
        ∃ c₁ host₁ c₂ host₂,
          (assignManagedDriver ext c).run world host = ((.ok (), c₁), host₁) ∧
          (shouldBootstrapLoad ext c₁).run world host₁ = ((.ok true, c₂), host₂) ∧
          (Bootstrap ext c).run world host =
            (bootstrap ext { c₂ with shouldBootstrap := true }).run world host₂ ∧
          ∀ allowed : Call → Prop,
            (bootstrap ext { c₂ with shouldBootstrap := true }).CallsWithin allowed →
              allowed event.1 := by
  obtain ⟨added₁, trace₁, assigning⟩ := (assignManagedDriver_calls ext c).run_events world host
  have quiet₁ : ∀ event ∈ added₁, ¬ event.1.loadsBootstrap ext := by
    intro event member
    obtain ⟨driver, same⟩ := assigning event member
    rw [same]
    exact id
  rw [Bootstrap_run]
  generalize assigned : (assignManagedDriver ext c).run world host = step₁ at trace₁
  obtain ⟨⟨result₁, c₁⟩, host₁⟩ := step₁
  dsimp only at trace₁
  rcases result₁ with err | ⟨⟨⟩⟩
  · exact ⟨added₁, trace₁, fun event member loads => absurd loads (quiet₁ event member)⟩
  obtain ⟨added₂, trace₂, quiet₂⟩ := ((shouldBootstrapLoad_calls ext c₁).mono
    fun _ => Call.decidesLoading.not_loadsBootstrap).run_events world host₁
  dsimp only
  generalize decided : (shouldBootstrapLoad ext c₁).run world host₁ = step₂ at trace₂
  obtain ⟨⟨result₂, c₂⟩, host₂⟩ := step₂
  dsimp only at trace₂
  have quiet : ∀ event ∈ added₁ ++ added₂, ¬ event.1.loadsBootstrap ext := by
    intro event member
    rcases List.mem_append.mp member with member | member
    · exact quiet₁ event member
    · exact quiet₂ event member
  rcases result₂ with err | _ | _
  · exact ⟨added₁ ++ added₂, by simp [trace₁, trace₂],
      fun event member loads => absurd loads (quiet event member)⟩
  · exact ⟨added₁ ++ added₂, by simp [trace₁, trace₂],
      fun event member loads => absurd loads (quiet event member)⟩
  · obtain ⟨added₃, trace₃⟩ := Prog.trace_prefix_run world
      (bootstrap ext { c₂ with shouldBootstrap := true }) host₂
    refine ⟨added₁ ++ added₂ ++ added₃, by simp [← trace₃, trace₁, trace₂], ?_⟩
    intro event member loads
    rcases List.mem_append.mp member with member | member
    · exact absurd loads (quiet event member)
    · exact ⟨c₁, host₁, c₂, host₂, rfl, decided, rfl,
        fun allowed => Prog.mem_added_of_callsWithin trace₃.symm member⟩

/-! ## The calls of a run, phase by phase -/

/--
Bootstrap data is fetched over HTTP only after a managed driver was assigned and the
token was validated against the join URL in the same call, with no stamp and a token, and
with the validated info kept; the request carries the decoded password for the user
`server`, goes to the validated `https` base URL and trusts exactly the validated bundle,
which has the hash the token pins. The datastore path is taken only when no managed driver
was assigned. This holds for every cluster that enters with the HTTP flag unset, whatever
the drivers, the peers and the filesystem do.
-/
theorem Bootstrap_fetch_authorized
    (ext : Externals) (world : World) (host : Host) (c : Cluster)
    (fresh : c.runtime.httpBootstrap = false) :
    ∃ added, ((Bootstrap ext c).run world host).2.trace = host.trace ++ added ∧
      (∀ event ∈ added, ∀ request, event.1 = .roundTrip request →
          request.target.path = serverBootstrapPath ext →
        ∃ c₁ host₁ driver info host₂ decoded server base,
          (assignManagedDriver ext c).run world host = ((.ok (), c₁), host₁) ∧
          c₁.managedDB = some driver ∧ c.config.joinURL ≠ [] ∧ c.config.token ≠ [] ∧
          (parseAndValidateTokenForUser ext c.config.joinURL c.config.token (lit "server")).run
            world host₁ = (.ok info, host₂) ∧
          host₂.fs.entry (bootstrapStamp ext c) = none ∧
          ((Bootstrap ext c).run world host).1.2.clientAccessInfo = some info ∧
          parseToken c.config.token = .ok decoded ∧
          request.basicAuth = some (lit "server", decoded.password) ∧
          ext.parseURL c.config.joinURL = .ok server ∧ server.scheme = lit "https" ∧
          info.baseURL = ext.urlString (trimmedURL server) ∧
          ext.parseURL info.baseURL = .ok base ∧
          request.target = { base with path := serverBootstrapPath ext } ∧
          request.trust = getHTTPClient info.caCerts ∧
          (decoded.caHash ≠ [] → hashCA ext info.caCerts = decoded.caHash)) ∧
      ∀ event ∈ added, event.1 = .storageBootstrap →
        ∃ c₁ host₁, (assignManagedDriver ext c).run world host = ((.ok (), c₁), host₁) ∧
          c₁.managedDB = none := by
  obtain ⟨added, trace, loading⟩ := Bootstrap_loads ext world host c
  refine ⟨added, trace, fun event member request isRequest path => ?_,
    fun event member isStorage => ?_⟩
  · obtain ⟨c₁, host₁, c₂, host₂, assigned, decided, whole, calls⟩ :=
      loading event member (by rw [isRequest]; exact path)
    obtain ⟨db, rfl⟩ : ∃ db, c₁ = { c with managedDB := db } :=
      ⟨_, assignManagedDriver_keeps assigned⟩
    rcases shouldBootstrapLoad_true decided with
      ⟨-, rfl, -⟩ | ⟨driver, info, hostV, managed, joining, tokenGiven, validated, absent, rfl⟩
    · have storage := calls _ (bootstrap_calls_storage fresh)
      rw [isRequest] at storage
      cases storage
    · obtain ⟨base, parsedBase, sent⟩ := isRequest ▸ calls _ (bootstrap_calls_http rfl rfl)
      obtain ⟨decoded, server, decodedToken, parsedServer, https, baseURL, username, password,
        pinned⟩ := parseAndValidate_ok validated
      have named : info.username = lit "server" := username
      refine ⟨_, host₁, driver, info, hostV, decoded, server, base, assigned, managed, joining,
        tokenGiven, validated, absent, by rw [whole, bootstrap_cluster], decodedToken, ?_,
        parsedServer, https, baseURL, parsedBase, by rw [sent]; rfl, by rw [sent]; rfl, pinned⟩
      rw [sent]
      simp [bootstrapRequest, getRequest, named, password, show lit "server" ≠ [] by decide]
  · obtain ⟨c₁, host₁, c₂, host₂, assigned, decided, -, calls⟩ :=
      loading event member (by rw [isStorage]; trivial)
    rcases shouldBootstrapLoad_true decided with
      ⟨unmanaged, -, -⟩ | ⟨driver, info, hostV, -, -, -, -, -, rfl⟩
    · exact ⟨c₁, host₁, assigned, unmanaged⟩
    · have http := calls _ (bootstrap_calls_http rfl rfl)
      rw [isStorage] at http
      cases http

/-- A server that joins `https://s` with the token `K10::node:pw`, as `Cluster` is
constructed: no driver, no client access info, no flags. -/
def Cluster.sampleJoiner : Cluster :=
  ⟨⟨[lit "data"], lit "K10::node:pw", lit "https://s", [], false, false⟩, ⟨false⟩, none, none,
    false, false⟩

/-- The fetch guarantee for the sample joiner, whose bootstrap does fetch over HTTP. -/
theorem Bootstrap_fetch_authorized_sampleJoiner :
    Cluster.sampleJoiner.runtime.httpBootstrap = false ∧
    ∃ added, ((Bootstrap Externals.sample Cluster.sampleJoiner).run World.cooperative
        ⟨FS.empty, []⟩).2.trace = (Host.mk FS.empty []).trace ++ added ∧
      (∀ event ∈ added, ∀ request, event.1 = .roundTrip request →
          request.target.path = serverBootstrapPath Externals.sample →
        ∃ c₁ host₁ driver info host₂ decoded server base,
          (assignManagedDriver Externals.sample Cluster.sampleJoiner).run World.cooperative
            ⟨FS.empty, []⟩ = ((.ok (), c₁), host₁) ∧
          c₁.managedDB = some driver ∧ Cluster.sampleJoiner.config.joinURL ≠ [] ∧
          Cluster.sampleJoiner.config.token ≠ [] ∧
          (parseAndValidateTokenForUser Externals.sample Cluster.sampleJoiner.config.joinURL
            Cluster.sampleJoiner.config.token (lit "server")).run World.cooperative host₁ =
              (.ok info, host₂) ∧
          host₂.fs.entry (bootstrapStamp Externals.sample Cluster.sampleJoiner) = none ∧
          ((Bootstrap Externals.sample Cluster.sampleJoiner).run World.cooperative
            ⟨FS.empty, []⟩).1.2.clientAccessInfo = some info ∧
          parseToken Cluster.sampleJoiner.config.token = .ok decoded ∧
          request.basicAuth = some (lit "server", decoded.password) ∧
          Externals.sample.parseURL Cluster.sampleJoiner.config.joinURL = .ok server ∧
          server.scheme = lit "https" ∧
          info.baseURL = Externals.sample.urlString (trimmedURL server) ∧
          Externals.sample.parseURL info.baseURL = .ok base ∧
          request.target = { base with path := serverBootstrapPath Externals.sample } ∧
          request.trust = getHTTPClient info.caCerts ∧
          (decoded.caHash ≠ [] → hashCA Externals.sample info.caCerts = decoded.caHash)) ∧
      ∀ event ∈ added, event.1 = .storageBootstrap →
        ∃ c₁ host₁, (assignManagedDriver Externals.sample Cluster.sampleJoiner).run
            World.cooperative ⟨FS.empty, []⟩ = ((.ok (), c₁), host₁) ∧
          c₁.managedDB = none :=
  ⟨rfl, Bootstrap_fetch_authorized Externals.sample World.cooperative ⟨FS.empty, []⟩
    Cluster.sampleJoiner rfl⟩

/--
`Bootstrap` reports success for a node that must bootstrap only after the data was loaded:
over HTTP, its last two calls are the request for the bootstrap data with the client access
info, answered 200, and the reading of that very body into the runtime, which succeeded;
from the datastore, its last call is `storageBootstrap`, which succeeded. A success for a
node that need not bootstrap loaded nothing.
-/
theorem Bootstrap_loaded {ext : Externals} {world : World} {host : Host} {c : Cluster}
    (succeeded : ((Bootstrap ext c).run world host).1.1 = .ok ()) :
    ∃ added, ((Bootstrap ext c).run world host).2.trace = host.trace ++ added ∧
      ((((Bootstrap ext c).run world host).1.2.shouldBootstrap = false ∧
          ∀ event ∈ added, ¬ event.1.loadsBootstrap ext) ∨
        ((Bootstrap ext c).run world host).1.2.shouldBootstrap = true ∧
          ((∃ before info base status content,
              ((Bootstrap ext c).run world host).1.2.clientAccessInfo = some info ∧
              ext.parseURL info.baseURL = .ok base ∧
              added = before ++
                [⟨.roundTrip (bootstrapRequest ext info base), Answer.response 200 status (.bytes content)⟩,
                 ⟨.readBootstrap content, Except.ok ()⟩]) ∨
            ∃ before, added = before ++ [⟨.storageBootstrap, Except.ok ()⟩])) := by
  obtain ⟨added, trace, loading⟩ := Bootstrap_loads ext world host c
  refine ⟨added, trace, ?_⟩
  have whole := Bootstrap_run ext world host c
  rcases assigned : (assignManagedDriver ext c).run world host with ⟨⟨err | ⟨⟩, c₁⟩, host₁⟩
  all_goals rw [assigned] at whole; dsimp only at whole
  · rw [whole] at succeeded
    cases succeeded
  rcases decided : (shouldBootstrapLoad ext c₁).run world host₁ with ⟨⟨err | _ | _, c₂⟩, host₂⟩
  all_goals rw [decided] at whole; dsimp only at whole
  · rw [whole] at succeeded
    cases succeeded
  · -- no loading was asked for, and none happened
    simp only [Bool.false_eq_true, ↓reduceIte] at whole
    refine .inl ⟨by rw [whole], fun event member loads => ?_⟩
    obtain ⟨_, _, _, _, again, decided', -⟩ := loading event member loads
    rw [assigned] at again
    cases again
    rw [decided] at decided'
    cases decided'
  · -- the data was loaded, by the last calls of the run
    simp only [↓reduceIte] at whole
    rw [whole] at succeeded trace ⊢
    have cluster := bootstrap_cluster ext world host₂ { c₂ with shouldBootstrap := true }
    generalize loadedRun : (bootstrap ext { c₂ with shouldBootstrap := true }).run world host₂ =
      outcome at succeeded trace cluster ⊢
    obtain ⟨⟨result, c₃⟩, host₃⟩ := outcome
    dsimp only at succeeded trace cluster ⊢
    subst succeeded cluster
    have assigning := Prog.trace_prefix_run world (assignManagedDriver ext c) host
    have deciding := Prog.trace_prefix_run world (shouldBootstrapLoad ext c₁) host₁
    rw [assigned] at assigning
    rw [decided] at deciding
    obtain ⟨before, prefixed⟩ := assigning.trans deciding
    dsimp only at prefixed
    have ends : ∀ last, host₃.trace = host₂.trace ++ last → added = before ++ last :=
      fun last loaded => by
        rw [loaded, ← prefixed, List.append_assoc] at trace
        exact (List.append_cancel_left trace).symm
    refine .inr ⟨rfl, ?_⟩
    rcases bootstrap_ok loadedRun with ⟨info, base, status, content, -, given, parsed, loaded⟩ |
      ⟨-, loaded⟩
    · exact .inl ⟨before, info, base, status, content, given, parsed, ends _ loaded⟩
    · exact .inr ⟨before, ends _ loaded⟩

/-- The sample joiner bootstraps over HTTP when every peer and driver cooperates. -/
theorem Bootstrap_loaded_sampleJoiner :
    ((Bootstrap Externals.sample Cluster.sampleJoiner).run World.cooperative
        ⟨FS.empty, []⟩).1.1 = .ok () ∧
    ∃ added, ((Bootstrap Externals.sample Cluster.sampleJoiner).run World.cooperative
        ⟨FS.empty, []⟩).2.trace = (Host.mk FS.empty []).trace ++ added ∧
      ((((Bootstrap Externals.sample Cluster.sampleJoiner).run World.cooperative
          ⟨FS.empty, []⟩).1.2.shouldBootstrap = false ∧
          ∀ event ∈ added, ¬ event.1.loadsBootstrap Externals.sample) ∨
        ((Bootstrap Externals.sample Cluster.sampleJoiner).run World.cooperative
          ⟨FS.empty, []⟩).1.2.shouldBootstrap = true ∧
          ((∃ before info base status content,
              ((Bootstrap Externals.sample Cluster.sampleJoiner).run World.cooperative
                ⟨FS.empty, []⟩).1.2.clientAccessInfo = some info ∧
              Externals.sample.parseURL info.baseURL = .ok base ∧
              added = before ++
                [⟨.roundTrip (bootstrapRequest Externals.sample info base),
                    Answer.response 200 status (.bytes content)⟩,
                 ⟨.readBootstrap content, Except.ok ()⟩]) ∨
            ∃ before, added = before ++ [⟨.storageBootstrap, Except.ok ()⟩])) :=
  ⟨rfl, Bootstrap_loaded rfl⟩

/-! ## A failed validation -/

/-- After a failed validation, `shouldBootstrapLoad` sets the HTTP flag and forgives the
failure exactly when it is `ErrServiceUnavailable` and the driver reports an initialized
datastore; otherwise it returns the failure. -/
theorem shouldBootstrapLoad_failed
    {ext : Externals} {world : World} {host host₂ : Host} {c : Cluster} {driver : Driver}
    {err : GoError} (managed : c.managedDB = some driver) (joining : c.config.joinURL ≠ [])
    (failed : (parseAndValidateTokenForUser ext c.config.joinURL c.config.token
      (lit "server")).run world host = (.error err, host₂)) :
    ((shouldBootstrapLoad ext c).run world host).1.2 =
        { c with runtime := { c.runtime with httpBootstrap := true } } ∧
      (((shouldBootstrapLoad ext c).run world host).1.1 = .ok false ↔
        err.isServiceUnavailable = true ∧
          world.answer host₂.trace (.isInitialized driver c.config) = Except.ok true) ∧
      (((shouldBootstrapLoad ext c).run world host).1.1 ≠ .ok false →
        ((shouldBootstrapLoad ext c).run world host).1.1 = .error err) := by
  simp only [shouldBootstrapLoad, managed, joining, if_false, Prog.bind_eq, Prog.run_bind]
  rw [failed]
  dsimp only
  cases unavailable : err.isServiceUnavailable
  · simp
  · simp only [if_true, Prog.run_bind, Driver.isInitialized_run]
    split <;> simp_all

/--
A failed validation of the join token is forgiven only when it wraps
`ErrServiceUnavailable`, which only a 503 answer to the second or the third `/cacerts`
request produces, and the assigned driver reports an initialized datastore: then
`Bootstrap` returns nil with `shouldBootstrap` false. Every other failure is returned by
`Bootstrap`. Either way nothing is loaded and the client access info is untouched.
-/
theorem Bootstrap_validation_failure
    {ext : Externals} {world : World} {host host₁ host₂ : Host} {c c₁ : Cluster}
    {driver : Driver} {err : GoError}
    (assigned : (assignManagedDriver ext c).run world host = ((.ok (), c₁), host₁))
    (managed : c₁.managedDB = some driver) (joining : c.config.joinURL ≠ [])
    (failed : (parseAndValidateTokenForUser ext c.config.joinURL c.config.token
      (lit "server")).run world host₁ = (.error err, host₂)) :
    (((Bootstrap ext c).run world host).1.1 = .ok () ↔
        err.isServiceUnavailable = true ∧
          world.answer host₂.trace (.isInitialized driver c.config) = Except.ok true) ∧
      (((Bootstrap ext c).run world host).1.1 ≠ .ok () →
        ((Bootstrap ext c).run world host).1.1 = .error err) ∧
      (((Bootstrap ext c).run world host).1.1 = .ok () →
        ((Bootstrap ext c).run world host).1.2.shouldBootstrap = false) ∧
      ((Bootstrap ext c).run world host).1.2.clientAccessInfo = c.clientAccessInfo ∧
      (∃ added, ((Bootstrap ext c).run world host).2.trace = host.trace ++ added ∧
        ∀ event ∈ added, ¬ event.1.loadsBootstrap ext) ∧
      (err.isServiceUnavailable = true → ∃ server validation,
        ext.parseURL c.config.joinURL = .ok server ∧
        host₂.trace = host₁.trace ++ validation ∧
        CACertsUnavailable (trimmedURL server) validation) := by
  obtain ⟨db, rfl⟩ : ∃ db, c₁ = { c with managedDB := db } :=
    ⟨_, assignManagedDriver_keeps assigned⟩
  obtain ⟨added, trace, loading⟩ := Bootstrap_loads ext world host c
  obtain ⟨kept, forgiven, returned⟩ := shouldBootstrapLoad_failed managed joining failed
  have whole := Bootstrap_run ext world host c
  rw [assigned] at whole
  dsimp only at whole
  generalize decision : (shouldBootstrapLoad ext { c with managedDB := db }).run world host₁ =
    step at kept forgiven returned whole
  obtain ⟨⟨result, c₂⟩, host₃⟩ := step
  dsimp only at kept forgiven returned whole
  subst kept
  have quiet : ∀ event ∈ added, ¬ event.1.loadsBootstrap ext := by
    intro event member loads
    obtain ⟨c₁, host₁', c₂, host₂', again, decided, -⟩ := loading event member loads
    rw [assigned, Prod.mk.injEq, Prod.mk.injEq] at again
    obtain ⟨⟨-, rfl⟩, rfl⟩ := again
    rw [decision, Prod.mk.injEq, Prod.mk.injEq] at decided
    rw [decided.1.1] at returned
    simp at returned
  refine ⟨?_, ?_, ?_, ?_, ⟨added, trace, quiet⟩,
    fun unavailable => parseAndValidate_serviceUnavailable failed unavailable⟩
  -- `Bootstrap` returns nil when the failure is forgiven, and the failure otherwise
  all_goals
    rw [whole]
    rcases (em (result = .ok false)).imp_right returned with rfl | rfl <;> simp [← forgiven]

/-- A world in which every peer answers 503 and every driver reports an initialized
datastore, as for a member of a cluster that lost quorum. -/
def World.quorumLoss : World where
  answer := fun trace call =>
    match call with
    | .roundTrip _ => Answer.response 503 (lit "503 Service Unavailable") (.bytes [])
    | call => World.cooperative.answer trace call

/-- The sample joiner after a quorum loss: its token validation fails with
`ErrServiceUnavailable`, and its initialized datastore lets `Bootstrap` go on. -/
theorem Bootstrap_validation_failure_quorumLoss :
    (assignManagedDriver Externals.sample Cluster.sampleJoiner).run World.quorumLoss
        ⟨FS.empty, []⟩ =
      ((.ok (), ((assignManagedDriver Externals.sample Cluster.sampleJoiner).run
          World.quorumLoss ⟨FS.empty, []⟩).1.2),
        ((assignManagedDriver Externals.sample Cluster.sampleJoiner).run World.quorumLoss
          ⟨FS.empty, []⟩).2) ∧
    ((assignManagedDriver Externals.sample Cluster.sampleJoiner).run World.quorumLoss
        ⟨FS.empty, []⟩).1.2.managedDB = some ⟨0, lit "etcd"⟩ ∧
    Cluster.sampleJoiner.config.joinURL ≠ [] ∧
    (parseAndValidateTokenForUser Externals.sample Cluster.sampleJoiner.config.joinURL
        Cluster.sampleJoiner.config.token (lit "server")).run World.quorumLoss
        ((assignManagedDriver Externals.sample Cluster.sampleJoiner).run World.quorumLoss
          ⟨FS.empty, []⟩).2 =
      (.error (.wrap (lit "failed to get CA certs") .serviceUnavailable),
        ((parseAndValidateTokenForUser Externals.sample Cluster.sampleJoiner.config.joinURL
          Cluster.sampleJoiner.config.token (lit "server")).run World.quorumLoss
          ((assignManagedDriver Externals.sample Cluster.sampleJoiner).run World.quorumLoss
            ⟨FS.empty, []⟩).2).2) ∧
    (((Bootstrap Externals.sample Cluster.sampleJoiner).run World.quorumLoss
        ⟨FS.empty, []⟩).1.1 = .ok () ↔
      (GoError.wrap (lit "failed to get CA certs") .serviceUnavailable).isServiceUnavailable =
          true ∧
        World.quorumLoss.answer
            ((parseAndValidateTokenForUser Externals.sample Cluster.sampleJoiner.config.joinURL
              Cluster.sampleJoiner.config.token (lit "server")).run World.quorumLoss
              ((assignManagedDriver Externals.sample Cluster.sampleJoiner).run World.quorumLoss
                ⟨FS.empty, []⟩).2).2.trace
            (.isInitialized ⟨0, lit "etcd"⟩ Cluster.sampleJoiner.config) = Except.ok true) ∧
    (((Bootstrap Externals.sample Cluster.sampleJoiner).run World.quorumLoss
        ⟨FS.empty, []⟩).1.1 ≠ .ok () →
      ((Bootstrap Externals.sample Cluster.sampleJoiner).run World.quorumLoss
        ⟨FS.empty, []⟩).1.1 = .error (.wrap (lit "failed to get CA certs") .serviceUnavailable)) ∧
    (((Bootstrap Externals.sample Cluster.sampleJoiner).run World.quorumLoss
        ⟨FS.empty, []⟩).1.1 = .ok () →
      ((Bootstrap Externals.sample Cluster.sampleJoiner).run World.quorumLoss
        ⟨FS.empty, []⟩).1.2.shouldBootstrap = false) ∧
    ((Bootstrap Externals.sample Cluster.sampleJoiner).run World.quorumLoss
        ⟨FS.empty, []⟩).1.2.clientAccessInfo = Cluster.sampleJoiner.clientAccessInfo ∧
    (∃ added, ((Bootstrap Externals.sample Cluster.sampleJoiner).run World.quorumLoss
        ⟨FS.empty, []⟩).2.trace = (Host.mk FS.empty []).trace ++ added ∧
      ∀ event ∈ added, ¬ event.1.loadsBootstrap Externals.sample) ∧
    ((GoError.wrap (lit "failed to get CA certs") .serviceUnavailable).isServiceUnavailable =
        true → ∃ server validation,
      Externals.sample.parseURL Cluster.sampleJoiner.config.joinURL = .ok server ∧
      ((parseAndValidateTokenForUser Externals.sample Cluster.sampleJoiner.config.joinURL
          Cluster.sampleJoiner.config.token (lit "server")).run World.quorumLoss
          ((assignManagedDriver Externals.sample Cluster.sampleJoiner).run World.quorumLoss
            ⟨FS.empty, []⟩).2).2.trace =
        ((assignManagedDriver Externals.sample Cluster.sampleJoiner).run World.quorumLoss
          ⟨FS.empty, []⟩).2.trace ++ validation ∧
      CACertsUnavailable (trimmedURL server) validation) :=
  ⟨rfl, rfl, by decide, rfl, Bootstrap_validation_failure rfl rfl (by decide) rfl⟩

end K3sCluster
