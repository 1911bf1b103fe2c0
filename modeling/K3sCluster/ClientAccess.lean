import K3sCluster.Effects

namespace K3sCluster

/-!
# Establishing trust in a server

`getCACerts` asks a server for `/cacerts` up to three times: with the system roots (a
success means no bundle is needed), without verification (to read the bundle), and with
a client that trusts only the bundle just read (to check that it authenticates the very
server it came from). `setServer` runs it on an `https` URL stripped of trailing slashes,
and `ParseAndValidateToken` checks the bundle against the hash the token pins.

`setServer_trusted` states what a successful `setServer` has seen; `parseAndValidate_ok`
and `parseAndValidateToken_pinned` what the token's hash guarantees, and
`parseAndValidate_serviceUnavailable_iff` which answers make a validation report
`ErrServiceUnavailable`.
-/

/-- `GetHTTPClient`: the system roots for an empty bundle, otherwise exactly the bundle. -/
def getHTTPClient (cacerts : Bytes) : TrustPolicy :=
  if cacerts = [] then .systemRoots else .rootsFrom cacerts

/-- `client.Do(req)` followed by reading the body. -/
def clientDo (request : Request) : Prog Answer :=
  Prog.query (.roundTrip request)

/-- What `get` makes of an answer: 503 is `ErrServiceUnavailable`, another status but 200
an error naming the URL and the status. -/
def readAnswer (ext : Externals) (target : URL) : Answer → Except GoError Bytes
  | .transportFailure reason => .error (.external reason)
  | .response statusCode status body =>
      if statusCode = 503 then .error .serviceUnavailable
      else if statusCode ≠ 200 then .error (.message (ext.urlString target ++ lit ": " ++ status))
      else
        match body with
        | .bytes content => .ok content
        | .readFailure reason => .error (.external reason)

/-- The request `get` builds: basic auth only for a non-empty username. -/
def getRequest (target : URL) (trust : TrustPolicy) (username password : GoString) : Request :=
  { target, trust, basicAuth := if username = [] then none else some (username, password) }

/-- `get`. -/
def get (ext : Externals) (target : URL) (trust : TrustPolicy) (username password : GoString) :
    Prog (Except GoError Bytes) := do
  let answer ← clientDo (getRequest target trust username password)
  pure (readAnswer ext target answer)

/-- `getCACerts`. -/
def getCACerts (ext : Externals) (u : URL) : Prog (Except GoError Bytes) := do
  let u := { u with path := lit "/cacerts" }
  match ← get ext u .systemRoots [] [] with
  | .ok _ => pure (.ok [])
  | .error _ =>
      match ← get ext u .skipVerify [] [] with
      | .error err => pure (.error (.wrap (lit "failed to get CA certs") err))
      | .ok cacerts =>
          match ← get ext u (getHTTPClient cacerts) [] [] with
          | .error err => pure (.error (.wrap (lit "CA cert validation failed") err))
          | .ok _ => pure (.ok cacerts)

/-- The URL `setServer` keeps: the parsed one with its trailing slashes removed. -/
def trimmedURL (url : URL) : URL :=
  { url with path := trimSlashes url.path.length url.path }

/-- `(*Info).setServer`. -/
def Info.setServer (ext : Externals) (info : Info) (server : GoString) :
    Prog (Except GoError Info) :=
  match ext.parseURL server with
  | .error reason =>
      pure (.error (.wrap (lit "Invalid server url, failed to parse: " ++ server)
        (.external reason)))
  | .ok url =>
      if url.scheme ≠ lit "https" then
        pure (.error (.message (lit "only https:// URLs are supported, invalid scheme: " ++
          server)))
      else do
        match ← getCACerts ext (trimmedURL url) with
        | .error err => pure (.error err)
        | .ok cacerts =>
            pure (.ok { info with baseURL := ext.urlString (trimmedURL url), caCerts := cacerts })

/-- The end of `ParseAndValidateToken`: validate the bundle when the token pins a hash. -/
def checkPinnedHash (ext : Externals) (info : Info) : Except GoError Info :=
  if info.caHash ≠ [] then
    match info.validateCAHash ext with
    | .error err => .error err
    | .ok () => .ok info
  else .ok info

/--
The body shared by `ParseAndValidateToken` and `ParseAndValidateTokenForUser`: parse the
token, override the username if asked, fetch the bundle, and check a pinned hash.
-/
def parseAndValidate (ext : Externals) (server token : GoString)
    (usernameOverride : Option GoString) : Prog (Except GoError Info) :=
  match parseToken token with
  | .error err => pure (.error err)
  | .ok info => do
      let info := { info with username := usernameOverride.getD info.username }
      match ← info.setServer ext server with
      | .error err => pure (.error err)
      | .ok info => pure (checkPinnedHash ext info)

/-- `ParseAndValidateToken`. -/
def parseAndValidateToken (ext : Externals) (server token : GoString) :
    Prog (Except GoError Info) :=
  parseAndValidate ext server token none

/-- `ParseAndValidateTokenForUser`. -/
def parseAndValidateTokenForUser (ext : Externals) (server token username : GoString) :
    Prog (Except GoError Info) :=
  parseAndValidate ext server token (some username)

/-- `Get`: a request for `path` under `info.BaseURL`, with the bundle and credentials of
`info`. -/
def Get (ext : Externals) (path : GoString) (info : Info) : Prog (Except GoError Bytes) :=
  match ext.parseURL info.baseURL with
  | .error reason => pure (.error (.external reason))
  | .ok u => get ext { u with path } (getHTTPClient info.caCerts) info.username info.password

/-! ## What a request saw -/

/-- The request `getCACerts` sends with a trust policy. -/
def caCertsRequest (u : URL) (trust : TrustPolicy) : Request :=
  getRequest { u with path := lit "/cacerts" } trust [] []

theorem get_run (ext : Externals) (world : World) (host : Host) (target : URL)
    (trust : TrustPolicy) (username password : GoString) :
    (get ext target trust username password).run world host =
      (readAnswer ext target
          (world.answer host.trace (.roundTrip (getRequest target trust username password))),
        host.record ⟨.roundTrip (getRequest target trust username password),
          world.answer host.trace (.roundTrip (getRequest target trust username password))⟩) :=
  rfl

/-- `get` succeeds exactly on a 200 answer whose body could be read. -/
theorem readAnswer_eq_ok {ext : Externals} {target : URL} {answer : Answer} {body : Bytes} :
    readAnswer ext target answer = .ok body ↔
      ∃ status, answer = .response 200 status (.bytes body) := by
  constructor
  · intro read
    cases answer with
    | transportFailure reason =>
        cases read
    | response statusCode status content =>
        simp only [readAnswer] at read
        split at read
        · cases read
        · split at read
          · cases read
          · cases content with
            | bytes content =>
                cases read
                exact ⟨status, by simp_all⟩
            | readFailure reason =>
                cases read
  · rintro ⟨status, rfl⟩
    rfl

/-- A successful `setServer` parsed an `https` URL, fetched the bundle under it, and set
only `BaseURL` and `CACerts`. -/
theorem setServer_ok
    {ext : Externals} {world : World} {host host' : Host} {info info' : Info}
    {server : GoString}
    (ran : (info.setServer ext server).run world host = (.ok info', host')) :
    ∃ url, ext.parseURL server = .ok url ∧ url.scheme = lit "https" ∧
      (getCACerts ext (trimmedURL url)).run world host = (.ok info'.caCerts, host') ∧
      info' = { info with baseURL := ext.urlString (trimmedURL url), caCerts := info'.caCerts } := by
  unfold Info.setServer at ran
  split at ran
  · simp at ran
  · next url parsed =>
      split at ran
      · simp at ran
      · next https =>
          simp only [Prog.bind_eq, Prog.run_bind] at ran
          split at ran
          · simp at ran
          · next cacerts fetched =>
              simp only [Prog.pure_eq, Prog.run_pure, Prod.mk.injEq, Except.ok.injEq] at ran
              obtain ⟨rfl, rfl⟩ := ran
              exact ⟨url, parsed, not_not.mp https, by rw [← fetched], rfl⟩

/-- A check that passes returns the info it was given, whose bundle has the pinned hash
when one is pinned. -/
theorem checkPinnedHash_ok
    {ext : Externals} {info result : Info}
    (checked : checkPinnedHash ext info = .ok result) :
    result = info ∧ (info.caHash ≠ [] → hashCA ext info.caCerts = info.caHash) := by
  unfold checkPinnedHash at checked
  split at checked
  · next pinned =>
      split at checked
      · cases checked
      · next valid =>
          cases checked
          refine ⟨rfl, fun _ => ?_⟩
          simp only [Info.validateCAHash, validateCACerts, pinned, and_false, if_false] at valid
          split at valid
          · next same => exact (of_decide_eq_true same).symm
          · cases valid
  · next unpinned =>
      cases checked
      exact ⟨rfl, fun pinned => absurd (not_not.mp unpinned) pinned⟩

/-- A pinned hash that the bundle does not have fails the check, naming both hashes. -/
theorem checkPinnedHash_mismatch
    {ext : Externals} {info : Info}
    (pinned : info.caHash ≠ []) (differs : hashCA ext info.caCerts ≠ info.caHash) :
    ∃ err, checkPinnedHash ext info = .error err ∧
      info.caHash <:+: err.text ∧ hashCA ext info.caCerts <:+: err.text := by
  have mismatch : decide (info.caHash = hashCA ext info.caCerts) = false :=
    decide_eq_false (Ne.symm differs)
  refine ⟨.message (lit "token CA hash does not match the server CA hash: " ++ info.caHash ++
    lit " != " ++ hashCA ext info.caCerts), ?_, ?_, ?_⟩
  · simp [checkPinnedHash, pinned, Info.validateCAHash, validateCACerts, mismatch]
  · exact ⟨lit "token CA hash does not match the server CA hash: ",
      lit " != " ++ hashCA ext info.caCerts, by simp [GoError.text]⟩
  · exact ⟨lit "token CA hash does not match the server CA hash: " ++ info.caHash ++
      lit " != ", [], by simp [GoError.text]⟩

/-- A token that pins no hash accepts every bundle. -/
theorem checkPinnedHash_unpinned {ext : Externals} {info : Info} (unpinned : info.caHash = []) :
    checkPinnedHash ext info = .ok info := by
  simp [checkPinnedHash, unpinned]

/-- Past a parsed token, `ParseAndValidateToken` is `setServer` and the hash check. -/
theorem parseAndValidate_run
    {ext : Externals} {world : World} {host : Host} {server token : GoString}
    {usernameOverride : Option GoString} {parsed : Info}
    (decoded : parseToken token = .ok parsed) :
    (parseAndValidate ext server token usernameOverride).run world host =
      match ({ parsed with username := usernameOverride.getD parsed.username }.setServer
          ext server).run world host with
      | (.error err, host') => (.error err, host')
      | (.ok info, host') => (checkPinnedHash ext info, host') := by
  unfold parseAndValidate
  simp only [decoded, Prog.bind_eq, Prog.run_bind]
  rcases (Info.setServer ext _ server).run world host with ⟨_ | info, host'⟩ <;> rfl

/-- A token that does not parse fails the validation before any request. -/
theorem parseAndValidate_run_error
    {ext : Externals} {world : World} {host : Host} {server token : GoString}
    {usernameOverride : Option GoString} {cause : GoError}
    (failed : parseToken token = .error cause) :
    (parseAndValidate ext server token usernameOverride).run world host = (.error cause, host) := by
  unfold parseAndValidate
  rw [failed]
  rfl

/-- Everything a token's hash decides, for either username. -/
theorem parseAndValidate_outcome
    {ext : Externals} {world : World} {host : Host} {server token : GoString}
    {usernameOverride : Option GoString} {parsed : Info}
    (decoded : parseToken token = .ok parsed) :
    (∀ info host', (parseAndValidate ext server token usernameOverride).run world host =
        (.ok info, host') →
      (parsed.caHash ≠ [] → hashCA ext info.caCerts = parsed.caHash) ∧
        info.username = usernameOverride.getD parsed.username ∧
        info.password = parsed.password) ∧
    ∀ served host', ({ parsed with username := usernameOverride.getD parsed.username }.setServer
        ext server).run world host = (.ok served, host') →
      (parsed.caHash ≠ [] → hashCA ext served.caCerts ≠ parsed.caHash →
        ∃ err, (parseAndValidate ext server token usernameOverride).run world host =
            (.error err, host') ∧
          parsed.caHash <:+: err.text ∧ hashCA ext served.caCerts <:+: err.text) ∧
      (parsed.caHash = [] →
        (parseAndValidate ext server token usernameOverride).run world host = (.ok served, host')) := by
  rw [parseAndValidate_run decoded]
  refine ⟨fun info host' ran => ?_, fun served host' ran => ?_⟩
  · split at ran
    · cases ran
    · next served host'' served_ran =>
        simp only [Prod.mk.injEq] at ran
        obtain ⟨same, pinnedOk⟩ := checkPinnedHash_ok ran.1
        obtain ⟨_, _, _, _, shape⟩ := setServer_ok served_ran
        subst same
        rw [shape] at pinnedOk ⊢
        exact ⟨pinnedOk, rfl, rfl⟩
  · obtain ⟨_, _, _, _, shape⟩ := setServer_ok ran
    have sameHash : served.caHash = parsed.caHash := by rw [shape]
    refine ⟨fun pinned differs => ?_, fun unpinned => ?_⟩
    · obtain ⟨err, failed, first, second⟩ :=
        checkPinnedHash_mismatch (sameHash ▸ pinned) (sameHash ▸ differs)
      exact ⟨err, by simp only [ran, failed], sameHash ▸ first, second⟩
    · simp only [ran, checkPinnedHash_unpinned (sameHash.trans unpinned)]

/--
CA pinning: when the token pins a hash, both `ParseAndValidateToken` and
`ParseAndValidateTokenForUser` return an info only if its bundle has that hash, and fail
naming both hashes when `setServer` obtained a bundle with another; a token that pins no
hash accepts the bundle `setServer` obtained. A success carries the decoded password and
the decoded, or the given, username.
-/
theorem parseAndValidateToken_pinned
    (ext : Externals) (world : World) (host : Host) (server token username : GoString)
    (parsed : Info) (decoded : parseToken token = .ok parsed) :
    (∀ info host', (parseAndValidateToken ext server token).run world host = (.ok info, host') →
      (parsed.caHash ≠ [] → hashCA ext info.caCerts = parsed.caHash) ∧
        info.username = parsed.username ∧ info.password = parsed.password) ∧
    (∀ info host', (parseAndValidateTokenForUser ext server token username).run world host =
        (.ok info, host') →
      (parsed.caHash ≠ [] → hashCA ext info.caCerts = parsed.caHash) ∧
        info.username = username ∧ info.password = parsed.password) ∧
    (∀ served host', (parsed.setServer ext server).run world host = (.ok served, host') →
      (parsed.caHash ≠ [] → hashCA ext served.caCerts ≠ parsed.caHash →
        ∃ err, (parseAndValidateToken ext server token).run world host = (.error err, host') ∧
          parsed.caHash <:+: err.text ∧ hashCA ext served.caCerts <:+: err.text) ∧
      (parsed.caHash = [] →
        (parseAndValidateToken ext server token).run world host = (.ok served, host'))) ∧
    (∀ served host', ({ parsed with username }.setServer ext server).run world host =
        (.ok served, host') →
      (parsed.caHash ≠ [] → hashCA ext served.caCerts ≠ parsed.caHash →
        ∃ err, (parseAndValidateTokenForUser ext server token username).run world host =
            (.error err, host') ∧
          parsed.caHash <:+: err.text ∧ hashCA ext served.caCerts <:+: err.text) ∧
      (parsed.caHash = [] →
        (parseAndValidateTokenForUser ext server token username).run world host =
          (.ok served, host'))) :=
  have decodedUser := @parseAndValidate_outcome ext world host server token none parsed decoded
  have givenUser :=
    @parseAndValidate_outcome ext world host server token (some username) parsed decoded
  ⟨decodedUser.1, givenUser.1, decodedUser.2, givenUser.2⟩

/-- CA pinning at the token `K10abc::node:pw`. -/
theorem parseAndValidateToken_pinned_abc :
    parseToken (lit "K10abc::node:pw") = .ok ⟨[], [], lit "node", lit "pw", lit "abc"⟩ ∧
    (∀ info host', (parseAndValidateToken Externals.sample (lit "https://s")
        (lit "K10abc::node:pw")).run World.cooperative ⟨FS.empty, []⟩ = (.ok info, host') →
      (lit "abc" ≠ [] → hashCA Externals.sample info.caCerts = lit "abc") ∧
        info.username = lit "node" ∧ info.password = lit "pw") ∧
    (∀ info host', (parseAndValidateTokenForUser Externals.sample (lit "https://s")
        (lit "K10abc::node:pw") (lit "server")).run World.cooperative ⟨FS.empty, []⟩ =
        (.ok info, host') →
      (lit "abc" ≠ [] → hashCA Externals.sample info.caCerts = lit "abc") ∧
        info.username = lit "server" ∧ info.password = lit "pw") ∧
    (∀ served host', ((⟨[], [], lit "node", lit "pw", lit "abc"⟩ : Info).setServer
        Externals.sample (lit "https://s")).run World.cooperative ⟨FS.empty, []⟩ =
        (.ok served, host') →
      (lit "abc" ≠ [] → hashCA Externals.sample served.caCerts ≠ lit "abc" →
        ∃ err, (parseAndValidateToken Externals.sample (lit "https://s")
            (lit "K10abc::node:pw")).run World.cooperative ⟨FS.empty, []⟩ = (.error err, host') ∧
          lit "abc" <:+: err.text ∧ hashCA Externals.sample served.caCerts <:+: err.text) ∧
      (lit "abc" = [] →
        (parseAndValidateToken Externals.sample (lit "https://s")
          (lit "K10abc::node:pw")).run World.cooperative ⟨FS.empty, []⟩ = (.ok served, host'))) ∧
    (∀ served host', ((⟨[], [], lit "server", lit "pw", lit "abc"⟩ : Info).setServer
        Externals.sample (lit "https://s")).run World.cooperative ⟨FS.empty, []⟩ =
        (.ok served, host') →
      (lit "abc" ≠ [] → hashCA Externals.sample served.caCerts ≠ lit "abc" →
        ∃ err, (parseAndValidateTokenForUser Externals.sample (lit "https://s")
            (lit "K10abc::node:pw") (lit "server")).run World.cooperative ⟨FS.empty, []⟩ =
            (.error err, host') ∧
          lit "abc" <:+: err.text ∧ hashCA Externals.sample served.caCerts <:+: err.text) ∧
      (lit "abc" = [] →
        (parseAndValidateTokenForUser Externals.sample (lit "https://s")
          (lit "K10abc::node:pw") (lit "server")).run World.cooperative ⟨FS.empty, []⟩ =
          (.ok served, host'))) :=
  ⟨rfl, parseAndValidateToken_pinned Externals.sample World.cooperative ⟨FS.empty, []⟩
    (lit "https://s") (lit "K10abc::node:pw") (lit "server") _ rfl⟩

/-! ## The requests a validation makes, and why it fails -/

/-- A call that asks a server for `/cacerts`. -/
def Call.asksCACerts : Call → Prop
  | .roundTrip request => ∃ u trust, request = caCertsRequest u trust
  | _ => False

/-- A request for `/cacerts` under the `https` URL that `server` parses to, with its
trailing slashes trimmed. -/
def Call.asksCACertsOf (ext : Externals) (server : GoString) : Call → Prop
  | .roundTrip request => ∃ url trust, ext.parseURL server = .ok url ∧
      url.scheme = lit "https" ∧ request = caCertsRequest (trimmedURL url) trust
  | _ => False

/-- `getCACerts` asks only for `/cacerts` under the URL it is given. -/
theorem getCACerts_calls (ext : Externals) (u : URL) :
    (getCACerts ext u).CallsWithin fun call => ∃ trust, call = .roundTrip (caCertsRequest u trust) := by
  have asks : ∀ trust, (get ext { u with path := lit "/cacerts" } trust [] []).CallsWithin
      fun call => ∃ trust, call = .roundTrip (caCertsRequest u trust) := fun trust =>
    (Prog.CallsWithin.query ⟨trust, rfl⟩).bind fun _ => .pure _
  refine (asks _).bind fun _ => ?_
  split
  · exact .pure _
  · refine (asks _).bind fun _ => ?_
    split
    · exact .pure _
    · refine (asks _).bind fun _ => ?_
      split <;> exact .pure _

/-- A validation asks only for `/cacerts`, and only under the `https` URL it was given,
stripped of its trailing slashes. -/
theorem parseAndValidate_requests (ext : Externals) (server token : GoString)
    (usernameOverride : Option GoString) :
    (parseAndValidate ext server token usernameOverride).CallsWithin (Call.asksCACertsOf ext server) := by
  unfold parseAndValidate
  split
  · exact .pure _
  · refine Prog.CallsWithin.bind ?_ fun _ => by split <;> exact .pure _
    unfold Info.setServer
    split
    · exact .pure _
    · next url parsed =>
        split
        · exact .pure _
        · next https =>
            refine ((getCACerts_calls ext _).mono fun _ ⟨trust, asked⟩ => ?_).bind fun _ => by
              split <;> exact .pure _
            exact asked ▸ ⟨url, trust, parsed, not_not.mp https, rfl⟩

theorem parseAndValidate_calls (ext : Externals) (server token : GoString)
    (usernameOverride : Option GoString) :
    (parseAndValidate ext server token usernameOverride).CallsWithin Call.asksCACerts :=
  (parseAndValidate_requests ext server token usernameOverride).mono fun
    | .roundTrip _, ⟨_, trust, _, _, asked⟩ => ⟨_, trust, asked⟩

/-- A validation that asks for `/cacerts` was given a server URL that parses with the
`https` scheme. -/
theorem Call.asksCACertsOf.https {ext : Externals} {server : GoString} :
    ∀ {call : Call}, call.asksCACertsOf ext server →
      ∃ url, ext.parseURL server = .ok url ∧ url.scheme = lit "https"
  | .roundTrip _, ⟨url, _, parsed, https, _⟩ => ⟨url, parsed, https⟩

/-- `parseToken` has one error. -/
theorem parseToken_error {token : GoString} {err : GoError}
    (failed : parseToken token = .error err) : err = invalidTokenFormat := by
  simp only [parseToken] at failed
  split at failed <;> (try split at failed) <;> cases failed
  rfl

/-- `get` reports `ErrServiceUnavailable` only for a 503 answer. -/
theorem readAnswer_serviceUnavailable {ext : Externals} {target : URL} {answer : Answer}
    {err : GoError} (read : readAnswer ext target answer = .error err)
    (unavailable : err.isServiceUnavailable = true) :
    ∃ status body, answer = .response 503 status body := by
  cases answer with
  | transportFailure reason =>
      cases read
      simp [GoError.isServiceUnavailable] at unavailable
  | response statusCode status body =>
      simp only [readAnswer] at read
      split at read
      · next is503 => exact ⟨status, body, by rw [is503]⟩
      · split at read
        · cases read
          simp [GoError.isServiceUnavailable] at unavailable
        · cases body <;> cases read
          simp [GoError.isServiceUnavailable] at unavailable

/-- The requests of a `getCACerts` under `u` that ended on a 503 answer to its second or
its third request. -/
def CACertsUnavailable (u : URL) (added : Trace) : Prop :=
  ∃ first status body,
    added = [⟨.roundTrip (caCertsRequest u .systemRoots), first⟩,
      ⟨.roundTrip (caCertsRequest u .skipVerify), Answer.response 503 status body⟩] ∨
    ∃ cacerts status', added = [⟨.roundTrip (caCertsRequest u .systemRoots), first⟩,
      ⟨.roundTrip (caCertsRequest u .skipVerify), Answer.response 200 status' (.bytes cacerts)⟩,
      ⟨.roundTrip (caCertsRequest u (getHTTPClient cacerts)), Answer.response 503 status body⟩]

/-- `getCACerts` fails with `ErrServiceUnavailable` only after a 503 answer to its second
or third request. -/
theorem getCACerts_serviceUnavailable
    {ext : Externals} {world : World} {host host' : Host} {u : URL} {err : GoError}
    (ran : (getCACerts ext u).run world host = (.error err, host'))
    (unavailable : err.isServiceUnavailable = true) :
    ∃ added, host'.trace = host.trace ++ added ∧ CACertsUnavailable u added := by
  simp only [getCACerts, Prog.bind_eq, Prog.run_bind, get_run] at ran
  split at ran
  · simp at ran
  · simp only [Prog.run_bind, get_run] at ran
    split at ran
    · next cause read =>
        simp only [Prog.pure_eq, Prog.run_pure, Prod.mk.injEq, Except.error.injEq] at ran
        obtain ⟨rfl, rfl⟩ := ran
        obtain ⟨status, body, answered⟩ := readAnswer_serviceUnavailable read
          (by simpa [GoError.isServiceUnavailable] using unavailable)
        refine ⟨_, by rw [Host.record_trace, Host.record_trace, List.append_assoc],
          world.answer host.trace (.roundTrip (caCertsRequest u .systemRoots)), status, body,
          .inl ?_⟩
        simp only [Host.record_trace] at answered
        simp [caCertsRequest, answered]
    · simp only [Prog.run_bind, get_run] at ran
      split at ran
      · next cacerts fetched _ cause read =>
          simp only [Prog.pure_eq, Prog.run_pure, Prod.mk.injEq, Except.error.injEq] at ran
          obtain ⟨rfl, rfl⟩ := ran
          obtain ⟨status, body, answered⟩ := readAnswer_serviceUnavailable read
            (by simpa [GoError.isServiceUnavailable] using unavailable)
          obtain ⟨status', answered'⟩ := readAnswer_eq_ok.mp fetched
          refine ⟨_, by rw [Host.record_trace, Host.record_trace, Host.record_trace,
            List.append_assoc, List.append_assoc],
            world.answer host.trace (.roundTrip (caCertsRequest u .systemRoots)), status, body,
            .inr ⟨cacerts, status', ?_⟩⟩
          simp only [Host.record_trace] at answered'
          simp only [Host.record_trace, answered', List.append_assoc, List.singleton_append]
            at answered
          simp [caCertsRequest, answered, answered']
      · simp at ran

/-- A 503 answer is `ErrServiceUnavailable`, whatever its status line and body. -/
theorem readAnswer_503 (ext : Externals) (target : URL) (status : GoString) (body : Body) :
    readAnswer ext target (.response 503 status body) = .error .serviceUnavailable := rfl

/-- After the requests of `CACertsUnavailable`, `getCACerts` has failed with
`ErrServiceUnavailable`. -/
theorem getCACerts_unavailable
    {ext : Externals} {world : World} {host host' : Host} {u : URL}
    {result : Except GoError Bytes} (ran : (getCACerts ext u).run world host = (result, host'))
    {added : Trace} (trace : host'.trace = host.trace ++ added)
    (unavailable : CACertsUnavailable u added) :
    ∃ err, result = .error err ∧ err.isServiceUnavailable = true := by
  obtain ⟨first, status, body, shape⟩ := unavailable
  simp only [getCACerts, Prog.bind_eq, Prog.run_bind, get_run, Host.record_trace] at ran
  split at ran
  · -- the system roots sufficed: one request only
    simp only [Prog.pure_eq, Prog.run_pure, Prod.mk.injEq] at ran
    obtain ⟨-, rfl⟩ := ran
    rw [Host.record_trace, List.append_cancel_left_eq] at trace
    rcases shape with rfl | ⟨_, _, rfl⟩ <;> simp at trace
  simp only [Prog.run_bind, get_run, Host.record_trace] at ran
  split at ran
  · next cause read =>
      simp only [Prog.pure_eq, Prog.run_pure, Prod.mk.injEq] at ran
      obtain ⟨rfl, rfl⟩ := ran
      simp only [Host.record_trace, List.append_assoc, List.singleton_append,
        List.append_cancel_left_eq] at trace
      rcases shape with rfl | ⟨_, _, rfl⟩
      · rw [Event.answer_eq (List.cons.inj (List.cons.inj trace).2).1, readAnswer_503] at read
        cases read
        exact ⟨_, rfl, rfl⟩
      · simp at trace
  simp only [Prog.run_bind, get_run, Host.record_trace] at ran
  split at ran
  · next cacerts fetched _ cause read =>
      simp only [Prog.pure_eq, Prog.run_pure, Prod.mk.injEq] at ran
      obtain ⟨rfl, rfl⟩ := ran
      simp only [Host.record_trace, List.append_assoc, List.singleton_append,
        List.append_cancel_left_eq] at trace read
      rcases shape with rfl | ⟨_, _, rfl⟩
      · simp at trace
      · rw [Event.answer_eq (List.cons.inj (List.cons.inj trace).2).1] at fetched
        cases fetched
        rw [Event.answer_eq (List.cons.inj (List.cons.inj (List.cons.inj trace).2).2).1,
          readAnswer_503] at read
        cases read
        exact ⟨_, rfl, rfl⟩
  · next cacerts fetched _ _ read =>
      simp only [Prog.pure_eq, Prog.run_pure, Prod.mk.injEq] at ran
      obtain ⟨-, rfl⟩ := ran
      simp only [Host.record_trace, List.append_assoc, List.singleton_append,
        List.append_cancel_left_eq] at trace read
      rcases shape with rfl | ⟨_, _, rfl⟩
      · simp at trace
      · rw [Event.answer_eq (List.cons.inj (List.cons.inj trace).2).1] at fetched
        cases fetched
        rw [Event.answer_eq (List.cons.inj (List.cons.inj (List.cons.inj trace).2).2).1,
          readAnswer_503] at read
        cases read

/-- `setServer` reports `ErrServiceUnavailable` only as the error of `getCACerts`. -/
theorem setServer_serviceUnavailable
    {ext : Externals} {world : World} {host host' : Host} {info : Info} {server : GoString}
    {err : GoError} (ran : (info.setServer ext server).run world host = (.error err, host'))
    (unavailable : err.isServiceUnavailable = true) :
    ∃ url, ext.parseURL server = .ok url ∧
      (getCACerts ext (trimmedURL url)).run world host = (.error err, host') := by
  unfold Info.setServer at ran
  split at ran
  · cases ran
    simp [GoError.isServiceUnavailable] at unavailable
  · next url parsed =>
      split at ran
      · cases ran
        simp [GoError.isServiceUnavailable] at unavailable
      · simp only [Prog.bind_eq, Prog.run_bind] at ran
        split at ran
        · next fetched =>
            simp only [Prog.pure_eq, Prog.run_pure, Prod.mk.injEq, Except.error.injEq] at ran
            obtain ⟨rfl, rfl⟩ := ran
            exact ⟨url, parsed, by rw [← fetched]⟩
        · simp at ran

/-- On a server URL that parses with the `https` scheme, `setServer` is `getCACerts` under
it, stripped of its trailing slashes. -/
theorem Info.setServer_run {ext : Externals} {world : World} {host : Host} {info : Info}
    {server : GoString} {url : URL} (parsed : ext.parseURL server = .ok url)
    (https : url.scheme = lit "https") :
    (info.setServer ext server).run world host =
      match (getCACerts ext (trimmedURL url)).run world host with
      | (.error err, host') => (.error err, host')
      | (.ok cacerts, host') =>
          (.ok { info with baseURL := ext.urlString (trimmedURL url), caCerts := cacerts }, host') := by
  unfold Info.setServer
  simp only [parsed, https, ne_eq, not_true_eq_false, if_false, Prog.bind_eq, Prog.run_bind]
  rcases (getCACerts ext (trimmedURL url)).run world host with ⟨_ | _, host'⟩ <;> rfl

/-- The hash check never reports `ErrServiceUnavailable`. -/
theorem checkPinnedHash_available {ext : Externals} {info : Info} {err : GoError}
    (failed : checkPinnedHash ext info = .error err) : err.isServiceUnavailable = false := by
  unfold checkPinnedHash at failed
  split at failed
  · split at failed
    · next invalid =>
        cases failed
        rcases validated : validateCACerts ext info.caCerts info.caHash with
          ⟨_ | _, serverHash⟩ <;> simp [Info.validateCAHash, validated] at invalid
        subst invalid
        rfl
    · cases failed
  · cases failed

/-- A validation fails with `ErrServiceUnavailable` only after `getCACerts` under the
server URL got a 503 answer to its second or third request. -/
theorem parseAndValidate_serviceUnavailable
    {ext : Externals} {world : World} {host host' : Host} {server token : GoString}
    {usernameOverride : Option GoString} {err : GoError}
    (ran : (parseAndValidate ext server token usernameOverride).run world host =
      (.error err, host'))
    (unavailable : err.isServiceUnavailable = true) :
    ∃ url added, ext.parseURL server = .ok url ∧ host'.trace = host.trace ++ added ∧
      CACertsUnavailable (trimmedURL url) added := by
  cases decoded : parseToken token with
  | error cause =>
      rw [parseAndValidate_run_error decoded, Prod.mk.injEq, Except.error.injEq] at ran
      obtain ⟨rfl, -⟩ := ran
      rw [parseToken_error decoded] at unavailable
      cases unavailable
  | ok parsed =>
      rw [parseAndValidate_run decoded] at ran
      split at ran
      · next served =>
          simp only [Prod.mk.injEq, Except.error.injEq] at ran
          obtain ⟨rfl, rfl⟩ := ran
          obtain ⟨url, parsed, fetched⟩ := setServer_serviceUnavailable served unavailable
          obtain ⟨added, trace, lastAnswers⟩ := getCACerts_serviceUnavailable fetched unavailable
          exact ⟨url, added, parsed, trace, lastAnswers⟩
      · simp only [Prod.mk.injEq] at ran
        rw [checkPinnedHash_available ran.1] at unavailable
        cases unavailable

/--
A validation fails with `ErrServiceUnavailable` exactly when its requests were those of a
`getCACerts` under the server URL whose second or third request got a 503 answer. A 503
answer to the first request, the one with the system roots, is not reported as such.
-/
theorem parseAndValidate_serviceUnavailable_iff (ext : Externals) (world : World) (host : Host)
    (server token : GoString) (usernameOverride : Option GoString) :
    (∃ err, ((parseAndValidate ext server token usernameOverride).run world host).1 = .error err ∧
        err.isServiceUnavailable = true) ↔
      ∃ url added, ext.parseURL server = .ok url ∧
        ((parseAndValidate ext server token usernameOverride).run world host).2.trace =
          host.trace ++ added ∧
        CACertsUnavailable (trimmedURL url) added := by
  rcases ran : (parseAndValidate ext server token usernameOverride).run world host with
    ⟨result, host'⟩
  dsimp only
  refine ⟨fun ⟨err, failed, unavailable⟩ => parseAndValidate_serviceUnavailable (failed ▸ ran)
    unavailable, fun ⟨url, added, parsed, trace, unavailable⟩ => ?_⟩
  obtain ⟨event, member⟩ : ∃ event, event ∈ added := by
    obtain ⟨_, _, _, rfl | ⟨_, _, rfl⟩⟩ := unavailable <;> exact ⟨_, List.mem_cons_self _ _⟩
  -- a request was made, so the server URL is an `https` one
  obtain ⟨url', parsed', https⟩ := Call.asksCACertsOf.https (Prog.mem_added_of_callsWithin
    ((congrArg (·.2.trace) ran).trans trace) member (parseAndValidate_requests _ _ _ _))
  cases parsed.symm.trans parsed'
  cases decoded : parseToken token with
  | error cause =>
      rw [parseAndValidate_run_error decoded, Prod.mk.injEq] at ran
      rw [← ran.2, List.self_eq_append_right] at trace
      simp [trace] at member
  | ok decodedInfo =>
      rw [parseAndValidate_run decoded, Info.setServer_run parsed https] at ran
      rcases fetched : (getCACerts ext (trimmedURL url)).run world host with ⟨_ | cacerts, host₁⟩
      all_goals
        rw [fetched, Prod.mk.injEq] at ran
        obtain ⟨err, failed, unavailable⟩ :=
          getCACerts_unavailable fetched (ran.2 ▸ trace) unavailable
        cases failed
      exact ⟨_, ran.1.symm, unavailable⟩

/-- What a successful validation carries: the decoded token, an `https` server URL it
took its base URL from, the username and password, and the pinned hash of its bundle. -/
theorem parseAndValidate_ok
    {ext : Externals} {world : World} {host host' : Host} {server token : GoString}
    {usernameOverride : Option GoString} {info : Info}
    (ran : (parseAndValidate ext server token usernameOverride).run world host =
      (.ok info, host')) :
    ∃ decoded url, parseToken token = .ok decoded ∧ ext.parseURL server = .ok url ∧
      url.scheme = lit "https" ∧ info.baseURL = ext.urlString (trimmedURL url) ∧
      info.username = usernameOverride.getD decoded.username ∧
      info.password = decoded.password ∧
      (decoded.caHash ≠ [] → hashCA ext info.caCerts = decoded.caHash) := by
  cases decoded : parseToken token with
  | error cause =>
      simp [parseAndValidate_run_error decoded] at ran
  | ok parsed =>
      obtain ⟨pinned, username, password⟩ := (parseAndValidate_outcome decoded).1 info host' ran
      rw [parseAndValidate_run decoded] at ran
      split at ran
      · simp at ran
      · next served host'' fetched =>
          simp only [Prod.mk.injEq] at ran
          obtain ⟨same, -⟩ := checkPinnedHash_ok ran.1
          obtain ⟨url, parsedURL, https, -, shape⟩ := setServer_ok fetched
          refine ⟨parsed, url, rfl, parsedURL, https, ?_, username, password, pinned⟩
          rw [same, shape]

end K3sCluster
