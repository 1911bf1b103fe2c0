import K3sCluster.Token

namespace K3sCluster

/-!
# Calls to the outside world

The code talks to peers over HTTPS, to the managed-datastore drivers and to the local
filesystem. A computation of the code is a `Prog`: a tree whose nodes are such calls and
whose branches are the possible answers.

`Prog.run` answers the calls. Filesystem calls are answered by a filesystem state, as the
operating system would; every other call is answered by a `World`, an oracle that sees
everything observed before the call. A theorem over every world therefore holds for every
behaviour of the peers, drivers and collaborators, adaptive ones included. The
collaborators that write files in the real system (a driver's `Start`, `Reset` and
`Register`, `bootstrap.Read` and the datastore load) leave whatever filesystem the world
chooses. A run records each call with its answer in a trace.

The filesystem fails only as the code's paths decide: on an entry that exists, one that
is missing, or one of the wrong kind. It has no permissions, no read-only mounts and no
I/O errors, and every `Close` succeeds; a result that concludes success holds of such a
filesystem.
-/

/-- The trust policy of the `*http.Client` a request goes out with. -/
inductive TrustPolicy where
  /-- `http.DefaultClient`: the system roots. -/
  | systemRoots
  /-- `insecureClient`: `InsecureSkipVerify`, no verification at all. -/
  | skipVerify
  /-- A client whose `RootCAs` pool is parsed from these PEM bytes, and nothing else. -/
  | rootsFrom (pem : Bytes)
  deriving DecidableEq, Repr

/-- One request as `get` sends it. -/
structure Request where
  target : URL
  trust : TrustPolicy
  /-- `req.SetBasicAuth(username, password)`, made only for a non-empty username. -/
  basicAuth : Option (GoString × GoString)
  deriving DecidableEq, Repr

/-- The outcome of `ioutil.ReadAll(resp.Body)`. -/
inductive Body where
  | bytes (content : Bytes)
  | readFailure (reason : GoString)
  deriving DecidableEq, Repr

/--
What comes back for a request: a failure of `client.Do` (TLS verification included), or a
response with its status code, status line and body.
-/
inductive Answer where
  | transportFailure (reason : GoString)
  | response (statusCode : Nat) (status : GoString) (body : Body)
  deriving DecidableEq, Repr

/-- The kind of a filesystem entry. -/
inductive EntryKind where
  | file
  | dir
  deriving DecidableEq, Repr

/-- The flags of `os.OpenFile` that decide its outcome. -/
structure OpenFlags where
  /-- `O_CREATE`. -/
  create : Bool
  /-- `O_EXCL`. -/
  exclusive : Bool
  deriving DecidableEq, Repr

/-- How `select` in the readiness loop wakes up. -/
inductive Wake where
  /-- `<-time.After(5 * time.Second)`. -/
  | timerFired
  /-- `<-ctx.Done()`. -/
  | contextDone
  deriving DecidableEq, Repr

/-- The fields of `config.Control` that the code reads. -/
structure Config where
  dataDir : Path
  token : GoString
  joinURL : GoString
  /-- `Datastore.Endpoint`; the other fields of `endpoint.Config` are not read. -/
  datastoreEndpoint : GoString
  clusterInit : Bool
  clusterReset : Bool
  deriving DecidableEq, Repr

/-- A filesystem: the kind of the entry at each path. The root is a directory. -/
structure FS where
  entry : Path → Option EntryKind
  root_dir : entry [] = some .dir

namespace FS

/-- Add an entry where there is none. -/
def insert (fs : FS) (path : Path) (kind : EntryKind) (absent : fs.entry path = none) : FS where
  entry := fun other => if other = path then some kind else fs.entry other
  root_dir := by
    have notRoot : ([] : Path) ≠ path := by
      rintro rfl
      simp [fs.root_dir] at absent
    simp [notRoot, fs.root_dir]

/-- Why an entry cannot be made at `path`: its parent is missing or not a directory. -/
def parentErrno (fs : FS) : Path → Option Errno
  | [] => none
  | _ :: parent =>
      match fs.entry parent with
      | some .dir => none
      | some .file => some .enotdir
      | none => some .enoent

/-- `os.Stat`, which is also `os.Lstat`: the model has no symbolic links. -/
def stat (fs : FS) (path : Path) : Except GoError EntryKind :=
  match fs.entry path with
  | some kind => .ok kind
  | none => .error (.pathError (lit "stat") path .enoent)

/-- `os.Mkdir`. -/
def mkdir (fs : FS) (path : Path) : Except GoError Unit × FS :=
  match present : fs.entry path with
  | some _ => (.error (.pathError (lit "mkdir") path .eexist), fs)
  | none =>
      match fs.parentErrno path with
      | some errno => (.error (.pathError (lit "mkdir") path errno), fs)
      | none => (.ok (), fs.insert path .dir present)

/-- `os.OpenFile` for writing. -/
def openFile (fs : FS) (path : Path) (flags : OpenFlags) : Except GoError Unit × FS :=
  match present : fs.entry path with
  | some .dir => (.error (.pathError (lit "open") path .eisdir), fs)
  | some .file =>
      if flags.create ∧ flags.exclusive then
        (.error (.pathError (lit "open") path .eexist), fs)
      else (.ok (), fs)
  | none =>
      if flags.create then
        match fs.parentErrno path with
        | some errno => (.error (.pathError (lit "open") path errno), fs)
        | none => (.ok (), fs.insert path .file present)
      else (.error (.pathError (lit "open") path .enoent), fs)

end FS

/-- A call of the code to the outside world. -/
inductive Call where
  /-- `client.Do(req)` and reading the body. -/
  | roundTrip (request : Request)
  /-- `driver.IsInitialized(ctx, config)`. -/
  | isInitialized (driver : Driver) (config : Config)
  /-- `driver.Test(ctx, info)`. -/
  | test (driver : Driver) (info : Option Info)
  /-- `driver.Start(ctx, info)`. -/
  | start (driver : Driver) (info : Option Info)
  /-- `driver.Reset(ctx, info)`. -/
  | reset (driver : Driver) (info : Option Info)
  /-- `driver.Register(ctx, config, l, handler)`. -/
  | register (driver : Driver) (config : Config)
  /-- `c.storageBootstrap(ctx)`, the datastore path of bootstrapping (not under `src/`). -/
  | storageBootstrap
  /-- `bootstrap.Read(content, &runtime.ControlRuntimeBootstrap)`. -/
  | readBootstrap (content : Bytes)
  /-- The `select` between the retry timer and `ctx.Done()`. -/
  | awaitRetry
  | stat (path : Path)
  | mkdir (path : Path)
  | openFile (path : Path) (flags : OpenFlags)
  | close (path : Path)
  deriving DecidableEq

/-- The type of the answer to each call. -/
def Call.Response : Call → Type
  | .roundTrip _ => Answer
  | .isInitialized .. => Except GoError Bool
  | .test .. => Except GoError Unit
  | .start .. => Except GoError Unit
  | .reset .. => Except GoError Unit
  | .register .. => Except GoError Unit
  | .storageBootstrap => Except GoError Unit
  | .readBootstrap _ => Except GoError Unit
  | .awaitRetry => Wake
  | .stat _ => Except GoError EntryKind
  | .mkdir _ => Except GoError Unit
  | .openFile .. => Except GoError Unit
  | .close _ => Except GoError Unit

/-- A call together with the answer it got. -/
abbrev Event := (call : Call) × call.Response

/-- Everything a process observed, oldest first. -/
abbrev Trace := List Event

/-- The peers, drivers and collaborators: an answer to every call, chosen from the
trace before it. Filesystem calls are answered by the filesystem instead. -/
structure World where
  answer : Trace → (call : Call) → call.Response
  /-- The filesystem a collaborator that writes files leaves behind. -/
  writes : Trace → Call → FS → FS := fun _ _ fs => fs

/-- What one process sees of its host: the filesystem, and its trace. -/
structure Host where
  fs : FS
  trace : Trace

/-- The host after one more event. -/
def Host.record (host : Host) (event : Event) : Host :=
  { host with trace := host.trace ++ [event] }

@[simp] theorem Host.record_fs (host : Host) (event : Event) :
    (host.record event).fs = host.fs := rfl

@[simp] theorem Host.record_trace (host : Host) (event : Event) :
    (host.record event).trace = host.trace ++ [event] := rfl

/-- Two records of one call agree on its answer. -/
theorem Event.answer_eq {c : Call} {answer answer' : c.Response}
    (same : (⟨c, answer⟩ : Event) = ⟨c, answer'⟩) : answer = answer' := by
  cases same
  rfl

/-- The answer to a call and the filesystem after it. Requests, `IsInitialized`, `Test`
and the timer leave the filesystem alone. -/
def World.reply (world : World) (host : Host) : (call : Call) → call.Response × FS
  | .stat path => (host.fs.stat path, host.fs)
  | .mkdir path => host.fs.mkdir path
  | .openFile path flags => host.fs.openFile path flags
  | .close _ => (.ok (), host.fs)
  | .roundTrip request => (world.answer host.trace (.roundTrip request), host.fs)
  | .isInitialized driver config =>
      (world.answer host.trace (.isInitialized driver config), host.fs)
  | .test driver info => (world.answer host.trace (.test driver info), host.fs)
  | .awaitRetry => (world.answer host.trace .awaitRetry, host.fs)
  | call => (world.answer host.trace call, world.writes host.trace call host.fs)

section Reply

variable (world : World) (host : Host)

@[simp] theorem World.reply_roundTrip (request : Request) :
    world.reply host (.roundTrip request) =
      (world.answer host.trace (.roundTrip request), host.fs) := rfl

@[simp] theorem World.reply_isInitialized (driver : Driver) (config : Config) :
    world.reply host (.isInitialized driver config) =
      (world.answer host.trace (.isInitialized driver config), host.fs) := rfl

@[simp] theorem World.reply_test (driver : Driver) (info : Option Info) :
    world.reply host (.test driver info) = (world.answer host.trace (.test driver info), host.fs) :=
  rfl

@[simp] theorem World.reply_storageBootstrap :
    world.reply host .storageBootstrap =
      (world.answer host.trace .storageBootstrap,
        world.writes host.trace .storageBootstrap host.fs) := rfl

@[simp] theorem World.reply_readBootstrap (content : Bytes) :
    world.reply host (.readBootstrap content) =
      (world.answer host.trace (.readBootstrap content),
        world.writes host.trace (.readBootstrap content) host.fs) := rfl

@[simp] theorem World.reply_awaitRetry :
    world.reply host .awaitRetry = (world.answer host.trace .awaitRetry, host.fs) := rfl

@[simp] theorem World.reply_stat (path : Path) :
    world.reply host (.stat path) = (host.fs.stat path, host.fs) := rfl

@[simp] theorem World.reply_mkdir (path : Path) :
    world.reply host (.mkdir path) = host.fs.mkdir path := rfl

@[simp] theorem World.reply_openFile (path : Path) (flags : OpenFlags) :
    world.reply host (.openFile path flags) = host.fs.openFile path flags := rfl

@[simp] theorem World.reply_close (path : Path) :
    world.reply host (.close path) = (.ok (), host.fs) := rfl

end Reply

/-- A computation of the code: finished with a value, or waiting on a call. -/
inductive Prog (α : Type) where
  | pure (value : α)
  | call (call : Call) (continuation : call.Response → Prog α)

namespace Prog

/-- Sequencing: run `p`, then `next` on its value. -/
def bind : Prog α → (α → Prog β) → Prog β
  | .pure value, next => next value
  | .call c continuation, next => .call c fun response => (continuation response).bind next

instance : Monad Prog where
  pure := .pure
  bind := Prog.bind

/-- Make one call and return its answer. -/
def query (c : Call) : Prog c.Response :=
  .call c .pure

/-- Answer every call of `p` in `world`, from `host`. -/
def run (world : World) : Prog α → Host → α × Host
  | .pure value, host => (value, host)
  | .call c continuation, host =>
      (continuation (world.reply host c).1).run world
        { fs := (world.reply host c).2, trace := host.trace ++ [⟨c, (world.reply host c).1⟩] }

/-- Every call `p` can make, on every branch, satisfies `allowed`. -/
inductive CallsWithin (allowed : Call → Prop) : Prog α → Prop
  | pure (value : α) : CallsWithin allowed (.pure value)
  | call {c : Call} {continuation : c.Response → Prog α} :
      allowed c → (∀ response, CallsWithin allowed (continuation response)) →
        CallsWithin allowed (.call c continuation)

@[simp] theorem pure_eq (value : α) : (Pure.pure value : Prog α) = .pure value := rfl

@[simp] theorem bind_eq (p : Prog α) (next : α → Prog β) : p >>= next = p.bind next := rfl

@[simp] theorem pure_bind (value : α) (next : α → Prog β) :
    (Prog.pure value).bind next = next value := rfl

@[simp] theorem call_bind (c : Call) (continuation : c.Response → Prog α)
    (next : α → Prog β) :
    (Prog.call c continuation).bind next =
      .call c fun response => (continuation response).bind next := rfl

@[simp] theorem run_pure (world : World) (value : α) (host : Host) :
    (Prog.pure value).run world host = (value, host) := rfl

theorem run_call (world : World) (c : Call) (continuation : c.Response → Prog α)
    (host : Host) :
    (Prog.call c continuation).run world host =
      (continuation (world.reply host c).1).run world
        { fs := (world.reply host c).2, trace := host.trace ++ [⟨c, (world.reply host c).1⟩] } :=
  rfl

@[simp] theorem run_query (world : World) (c : Call) (host : Host) :
    (Prog.query c).run world host =
      ((world.reply host c).1,
        { fs := (world.reply host c).2, trace := host.trace ++ [⟨c, (world.reply host c).1⟩] }) :=
  rfl

/-- Running a sequence runs its first part, then the rest from where it stopped. -/
@[simp] theorem run_bind (world : World) (p : Prog α) (next : α → Prog β) (host : Host) :
    (p.bind next).run world host =
      (next (p.run world host).1).run world (p.run world host).2 := by
  induction p generalizing host with
  | pure value =>
      rfl
  | call c continuation inductionHypothesis =>
      exact inductionHypothesis _ _

/-- A run only adds to the trace. -/
theorem trace_prefix_run (world : World) (p : Prog α) (host : Host) :
    host.trace <+: (p.run world host).2.trace := by
  induction p generalizing host with
  | pure value =>
      exact List.prefix_refl _
  | call c continuation inductionHypothesis =>
      have later := inductionHypothesis (world.reply host c).1
        { fs := (world.reply host c).2, trace := host.trace ++ [⟨c, (world.reply host c).1⟩] }
      exact (List.prefix_append _ _).trans later

/-- The calls a run adds to the trace are among those the program may make. -/
theorem CallsWithin.run_events
    {allowed : Call → Prop} {p : Prog α}
    (within : p.CallsWithin allowed) (world : World) (host : Host) :
    ∃ added : Trace, (p.run world host).2.trace = host.trace ++ added ∧
      ∀ event ∈ added, allowed event.1 := by
  induction within generalizing host with
  | pure value =>
      exact ⟨[], by simp, by simp⟩
  | @call c continuation allowedCall _ inductionHypothesis =>
      obtain ⟨added, trace, allowedAdded⟩ := inductionHypothesis (world.reply host c).1
        { fs := (world.reply host c).2, trace := host.trace ++ [⟨c, (world.reply host c).1⟩] }
      refine ⟨⟨c, (world.reply host c).1⟩ :: added, by simpa [run_call] using trace, ?_⟩
      rintro event (_ | ⟨_, member⟩)
      · exact allowedCall
      · exact allowedAdded event member

/-- The calls a run adds satisfy every bound that the program's calls satisfy. -/
theorem mem_added_of_callsWithin {p : Prog α} {world : World} {host : Host}
    {added : Trace} (ran : (p.run world host).2.trace = host.trace ++ added)
    {event : Event} (member : event ∈ added) {allowed : Call → Prop}
    (within : p.CallsWithin allowed) : allowed event.1 := by
  obtain ⟨added', trace', allowedAdded⟩ := within.run_events world host
  rw [ran] at trace'
  rw [List.append_cancel_left trace'] at member
  exact allowedAdded event member

theorem CallsWithin.bind
    {allowed : Call → Prop} {p : Prog α} {next : α → Prog β}
    (first : p.CallsWithin allowed) (rest : ∀ value, (next value).CallsWithin allowed) :
    (p.bind next).CallsWithin allowed := by
  induction first with
  | pure value =>
      exact rest value
  | call allowedCall _ inductionHypothesis =>
      exact .call allowedCall inductionHypothesis

theorem CallsWithin.query {allowed : Call → Prop} {c : Call} (allowedCall : allowed c) :
    (Prog.query c).CallsWithin allowed :=
  .call allowedCall fun _ => .pure _

theorem CallsWithin.mono {allowed allowed' : Call → Prop} {p : Prog α}
    (within : p.CallsWithin allowed) (weaker : ∀ c, allowed c → allowed' c) :
    p.CallsWithin allowed' := by
  induction within with
  | pure value =>
      exact .pure value
  | call allowedCall _ inductionHypothesis =>
      exact .call (weaker _ allowedCall) inductionHypothesis

/-- A property of the filesystem that every call `p` may make keeps holds after `p` runs. -/
theorem CallsWithin.run_invariant (invariant : FS → Prop) {allowed : Call → Prop} {p : Prog α}
    (within : p.CallsWithin allowed) (world : World)
    (step : ∀ host c, allowed c → invariant host.fs → invariant (world.reply host c).2)
    {host : Host} (holds : invariant host.fs) : invariant (p.run world host).2.fs := by
  induction within generalizing host with
  | pure value =>
      exact holds
  | @call c _ allowedCall _ inductionHypothesis =>
      exact inductionHypothesis _ (step host c allowedCall holds)

/-- A run of calls that the world answers without touching the filesystem leaves it as it
was. -/
theorem CallsWithin.run_fs {allowed : Call → Prop} {p : Prog α}
    (within : p.CallsWithin allowed) (world : World)
    (untouched : ∀ host c, allowed c → (world.reply host c).2 = host.fs) (host : Host) :
    (p.run world host).2.fs = host.fs :=
  within.run_invariant (· = host.fs) world
    (fun host' c allowedCall same => (untouched host' c allowedCall).trans same) rfl

end Prog

/-- The filesystem that holds only the root directory. -/
def FS.empty : FS where
  entry := fun path => if path = [] then some .dir else none
  root_dir := rfl

/--
A world to evaluate the model on concrete inputs: every peer answers 200 with the body
`ca`, every driver reports an initialized datastore, every other call succeeds and the
retry timer always fires first.
-/
def World.cooperative : World where
  answer := fun _ call =>
    match call with
    | .roundTrip _ => Answer.response 200 (lit "200 OK") (.bytes (lit "ca"))
    | .isInitialized .. => Except.ok true
    | .test .. => Except.ok ()
    | .start .. => Except.ok ()
    | .reset .. => Except.ok ()
    | .register .. => Except.ok ()
    | .storageBootstrap => Except.ok ()
    | .readBootstrap _ => Except.ok ()
    | .awaitRetry => Wake.timerFired
    | .stat _ => Except.ok EntryKind.dir
    | .mkdir _ => Except.ok ()
    | .openFile .. => Except.ok ()
    | .close _ => Except.ok ()

/-! ## The operating-system calls the code makes -/

/-- `os.Stat(path)`. -/
def osStat (path : Path) : Prog (Except GoError EntryKind) :=
  Prog.query (.stat path)

@[simp] theorem osStat_run (world : World) (host : Host) (path : Path) :
    (osStat path).run world host =
      (host.fs.stat path, host.record ⟨.stat path, host.fs.stat path⟩) := rfl

/-- `os.Mkdir(path, perm)`. -/
def osMkdir (path : Path) : Prog (Except GoError Unit) :=
  Prog.query (.mkdir path)

@[simp] theorem osMkdir_run (world : World) (host : Host) (path : Path) :
    (osMkdir path).run world host =
      ((host.fs.mkdir path).1,
        { fs := (host.fs.mkdir path).2, trace := host.trace ++ [⟨.mkdir path, (host.fs.mkdir path).1⟩] }) :=
  rfl

/-- `os.Create(path)`: `OpenFile` with `O_RDWR|O_CREATE|O_TRUNC`, so not exclusive. -/
def osCreate (path : Path) : Prog (Except GoError Unit) :=
  Prog.query (.openFile path { create := true, exclusive := false })

@[simp] theorem osCreate_run (world : World) (host : Host) (path : Path) :
    (osCreate path).run world host =
      ((host.fs.openFile path ⟨true, false⟩).1,
        { fs := (host.fs.openFile path ⟨true, false⟩).2,
          trace := host.trace ++ [⟨.openFile path ⟨true, false⟩,
            (host.fs.openFile path ⟨true, false⟩).1⟩] }) := rfl

/-- `f.Close()` for the file just created at `path`. -/
def fileClose (path : Path) : Prog (Except GoError Unit) :=
  Prog.query (.close path)

@[simp] theorem fileClose_run (world : World) (host : Host) (path : Path) :
    (fileClose path).run world host = (.ok (), host.record ⟨.close path, Except.ok ()⟩) := rfl

/--
One level of `os.MkdirAll(path, perm)` of the Go standard library: done if the path is a
directory, otherwise make the parent with `makeParent`, then `Mkdir`, and on failure accept
a directory that appeared in the meantime.
-/
def mkdirAllStep (path : Path) (makeParent : Prog (Except GoError Unit)) :
    Prog (Except GoError Unit) := do
  match ← osStat path with
  | .ok .dir => pure (.ok ())
  | .ok .file => pure (.error (.pathError (lit "mkdir") path .enotdir))
  | .error _ =>
      match ← makeParent with
      | .error err => pure (.error err)
      | .ok () =>
          match ← osMkdir path with
          | .ok () => pure (.ok ())
          | .error err =>
              match ← osStat path with
              | .ok .dir => pure (.ok ())
              | _ => pure (.error err)

/-- `os.MkdirAll(path, perm)`: the parent is made first unless it is the root. -/
def mkdirAll : Path → Prog (Except GoError Unit)
  | [] => mkdirAllStep [] (pure (.ok ()))
  | name :: parent =>
      mkdirAllStep (name :: parent) (if parent = [] then pure (.ok ()) else mkdirAll parent)

end K3sCluster
