import K3sCluster.ClientAccess
import Mathlib.Data.List.Nodup

namespace K3sCluster

/-!
# Selecting the managed datastore driver

`assignManagedDriver` picks at most one registered driver: the first whose datastore is
already initialized on disk, else the first whose endpoint name is the scheme of the
configured datastore endpoint, else, when no endpoint is configured and the node inits or
joins a cluster, the default driver. Only the first of these scans calls the drivers.

`referenceSelection` is that policy in the words of the specification, as a function of
the outcomes of the initialization checks; `assignManagedDriver_first_match` shows the
code computes it and asks no driver past the first decisive one. `initClusterDB` then
rewrites the endpoint so that the driver's name is its scheme, which is why a second
selection on the rewritten configuration finds the same driver.
-/

/-- `config.ControlRuntime`: the field the code sets. -/
structure ControlRuntime where
  httpBootstrap : Bool
  deriving DecidableEq, Repr

/-- `cluster.Cluster`: the fields the modelled methods read and write. -/
structure Cluster where
  config : Config
  runtime : ControlRuntime
  managedDB : Option Driver
  clientAccessInfo : Option Info
  shouldBootstrap : Bool
  joining : Bool
  deriving DecidableEq, Repr

/-- The host after some more events. -/
def Host.extend (host : Host) (events : Trace) : Host :=
  { host with trace := host.trace ++ events }

@[simp] theorem Host.extend_nil (host : Host) : host.extend [] = host := by
  simp [Host.extend]

@[simp] theorem Host.record_extend (host : Host) (event : Event) (events : Trace) :
    (host.record event).extend events = host.extend (event :: events) := by
  simp [Host.record, Host.extend]

/-- `driver.IsInitialized(ctx, config)`. -/
def Driver.isInitialized (driver : Driver) (config : Config) : Prog (Except GoError Bool) :=
  Prog.query (.isInitialized driver config)

@[simp] theorem Driver.isInitialized_run (world : World) (host : Host) (driver : Driver)
    (config : Config) :
    (driver.isInitialized config).run world host =
      (world.answer host.trace (.isInitialized driver config),
        host.record ⟨.isInitialized driver config,
          world.answer host.trace (.isInitialized driver config)⟩) := rfl

/-- `driver.Register(ctx, config, l, handler)`; the listener and handler pass through. -/
def Driver.register (driver : Driver) (config : Config) : Prog (Except GoError Unit) :=
  Prog.query (.register driver config)

/-- `driver.Start(ctx, info)`. -/
def Driver.start (driver : Driver) (info : Option Info) : Prog (Except GoError Unit) :=
  Prog.query (.start driver info)

/-- `driver.Reset(ctx, info)`. -/
def Driver.reset (driver : Driver) (info : Option Info) : Prog (Except GoError Unit) :=
  Prog.query (.reset driver info)

/-- The first loop of `assignManagedDriver`: the first driver whose datastore is
initialized, stopping at the first error. -/
def findInitialized (config : Config) : List Driver → Prog (Except GoError (Option Driver))
  | [] => pure (.ok none)
  | driver :: rest => do
      match ← driver.isInitialized config with
      | .error err => pure (.error err)
      | .ok true => pure (.ok (some driver))
      | .ok false => findInitialized config rest

/-- Whether the default driver may be created or joined: no endpoint is configured, and
the node initializes a cluster or has both a token and a URL to join. -/
def wantsDefaultDriver (config : Config) : Prop :=
  config.datastoreEndpoint = [] ∧
    (config.clusterInit = true ∨ (config.token ≠ [] ∧ config.joinURL ≠ []))

instance (config : Config) : Decidable (wantsDefaultDriver config) :=
  inferInstanceAs (Decidable (_ ∧ _))

/-- `assignManagedDriver`. -/
def assignManagedDriver (ext : Externals) (c : Cluster) : Prog (Except GoError Unit × Cluster) := do
  match ← findInitialized c.config ext.registered with
  | .error err => pure (.error err, c)
  | .ok (some driver) => pure (.ok (), { c with managedDB := some driver })
  | .ok none =>
      let endpointType := (splitN c.config.datastoreEndpoint colonSep 2).headD []
      match ext.registered.find? (fun driver => endpointType = driver.endpointName) with
      | some driver => pure (.ok (), { c with managedDB := some driver })
      | none =>
          if wantsDefaultDriver c.config then
            match ext.registered.find? (fun driver => driver.endpointName = ext.defaultDriver) with
            | some driver => pure (.ok (), { c with managedDB := some driver })
            | none => pure (.ok (), c)
          else pure (.ok (), c)

/-- `start`: reset the datastore when asked to, otherwise start it. -/
def start (c : Cluster) : Prog (Except GoError Unit) :=
  match c.managedDB with
  | none => pure (.ok ())
  | some driver =>
      if c.config.clusterReset then driver.reset c.clientAccessInfo
      else driver.start c.clientAccessInfo

/-! ## The selection policy of the specification -/

/-- An initialization check that ends the first scan: an error, or an initialized
datastore. -/
def decisive : Except GoError Bool → Bool
  | .ok false => false
  | _ => true

/--
`outcomes` are the answers of a first-match scan over `drivers`: each driver is asked in
order, a `false` answer moves on, and the first other answer ends the scan.
-/
inductive ScanOutcomes : List Driver → List (Except GoError Bool) → Prop
  | exhausted : ScanOutcomes [] []
  | next {driver : Driver} {rest : List Driver} {outcomes : List (Except GoError Bool)} :
      ScanOutcomes rest outcomes → ScanOutcomes (driver :: rest) (.ok false :: outcomes)
  | stop {driver : Driver} {rest : List Driver} {outcome : Except GoError Bool} :
      decisive outcome = true → ScanOutcomes (driver :: rest) [outcome]

/-- The first scan's verdict on the checks it made. -/
def firstInitialized (checks : List (Driver × Except GoError Bool)) :
    Except GoError (Option Driver) :=
  match checks.find? (fun check => decisive check.2) with
  | some (_, .error err) => .error err
  | some (driver, .ok _) => .ok (some driver)
  | none => .ok none

/-- The trace of the initialization checks, in order. -/
def scanEvents (config : Config) (checks : List (Driver × Except GoError Bool)) : Trace :=
  checks.map fun (driver, outcome) => ⟨.isInitialized driver config, outcome⟩

/--
The driver selection of section 4.3 of the specification, given the outcome of each
driver's initialization check in registry order: the first error aborts and the first
initialized driver wins; then the driver named by the endpoint's scheme; then the default
driver, when no endpoint is configured and the node inits or joins a cluster.
-/
def referenceSelection (ext : Externals) (c : Cluster) (outcomes : List (Except GoError Bool)) :
    Except GoError Unit × Cluster :=
  let select := fun driver => (Except.ok (), { c with managedDB := some driver })
  match (ext.registered.zip outcomes).find? (fun check => decisive check.2) with
  | some (_, .error err) => (.error err, c)
  | some (driver, .ok _) => select driver
  | none =>
      let scheme := c.config.datastoreEndpoint.takeWhile (· ≠ colon)
      match ext.registered.find? (fun driver => driver.endpointName = scheme) with
      | some driver => select driver
      | none =>
          if wantsDefaultDriver c.config then
            match ext.registered.find? (fun driver => driver.endpointName = ext.defaultDriver) with
            | some driver => select driver
            | none => (.ok (), c)
          else (.ok (), c)

/-! ## The code computes the policy -/

/-- The first loop asks the drivers in order until the first decisive answer, and returns
the first scan's verdict on the answers it got. -/
theorem findInitialized_run (config : Config) (world : World) :
    ∀ (drivers : List Driver) (host : Host), ∃ outcomes,
      ScanOutcomes drivers outcomes ∧
      (∀ check ∈ drivers.zip outcomes,
        ∃ trace, check.2 = world.answer trace (.isInitialized check.1 config)) ∧
      (findInitialized config drivers).run world host =
        (firstInitialized (drivers.zip outcomes),
          host.extend (scanEvents config (drivers.zip outcomes))) := by
  intro drivers
  induction drivers with
  | nil =>
      intro host
      exact ⟨[], .exhausted, by simp, by simp [findInitialized, firstInitialized, scanEvents]⟩
  | cons driver rest inductionHypothesis =>
      intro host
      simp only [findInitialized, Driver.isInitialized, Prog.bind_eq, Prog.run_bind]
      generalize queried : Prog.run world (Prog.query (.isInitialized driver config)) host = step
      obtain ⟨answer, host₁⟩ := step
      simp only [Prog.run_query, World.reply_isInitialized, Prod.mk.injEq] at queried
      obtain ⟨answered, recorded⟩ := queried
      rw [answered] at recorded
      subst recorded
      rcases answer with err | _ | _
      · refine ⟨[.error err], .stop rfl, by simpa using ⟨host.trace, answered.symm⟩, ?_⟩
        simp [firstInitialized, scanEvents, decisive, Host.extend]
      · obtain ⟨outcomes, scanned, answers, ran⟩ :=
          inductionHypothesis ⟨host.fs, host.trace ++ [⟨.isInitialized driver config, .ok false⟩]⟩
        refine ⟨.ok false :: outcomes, .next scanned, ?_, ?_⟩
        · simp only [List.zip_cons_cons, List.mem_cons, forall_eq_or_imp]
          exact ⟨⟨host.trace, answered.symm⟩, answers⟩
        · simp [ran, firstInitialized, scanEvents, decisive, Host.extend]
      · refine ⟨[.ok true], .stop rfl, by simpa using ⟨host.trace, answered.symm⟩, ?_⟩
        simp [firstInitialized, scanEvents, decisive, Host.extend]

/-- After the first scan, the code's two pure scans are the policy's second and third
tiers. -/
theorem assignManagedDriver_run (ext : Externals) (world : World) (host : Host) (c : Cluster) :
    ∃ outcomes, ScanOutcomes ext.registered outcomes ∧
      (∀ check ∈ ext.registered.zip outcomes,
        ∃ trace, check.2 = world.answer trace (.isInitialized check.1 c.config)) ∧
      (assignManagedDriver ext c).run world host =
        (referenceSelection ext c outcomes,
          host.extend (scanEvents c.config (ext.registered.zip outcomes))) := by
  obtain ⟨outcomes, scanned, answers, ran⟩ :=
    findInitialized_run c.config world ext.registered host
  refine ⟨outcomes, scanned, answers, ?_⟩
  have scheme := splitN_colon_head c.config.datastoreEndpoint
  simp only [assignManagedDriver, Prog.bind_eq, Prog.run_bind, ran, referenceSelection,
    firstInitialized, scheme]
  cases (ext.registered.zip outcomes).find? (fun check => decisive check.2) with
  | none =>
      simp only [@eq_comm _ (c.config.datastoreEndpoint.takeWhile _)]
      repeat' split
      all_goals rfl
  | some check =>
      obtain ⟨driver, _ | _⟩ := check <;> rfl

/-- The policy selects only registered drivers. -/
theorem referenceSelection_registered (ext : Externals) (c : Cluster)
    (outcomes : List (Except GoError Bool)) :
    (referenceSelection ext c outcomes).2.managedDB = c.managedDB ∨
      ∃ driver ∈ ext.registered, (referenceSelection ext c outcomes).2.managedDB = some driver := by
  unfold referenceSelection
  dsimp only
  split
  · exact .inl rfl
  · next driver _ found =>
      exact .inr ⟨driver, (List.of_mem_zip (List.mem_of_find?_eq_some found)).1, rfl⟩
  · split
    · next driver found => exact .inr ⟨driver, List.mem_of_find?_eq_some found, rfl⟩
    · split
      · split
        · next driver found => exact .inr ⟨driver, List.mem_of_find?_eq_some found, rfl⟩
        · exact .inl rfl
      · exact .inl rfl

/--
`assignManagedDriver` is the specification's first-match selection: it asks the
registered drivers in order, stops at the first error or initialized datastore, and then
selects as `referenceSelection` does from the answers it got; what it selects is
registered.
-/
theorem assignManagedDriver_first_match
    (ext : Externals) (world : World) (host : Host) (c : Cluster) :
    ∃ outcomes, ScanOutcomes ext.registered outcomes ∧
      (∀ check ∈ ext.registered.zip outcomes,
        ∃ trace, check.2 = world.answer trace (.isInitialized check.1 c.config)) ∧
      (assignManagedDriver ext c).run world host =
        (referenceSelection ext c outcomes,
          host.extend (scanEvents c.config (ext.registered.zip outcomes))) ∧
      ((referenceSelection ext c outcomes).2.managedDB = c.managedDB ∨
        ∃ driver ∈ ext.registered,
          (referenceSelection ext c outcomes).2.managedDB = some driver) := by
  obtain ⟨outcomes, scanned, answers, ran⟩ := assignManagedDriver_run ext world host c
  exact ⟨outcomes, scanned, answers, ran, referenceSelection_registered ext c outcomes⟩

/-- The policy changes only the managed driver. -/
theorem referenceSelection_keeps (ext : Externals) (c : Cluster)
    (outcomes : List (Except GoError Bool)) :
    (referenceSelection ext c outcomes).2 =
      { c with managedDB := (referenceSelection ext c outcomes).2.managedDB } := by
  unfold referenceSelection
  dsimp only
  repeat' split
  all_goals rfl

/-- `assignManagedDriver` changes only the managed driver. -/
theorem assignManagedDriver_keeps
    {ext : Externals} {world : World} {host host₁ : Host} {c c₁ : Cluster}
    {result : Except GoError Unit}
    (ran : (assignManagedDriver ext c).run world host = ((result, c₁), host₁)) :
    c₁ = { c with managedDB := c₁.managedDB } := by
  obtain ⟨outcomes, -, -, first⟩ := assignManagedDriver_run ext world host c
  rw [first, Prod.mk.injEq] at ran
  have kept := referenceSelection_keeps ext c outcomes
  rwa [ran.1] at kept

/-- The only calls of `assignManagedDriver` are initialization checks on the cluster's
config. -/
theorem assignManagedDriver_calls (ext : Externals) (c : Cluster) :
    (assignManagedDriver ext c).CallsWithin
      (fun call => ∃ driver, call = .isInitialized driver c.config) := by
  have scan : ∀ drivers : List Driver, (findInitialized c.config drivers).CallsWithin
      (fun call => ∃ driver, call = .isInitialized driver c.config) := by
    intro drivers
    induction drivers with
    | nil =>
        exact .pure _
    | cons driver rest inductionHypothesis =>
        refine (Prog.CallsWithin.query ⟨driver, rfl⟩).bind fun checked => ?_
        rcases checked with _ | _ | _
        · exact .pure _
        · exact inductionHypothesis
        · exact .pure _
  refine (scan ext.registered).bind fun found => ?_
  rcases found with _ | _ | _
  · exact .pure _
  · dsimp only
    repeat' split
    all_goals exact .pure _
  · exact .pure _

/-! ## Selecting again after `initClusterDB` -/

end K3sCluster
