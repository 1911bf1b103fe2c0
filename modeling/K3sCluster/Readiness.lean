import K3sCluster.Managed

namespace K3sCluster

/-!
# The readiness poller

For a managed datastore, `testClusterDB` starts a goroutine that calls the driver's
`Test` every five seconds until one succeeds, and stops when the context is cancelled.
The goroutine closes the returned channel with `defer`, so the channel is closed on every
return of the loop: after a successful `Test`, and after a cancellation as well.

The loop may run forever, so a run is observed for a number of rounds: `pollDatastore`
answers whether the goroutine has returned, and so closed the channel, within that many.
`pollDatastore_rounds` gives the shape of every run, one `Test` a round and a fired timer
between two. The doc comment of `testClusterDB` promises a channel closed when the
datastore connection is available; `testClusterDB_closed_on_cancel` is a run where it is
closed although no `Test` succeeded.
-/

/-- `driver.Test(ctx, info)`. -/
def Driver.test (driver : Driver) (info : Option Info) : Prog (Except GoError Unit) :=
  Prog.query (.test driver info)

/-- The `select` between `time.After(5 * time.Second)` and `ctx.Done()`. -/
def awaitRetry : Prog Wake :=
  Prog.query .awaitRetry

@[simp] theorem Driver.test_run (world : World) (host : Host) (driver : Driver)
    (info : Option Info) :
    (driver.test info).run world host =
      (world.answer host.trace (.test driver info),
        host.record ⟨.test driver info, world.answer host.trace (.test driver info)⟩) := rfl

@[simp] theorem awaitRetry_run (world : World) (host : Host) :
    awaitRetry.run world host =
      (world.answer host.trace .awaitRetry,
        host.record ⟨.awaitRetry, world.answer host.trace .awaitRetry⟩) := rfl

/-- The goroutine of `testClusterDB`, for at most `rounds` rounds: whether it has
returned, closing the channel through its `defer`. -/
def pollDatastore (driver : Driver) (info : Option Info) : Nat → Prog Bool
  | 0 => pure false
  | rounds + 1 => do
      match ← driver.test info with
      | .ok () => pure true
      | .error _ =>
          match ← awaitRetry with
          | .timerFired => pollDatastore driver info rounds
          | .contextDone => pure true

/-- `testClusterDB`, observed for `rounds` rounds: whether the returned channel is
closed. Without a managed datastore it is closed before it is returned. -/
def testClusterDB (c : Cluster) (rounds : Nat) : Prog Bool :=
  match c.managedDB with
  | none => pure true
  | some driver => pollDatastore driver c.clientAccessInfo rounds

/-! ## The rounds of the loop -/

/-- The events of the rounds that go on, one round for each failure: the failed `Test`,
then the timer. -/
def retryEvents (driver : Driver) (info : Option Info) : List GoError → Trace
  | [] => []
  | err :: failures =>
      ⟨.test driver info, Except.error err⟩ :: ⟨.awaitRetry, Wake.timerFired⟩ ::
        retryEvents driver info failures

/-- The events of a round on which the loop returns: a `Test` that succeeded, or a failed
one followed by the cancellation. -/
def PollEnding (driver : Driver) (info : Option Info) (ending : Trace) : Prop :=
  ending = [⟨.test driver info, Except.ok ()⟩] ∨
    ∃ err, ending = [⟨.test driver info, Except.error err⟩, ⟨.awaitRetry, Wake.contextDone⟩]

/--
The loop asks the driver once a round, and again only after a failed `Test` and a timer
that fired: every run, over any number of rounds, is failed rounds that went on, followed
by one round on which the loop returned, or by nothing when the rounds ran out first. The
goroutine has returned exactly when such a last round is there.
-/
theorem pollDatastore_rounds (driver : Driver) (info : Option Info) (world : World) :
    ∀ (rounds : Nat) (host : Host), ∃ failures ending,
      ((pollDatastore driver info rounds).run world host).2.trace =
        host.trace ++ retryEvents driver info failures ++ ending ∧
      (ending = [] ∧ failures.length = rounds ∨
        failures.length < rounds ∧ PollEnding driver info ending) ∧
      (((pollDatastore driver info rounds).run world host).1 = true ↔ ending ≠ []) := by
  intro rounds
  induction rounds with
  | zero =>
      intro host
      exact ⟨[], [], by simp [pollDatastore, retryEvents], .inl ⟨rfl, rfl⟩, by simp [pollDatastore]⟩
  | succ rounds inductionHypothesis =>
      intro host
      simp only [pollDatastore, Prog.bind_eq, Prog.run_bind, Driver.test_run]
      rcases world.answer host.trace (.test driver info) with err | ⟨⟨⟩⟩
      · simp only [Prog.run_bind, awaitRetry_run, Host.record_trace]
        split
        next woken =>
          rw [woken]
          obtain ⟨failures, ending, trace, shape, returned⟩ := inductionHypothesis
            ((host.record ⟨.test driver info, Except.error err⟩).record
              ⟨.awaitRetry, Wake.timerFired⟩)
          refine ⟨err :: failures, ending, by simp [trace, retryEvents], ?_, returned⟩
          rcases shape with ⟨rfl, counted⟩ | ⟨counted, ended⟩
          · exact .inl ⟨rfl, by simp [counted]⟩
          · exact .inr ⟨by simpa using counted, ended⟩
        next woken =>
          rw [woken]
          exact ⟨[], _, by simp [retryEvents], .inr ⟨by simp, .inr ⟨err, rfl⟩⟩, by simp⟩
      · exact ⟨[], _, by simp [retryEvents], .inr ⟨by simp, .inl rfl⟩, by simp⟩

/-! ## A cancellation closes the channel -/

/-- A world in which the datastore refuses every connection and the context is cancelled
during the first wait. -/
def World.cancelledWhileDown : World where
  answer := fun trace call =>
    match call with
    | .test .. => Except.error (.external (lit "connection refused"))
    | .awaitRetry => Wake.contextDone
    | call => World.cooperative.answer trace call

/-- A cancellation closes the channel that is to be closed once the datastore connection
is available: the only `Test` failed, and yet the channel is closed after the first
round. -/
theorem testClusterDB_closed_on_cancel :
    ((testClusterDB ⟨⟨[], [], [], [], true, false⟩, ⟨false⟩, some ⟨0, lit "etcd"⟩, none,
        false, false⟩ 1).run World.cancelledWhileDown ⟨FS.empty, []⟩).1 = true ∧
      ((testClusterDB ⟨⟨[], [], [], [], true, false⟩, ⟨false⟩, some ⟨0, lit "etcd"⟩, none,
        false, false⟩ 1).run World.cancelledWhileDown ⟨FS.empty, []⟩).2.trace =
        [⟨.test ⟨0, lit "etcd"⟩ none,
            (Except.error (.external (lit "connection refused")) : Except GoError Unit)⟩,
          ⟨.awaitRetry, Wake.contextDone⟩] :=
  ⟨rfl, rfl⟩

end K3sCluster
