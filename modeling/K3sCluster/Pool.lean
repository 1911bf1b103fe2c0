import K3sCluster.Stamp

namespace K3sCluster

/-!
# Any number of processes on one filesystem

`Shared` holds two processes; a `Pool` holds one for each index, each with its own program,
trace and peers, all on one filesystem. `Pool.Step` lets any process that waits on a call
make it. A step of one process leaves every other process's program and trace as they were
(`Pool.advance_prog_other`, `Pool.advance_trace_other`), so each process's part of a run is
a `RelyRun` whose other steps are the calls of its peers (`Pool.relyRun`), and what every
call of every process preserves holds of the filesystem in every reachable state
(`Pool.fs_invariant`).

`bootstrapped_pool` puts these together for `bootstrapped`: however many processes touch
one stamp, in every interleaving from a filesystem with no file above the stamp, each that
has returned returned nil and left the stamp and its directory, and no entry off the
stamp's path changes. `bootstrapped_pool_blocked` is the other side: with a file at or
above the stamp's directory, the filesystem never changes and each process that has
returned failed with `ENOTDIR` at that file.
-/

/-- Processes indexed by `ι` on one filesystem, each with its own program and trace. -/
structure Pool (ι α : Type) where
  prog : ι → Prog α
  trace : ι → Trace
  fs : FS

namespace Pool

variable {ι α : Type} [DecidableEq ι]

/-- What process `i` sees of its host. -/
def host (s : Pool ι α) (i : ι) : Host :=
  ⟨s.fs, s.trace i⟩

/-- Process `i` makes the call `c` it waits on, answered in its own world on the shared
filesystem and recorded in its own trace. -/
def advance (worlds : ι → World) (s : Pool ι α) (i : ι) (c : Call)
    (continuation : c.Response → Prog α) : Pool ι α where
  prog := Function.update s.prog i (continuation ((worlds i).reply (s.host i) c).1)
  trace := Function.update s.trace i (s.trace i ++ [⟨c, ((worlds i).reply (s.host i) c).1⟩])
  fs := ((worlds i).reply (s.host i) c).2

/-- One step of the pool: some process makes its next call. -/
inductive Step (worlds : ι → World) : Pool ι α → Pool ι α → Prop
  | call {s : Pool ι α} (i : ι) {c : Call} {continuation : c.Response → Prog α}
      (waiting : s.prog i = .call c continuation) :
      Step worlds s (s.advance worlds i c continuation)

section Advance

variable (worlds : ι → World) (s : Pool ι α) (i : ι) (c : Call)
  (continuation : c.Response → Prog α)

@[simp] theorem advance_fs :
    (s.advance worlds i c continuation).fs = ((worlds i).reply (s.host i) c).2 := rfl

@[simp] theorem advance_host_self :
    (s.advance worlds i c continuation).host i =
      { fs := ((worlds i).reply (s.host i) c).2,
        trace := (s.host i).trace ++ [⟨c, ((worlds i).reply (s.host i) c).1⟩] } := by
  simp [advance, host]

@[simp] theorem advance_prog_self :
    (s.advance worlds i c continuation).prog i = continuation ((worlds i).reply (s.host i) c).1 :=
  Function.update_same _ _ _

variable {j : ι}

theorem advance_prog_other (other : j ≠ i) : (s.advance worlds i c continuation).prog j = s.prog j :=
  Function.update_noteq other _ _

theorem advance_trace_other (other : j ≠ i) : (s.advance worlds i c continuation).trace j = s.trace j :=
  Function.update_noteq other _ _

/-- Another process's call changes only the filesystem under process `j`. -/
theorem advance_host_other (other : j ≠ i) :
    (s.advance worlds i c continuation).host j = { s.host j with fs := ((worlds i).reply (s.host i) c).2 } := by
  simp [host, advance_trace_other worlds s i c continuation other]

end Advance

variable {worlds : ι → World}

/-- The processes that stayed within a bound on their calls before a step stay within it
after. -/
theorem Step.within {allowed : Call → Prop} {tracked : ι → Prop} {s s' : Pool ι α}
    (step : Step worlds s s') (within : ∀ j, tracked j → (s.prog j).CallsWithin allowed) :
    ∀ j, tracked j → (s'.prog j).CallsWithin allowed := by
  obtain ⟨i, waiting⟩ := step
  intro j kept
  by_cases same : j = i
  · subst same
    have now := within j kept
    rw [waiting] at now
    cases now with
    | call _ rest => simpa using rest _
  · rw [advance_prog_other _ _ _ _ _ same]
    exact within j kept

/--
A property of the filesystem that every call a process may make preserves holds in every
state a pool reaches from a state where it holds, when every process's calls stay within
the bound.
-/
theorem fs_invariant (invariant : FS → Prop) {allowed : Call → Prop}
    (preserved : ∀ (world : World) host c, allowed c → invariant host.fs →
      invariant (world.reply host c).2)
    {s t : Pool ι α} (ran : Relation.ReflTransGen (Step worlds) s t)
    (within : ∀ j, (s.prog j).CallsWithin allowed) (holds : invariant s.fs) : invariant t.fs := by
  induction ran using Relation.ReflTransGen.head_induction_on with
  | refl => exact holds
  | @head s s' step _ inductionHypothesis =>
      refine inductionHypothesis (fun j => step.within (fun k (_ : True) => within k) j trivial) ?_
      obtain ⟨i, waiting⟩ := step
      have now := within i
      rw [waiting] at now
      cases now with
      | call allowedCall _ => exact preserved _ (s.host _) _ allowedCall holds

/--
In every run of a pool, the part of process `i` up to its return is a `RelyRun`, when
every call another process may make changes the filesystem only as `rely` allows. The
other processes need not have returned.
-/
theorem relyRun {rely : FS → FS → Prop} {allowed : Call → Prop}
    (guarantee : ∀ (world : World) host c, allowed c → rely host.fs (world.reply host c).2)
    {s t : Pool ι α} (ran : Relation.ReflTransGen (Step worlds) s t) (i : ι) {value : α}
    (returned : t.prog i = .pure value)
    (others : ∀ j, j ≠ i → (s.prog j).CallsWithin allowed) :
    RelyRun (worlds i) rely (s.prog i) (s.host i) value (t.host i) := by
  induction ran using Relation.ReflTransGen.head_induction_on with
  | refl => exact returned ▸ .pure
  | @head s s' step _ inductionHypothesis =>
      have later := inductionHypothesis (step.within others)
      obtain ⟨j, waiting⟩ := step
      by_cases same : j = i
      · subst same
        rw [waiting]
        exact .call (by simpa using later)
      · have now := others j same
        rw [waiting] at now
        cases now with
        | call allowedCall _ =>
            refine .env (guarantee (worlds j) (s.host j) _ allowedCall) ?_
            rwa [advance_prog_other _ _ _ _ _ (Ne.symm same),
              advance_host_other _ _ _ _ _ (Ne.symm same)] at later

end Pool

/--
Any number of `bootstrapped` calls on one stamp, interleaved in every order from a
filesystem with no file above the stamp: each that has returned returned nil, after which
the stamp and its directory exist; and no entry off the stamp's path ever changes.
-/
theorem bootstrapped_pool {ι : Type} [DecidableEq ι] {ext : Externals}
    {clusters : ι → Cluster} {stamp : Path} (shared : ∀ i, bootstrapStamp ext (clusters i) = stamp)
    {worlds : ι → World} {traces : ι → Trace} {fs : FS} {t : Pool ι (Except GoError Unit)}
    (ready : StampReady stamp fs)
    (ran : Relation.ReflTransGen (Pool.Step worlds)
      ⟨fun i => bootstrapped ext (clusters i), traces, fs⟩ t) :
    (∀ i result, t.prog i = .pure result →
      result = .ok () ∧ t.fs.entry stamp.tail = some .dir ∧ t.fs.entry stamp ≠ none) ∧
    ∀ path, ¬ path <:+ stamp → t.fs.entry path = fs.entry path := by
  have within : ∀ i, (bootstrapped ext (clusters i)).CallsWithin (StampCall stamp) :=
    fun i => shared i ▸ bootstrapped_calls ext (clusters i)
  refine ⟨fun i result returned => ?_, ?_⟩
  · have projected := Pool.relyRun
      (fun world host _ allowed => StampCall.grows (shared i ▸ List.cons_ne_nil _ _) world host allowed)
      ran i returned fun j _ => within j
    rw [← shared i] at projected ready ⊢
    obtain ⟨stamped, succeeds⟩ := bootstrapped_rely projected
    have ok := succeeds ready
    exact ⟨ok, stamped ok⟩
  · exact Pool.fs_invariant (fun fs' => ∀ path, ¬ path <:+ stamp → fs'.entry path = fs.entry path)
      (fun world host _ allowed kept path off => (StampCall.frame world host allowed path off).trans
        (kept path off)) ran within fun _ _ => rfl

/-- Two processes of the sample joiner on an empty filesystem: the second looks the stamp's
directory up, then the first runs to its return, and the stamp is there. -/
theorem bootstrapped_pool_sample :
    StampReady (bootstrapStamp Externals.sample Cluster.sampleJoiner) FS.empty ∧
    ∃ t : Pool (Fin 2) (Except GoError Unit),
      Relation.ReflTransGen (Pool.Step fun _ => World.cooperative)
        ⟨fun _ => bootstrapped Externals.sample Cluster.sampleJoiner, fun _ => [], FS.empty⟩ t ∧
      t.prog 0 = .pure (.ok ()) ∧
      t.fs.entry (bootstrapStamp Externals.sample Cluster.sampleJoiner) ≠ none := by
  have ready : StampReady (bootstrapStamp Externals.sample Cluster.sampleJoiner) FS.empty :=
    fun dir _ => by simp only [FS.empty]; split <;> simp
  obtain ⟨t, run, returned⟩ : ∃ t : Pool (Fin 2) (Except GoError Unit),
      Relation.ReflTransGen (Pool.Step fun _ => World.cooperative)
        ⟨fun _ => bootstrapped Externals.sample Cluster.sampleJoiner, fun _ => [], FS.empty⟩ t ∧
      t.prog 0 = .pure (.ok ()) :=
    ⟨_, .head (Pool.Step.call 1 rfl) <| .head (Pool.Step.call 0 rfl) <| .head (Pool.Step.call 0 rfl) <|
      .head (Pool.Step.call 0 rfl) <| .head (Pool.Step.call 0 rfl) <| .head (Pool.Step.call 0 rfl) <|
      .head (Pool.Step.call 0 rfl) <| .head (Pool.Step.call 0 rfl) .refl, rfl⟩
  exact ⟨ready, t, run, returned, ((bootstrapped_pool (fun _ => rfl) ready run).1 0 _ returned).2.2⟩

/--
Any number of `bootstrapped` calls on one stamp, interleaved in every order, on a
well-formed filesystem with a file at or above the stamp's directory: the filesystem never
changes, and each call that has returned failed with the `ENOTDIR` of `MkdirAll` at that
file.
-/
theorem bootstrapped_pool_blocked {ι : Type} [DecidableEq ι] {ext : Externals}
    {clusters : ι → Cluster} {stamp : Path} (shared : ∀ i, bootstrapStamp ext (clusters i) = stamp)
    {worlds : ι → World} {traces : ι → Trace} {fs : FS} {t : Pool ι (Except GoError Unit)}
    (wellFormed : fs.WellFormed) {dir : Path} (above : dir <:+ stamp.tail)
    (file : fs.entry dir = some .file)
    (ran : Relation.ReflTransGen (Pool.Step worlds)
      ⟨fun i => bootstrapped ext (clusters i), traces, fs⟩ t) :
    t.fs = fs ∧ ∀ i result, t.prog i = .pure result →
      result = .error (.pathError (lit "mkdir") dir .enotdir) := by
  have within : ∀ i, (bootstrapped ext (clusters i)).CallsWithin (StampCall stamp) :=
    fun i => shared i ▸ bootstrapped_calls ext (clusters i)
  have keeps : ∀ (world : World) host c, StampCall stamp c → host.fs = fs →
      (world.reply host c).2 = host.fs := fun world host _ allowed same => by
    rw [← same] at wellFormed file
    exact StampCall.blocked world wellFormed above file allowed
  refine ⟨Pool.fs_invariant (· = fs) (fun world host c allowed same =>
      (keeps world host c allowed same).trans same) ran within rfl,
    fun i result returned => ?_⟩
  have projected := @Pool.relyRun _ _ _ worlds (fun before after => before = fs → after = before)
    _ keeps _ _ ran i _ returned fun j _ => within j
  have solo := RelyRun.eq_run_of_keeps (fun host c allowed same => keeps (worlds i) host c allowed same)
    (within i) projected rfl
  rw [← shared i] at above
  exact (congrArg Prod.fst solo).trans (bootstrapped_blocked (worlds i) wellFormed above file).1

/-- A filesystem where the sample joiner's data directory should be holds a file. -/
def FS.dataFile : FS where
  entry := fun path => if path = [] then some .dir else if path = [lit "data"] then some .file else none
  root_dir := rfl

/-- Two processes of the sample joiner with a file at their data directory: the second
looks the stamp's directory up, then the first runs to its return and fails. -/
theorem bootstrapped_pool_blocked_sample :
    FS.dataFile.WellFormed ∧
    [lit "data"] <:+ (bootstrapStamp Externals.sample Cluster.sampleJoiner).tail ∧
    FS.dataFile.entry [lit "data"] = some .file ∧
    ∃ t : Pool (Fin 2) (Except GoError Unit),
      Relation.ReflTransGen (Pool.Step fun _ => World.cooperative)
        ⟨fun _ => bootstrapped Externals.sample Cluster.sampleJoiner, fun _ => [], FS.dataFile⟩ t ∧
      t.prog 0 = .pure (.error (.pathError (lit "mkdir") [lit "data"] .enotdir)) ∧
      t.fs = FS.dataFile := by
  have wellFormed : FS.dataFile.WellFormed := fun name parent kind present => by
    simp only [FS.dataFile, reduceCtorEq, if_false, List.cons.injEq] at present
    split at present
    · next same => rw [same.2]; rfl
    · cases present
  have above : [lit "data"] <:+ (bootstrapStamp Externals.sample Cluster.sampleJoiner).tail :=
    List.suffix_cons _ _
  obtain ⟨t, run, returned⟩ : ∃ t : Pool (Fin 2) (Except GoError Unit),
      Relation.ReflTransGen (Pool.Step fun _ => World.cooperative)
        ⟨fun _ => bootstrapped Externals.sample Cluster.sampleJoiner, fun _ => [], FS.dataFile⟩ t ∧
      t.prog 0 = .pure (.error (.pathError (lit "mkdir") [lit "data"] .enotdir)) :=
    ⟨_, .head (Pool.Step.call 1 rfl) <| .head (Pool.Step.call 0 rfl) <|
      .head (Pool.Step.call 0 rfl) .refl, rfl⟩
  exact ⟨wellFormed, above, rfl, t, run, returned,
    (bootstrapped_pool_blocked (fun _ => rfl) wellFormed above rfl run).1⟩

end K3sCluster
