import K3sCluster.Bootstrap

namespace K3sCluster

/-!
# The bootstrap stamp

`bootstrapped` makes the stamp's directory with `os.MkdirAll`, returns if the stamp
exists, and creates it with `os.Create` otherwise. No step fails on an entry that already
exists: `MkdirAll` accepts a directory made in the meantime, and `Create` opens without
`O_EXCL`. So a second call, or a call racing another one on the same stamp, succeeds.
It makes nothing off the stamp's path (`bootstrapped_frame`). On a filesystem where every
entry sits in a directory, a file at or above the stamp's directory makes it fail with the
`ENOTDIR` of `MkdirAll` and change nothing (`bootstrapped_blocked`).

A run on a filesystem that other processes share is a `RelyRun`: between its calls, the
filesystem may change in every way `Grows` allows. Entries are never removed or changed,
and what appears is neither a file above the stamp nor a directory at it. Another
`bootstrapped` on the same stamp changes the filesystem only so (`StampCall.grows`). A
`Shared` state holds two processes on one filesystem, and `Shared.Step` lets either make
its next call; in every interleaving each of them makes a `RelyRun`
(`Shared.relyRun_first`), and `bootstrapped_interleaved` says that both calls succeed.

Once the stamp exists, `Bootstrap` loads nothing (`Bootstrap_stamped`).
`stamp_settles_bootstrap` puts these together.
-/

/-- `bootstrapped`: touch the stamp, making its directory first. -/
def bootstrapped (ext : Externals) (c : Cluster) : Prog (Except GoError Unit) := do
  let stamp := bootstrapStamp ext c
  match ← mkdirAll stamp.tail with
  | .error err => pure (.error err)
  | .ok () =>
      match ← osStat stamp with
      | .ok _ => pure (.ok ())
      | .error _ =>
          match ← osCreate stamp with
          | .error err => pure (.error err)
          | .ok () => fileClose stamp

/-! ## How the filesystem may change -/

/-- The filesystem lets the stamp be made: no file stands where a directory above it must. -/
def StampReady (stamp : Path) (fs : FS) : Prop :=
  ∀ dir, dir <:+ stamp.tail → fs.entry dir ≠ some .file

/-- How the filesystem may change around the stamp: entries stay as they are, no new file
appears above the stamp, and no new directory at it. -/
structure Grows (stamp : Path) (fs fs' : FS) : Prop where
  keeps : ∀ path kind, fs.entry path = some kind → fs'.entry path = some kind
  noFileAbove : ∀ dir, dir <:+ stamp.tail → fs'.entry dir = some .file →
    fs.entry dir = some .file
  noDirAtStamp : fs'.entry stamp = some .dir → fs.entry stamp = some .dir

namespace Grows

variable {stamp : Path} {fs fs' fs'' : FS}

theorem refl (fs : FS) : Grows stamp fs fs :=
  ⟨fun _ _ => id, fun _ _ => id, id⟩

theorem trans (first : Grows stamp fs fs') (second : Grows stamp fs' fs'') :
    Grows stamp fs fs'' :=
  ⟨fun path kind found => second.keeps path kind (first.keeps path kind found),
    fun dir above file => first.noFileAbove dir above (second.noFileAbove dir above file),
    fun dir => first.noDirAtStamp (second.noDirAtStamp dir)⟩

theorem of_reflTransGen (grown : Relation.ReflTransGen (Grows stamp) fs fs') :
    Grows stamp fs fs' := by
  induction grown with
  | refl => exact refl fs
  | tail _ step grown => exact grown.trans step

theorem ready (grown : Grows stamp fs fs') (ready : StampReady stamp fs) :
    StampReady stamp fs' :=
  fun dir above file => ready dir above (grown.noFileAbove dir above file)

/-- Adding one entry grows the filesystem when it is no file above the stamp and no
directory at it. -/
theorem of_insert {path : Path} {kind : EntryKind} (absent : fs.entry path = none)
    (entries : ∀ q, fs'.entry q = if q = path then some kind else fs.entry q)
    (notFileAbove : path <:+ stamp.tail → kind ≠ .file)
    (notDirAtStamp : path = stamp → kind ≠ .dir) :
    Grows stamp fs fs' := by
  refine ⟨fun q found kind' => ?_, fun dir above file => ?_, fun dir => ?_⟩
  · rw [entries]
    split
    · next same => simp [same, absent] at kind'
    · exact kind'
  · rw [entries] at file
    split at file
    · next same => exact absurd (Option.some.inj file) (notFileAbove (same ▸ above))
    · exact file
  · rw [entries] at dir
    split at dir
    · next same => exact absurd (Option.some.inj dir) (notDirAtStamp same.symm)
    · exact dir

end Grows

/-- `Mkdir` leaves the filesystem as it was, or adds a directory where there was none. -/
theorem FS.mkdir_fs (fs : FS) (path : Path) :
    (fs.mkdir path).2 = fs ∨ (fs.entry path = none ∧ fs.parentErrno path = none ∧
      ∀ q, (fs.mkdir path).2.entry q = if q = path then some .dir else fs.entry q) := by
  unfold FS.mkdir
  split
  · exact .inl rfl
  · next absent =>
      split
      · exact .inl rfl
      · next parent => exact .inr ⟨absent, parent, fun _ => rfl⟩

/-- `OpenFile` leaves the filesystem as it was, or adds a file in a directory where there
was none. -/
theorem FS.openFile_fs (fs : FS) (path : Path) (flags : OpenFlags) :
    (fs.openFile path flags).2 = fs ∨ (fs.entry path = none ∧ fs.parentErrno path = none ∧
      ∀ q, (fs.openFile path flags).2.entry q = if q = path then some .file else fs.entry q) := by
  unfold FS.openFile
  split
  · exact .inl rfl
  · split <;> exact .inl rfl
  · next absent =>
      split
      · split
        · exact .inl rfl
        · next parent => exact .inr ⟨absent, parent, fun _ => rfl⟩
      · exact .inl rfl

theorem FS.parentErrno_of_tail {fs : FS} {path : Path} (parent : fs.entry path.tail = some .dir) :
    fs.parentErrno path = none := by
  cases path with
  | nil => rfl
  | cons _ _ => simp only [FS.parentErrno, List.tail_cons] at parent ⊢; rw [parent]

/-- A directory that `Mkdir` made is there. -/
theorem FS.mkdir_ok {fs : FS} {path : Path} (made : (fs.mkdir path).1 = .ok ()) :
    (fs.mkdir path).2.entry path = some .dir := by
  revert made
  unfold FS.mkdir
  split
  · nofun
  · split
    · nofun
    · intro _
      simp [FS.insert]

/-- Under a directory, `Mkdir` fails only on an entry that is already there. -/
theorem FS.mkdir_error {fs : FS} {path : Path} {err : GoError}
    (noErrno : fs.parentErrno path = none) (failed : (fs.mkdir path).1 = .error err) :
    fs.entry path ≠ none := by
  revert failed
  unfold FS.mkdir
  split
  · next present => intro _; simp [present]
  · split
    · next errno => simp [noErrno] at errno
    · nofun

/-- A file that `Create` opened is there. -/
theorem FS.create_ok {fs : FS} {path : Path} (opened : (fs.openFile path ⟨true, false⟩).1 = .ok ()) :
    (fs.openFile path ⟨true, false⟩).2.entry path = some .file := by
  revert opened
  unfold FS.openFile
  split
  · nofun
  · next present => intro _; simpa using present
  · split
    · split
      · nofun
      · intro _
        simp [FS.insert]
    · nofun

/-- Under a directory, `Create` fails only on a directory. -/
theorem FS.create_of_parent {fs : FS} {path : Path} (notDir : fs.entry path ≠ some .dir)
    (noErrno : fs.parentErrno path = none) : (fs.openFile path ⟨true, false⟩).1 = .ok () := by
  unfold FS.openFile
  split
  · next present => exact absurd present notDir
  · rfl
  · simp [noErrno]

/-- A path is not above itself. -/
theorem not_suffix_tail {path : Path} (nonempty : path ≠ []) : ¬ path <:+ path.tail := by
  intro above
  have shorter := above.length_le
  cases path with
  | nil => exact nonempty rfl
  | cons _ rest =>
      simp only [List.tail_cons, List.length_cons] at shorter
      omega

/-- The calls `bootstrapped` makes for `stamp`: looking up anything, making a directory
above the stamp, creating the stamp without `O_EXCL`, and closing it. -/
def StampCall (stamp : Path) : Call → Prop
  | .stat _ => True
  | .mkdir dir => dir <:+ stamp.tail
  | .openFile path flags => path = stamp ∧ flags = ⟨true, false⟩
  | .close _ => True
  | _ => False

/-- Every call of `bootstrapped` grows the filesystem as another process may. -/
theorem StampCall.grows {stamp : Path} (nonempty : stamp ≠ []) (world : World) (host : Host) :
    ∀ {call : Call}, StampCall stamp call → Grows stamp host.fs (world.reply host call).2
  | .stat _, _ => Grows.refl _
  | .close _, _ => Grows.refl _
  | .mkdir dir, above => by
      rcases FS.mkdir_fs host.fs dir with same | ⟨absent, -, entries⟩
      · rw [World.reply_mkdir, same]
        exact Grows.refl _
      · refine Grows.of_insert absent entries nofun fun atStamp => ?_
        exact absurd (atStamp ▸ above) (not_suffix_tail nonempty)
  | .openFile path flags, ⟨atStamp, _⟩ => by
      rcases FS.openFile_fs host.fs path flags with same | ⟨absent, -, entries⟩
      · rw [World.reply_openFile, same]
        exact Grows.refl _
      · refine Grows.of_insert absent entries (fun above => ?_) nofun
        exact absurd (atStamp ▸ above) (not_suffix_tail nonempty)

/-- A stamp call changes no entry off the stamp's path. -/
theorem StampCall.frame {stamp : Path} (world : World) (host : Host) :
    ∀ {call : Call}, StampCall stamp call → ∀ path, ¬ path <:+ stamp →
      (world.reply host call).2.entry path = host.fs.entry path
  | .stat _, _, _, _ => rfl
  | .close _, _, _, _ => rfl
  | .mkdir dir, above, path, off => by
      rcases FS.mkdir_fs host.fs dir with same | ⟨-, -, entries⟩
      · rw [World.reply_mkdir, same]
      · rw [World.reply_mkdir, entries, if_neg]
        rintro rfl
        exact off (above.trans (List.tail_suffix stamp))
  | .openFile _ _, ⟨atStamp, _⟩, path, off => by
      rcases FS.openFile_fs host.fs _ _ with same | ⟨-, -, entries⟩
      · rw [World.reply_openFile, same]
      · rw [World.reply_openFile, entries, if_neg]
        rintro rfl
        exact off (atStamp ▸ List.suffix_refl _)

/-- One level of `MkdirAll` looks up and makes only its path, besides what making the
parent does. -/
theorem mkdirAllStep_calls {path : Path} {makeParent : Prog (Except GoError Unit)}
    {allowed : Call → Prop} (looks : allowed (.stat path)) (makes : allowed (.mkdir path))
    (parent : makeParent.CallsWithin allowed) :
    (mkdirAllStep path makeParent).CallsWithin allowed := by
  refine (Prog.CallsWithin.query looks).bind fun found => ?_
  rcases found with _ | _ | _
  · refine parent.bind fun made => ?_
    rcases made with _ | _
    · exact .pure _
    · refine (Prog.CallsWithin.query makes).bind fun result => ?_
      rcases result with _ | _
      · exact (Prog.CallsWithin.query looks).bind fun _ => by split <;> exact .pure _
      · exact .pure _
  · exact .pure _
  · exact .pure _

/-- `MkdirAll` looks up and makes only `path` and the directories above it. -/
theorem mkdirAll_calls : ∀ path : Path, (mkdirAll path).CallsWithin
    (fun call => ∃ dir, dir <:+ path ∧ (call = .stat dir ∨ call = .mkdir dir))
  | [] => mkdirAllStep_calls ⟨_, List.suffix_refl _, .inl rfl⟩ ⟨_, List.suffix_refl _, .inr rfl⟩
      (.pure _)
  | name :: parent => by
      refine mkdirAllStep_calls ⟨_, List.suffix_refl _, .inl rfl⟩
        ⟨_, List.suffix_refl _, .inr rfl⟩ ?_
      split
      · exact .pure _
      · exact (mkdirAll_calls parent).mono fun _ ⟨dir, inParent, made⟩ =>
          ⟨dir, inParent.trans (List.suffix_cons name _), made⟩

/-- Making the stamp's directory makes only stamp calls. -/
theorem mkdirAll_stampCalls (stamp : Path) :
    (mkdirAll stamp.tail).CallsWithin (StampCall stamp) :=
  (mkdirAll_calls _).mono fun _ ⟨_, above, made⟩ => by
    rcases made with rfl | rfl
    · trivial
    · exact above

/-- `bootstrapped` makes only stamp calls. -/
theorem bootstrapped_calls (ext : Externals) (c : Cluster) :
    (bootstrapped ext c).CallsWithin (StampCall (bootstrapStamp ext c)) := by
  refine (mkdirAll_stampCalls _).bind fun made => ?_
  rcases made with _ | _
  · exact .pure _
  · refine (Prog.CallsWithin.query trivial).bind fun found => ?_
    rcases found with _ | _
    · refine (Prog.CallsWithin.query ⟨rfl, rfl⟩).bind fun created => ?_
      rcases created with _ | _
      · exact .pure _
      · exact Prog.CallsWithin.query trivial
    · exact .pure _

/-- `bootstrapped` changes no entry off the stamp's path: it makes only the stamp and the
directories above it. -/
theorem bootstrapped_frame (ext : Externals) (c : Cluster) (world : World) (host : Host)
    (path : Path) (off : ¬ path <:+ bootstrapStamp ext c) :
    ((bootstrapped ext c).run world host).2.fs.entry path = host.fs.entry path :=
  (bootstrapped_calls ext c).run_invariant
    (fun fs => ∀ path, ¬ path <:+ bootstrapStamp ext c → fs.entry path = host.fs.entry path)
    world (fun _ _ allowed kept path off => (StampCall.frame world _ allowed path off).trans
      (kept path off)) (fun _ _ => rfl) path off

/-- The sample joiner's first `bootstrapped` leaves a path beside its data directory alone. -/
theorem bootstrapped_frame_sample :
    ¬ [lit "other"] <:+ bootstrapStamp Externals.sample Cluster.sampleJoiner ∧
      ((bootstrapped Externals.sample Cluster.sampleJoiner).run World.cooperative
        ⟨FS.empty, []⟩).2.fs.entry [lit "other"] = FS.empty.entry [lit "other"] :=
  ⟨by decide, bootstrapped_frame _ _ _ ⟨FS.empty, []⟩ _ (by decide)⟩

/-! ## Runs on a shared filesystem -/

/-- A run of `p` from `host` to `value` and `host'` during which, before each call and at
the end, other processes may change the filesystem as `rely` allows. -/
inductive RelyRun (world : World) (rely : FS → FS → Prop) :
    Prog α → Host → α → Host → Prop
  | pure {value : α} {host : Host} : RelyRun world rely (.pure value) host value host
  | call {c : Call} {continuation : c.Response → Prog α} {host host' : Host} {value : α} :
      RelyRun world rely (continuation (world.reply host c).1)
        { fs := (world.reply host c).2, trace := host.trace ++ [⟨c, (world.reply host c).1⟩] }
        value host' →
      RelyRun world rely (.call c continuation) host value host'
  | env {p : Prog α} {host host' : Host} {fs : FS} {value : α} :
      rely host.fs fs → RelyRun world rely p { host with fs } value host' →
      RelyRun world rely p host value host'

namespace RelyRun

variable {world : World} {rely : FS → FS → Prop}

/-- A run with no other process is a run under every rely condition. -/
theorem of_run (p : Prog α) (host : Host) :
    RelyRun world rely p host (p.run world host).1 (p.run world host).2 := by
  induction p generalizing host with
  | pure value => exact .pure
  | call c continuation inductionHypothesis => exact .call (inductionHypothesis _ _)

/-- A finished program only waits for other processes. -/
theorem pure_inv {value value' : α} {host host' : Host}
    (ran : RelyRun world rely (.pure value) host value' host') :
    value' = value ∧ Relation.ReflTransGen rely host.fs host'.fs ∧ host'.trace = host.trace := by
  generalize finished : (Prog.pure value : Prog α) = p at ran
  induction ran with
  | pure => cases finished; exact ⟨rfl, .refl, rfl⟩
  | call => cases finished
  | env changed _ inductionHypothesis =>
      obtain ⟨same, grown, trace⟩ := inductionHypothesis finished
      exact ⟨same, .head changed grown, trace⟩

/-- A call is made after other processes moved, on the filesystem they left. -/
theorem call_inv {c : Call} {continuation : c.Response → Prog α} {host host' : Host}
    {value : α} (ran : RelyRun world rely (.call c continuation) host value host') :
    ∃ host₀ : Host, Relation.ReflTransGen rely host.fs host₀.fs ∧ host₀.trace = host.trace ∧
      RelyRun world rely (continuation (world.reply host₀ c).1)
        { fs := (world.reply host₀ c).2, trace := host₀.trace ++ [⟨c, (world.reply host₀ c).1⟩] }
        value host' := by
  generalize calling : Prog.call c continuation = p at ran
  induction ran with
  | pure => cases calling
  | call rest =>
      cases calling
      exact ⟨_, .refl, rfl, rest⟩
  | env changed _ inductionHypothesis =>
      obtain ⟨host₀, grown, trace, rest⟩ := inductionHypothesis calling
      exact ⟨host₀, .head changed grown, trace, rest⟩

/-- A sequence runs its first part, then the rest from where the first stopped. -/
theorem bind_inv {p : Prog α} {next : α → Prog β} {host host' : Host} {value : β}
    (ran : RelyRun world rely (p.bind next) host value host') :
    ∃ first middle, RelyRun world rely p host first middle ∧
      RelyRun world rely (next first) middle value host' := by
  generalize sequence : p.bind next = q at ran
  induction ran generalizing p with
  | pure =>
      cases p with
      | pure first =>
          exact ⟨first, _, .pure, (show next first = _ from sequence) ▸ .pure⟩
      | call => cases sequence
  | call rest inductionHypothesis =>
      cases p with
      | pure first =>
          exact ⟨first, _, .pure, (show next first = _ from sequence) ▸ .call rest⟩
      | call c continuation =>
          cases sequence
          obtain ⟨first, middle, head, tail⟩ := inductionHypothesis rfl
          exact ⟨first, middle, .call head, tail⟩
  | env changed rest inductionHypothesis =>
      obtain ⟨first, middle, head, tail⟩ := inductionHypothesis sequence
      exact ⟨first, middle, .env changed head, tail⟩

/-- While the filesystem satisfies `frozen`, others leave it alone and so do the calls of
`p`: then a run under that rely is the run with no other process. -/
theorem eq_run_of_keeps {frozen : FS → Prop} {allowed : Call → Prop} {p : Prog α}
    (keeps : ∀ host c, allowed c → frozen host.fs → (world.reply host c).2 = host.fs)
    (within : p.CallsWithin allowed) {host host' : Host} {value : α}
    (ran : RelyRun world (fun fs fs' => frozen fs → fs' = fs) p host value host')
    (holds : frozen host.fs) : (value, host') = p.run world host := by
  induction ran with
  | pure => rfl
  | @call c _ host _ _ _ inductionHypothesis =>
      cases within with
      | call allowedCall rest =>
          exact inductionHypothesis (rest _) ((keeps host c allowedCall holds).symm ▸ holds)
  | env changed _ inductionHypothesis =>
      cases changed holds
      exact inductionHypothesis within holds

end RelyRun

/-- Under `Grows`, a run of stamp calls only grows the filesystem. -/
theorem RelyRun.grows {stamp : Path} (nonempty : stamp ≠ []) {world : World} {p : Prog α}
    {host host' : Host} {value : α} (ran : RelyRun world (Grows stamp) p host value host')
    (within : p.CallsWithin (StampCall stamp)) : Grows stamp host.fs host'.fs := by
  induction ran with
  | pure => exact .refl _
  | call _ inductionHypothesis =>
      cases within with
      | call allowed rest =>
          exact (StampCall.grows nonempty world _ allowed).trans (inductionHypothesis (rest _))
  | env changed _ inductionHypothesis => exact changed.trans (inductionHypothesis within)

/-- A call answered from the filesystem after other processes moved: the rest runs from
what the call left. -/
theorem RelyRun.query_bind {world : World} {rely : FS → FS → Prop} {c : Call}
    {next : c.Response → Prog α} {host host' : Host} {value : α}
    (ran : RelyRun world rely ((Prog.query c).bind next) host value host') :
    ∃ host₀ host₁ : Host, Relation.ReflTransGen rely host.fs host₀.fs ∧
      host₁.fs = (world.reply host₀ c).2 ∧
      RelyRun world rely (next (world.reply host₀ c).1) host₁ value host' :=
  let ⟨host₀, waited, _, rest⟩ := RelyRun.call_inv ran
  ⟨host₀, _, waited, rfl, rest⟩

/-! ## Making the stamp while others do -/

section Rely

variable {stamp : Path} {world : World}

/-- Under `Grows`, a level of `MkdirAll` that succeeded leaves a directory. -/
theorem mkdirAllStep_ok {path : Path} {makeParent : Prog (Except GoError Unit)}
    {host host' : Host}
    (ran : RelyRun world (Grows stamp) (mkdirAllStep path makeParent) host (.ok ()) host') :
    host'.fs.entry path = some .dir := by
  unfold mkdirAllStep at ran
  obtain ⟨host₀, host₁, -, looked, ran⟩ := RelyRun.query_bind ran
  simp only [World.reply_stat] at looked ran
  rcases found : host₀.fs.entry path with _ | _ | _
  case some.file => simp only [FS.stat, found] at ran; cases ran.pure_inv.1
  case some.dir =>
    simp only [FS.stat, found] at ran
    exact (Grows.of_reflTransGen ran.pure_inv.2.1).keeps _ _ (looked ▸ found)
  simp only [FS.stat, found] at ran
  obtain ⟨made, host₂, -, ran⟩ := RelyRun.bind_inv ran
  rcases made with err | ⟨⟩
  · cases ran.pure_inv.1
  obtain ⟨host₃, host₄, -, making, ran⟩ := RelyRun.query_bind ran
  simp only [World.reply_mkdir] at making ran
  rcases made : (host₃.fs.mkdir path).1 with err | ⟨⟩
  · rw [made] at ran
    obtain ⟨host₅, host₆, -, looked, ran⟩ := RelyRun.query_bind ran
    simp only [World.reply_stat] at looked ran
    rcases again : host₅.fs.entry path with _ | _ | _ <;> simp only [FS.stat, again] at ran
    · cases ran.pure_inv.1
    · cases ran.pure_inv.1
    · exact (Grows.of_reflTransGen ran.pure_inv.2.1).keeps _ _ (looked ▸ again)
  · rw [made] at ran
    exact (Grows.of_reflTransGen ran.pure_inv.2.1).keeps _ _ (making ▸ FS.mkdir_ok made)

/-- Under `Grows`, a level of `MkdirAll` at or above the stamp's directory succeeds and
leaves a directory, when making its parent does. -/
theorem mkdirAllStep_rely (nonempty : stamp ≠ []) {path : Path}
    {makeParent : Prog (Except GoError Unit)} (above : path <:+ stamp.tail)
    (parentCalls : makeParent.CallsWithin (StampCall stamp))
    (parent : ∀ {host : Host} {result : Except GoError Unit} {host' : Host},
      StampReady stamp host.fs → RelyRun world (Grows stamp) makeParent host result host' →
      result = .ok () ∧ host'.fs.entry path.tail = some .dir)
    {host host' : Host} {result : Except GoError Unit} (ready : StampReady stamp host.fs)
    (ran : RelyRun world (Grows stamp) (mkdirAllStep path makeParent) host result host') :
    result = .ok () ∧ host'.fs.entry path = some .dir := by
  suffices succeeded : result = .ok () from ⟨succeeded, mkdirAllStep_ok (succeeded ▸ ran)⟩
  unfold mkdirAllStep at ran
  obtain ⟨host₀, host₁, waited₀, looked, ran⟩ := RelyRun.query_bind ran
  have ready₁ : StampReady stamp host₁.fs := looked ▸ (Grows.of_reflTransGen waited₀).ready ready
  simp only [World.reply_stat] at looked ran
  rcases found : host₀.fs.entry path with _ | _ | _
  case some.file => exact absurd (looked ▸ found) (ready₁ path above)
  case some.dir =>
    simp only [FS.stat, found] at ran
    exact ran.pure_inv.1
  case none =>
    simp only [FS.stat, found] at ran
    obtain ⟨made, host₂, ranParent, ran⟩ := RelyRun.bind_inv ran
    obtain ⟨rfl, parentDir⟩ := parent ready₁ ranParent
    have grown₂ := ranParent.grows nonempty parentCalls
    obtain ⟨host₃, host₄, waited₃, making, ran⟩ := RelyRun.query_bind ran
    have grown₃ := Grows.of_reflTransGen waited₃
    have grown₄ : Grows stamp host₃.fs host₄.fs :=
      making ▸ StampCall.grows nonempty world host₃ (show StampCall stamp (.mkdir path) from above)
    simp only [World.reply_mkdir] at making ran
    rcases made : (host₃.fs.mkdir path).1 with err | ⟨⟩
    · -- the directory appeared in the meantime: the second look finds it
      rw [made] at ran
      have present := FS.mkdir_error (FS.parentErrno_of_tail (grown₃.keeps _ _ parentDir)) made
      obtain ⟨host₅, host₆, waited₅, -, ran⟩ := RelyRun.query_bind ran
      have grown₅ := grown₄.trans (Grows.of_reflTransGen waited₅)
      obtain ⟨kind, atPath⟩ := Option.ne_none_iff_exists'.mp present
      have dir : host₅.fs.entry path = some .dir := by
        have kept := grown₅.keeps _ _ atPath
        cases kind
        · exact absurd kept (((grown₂.trans grown₃).trans grown₅).ready ready₁ path above)
        · exact kept
      simp only [World.reply_stat, FS.stat, dir] at ran
      exact ran.pure_inv.1
    · rw [made] at ran
      exact ran.pure_inv.1

/-- The root and the top-level entries have the root, always a directory, as parent. -/
theorem pure_parent (path : Path) (top : path.tail = []) {host host' : Host}
    {result : Except GoError Unit}
    (ran : RelyRun world (Grows stamp) (.pure (.ok ())) host result host') :
    result = .ok () ∧ host'.fs.entry path.tail = some .dir :=
  ⟨ran.pure_inv.1, top ▸ host'.fs.root_dir⟩

/-- Under `Grows`, `MkdirAll` of a directory above the stamp succeeds and leaves it. -/
theorem mkdirAll_rely (nonempty : stamp ≠ []) : ∀ {path : Path}, path <:+ stamp.tail →
    ∀ {host host' : Host} {result : Except GoError Unit}, StampReady stamp host.fs →
      RelyRun world (Grows stamp) (mkdirAll path) host result host' →
      result = .ok () ∧ host'.fs.entry path = some .dir
  | [], above, _, _, _, ready, ran =>
      mkdirAllStep_rely nonempty above (.pure _) (fun _ => pure_parent [] rfl) ready ran
  | name :: parent, above, _, _, _, ready, ran => by
      have parentAbove := (List.suffix_cons name _).trans above
      refine mkdirAllStep_rely nonempty above ?_ ?_ ready ran
      · split
        · exact .pure _
        · exact (mkdirAll_calls parent).mono fun _ ⟨_, inParent, made⟩ => by
            rcases made with rfl | rfl
            · trivial
            · exact inParent.trans parentAbove
      · split
        · next top => exact fun _ => pure_parent (name :: parent) top
        · exact mkdirAll_rely nonempty parentAbove

/-- `MkdirAll` is one level over making the parent. -/
theorem mkdirAll_eq_step : ∀ path : Path, ∃ makeParent, mkdirAll path = mkdirAllStep path makeParent
  | [] => ⟨_, rfl⟩
  | _ :: _ => ⟨_, rfl⟩

/-- Under `Grows`, `MkdirAll` that succeeded leaves a directory. -/
theorem mkdirAll_ok {path : Path} {host host' : Host}
    (ran : RelyRun world (Grows stamp) (mkdirAll path) host (.ok ()) host') :
    host'.fs.entry path = some .dir := by
  obtain ⟨_, step⟩ := mkdirAll_eq_step path
  exact mkdirAllStep_ok (step ▸ ran)

/-- Under `Grows`, `bootstrapped` leaves the stamp and its directory whenever it succeeds,
and succeeds whenever no file stands above the stamp. -/
theorem bootstrapped_rely {ext : Externals} {c : Cluster} {host host' : Host}
    {result : Except GoError Unit}
    (ran : RelyRun world (Grows (bootstrapStamp ext c)) (bootstrapped ext c) host result host') :
    (result = .ok () → host'.fs.entry (bootstrapStamp ext c).tail = some .dir ∧
        host'.fs.entry (bootstrapStamp ext c) ≠ none) ∧
      (StampReady (bootstrapStamp ext c) host.fs → result = .ok ()) := by
  have nonempty : bootstrapStamp ext c ≠ [] := List.cons_ne_nil _ _
  unfold bootstrapped at ran
  obtain ⟨made, host₁, ranDir, ran⟩ := RelyRun.bind_inv ran
  have madeDir := fun ready => mkdirAll_rely nonempty (List.suffix_refl _) ready ranDir
  rcases made with err | ⟨⟩
  · obtain ⟨rfl, -, -⟩ := ran.pure_inv
    exact ⟨nofun, fun ready => nomatch (madeDir ready).1⟩
  have dir₁ := mkdirAll_ok ranDir
  obtain ⟨host₂, host₃, waited₂, looked, ran⟩ := RelyRun.query_bind ran
  simp only [World.reply_stat] at looked ran
  have grown₂ := Grows.of_reflTransGen waited₂
  rcases found : host₂.fs.entry (bootstrapStamp ext c) with _ | kind
  case some =>
    simp only [FS.stat, found] at ran
    obtain ⟨rfl, waited, -⟩ := ran.pure_inv
    have grown : Grows _ host₂.fs host'.fs := looked ▸ Grows.of_reflTransGen waited
    exact ⟨fun _ => ⟨(grown₂.trans grown).keeps _ _ dir₁, by simp [grown.keeps _ _ found]⟩,
      fun _ => rfl⟩
  simp only [FS.stat, found] at ran
  obtain ⟨host₄, host₅, waited₄, creating, ran⟩ := RelyRun.query_bind ran
  have grown₄ : Grows _ host₂.fs host₄.fs := looked ▸ Grows.of_reflTransGen waited₄
  have created : Grows _ host₄.fs host₅.fs :=
    creating ▸ StampCall.grows nonempty world host₄
      (show StampCall _ (.openFile (bootstrapStamp ext c) ⟨true, false⟩) from ⟨rfl, rfl⟩)
  simp only [World.reply_openFile] at creating ran
  rcases opened : (host₄.fs.openFile (bootstrapStamp ext c) ⟨true, false⟩).1 with err | ⟨⟩
  · rw [opened] at ran
    obtain ⟨rfl, -, -⟩ := ran.pure_inv
    refine ⟨nofun, fun ready => ?_⟩
    have notDir : host₄.fs.entry (bootstrapStamp ext c) ≠ some .dir := fun dir => by
      simpa [found] using grown₄.noDirAtStamp dir
    have parentDir := (grown₂.trans grown₄).keeps _ _ (madeDir ready).2
    simp [FS.create_of_parent notDir (FS.parentErrno_of_tail parentDir)] at opened
  · rw [opened] at ran
    have closing := ran.grows nonempty (Prog.CallsWithin.query trivial)
    obtain ⟨host₆, -, -, ran⟩ := RelyRun.call_inv ran
    obtain ⟨closedOk, -, -⟩ := ran.pure_inv
    simp only [World.reply_close] at closedOk
    have stamped := closing.keeps _ _ (creating ▸ FS.create_ok opened)
    have grown := ((grown₂.trans grown₄).trans created).trans closing
    exact ⟨fun _ => ⟨grown.keeps _ _ dir₁, by simp [stamped]⟩, fun _ => closedOk⟩

/-- Under `Grows`, `bootstrapped` succeeds where the stamp and its directory exist: it
looks both up and makes nothing. -/
theorem bootstrapped_again {ext : Externals} {c : Cluster} {host host' : Host}
    {result : Except GoError Unit}
    (dir : host.fs.entry (bootstrapStamp ext c).tail = some .dir)
    (stamped : host.fs.entry (bootstrapStamp ext c) ≠ none)
    (ran : RelyRun world (Grows (bootstrapStamp ext c)) (bootstrapped ext c) host result host') :
    result = .ok () := by
  unfold bootstrapped at ran
  obtain ⟨made, host₁, ranDir, ran⟩ := RelyRun.bind_inv ran
  obtain ⟨_, step⟩ := mkdirAll_eq_step (bootstrapStamp ext c).tail
  rw [step] at ranDir
  unfold mkdirAllStep at ranDir
  obtain ⟨host₀, host₀', waited₀, looked₀, ranDir⟩ := RelyRun.query_bind ranDir
  have grown₀ := Grows.of_reflTransGen waited₀
  simp only [World.reply_stat, FS.stat, grown₀.keeps _ _ dir] at looked₀ ranDir
  obtain ⟨rfl, waited₁, -⟩ := ranDir.pure_inv
  obtain ⟨host₂, host₃, waited₂, -, ran⟩ := RelyRun.query_bind ran
  have grown : Grows _ host.fs host₂.fs :=
    grown₀.trans ((looked₀ ▸ Grows.of_reflTransGen waited₁).trans (Grows.of_reflTransGen waited₂))
  obtain ⟨kind, present⟩ := Option.ne_none_iff_exists'.mp stamped
  simp only [World.reply_stat, FS.stat, grown.keeps _ _ present] at ran
  exact ran.pure_inv.1

end Rely

/-! ## A file in the way of the stamp -/

/-- A filesystem as the operating system keeps it: every entry but the root sits in a
directory. -/
def FS.WellFormed (fs : FS) : Prop :=
  ∀ name parent kind, fs.entry (name :: parent) = some kind → fs.entry parent = some .dir

/-- In a well-formed filesystem, everything above a directory is a directory. -/
theorem FS.WellFormed.above_dir {fs : FS} (wellFormed : fs.WellFormed) :
    ∀ {path : Path}, fs.entry path = some .dir → ∀ dir, dir <:+ path → fs.entry dir = some .dir
  | [], _, _, above => by rw [List.suffix_nil.mp above, fs.root_dir]
  | _ :: parent, present, dir, above => by
      rcases List.suffix_cons_iff.mp above with rfl | above
      · exact present
      · exact wellFormed.above_dir (wellFormed _ _ _ present) dir above

/-- Nothing is below a file. -/
theorem FS.WellFormed.absent_below_file {fs : FS} (wellFormed : fs.WellFormed) {dir : Path}
    (file : fs.entry dir = some .file) {name : GoString} {parent : Path} (below : dir <:+ parent) :
    fs.entry (name :: parent) = none := by
  cases present : fs.entry (name :: parent) with
  | none => rfl
  | some kind =>
      rw [wellFormed.above_dir (wellFormed _ _ _ present) dir below] at file
      cases file

/-- Without an errno, a path's parent is a directory. -/
theorem FS.parentErrno_none {fs : FS} {name : GoString} {parent : Path}
    (noErrno : fs.parentErrno (name :: parent) = none) : fs.entry parent = some .dir := by
  simp only [FS.parentErrno] at noErrno
  split at noErrno
  · assumption
  all_goals cases noErrno

/-- No entry can be added on the line through a file: above it everything exists, and
below it nothing sits in a directory. -/
theorem FS.WellFormed.no_insert_near_file {fs : FS} (wellFormed : fs.WellFormed) {dir q : Path}
    (file : fs.entry dir = some .file) (absent : fs.entry q = none)
    (noErrno : fs.parentErrno q = none) (onLine : q <:+ dir ∨ dir <:+ q) : False := by
  rcases onLine with above | below
  · cases dir with
    | nil => rw [fs.root_dir] at file; cases file
    | cons name parent =>
        rcases List.suffix_cons_iff.mp above with rfl | above
        · rw [absent] at file; cases file
        · rw [wellFormed.above_dir (wellFormed _ _ _ file) q above] at absent; cases absent
  · cases q with
    | nil => rw [fs.root_dir] at absent; cases absent
    | cons name parent =>
        rcases List.suffix_cons_iff.mp below with rfl | below
        · rw [absent] at file; cases file
        · rw [wellFormed.above_dir (FS.parentErrno_none noErrno) dir below] at file; cases file

/-- Where a file stands at or above the stamp's directory, no call of `bootstrapped` can
change the filesystem. -/
theorem StampCall.blocked {stamp dir : Path} (world : World) {host : Host}
    (wellFormed : host.fs.WellFormed) (above : dir <:+ stamp.tail)
    (file : host.fs.entry dir = some .file) :
    ∀ {call : Call}, StampCall stamp call → (world.reply host call).2 = host.fs
  | .stat _, _ | .close _, _ => rfl
  | .mkdir _, onPath => by
      rcases FS.mkdir_fs host.fs _ with same | ⟨absent, noErrno, -⟩
      · exact same
      · exact (wellFormed.no_insert_near_file file absent noErrno
          (List.suffix_or_suffix_of_suffix onPath above)).elim
  | .openFile _ _, ⟨rfl, _⟩ => by
      rcases FS.openFile_fs host.fs _ _ with same | ⟨absent, noErrno, -⟩
      · exact same
      · exact (wellFormed.no_insert_near_file file absent noErrno
          (List.suffix_or_suffix_of_suffix (List.suffix_refl _)
            (above.trans (List.tail_suffix _)))).elim

/-- On a well-formed filesystem, `MkdirAll` looks the path up and each directory above it
until it meets the file in the way, and fails there with `ENOTDIR`. -/
theorem mkdirAll_blocked (world : World) {dir : Path} : ∀ (path : Path) (host : Host),
    host.fs.WellFormed → dir <:+ path → host.fs.entry dir = some .file →
      ((mkdirAll path).run world host).1 = .error (.pathError (lit "mkdir") dir .enotdir)
  | [], host, _, above, file => by
      rw [List.suffix_nil.mp above, host.fs.root_dir] at file
      cases file
  | name :: parent, host, wellFormed, above, file => by
      simp only [mkdirAll, mkdirAllStep, Prog.bind_eq, Prog.run_bind, osStat_run]
      rcases List.suffix_cons_iff.mp above with rfl | parentAbove
      · simp [FS.stat, file]
      have top : parent ≠ [] := by
        rintro rfl
        rw [List.suffix_nil.mp parentAbove, host.fs.root_dir] at file
        cases file
      have failed := mkdirAll_blocked world parent
        (host.record ⟨.stat (name :: parent), host.fs.stat (name :: parent)⟩) wellFormed
        parentAbove file
      simp only [FS.stat, wellFormed.absent_below_file file parentAbove, top, if_false,
        Prog.run_bind] at failed ⊢
      rw [failed]
      rfl

/-- With a file at or above the stamp's directory, `bootstrapped` returns the error of
`MkdirAll` and leaves the filesystem as it was. -/
theorem bootstrapped_blocked {ext : Externals} {c : Cluster} (world : World) {host : Host}
    (wellFormed : host.fs.WellFormed) {dir : Path} (above : dir <:+ (bootstrapStamp ext c).tail)
    (file : host.fs.entry dir = some .file) :
    ((bootstrapped ext c).run world host).1 = .error (.pathError (lit "mkdir") dir .enotdir) ∧
      ((bootstrapped ext c).run world host).2.fs = host.fs := by
  refine ⟨?_, (bootstrapped_calls ext c).run_invariant (· = host.fs) world
    (fun host' _ allowed same => ?_) rfl⟩
  · unfold bootstrapped
    simp only [Prog.bind_eq, Prog.run_bind, mkdirAll_blocked world _ host wellFormed above file]
    rfl
  · rw [← same] at wellFormed file
    exact (StampCall.blocked world wellFormed above file allowed).trans same

/-! ## A second call -/

/-- Where the stamp and its directory exist, `bootstrapped` only looks them up: it returns
nil and leaves the filesystem as it was. -/
theorem bootstrapped_present {ext : Externals} {c : Cluster} (world : World) {host : Host}
    (dir : host.fs.entry (bootstrapStamp ext c).tail = some .dir)
    (stamped : host.fs.entry (bootstrapStamp ext c) ≠ none) :
    ((bootstrapped ext c).run world host).1 = .ok () ∧
      ((bootstrapped ext c).run world host).2.fs = host.fs := by
  obtain ⟨kind, present⟩ := Option.ne_none_iff_exists'.mp stamped
  obtain ⟨_, step⟩ := mkdirAll_eq_step (bootstrapStamp ext c).tail
  unfold bootstrapped
  dsimp only
  rw [step]
  unfold mkdirAllStep
  simp [FS.stat, dir, present]

/-- `bootstrapped` is idempotent: after a call that returned nil, a second call returns nil
and changes no entry of the filesystem. -/
theorem bootstrapped_idempotent (ext : Externals) (c : Cluster) (world : World) {host : Host}
    (succeeded : ((bootstrapped ext c).run world host).1 = .ok ()) :
    ((bootstrapped ext c).run world ((bootstrapped ext c).run world host).2).1 = .ok () ∧
      ((bootstrapped ext c).run world ((bootstrapped ext c).run world host).2).2.fs =
        ((bootstrapped ext c).run world host).2.fs := by
  obtain ⟨dir, stamped⟩ := (bootstrapped_rely (RelyRun.of_run _ _)).1 succeeded
  exact bootstrapped_present world dir stamped

/-- The sample joiner's stamp, made twice on the empty filesystem. -/
theorem bootstrapped_idempotent_sample :
    ((bootstrapped Externals.sample Cluster.sampleJoiner).run World.cooperative
        ⟨FS.empty, []⟩).1 = .ok () ∧
      ((bootstrapped Externals.sample Cluster.sampleJoiner).run World.cooperative
          ((bootstrapped Externals.sample Cluster.sampleJoiner).run World.cooperative
            ⟨FS.empty, []⟩).2).1 = .ok () ∧
      ((bootstrapped Externals.sample Cluster.sampleJoiner).run World.cooperative
          ((bootstrapped Externals.sample Cluster.sampleJoiner).run World.cooperative
            ⟨FS.empty, []⟩).2).2.fs =
        ((bootstrapped Externals.sample Cluster.sampleJoiner).run World.cooperative
          ⟨FS.empty, []⟩).2.fs :=
  ⟨rfl, bootstrapped_idempotent _ _ _ rfl⟩

/-! ## Two processes on one filesystem -/

/-- Two processes on one filesystem, each with its own trace. -/
structure Shared (α β : Type) where
  first : Prog α
  second : Prog β
  fs : FS
  firstTrace : Trace
  secondTrace : Trace

namespace Shared

/-- One step of either process: its next call, answered on the shared filesystem and
recorded in its own trace. Each process has its own peers, so its own world. -/
inductive Step (world₁ world₂ : World) : Shared α β → Shared α β → Prop
  | first {c : Call} {continuation : c.Response → Prog α} {second : Prog β} {fs : FS}
      {trace₁ trace₂ : Trace} :
      Step world₁ world₂ ⟨.call c continuation, second, fs, trace₁, trace₂⟩
        ⟨continuation (world₁.reply ⟨fs, trace₁⟩ c).1, second, (world₁.reply ⟨fs, trace₁⟩ c).2,
          trace₁ ++ [⟨c, (world₁.reply ⟨fs, trace₁⟩ c).1⟩], trace₂⟩
  | second {c : Call} {continuation : c.Response → Prog β} {first : Prog α} {fs : FS}
      {trace₁ trace₂ : Trace} :
      Step world₁ world₂ ⟨first, .call c continuation, fs, trace₁, trace₂⟩
        ⟨first, continuation (world₂.reply ⟨fs, trace₂⟩ c).1, (world₂.reply ⟨fs, trace₂⟩ c).2,
          trace₁, trace₂ ++ [⟨c, (world₂.reply ⟨fs, trace₂⟩ c).1⟩]⟩

/-- The two processes with their parts exchanged. -/
def swap (s : Shared α β) : Shared β α :=
  ⟨s.second, s.first, s.fs, s.secondTrace, s.firstTrace⟩

variable {world₁ world₂ : World} {rely : FS → FS → Prop} {allowed : Call → Prop}

theorem Step.swap {s s' : Shared α β} (step : Step world₁ world₂ s s') :
    Step world₂ world₁ s.swap s'.swap := by
  cases step
  · exact .second
  · exact .first

/-- In every interleaving that ends with both processes finished, the first makes a
`RelyRun`, when each call the second may make changes the filesystem only as `rely`
allows. -/
theorem relyRun_first (guarantee : ∀ host c, allowed c → rely host.fs (world₂.reply host c).2)
    {s : Shared α β} {value₁ : α} {value₂ : β} {fs : FS} {trace₁ trace₂ : Trace}
    (ran : Relation.ReflTransGen (Step world₁ world₂) s
      ⟨.pure value₁, .pure value₂, fs, trace₁, trace₂⟩)
    (within : s.second.CallsWithin allowed) :
    RelyRun world₁ rely s.first ⟨s.fs, s.firstTrace⟩ value₁ ⟨fs, trace₁⟩ := by
  induction ran using Relation.ReflTransGen.head_induction_on with
  | refl => exact .pure
  | head step _ inductionHypothesis =>
      cases step with
      | first => exact .call (inductionHypothesis within)
      | second =>
          cases within with
          | call allowedCall rest =>
              refine .env ?_ (inductionHypothesis (rest _))
              dsimp only
              exact guarantee ⟨_, _⟩ _ allowedCall

/-- The same for the second process. -/
theorem relyRun_second (guarantee : ∀ host c, allowed c → rely host.fs (world₁.reply host c).2)
    {s : Shared α β} {value₁ : α} {value₂ : β} {fs : FS} {trace₁ trace₂ : Trace}
    (ran : Relation.ReflTransGen (Step world₁ world₂) s
      ⟨.pure value₁, .pure value₂, fs, trace₁, trace₂⟩)
    (within : s.first.CallsWithin allowed) :
    RelyRun world₂ rely s.second ⟨s.fs, s.secondTrace⟩ value₂ ⟨fs, trace₂⟩ :=
  relyRun_first guarantee (ran.lift swap fun _ _ => Step.swap) within

end Shared

/-- Two `bootstrapped` calls on one stamp, interleaved in any order from a filesystem with
no file above the stamp, both succeed and leave the stamp. -/
theorem bootstrapped_interleaved {ext : Externals} {c c' : Cluster}
    (same : bootstrapStamp ext c' = bootstrapStamp ext c) {world₁ world₂ : World} {fs fs' : FS}
    {trace₁ trace₂ trace₁' trace₂' : Trace} {result₁ result₂ : Except GoError Unit}
    (ready : StampReady (bootstrapStamp ext c) fs)
    (ran : Relation.ReflTransGen (Shared.Step world₁ world₂)
      ⟨bootstrapped ext c, bootstrapped ext c', fs, trace₁, trace₂⟩
      ⟨.pure result₁, .pure result₂, fs', trace₁', trace₂'⟩) :
    result₁ = .ok () ∧ result₂ = .ok () ∧ fs'.entry (bootstrapStamp ext c) ≠ none := by
  have guarantee : ∀ (world : World) host call, StampCall (bootstrapStamp ext c) call →
      Grows (bootstrapStamp ext c) host.fs (world.reply host call).2 :=
    fun world host _ allowed => StampCall.grows (List.cons_ne_nil _ _) world host allowed
  have first := Shared.relyRun_first (guarantee world₂) ran (same ▸ bootstrapped_calls ext c')
  have second : RelyRun world₂ (Grows (bootstrapStamp ext c')) (bootstrapped ext c')
      ⟨fs, trace₂⟩ result₂ ⟨fs', trace₂'⟩ :=
    same ▸ Shared.relyRun_second (guarantee world₁) ran (bootstrapped_calls ext c)
  obtain ⟨stamped, succeeds⟩ := bootstrapped_rely first
  have ok₁ := succeeds ready
  exact ⟨ok₁, (bootstrapped_rely second).2 (same ▸ ready), (stamped ok₁).2⟩

/-! ## `Bootstrap` once the stamp exists -/

/-- Assigning a driver only asks the drivers, and leaves the filesystem alone. -/
theorem assignManagedDriver_fs (ext : Externals) (world : World) (host : Host) (c : Cluster) :
    ((assignManagedDriver ext c).run world host).2.fs = host.fs :=
  (assignManagedDriver_calls ext c).run_fs world (fun _ _ ⟨_, asked⟩ => by subst asked; rfl)
    host

/-- Validating a token only asks the peers, and leaves the filesystem alone. -/
theorem parseAndValidate_fs (ext : Externals) (server token : GoString)
    (usernameOverride : Option GoString) (world : World) (host : Host) :
    ((parseAndValidate ext server token usernameOverride).run world host).2.fs = host.fs :=
  (parseAndValidate_calls ext server token usernameOverride).run_fs world
    (fun _ c asks => by cases c <;> first | rfl | exact (asks : False).elim) host

/-- Where the stamp exists, `shouldBootstrapLoad` declines, or returns the error of the
token validation. -/
theorem shouldBootstrapLoad_stamped {ext : Externals} {host : Host} {c : Cluster}
    (world : World) (present : host.fs.entry (bootstrapStamp ext c) ≠ none) :
    ((shouldBootstrapLoad ext c).run world host).1.1 = .ok false ∨
      ∃ err, ((shouldBootstrapLoad ext c).run world host).1.1 = .error err ∧
        ((parseAndValidateTokenForUser ext c.config.joinURL c.config.token (lit "server")).run
          world host).1 = .error err := by
  unfold shouldBootstrapLoad
  split
  · exact .inl (by rw [checkStamp_present present])
  dsimp only
  split
  · exact .inl rfl
  simp only [Prog.bind_eq, Prog.run_bind]
  split
  · next validated =>
      left
      rw [checkStamp_present]
      rw [parseAndValidateTokenForUser, parseAndValidate_fs]
      exact present
  · next err failed =>
      split
      · simp only [Prog.run_bind, Driver.isInitialized_run]
        split
        · exact .inl rfl
        · exact .inr ⟨err, rfl, failed⟩
      · exact .inr ⟨err, rfl, failed⟩

/-- Where the stamp exists, `Bootstrap` loads nothing, whatever the drivers and the peers
answer: it sets `shouldBootstrap` false, or returns the error of `assignManagedDriver` or
of the token validation. -/
theorem Bootstrap_stamped {ext : Externals} {world : World} {host : Host} {c : Cluster}
    (present : host.fs.entry (bootstrapStamp ext c) ≠ none) :
    (∃ added, ((Bootstrap ext c).run world host).2.trace = host.trace ++ added ∧
        ∀ event ∈ added, ¬ event.1.loadsBootstrap ext) ∧
      (((Bootstrap ext c).run world host).1.1 = .ok () →
        ((Bootstrap ext c).run world host).1.2.shouldBootstrap = false) ∧
      ∀ err, ((Bootstrap ext c).run world host).1.1 = .error err →
        ((assignManagedDriver ext c).run world host).1.1 = .error err ∨
          ((assignManagedDriver ext c).run world host).1.1 = .ok () ∧
          ((parseAndValidateTokenForUser ext c.config.joinURL c.config.token (lit "server")).run
            world ((assignManagedDriver ext c).run world host).2).1 = .error err := by
  have stamped : ∀ {result c₁ host₁},
      (assignManagedDriver ext c).run world host = ((result, c₁), host₁) →
      c₁.config = c.config ∧ host₁.fs.entry (bootstrapStamp ext c₁) ≠ none := by
    intro result c₁ host₁ assigned
    have config := congrArg Cluster.config (assignManagedDriver_keeps assigned)
    have fs := assignManagedDriver_fs ext world host c
    rw [assigned] at fs
    exact ⟨config, by rw [bootstrapStamp, config, fs]; exact present⟩
  obtain ⟨added, trace, loading⟩ := Bootstrap_loads ext world host c
  refine ⟨⟨added, trace, fun event member loads => ?_⟩, ?_⟩
  · obtain ⟨c₁, host₁, c₂, host₂, assigned, decided, -⟩ := loading event member loads
    rcases shouldBootstrapLoad_stamped world (stamped assigned).2 with
      declined | ⟨_, failed, -⟩
    · simp [decided] at declined
    · simp [decided] at failed
  rw [Bootstrap_run]
  rcases assigned : (assignManagedDriver ext c).run world host with ⟨⟨err | ⟨⟩, c₁⟩, host₁⟩
  · exact ⟨nofun, fun _ failed => .inl failed⟩
  obtain ⟨config, present₁⟩ := stamped assigned
  dsimp only
  rw [← config]
  have stampedDecision := shouldBootstrapLoad_stamped world present₁
  rcases decision : (shouldBootstrapLoad ext c₁).run world host₁ with ⟨⟨err | _ | _, c₂⟩, host₂⟩
  all_goals simp only [decision] at stampedDecision
  · -- the validation failed, and `Bootstrap` returns its failure
    obtain ⟨_, failed, validated⟩ := stampedDecision.resolve_left nofun
    cases failed
    exact ⟨nofun, fun _ same => by cases same; exact .inr ⟨rfl, validated⟩⟩
  · exact ⟨fun _ => rfl, nofun⟩
  · simp at stampedDecision

/-! ## The stamp's contract -/

/--
Once `bootstrapped` has returned nil, the stamp exists, and every later `Bootstrap` with
the same stamp, from a filesystem that kept it, loads nothing, whatever the drivers and
the peers answer: it sets `shouldBootstrap` false, or returns the error of
`assignManagedDriver` or of the token validation. `bootstrapped` never fails because the
stamp exists: called again after a success it succeeds, and from a filesystem with no
file above the stamp it succeeds while other processes grow the filesystem as `Grows`
allows, in particular in every interleaving with another `bootstrapped` on the stamp.
-/
theorem stamp_settles_bootstrap (ext : Externals) (c : Cluster) :
    (∀ (world world' : World) (host host₁ later : Host) (c' : Cluster),
      RelyRun world (Grows (bootstrapStamp ext c)) (bootstrapped ext c) host (.ok ()) host₁ →
      bootstrapStamp ext c' = bootstrapStamp ext c →
      (∀ kind, host₁.fs.entry (bootstrapStamp ext c) = some kind →
        later.fs.entry (bootstrapStamp ext c) = some kind) →
      (∃ added, ((Bootstrap ext c').run world' later).2.trace = later.trace ++ added ∧
          ∀ event ∈ added, ¬ event.1.loadsBootstrap ext) ∧
        (((Bootstrap ext c').run world' later).1.1 = .ok () →
          ((Bootstrap ext c').run world' later).1.2.shouldBootstrap = false) ∧
        ∀ err, ((Bootstrap ext c').run world' later).1.1 = .error err →
          ((assignManagedDriver ext c').run world' later).1.1 = .error err ∨
            ((assignManagedDriver ext c').run world' later).1.1 = .ok () ∧
            ((parseAndValidateTokenForUser ext c'.config.joinURL c'.config.token
              (lit "server")).run world' ((assignManagedDriver ext c').run world' later).2).1 =
              .error err) ∧
    (∀ (world world' : World) (host host₁ host₂ : Host) (result : Except GoError Unit),
      RelyRun world (Grows (bootstrapStamp ext c)) (bootstrapped ext c) host (.ok ()) host₁ →
      RelyRun world' (Grows (bootstrapStamp ext c)) (bootstrapped ext c) host₁ result host₂ →
      result = .ok ()) ∧
    (∀ (world : World) (host host' : Host) (result : Except GoError Unit),
      StampReady (bootstrapStamp ext c) host.fs →
      RelyRun world (Grows (bootstrapStamp ext c)) (bootstrapped ext c) host result host' →
      result = .ok ()) ∧
    (∀ (c' : Cluster) (world₁ world₂ : World) (fs fs' : FS)
      (trace₁ trace₂ trace₁' trace₂' : Trace) (result₁ result₂ : Except GoError Unit),
      bootstrapStamp ext c' = bootstrapStamp ext c → StampReady (bootstrapStamp ext c) fs →
      Relation.ReflTransGen (Shared.Step world₁ world₂)
        ⟨bootstrapped ext c, bootstrapped ext c', fs, trace₁, trace₂⟩
        ⟨.pure result₁, .pure result₂, fs', trace₁', trace₂'⟩ →
      result₁ = .ok () ∧ result₂ = .ok ()) := by
  refine ⟨fun world world' host host₁ later c' ran same kept => ?_,
    fun world world' host host₁ host₂ result first again => ?_,
    fun world host host' result ready ran => (bootstrapped_rely ran).2 ready,
    fun c' world₁ world₂ fs fs' trace₁ trace₂ trace₁' trace₂' result₁ result₂ same ready ran =>
      (bootstrapped_interleaved same ready ran).imp_right And.left⟩
  · obtain ⟨kind, present⟩ := Option.ne_none_iff_exists'.mp ((bootstrapped_rely ran).1 rfl).2
    exact Bootstrap_stamped (by rw [same, kept kind present]; exact Option.some_ne_none _)
  · obtain ⟨dir, stamped⟩ := (bootstrapped_rely first).1 rfl
    exact bootstrapped_again dir stamped again

/-- The empty filesystem lets the sample joiner's stamp be made, and its first
`bootstrapped` succeeds. -/
theorem stamp_settles_bootstrap_sample :
    StampReady (bootstrapStamp Externals.sample Cluster.sampleJoiner) FS.empty ∧
      ((bootstrapped Externals.sample Cluster.sampleJoiner).run World.cooperative
        ⟨FS.empty, []⟩).1 = .ok () :=
  have ready : StampReady (bootstrapStamp Externals.sample Cluster.sampleJoiner) FS.empty :=
    fun dir _ => by simp only [FS.empty]; split <;> simp
  ⟨ready, (stamp_settles_bootstrap _ _).2.2.1 _ _ _ _ ready (RelyRun.of_run _ _)⟩

/-- A world in which no driver can tell whether its datastore is initialized. -/
def World.driversFail : World where
  answer := fun trace call =>
    match call with
    | .isInitialized .. => Except.error (.external (lit "connection refused"))
    | call => World.cooperative.answer trace call

/-- The sample joiner's host after its `bootstrapped` on an empty filesystem. -/
def Host.sampleStamped : Host :=
  ((bootstrapped Externals.sample Cluster.sampleJoiner).run World.cooperative
    ⟨FS.empty, []⟩).2

/-- After the stamp is made, a `Bootstrap` whose drivers fail returns their error, which
is no token-validation error: its only call is the failed `IsInitialized`. -/
theorem Bootstrap_stamped_driversFail :
    ((bootstrapped Externals.sample Cluster.sampleJoiner).run World.cooperative
        ⟨FS.empty, []⟩).1 = .ok () ∧
      ((Bootstrap Externals.sample Cluster.sampleJoiner).run World.driversFail
        Host.sampleStamped).1.1 = .error (.external (lit "connection refused")) ∧
      ((Bootstrap Externals.sample Cluster.sampleJoiner).run World.driversFail
        Host.sampleStamped).2.trace =
        Host.sampleStamped.trace ++
          [⟨.isInitialized ⟨0, lit "etcd"⟩ Cluster.sampleJoiner.config,
            (Except.error (.external (lit "connection refused")) : Except GoError Bool)⟩] :=
  ⟨rfl, rfl, rfl⟩

end K3sCluster
