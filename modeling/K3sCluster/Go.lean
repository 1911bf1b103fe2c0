import Mathlib.Data.List.Infix

namespace K3sCluster

/-!
# Go values of the cluster bootstrap code

Go strings are byte sequences and every `strings` function the code calls works on
bytes, so a string is a `List UInt8` here. `strings.SplitN` is the loop of the standard
library's `genSplit`, and `strings.Index` the first offset at which the separator starts.

The packages the code calls but does not contain (SHA-256, `net/url`, the version
package, the managed-driver registry) are parameters collected in `Externals`: every
result of the development holds for every choice of them.
-/

/-- A Go `string`: its bytes. -/
abbrev GoString := List UInt8

/-- A Go `[]byte`. -/
abbrev Bytes := List UInt8

/-- The bytes of a string literal of the source (UTF-8, as Go stores it). -/
def lit (s : String) : GoString :=
  s.toUTF8.data.toList

/-- The byte `':'`. -/
def colon : UInt8 := 58

/-- `strings.HasPrefix`. -/
def hasPrefix (s pre : GoString) : Bool :=
  pre.isPrefixOf s

/-- `strings.HasSuffix`. -/
def hasSuffix (s suffix : GoString) : Bool :=
  suffix.isSuffixOf s

/-- `strings.Index`: the first offset at which `sep` starts in `s`, `none` for `-1`. -/
def index (s sep : GoString) : Option Nat :=
  if sep.isPrefixOf s then some 0
  else
    match s with
    | [] => none
    | _ :: rest => (index rest sep).map (· + 1)

/--
A separator passed to `strings.SplitN`. Every call site passes a non-empty literal; the
empty separator, which splits into UTF-8 sequences, is outside the model.
-/
structure Separator where
  bytes : GoString
  nonempty : bytes ≠ []

/-- The separator `":"`. -/
def colonSep : Separator := ⟨[colon], by simp⟩

/-- The separator `"::"`. -/
def doubleColonSep : Separator := ⟨[colon, colon], by simp⟩

@[simp] theorem colonSep_bytes : colonSep.bytes = [colon] := rfl

@[simp] theorem doubleColonSep_bytes : doubleColonSep.bytes = [colon, colon] := rfl

/-- The loop of `genSplit`: at most `cuts` cuts, each at the first occurrence of `sep`. -/
def splitLoop (sep : GoString) : Nat → GoString → List GoString
  | 0, s => [s]
  | cuts + 1, s =>
      match index s sep with
      | none => [s]
      | some m => s.take m :: splitLoop sep cuts (s.drop (m + sep.length))

/-- `strings.SplitN(s, sep, n)` for `n ≥ 0`, through `genSplit`'s bound `n ≤ len(s)+1`. -/
def splitN (s : GoString) (sep : Separator) (n : Nat) : List GoString :=
  if n = 0 then [] else splitLoop sep.bytes (min n (s.length + 1) - 1) s

/-- The digits of `encoding/hex`. -/
def hexTable : GoString := lit "0123456789abcdef"

/-- `hex.EncodeToString`: two lowercase digits per byte, high nibble first. -/
def hexEncodeToString (b : Bytes) : GoString :=
  b.flatMap fun x => [hexTable.getD (x >>> 4).toNat 0, hexTable.getD (x &&& 15).toNat 0]

/--
The loop `for strings.HasSuffix(p, "/") { p = p[:len(p)-1] }`, run for at most `fuel`
rounds; each round removes a byte, so `p.length` rounds are the whole loop.
-/
def trimSlashes : Nat → GoString → GoString
  | 0, p => p
  | fuel + 1, p => if hasSuffix p (lit "/") then trimSlashes fuel p.dropLast else p

/-! ## The search behind `strings.SplitN` -/

/-- The separator is found right after a prefix that does not contain its first byte. -/
theorem index_append_of_not_mem
    {a rest b : GoString} {first : UInt8}
    (absent : first ∉ a) :
    index (a ++ (first :: rest) ++ b) (first :: rest) = some a.length := by
  induction a with
  | nil =>
      simp [index]
  | cons c a inductionHypothesis =>
      simp only [List.mem_cons, not_or] at absent
      have later := inductionHypothesis absent.2
      simp only [List.append_assoc, List.cons_append] at later
      simp [index, List.isPrefixOf, absent.1, later]

/-- With two pieces, `strings.SplitN` cuts once, at the first occurrence. -/
theorem splitN_two (s : GoString) (sep : Separator) :
    splitN s sep 2 =
      match index s sep.bytes with
      | none => [s]
      | some m => [s.take m, s.drop (m + sep.bytes.length)] := by
  cases s with
  | nil =>
      have notPrefix : sep.bytes.isPrefixOf [] = false := by
        cases h : sep.bytes with
        | nil => exact absurd h sep.nonempty
        | cons _ _ => rfl
      simp [splitN, splitLoop, index, notPrefix]
  | cons c s =>
      have cuts : min 2 ((c :: s).length + 1) - 1 = 1 := by simp
      simp only [splitN, cuts]
      cases found : index (c :: s) sep.bytes <;> simp [splitLoop, found]

/-- The first piece of `strings.SplitN(s, ":", 2)` is the text before the first `':'`. -/
theorem splitN_colon_head (s : GoString) :
    (splitN s colonSep 2).headD [] = s.takeWhile (· ≠ colon) := by
  induction s with
  | nil =>
      rfl
  | cons c s inductionHypothesis =>
      rw [splitN_two] at inductionHypothesis ⊢
      by_cases isColon : c = colon
      · subst isColon
        simp [colonSep, index, List.isPrefixOf]
      · have skip : index (c :: s) colonSep.bytes = (index s colonSep.bytes).map (· + 1) := by
          simp [colonSep, index, List.isPrefixOf, Ne.symm isColon]
        rw [skip]
        cases found : index s colonSep.bytes <;>
          simp only [found, List.headD] at inductionHypothesis <;>
          simpa [List.takeWhile_cons, isColon] using inductionHypothesis

/-! ## Hex digits and trailing slashes -/

/-- A hex encoding never contains `':'`. -/
theorem colon_not_mem_hexEncodeToString (b : Bytes) :
    colon ∉ hexEncodeToString b := by
  have digit : ∀ i, hexTable.getD i 0 ≠ colon := by
    intro i
    rw [List.getD_eq_getElem?_getD]
    cases entry : hexTable[i]? with
    | none => decide
    | some d =>
        have member := List.getElem?_mem entry
        intro same
        subst same
        exact absurd member (by decide)
  simp only [hexEncodeToString, List.mem_flatMap, List.mem_cons, List.mem_singleton,
    List.not_mem_nil, or_false, not_exists, not_and]
  intro x _ isDigit
  rcases isDigit with high | low
  · exact digit _ high.symm
  · exact digit _ low.symm

/-- A filesystem path as its components, innermost first: the parent of a path is its
tail, and the root is `[]`. -/
abbrev Path := List GoString

/-- The `syscall.Errno` values the filesystem model produces. -/
inductive Errno where
  | eexist
  | enoent
  | enotdir
  | eisdir
  deriving DecidableEq, Repr

/-- A Go `error`, as far as the code inspects or builds one. -/
inductive GoError where
  /-- `clientaccess.ErrServiceUnavailable`, the one error compared with `errors.Is`. -/
  | serviceUnavailable
  /-- An error made by `fmt.Errorf`, known by its text. -/
  | message (text : GoString)
  /-- `errors.Wrap(cause, context)` and `errors.Wrapf`. -/
  | wrap (context : GoString) (cause : GoError)
  /-- An error of a library or collaborator outside the model, known by its text. -/
  | external (text : GoString)
  /-- An `*os.PathError`. -/
  | pathError (op : GoString) (path : Path) (errno : Errno)
  /-- The run-time panic of dereferencing a nil pointer, which the code never recovers. -/
  | nilDereference
  deriving DecidableEq, Repr

/-- `errors.Is(err, clientaccess.ErrServiceUnavailable)`: the sentinel under any wrappers. -/
def GoError.isServiceUnavailable : GoError → Bool
  | .serviceUnavailable => true
  | .wrap _ cause => cause.isServiceUnavailable
  | _ => false

/-- A path as `filepath.Join` writes it, from the root. -/
def Path.string : Path → GoString
  | [] => lit "/"
  | [name] => lit "/" ++ name
  | name :: parent => Path.string parent ++ lit "/" ++ name

/-- `syscall.Errno.Error()` on Linux. -/
def Errno.text : Errno → GoString
  | .eexist => lit "file exists"
  | .enoent => lit "no such file or directory"
  | .enotdir => lit "not a directory"
  | .eisdir => lit "is a directory"

/-- `err.Error()`; a path error is `op + " " + path + ": " + errno`, as
`(*os.PathError).Error` writes it. -/
def GoError.text : GoError → GoString
  | .serviceUnavailable => lit "service unavailable"
  | .message text => text
  | .wrap context cause => context ++ lit ": " ++ cause.text
  | .external text => text
  | .pathError op path errno => op ++ lit " " ++ path.string ++ lit ": " ++ errno.text
  | .nilDereference => lit "runtime error: invalid memory address or nil pointer dereference"

/-! ## Packages outside the code -/

/-- A parsed `net/url.URL`, with the fields the code reads or writes. -/
structure URL where
  scheme : GoString
  host : GoString
  path : GoString
  deriving DecidableEq, Repr

/--
A registered `managed.Driver`: an interface value, told apart from others by `identity`
even when two share an endpoint name. `EndpointName()` is its one method without effects.
-/
structure Driver where
  identity : Nat
  endpointName : GoString
  deriving DecidableEq, Repr

/-- What the code takes from packages it does not contain. -/
structure Externals where
  /-- `sha256.Sum256`. -/
  sha256 : Bytes → Bytes
  /-- `url.Parse`; a failure is known by its text. -/
  parseURL : GoString → Except GoString URL
  /-- `(*url.URL).String`. -/
  urlString : URL → GoString
  /-- `keyHash` of package `cluster`: the stamp's name for a raw token. -/
  keyHash : GoString → GoString
  /-- `version.Program`. -/
  program : GoString
  /-- `version.ProgramUpper`. -/
  programUpper : GoString
  /-- `managed.Registered()`, in registration order. -/
  registered : List Driver
  /-- `managed.Default()`: the endpoint name of the default driver. -/
  defaultDriver : GoString

/--
One choice of the external packages, to evaluate the model on concrete inputs: a digest
that returns its input, a URL parser that splits `scheme://host`, and one `etcd` driver.
-/
def Externals.sample : Externals where
  sha256 := id
  parseURL := fun s =>
    match index s (lit "://") with
    | some m => .ok { scheme := s.take m, host := s.drop (m + 3), path := [] }
    | none => .error (lit "missing protocol scheme")
  urlString := fun u => u.scheme ++ lit "://" ++ u.host ++ u.path
  keyHash := id
  program := lit "k3s"
  programUpper := lit "K3S"
  registered := [⟨0, lit "etcd"⟩]
  defaultDriver := lit "etcd"

end K3sCluster
