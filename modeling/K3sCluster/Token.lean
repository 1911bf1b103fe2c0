import K3sCluster.Go

namespace K3sCluster

/-!
# Join tokens

`parseToken` of package `clientaccess` reads `K10<caHash>::<username>:<password>` with two
calls of `strings.SplitN`. A token without the `K10` prefix is first rewritten to
`K10:::<token>`, so that it reads as a bare password. `Info.String` writes the same format
back, with the hash of the CA bundle in the hash segment.

`decode` is the two-stage split in the words of the specification, with its own
first-occurrence search `cutAtFirst`; `parseToken_eq_decode` shows the code computes it.
-/

/-- `clientaccess.Info`; `caHash` is the unexported field that only `parseToken` fills. -/
structure Info where
  caCerts : Bytes
  baseURL : GoString
  username : GoString
  password : GoString
  caHash : GoString
  deriving DecidableEq, Repr

/-- `tokenPrefix`. -/
def tokenPrefix : GoString := lit "K10"

/-- `fmt.Sprintf(tokenFormat, ...)` with `tokenFormat = "%s%s::%s:%s"`. -/
def tokenFormat (pre hash username password : GoString) : GoString :=
  pre ++ hash ++ lit "::" ++ username ++ lit ":" ++ password

/-- `hashCA`: the hex SHA-256 digest of a CA bundle. -/
def hashCA (ext : Externals) (cacerts : Bytes) : GoString :=
  hexEncodeToString (ext.sha256 cacerts)

/-- `(*Info).String`: the token for `info`, pinning the hash of its CA bundle. -/
def Info.string (ext : Externals) (info : Info) : GoString :=
  tokenFormat tokenPrefix (hashCA ext info.caCerts) info.username info.password

/-- The error `parseToken` returns when the user/password separator is missing. -/
def invalidTokenFormat : GoError :=
  .message (lit "invalid token format")

/-- `parseToken`. -/
def parseToken (token : GoString) : Except GoError Info :=
  let token :=
    if hasPrefix token tokenPrefix then token else tokenFormat tokenPrefix [] [] token
  let token := token.drop tokenPrefix.length
  let (caHash, token) :=
    match splitN token doubleColonSep 2 with
    | hash :: rest :: _ => (hash, rest)
    | parts => ([], parts.headD [])
  match splitN token colonSep 2 with
  | [username, password] =>
      .ok { caCerts := [], baseURL := [], username, password, caHash }
  | _ => .error invalidTokenFormat

/-- `ParseUsernamePassword`. -/
def parseUsernamePassword (token : GoString) : GoString × GoString × Bool :=
  match parseToken token with
  | .error _ => ([], [], false)
  | .ok info => (info.username, info.password, true)

/-- `validateCACerts`: whether the bundle matches the hash, and the bundle's hash. -/
def validateCACerts (ext : Externals) (cacerts : Bytes) (hash : GoString) :
    Bool × GoString :=
  if cacerts = [] ∧ hash = [] then (true, [])
  else
    let newHash := hashCA ext cacerts
    (decide (hash = newHash), newHash)

/-- `(*Info).validateCAHash`. -/
def Info.validateCAHash (ext : Externals) (info : Info) : Except GoError Unit :=
  let (ok, serverHash) := validateCACerts ext info.caCerts info.caHash
  if ok then .ok ()
  else
    .error (.message (lit "token CA hash does not match the server CA hash: " ++
      info.caHash ++ lit " != " ++ serverHash))

@[simp] theorem lit_colon : lit ":" = [colon] := rfl

@[simp] theorem lit_doubleColon : lit "::" = [colon, colon] := rfl

@[simp] theorem tokenPrefix_length : tokenPrefix.length = 3 := rfl

/-! ## The specification's decoder -/

/-- Cut `s` at the first occurrence of `sep`, if there is one. -/
def cutAtFirst (sep : GoString) : GoString → Option (GoString × GoString)
  | [] => if sep.isPrefixOf [] then some ([], []) else none
  | c :: rest =>
      if sep.isPrefixOf (c :: rest) then some ([], (c :: rest).drop sep.length)
      else (cutAtFirst sep rest).map fun (before, after) => (c :: before, after)

/-- The two-stage `Decode` of section 4.1 of the specification. -/
def decode (raw : GoString) : Except GoError Info :=
  if tokenPrefix.isPrefixOf raw then
    let remainder := raw.drop tokenPrefix.length
    let (caHash, rest) := (cutAtFirst (lit "::") remainder).getD ([], remainder)
    match cutAtFirst (lit ":") rest with
    | some (username, password) =>
        .ok { caCerts := [], baseURL := [], username, password, caHash }
    | none => .error invalidTokenFormat
  else
    .ok { caCerts := [], baseURL := [], username := [], password := raw, caHash := [] }

/-- `cutAtFirst` cuts where `strings.Index` finds the separator. -/
theorem cutAtFirst_eq_index (sep s : GoString) :
    cutAtFirst sep s =
      (index s sep).map fun m => (s.take m, s.drop (m + sep.length)) := by
  induction s with
  | nil =>
      by_cases isPrefix : sep.isPrefixOf [] <;> simp [cutAtFirst, index, isPrefix]
  | cons c s inductionHypothesis =>
      by_cases isPrefix : sep.isPrefixOf (c :: s)
      · simp [cutAtFirst, index, isPrefix]
      · simp only [cutAtFirst, index, isPrefix, inductionHypothesis]
        cases index s sep <;> simp [Nat.add_right_comm _ 1]

/-- With two pieces, `strings.SplitN` is the specification's first cut. -/
theorem splitN_two_eq_cutAtFirst (s : GoString) (sep : Separator) :
    splitN s sep 2 =
      match cutAtFirst sep.bytes s with
      | none => [s]
      | some (before, after) => [before, after] := by
  rw [splitN_two, cutAtFirst_eq_index]
  cases index s sep.bytes <;> rfl

/-- The cut exists exactly when the separator occurs. -/
theorem cutAtFirst_eq_none_iff (sep s : GoString) :
    cutAtFirst sep s = none ↔ ¬ sep <:+: s := by
  induction s with
  | nil =>
      cases sep <;> simp [cutAtFirst]
  | cons c s inductionHypothesis =>
      by_cases isPrefix : sep.isPrefixOf (c :: s)
      · simp only [cutAtFirst, isPrefix, if_true, reduceCtorEq, false_iff, not_not]
        exact (List.isPrefixOf_iff_prefix.mp isPrefix).isInfix
      · have notPrefix : ¬ sep <+: c :: s := fun h =>
          isPrefix (List.isPrefixOf_iff_prefix.mpr h)
        simp [cutAtFirst, isPrefix, inductionHypothesis, List.infix_cons_iff, notPrefix]

/-- A cut is at the first occurrence: no decomposition around the separator has a shorter
part before it. -/
theorem cutAtFirst_eq_some
    {sep s before after : GoString}
    (cut : cutAtFirst sep s = some (before, after)) :
    s = before ++ sep ++ after ∧
      ∀ earlier later, s = earlier ++ sep ++ later → before.length ≤ earlier.length := by
  induction s generalizing before after with
  | nil =>
      simp only [cutAtFirst] at cut
      split at cut
      · next isPrefix =>
          cases cut
          have empty : sep = [] := by simpa using isPrefix
          simp [empty]
      · cases cut
  | cons c s inductionHypothesis =>
      simp only [cutAtFirst] at cut
      split at cut
      · next isPrefix =>
          cases cut
          refine ⟨?_, fun _ _ _ => Nat.zero_le _⟩
          simpa using (List.prefix_iff_eq_append.mp (List.isPrefixOf_iff_prefix.mp isPrefix)).symm
      · next notPrefix =>
          obtain ⟨⟨before', after'⟩, cut', same⟩ := Option.map_eq_some'.mp cut
          cases same
          obtain ⟨shape, first⟩ := inductionHypothesis cut'
          refine ⟨by simp [shape], fun earlier later whole => ?_⟩
          cases earlier with
          | nil =>
              exact absurd (List.isPrefixOf_iff_prefix.mpr ⟨later, whole.symm⟩) notPrefix
          | cons c' earlier =>
              simp only [List.cons_append, List.cons.injEq] at whole
              simpa using first earlier later whole.2

/-- `parseToken` computes the specification's two-stage decoder, on every string. -/
theorem parseToken_eq_decode (t : GoString) :
    parseToken t = decode t := by
  unfold parseToken decode
  by_cases tagged : tokenPrefix.isPrefixOf t
  · simp only [hasPrefix, tagged, if_true, tokenPrefix_length, splitN_two_eq_cutAtFirst,
      colonSep_bytes, doubleColonSep_bytes, lit_colon, lit_doubleColon]
    cases cutAtFirst [colon, colon] (t.drop 3) with
    | none =>
        dsimp only [Option.getD_none, List.headD]
        cases cutAtFirst [colon] (t.drop 3) <;> rfl
    | some pieces =>
        dsimp only [Option.getD_some]
        cases cutAtFirst [colon] pieces.2 <;> rfl
  · -- an untagged token is read as the password alone
    have formatted : (tokenFormat tokenPrefix [] [] t).drop tokenPrefix.length =
        colon :: colon :: colon :: t := rfl
    have hashCut : cutAtFirst [colon, colon] (colon :: colon :: colon :: t) =
        some ([], colon :: t) := by
      simp [cutAtFirst]
    have userCut : cutAtFirst [colon] (colon :: t) = some ([], t) := by
      simp [cutAtFirst]
    simp only [hasPrefix, tagged, Bool.false_eq_true, if_false, splitN_two_eq_cutAtFirst,
      colonSep_bytes, doubleColonSep_bytes, formatted, hashCut, userCut]

/-! ## Round trip -/

/-- A token written by `Info.String` reads back with the bundle's hash, the username and
the password, whenever the username holds no `':'`. -/
theorem parseToken_string
    (ext : Externals) (info : Info)
    (usernameClean : colon ∉ info.username) :
    parseToken (info.string ext) =
        .ok { caCerts := [], baseURL := [], username := info.username,
              password := info.password, caHash := hashCA ext info.caCerts } ∧
      parseUsernamePassword (info.string ext) = (info.username, info.password, true) := by
  have hashClean : colon ∉ hashCA ext info.caCerts :=
    colon_not_mem_hexEncodeToString (ext.sha256 info.caCerts)
  have tagged : hasPrefix (info.string ext) tokenPrefix = true := by
    simp [hasPrefix, Info.string, tokenFormat]
  have stripped :
      (info.string ext).drop tokenPrefix.length =
        hashCA ext info.caCerts ++ [colon, colon] ++
          (info.username ++ [colon] ++ info.password) := by
    simp [Info.string, tokenFormat, tokenPrefix]
  have hashCut :
      splitN ((info.string ext).drop tokenPrefix.length) doubleColonSep 2 =
        [hashCA ext info.caCerts, info.username ++ [colon] ++ info.password] := by
    rw [splitN_two, stripped, doubleColonSep_bytes, index_append_of_not_mem hashClean]
    simp
  have userCut :
      splitN (info.username ++ [colon] ++ info.password) colonSep 2 =
        [info.username, info.password] := by
    rw [splitN_two, colonSep_bytes, index_append_of_not_mem usernameClean]
    simp
  have parsed :
      parseToken (info.string ext) =
        .ok { caCerts := [], baseURL := [], username := info.username,
              password := info.password, caHash := hashCA ext info.caCerts } := by
    unfold parseToken
    simp only [tagged, if_true, hashCut, userCut]
  refine ⟨parsed, ?_⟩
  unfold parseUsernamePassword
  rw [parsed]

/-- The round trip at a password holding both separators. -/
theorem parseToken_string_sample :
    colon ∉ lit "server" ∧
      parseToken (Info.string Externals.sample
          ⟨lit "ca", [], lit "server", lit "p:a::ss", []⟩) =
        .ok { caCerts := [], baseURL := [], username := lit "server",
              password := lit "p:a::ss", caHash := hashCA Externals.sample (lit "ca") } ∧
      parseUsernamePassword (Info.string Externals.sample
          ⟨lit "ca", [], lit "server", lit "p:a::ss", []⟩) =
        (lit "server", lit "p:a::ss", true) :=
  ⟨by decide, parseToken_string Externals.sample _ (by decide)⟩

end K3sCluster
