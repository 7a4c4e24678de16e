import Mathlib

/-!
# Verifying a JWT

`KeyStore.verifyJwt` has jose verify a token with the key that `getCachedKey` selects, then
checks the token's audience, lifetime and `parameters` against that key's options.

`getCachedKey` runs two loops over the collected keys.  When the header has a `kid`, the
first key with that kid is the key, and it must match the token's algorithm: no other key
is tried.  Otherwise the first wildcard key, one without a kid, that matches the algorithm
and whose signature check passes is the key.  The first loop runs under `if (kid)`, and the
empty kid is falsy, so a token whose kid is `""` goes to the wildcard loop even when a key
has that kid (`getCachedKey_empty_kid`).

## What is transcribed and what is ours

* `getCachedKey`, `verifyInternal` and `verifyJwt` follow the code, with the codes and texts
  of their errors.  `checkAudience`, `checkLifetime` and `checkParameters` are the three
  checks of `verifyJwt`, named.
* `KeySpec`, `secs` and `SUPPORTED_ALGORITHMS` are not in the sources.  A key is its kid,
  its options and its two checks on a token, `matchesAlgorithm` and `isValidSignature`,
  which the model takes as given; `secs` and the algorithm list are parameters (`AuthEnv`).
* jose's `jwtVerify` is modelled from the spec, in the order jose makes its checks: the
  algorithm allowlist, the key, the signature with that key, the required claims, then the
  claims' times against the clock, which are a parameter.  `mapAuthError` is not in the
  sources either; errors pass through it unchanged.
* JSON numbers are integers.

`getCachedKey_ok` says which key `getCachedKey` returns, for every collection and header,
and `verifyJwt_ok` what every accepted token satisfies.
-/

namespace PowerSync

/-! ## JSON values -/

/-- A JSON value of a token's payload. -/
inductive JsonValue
  | null
  | bool (b : Bool)
  | number (n : Int)
  | string (s : String)
  | array (xs : List JsonValue)
  | object (fields : List (String × JsonValue))
deriving Repr

/-- `JSON.stringify` of one character of a string. -/
def jsonEscape (c : Char) : List Char :=
  if c = '\x22' ∨ c = '\\' then ['\\', c]
  else if c = '\n' then ['\\', 'n']
  else if c = '\r' then ['\\', 'r']
  else if c = '\t' then ['\\', 't']
  else if c = '\x08' then ['\\', 'b']
  else if c = '\x0c' then ['\\', 'f']
  else if c.toNat < 0x20 then ['\\', 'u', '0', '0'] ++ (Nat.toDigits 16 c.toNat).leftpad 2 '0'
  else [c]

/-- `JSON.stringify(s)` for a string `s`. -/
def quoteJson (s : String) : String := ⟨'\x22' :: s.data.flatMap jsonEscape ++ ['\x22']⟩

mutual

/-- `JSON.stringify(value)`. -/
def JsonValue.stringify : JsonValue → String
  | .null => "null"
  | .bool b => toString b
  | .number n => toString n
  | .string s => quoteJson s
  | .array xs => "[" ++ stringifyElements xs ++ "]"
  | .object fields => "\x7b" ++ stringifyMembers fields ++ "\x7d"

/-- The elements of an array, between commas. -/
def stringifyElements : List JsonValue → String
  | [] => ""
  | [x] => x.stringify
  | x :: xs => x.stringify ++ "," ++ stringifyElements xs

/-- The members of an object, between commas. -/
def stringifyMembers : List (String × JsonValue) → String
  | [] => ""
  | [(k, v)] => quoteJson k ++ ":" ++ v.stringify
  | (k, v) :: fields => quoteJson k ++ ":" ++ v.stringify ++ "," ++ stringifyMembers fields

end

/-- A claim as a list: `if (!Array.isArray(aud)) aud = [aud]`. -/
def JsonValue.asList : JsonValue → List JsonValue
  | .array xs => xs
  | v => [v]

/-- `audiences.includes(a)`: strict equality, so only a string is included. -/
def includes (audiences : List String) : JsonValue → Bool
  | .string s => audiences.contains s
  | _ => false

/-! ## Tokens and keys -/

/-- The error codes `verifyJwt` throws. -/
inductive ErrorCode
  | PSYNC_S2101
  | PSYNC_S2104
  | PSYNC_S2105
deriving DecidableEq, Repr

/-- An `AuthorizationError` with its code and description, or an error of jose. -/
inductive AuthError
  | authorization (code : ErrorCode) (description : String)
  | jose (code : String) (message : String)
deriving DecidableEq, Repr

/-- The header fields of a token that the code reads. -/
structure JwtHeader where
  alg : String
  kid : Option String

/-- The claims of a token that the code and jose read.  `iat` and `exp` are numbers where
present, which jose checks. -/
structure JwtPayload where
  sub : Option JsonValue
  aud : Option JsonValue
  iat : Option Int
  exp : Option Int
  parameters : Option JsonValue
deriving Repr

/-- `claim in payload`, for the claims the code requires. -/
def JwtPayload.has (p : JwtPayload) : String → Bool
  | "sub" => p.sub.isSome
  | "iat" => p.iat.isSome
  | "exp" => p.exp.isSome
  | "aud" => p.aud.isSome
  | "parameters" => p.parameters.isSome
  | _ => false

/-- A token, decoded: its header, its payload and its signature. -/
structure Token where
  header : JwtHeader
  payload : JwtPayload
  signature : String

/-- `KeyOptions`. -/
structure KeyOptions where
  requiresAudience : Option (List String) := none
  maxLifetimeSeconds : Option Int := none

/-- Modelled from the spec: a `KeySpec`, as the key store uses it.  Its kid, its options,
and its checks of a token's algorithm and signature, which the model takes as given. -/
structure KeySpec where
  kid : Option String
  options : KeyOptions
  matchesAlgorithm : String → Bool
  isValidSignature : Token → Bool

/-- What `collector.getKeys()` returns. -/
structure KeyResult where
  keys : List KeySpec
  errors : List AuthError

/-- What `verifyJwt` takes from outside the sources: `SUPPORTED_ALGORITHMS`, jose's checks of
`iat`, `nbf` and `exp` against the clock with a tolerance in seconds, and `secs`. -/
structure AuthEnv where
  SUPPORTED_ALGORITHMS : List String
  claimTimesError : Int → JwtPayload → Option AuthError
  secs : String → Int

/-- The `jose.JWTVerifyOptions` that `verifyJwt` sets. -/
structure JWTVerifyOptions where
  clockTolerance : Int
  algorithms : List String
  requiredClaims : List String

/-- The options of `verifyJwt`. -/
structure VerifyJwtOptions where
  defaultAudiences : List String
  maxAge : String

/-! ## Selecting the key -/

/-- The first loop of `getCachedKey`, under `if (kid)`: the first key with the header's kid. -/
def keyWithKid (keys : List KeySpec) : Option String → Option KeySpec
  | some kid => if kid = "" then none else keys.find? (·.kid == some kid)
  | none => none

/-- The test of the second loop of `getCachedKey`: a wildcard key that matches the
algorithm and whose signature check passes. -/
def KeySpec.acceptsAsWildcard (header : JwtHeader) (token : Token) (key : KeySpec) : Bool :=
  key.kid.isNone && key.matchesAlgorithm header.alg && key.isValidSignature token

/-- The error when no key is found. -/
def keyNotFound : AuthError :=
  .authorization .PSYNC_S2101 ("Could not find an appropriate key in the keystore. " ++
    "The key is missing or no key matched the token KID")

/-- `getCachedKey(token, header)`.  Each loop returns the first key that passes its test. -/
def getCachedKey (collected : KeyResult) (token : Token) (header : JwtHeader) :
    Except AuthError KeySpec :=
  let alg := header.alg
  match keyWithKid collected.keys header.kid with
  | some key =>
    if !key.matchesAlgorithm alg then
      .error (.authorization .PSYNC_S2101 s!"Unexpected token algorithm {alg}")
    else .ok key
  | none =>
    match collected.keys.find? (KeySpec.acceptsAsWildcard header token) with
    | some key => .ok key
    | none =>
      match collected.errors with
      | e :: _ => .error e
      | [] => .error keyNotFound

/-! ## Verifying the token -/

/-- Modelled from the spec: jose's `jwtVerify(token, getKey, options)`, in jose's order of
checks.  It returns the payload and the key that `getKey` gave, which `verifyInternal`
reads back through its callback. -/
def jwtVerify (env : AuthEnv) (token : Token) (getKey : JwtHeader → Except AuthError KeySpec)
    (options : JWTVerifyOptions) : Except AuthError (JwtPayload × KeySpec) :=
  if !options.algorithms.contains token.header.alg then
    .error (.jose "ERR_JOSE_ALG_NOT_ALLOWED"
      "\"alg\" (Algorithm) Header Parameter value not allowed")
  else do
    let key ← getKey token.header
    if !key.isValidSignature token then
      .error (.jose "ERR_JWS_SIGNATURE_VERIFICATION_FAILED" "signature verification failed")
    else
      match options.requiredClaims.find? (!token.payload.has ·) with
      | some claim =>
        .error (.jose "ERR_JWT_CLAIM_VALIDATION_FAILED" s!"missing required \"{claim}\" claim")
      | none =>
        match env.claimTimesError options.clockTolerance token.payload with
        | some e => .error e
        | none => .ok (token.payload, key)

/-- `verifyInternal(token, options)`: the payload, and the options of the key that
verified it. -/
def verifyInternal (env : AuthEnv) (collected : KeyResult) (token : Token)
    (options : JWTVerifyOptions) : Except AuthError (JwtPayload × KeyOptions) := do
  let (payload, key) ← jwtVerify env token (getCachedKey collected token) options
  pure (payload, key.options)

/-- The audience check of `verifyJwt`. -/
def checkAudience (audiences : List String) : Option JsonValue → Except AuthError Unit
  | none | some .null =>
    .error (.authorization .PSYNC_S2105 "JWT payload is missing a required claim \"aud\"")
  | some aud =>
    if aud.asList.any (includes audiences) then .ok ()
    else
      let value := aud.stringify
      .error (.authorization .PSYNC_S2105 s!"Unexpected \"aud\" claim value: {value}")

/-- The lifetime check of `verifyJwt`.  Without `exp` or `iat` the duration is `NaN`, and
`NaN > maxAge` is false. -/
def checkLifetime (maxAge : Int) : Option Int → Option Int → Except AuthError Unit
  | some exp, some iat =>
    let tokenDuration := exp - iat
    if tokenDuration > maxAge then
      .error (.authorization .PSYNC_S2104
        s!"Token must expire in a maximum of {maxAge} seconds, got {tokenDuration}s")
    else .ok ()
  | _, _ => .ok ()

/-- The `parameters` check of `verifyJwt`: `parameters != null && (Array.isArray(parameters)
|| typeof parameters != 'object')` throws. -/
def checkParameters : Option JsonValue → Except AuthError Unit
  | none | some .null | some (.object _) => .ok ()
  | some _ => .error (.authorization .PSYNC_S2101 "Payload parameters must be an object")

/-- The options `verifyJwt` passes to jose. -/
def verifyJwtOptions (env : AuthEnv) : JWTVerifyOptions :=
  ⟨60, env.SUPPORTED_ALGORITHMS, ["sub", "iat", "exp"]⟩

/-- `verifyJwt(token, options)`.  `if (keyOptions.requiresAudience)` takes any array, since
arrays are truthy. -/
def verifyJwt (env : AuthEnv) (collected : KeyResult) (token : Token)
    (options : VerifyJwtOptions) : Except AuthError JwtPayload := do
  let (tokenPayload, keyOptions) ← verifyInternal env collected token (verifyJwtOptions env)
  let audiences := keyOptions.requiresAudience.getD options.defaultAudiences
  checkAudience audiences tokenPayload.aud
  checkLifetime (keyOptions.maxLifetimeSeconds.getD (env.secs options.maxAge))
    tokenPayload.exp tokenPayload.iat
  checkParameters tokenPayload.parameters
  pure tokenPayload

/-! ## Which key -/

theorem except_bind_eq_ok {ε α β : Type} {x : Except ε α} {f : α → Except ε β} {b : β} :
    x >>= f = .ok b ↔ ∃ a, x = .ok a ∧ f a = .ok b := by
  cases x <;> simp [bind, Except.bind]

section Key

variable {keys : List KeySpec} {collected : KeyResult} {token : Token} {header : JwtHeader}
  {K : KeySpec}

theorem keyWithKid_eq_some {kid : Option String} :
    keyWithKid keys kid = some K ↔
      ∃ k, kid = some k ∧ k ≠ "" ∧ keys.find? (·.kid == some k) = some K := by
  cases kid with
  | none => simp only [keyWithKid, reduceCtorEq, false_and, exists_false]
  | some k =>
    by_cases hk : k = "" <;>
      simp only [keyWithKid, hk, if_true, if_false, reduceCtorEq, Option.some.injEq, ne_eq,
        exists_eq_left', not_true_eq_false, not_false_eq_true, false_and, true_and]

theorem keyWithKid_eq_none {kid : Option String} :
    keyWithKid keys kid = none ↔
      ∀ k, kid = some k → k ≠ "" → ∀ key ∈ keys, key.kid ≠ some k := by
  cases kid with
  | none => simp only [keyWithKid, reduceCtorEq, false_implies, implies_true]
  | some k =>
    by_cases hk : k = "" <;>
      simp only [keyWithKid, hk, if_true, if_false, List.find?_eq_none, beq_iff_eq,
        Option.some.injEq, ne_eq, forall_eq', not_true_eq_false, not_false_eq_true, false_implies,
        forall_const]

/-- `getCachedKey` returns the key of the first loop when it matches the algorithm, or, when
the first loop finds no key, the key of the second. -/
theorem getCachedKey_ok :
    getCachedKey collected token header = .ok K ↔
      (keyWithKid collected.keys header.kid = some K ∧ K.matchesAlgorithm header.alg = true) ∨
      (keyWithKid collected.keys header.kid = none ∧
        collected.keys.find? (KeySpec.acceptsAsWildcard header token) = some K) := by
  unfold getCachedKey
  cases hk : keyWithKid collected.keys header.kid with
  | some key =>
    by_cases hm : key.matchesAlgorithm header.alg = true
    · simp only [hm, Bool.not_true, Bool.false_eq_true, if_false, Except.ok.injEq,
        Option.some.injEq, reduceCtorEq, false_and, or_false]
      exact ⟨fun h ↦ ⟨h, h ▸ hm⟩, And.left⟩
    · simp only [hm, Bool.not_false, if_true, reduceCtorEq, false_iff, Option.some.injEq,
        false_and, or_false, not_and]
      rintro rfl
      exact hm
  | none =>
    cases hw : collected.keys.find? (KeySpec.acceptsAsWildcard header token) with
    | some key => simp
    | none => cases collected.errors <;> simp

theorem acceptsAsWildcard_eq_true :
    K.acceptsAsWildcard header token = true ↔
      K.kid = none ∧ K.matchesAlgorithm header.alg = true ∧
        K.isValidSignature token = true := by
  simp [KeySpec.acceptsAsWildcard, and_assoc]

/-- For a header whose kid is not `""`: the key is the first key with the header's kid,
and matches the algorithm; or no key has the header's kid, and the key is a wildcard key
that matches the algorithm and whose signature check passes. -/
theorem getCachedKey_selects (hkid : header.kid ≠ some "")
    (h : getCachedKey collected token header = .ok K) :
    (∃ kid, header.kid = some kid ∧ collected.keys.find? (·.kid == some kid) = some K ∧
        K.matchesAlgorithm header.alg = true) ∨
      ((∀ kid, header.kid = some kid → ∀ key ∈ collected.keys, key.kid ≠ some kid) ∧
        K ∈ collected.keys ∧ K.kid = none ∧ K.matchesAlgorithm header.alg = true ∧
        K.isValidSignature token = true) := by
  rcases getCachedKey_ok.mp h with ⟨hk, hm⟩ | ⟨hk, hw⟩
  · obtain ⟨kid, hkid, -, hf⟩ := keyWithKid_eq_some.mp hk
    exact .inl ⟨kid, hkid, hf, hm⟩
  · refine .inr ⟨fun kid h ↦ keyWithKid_eq_none.mp hk kid h (by rintro rfl; exact hkid h),
      List.mem_of_find?_eq_some hw, acceptsAsWildcard_eq_true.mp (List.find?_some hw)⟩

/-- With the kid `""`, only the second loop runs: every key with that kid is passed over. -/
theorem getCachedKey_empty_kid (hkid : header.kid = some "") :
    getCachedKey collected token header = .ok K ↔
      collected.keys.find? (KeySpec.acceptsAsWildcard header token) = some K := by
  have hk : keyWithKid collected.keys header.kid = none := by simp [hkid, keyWithKid]
  simp [getCachedKey_ok, hk]

end Key

/-! ## What an accepted token satisfies -/

section Verify

variable {env : AuthEnv} {collected : KeyResult} {token : Token} {p : JwtPayload}

theorem includes_eq_true {audiences : List String} {a : JsonValue} :
    includes audiences a = true ↔ ∃ s ∈ audiences, a = .string s := by
  cases a <;> simp [includes]

theorem checkAudience_ok {audiences : List String} {aud : Option JsonValue} :
    checkAudience audiences aud = .ok () ↔
      ∃ v, aud = some v ∧ ∃ s ∈ audiences, JsonValue.string s ∈ v.asList := by
  have key (v : JsonValue) : v.asList.any (includes audiences) = true ↔
      ∃ s ∈ audiences, JsonValue.string s ∈ v.asList := by
    simp only [List.any_eq_true, includes_eq_true]
    exact ⟨fun ⟨_, hx, s, hs, he⟩ ↦ ⟨s, hs, he ▸ hx⟩, fun ⟨s, hs, hx⟩ ↦ ⟨_, hx, s, hs, rfl⟩⟩
  unfold checkAudience
  split
  · simp only [reduceCtorEq, false_and, exists_false]
  · simp only [reduceCtorEq, Option.some.injEq, exists_eq_left', List.mem_singleton, and_false,
      exists_false, show JsonValue.null.asList = [.null] from rfl]
  · rename_i v _
    simp only [Option.some.injEq, exists_eq_left', ← key v]
    split <;> simp [*]

theorem checkLifetime_ok {maxAge exp iat : Int} :
    checkLifetime maxAge (some exp) (some iat) = .ok () ↔ exp - iat ≤ maxAge := by
  simp [checkLifetime]

theorem checkParameters_ok {parameters : Option JsonValue} :
    checkParameters parameters = .ok () ↔
      parameters = none ∨ parameters = some .null ∨
        ∃ fields, parameters = some (.object fields) := by
  rcases parameters with _ | _ | _ | _ | _ | _ | _ <;>
    simp only [checkParameters, reduceCtorEq, Option.some.injEq, JsonValue.object.injEq, exists_eq',
      exists_false, or_false, or_true, or_self]

theorem jwtVerify_ok {getKey : JwtHeader → Except AuthError KeySpec} {options : JWTVerifyOptions}
    {K : KeySpec} (h : jwtVerify env token getKey options = .ok (p, K)) :
    token.header.alg ∈ options.algorithms ∧ getKey token.header = .ok K ∧
      K.isValidSignature token = true ∧
      (∀ claim ∈ options.requiredClaims, token.payload.has claim = true) ∧
      env.claimTimesError options.clockTolerance token.payload = none ∧ p = token.payload := by
  unfold jwtVerify at h
  cases ha : options.algorithms.contains token.header.alg
  · simp only [ha, Bool.not_false, if_true, reduceCtorEq] at h
  simp only [ha, Bool.not_true, Bool.false_eq_true, if_false] at h
  obtain ⟨key, hk, h⟩ := except_bind_eq_ok.mp h
  cases hs : key.isValidSignature token
  · simp only [hs, Bool.not_false, if_true, reduceCtorEq] at h
  simp only [hs, Bool.not_true, Bool.false_eq_true, if_false] at h
  split at h
  · cases h
  rename_i hc
  split at h
  · cases h
  rename_i ht
  cases h
  exact ⟨by simpa using ha, hk, hs, by simpa [List.find?_eq_none] using hc, ht, rfl⟩

theorem verifyInternal_ok {options : JWTVerifyOptions} {keyOptions : KeyOptions}
    (h : verifyInternal env collected token options = .ok (p, keyOptions)) :
    ∃ K, jwtVerify env token (getCachedKey collected token) options = .ok (p, K) ∧
      K.options = keyOptions := by
  obtain ⟨⟨q, K⟩, hv, h⟩ := except_bind_eq_ok.mp h
  cases h
  exact ⟨K, hv, rfl⟩

/-- An accepted token: its payload is returned as it is, `getCachedKey` gave a key `K`,
the token's algorithm is supported and its signature verified with `K`, its audience
meets `K`'s audiences or the default ones, its lifetime is at most `K`'s or the default
maximum, and `parameters` is absent, `null` or an object. -/
theorem verifyJwt_ok {options : VerifyJwtOptions}
    (h : verifyJwt env collected token options = .ok p) :
    p = token.payload ∧ ∃ K, getCachedKey collected token token.header = .ok K ∧
      token.header.alg ∈ env.SUPPORTED_ALGORITHMS ∧ K.isValidSignature token = true ∧
      (∃ aud, p.aud = some aud ∧
        ∃ s ∈ K.options.requiresAudience.getD options.defaultAudiences,
          JsonValue.string s ∈ aud.asList) ∧
      (∃ exp iat, p.exp = some exp ∧ p.iat = some iat ∧
        exp - iat ≤ K.options.maxLifetimeSeconds.getD (env.secs options.maxAge)) ∧
      (p.parameters = none ∨ p.parameters = some .null ∨
        ∃ fields, p.parameters = some (.object fields)) := by
  unfold verifyJwt at h
  obtain ⟨⟨q, keyOptions⟩, hv, h⟩ := except_bind_eq_ok.mp h
  obtain ⟨K, hj, rfl⟩ := verifyInternal_ok hv
  obtain ⟨halg, hk, hs, hreq, -, rfl⟩ := jwtVerify_ok hj
  obtain ⟨⟨⟩, haud, h⟩ := except_bind_eq_ok.mp h
  obtain ⟨⟨⟩, hlife, h⟩ := except_bind_eq_ok.mp h
  obtain ⟨⟨⟩, hparams, h⟩ := except_bind_eq_ok.mp h
  cases h
  obtain ⟨exp, hexp⟩ := Option.isSome_iff_exists.mp (hreq "exp" (by simp [verifyJwtOptions]))
  obtain ⟨iat, hiat⟩ := Option.isSome_iff_exists.mp (hreq "iat" (by simp [verifyJwtOptions]))
  rw [hexp, hiat, checkLifetime_ok] at hlife
  exact ⟨rfl, K, hk, halg, hs, checkAudience_ok.mp haud, ⟨exp, iat, hexp, hiat, hlife⟩,
    checkParameters_ok.mp hparams⟩

/-- A key for every algorithm and every signature. -/
def anyKey (kid : Option String) (options : KeyOptions) : KeySpec :=
  ⟨kid, options, fun _ ↦ true, fun _ ↦ true⟩

/-- `HS256` supported, the clock checks passing, and `secs` at `'6m'`. -/
def testAuthEnv : AuthEnv := ⟨["HS256"], fun _ _ ↦ none, fun _ ↦ 360⟩

/-- A token of kid `k1` for audience `aud`, issued at 0 and expiring at `exp`. -/
def k1Token (aud : String) (exp : Int) : Token :=
  ⟨⟨"HS256", some "k1"⟩,
    ⟨some (.string "f1"), some (.string aud), some 0, some exp, none⟩, ""⟩

/-- The key of the `KeyOptions` test: its options replace the default audiences and
maximum lifetime. -/
def k1Keys : KeyResult := ⟨[anyKey (some "k1") ⟨some ["other"], some 3600⟩], []⟩

example : verifyJwt testAuthEnv k1Keys (k1Token "tests" 3000) ⟨["tests"], "6m"⟩ =
    .error (.authorization .PSYNC_S2105 "Unexpected \"aud\" claim value: \"tests\"") := rfl

example : verifyJwt testAuthEnv k1Keys (k1Token "other" 4200) ⟨["tests"], "6m"⟩ =
    .error (.authorization .PSYNC_S2104
      "Token must expire in a maximum of 3600 seconds, got 4200s") := rfl

end Verify

/-! ## The empty kid

The first key of the collection has the kid `""` and the second is a wildcard key; both
take every algorithm and every signature.  The token's kid is `""`. -/

/-- A key of kid `""`, then a wildcard key. -/
def emptyKidKeys : KeyResult := ⟨[anyKey (some "") {}, anyKey none {}], []⟩

/-- A token of kid `""` for audience `tests`, valid for five minutes. -/
def emptyKidToken : Token :=
  ⟨⟨"HS256", some ""⟩,
    ⟨some (.string "f1"), some (.string "tests"), some 0, some 300, none⟩, ""⟩

theorem empty_kid_uses_wildcard_key :
    (∃ key ∈ emptyKidKeys.keys, key.kid = emptyKidToken.header.kid) ∧
    (getCachedKey emptyKidKeys emptyKidToken emptyKidToken.header).map (·.kid) = .ok none ∧
    verifyJwt testAuthEnv emptyKidKeys emptyKidToken ⟨["tests"], "6m"⟩ =
      .ok emptyKidToken.payload :=
  ⟨⟨_, List.mem_cons_self _ _, rfl⟩, rfl, rfl⟩

end PowerSync
