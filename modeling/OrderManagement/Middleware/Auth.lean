import OrderManagement.Auth.TokenManager
import OrderManagement.Middleware.OperationAudit
import OrderManagement.Service.Account

/-
  What the two middlewares in front of the protected routes
  decide. The first reads the access token of the header, and
  the second asks the database for the role of the user. The
  handlers of the audited routes are these two.

  Main declarations:
    * `fields`, `isBearer`, and `bearerToken`
    * `TokenManager.authenticate` and `tokenErrorCode`
    * `adminMiddleware` and `TokenManager.adminAnswer`
    * `TokenManager.server`, `TokenManager.handlers_eq`, and
      `TokenManager.serve_of_adminAnswer`
    * `authenticate_issued`
-/

namespace OrderManagement

------------------------------------------------------------
-- The Header
------------------------------------------------------------

/- strings.Fields. -/
def fields
    (s : String) : List String :=
  ((s.toList.splitOnP isSpace).filter fun part =>
    part ≠ []).map String.ofList

/- `strings.EqualFold(s, "Bearer")`. No letter beyond ASCII
   folds to one of these. -/
def isBearer
    (s : String) : Bool :=
  s.toList.map Char.toLower = "bearer".toList

/- The codes of the answers of the two middlewares. -/
inductive AccessCode
| tokenMissing
| tokenInvalidFormat
| tokenInvalid
| tokenMalformed
| tokenSignatureInvalid
| tokenExpired
| tokenUserInvalid
| userRoleCheckFailed
| permissionDenied
deriving DecidableEq

/- The token of the header, or how the header is refused. -/
def bearerToken
    (header : String) : Except AccessCode String :=
  match fields header with
  | [] => .error .tokenMissing
  | [scheme, token] =>
      if isBearer scheme then .ok token
      else .error .tokenInvalidFormat
  | _ => .error .tokenInvalidFormat

/- No space is an upper-case letter. -/
theorem toLower_of_isSpace
    {c : Char}
    (hSpace : isSpace c = true) :
    c.toLower = c := by
  have hCode : c.toNat ≤ 32 ∨ 0x85 ≤ c.toNat := by
    simp only [isSpace, Bool.or_eq_true, Bool.and_eq_true,
      decide_eq_true_eq, beq_iff_eq] at hSpace
    omega
  unfold Char.toLower
  rw [dif_neg]
  rintro ⟨hLow, hHigh⟩
  rw [ge_iff_le, UInt32.le_iff_toNat_le] at hLow
  rw [UInt32.le_iff_toNat_le] at hHigh
  change 65 ≤ c.toNat at hLow
  change c.toNat ≤ 90 at hHigh
  omega

/- What a client sends: the scheme, and a token of one word. -/
theorem bearerToken_sent
    {scheme token : String}
    (hScheme : isBearer scheme = true)
    (hSome : token.toList ≠ [])
    (hToken : ∀ c ∈ token.toList, isSpace c = false) :
    bearerToken (scheme ++ " " ++ token) = .ok token := by
  have hLetters := of_decide_eq_true hScheme
  have hWord : ∀ c ∈ scheme.toList, isSpace c = false := by
    intro c hMem
    rw [Bool.eq_false_iff]
    intro hSpace
    have hLower := List.mem_map_of_mem (f := Char.toLower) hMem
    rw [hLetters, toLower_of_isSpace hSpace] at hLower
    have hNone :
        ("bearer".toList.all fun c => !isSpace c) = true := by
      rfl
    have hLetter := List.all_eq_true.mp hNone _ hLower
    rw [hSpace] at hLetter
    cases hLetter
  have hScheme' : scheme.toList ≠ [] := by
    intro hEmpty
    rw [hEmpty] at hLetters
    cases hLetters
  have hFields :
      fields (scheme ++ " " ++ token) = [scheme, token] := by
    unfold fields
    rw [String.toList_append, String.toList_append]
    have hSpace : " ".toList = [' '] := by decide
    rw [hSpace, List.append_assoc, List.singleton_append,
      List.splitOnP_append_cons_of_forall_mem hWord ' ' rfl,
      List.splitOnP_eq_singleton hToken]
    simp [hScheme', hSome]
  unfold bearerToken
  rw [hFields]
  simp [hScheme]

------------------------------------------------------------
-- AuthMiddleware
------------------------------------------------------------

/- `auth.Identity`. -/
structure TokenIdentity where
  userID : Int
  username : String
deriving DecidableEq

/- `errors.Is` looks through all errors that were joined. -/
def tokenErrorCode
    (errs : List TokenErr) : AccessCode :=
  if .tokenMalformed ∈ errs then .tokenMalformed
  else if .tokenSignatureInvalid ∈ errs then
    .tokenSignatureInvalid
  else if .tokenExpired ∈ errs then .tokenExpired
  else .tokenInvalid

def TokenManager.authenticate
    (m : TokenManager)
    (jwt : JWT)
    (now : Time)
    (header : String) : Except AccessCode TokenIdentity :=
  match bearerToken header with
  | .error code => .error code
  | .ok token =>
      match m.parseAccessToken jwt now token with
      | .error errs => .error (tokenErrorCode errs)
      | .ok claims => .ok ⟨claims.userID, claims.username⟩

theorem authenticate_eq_ok_iff
    {m : TokenManager}
    {jwt : JWT}
    {now : Time}
    {header : String}
    {identity : TokenIdentity} :
    m.authenticate jwt now header = .ok identity ↔
      ∃ token claims,
        bearerToken header = .ok token ∧
          m.parseAccessToken jwt now token = .ok claims ∧
          identity = ⟨claims.userID, claims.username⟩ := by
  unfold TokenManager.authenticate
  cases bearerToken header with
  | error code => simp
  | ok token =>
      dsimp only
      cases hParse : m.parseAccessToken jwt now token with
      | error errs => simp [hParse]
      | ok claims => simp [hParse, eq_comm]

------------------------------------------------------------
-- AdminMiddleware
------------------------------------------------------------

/- `hasRole` is the answer of the query, which may fail. -/
def adminMiddleware
    (hasRole : Int → Option Bool)
    (identity : TokenIdentity) :
    Except AccessCode TokenIdentity :=
  if identity.userID ≤ 0 then
    .error .tokenUserInvalid
  else
    match hasRole identity.userID with
    | none => .error .userRoleCheckFailed
    | some false => .error .permissionDenied
    | some true => .ok identity

/- The answer of a route for administrators. -/
def TokenManager.adminAnswer
    (m : TokenManager)
    (jwt : JWT)
    (now : Time)
    (hasRole : Int → Option Bool)
    (header : String) : Except AccessCode TokenIdentity :=
  (m.authenticate jwt now header).bind
    (adminMiddleware hasRole)

theorem TokenManager.adminAnswer_eq_ok_iff
    {m : TokenManager}
    {jwt : JWT}
    {now : Time}
    {hasRole : Int → Option Bool}
    {header : String}
    {identity : TokenIdentity} :
    m.adminAnswer jwt now hasRole header = .ok identity ↔
      m.authenticate jwt now header = .ok identity ∧
        0 < identity.userID ∧
        hasRole identity.userID = some true := by
  unfold TokenManager.adminAnswer
  cases m.authenticate jwt now header with
  | error code => simp [Except.bind]
  | ok found =>
      unfold adminMiddleware
      simp only [Except.bind, Except.ok.injEq]
      by_cases hID : found.userID ≤ 0
      · rw [if_pos hID]
        simp only [reduceCtorEq, false_iff]
        rintro ⟨rfl, hPos, _⟩
        exact Int.not_lt.mpr hID hPos
      · rw [if_neg hID]
        cases hAllowed : hasRole found.userID with
        | none =>
            simp only [reduceCtorEq, false_iff]
            rintro ⟨rfl, _, hTrue⟩
            rw [hAllowed] at hTrue
            cases hTrue
        | some allowed =>
            cases allowed with
            | false =>
                simp only [reduceCtorEq, false_iff]
                rintro ⟨rfl, _, hTrue⟩
                rw [hAllowed] at hTrue
                cases hTrue
            | true =>
                simp only [Except.ok.injEq]
                constructor
                · rintro rfl
                  exact ⟨rfl, Int.not_le.mp hID, hAllowed⟩
                · exact fun h => h.1

------------------------------------------------------------
-- The Handlers
------------------------------------------------------------

/- The status of a refusal. -/
def AccessCode.statusCode : AccessCode → Nat
| .tokenMissing | .tokenInvalidFormat | .tokenInvalid
| .tokenMalformed | .tokenSignatureInvalid | .tokenExpired
| .tokenUserInvalid => 401
| .userRoleCheckFailed => 500
| .permissionDenied => 403

theorem AccessCode.statusCode_bounds
    (code : AccessCode) :
    100 ≤ code.statusCode ∧ code.statusCode ≤ 999 := by
  cases code <;> decide

def AccessCode.status
    (code : AccessCode) : HTTPStatus where
  code := code.statusCode
  code_ge := code.statusCode_bounds.1
  code_le := code.statusCode_bounds.2

/- A user that a row of `users` can have. -/
def TokenIdentity.stored?
    (identity : TokenIdentity) : Option Identity :=
  if hStored :
      0 < identity.userID ∧
        identity.username.length ≤ 64 then
    some {
      userID := identity.userID
      username := identity.username
      userID_pos := hStored.1
      username_length := hStored.2 }
  else
    none

/- The user of a header, whose bytes are a text if its token
   is a valid one. -/
def TokenManager.identity?
    (m : TokenManager)
    (jwt : JWT)
    (now : Time)
    (header : ByteArray) : Option Identity :=
  match String.fromUTF8? header with
  | none => none
  | some text =>
      match m.authenticate jwt now text with
      | .error _ => none
      | .ok identity => identity.stored?

/- The audited server with the checks of a manager. -/
def TokenManager.server
    (m : TokenManager)
    (jwt : JWT)
    (now : Time)
    (hasRole : Int → Option Bool)
    (handle : Route → HTTPRequest → HandlerReply) :
    Server where
  authenticate := m.identity? jwt now
  hasRole := hasRole
  handle := handle

/- The context behind the first middleware. -/
def GinContext.identified
    (c : GinContext)
    (identity : TokenIdentity) : GinContext :=
  { c with
    userID := some identity.userID
    username := some identity.username }

theorem TokenManager.authenticate_statusCode
    {m : TokenManager}
    {jwt : JWT}
    {now : Time}
    {header : String}
    {code : AccessCode}
    (hRefused : m.authenticate jwt now header = .error code) :
    code.statusCode = 401 := by
  unfold authenticate at hRefused
  split at hRefused
  case h_1 code' hHeader =>
    cases hRefused
    unfold bearerToken at hHeader
    split at hHeader
    case h_1 =>
      cases hHeader
      rfl
    case h_2 =>
      split at hHeader
      case isTrue => cases hHeader
      case isFalse =>
        cases hHeader
        rfl
    case h_3 =>
      cases hHeader
      rfl
  case h_2 =>
    split at hRefused
    case h_1 errs _ =>
      cases hRefused
      unfold tokenErrorCode
      split_ifs <;> rfl
    case h_2 => cases hRefused

theorem TokenManager.authenticate_pos
    {m : TokenManager}
    {jwt : JWT}
    {now : Time}
    {header : String}
    {identity : TokenIdentity}
    (hPassed : m.authenticate jwt now header = .ok identity) :
    0 < identity.userID := by
  rcases authenticate_eq_ok_iff.mp hPassed with
    ⟨token, claims, _, hParse, rfl⟩
  exact (parseAccessToken_eq_ok_iff.mp hParse).2.2.2.1

theorem TokenManager.identity?_toByteArray
    (m : TokenManager)
    (jwt : JWT)
    (now : Time)
    (header : String) :
    m.identity? jwt now header.toByteArray =
      match m.authenticate jwt now header with
      | .error _ => none
      | .ok identity => identity.stored? := by
  unfold identity?
  rw [Utf8.fromUTF8?_eq_some_iff.mpr rfl]

/-
  The chain of the two handlers does what the two checks say,
  for a user whose name fits its column.
-/
theorem TokenManager.handlers_eq
    {m : TokenManager}
    {jwt : JWT}
    {now : Time}
    {hasRole : Int → Option Bool}
    {header : String}
    {c : GinContext}
    (hHeader : c.request.authorization = header.toByteArray)
    (hName :
      ∀ identity, m.authenticate jwt now header = .ok identity →
        identity.username.length ≤ 64)
    (next : GinHandler)
    (rows : List OperationLogRow) :
    Middleware.authMiddleware (m.identity? jwt now)
        (Middleware.adminMiddleware hasRole next) c rows =
      match m.authenticate jwt now header with
      | .error code => (.returned, c.fail code.status, rows)
      | .ok identity =>
          match adminMiddleware hasRole identity with
          | .error code =>
              (.returned,
                (c.identified identity).fail code.status, rows)
          | .ok identity => next (c.identified identity) rows := by
  unfold Middleware.authMiddleware
  rw [hHeader, m.identity?_toByteArray]
  cases hAuth : m.authenticate jwt now header with
  | error code =>
      simp only [AccessCode.status,
        TokenManager.authenticate_statusCode hAuth]
  | ok identity =>
      have hPos := TokenManager.authenticate_pos hAuth
      have hStored :
          identity.stored? =
            some ⟨identity.userID, identity.username, hPos,
              hName identity hAuth⟩ :=
        dif_pos ⟨hPos, hName identity hAuth⟩
      simp only [hStored, Middleware.adminMiddleware,
        adminMiddleware, Int.not_le.mpr hPos, if_false]
      cases hasRole identity.userID with
      | none => rfl
      | some allowed =>
          cases allowed with
          | false => rfl
          | true => rfl

/- Whom the audited server takes for an administrator. -/
theorem TokenManager.server_admits_iff
    {m : TokenManager}
    {jwt : JWT}
    {now : Time}
    {hasRole : Int → Option Bool}
    {handle : Route → HTTPRequest → HandlerReply}
    {header : String}
    {identity : Identity} :
    (m.server jwt now hasRole handle).authenticate
            header.toByteArray =
          some identity ∧
        (m.server jwt now hasRole handle).hasRole
          identity.userID = some true ↔
      m.adminAnswer jwt now hasRole header =
        .ok ⟨identity.userID, identity.username⟩ := by
  rw [TokenManager.adminAnswer_eq_ok_iff]
  change m.identity? jwt now header.toByteArray = _ ∧
    hasRole _ = _ ↔ _
  rw [m.identity?_toByteArray]
  cases m.authenticate jwt now header with
  | error code => simp
  | ok found =>
      rcases found with ⟨userID, username⟩
      rcases identity with ⟨userID', username', hPos, hName⟩
      simp only [TokenIdentity.stored?,
        Option.dite_none_right_eq_some, Option.some.injEq,
        Identity.mk.injEq, Except.ok.injEq,
        TokenIdentity.mk.injEq]
      constructor
      · rintro ⟨⟨_, rfl, rfl⟩, hAllowed⟩
        exact ⟨⟨rfl, rfl⟩, hPos, hAllowed⟩
      · rintro ⟨⟨rfl, rfl⟩, _, hAllowed⟩
        exact ⟨⟨⟨hPos, hName⟩, rfl, rfl⟩, hAllowed⟩

/- What the audited server leaves of a request that is let
   pass. -/
theorem TokenManager.serve_of_adminAnswer
    {m : TokenManager}
    {jwt : JWT}
    {now : Time}
    {hasRole : Int → Option Bool}
    {handle : Route → HTTPRequest → HandlerReply}
    {header : String}
    {identity : Identity}
    {request : HTTPRequest}
    {route : Route}
    (newID : UUID)
    (rows : List OperationLogRow)
    (hRoute : adminRoute request = some route)
    (hHeader : request.authorization = header.toByteArray)
    (hAnswer :
      m.adminAnswer jwt now hasRole header =
        .ok ⟨identity.userID, identity.username⟩) :
    ((m.server jwt now hasRole handle).serve newID request
        rows).2 =
      if (handle route request).panics then
        rows
      else
        (createOperationLog
          (requestLog newID identity route request
            (handle route request).status) rows).getD rows := by
  rw [← TokenManager.server_admits_iff, ← hHeader] at hAnswer
  exact serve_of_admin newID rows hRoute hAnswer.1 hAnswer.2

------------------------------------------------------------
-- An Issued Token
------------------------------------------------------------

/- What a user is answered with an own token, at any time. -/
def TokenManager.answerAt
    (m : TokenManager)
    (issued now : Time)
    (userID : Int)
    (username : String) : Except AccessCode TokenIdentity :=
  if secondOf (issued + m.ttl) + tokenLeeway ≤ now then
    .error .tokenExpired
  else if now < secondOf issued - tokenLeeway then
    .error .tokenInvalid
  else
    .ok ⟨userID, ProductService.trimSpace username⟩

/- A token with errors is refused with these. -/
theorem authenticate_of_errors
    {m : TokenManager}
    {jwt : JWT}
    {now : Time}
    {header token : String}
    {errs : List TokenErr}
    (hHeader : bearerToken header = .ok token)
    (hParse :
      jwt.parseWithClaims m.parserOptions m.secret now token =
        .error errs) :
    m.authenticate jwt now header =
      .error (tokenErrorCode errs) := by
  unfold TokenManager.authenticate
    TokenManager.parseAccessToken
  simp only [hHeader, hParse]

/- Which errors are found in a token of the manager. -/
theorem mem_parseWithClaims_issued
    {jwt : JWT}
    {m : TokenManager}
    {issued now : Time}
    {userID : Int}
    {username token : String}
    {errs : List TokenErr}
    (hJWT : jwt.Lawful)
    (hFits :
      (m.accessClaims jwt issued userID
        username).Representable)
    (hSigned :
      jwt.signedString "HS256" m.secret
          (m.accessClaims jwt issued userID username) =
        .ok token)
    (hParse :
      jwt.parseWithClaims m.parserOptions m.secret now token =
        .error errs)
    (e : TokenErr) :
    e ∈ errs ↔
      e = .tokenInvalidClaims ∨
        e = .tokenExpired ∧
            secondOf (issued + m.ttl) + tokenLeeway ≤ now ∨
          e = .tokenUsedBeforeIssued ∧
            now < secondOf issued - tokenLeeway := by
  rw [← TokenManager.mem_validate_accessClaims hJWT hFits]
  exact hJWT.parse_invalid _ _ _ _ _ _
    (hJWT.parse_signed _ _ _ _ hSigned hFits)
    (List.mem_singleton_self _)
    (hJWT.verify_signed _ _ _ _ hSigned) hParse e

/-
  A token that was issued is good for its user in its window.
  Later it is answered as expired, and on a clock that is
  behind the issuer's it is answered as invalid.
-/
theorem authenticate_issued
    {jwt : JWT}
    {m : TokenManager}
    {issued now : Time}
    {userID : Int}
    {username token header : String}
    (hJWT : jwt.Lawful)
    (hFits :
      (m.accessClaims jwt issued userID
        (ProductService.trimSpace username)).Representable)
    (hGenerate :
      m.generateAccessToken jwt issued userID username =
        .ok token)
    (hHeader : bearerToken header = .ok token) :
    m.authenticate jwt now header =
      m.answerAt issued now userID username := by
  rcases TokenManager.generateAccessToken_eq_ok_iff.mp
    hGenerate with ⟨_, _, hSigned⟩
  have hPassed :=
    m.parseWithClaims_issued hJWT hFits hSigned now
  by_cases hWindow : m.Window issued now
  · have hParse :=
      (m.access_token_window hJWT hFits hGenerate now _).mpr
        ⟨hWindow, rfl⟩
    unfold TokenManager.answerAt
    rw [if_neg (Int.not_le.mpr hWindow.before),
      if_neg (Int.not_lt.mpr hWindow.after)]
    exact authenticate_eq_ok_iff.mpr
      ⟨token, _, hHeader, hParse, rfl⟩
  · cases hParse :
        jwt.parseWithClaims m.parserOptions m.secret now
          token with
    | ok claims =>
        exact (hWindow ((hPassed claims).mp hParse).1).elim
    | error errs =>
        have hErrs :=
          mem_parseWithClaims_issued hJWT hFits hSigned hParse
        rw [authenticate_of_errors hHeader hParse]
        unfold TokenManager.answerAt
        split
        case isTrue hLate => simp [tokenErrorCode, hErrs, hLate]
        case isFalse hEarly =>
          rw [if_pos]
          · simp [tokenErrorCode, hErrs, hEarly]
          · by_contra hAfter
            exact hWindow
              ⟨Int.not_lt.mp hAfter, Int.not_le.mp hEarly⟩

end OrderManagement

------------------------------------------------------------
-- A Sample Token
------------------------------------------------------------

namespace OrderManagement

def sampleSecret : String := "0123456789abcdef0123456789abcdef"

theorem sampleSecret_size :
    32 ≤ sampleSecret.utf8ByteSize := by
  decide

theorem sampleIssuer_nonblank :
    ProductService.trimSpace "order-management" ≠ "" := by
  decide

def sampleManager : TokenManager where
  secret := sampleSecret
  issuer := "order-management"
  ttl := 7200000
  secret_size := sampleSecret_size
  issuer_nonblank := sampleIssuer_nonblank
  ttl_pos := by decide

/- The claims of a login of alice, and their token. -/
def sampleClaims : UserClaims where
  username := "alice"
  userID := 1
  issuer := "order-management"
  subject := "1"
  expiresAt := some 1700007200
  notBefore := none
  issuedAt := some 1700000000

def sampleTokenHeader : String :=
  "eyJhbGciOiJIUzI1NiIsInR5cCI6IkpXVCJ9."

def sampleTokenUser : String :=
  "eyJ1c2VybmFtZSI6ImFsaWNlIiwidXNlcl9pZCI6MSwiaXNzIjoi"

def sampleTokenDates : String :=
  "b3JkZXItbWFuYWdlbWVudCIsInN1YiI6IjEiLCJleHAiOjE3MDAw" ++
    "MDcyMDAsImlhdCI6MTcwMDAwMDAwMH0."

def sampleTokenSignature : String :=
  "X-cMsIjW7ynk1NNLArMcmW-I6xtNS1GDSyQgDK24KrM"

def sampleToken : String :=
  sampleTokenHeader ++ sampleTokenUser ++ sampleTokenDates ++
    sampleTokenSignature

/- The errors of a validation, each with its condition. -/
def sampleChecks
    (options : ParserOptions)
    (now : Time)
    (claims : UserClaims) : List (TokenErr × Bool) :=
  [ (.tokenRequiredClaimMissing,
      options.expirationRequired && claims.expiresAt = none),
    (.tokenExpired,
      claims.expiresAt.any fun exp =>
        exp.time + options.leeway ≤ now),
    (.tokenNotValidYet,
      claims.notBefore.any fun nbf =>
        now < nbf.time - options.leeway),
    (.tokenUsedBeforeIssued,
      options.issuedAt &&
        claims.issuedAt.any fun iat =>
          now < iat.time - options.leeway),
    (.tokenRequiredClaimMissing,
      options.issuer ≠ "" && claims.issuer = ""),
    (.tokenInvalidIssuer,
      options.issuer ≠ "" && claims.issuer ≠ "" &&
        claims.issuer ≠ options.issuer) ]

def sampleValidate
    (options : ParserOptions)
    (now : Time)
    (claims : UserClaims) : List TokenErr :=
  ((sampleChecks options now claims).filter Prod.snd).map
    Prod.fst

theorem mem_sampleValidate
    {options : ParserOptions}
    {now : Time}
    {claims : UserClaims}
    {e : TokenErr} :
    e ∈ sampleValidate options now claims ↔
      (e, true) ∈ sampleChecks options now claims := by
  simp [sampleValidate]

def sampleParseUnverified
    (token : String) : Except TokenErr ParsedToken :=
  if token = sampleToken then .ok ⟨"HS256", sampleClaims⟩
  else .error .tokenMalformed

def sampleVerify
    (secret token : String) : Bool :=
  secret = sampleSecret ∧ token = sampleToken

/- The package, of which one token is written down. -/
def sampleJWT : JWT where
  newNumericDate t := t / 1000
  signedString method secret claims :=
    if method = "HS256" ∧ secret = sampleSecret ∧
        claims = sampleClaims then
      .ok sampleToken
    else
      .error .signing
  parseUnverified := sampleParseUnverified
  verify := sampleVerify
  validate := sampleValidate
  parseWithClaims options secret now token :=
    match sampleParseUnverified token with
    | .error e => .error [e]
    | .ok parsed =>
        if parsed.method ∉ options.validMethods then
          .error [.tokenSignatureInvalid]
        else if sampleVerify secret token = false then
          .error [.tokenSignatureInvalid]
        else
          match sampleValidate options now parsed.claims with
          | [] => .ok parsed.claims
          | e :: errs => .error (.tokenInvalidClaims :: e :: errs)

theorem sampleJWT_validating : sampleJWT.Validating where
  expired options now claims _ := by
    change _ ∈ sampleValidate _ _ _ ↔ _
    simp [mem_sampleValidate, sampleChecks, Option.any_eq_true]
  notValidYet options now claims _ := by
    change _ ∈ sampleValidate _ _ _ ↔ _
    simp [mem_sampleValidate, sampleChecks, Option.any_eq_true]
  usedBeforeIssued options now claims _ := by
    change _ ∈ sampleValidate _ _ _ ↔ _
    simp [mem_sampleValidate, sampleChecks, Option.any_eq_true]
  invalidIssuer options now claims _ := by
    change _ ∈ sampleValidate _ _ _ ↔ _
    simp [mem_sampleValidate, sampleChecks, and_assoc]
  requiredClaimMissing options now claims _ := by
    change _ ∈ sampleValidate _ _ _ ↔ _
    simp [mem_sampleValidate, sampleChecks]
  nothingElse options now claims _ e hMem := by
    have hCheck := mem_sampleValidate.mp hMem
    simp only [sampleChecks, List.mem_cons, Prod.mk.injEq,
      List.not_mem_nil, or_false] at hCheck
    rcases hCheck with ⟨rfl, _⟩ | ⟨rfl, _⟩ | ⟨rfl, _⟩ |
      ⟨rfl, _⟩ | ⟨rfl, _⟩ | ⟨rfl, _⟩ <;> simp

theorem sampleJWT_signed
    {method secret : String}
    {claims : UserClaims}
    {token : String}
    (hSigned :
      sampleJWT.signedString method secret claims =
        .ok token) :
    method = "HS256" ∧ secret = sampleSecret ∧
      claims = sampleClaims ∧ token = sampleToken := by
  simp only [sampleJWT] at hSigned
  split at hSigned
  case isTrue hSample =>
    cases hSigned
    exact ⟨hSample.1, hSample.2.1, hSample.2.2, rfl⟩
  case isFalse => cases hSigned

theorem sampleJWT_lawful : sampleJWT.Lawful where
  validating := sampleJWT_validating
  newNumericDate t := rfl
  parse_signed method secret claims token hSigned _ := by
    rcases sampleJWT_signed hSigned with ⟨rfl, _, rfl, rfl⟩
    simp [sampleJWT, sampleParseUnverified]
  verify_signed method secret claims token hSigned := by
    rcases sampleJWT_signed hSigned with ⟨_, rfl, _, rfl⟩
    simp [sampleJWT, sampleVerify]
  parse_ok_iff options secret now token claims := by
    simp only [sampleJWT]
    cases sampleParseUnverified token with
    | error e => simp
    | ok parsed =>
        rcases parsed with ⟨method, found⟩
        by_cases hMethod : method ∈ options.validMethods
        · cases hVerify : sampleVerify secret token with
          | false => simp [hMethod]
          | true =>
              cases hErrs :
                  sampleValidate options now found with
              | nil =>
                  simp only [hMethod, not_true_eq_false,
                    if_false, Bool.true_eq_false, hErrs,
                    Except.ok.injEq, ParsedToken.mk.injEq]
                  constructor
                  · rintro rfl
                    exact ⟨method, hMethod, ⟨rfl, rfl⟩, trivial,
                      hErrs⟩
                  · rintro ⟨_, _, ⟨_, hSame⟩, _⟩
                    exact hSame
              | cons e errs =>
                  simp only [hMethod, not_true_eq_false,
                    if_false, Bool.true_eq_false, hErrs,
                    Except.ok.injEq, ParsedToken.mk.injEq,
                    reduceCtorEq, false_iff]
                  rintro ⟨_, _, ⟨_, rfl⟩, _, hNone⟩
                  rw [hErrs] at hNone
                  cases hNone
        · have hOther :
              ∀ admitted ∈ options.validMethods,
                method ≠ admitted := by
            rintro _ hMem rfl
            exact hMethod hMem
          simp only [hMethod, not_false_eq_true, if_true,
            reduceCtorEq, Except.ok.injEq,
            ParsedToken.mk.injEq, false_iff]
          rintro ⟨admitted, hMem, ⟨hSame, _⟩, _⟩
          exact hOther admitted hMem hSame
  parse_invalid options secret now token parsed errs hParsed
      hMethod hVerified hErrs e := by
    change sampleParseUnverified token = _ at hParsed
    change sampleVerify secret token = _ at hVerified
    change e ∈ errs ↔
      _ ∨ e ∈ sampleValidate options now parsed.claims
    simp only [sampleJWT, hParsed, hMethod, not_true_eq_false,
      if_false, hVerified, Bool.true_eq_false] at hErrs
    cases hFound :
        sampleValidate options now parsed.claims with
    | nil =>
        rw [hFound] at hErrs
        cases hErrs
    | cons first more =>
        rw [hFound] at hErrs
        cases hErrs
        exact List.mem_cons

theorem sampleClaims_representable :
    sampleClaims.Representable where
  userID := by decide
  dates := by decide

theorem generateAccessToken_sample :
    sampleManager.generateAccessToken sampleJWT 1700000000123 1
      "alice" = .ok sampleToken := by
  rfl

def sampleHeader : String := "bEARER" ++ " " ++ sampleToken

theorem bearerToken_sample :
    bearerToken sampleHeader = .ok sampleToken := by
  have hParts :
      ([sampleTokenHeader, sampleTokenUser, sampleTokenDates,
        sampleTokenSignature].all fun part =>
          part.toList.all fun c => !isSpace c) = true := by
    decide +kernel
  have hWord :
      ∀ c ∈ sampleToken.toList, isSpace c = false := by
    simpa [sampleToken, or_imp, forall_and] using hParts
  have hSome : sampleToken.toList ≠ [] := by
    rw [sampleToken, String.toList_append]
    exact List.append_ne_nil_of_right_ne_nil _
      (by decide +kernel)
  have hScheme : isBearer "bEARER" = true := by
    rfl
  unfold sampleHeader
  exact bearerToken_sent hScheme hSome hWord

theorem sampleClaims_issued :
    sampleManager.accessClaims sampleJWT 1700000000123 1
        (ProductService.trimSpace "alice") =
      sampleClaims := by
  rfl

theorem sampleClaims_fit :
    (sampleManager.accessClaims sampleJWT 1700000000123 1
      (ProductService.trimSpace "alice")).Representable := by
  rw [sampleClaims_issued]
  exact sampleClaims_representable

/- In its window, a moment after it, and before it. -/
theorem authenticate_issued_sample :
    [1700007229999, 1700007230000, 1699999969999].map
        (fun now =>
          sampleManager.authenticate sampleJWT now
            sampleHeader) =
      [.ok ⟨1, "alice"⟩, .error .tokenExpired,
        .error .tokenInvalid] := by
  have hAnswer :
      ∀ now,
        sampleManager.authenticate sampleJWT now
            sampleHeader =
          sampleManager.answerAt 1700000000123 now 1 "alice" :=
    fun _ =>
      authenticate_issued sampleJWT_lawful sampleClaims_fit
        generateAccessToken_sample bearerToken_sample
  simp only [hAnswer]
  rfl

end OrderManagement
