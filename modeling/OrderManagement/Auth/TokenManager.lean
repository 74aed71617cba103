import OrderManagement.Service.Inventory
import Mathlib.Data.List.DropRight

/-
  The access tokens of `token_manager.go`. The package
  golang-jwt is a parameter, with its laws as far as the code
  relies on them.

  Main declarations:
    * `UserClaims` and `ParserOptions`
    * `JWT` and `JWT.Lawful`
    * `TokenManager` and `newTokenManager`
    * `TokenManager.generateAccessToken` and
      `TokenManager.parseAccessToken`
    * `TokenManager.Window` and `access_token_window`
-/

namespace OrderManagement

------------------------------------------------------------
-- Claims
------------------------------------------------------------

/- A date in a token counts whole seconds. -/
abbrev NumericDate := Int

def NumericDate.time
    (d : NumericDate) : Time :=
  d * 1000

structure UserClaims where
  username : String
  userID : Int
  issuer : String
  subject : String
  expiresAt : Option NumericDate
  notBefore : Option NumericDate
  issuedAt : Option NumericDate
deriving DecidableEq

/- Numbers that JSON carries through the package as they are:
   an int64, and dates that a double holds. -/
structure UserClaims.Representable
    (claims : UserClaims) : Prop where
  userID :
    -bigintMax - 1 ≤ claims.userID ∧ claims.userID ≤ bigintMax
  dates :
    ∀ date ∈ [claims.expiresAt, claims.notBefore,
        claims.issuedAt],
      ∀ d ∈ date, -(2 ^ 53) ≤ d ∧ d ≤ 2 ^ 53

/- The errors of the package by the names of their variables,
   and those of the token manager. -/
inductive TokenErr
| tokenMalformed
| tokenUnverifiable
| tokenSignatureInvalid
| tokenInvalidClaims
| tokenRequiredClaimMissing
| tokenExpired
| tokenNotValidYet
| tokenUsedBeforeIssued
| tokenInvalidIssuer
| accessTokenInvalid
| jwtSecretTooShort
| jwtIssuerEmpty
| jwtExpireInvalid
| tokenUserInvalid
| tokenUsernameInvalid
| signing
deriving DecidableEq

------------------------------------------------------------
-- The Package golang-jwt
------------------------------------------------------------

/- A token that was read: the `alg` of its header, and its
   claims. -/
structure ParsedToken where
  method : String
  claims : UserClaims
deriving DecidableEq

/- The options of a parser that the code uses. -/
structure ParserOptions where
  validMethods : List String
  issuer : String
  expirationRequired : Bool
  issuedAt : Bool
  leeway : Time

/-
  The functions of the package. The method and the secret are
  given to sign claims; a token is read without a look at its
  signature, which is verified with the secret by itself; and
  the claims are validated at a time. The errors of a parser
  are all that `errors.Is` finds in its error.
-/
structure JWT where
  newNumericDate : Time → NumericDate
  signedString :
    String → String → UserClaims → Except TokenErr String
  parseUnverified : String → Except TokenErr ParsedToken
  verify : String → String → Bool
  validate : ParserOptions → Time → UserClaims → List TokenErr
  parseWithClaims :
    ParserOptions → String → Time → String →
      Except (List TokenErr) UserClaims

/-
  The documentation of the validator: an expired token, one
  that is not valid yet or not issued yet, another issuer, a
  claim that is required and missing, and nothing else. Each
  date is given the leeway.
-/
structure JWT.Validating
    (jwt : JWT) : Prop where
  expired :
    ∀ options now claims, claims.Representable →
      (.tokenExpired ∈ jwt.validate options now claims ↔
        ∃ exp, claims.expiresAt = some exp ∧
          exp.time + options.leeway ≤ now)
  notValidYet :
    ∀ options now claims, claims.Representable →
      (.tokenNotValidYet ∈ jwt.validate options now claims ↔
        ∃ nbf, claims.notBefore = some nbf ∧
          now < nbf.time - options.leeway)
  usedBeforeIssued :
    ∀ options now claims, claims.Representable →
      (.tokenUsedBeforeIssued ∈
          jwt.validate options now claims ↔
        options.issuedAt = true ∧
          ∃ iat, claims.issuedAt = some iat ∧
            now < iat.time - options.leeway)
  invalidIssuer :
    ∀ options now claims, claims.Representable →
      (.tokenInvalidIssuer ∈ jwt.validate options now claims ↔
        options.issuer ≠ "" ∧ claims.issuer ≠ "" ∧
          claims.issuer ≠ options.issuer)
  requiredClaimMissing :
    ∀ options now claims, claims.Representable →
      (.tokenRequiredClaimMissing ∈
          jwt.validate options now claims ↔
        options.expirationRequired = true ∧
            claims.expiresAt = none ∨
          options.issuer ≠ "" ∧ claims.issuer = "")
  nothingElse :
    ∀ options now claims, claims.Representable →
      ∀ e ∈ jwt.validate options now claims,
        e ∈ [.tokenExpired, .tokenNotValidYet,
          .tokenUsedBeforeIssued, .tokenInvalidIssuer,
          .tokenRequiredClaimMissing]

/-
  What is relied on. Dates are cut off to seconds. A signed
  token is read as what was signed, and its signature is good
  under the same secret. A parser gives out the claims of a
  token exactly if the method of the token is a valid one,
  its signature is good, and its claims are validated; and
  with its signature good it reports the errors of its claims.
-/
structure JWT.Lawful
    (jwt : JWT) : Prop where
  validating : jwt.Validating
  newNumericDate :
    ∀ t, jwt.newNumericDate t = t / 1000
  parse_signed :
    ∀ method secret claims token,
      jwt.signedString method secret claims = .ok token →
        claims.Representable →
          jwt.parseUnverified token = .ok ⟨method, claims⟩
  verify_signed :
    ∀ method secret claims token,
      jwt.signedString method secret claims = .ok token →
        jwt.verify secret token = true
  parse_ok_iff :
    ∀ options secret now token claims,
      jwt.parseWithClaims options secret now token =
          .ok claims ↔
        ∃ method ∈ options.validMethods,
          jwt.parseUnverified token = .ok ⟨method, claims⟩ ∧
            jwt.verify secret token = true ∧
            jwt.validate options now claims = []
  parse_invalid :
    ∀ options secret now token parsed errs,
      jwt.parseUnverified token = .ok parsed →
        parsed.method ∈ options.validMethods →
          jwt.verify secret token = true →
            jwt.parseWithClaims options secret now token =
                .error errs →
              ∀ e, e ∈ errs ↔
                e = .tokenInvalidClaims ∨
                  e ∈ jwt.validate options now parsed.claims

------------------------------------------------------------
-- The Token Manager
------------------------------------------------------------

/- A manager that was built has passed its checks. -/
structure TokenManager where
  secret : String
  issuer : String
  ttl : Time
  secret_size : 32 ≤ secret.utf8ByteSize
  issuer_nonblank : ProductService.trimSpace issuer ≠ ""
  ttl_pos : 0 < ttl

def newTokenManager
    (secret issuer : String)
    (ttl : Time) : Except TokenErr TokenManager :=
  let secret := ProductService.trimSpace secret
  if hSecret : secret.utf8ByteSize < 32 then
    .error .jwtSecretTooShort
  else if hIssuer : ProductService.trimSpace issuer = "" then
    .error .jwtIssuerEmpty
  else if hTTL : ttl ≤ 0 then
    .error .jwtExpireInvalid
  else
    .ok {
      secret := secret
      issuer := issuer
      ttl := ttl
      secret_size := Nat.not_lt.mp hSecret
      issuer_nonblank := hIssuer
      ttl_pos := Int.not_le.mp hTTL }

/- `30*time.Second`. -/
def tokenLeeway : Time := 30000

namespace TokenManager

/- The claims of a token that is issued at a time. -/
def accessClaims
    (m : TokenManager)
    (jwt : JWT)
    (now : Time)
    (userID : Int)
    (username : String) : UserClaims where
  username := username
  userID := userID
  issuer := m.issuer
  subject := toString userID
  expiresAt := some (jwt.newNumericDate (now + m.ttl))
  notBefore := none
  issuedAt := some (jwt.newNumericDate now)

def generateAccessToken
    (m : TokenManager)
    (jwt : JWT)
    (now : Time)
    (userID : Int)
    (username : String) : Except TokenErr String :=
  if userID ≤ 0 then
    .error .tokenUserInvalid
  else
    let username := ProductService.trimSpace username
    if username = "" then
      .error .tokenUsernameInvalid
    else
      jwt.signedString "HS256" m.secret
        (m.accessClaims jwt now userID username)

/- The options of `ParseAccessToken`. -/
def parserOptions
    (m : TokenManager) : ParserOptions where
  validMethods := ["HS256"]
  issuer := m.issuer
  expirationRequired := true
  issuedAt := true
  leeway := tokenLeeway

/- A token that is parsed with no error is valid. -/
def parseAccessToken
    (m : TokenManager)
    (jwt : JWT)
    (now : Time)
    (token : String) : Except (List TokenErr) UserClaims :=
  match jwt.parseWithClaims m.parserOptions m.secret now
      token with
  | .error errs => .error errs
  | .ok claims =>
      if claims.expiresAt = none ∨ claims.issuedAt = none then
        .error [.accessTokenInvalid]
      else if claims.userID ≤ 0 then
        .error [.tokenUserInvalid]
      else if
          ProductService.trimSpace claims.username = "" then
        .error [.tokenUsernameInvalid]
      else
        .ok claims

end TokenManager

------------------------------------------------------------
-- The Window of a Token
------------------------------------------------------------

/- The beginning of the second of a time. -/
def secondOf
    (t : Time) : Time :=
  t / 1000 * 1000

/- From when to when a token is accepted that was issued at
   some time: from the beginning of that second to the end of
   the last full second, and half a minute more on each side. -/
structure TokenManager.Window
    (m : TokenManager)
    (issued now : Time) : Prop where
  after : secondOf issued - tokenLeeway ≤ now
  before : now < secondOf (issued + m.ttl) + tokenLeeway

------------------------------------------------------------
-- Accepted Tokens
------------------------------------------------------------

theorem toList_trimSpace
    (s : String) :
    (ProductService.trimSpace s).toList =
      (s.toList.dropWhile isSpace).rdropWhile isSpace := by
  unfold ProductService.trimSpace
  rw [String.toList_ofList]
  rfl

/- What is left has no space at either end. -/
theorem trimSpace_trimSpace
    (s : String) :
    ProductService.trimSpace (ProductService.trimSpace s) =
      ProductService.trimSpace s := by
  rw [← String.toList_inj, toList_trimSpace, toList_trimSpace]
  generalize hText : s.toList.dropWhile isSpace = text
  have hFront :
      (text.rdropWhile isSpace).dropWhile isSpace =
        text.rdropWhile isSpace := by
    rw [List.dropWhile_eq_self_iff]
    intro hSome
    have hPrefix := List.rdropWhile_prefix isSpace text
    have hHead := hPrefix.getElem hSome
    rw [hHead]
    have hSelf : text.dropWhile isSpace = text := by
      rw [← hText, List.dropWhile_idempotent]
    exact List.dropWhile_eq_self_iff.mp hSelf _
  rw [hFront, List.rdropWhile_idempotent]

theorem JWT.Lawful.time_newNumericDate
    {jwt : JWT}
    (hJWT : jwt.Lawful)
    (t : Time) :
    (jwt.newNumericDate t).time = secondOf t := by
  rw [hJWT.newNumericDate]
  rfl

namespace TokenManager

theorem issuer_ne
    (m : TokenManager) :
    m.issuer ≠ "" := by
  intro hEmpty
  apply m.issuer_nonblank
  rw [hEmpty]
  rfl

/- What a manager accepts. -/
theorem parseAccessToken_eq_ok_iff
    {m : TokenManager}
    {jwt : JWT}
    {now : Time}
    {token : String}
    {claims : UserClaims} :
    m.parseAccessToken jwt now token = .ok claims ↔
      jwt.parseWithClaims m.parserOptions m.secret now
            token =
          .ok claims ∧
        claims.expiresAt ≠ none ∧
        claims.issuedAt ≠ none ∧
        0 < claims.userID ∧
        ProductService.trimSpace claims.username ≠ "" := by
  unfold parseAccessToken
  cases jwt.parseWithClaims m.parserOptions m.secret now
      token with
  | error errs => simp
  | ok found =>
      simp only [Except.ok.injEq]
      split
      case isTrue hDates =>
        refine iff_of_false (by simp) ?_
        rintro ⟨rfl, hExp, hIat, _⟩
        exact hDates.elim hExp hIat
      case isFalse hDates =>
        rw [not_or] at hDates
        split
        case isTrue hUser =>
          refine iff_of_false (by simp) ?_
          rintro ⟨rfl, _, _, hPositive, _⟩
          omega
        case isFalse hUser =>
          split
          case isTrue hBlank =>
            refine iff_of_false (by simp) ?_
            rintro ⟨rfl, _, _, _, hName⟩
            exact hName hBlank
          case isFalse hName =>
            rw [Except.ok.injEq]
            constructor
            · rintro rfl
              exact ⟨rfl, hDates.1, hDates.2,
                Int.not_le.mp hUser, hName⟩
            · exact fun h => h.1

/-
  Which errors a validator finds in the claims of the manager:
  the one of a token after its window, and the one of a token
  before it.
-/
theorem mem_validate_accessClaims
    {m : TokenManager}
    {jwt : JWT}
    {issued now : Time}
    {userID : Int}
    {username : String}
    (hJWT : jwt.Lawful)
    (hFits :
      (m.accessClaims jwt issued userID
        username).Representable)
    (e : TokenErr) :
    e ∈ jwt.validate m.parserOptions now
        (m.accessClaims jwt issued userID username) ↔
      e = .tokenExpired ∧
          secondOf (issued + m.ttl) + tokenLeeway ≤ now ∨
        e = .tokenUsedBeforeIssued ∧
          now < secondOf issued - tokenLeeway := by
  have hLaws := hJWT.validating
  have hExpired :=
    hLaws.expired m.parserOptions now _ hFits
  have hEarly :=
    hLaws.usedBeforeIssued m.parserOptions now _ hFits
  have hOther :
      .tokenNotValidYet ∉ jwt.validate m.parserOptions now
        (m.accessClaims jwt issued userID username) := by
    rw [hLaws.notValidYet _ _ _ hFits]
    rintro ⟨nbf, hNone, _⟩
    cases hNone
  have hIssuer :
      .tokenInvalidIssuer ∉ jwt.validate m.parserOptions now
        (m.accessClaims jwt issued userID username) := by
    rw [hLaws.invalidIssuer _ _ _ hFits]
    exact fun h => h.2.2 rfl
  have hRequired :
      .tokenRequiredClaimMissing ∉
        jwt.validate m.parserOptions now
          (m.accessClaims jwt issued userID username) := by
    rw [hLaws.requiredClaimMissing _ _ _ hFits]
    rintro (⟨_, hNone⟩ | ⟨_, hEmpty⟩)
    · cases hNone
    · exact m.issuer_ne hEmpty
  simp only [accessClaims, parserOptions, Option.some.injEq,
    exists_eq_left', hJWT.time_newNumericDate, true_and]
    at hExpired hEarly
  constructor
  · intro hMem
    have hKind := hLaws.nothingElse _ _ _ hFits e hMem
    simp only [List.mem_cons, List.not_mem_nil, or_false]
      at hKind
    rcases hKind with rfl | rfl | rfl | rfl | rfl
    · exact Or.inl ⟨rfl, hExpired.mp hMem⟩
    · exact (hOther hMem).elim
    · exact Or.inr ⟨rfl, hEarly.mp hMem⟩
    · exact (hIssuer hMem).elim
    · exact (hRequired hMem).elim
  · rintro (⟨rfl, hLate⟩ | ⟨rfl, hAhead⟩)
    · exact hExpired.mpr hLate
    · exact hEarly.mpr hAhead

theorem window_iff
    {m : TokenManager}
    {jwt : JWT}
    {issued now : Time}
    {userID : Int}
    {username : String}
    (hJWT : jwt.Lawful)
    (hFits :
      (m.accessClaims jwt issued userID
        username).Representable) :
    jwt.validate m.parserOptions now
        (m.accessClaims jwt issued userID username) = [] ↔
      m.Window issued now := by
  simp only [List.eq_nil_iff_forall_not_mem,
    mem_validate_accessClaims hJWT hFits]
  constructor
  · intro hNone
    refine ⟨?_, ?_⟩
    · by_contra hAhead
      exact hNone _ (Or.inr ⟨rfl, Int.not_le.mp hAhead⟩)
    · by_contra hLate
      exact hNone _ (Or.inl ⟨rfl, Int.not_lt.mp hLate⟩)
  · rintro ⟨hAfter, hBefore⟩ e (⟨_, hLate⟩ | ⟨_, hAhead⟩)
    · exact Int.not_le.mpr hBefore hLate
    · exact Int.not_lt.mpr hAfter hAhead

theorem generateAccessToken_eq_ok_iff
    {m : TokenManager}
    {jwt : JWT}
    {now : Time}
    {userID : Int}
    {username token : String} :
    m.generateAccessToken jwt now userID username =
        .ok token ↔
      0 < userID ∧ ProductService.trimSpace username ≠ "" ∧
        jwt.signedString "HS256" m.secret
            (m.accessClaims jwt now userID
              (ProductService.trimSpace username)) =
          .ok token := by
  unfold generateAccessToken
  split
  case isTrue hUser => simp [Int.not_lt.mpr hUser]
  case isFalse hUser =>
    dsimp only
    split
    case isTrue hName => simp [hName]
    case isFalse hName => simp [hName, Int.not_le.mp hUser]

/- A token of a manager is read as its claims. -/
theorem parseWithClaims_issued
    {m : TokenManager}
    {jwt : JWT}
    {issued : Time}
    {userID : Int}
    {username token : String}
    (hJWT : jwt.Lawful)
    (hFits :
      (m.accessClaims jwt issued userID
        username).Representable)
    (hSigned :
      jwt.signedString "HS256" m.secret
          (m.accessClaims jwt issued userID username) =
        .ok token)
    (now : Time)
    (claims : UserClaims) :
    jwt.parseWithClaims m.parserOptions m.secret now token =
        .ok claims ↔
      m.Window issued now ∧
        claims = m.accessClaims jwt issued userID username := by
  rw [hJWT.parse_ok_iff,
    hJWT.parse_signed _ _ _ _ hSigned hFits,
    hJWT.verify_signed _ _ _ _ hSigned]
  constructor
  · rintro ⟨method, _, hSame, _, hValid⟩
    cases hSame
    exact ⟨(window_iff hJWT hFits).mp hValid, rfl⟩
  · rintro ⟨hWindow, rfl⟩
    exact ⟨"HS256", List.mem_singleton_self _, rfl, rfl,
      (window_iff hJWT hFits).mpr hWindow⟩

/-
  A token is accepted in its window, and at no other time.
  What is read from it is the user that it was issued for.
-/
theorem access_token_window
    {jwt : JWT}
    {m : TokenManager}
    {issued : Time}
    {userID : Int}
    {username token : String}
    (hJWT : jwt.Lawful)
    (hFits :
      (m.accessClaims jwt issued userID
        (ProductService.trimSpace username)).Representable)
    (hGenerate :
      m.generateAccessToken jwt issued userID username =
        .ok token)
    (now : Time)
    (claims : UserClaims) :
    m.parseAccessToken jwt now token = .ok claims ↔
      m.Window issued now ∧
        claims =
          m.accessClaims jwt issued userID
            (ProductService.trimSpace username) := by
  rcases generateAccessToken_eq_ok_iff.mp hGenerate with
    ⟨hUser, hName, hSigned⟩
  rw [parseAccessToken_eq_ok_iff,
    parseWithClaims_issued hJWT hFits hSigned]
  constructor
  · exact fun h => h.1
  · rintro ⟨hWindow, rfl⟩
    refine ⟨⟨hWindow, rfl⟩, ?_, ?_, hUser, ?_⟩
    · exact Option.some_ne_none _
    · exact Option.some_ne_none _
    · change ProductService.trimSpace
        (ProductService.trimSpace username) ≠ ""
      rwa [trimSpace_trimSpace]

end TokenManager

end OrderManagement
