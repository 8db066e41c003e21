import PettyFlow.Foundation.Base64
import PettyFlow.Foundation.FloatValue
import PettyFlow.Foundation.JsonRoundTrip

/-! The issuer and verifier of signed tokens that carry a tenant. A token is a header, a payload
and a tag over both, each as base64 without padding, separated by dots. What a payload holds is
checked when it is used, so the fields of a security context are values as they were read.
-/

namespace PettyFlow.Security

open Foundation

/-- The value of `UserRole.SYSTEM_ADMIN`. -/
def systemAdmin : String := "SYSTEM_ADMIN"

/-- An error that callers handle, over values as they were read. -/
inductive SecurityContextErrorOf (ρ : Type) where
  | malformed
  | invalidSignature
  /-- The payload is no base64, no UTF-8 or no JSON. -/
  | unparsable
  | expired
  | issuerMismatch (expected : String) (got : ρ)
  | missingTenant
  | boundaryViolation (tokenTenant : ρ) (requested : String)

/-- The text of an error, in which `shown` stands for how a value looks inside a text and
`cause` for the text of the exception that was caught.
-/
def SecurityContextErrorOf.message {ρ : Type} (shown : ρ → String) (cause : String)
    : SecurityContextErrorOf ρ → String
  | malformed => "Malformed JWT token: must contain 3 dot-separated parts."
  | invalidSignature => "Invalid JWT cryptographic signature."
  | unparsable => "Failed to parse JWT payload: " ++ cause
  | expired => "JWT token has expired."
  | issuerMismatch expected got =>
      "JWT issuer mismatch: expected '" ++ expected ++ "', got '" ++ shown got ++ "'"
  | missingTenant => "Missing mandatory 'tenant_id' claim in JWT token."
  | boundaryViolation tokenTenant requested =>
      "Multi-tenant boundary violation: Token tenant '" ++ shown tokenTenant
        ++ "' attempted to access tenant '" ++ requested ++ "'."

/-- What a call raises. -/
inductive RaisedOf (ρ : Type) where
  | securityContext (error : SecurityContextErrorOf ρ)
  | typeError
  | attributeError
  | overflowError
  | unicodeEncodeError

structure SecurityContextOf (ρ : Type) where
  userId : ρ
  tenantId : ρ
  email : ρ
  roles : ρ
  permissions : ρ
  issuedAt : ρ
  expiresAt : ρ
  issuer : ρ

abbrev SecurityContextError := SecurityContextErrorOf Json

abbrev Raised := RaisedOf Json

abbrev TenantSecurityContext := SecurityContextOf Json

/-- A text is in a container: an element of a list, a part of a text or a name of an object.
Other values are no containers.
-/
def contains (text : String) : Json → Except Raised Bool
  | .arr elements => .ok (elements.any (fun element => element.str? = some text))
  | .str whole => .ok (text.toList <:+: whole.toList)
  | .obj members => .ok (members.any (fun member => member.1 = text))
  | _ => .error .typeError

def TenantSecurityContext.validateTenantBoundary (context : TenantSecurityContext)
    (requestedTenantId : String)
    : Except Raised Unit := do
  if context.tenantId.str? = some requestedTenantId then
    return
  if !(← contains systemAdmin context.roles) then
    throw (.securityContext (.boundaryViolation context.tenantId requestedTenantId))

structure JWTVerifier where
  signingSecret : String
  issuer : String
  defaultExpirySeconds : Int

def JWTVerifier.secret (v : JWTVerifier) : Bytes := utf8 v.signingSecret

/-- The text of bytes without the marks at its end. -/
def b64Encode (data : Bytes) : List Char :=
  (Base64.urlsafeEncode data).rdropWhile (fun c => c = '=')

/-- The bytes of a text whose length was filled up to a multiple of four. -/
def b64Decode (dataStr : List Char) : Option Bytes :=
  let padding := 4 - dataStr.length % 4
  let padded := if padding ≠ 4 then dataStr ++ List.replicate padding '=' else dataStr
  Base64.urlsafeDecode padded

/-- The arguments of a call of `issue_token` and the time at which it is made. -/
structure IssueCall where
  userId : String
  tenantId : String
  email : String
  roles : List String
  permissions : Option (List String)
  expirySeconds : Option Int
  now : Int

/-- When the token of a call expires. No seconds, or none given, mean the default. -/
def JWTVerifier.exp (v : JWTVerifier) (call : IssueCall) : Int :=
  call.now + (if call.expirySeconds.getD 0 = 0 then v.defaultExpirySeconds
    else call.expirySeconds.getD 0)

def header : Json := .obj [("alg", .str "HS256"), ("typ", .str "JWT")]

def texts (elements : List String) : Json := .arr (elements.map .str)

def JWTVerifier.payload (v : JWTVerifier) (call : IssueCall) : Json :=
  .obj
    [
      ("sub", .str call.userId),
      ("tenant_id", .str call.tenantId),
      ("email", .str call.email),
      ("roles", texts call.roles),
      ("permissions", texts (call.permissions.getD [])),
      ("iat", .int call.now),
      ("exp", .int (v.exp call)),
      ("iss", .str v.issuer)
    ]

/-- A part of a token that carries a value. -/
def jsonPart (value : Json) : List Char :=
  b64Encode (utf8 (String.ofList (value.print .spaced)))

example : String.ofList (jsonPart header) = "eyJhbGciOiAiSFMyNTYiLCAidHlwIjogIkpXVCJ9" := by
  decide +kernel

def JWTVerifier.signingInput (v : JWTVerifier) (call : IssueCall) : List Char :=
  jsonPart header ++ '.' :: jsonPart (v.payload call)

/-- An expiry with its leeway lies before a time. A truth value counts as a number. -/
def expiresBefore (ρ : Type) (leewaySeconds now : Int) : Json → Except (RaisedOf ρ) Bool
  | .int exp => .ok (exp + leewaySeconds < now)
  | .bool exp => .ok ((if exp then 1 else 0) + leewaySeconds < now)
  | .float text =>
      match FloatValue.ofInt? leewaySeconds with
      | some leeway => .ok (((FloatValue.ofText text).add leeway).ltInt now)
      | none => .error .overflowError
  | _ => .error .typeError

/-- A value counts as missing when it is nothing, no number, or empty. -/
def isFalsy : Json → Bool
  | .null => true
  | .bool value => !value
  | .int n => n = 0
  | .float text => (FloatValue.ofText text).isZero
  | .str text => text = ""
  | .arr elements => elements.isEmpty
  | .obj members => members.isEmpty

/-- What reading the claims of a payload asks of its values. -/
structure ClaimValues (ρ : Type) where
  isObject : ρ → Bool
  latest? : String → ρ → Option ρ
  ofJson : Json → ρ
  /-- The value as far as it counts as a number. -/
  numeral : ρ → Json
  isText : String → ρ → Bool
  isFalsy : ρ → Bool

/-- The claim of a name, or its default. -/
def ClaimValues.get {ρ : Type} (values : ClaimValues ρ) (payload : ρ) (name : String)
    (default : Json)
    : ρ :=
  (values.latest? name payload).getD (values.ofJson default)

/-- The context that the claims of a payload describe. -/
def JWTVerifier.contextIn {ρ : Type} (values : ClaimValues ρ) (v : JWTVerifier) (payload : ρ)
    : SecurityContextOf ρ where
  userId := values.get payload "sub" (.str "")
  tenantId := values.get payload "tenant_id" .null
  email := values.get payload "email" (.str "")
  roles := values.get payload "roles" (.arr [])
  permissions := values.get payload "permissions" (.arr [])
  issuedAt := values.get payload "iat" (.int 0)
  expiresAt := values.get payload "exp" (.int 0)
  issuer := values.get payload "iss" (.str v.issuer)

/-- The claims of a payload, read once its signature was verified. -/
def JWTVerifier.contextOf {ρ : Type} (values : ClaimValues ρ) (v : JWTVerifier) (payload : ρ)
    (leewaySeconds now : Int)
    : Except (RaisedOf ρ) (SecurityContextOf ρ) :=
  if ¬ values.isObject payload then
    .error .attributeError
  else
    match
      expiresBefore ρ leewaySeconds now (values.numeral (values.get payload "exp" (.int 0)))
    with
    | .error error => .error error
    | .ok true => .error (.securityContext .expired)
    | .ok false =>
        if ¬ values.isText v.issuer (values.get payload "iss" .null) then
          .error (.securityContext
            (.issuerMismatch v.issuer (values.get payload "iss" .null)))
        else if values.isFalsy (values.get payload "tenant_id" .null) then
          .error (.securityContext .missingTenant)
        else
          .ok (v.contextIn values payload)

section Reading

variable {ρ : Type} {values : ClaimValues ρ} {v : JWTVerifier} {payload : ρ} {leeway now : Int}

/-- Claims are read exactly when they are an object in time of the issuer and name a tenant. -/
theorem contextOf_eq_ok_iff {context : SecurityContextOf ρ}
    : v.contextOf values payload leeway now = .ok context
      ↔ values.isObject payload = true
        ∧ expiresBefore ρ leeway now (values.numeral (values.get payload "exp" (.int 0)))
          = .ok false
        ∧ values.isText v.issuer (values.get payload "iss" .null) = true
        ∧ values.isFalsy (values.get payload "tenant_id" .null) = false
        ∧ v.contextIn values payload = context := by
  unfold JWTVerifier.contextOf
  by_cases object : values.isObject payload = true
  · rw [if_neg (not_not.mpr object)]
    cases expiresBefore ρ leeway now (values.numeral (values.get payload "exp" (.int 0))) with
    | error error => simp
    | ok late =>
        cases late with
        | true => simp
        | false =>
            by_cases own : values.isText v.issuer (values.get payload "iss" .null) = true
            · by_cases missing : values.isFalsy (values.get payload "tenant_id" .null) = true
              · simp [own, missing]
              · simp [object, own, missing]
            · simp [own]
  · simp [object]

/-- Claims whose expiry cannot be compared raise what the comparison raises. -/
theorem contextOf_of_incomparable (object : values.isObject payload = true)
    {error : RaisedOf ρ}
    (compared
      : expiresBefore ρ leeway now (values.numeral (values.get payload "exp" (.int 0)))
        = .error error)
    : v.contextOf values payload leeway now = .error error := by
  unfold JWTVerifier.contextOf
  rw [if_neg (not_not.mpr object), compared]

/-- Claims whose expiry is compared are read, or raise the class that callers handle. -/
theorem contextOf_of_comparable (object : values.isObject payload = true) {late : Bool}
    (compared
      : expiresBefore ρ leeway now (values.numeral (values.get payload "exp" (.int 0)))
        = .ok late)
    : (∃ context, v.contextOf values payload leeway now = .ok context)
      ∨ ∃ error, v.contextOf values payload leeway now = .error (.securityContext error) := by
  unfold JWTVerifier.contextOf
  rw [if_neg (not_not.mpr object), compared]
  cases late with
  | true => exact Or.inr ⟨_, rfl⟩
  | false =>
      dsimp only
      split
      · exact Or.inr ⟨_, rfl⟩
      split
      · exact Or.inr ⟨_, rfl⟩
      · exact Or.inl ⟨_, rfl⟩

end Reading

def isObject : Json → Bool
  | .obj _ => true
  | _ => false

/-- Values whose texts are of characters. -/
def claimValues : ClaimValues Json where
  isObject := isObject
  latest? := Json.latest?
  ofJson := id
  numeral := id
  isText text value := value.str? = some text
  isFalsy := isFalsy

def JWTVerifier.readClaims (v : JWTVerifier) (payload : Json) (leewaySeconds now : Int)
    : Except Raised TenantSecurityContext :=
  v.contextOf claimValues payload leewaySeconds now

section Tokens

variable (hmac : Bytes → Bytes → Bytes)

/-- The tag of a text, as it stands in a token. -/
def JWTVerifier.tag (v : JWTVerifier) (signingInput : List Char) : List Char :=
  b64Encode (hmac v.secret (utf8 (String.ofList signingInput)))

def JWTVerifier.issueToken (v : JWTVerifier) (call : IssueCall) : String :=
  String.ofList (v.signingInput call ++ '.' :: v.tag hmac (v.signingInput call))

/-- The value that a part of a token carries, if it carries one. -/
def parsePart (part : List Char) : Option Json :=
  (b64Decode part).bind (fun bytes => (decodeUtf8 bytes).bind Json.loads)

/-- The verification of a token. Tags can be compared only when both are ASCII. -/
def JWTVerifier.verifyToken (v : JWTVerifier) (token : String) (leewaySeconds now : Int)
    : Except Raised TenantSecurityContext :=
  match token.toList.splitOn '.' with
  | [headerB64, payloadB64, sigB64] =>
      if ¬ sigB64.all (fun c => c.toNat < 128) then
        .error .typeError
      else if sigB64 ≠ v.tag hmac (headerB64 ++ '.' :: payloadB64) then
        .error (.securityContext .invalidSignature)
      else
        match parsePart payloadB64 with
        | none => .error (.securityContext .unparsable)
        | some payload => v.readClaims payload leewaySeconds now
  | _ => .error (.securityContext .malformed)

end Tokens

end PettyFlow.Security
