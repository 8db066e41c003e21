import PettyFlow.Foundation.Separators
import PettyFlow.Security.JwtVerifier

/-! Which tokens are accepted. The parts of a token are read back as they were written, and a
token with a right tag is one that was issued as long as no tag is made without the secret.
-/

namespace PettyFlow.Security

open Foundation

section Parts

theorem b64Encode_eq (data : Bytes) : b64Encode data = Base64.unpadded data :=
  Base64.rdropWhile_urlsafeEncode data

/-- Bytes are read back, whatever the length of their text. -/
theorem b64Decode_b64Encode (data : Bytes) : b64Decode (b64Encode data) = some data := by
  -- The length tells how many marks were cut off
  have filled
      : (if 4 - (b64Encode data).length % 4 ≠ 4 then
            b64Encode data ++ List.replicate (4 - (b64Encode data).length % 4) '='
          else b64Encode data)
        = Base64.urlsafeEncode data := by
    rw [← Base64.unpadded_padding, ← b64Encode_eq, Base64.padding]
    split
    · rename_i unfilled
      have count : (4 - (b64Encode data).length % 4) % 4 = 4 - (b64Encode data).length % 4 := by
        omega
      rw [count]
    · rename_i full
      have count : (4 - (b64Encode data).length % 4) % 4 = 0 := by omega
      rw [count, List.replicate_zero, List.append_nil]
  unfold b64Decode
  dsimp only
  rw [filled, Base64.urlsafeDecode_urlsafeEncode]

theorem parsePart_jsonPart {value : Json} (plain : value.Plain)
    : parsePart (jsonPart value) = some value := by
  unfold parsePart jsonPart
  rw [b64Decode_b64Encode, Option.bind_some, decodeUtf8_utf8, Option.bind_some]
  exact Json.loads_print .spaced plain

theorem b64Encode_noDot (data : Bytes) : '.' ∉ b64Encode data := by
  have each : ∀ n < 64, Base64.toUrlSafe (Base64.digit n) ≠ '.' := by decide
  rw [b64Encode_eq]
  exact fun member => Base64.unpadded_forall (P := fun c => c ≠ '.') each data '.' member rfl

theorem jsonPart_noDot (value : Json) : '.' ∉ jsonPart value := b64Encode_noDot _

theorem tag_noDot (hmac : Bytes → Bytes → Bytes) (v : JWTVerifier) (signingInput : List Char)
    : '.' ∉ v.tag hmac signingInput := b64Encode_noDot _

theorem b64Encode_ascii (data : Bytes)
    : (b64Encode data).all (fun c => c.toNat < 128) = true := by
  have each : ∀ n < 64, (Base64.toUrlSafe (Base64.digit n)).toNat < 128 := by decide
  rw [b64Encode_eq, List.all_eq_true]
  exact fun c member =>
    decide_eq_true (Base64.unpadded_forall (P := fun c => c.toNat < 128) each data c member)

end Parts

/-- The context of a call: what was given to it. -/
def JWTVerifier.grant (v : JWTVerifier) (call : IssueCall) : TenantSecurityContext where
  userId := .str call.userId
  tenantId := .str call.tenantId
  email := .str call.email
  roles := texts call.roles
  permissions := texts (call.permissions.getD [])
  issuedAt := .int call.now
  expiresAt := .int (v.exp call)
  issuer := .str v.issuer

theorem texts_plain (elements : List String) : (texts elements).Plain := by
  change Json.PlainElements (elements.map .str)
  rw [Json.plainElements_iff]
  intro value member
  obtain ⟨text, _, rfl⟩ := List.mem_map.mp member
  trivial

theorem payload_plain (v : JWTVerifier) (call : IssueCall) : (v.payload call).Plain := by
  change Json.PlainMembers _
  rw [Json.plainMembers_iff]
  simp [texts_plain, Json.Plain]

section Verification

variable {hmac : Bytes → Bytes → Bytes} {v w : JWTVerifier} {call : IssueCall} {token : String}
  {leeway now : Int}

/-- Claims that name an expiry, the right issuer and a tenant are read in the order of the
checks.
-/
theorem readClaims_eq {members : List (String × Json)} {exp : Int} {tenantId : String}
    (expiry : (Json.obj members).latest? "exp" = some (.int exp))
    (issuer : (Json.obj members).latest? "iss" = some (.str v.issuer))
    (tenant : (Json.obj members).latest? "tenant_id" = some (.str tenantId))
    : v.readClaims (.obj members) leeway now
      = if exp + leeway < now then .error (.securityContext .expired)
        else if tenantId = "" then .error (.securityContext .missingTenant)
        else
          .ok
            {
              userId := ((Json.obj members).latest? "sub").getD (.str "")
              tenantId := .str tenantId
              email := ((Json.obj members).latest? "email").getD (.str "")
              roles := ((Json.obj members).latest? "roles").getD (.arr [])
              permissions := ((Json.obj members).latest? "permissions").getD (.arr [])
              issuedAt := ((Json.obj members).latest? "iat").getD (.int 0)
              expiresAt := .int exp
              issuer := .str v.issuer
            } := by
  by_cases late : exp + leeway < now
  · simp [JWTVerifier.readClaims, JWTVerifier.contextOf, ClaimValues.get, claimValues, isObject,
      expiry, expiresBefore, late]
  by_cases blank : tenantId = ""
  · simp [JWTVerifier.readClaims, JWTVerifier.contextOf, ClaimValues.get, claimValues, isObject,
      expiry, issuer, tenant, expiresBefore, late, blank, isFalsy, Json.str?]
  · simp [JWTVerifier.readClaims, JWTVerifier.contextOf, JWTVerifier.contextIn, ClaimValues.get,
      claimValues, isObject, expiry, issuer, tenant, expiresBefore, late, blank, isFalsy,
      Json.str?]

/-- The claims of an issued token are those of its call. -/
theorem readClaims_payload (issuer : w.issuer = v.issuer)
    : v.readClaims (w.payload call) leeway now
      = if w.exp call + leeway < now then .error (.securityContext .expired)
        else if call.tenantId = "" then .error (.securityContext .missingTenant)
        else .ok (w.grant call) := by
  have named : (w.payload call).latest? "iss" = some (.str v.issuer) := issuer ▸ rfl
  have read := @readClaims_eq v leeway now _ (w.exp call) call.tenantId rfl named rfl
  rw [← issuer] at read
  exact read

/-- Verifiers with one secret make the same tags. -/
theorem tag_eq (secret : w.signingSecret = v.signingSecret) (signingInput : List Char)
    : w.tag hmac signingInput = v.tag hmac signingInput := by
  unfold JWTVerifier.tag JWTVerifier.secret
  rw [secret]

theorem toList_issueToken (w : JWTVerifier) (call : IssueCall)
    : (w.issueToken hmac call).toList
      = w.signingInput call ++ '.' :: w.tag hmac (w.signingInput call) :=
  String.toList_ofList

/-- An issued token comes apart at its two dots. -/
theorem splitOn_issueToken (w : JWTVerifier) (call : IssueCall)
    : (w.issueToken hmac call).toList.splitOn '.'
      = [jsonPart header, jsonPart (w.payload call), w.tag hmac (w.signingInput call)] := by
  have joined
      : (w.issueToken hmac call).toList
        = ['.'].intercalate
            [jsonPart header, jsonPart (w.payload call), w.tag hmac (w.signingInput call)] := by
    rw [toList_issueToken]
    simp [JWTVerifier.signingInput, List.intercalate_cons_cons]
  have clean
      : ∀ part ∈ [jsonPart header, jsonPart (w.payload call), w.tag hmac (w.signingInput call)],
          '.' ∉ part := by
    intro part member
    simp only [List.mem_cons, List.not_mem_nil, or_false] at member
    rcases member with part | part | part
    · exact part ▸ jsonPart_noDot _
    · exact part ▸ jsonPart_noDot _
    · exact part ▸ tag_noDot hmac w _
  rw [joined]
  exact List.splitOn_intercalate '.' clean (List.cons_ne_nil _ _)

/-- An issued token passes every check up to its claims. -/
theorem verifyToken_issueToken (secret : w.signingSecret = v.signingSecret)
    : v.verifyToken hmac (w.issueToken hmac call) leeway now
      = v.readClaims (w.payload call) leeway now := by
  have ascii : (w.tag hmac (w.signingInput call)).all (fun c => c.toNat < 128) = true :=
    b64Encode_ascii _
  have same
      : w.tag hmac (w.signingInput call)
        = v.tag hmac (jsonPart header ++ '.' :: jsonPart (w.payload call)) :=
    tag_eq secret _
  unfold JWTVerifier.verifyToken
  rw [splitOn_issueToken]
  dsimp only
  rw [if_neg (not_not.mpr ascii), if_neg (not_not.mpr same),
    parsePart_jsonPart (payload_plain w call)]

/-- What is accepted ends in the tag of what stands before it. -/
theorem verifyToken_ok {context : TenantSecurityContext}
    (accepted : v.verifyToken hmac token leeway now = .ok context)
    : ∃ signingInput, token.toList = signingInput ++ '.' :: v.tag hmac signingInput := by
  unfold JWTVerifier.verifyToken at accepted
  split at accepted
  · rename_i headerB64 payloadB64 sigB64 parts
    have joined : ['.'].intercalate [headerB64, payloadB64, sigB64] = token.toList := by
      rw [← parts, List.intercalate_splitOn]
    split at accepted
    · cases accepted
    split at accepted
    · cases accepted
    rename_i tagged
    -- The text that the tag belongs to is what stands before the last dot
    refine ⟨headerB64 ++ '.' :: payloadB64, ?_⟩
    rw [← not_not.mp tagged, ← joined]
    simp [List.intercalate_cons_cons]
  · cases accepted

/-- A foreign tenant passes the boundary only with the role of an administrator. -/
theorem validateTenantBoundary_ok {context : TenantSecurityContext} {tenantId requested : String}
    {roles : List String} (tenant : context.tenantId = .str tenantId)
    (listed : context.roles = texts roles)
    (passed : context.validateTenantBoundary requested = .ok ())
    : tenantId = requested ∨ systemAdmin ∈ roles := by
  by_cases own : tenantId = requested
  · exact Or.inl own
  by_cases admin : systemAdmin ∈ roles
  · exact Or.inr admin
  · have notListed : contains systemAdmin context.roles = .ok false := by
      rw [listed]
      simp only [contains, texts, List.any_map, Except.ok.injEq, List.any_eq_false]
      intro role member same
      exact admin (Option.some.inj (of_decide_eq_true same) ▸ member)
    rw [TenantSecurityContext.validateTenantBoundary, tenant, notListed] at passed
    simp [Json.str?, own, bind, Except.bind, throw, throwThe, MonadExceptOf.throw] at passed

end Verification

/-- A call of `issue_token` under the secret and the issuer of a verifier. -/
structure Issuance (v : JWTVerifier) where
  signer : JWTVerifier
  secret : signer.signingSecret = v.signingSecret
  issuer : signer.issuer = v.issuer
  call : IssueCall

namespace Issuance

variable {v : JWTVerifier} (i : Issuance v)

def token (hmac : Bytes → Bytes → Bytes) : String := i.signer.issueToken hmac i.call

def exp : Int := i.signer.exp i.call

def grant : TenantSecurityContext := i.signer.grant i.call

end Issuance

section History

variable (hmac : Bytes → Bytes → Bytes) (v : JWTVerifier) (history : List (Issuance v))

/-- No tag is made without the secret: where a token presents a text with its tag, the text was
signed in the history.
-/
def Unforged (token : String) : Prop :=
  ∀ signingInput,
    token.toList = signingInput ++ '.' :: v.tag hmac signingInput
    → ∃ i ∈ history, i.signer.signingInput i.call = signingInput

variable {hmac v history} {token : String} {leeway now : Int}

/-- What was issued is not forged: its last dot tells the signed text from the tag. -/
theorem unforged_issued {i : Issuance v} (member : i ∈ history)
    : Unforged hmac v history (i.token hmac) := by
  intro signingInput presented
  rw [Issuance.token, toList_issueToken] at presented
  obtain ⟨signed, _⟩ := split_last (tag_noDot hmac _ _) (tag_noDot hmac _ _) presented
  exact ⟨i, member, signed⟩

/-- A verified token was issued. -/
theorem verified_issued (ideal : Unforged hmac v history token) {context : TenantSecurityContext}
    (accepted : v.verifyToken hmac token leeway now = .ok context)
    : ∃ i ∈ history, token = i.token hmac := by
  obtain ⟨signingInput, presented⟩ := verifyToken_ok accepted
  obtain ⟨i, member, signed⟩ := ideal signingInput presented
  refine ⟨i, member, String.toList_inj.mp ?_⟩
  rw [presented, Issuance.token, toList_issueToken, signed, tag_eq i.secret]

/-- The answer to an issued token, by the order of the checks. -/
theorem verifyToken_issuance (i : Issuance v)
    : v.verifyToken hmac (i.token hmac) leeway now
      = if i.exp + leeway < now then .error (.securityContext .expired)
        else if i.call.tenantId = "" then .error (.securityContext .missingTenant)
        else .ok i.grant :=
  (verifyToken_issueToken i.secret).trans (readClaims_payload i.issuer)

/-- An issued token is accepted when it is not expired and names a tenant, with its own claims. -/
theorem verifyToken_issuance_ok {i : Issuance v} {context : TenantSecurityContext}
    : v.verifyToken hmac (i.token hmac) leeway now = .ok context
      ↔ now ≤ i.exp + leeway ∧ i.call.tenantId ≠ "" ∧ context = i.grant := by
  rw [verifyToken_issuance]
  split
  · rename_i late
    constructor
    · intro accepted
      cases accepted
    · rintro ⟨early, _⟩
      omega
  split
  · rename_i blank
    constructor
    · intro accepted
      cases accepted
    · rintro ⟨_, named, _⟩
      exact absurd blank named
  · rename_i early named
    constructor
    · intro accepted
      exact ⟨by omega, named, (Except.ok.inj accepted).symm⟩
    · rintro ⟨_, _, rfl⟩
      rfl

/-- Exactly the issued tokens that are not expired and name a tenant are accepted, each with the
claims of the call that issued it. So whoever passes a tenant's boundary holds a token that was
issued for the tenant or for a system administrator.
-/
theorem tokens_accepted_iff (hmac : Bytes → Bytes → Bytes) (v : JWTVerifier)
    (history : List (Issuance v)) (token : String) (leeway now : Int)
    (ideal : Unforged hmac v history token)
    : ((∃ context, v.verifyToken hmac token leeway now = .ok context)
        ↔ ∃ i ∈ history,
            token = i.token hmac ∧ now ≤ i.exp + leeway ∧ i.call.tenantId ≠ "")
      ∧ (∀ i ∈ history, ∀ context,
          token = i.token hmac
          → v.verifyToken hmac token leeway now = .ok context
          → context = i.grant)
      ∧ ∀ context requested,
          v.verifyToken hmac token leeway now = .ok context
          → context.validateTenantBoundary requested = .ok ()
          → ∃ i ∈ history,
              token = i.token hmac
              ∧ (i.call.tenantId = requested ∨ systemAdmin ∈ i.call.roles) := by
  refine ⟨⟨?_, ?_⟩, ?_, ?_⟩
  · rintro ⟨context, accepted⟩
    obtain ⟨i, member, rfl⟩ := verified_issued ideal accepted
    obtain ⟨early, named, _⟩ := verifyToken_issuance_ok.mp accepted
    exact ⟨i, member, rfl, early, named⟩
  · rintro ⟨i, _, rfl, early, named⟩
    exact ⟨i.grant, verifyToken_issuance_ok.mpr ⟨early, named, rfl⟩⟩
  · rintro i _ context rfl accepted
    exact (verifyToken_issuance_ok.mp accepted).2.2
  · intro context requested accepted passed
    obtain ⟨i, member, rfl⟩ := verified_issued ideal accepted
    obtain ⟨_, _, rfl⟩ := verifyToken_issuance_ok.mp accepted
    exact ⟨i, member, rfl, validateTenantBoundary_ok rfl rfl passed⟩

end History

section Sample

def sampleVerifier : JWTVerifier where
  signingSecret := "pettyflow-dev-secret-key-32bytes-long!!"
  issuer := "pettyflow-auth-service"
  defaultExpirySeconds := 3600

def auditorCall : IssueCall where
  userId := "user-1"
  tenantId := "tenant-a"
  email := "a@example.org"
  roles := ["AUDITOR"]
  permissions := none
  expirySeconds := none
  now := 1700000000

def auditorIssuance : Issuance sampleVerifier := ⟨sampleVerifier, rfl, rfl, auditorCall⟩

/-- HMAC-SHA256 on the only text that is signed here. -/
def auditorHmac (key message : Bytes) : Bytes :=
  if key = sampleVerifier.secret
      ∧ message = utf8 (String.ofList (sampleVerifier.signingInput auditorCall)) then
    [
      246, 142, 58, 43, 250, 114, 235, 70, 76, 147, 135, 89, 136, 169, 25, 127, 0, 84, 192, 201,
      100, 147, 190, 24, 245, 187, 172, 192, 62, 122, 233, 158
    ]
  else
    []

/-- The token is verified at the last second of its leeway, and reaches no other tenant. -/
theorem tokens_accepted_iff_sample
    : (∃ context,
        sampleVerifier.verifyToken auditorHmac (auditorIssuance.token auditorHmac) 60 1700003660
        = .ok context)
      ∧ auditorIssuance.grant.validateTenantBoundary "tenant-b" ≠ .ok () := by
  have ideal
      : Unforged auditorHmac sampleVerifier [auditorIssuance] (auditorIssuance.token auditorHmac) :=
    unforged_issued List.mem_cons_self
  have result := tokens_accepted_iff auditorHmac sampleVerifier [auditorIssuance]
    (auditorIssuance.token auditorHmac) 60 1700003660 ideal
  have accepted := result.1.mpr
    ⟨auditorIssuance, List.mem_cons_self, rfl, by decide, by decide⟩
  refine ⟨accepted, fun passed => ?_⟩
  obtain ⟨context, verified⟩ := accepted
  have granted := result.2.1 auditorIssuance List.mem_cons_self context rfl verified
  obtain ⟨i, member, _, reached⟩ := result.2.2 context "tenant-b" verified (granted ▸ passed)
  rw [List.mem_singleton.mp member] at reached
  exact absurd reached (by decide)

end Sample

end PettyFlow.Security
