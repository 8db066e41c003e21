import PettyFlow.Foundation.WideJson
import PettyFlow.Security.Tokens

/-! What the verification of a token raises, for texts of any code points. Only the decoding of
the payload is guarded, so that other steps let exceptions of their own escape.
-/

namespace PettyFlow.Security

open Foundation

/-- What the verification of any text raises. -/
abbrev WideRaised := RaisedOf WideJson

/-- The exception is of the class that callers handle. -/
def RaisedOf.IsSecurityContextError {ρ : Type} : RaisedOf ρ → Prop
  | .securityContext _ => True
  | _ => False

/-- A security context whose texts may hold halves of characters. -/
abbrev WideSecurityContext := SecurityContextOf WideJson

/-- A value as far as it counts as a number. -/
def numeral : WideJson → Json
  | .bool value => .bool value
  | .int n => .int n
  | .float text => .float text
  | _ => .null

/-- A value counts as missing when it is nothing, no number, or empty. -/
def isWideFalsy : WideJson → Bool
  | .str text => text.isEmpty
  | .arr elements => elements.isEmpty
  | .obj members => members.isEmpty
  | value => isFalsy (numeral value)

/-- The value is a text of characters. -/
def isText (text : String) : WideJson → Bool
  | .str value => value = .ofChars text.toList
  | _ => false

def isWideObject : WideJson → Bool
  | .obj _ => true
  | _ => false

/-- Values whose texts may hold halves of characters. -/
def wideClaimValues : ClaimValues WideJson where
  isObject := isWideObject
  latest? := WideJson.latest?
  ofJson := Json.widen
  numeral := numeral
  isText := isText
  isFalsy := isWideFalsy

/-- The value that a part of a token carries, if it carries one. -/
def parseWidePart (limits : ReaderLimits) (part : WideText) : Option WideJson :=
  part.chars?.bind (fun chars =>
    (b64Decode chars).bind (fun bytes => (decodeUtf8 bytes).bind (WideJson.loads limits)))

namespace JWTVerifier

/-- The verification of any text. A text with halves of characters cannot be encoded. -/
def verifyText (v : JWTVerifier) (hmac : Bytes → Bytes → Bytes) (limits : ReaderLimits)
    (token : WideText) (leewaySeconds now : Int)
    : Except WideRaised WideSecurityContext :=
  match token.splitOn (.char '.') with
  | [headerB64, payloadB64, sigB64] =>
      match WideText.chars? (headerB64 ++ .char '.' :: payloadB64) with
      | none => .error .unicodeEncodeError
      | some signingInput =>
          if ¬ WideText.isAscii sigB64 then
            .error .typeError
          else if sigB64 ≠ WideText.ofChars (v.tag hmac signingInput) then
            .error (.securityContext .invalidSignature)
          else
            match parseWidePart limits payloadB64 with
            | none => .error (.securityContext .unparsable)
            | some payload => v.contextOf wideClaimValues payload leewaySeconds now
  | _ => .error (.securityContext .malformed)

end JWTVerifier

/-- A call returns, or raises an exception of the class that callers handle. -/
def Handled {α : Type} (result : Except WideRaised α) : Prop :=
  (∃ value, result = .ok value) ∨ ∃ error, result = .error error ∧ error.IsSecurityContextError

/-- A value to which the leeway can be added. The sum with a float is one of doubles. -/
def Numeric (leewaySeconds : Int) : WideJson → Prop
  | .bool _ | .int _ => True
  | .float _ => (FloatValue.ofInt? leewaySeconds).isSome
  | _ => False

/-- An object whose expiry, if it names one, is a number. -/
def ClaimsTyped (leewaySeconds : Int) (payload : WideJson) : Prop :=
  (∃ members, payload = .obj members)
  ∧ ∀ exp, payload.latest? "exp" = some exp → Numeric leewaySeconds exp

/-- A text that every step of the verification can take: where it has three parts, the first two
can be encoded and the third is ASCII, and where the third is the tag of the others, a payload
that is read has typed claims.
-/
def JWTVerifier.TokenTyped (v : JWTVerifier) (hmac : Bytes → Bytes → Bytes)
    (limits : ReaderLimits) (token : WideText) (leewaySeconds : Int)
    : Prop :=
  ∀ headerB64 payloadB64 sigB64,
    token.splitOn (.char '.') = [headerB64, payloadB64, sigB64]
    → ∃ signingInput,
        WideText.chars? (headerB64 ++ .char '.' :: payloadB64) = some signingInput
        ∧ WideText.isAscii sigB64 = true
        ∧ (sigB64 = WideText.ofChars (v.tag hmac signingInput)
          → ∀ payload,
              parseWidePart limits payloadB64 = some payload
              → ClaimsTyped leewaySeconds payload)

section Handling

variable {α : Type} {v : JWTVerifier} {hmac : Bytes → Bytes → Bytes} {limits : ReaderLimits}
  {leeway now : Int}

theorem handled_ok (value : α) : Handled (.ok value) := Or.inl ⟨value, rfl⟩

theorem handled_error_iff (error : WideRaised)
    : Handled (.error error : Except WideRaised α) ↔ error.IsSecurityContextError := by
  constructor
  · rintro (⟨_, returned⟩ | ⟨_, raised, own⟩)
    · cases returned
    · cases raised
      exact own
  · exact fun own => Or.inr ⟨error, rfl, own⟩

/-- An expiry is compared exactly when it is a number. -/
theorem expiresBefore_ok_iff (exp : WideJson)
    : (∃ late, expiresBefore WideJson leeway now (numeral exp) = .ok late)
      ↔ Numeric leeway exp := by
  cases exp with
  | float text =>
      unfold numeral expiresBefore Numeric
      cases FloatValue.ofInt? leeway with
      | none => simp
      | some value => simp
  | bool value => simp [numeral, expiresBefore, Numeric]
  | int n => simp [numeral, expiresBefore, Numeric]
  | null => simp [numeral, expiresBefore, Numeric]
  | str text => simp [numeral, expiresBefore, Numeric]
  | arr elements => simp [numeral, expiresBefore, Numeric]
  | obj members => simp [numeral, expiresBefore, Numeric]

/-- The comparison of an expiry never raises the class that callers handle. -/
theorem expiresBefore_error {exp : Json} {error : WideRaised}
    (raised : expiresBefore WideJson leeway now exp = .error error)
    : ¬ error.IsSecurityContextError := by
  unfold expiresBefore at raised
  split at raised
  · cases raised
  · cases raised
  · split at raised
    · cases raised
    · cases raised
      exact id
  · cases raised
    exact id

/-- Claims are read without another exception exactly when they are typed. -/
theorem contextOf_handled_iff (payload : WideJson)
    : Handled (v.contextOf wideClaimValues payload leeway now) ↔ ClaimsTyped leeway payload := by
  cases payload with
  | obj members =>
      let exp := wideClaimValues.get (.obj members) "exp" (.int 0)
      have expiry : Numeric leeway exp ↔ ClaimsTyped leeway (.obj members) := by
        unfold exp ClaimsTyped ClaimValues.get
        dsimp only [wideClaimValues, Json.widen]
        cases (WideJson.obj members).latest? "exp" with
        | none => simp [Numeric]
        | some exp => simp
      rw [← expiry, ← @expiresBefore_ok_iff leeway now]
      cases compared : expiresBefore WideJson leeway now (numeral exp) with
      | error error =>
          have raised
              : v.contextOf wideClaimValues (.obj members) leeway now = .error error :=
            contextOf_of_incomparable rfl compared
          simp [raised, handled_error_iff, expiresBefore_error compared]
      | ok late =>
          refine iff_of_true ?_ ⟨late, rfl⟩
          obtain ⟨context, read⟩ | ⟨error, raised⟩
            : (∃ context, v.contextOf wideClaimValues (.obj members) leeway now = .ok context)
              ∨ ∃ error, v.contextOf wideClaimValues (.obj members) leeway now
                = .error (.securityContext error) :=
            contextOf_of_comparable rfl compared
          · exact read ▸ handled_ok context
          · exact raised ▸ (handled_error_iff _).mpr trivial
  | _ =>
      refine iff_of_false (fun handled => (handled_error_iff _).mp handled) ?_
      rintro ⟨⟨_, same⟩, _⟩
      cases same

/-- With three parts at hand, a text is typed when these parts are. -/
theorem tokenTyped_iff_of_parts {token headerB64 payloadB64 sigB64 : WideText}
    (parts : token.splitOn (.char '.') = [headerB64, payloadB64, sigB64])
    : v.TokenTyped hmac limits token leeway
      ↔ ∃ signingInput,
          WideText.chars? (headerB64 ++ .char '.' :: payloadB64) = some signingInput
          ∧ WideText.isAscii sigB64 = true
          ∧ (sigB64 = WideText.ofChars (v.tag hmac signingInput)
            → ∀ payload,
                parseWidePart limits payloadB64 = some payload
                → ClaimsTyped leeway payload) := by
  constructor
  · exact fun typed => typed headerB64 payloadB64 sigB64 parts
  · intro typed header payload sig split
    rw [parts] at split
    cases split
    exact typed

/-- A text is verified without another exception exactly when every step can take it. -/
theorem verifyText_handled_iff (v : JWTVerifier) (hmac : Bytes → Bytes → Bytes)
    (limits : ReaderLimits) (token : WideText) (leewaySeconds now : Int)
    : Handled (v.verifyText hmac limits token leewaySeconds now)
      ↔ v.TokenTyped hmac limits token leewaySeconds := by
  unfold JWTVerifier.verifyText
  split
  · rename_i headerB64 payloadB64 sigB64 parts
    rw [tokenTyped_iff_of_parts parts]
    cases WideText.chars? (headerB64 ++ .char '.' :: payloadB64) with
    | none => simp [handled_error_iff, RaisedOf.IsSecurityContextError]
    | some signingInput =>
        simp only [Option.some.injEq, exists_eq_left']
        by_cases ascii : WideText.isAscii sigB64 = true
        · by_cases tagged : sigB64 = WideText.ofChars (v.tag hmac signingInput)
          · rw [if_neg (not_not.mpr ascii), if_neg (not_not.mpr tagged)]
            cases parseWidePart limits payloadB64 with
            | none => simp [handled_error_iff, RaisedOf.IsSecurityContextError, ascii]
            | some payload =>
                rw [contextOf_handled_iff]
                constructor
                · exact fun typed => ⟨ascii, fun _ _ same => Option.some.inj same ▸ typed⟩
                · exact fun typed => typed.2 tagged payload rfl
          · rw [if_neg (not_not.mpr ascii), if_pos tagged]
            simp [handled_error_iff, RaisedOf.IsSecurityContextError, ascii, tagged]
        · rw [if_pos ascii]
          simp [handled_error_iff, RaisedOf.IsSecurityContextError, ascii]
  · rename_i otherwise
    refine iff_of_true ((handled_error_iff _).mpr trivial) ?_
    intro headerB64 payloadB64 sigB64 parts
    exact absurd parts (otherwise headerB64 payloadB64 sigB64)

/-- A mark that is no ASCII in the third part lets another exception escape. -/
theorem verifyText_foreign
    : ¬ Handled
        (JWTVerifier.verifyText ⟨"secret", "auth", 3600⟩ (fun _ _ => []) ⟨some 4300, some 900⟩
          [.char '.', .char '.', .char 'é'] 0 0) := by
  have raised
      : JWTVerifier.verifyText ⟨"secret", "auth", 3600⟩ (fun _ _ => []) ⟨some 4300, some 900⟩
          [.char '.', .char '.', .char 'é'] 0 0
        = .error .typeError := by
    rfl
  rw [raised]
  exact fun handled => (handled_error_iff _).mp handled

end Handling

/-- The same context among those whose texts may hold halves. -/
def SecurityContextOf.widen (context : TenantSecurityContext) : WideSecurityContext where
  userId := context.userId.widen
  tenantId := context.tenantId.widen
  email := context.email.widen
  roles := context.roles.widen
  permissions := context.permissions.widen
  issuedAt := context.issuedAt.widen
  expiresAt := context.expiresAt.widen
  issuer := context.issuer.widen

section Widening

variable {v : JWTVerifier} {hmac : Bytes → Bytes → Bytes} {leeway now : Int}

theorem expiresBefore_widen {exp : Json} {late : Bool}
    (compared : expiresBefore Json leeway now exp = .ok late)
    : expiresBefore WideJson leeway now (numeral exp.widen) = .ok late := by
  cases exp with
  | bool value | int n =>
      cases compared
      rfl
  | float text =>
      unfold expiresBefore at compared
      simp only [Json.widen, numeral, expiresBefore]
      cases found : FloatValue.ofInt? leeway with
      | none =>
          rw [found] at compared
          cases compared
      | some value =>
          rw [found] at compared
          cases compared
          rfl
  | _ => cases compared

theorem isWideFalsy_widen (value : Json) : isWideFalsy value.widen = isFalsy value := by
  cases value with
  | str text =>
      simp only [Json.widen, isWideFalsy, isFalsy, WideText.ofChars, List.isEmpty_map]
      rw [Bool.eq_iff_iff, List.isEmpty_iff, String.toList_eq_nil_iff, decide_eq_true_iff]
  | arr elements => cases elements <;> rfl
  | obj members => cases members <;> rfl
  | _ => rfl

theorem isText_widen (text : String) (value : Json)
    : isText text value.widen = true ↔ value.str? = some text := by
  cases value with
  | str other =>
      simp only [Json.widen, isText, Json.str?, decide_eq_true_eq, Option.some.injEq]
      constructor
      · exact fun same => String.toList_injective (WideText.ofChars_injective same)
      · exact fun same => same ▸ rfl
  | _ => simp [Json.widen, isText, Json.str?]

theorem parseWidePart_of_narrow {part : List Char} {value : Json}
    (parsed : parsePart part = some value)
    : parseWidePart WideJson.unlimited (.ofChars part) = some value.widen := by
  obtain ⟨bytes, decoded, parsed⟩ := Option.bind_eq_some_iff.mp parsed
  obtain ⟨text, read, parsed⟩ := Option.bind_eq_some_iff.mp parsed
  rw [parseWidePart, WideText.chars?_ofChars, Option.bind_some, decoded, Option.bind_some, read,
    Option.bind_some]
  exact WideJson.loads_of_narrow parsed

/-- Claims that are read are read alike when their texts may hold halves. -/
theorem contextOf_of_narrow {payload : Json} {context : TenantSecurityContext}
    (read : v.readClaims payload leeway now = .ok context)
    : v.contextOf wideClaimValues payload.widen leeway now = .ok context.widen := by
  have get (name : String) (default : Json)
      : wideClaimValues.get payload.widen name default
        = (claimValues.get payload name default).widen := by
    unfold ClaimValues.get
    dsimp only [wideClaimValues, claimValues, id]
    rw [WideJson.latest?_widen, Option.getD_map]
  obtain ⟨object, compared, own, named, rfl⟩ := contextOf_eq_ok_iff.mp read
  refine contextOf_eq_ok_iff.mpr ⟨?_, ?_, ?_, ?_, ?_⟩
  · cases payload with
    | obj members => rfl
    | _ => cases object
  · rw [get]
    exact expiresBefore_widen compared
  · rw [get]
    exact (isText_widen v.issuer _).mpr (of_decide_eq_true own)
  · rw [get]
    exact (isWideFalsy_widen _).trans named
  · simp only [JWTVerifier.contextIn, SecurityContextOf.widen, get]

/-- A token that is accepted is accepted alike as a text of code points. -/
theorem verifyText_of_narrow {token : String} {context : TenantSecurityContext}
    (accepted : v.verifyToken hmac token leeway now = .ok context)
    : v.verifyText hmac WideJson.unlimited (.ofChars token.toList) leeway now
      = .ok context.widen := by
  unfold JWTVerifier.verifyToken at accepted
  split at accepted
  · rename_i headerB64 payloadB64 sigB64 parts
    have wide
        : (WideText.ofChars token.toList).splitOn (.char '.')
          = [headerB64, payloadB64, sigB64].map WideText.ofChars := by
      have mapped := splitOn_map (fun _ _ => CodePoint.char.inj) '.' token.toList
      rw [parts] at mapped
      exact mapped
    have joined
        : WideText.ofChars headerB64 ++ .char '.' :: WideText.ofChars payloadB64
          = .ofChars (headerB64 ++ '.' :: payloadB64) := by
      simp [WideText.ofChars]
    unfold JWTVerifier.verifyText
    rw [wide]
    dsimp only [List.map]
    rw [joined, WideText.chars?_ofChars]
    dsimp only
    split at accepted
    · cases accepted
    rename_i ascii
    split at accepted
    · cases accepted
    rename_i tagged
    split at accepted
    · cases accepted
    · rename_i payload parsed
      rw [if_neg (by rwa [WideText.isAscii_ofChars]), if_neg (by rw [not_not.mp tagged]; simp),
        parseWidePart_of_narrow parsed]
      exact contextOf_of_narrow accepted
  · cases accepted

end Widening

end PettyFlow.Security
