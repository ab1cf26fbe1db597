import RecordQuery.Caller.User
import RecordQuery.Digest.Base64
import RecordQuery.Value.Printer
import RecordQuery.Value.Reader

/-!
Signed caller tokens: a header, claims and a signature, each encoded, joined by points. A token only
proves who the caller is.
-/

namespace RecordQuery

/-- Why a caller is not known. -/
inductive AuthError
  | authenticationRequired
  | malformedToken
  | tokenExpired
  | invalidSignature
  | invalidToken
  | userNotFound
  | invalidUser (e : UserError)
  | storage (reason : String)

namespace AuthError

/-- Errors that another token would not mend are the server's. -/
def status : AuthError → Nat
  | invalidUser _ | storage _ => 500
  | _ => 401

def kind : AuthError → String
  | authenticationRequired => "AuthenticationRequired"
  | malformedToken => "MalformedToken"
  | tokenExpired => "TokenExpired"
  | invalidSignature => "InvalidSignature"
  | invalidToken => "InvalidToken"
  | userNotFound => "UserNotFound"
  | invalidUser _ => "InvalidUser"
  | storage _ => "StorageError"

def message : AuthError → String
  | authenticationRequired => "Authentication required"
  | malformedToken => "Malformed token"
  | tokenExpired => "Token expired"
  | invalidSignature => "Invalid token signature"
  | invalidToken => "Invalid or expired token"
  | userNotFound => "User not found"
  | invalidUser e => "Invalid user record: " ++ e.message
  | storage reason => "Storage error: " ++ reason

end AuthError

structure Claims where
  /-- Identifier of the user record. -/
  subject : String
  issuedAt : Int
  expiresAt : Int
  audience : String
  issuer : String
  deriving DecidableEq, Repr

structure TokenSettings where
  secret : String
  /-- Seconds a token is valid. -/
  lifetime : Int
  /-- Seconds an expired token is still accepted. -/
  leeway : Int

namespace CallerToken

/-- Issuer and audience of every token. -/
def authority : String := "aeroquery"

def settings (secret : String) : TokenSettings := ⟨secret, 8 * 3600, 30⟩

def claimsValue (c : Claims) : Value :=
  .obj [("sub", .str c.subject), ("iat", .int c.issuedAt), ("exp", .int c.expiresAt),
    ("aud", .str c.audience), ("iss", .str c.issuer)]

def sign (secret message : String) : String :=
  String.ofList (Base64.encode (Sha256.keyed secret.toUTF8.toList message.toUTF8.toList))

/-- A token for a user at a clock in seconds. -/
def issue (s : TokenSettings) (clock : Int) (userId : String) : String :=
  let header := Value.obj [("typ", .str "JWT"), ("alg", .str "HS256")]
  let claims := claimsValue ⟨userId, clock, clock + s.lifetime, authority, authority⟩
  let message := Base64.encodeText header.text ++ "." ++ Base64.encodeText claims.text
  message ++ "." ++ sign s.secret message

/-- The parts before and after the last point. -/
def splitLast? (s : String) : Option (String × String) :=
  let reversed := s.toList.reverse
  match reversed.dropWhile (· ≠ '.') with
  | [] => none
  | _ :: before =>
    some (String.ofList before.reverse, String.ofList (reversed.takeWhile (· ≠ '.')).reverse)

/-- Text entries a header may have. -/
def headerTexts : List Shape.Slot :=
  [["typ"], ["cty"], ["jku"], ["kid"], ["x5u"], ["x5t"], ["x5t#S256"]]

/-- A header that names the one algorithm in use. -/
def acceptsHeader (header : Value) : Bool :=
  match header with
  | .obj fields =>
    Shape.settled (["alg"] :: ["jwk"] :: ["x5c"] :: headerTexts) fields
      && Shape.find? ["alg"] fields = some (.str "HS256")
      && headerTexts.all (fun slot =>
        (Shape.fill none (Shape.optional Value.asStr?) (Shape.find? slot fields)).isSome)
      && (Shape.fill none (Shape.optional (Shape.list? Value.asStr?))
        (Shape.find? ["x5c"] fields)).isSome
  | _ => false

def claims? (v : Value) : Option Claims := do
  match v with
  | .obj _ =>
    match ← Shape.slots? [["sub"], ["iat"], ["exp"], ["aud"], ["iss"]] v with
    | [some sub, some iat, some exp, some aud, some iss] =>
      return ⟨← sub.asStr?, ← iat.asInt?, ← exp.asInt?, ← aud.asStr?, ← iss.asStr?⟩
    | _ => none
  | _ => none

/-- Checks the signature, then the expiry, then the rest of the claims. -/
def verify (s : TokenSettings) (clock : Int) (token : String) : Except AuthError Claims := do
  let parts? := do
    let (message, signature) ← splitLast? token
    let (header, claims) ← splitLast? message
    return (message, signature, header, claims)
  match parts? with
  | none => .error .malformedToken
  | some (message, signature, header, claims) =>
    match (Base64.decodeText? header).bind Value.readVerbatim? with
    | none => .error .malformedToken
    | some header =>
      if !acceptsHeader header then .error .malformedToken
      else if signature ≠ sign s.secret message then .error .invalidSignature
      else match ((Base64.decodeText? claims).bind Value.readVerbatim?).bind claims? with
        | none => .error .malformedToken
        | some c =>
          if c.expiresAt < 0 then .error .malformedToken
          else if c.expiresAt < clock - s.leeway then .error .tokenExpired
          else if c.issuer ≠ authority ∨ c.audience ≠ authority ∨ Text.trim c.subject = "" then
            .error .malformedToken
          else .ok c

end CallerToken

end RecordQuery
