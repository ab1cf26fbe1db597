import RecordQuery.Caller.Token
import RecordQuery.Store.Basic

/-!
From the token of a request to its caller.
-/

namespace RecordQuery

/-- Resolves the token of a request, if it carries one. -/
abbrev Resolver := Option String → Except AuthError User

namespace Resolver

/-- The document that holds user records. -/
def userDocument : String := "User"

/-- A fixed table of tokens. -/
def ofTable (users : Fields User) : Resolver
  | none => .error .authenticationRequired
  | some token =>
    match Fields.get? users token with
    | some user => .ok user
    | none => .error .invalidToken

/-- Signed tokens, whose subject is looked up in a store. -/
def ofTokens (settings : TokenSettings) (clock : Int) (store : Store) : Resolver
  | none => .error .authenticationRequired
  | some token => do
    let claims ← CallerToken.verify settings clock token
    match store.findById userDocument claims.subject with
    | .error e => .error (.storage e.message)
    | .ok none => .error .userNotFound
    | .ok (some record) =>
      match User.ofRecord record with
      | .ok user => .ok user
      | .error e => .error (.invalidUser e)

/-- The first resolver that succeeds, else the last one's error. -/
def chain : List Resolver → Resolver
  | [], _ => .error .authenticationRequired
  | [r], token => r token
  | r :: rest, token =>
    match r token with
    | .ok user => .ok user
    | .error _ => chain rest token

end Resolver

end RecordQuery
