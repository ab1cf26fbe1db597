import RecordQuery.Http.Message

/-!
The caller's token in the headers of a request: an authorization header, else a cookie. Values that
are not readable text count as absent.
-/

namespace RecordQuery

namespace Credentials

def cookieName : String := "_authTokenId"

/-- The token of an authorization header, with or without the name of its scheme. -/
def ofAuthorization? (value : String) : Option String :=
  let token := Text.trim ((Text.after? "Bearer " value).getD value)
  if token = "" then none else some token

/-- The first cookie of that name with a value. -/
def ofCookies? (value : String) : Option String :=
  (Text.split ';' value).findSome? fun cookie =>
    match Text.splitOnce? '=' (Text.trim cookie) with
    | some (name, token) => if name = cookieName ∧ token ≠ "" then some token else none
    | none => none

/-- Only the first authorization header counts. -/
def token? (headers : Headers) : Option String :=
  let authorization := (headers.first? "authorization").filter Headers.isReadable
  (authorization.bind ofAuthorization?).or
    (((headers.all "cookie").filter Headers.isReadable).findSome? ofCookies?)

end Credentials

end RecordQuery
