import LocalProxy.Api.Request

/-! Who may use the control interface: everyone if the secret is empty, else who presents it as
a bearer token or, when asking for a WebSocket, as the query parameter `token`. -/
namespace LocalProxy.Api

open Text

namespace Request

/-- The token of the first `Authorization` header. -/
def bearerToken? (r : Request) : Option String := do
  let value ← asciiText? (← (r.fieldValues "authorization").head?)
  let token := trim (← stripStart "Bearer " (trim value))
  if token = "" then none else some token

def queryToken? (r : Request) : Option String :=
  match r.parameter "token" with
  | .value token => some token
  | _ => none

/-- The token a request presents. -/
def token? (r : Request) : Option String :=
  if r.wantsWebSocket then r.bearerToken?.or r.queryToken? else r.bearerToken?

/-- The request may pass under a secret. -/
def passes (r : Request) (secret : String) : Bool := secret == "" || r.token? == some secret

end Request

end LocalProxy.Api
