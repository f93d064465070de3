import Accounts.Client.Payload

/-!
A request that has been described and not sent, together with the settings it belongs to and what
its response is expected to be. The headers of the settings come before the request's own.
-/

namespace Accounts.Client

structure Draft where
  settings : Settings
  request : Http.Request
  expects : BodyKind

namespace Draft

def make (settings : Settings) (method : Http.Method) (url : String) (body : Option String)
    (headers : List Http.Header) (requiresAuthentication : Bool) (expects : BodyKind) : Draft :=
  ⟨settings, ⟨method, url, settings.headers ++ headers, body, requiresAuthentication⟩, expects⟩

/-- Adds a header to this request alone, after those that are there. -/
def addHeader (draft : Draft) (header : Http.Header) : Draft :=
  { draft with request := { draft.request with headers := draft.request.headers ++ [header] } }

def addHeaders (draft : Draft) (headers : List Http.Header) : Draft :=
  headers.foldl addHeader draft

theorem addHeaders_request (draft : Draft) (headers : List Http.Header) :
    (draft.addHeaders headers).request =
      { draft.request with headers := draft.request.headers ++ headers } := by
  induction headers generalizing draft with
  | nil => simp [addHeaders]
  | cons header rest ih =>
    have whole := ih (draft.addHeader header)
    simpa [addHeaders, addHeader] using whole

def decode (draft : Draft) (response : Http.Response) : Except Failure Reply :=
  decodeResponse draft.settings.success draft.expects response

def diagnostic (draft : Draft) : String :=
  Text.braced "RequestBuilder" ["request: " ++ draft.request.diagnostic, ".."]

end Draft

end Accounts.Client
