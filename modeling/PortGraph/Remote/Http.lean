import PortGraph.Remote.Polling
import PortGraph.Url.Basic

/-!
# The task service over HTTP

Where the messages of a task service go when it is an HTTP server: submissions to one address, polls
to one address per task, both below the endpoint. An address that cannot be called is refused before
anything is sent. Nothing is ever sent from here, so an address that can be called counts as one that
does not answer.

## Main definitions

* `Http.dispatchAddress`, `Http.statusAddress`: where messages go
* `Http.failure`: why an address cannot be called
* `TaskService.http`: the service
-/

namespace PortGraph

namespace Http

/-- The endpoint without slashes at its end. -/
def base (endpoint : String) : String :=
  String.ofList (endpoint.toList.reverse.dropWhile (· = '/')).reverse

/-- Where submissions go. -/
def dispatchAddress (endpoint : String) : String := base endpoint ++ "/api/engine/dispatch"

/-- Where polls of a task go. -/
def statusAddress (endpoint taskId : String) : String := base endpoint ++ "/api/engine/tasks/" ++ taskId

/-- Whether the host can stand in a request: a name without quotation marks and braces. -/
def isSendable (u : Url) : Bool :=
  match u.host? with
  | some h => h.chars.all fun c => c ≠ '"' ∧ c.toNat ≠ 0x60 ∧ c.toNat ≠ 0x7B ∧ c.toNat ≠ 0x7D
  | none => false

/-- Why an address cannot be called: it is none, it has no host, or it is not one of HTTP. -/
def failure (address : String) : TransportError :=
  match Url.ofText? address with
  | none => .request "builder error"
  | some u =>
    if !u.hasHost then .request ("builder error for url (" ++ u.display ++ ")")
    else
      let u := u.withoutUser
      if u.scheme ∈ ["http", "https"] && isSendable u then
        .request ("error sending request for url (" ++ u.display ++ ")")
      else .request ("builder error for url (" ++ u.display ++ ")")

end Http

/-- The task service at an endpoint. -/
def TaskService.http {κ : Type} (endpoint : String) : TaskService κ where
  submit _ := .done (.error (Http.failure (Http.dispatchAddress endpoint)))
  status taskId := .done (.error (Http.failure (Http.statusAddress endpoint taskId)))

end PortGraph
