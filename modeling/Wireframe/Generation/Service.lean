import Wireframe.Config
import Wireframe.Generation.Reply
import Wireframe.Generation.Request
import Wireframe.Http.Exchange

/-!
# The generation service

Requests go to `assist` and `generate` below an endpoint. A response with an error status shows
the `error` text of its body, or else the beginning of the body; any other response is read as
a reply, and a response that is not the final one leaves the service unreachable.
-/

namespace Wireframe

/-- Where the generation service listens, and the key it asks for. -/
structure GenerationService where
  /-- The address without slashes at its end. -/
  endpoint : String
  apiKey : Option String

namespace GenerationService

/-- The service at an address. -/
def ofAddress (address : String) (apiKey : Option String) : GenerationService :=
  ⟨String.ofList (address.toList.reverse.dropWhile (· = '/')).reverse, apiKey⟩

/-- The service of a configuration. -/
def ofConfig (c : Config) : GenerationService :=
  ofAddress c.generationUrl c.apiKey

/-- The request that posts a value to a route, none if nothing can be sent. -/
def request? (s : GenerationService) (route : String) (body : Json) : Option HttpRequest :=
  HttpRequest.post? (s.endpoint ++ "/" ++ route) s.apiKey body.compact

/-- The request for an edit. -/
def assist? (s : GenerationService) (r : AssistRequest) : Option HttpRequest :=
  s.request? "assist" r.toJson

/-- The request for a generation. -/
def generate? (s : GenerationService) (r : GenerateRequest) : Option HttpRequest :=
  s.request? "generate" r.toJson

/-- How many characters of a body a message shows. -/
def shownCharacters : Nat := 200

/-- A body, cut short where it is long. -/
def excerpt (body : String) : String :=
  if shownCharacters < body.length then
    String.ofList (body.toList.take shownCharacters ++ ['…'])
  else body

/-- What a body with an error status says. -/
def failureText (body : String) : String :=
  (((Json.parse? body).bind (·.get? "error")).bind Json.asString?).getD (excerpt body)

/-- The reply in a response. -/
def outcome {α : Type} [Reply α] (r : HttpResponse) : Except ServiceError α :=
  if !r.isFinal then .error .unreachable
  else if r.isSuccess then Reply.decode r.text
  else .error (.status r.status (failureText r.text))

end GenerationService

end Wireframe
