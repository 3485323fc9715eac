import RegulatoryTrees.Service.Answers

/-!
# The service

The service answers requests one after the other. Starting it sets the channel of notices and loads the rules.
-/

namespace RegulatoryTrees

namespace Service

/-- A response, the service after it, and the notices given on the way. -/
structure Exchange where
  response : Response
  service : Service
  notices : List Notice

/-- The response to a request, before it is fitted to the way of asking. -/
def direct (s : Service) (r : Request) : Exchange :=
  match Endpoint.direction r.method r.target.path with
  | .nowhere => ⟨.refusal 404 "Not Found", s, []⟩
  | .redirected => ⟨.redirection, s, []⟩
  | .wrongMethod => ⟨.refusal 405 "Method Not Allowed", s, []⟩
  | .endpoint e =>
    let outcome := Handling.answer r e s
    let response := match outcome.result with
      | .ok response | .error response => response
    ⟨response, outcome.service, outcome.notices⟩

/-- A response as it is sent: without content where only the head of it is asked for. -/
def sent (r : Request) (response : Response) : Response :=
  if r.method = "HEAD" then { response with content := .text "" } else response

/-- Answer a request. -/
def respond (s : Service) (r : Request) : Exchange :=
  match s.origins.preflight? r with
  | some response => ⟨response, s, []⟩
  | none =>
    let exchange := s.direct r
    ⟨sent r (s.origins.share r exchange.response), exchange.service, s.channel.filter exchange.notices⟩

/-- Why the service does not start. -/
inductive StartFailure where
  | channel (cause : NoticeChannel.Failure)
  | rules (cause : Registry.Failure)

/-- A start: why it failed if it did, the service after it, and the notices given. -/
structure Start where
  failure : Option StartFailure
  service : Service
  notices : List Notice

/-- A notice of the service. -/
def notice (message : String) : Notice := ⟨.info, "compliance_engine.main", message⟩

/-- Start the service. -/
def start (s : Service) : Start :=
  match NoticeChannel.named s.settings.logLevel true with
  | .error cause => ⟨some (.channel cause), s, []⟩
  | .ok channel =>
    let greeting := [
      notice ("Starting " ++ s.settings.appName ++ "..."),
      notice ("Rules directory: " ++ s.settings.rulesPath),
      notice ("Evaluation cache enabled: " ++ (Value.bool s.settings.cacheEnabled).plain)]
    let loaded := load { s with channel := channel }
    match loaded.outcome with
    | .error cause => ⟨some (.rules cause), loaded.service, channel.filter (greeting ++ loaded.notices)⟩
    | .ok g =>
      let ready := notice ("Rules loaded: " ++ Decimal.ofNat g.rules.length)
      ⟨none, loaded.service, channel.filter (greeting ++ loaded.notices ++ [ready])⟩

/-- The notices of a service that is stopped. -/
def farewell (s : Service) : List Notice := s.channel.filter [notice "Shutting down..."]

end Service

end RegulatoryTrees
