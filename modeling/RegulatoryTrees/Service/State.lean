import RegulatoryTrees.Evaluation.Cache
import RegulatoryTrees.Notice.Channel
import RegulatoryTrees.Registry
import RegulatoryTrees.Service.Origins
import RegulatoryTrees.Settings

/-!
# The service and its state

The service keeps the registry of rules, which is loaded when it is first needed, and a cache of evaluations. Handling a
request is made of parts, each of which may change the state, give notices, and end the handling with a response.
-/

namespace RegulatoryTrees

/-- The service. -/
structure Service where
  settings : Settings
  origins : Origins
  /-- The rule files at hand. -/
  folder : Folder
  /-- The registry, if it has been loaded. -/
  registry : Option Registry := none
  cache : EvaluationCache := {}
  /-- Until it is set, all notices are let through. -/
  channel : NoticeChannel := ⟨Level.debug.rank, false⟩

/-- What a part of handling a request comes to: what it yields or the response it ends with, the service after it, and the
notices given. -/
structure Outcome (α : Type) where
  result : Except Response α
  service : Service
  notices : List Notice

/-- A part of handling a request. -/
def Handling (α : Type) : Type := Service → Outcome α

namespace Handling

/-- Yield a value and do nothing. -/
def yield {α : Type} (x : α) : Handling α := fun s => ⟨.ok x, s, []⟩

/-- One part after the other, unless the first one ends the handling. -/
def andThen {α β : Type} (first : Handling α) (next : α → Handling β) : Handling β := fun s =>
  let done := first s
  match done.result with
  | .error response => ⟨.error response, done.service, done.notices⟩
  | .ok x =>
    let further := next x done.service
    ⟨further.result, further.service, done.notices ++ further.notices⟩

instance : Monad Handling where
  pure := yield
  bind := andThen

/-- End the handling with a response. -/
def stop {α : Type} (response : Response) : Handling α := fun s => ⟨.error response, s, []⟩

/-- Go on with what is given, or end the handling with the response in its place. -/
def orStop {α : Type} (r : Except Response α) : Handling α := fun s => ⟨r, s, []⟩

/-- Give notices. -/
def note (notices : List Notice) : Handling Unit := fun s => ⟨.ok (), s, notices⟩

/-- The service as it is. -/
def current : Handling Service := fun s => ⟨.ok s, s, []⟩

/-- Change the service. -/
def change (f : Service → Service) : Handling Unit := fun s => ⟨.ok (), f s, []⟩

/-- Let the cache answer. -/
def askCache {α : Type} (question : EvaluationCache → EvaluationCache.Reply α) : Handling α := fun s =>
  let reply := question s.cache
  ⟨.ok reply.answer, { s with cache := reply.cache }, reply.notices⟩

end Handling

namespace Service

/-- The version of the service. -/
def version : String := "0.1.0"

/-- A service that has not been asked anything. -/
def ofSettings (settings : Settings) (environment : Bindings String) (folder : Folder) : Service :=
  { settings := settings, origins := .ofText (environment.lookup "CORS_ORIGINS"), folder := folder }

/-- The service after some rule files have been written. -/
def write (s : Service) (files : List RuleFile) : Service := { s with folder := s.folder.write files }

/-- Where the rules come from by the settings. -/
def source (s : Service) : Option RuleSource :=
  if s.settings.rulesPath.isEmpty then none
  else if s.settings.rulesPath = RuleSource.bundledPath then some .bundled
  else if s.settings.rulesPath = s.folder.path then some (.folder s.folder)
  else some (.absent s.settings.rulesPath)

/-- A service with its registry loaded, and the registry. -/
structure Loaded where
  outcome : Except Registry.Failure Registry
  service : Service
  notices : List Notice

/-- The registry, which is loaded if it has not been yet. Where there is no folder there are no rules. A registry whose loading
failed otherwise stays as it is then. -/
def load (s : Service) : Loaded :=
  match s.registry with
  | some g => ⟨.ok g, s, []⟩
  | none =>
    let loading := Registry.loadAll {} s.source
    let outcome : Except Registry.Failure Registry × List Notice := match loading.outcome with
      | .ok _ => (.ok loading.registry, [])
      | .error (.sourceNotFound path) =>
        (.ok loading.registry,
          [⟨.warning, "compliance_engine.core.api.dependencies", "Rules directory not found: " ++ path⟩])
      | .error failure => (.error failure, [])
    ⟨outcome.1, { s with registry := some loading.registry }, loading.notices ++ outcome.2⟩

end Service

/-- The registry; if it cannot be loaded the handling breaks down. -/
def Handling.registry : Handling Registry := fun s =>
  let loaded := s.load
  ⟨loaded.outcome.mapError fun _ => .breakdown, loaded.service, loaded.notices⟩

end RegulatoryTrees
