import PortGraph.Engine.Run
import PortGraph.InProcess
import PortGraph.Remote.Http

/-!
# Setting up an engine

The engines that a host can ask for: one that runs nodes in process, one that hands them to a task
service, and the one that a configuration describes, with its cache.

## Main definitions

* `Engine.inProcess`, `Engine.remote`: engines with nothing but a backend
* `Engine.ofConfig`: the engine of a configuration
* `Config.cache?`: the cache of a configuration
-/

namespace PortGraph

namespace Engine

variable {κ : Type}

/-- An engine that runs nodes in process. -/
def inProcess (registry : Registry (Body κ)) (retry : RetryConfig) : Engine κ where
  registry := registry
  backend := .inProcess registry retry.baseDelayMs

/-- An engine that hands nodes to a task service. -/
def remote (registry : Registry (Body κ)) (service : TaskService κ) (c : RemoteConfig) : Engine κ where
  registry := registry
  backend := .remote service c

/-- The engine of a configuration. A remote one talks to the task service at the endpoint. -/
def ofConfig (registry : Registry (Body κ)) (c : Config) : Engine κ :=
  let e := match c.mode with
    | .local => inProcess registry c.retry
    | .remote => remote registry (.http c.remote.endpoint) c.remote
  { e with limit? := c.maxParallelNodes.map (·.toNat), stopOnError := c.stopOnError }

end Engine

/-- The cache of a configuration, unless it is disabled. -/
def Config.cache? (c : Config) : Option Cache :=
  if c.cache.enabled then
    some (.new (c.cache.ttlSecs.map (1000 * ·.toNat)) (c.cache.maxEntries.map (·.toNat)))
  else none

end PortGraph
