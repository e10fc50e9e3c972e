import PortGraph.Proofs.Engine.Typing

/-!
# The wiring of a plan

A run is given a plan and nothing else: it looks neither at the graph nor at the registry again. So
the plan has to hold all that they say. Each node has a step of its own, with the manifest of its
type, and each connection into the node is a binding of that step, in the order of the graph.

That a plan can be relied on goes further. A binding names an input that the type declares, and a
node that it takes a value from comes earlier and declares the output. No input is bound twice, as
the compiler counts the connections into each of them; so whatever is gathered for one input is not
lost to another, and the bindings might as well be gone through in any other order.

## Main definitions

* `Connection.Binds`: the binding that a connection asks for
* `Step.GathersFreely`: no value is overwritten, and no order of the bindings asked for
* `Graph.IsWiring`: all that the steps of a plan are good for

## Main results

* `bindInput_comm`, `gather_of_perm`: the order of bindings of different ports does not matter
* `Graph.isWiring_of_compile`: compiled plans are wired as their graphs
-/

namespace PortGraph

variable {β : Type}

/-- The binding that a connection asks for: the port that it leads to and, as the source, an input of
the run just if it comes from the reserved node. -/
structure Connection.Binds (c : Connection) (b : Binding) : Prop where
  port_eq : b.port = c.target.port
  initial : c.source.node = initialNode → b.source = .initial c.source.port
  node : c.source.node ≠ initialNode → b.source = .node c.source.node c.source.port

/-! ### Gathering -/

section Gather

variable {t : Table Result} {initial : Fields} {step : Step}

/-- Bindings of different ports can be gone through in either order. -/
theorem bindInput_comm (inputs : Fields) {a b : Binding} (h : a.port ≠ b.port) :
    bindInput t initial (bindInput t initial inputs a) b =
      bindInput t initial (bindInput t initial inputs b) a := by
  refine Table.ext_get? fun port => ?_
  simp only [get?_bindInput]
  by_cases ha : port = a.port
  · simp [ha, h]
  · simp [ha]

/-- **The order of the bindings does not matter** if no port is bound twice. -/
theorem gather_of_perm (h : (step.bindings.map (·.port)).Nodup) {bindings : List Binding}
    (hperm : step.bindings.Perm bindings) :
    gather { step with bindings := bindings } t initial = gather step t initial := by
  refine (hperm.foldl_eq' (fun a ha b hb inputs => ?_) Table.empty).symm
  by_cases hport : a.port = b.port
  · rw [List.inj_on_of_nodup_map h ha hb hport]
  · exact bindInput_comm inputs hport

/-- Nothing has been gathered for a port before its binding, if no port is bound twice. -/
theorem contains_foldl_bindInput (h : (step.bindings.map (·.port)).Nodup)
    {before after : List Binding} {b : Binding} (hb : step.bindings = before ++ b :: after) :
    (before.foldl (bindInput t initial) Table.empty).contains b.port = false := by
  rw [hb, List.map_append, List.map_cons] at h
  have hnew : b.port ∉ before.map (·.port) := fun hmem =>
    (List.nodup_append.mp h).2.2 _ hmem _ List.mem_cons_self rfl
  rw [Table.contains, get?_foldl_bindInput_of_notMem hnew, Table.get?_empty]
  rfl

/-- How the inputs of a step are gathered, whatever there is to gather. -/
structure Step.GathersFreely (step : Step) : Prop where
  /-- No value is overwritten: when a binding is gone through, its port is still free. -/
  fresh : ∀ results initial before b after, step.bindings = before ++ b :: after →
    (before.foldl (bindInput results initial) Table.empty).contains b.port = false
  value : ∀ results initial, ∀ b ∈ step.bindings,
    (gather step results initial).get? b.port = b.source.value? results initial
  /-- The bindings might be in any other order. -/
  unordered : ∀ results initial bindings, step.bindings.Perm bindings →
    gather { step with bindings := bindings } results initial = gather step results initial

/-- A step gathers freely if no port is bound twice. -/
theorem Step.gathersFreely_of_nodup (h : (step.bindings.map (·.port)).Nodup) :
    step.GathersFreely where
  fresh _ _ _ _ _ hb := contains_foldl_bindInput h hb
  value _ _ _ hb := get?_gather h hb
  unordered _ _ _ hperm := gather_of_perm h hperm

end Gather

namespace Graph

variable {r : Registry β} {g : Graph} {plan : Plan} {step : Step}

/-! ### Bindings and connections -/

theorem binds_bindingOf (c : Connection) : c.Binds (bindingOf c) := by
  refine ⟨rfl, fun hi => ?_, fun hi => ?_⟩
  · simp [bindingOf, Connection.isInitial, hi]
  · simp [bindingOf, Connection.isInitial, hi]

namespace IsPlan

/-- A binding of a step comes from a connection into its node. -/
theorem exists_connection (h : g.IsPlan r plan) {id : String} (hs : plan.step? id = some step)
    {b : Binding} (hb : b ∈ step.bindings) :
    ∃ c ∈ g.connections, c.target.node = id ∧ c.Binds b := by
  rw [(h.of_step?_eq_some hs).2.2] at hb
  obtain ⟨c, hc, rfl⟩ := List.mem_map.mp hb
  obtain ⟨hmem, htarget⟩ := List.mem_filter.mp hc
  exact ⟨c, hmem, of_decide_eq_true htarget, binds_bindingOf c⟩

/-- A bound port is a declared input. -/
theorem exists_input (h : g.IsPlan r plan) {id : String} (hs : plan.step? id = some step)
    {b : Binding} (hb : b ∈ step.bindings) : ∃ p ∈ step.manifest.inputs, p.name = b.port := by
  obtain ⟨c, hc, rfl, hbinds⟩ := h.exists_connection hs hb
  obtain ⟨m, p, hm, hp, -⟩ := h.sound.fits c hc
  cases hm.symm.trans (h.of_step?_eq_some hs).2.1
  exact ⟨p, List.mem_of_find?_eq_some hp, by simpa [hbinds.port_eq] using List.find?_some hp⟩

/-- A node that a step takes a value from has a step itself, in an earlier phase, and its type
declares the output. -/
theorem exists_source (h : g.IsPlan r plan) {id : String} (hs : plan.step? id = some step)
    {b : Binding} (hb : b ∈ step.bindings) {source port : String}
    (hsource : b.source = .node source port) :
    ∃ s i j, plan.step? source = some s ∧ (∃ q ∈ s.manifest.outputs, q.name = port) ∧
      plan.phaseOf? source = some i ∧ plan.phaseOf? id = some j ∧ i < j := by
  obtain ⟨c, hc, rfl, hbinds⟩ := h.exists_connection hs hb
  have hi : c.source.node ≠ initialNode := fun hi => by
    cases hsource.symm.trans (hbinds.initial hi)
  cases hsource.symm.trans (hbinds.node hi)
  have hnot : c.isInitial = false := decide_eq_false hi
  obtain ⟨i, j, hphase, hphase', hlt⟩ := h.phaseOf?_lt ⟨c, hc, hnot, rfl, rfl⟩
  obtain ⟨n, hn, hid⟩ := List.mem_map.mp (h.phaseOf?_eq_some_iff.mp hphase).1
  obtain ⟨m, -, hstep⟩ := h.step?_eq n hn
  rw [hid] at hstep
  obtain ⟨_, _, _, _, hfit⟩ := h.sound.fits c hc
  obtain ⟨m', q, hm', hq, -⟩ := hfit hnot
  cases hm'.symm.trans (h.of_step?_eq_some hstep).2.1
  exact ⟨_, i, j, hstep, ⟨q, List.mem_of_find?_eq_some hq, by simpa using List.find?_some hq⟩,
    hphase, hphase', hlt⟩

/-- The steps are those of the nodes. -/
theorem keys_perm (h : g.IsPlan r plan) : plan.steps.keys.Perm g.nodeIds := by
  refine (List.perm_ext_iff_of_nodup plan.steps.nodup_keys h.sound.distinct).mpr fun id => ?_
  rw [← Table.contains_iff_mem_keys, Table.contains, Option.isSome_iff_exists]
  constructor
  · rintro ⟨step, hs⟩
    exact (h.of_step?_eq_some hs).1
  · intro hid
    obtain ⟨n, hn, rfl⟩ := List.mem_map.mp hid
    obtain ⟨m, -, hstep⟩ := h.step?_eq n hn
    exact ⟨_, hstep⟩

end IsPlan

/-! ### The wiring as a whole -/

/-- What the step of a node is: the node and all that the graph and the registry say about it. -/
structure IsStepOf (r : Registry β) (g : Graph) (plan : Plan) (n : Node) (step : Step) : Prop where
  node_eq : step.node = n
  registered : r.manifest? n.type = some step.manifest
  /-- There is one binding per connection into the node, in the order of the connections. -/
  bindings : List.Forall₂ Connection.Binds (g.connections.filter (·.target.node = n.id)) step.bindings
  nodup_ports : (step.bindings.map (·.port)).Nodup
  declared : ∀ b ∈ step.bindings, ∃ p ∈ step.manifest.inputs, p.name = b.port
  /-- Values come from earlier phases, from outputs that are declared. -/
  earlier : ∀ b ∈ step.bindings, ∀ source port, b.source = .node source port →
    ∃ s i j, plan.step? source = some s ∧ (∃ q ∈ s.manifest.outputs, q.name = port) ∧
      plan.phaseOf? source = some i ∧ plan.phaseOf? n.id = some j ∧ i < j

/-- The steps of a plan are wired as the graph is. -/
structure IsWiring (r : Registry β) (g : Graph) (plan : Plan) : Prop where
  /-- There is a step for each node, and no other one. -/
  keys_perm : plan.steps.keys.Perm g.nodeIds
  step : ∀ n ∈ g.nodes, ∃ step, plan.step? n.id = some step ∧ g.IsStepOf r plan n step ∧
    step.GathersFreely

/-- **A compiled plan is wired as its graph is**: each node has its own step, with the registered
manifest and one binding per connection into the node, and what a step takes from other nodes is
there in time. Since no port of a step is bound twice, no value is overwritten when its inputs are
gathered, and the order of the bindings does not matter. -/
theorem isWiring_of_compile (r : Registry β) (g : Graph) (plan : Plan)
    (h : g.compile r = .ok plan) : g.IsWiring r plan := by
  obtain ⟨hp, -⟩ := isPlan_of_compile h
  refine ⟨hp.keys_perm, fun n hn => ?_⟩
  obtain ⟨m, hm, hstep⟩ := hp.step?_eq n hn
  have hnodup := hp.nodup_ports hstep
  refine ⟨_, hstep, ?_, Step.gathersFreely_of_nodup hnodup⟩
  constructor
  case node_eq => rfl
  case registered => exact hm
  case bindings =>
    exact List.forall₂_map_right_iff.mpr (List.forall₂_same.mpr fun c _ => binds_bindingOf c)
  case nodup_ports => exact hnodup
  case declared => exact fun b hb => hp.exists_input hstep hb
  case earlier => exact fun b hb source port => hp.exists_source hstep hb

/-! ### A small graph with two connections between the same nodes -/

/-- The sum `t` of a source and an input of the run, and the sum `u` of `t` and itself. -/
def wovenGraph : Graph where
  id := "woven"
  nodes := [⟨"u", "sum", Table.empty⟩, ⟨"t", "sum", Table.empty⟩, ⟨"s", "source", Table.empty⟩]
  connections := [⟨⟨"t", "x"⟩, ⟨"u", "b"⟩⟩, ⟨⟨initialNode, "k"⟩, ⟨"t", "a"⟩⟩,
    ⟨⟨"t", "x"⟩, ⟨"u", "a"⟩⟩, ⟨⟨"s", "x"⟩, ⟨"t", "b"⟩⟩]

/-- The plan of that graph. -/
def wovenPlan : Plan := (wovenGraph.compile sampleRegistry).toOption.getD default

theorem compile_wovenGraph : wovenGraph.compile sampleRegistry = .ok wovenPlan := by
  decide +kernel

/-- The wiring of that graph. -/
theorem isWiring_wovenGraph : wovenGraph.compile sampleRegistry = .ok wovenPlan ∧
    (wovenPlan.step? "u").map (·.bindings) = some [⟨"b", .node "t" "x"⟩, ⟨"a", .node "t" "x"⟩] ∧
    (wovenPlan.step? "t").map (·.bindings) = some [⟨"a", .initial "k"⟩, ⟨"b", .node "s" "x"⟩] ∧
    wovenGraph.IsWiring sampleRegistry wovenPlan :=
  ⟨compile_wovenGraph, by decide +kernel, by decide +kernel,
    isWiring_of_compile sampleRegistry wovenGraph wovenPlan compile_wovenGraph⟩

end Graph

end PortGraph
