import PortGraph.Compile.Report
import PortGraph.Proofs.Compile.Phases

/-!
# Compiling and reporting

A graph is looked at in two ways: compiling stops at the first thing that is wrong, a report goes on
and lists all of it. Both look for the faults of single nodes and connections first and for a cycle
only where there are none, so the first error of the report is the one that compiling stops at.

Compiling has one exit that a report lacks: a node whose manifest is missing when the steps are put
together. It is never taken. The manifests are looked up by node id, in a table that holds an entry
for every node as soon as the ids are distinct and the types registered, which has been checked by
then.

## Main results

* `Graph.compile_of_isSound`: where the structure is sound, compiling ends as the phases do
* `Graph.compile_matches_diagnose`: compiling ends as the report says
-/

namespace PortGraph.Graph

variable {β : Type} {r : Registry β} {g : Graph}

/-- Where the structure is sound, compiling ends as the phases do. -/
theorem compile_of_isSound (h : g.IsSound r) :
    (∀ e, g.phases (g.manifests r) = .error e → g.compile r = .error e) ∧
      ∀ phases, g.phases (g.manifests r) = .ok phases → ∃ plan, g.compile r = .ok plan := by
  have hs := (structureErrors_eq_nil_iff r g).mpr h
  obtain ⟨steps, hsteps, -⟩ := h.exists_addSteps
  refine ⟨fun e hp => ?_, fun phases hp => ⟨⟨g.id, phases, steps⟩, ?_⟩⟩
  · simp only [compile, hs, hp]
  · simp only [compile, hs, hp, hsteps]

/-- Compiling fails with the first error of the report, or else there is none. -/
theorem compile_eq_error_head (r : Registry β) (g : Graph) :
    (∃ e, g.compile r = .error e ∧ (g.diagnose r).errors.head? = some e) ∨
      (∃ plan, g.compile r = .ok plan) ∧ (g.diagnose r).errors = [] := by
  cases hs : g.structureErrors r with
  | cons e errors => exact .inl ⟨e, by simp only [compile, hs], by simp only [diagnose, hs]; rfl⟩
  | nil =>
    obtain ⟨hfail, hok⟩ := compile_of_isSound ((structureErrors_eq_nil_iff r g).mp hs)
    cases hp : g.phases (g.manifests r) with
    | error e => exact .inl ⟨e, hfail e hp, by simp only [diagnose, hs, hp]; rfl⟩
    | ok phases => exact .inr ⟨hok phases hp, by simp only [diagnose, hs, hp]⟩

/-- **Compiling ends as the report says**: a graph compiles just if nothing is reported, and
otherwise compiling fails with the first error that is reported. Once the structure has passed its
check, every node has its step: a type that is not registered is never noticed only then. -/
theorem compile_matches_diagnose (r : Registry β) (g : Graph) :
    ((∃ plan, g.compile r = .ok plan) ↔ (g.diagnose r).isOk = true) ∧
      (∀ e, g.compile r = .error e ↔ (g.diagnose r).errors.head? = some e) ∧
      (g.structureErrors r = [] → ∀ n ∈ g.nodes, ∃ s, g.stepOf (g.manifests r) n = .ok s) := by
  refine ⟨?_, fun e => ?_, fun hs n hn => ?_⟩
  · rw [CompileReport.isOk, List.isEmpty_iff]
    obtain ⟨e, he, hhead⟩ | ⟨hplan, hnil⟩ := compile_eq_error_head r g
    · constructor
      · rintro ⟨plan, hplan⟩
        cases he.symm.trans hplan
      · intro hnil
        simp [hnil] at hhead
    · exact iff_of_true hplan hnil
  · obtain ⟨e', he, hhead⟩ | ⟨⟨plan, hplan⟩, hnil⟩ := compile_eq_error_head r g
    · rw [he, hhead, Except.error.injEq, Option.some.injEq]
    · rw [hplan, hnil]
      exact iff_of_false nofun nofun
  · obtain ⟨m, hm, -⟩ := ((structureErrors_eq_nil_iff r g).mp hs).exists_manifest hn
    exact ⟨⟨n, m, (g.incoming n.id).map bindingOf⟩, by simp only [stepOf, hm]⟩

end PortGraph.Graph
