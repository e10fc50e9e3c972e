import PortGraph.Proofs.Compile.Structure
import PortGraph.Proofs.Registry.Registration

/-!
# What a registry recommends, and what the compiler accepts

The compiler asks whether the declared type of an output may feed an input. A registry that is asked
for types that can take a value asks something else, of one type and without an output at hand. The
two answers agree: what is recommended for a type is just what can be connected to an output of that
type without a complaint about the two types.

A connection is looked at as it would be by the compiler, in any graph that holds the two nodes. What
else there is to say against that graph does not matter, as long as its node ids are distinct.

## Main definitions

* `Manifest.Lists`: a type is listed by an input itself, and not let in by a wildcard
* `Manifest.ComesBefore`: the order of recommendations
* `Graph.IsMismatch`: the compiler says that the two ends of a connection do not go together
* `Graph.HasOutput`: an endpoint is a declared output of a type

## Main results

* `PortType.acceptsPort_single`: the two questions are one for a source of a single type
* `Graph.isMismatch_iff`: when the compiler complains about the types of a connection
* `Registry.recommend_agrees`: recommendations agree with the compiler
-/

namespace PortGraph

/-- A port may be fed by an output of a single type just if it may be fed by that type. -/
theorem PortType.acceptsPort_single (p : PortType) (t : DataType) :
    p.acceptsPort (.single t) = p.accepts t := by
  rw [acceptsPort, accepts]
  cases hany : p.isAny with
  | true => simp
  | false =>
    by_cases ht : t = .any
    · subst ht
      rfl
    · have hsingle : (PortType.single t).isAny = false := by simpa [isAny, members] using Ne.symm ht
      simp [hsingle, ht, members, accepts, hany]

/-- A type that is listed may feed the port. -/
theorem PortType.accepts_of_mem {p : PortType} {t : DataType} (h : t ∈ p.members) :
    p.accepts t = true := by
  simp [accepts, h]

/-! ### The complaint of the compiler -/

namespace Graph

variable {β : Type} {r : Registry β} {g : Graph} {c : Connection} {source target : String}

/-- The compiler says that the types of the two ends of a connection do not go together. -/
def IsMismatch (r : Registry β) (g : Graph) (c : Connection) : Prop :=
  ∃ source target, .typeMismatch c source target ∈ g.structureErrors r

/-- An endpoint is a declared output of the given type, on a node of the graph. -/
structure HasOutput (r : Registry β) (g : Graph) (e : Endpoint) (type : PortType) : Prop where
  unreserved : e.node ≠ initialNode
  declared : ∃ m q, g.manifestAt? r e.node = some m ∧ m.outputPort? e.port = some q ∧ q.type = type

theorem typeMismatch_notMem_nodeErrors (before : List String) (nodes : List Node) :
    .typeMismatch c source target ∉ nodeErrors r before nodes := by
  induction nodes generalizing before with
  | nil => exact List.not_mem_nil
  | cons n rest ih =>
    rw [nodeErrors, List.mem_append, not_or]
    refine ⟨?_, ih _⟩
    simp only [nodeErrorsAfter, List.mem_append, not_or]
    refine ⟨?_, ?_, ?_⟩ <;> split <;> simp

/-- A complaint about types is made of the connection that is looked at. -/
theorem eq_of_portError? {manifests : Table Manifest} {d : Connection}
    (h : portError? manifests d = some (.typeMismatch c source target)) : d = c := by
  rw [portError?] at h
  repeat' split at h
  all_goals cases h
  rfl

/-- The complaints about types are those of the connections with two known ends. -/
theorem typeMismatch_mem_connectionErrors_iff (manifests : Table Manifest) (fed : List Endpoint)
    (l : List Connection) :
    .typeMismatch c source target ∈ g.connectionErrors manifests fed l ↔
      c ∈ l ∧ g.endErrors c = [] ∧
        portError? manifests c = some (.typeMismatch c source target) := by
  induction l generalizing fed with
  | nil => simp [connectionErrors]
  | cons d rest ih =>
    have hends : .typeMismatch c source target ∉ g.endErrors d := by
      simp only [endErrors, List.mem_append, not_or]
      refine ⟨?_, ?_⟩ <;> split <;> simp
    rw [List.mem_cons, connectionErrors]
    split
    · rename_i hd
      have hfed : .typeMismatch c source target ∉ (if fed.contains d.target then
          [CompileError.ambiguousInput d.target.node d.target.port] else []) := by
        split <;> simp
      rw [List.mem_append, List.mem_append, Option.mem_toList, ih]
      constructor
      · rintro (h | h | ⟨hmem, h⟩)
        · exact absurd h hfed
        · obtain rfl := eq_of_portError? h
          exact ⟨.inl rfl, hd, h⟩
        · exact ⟨.inr hmem, h⟩
      · rintro ⟨rfl | hmem, h⟩
        · exact .inr (.inl h.2)
        · exact .inr (.inr ⟨hmem, h⟩)
    · rename_i hd
      rw [List.mem_append, ih]
      constructor
      · rintro (h | ⟨hmem, h⟩)
        · exact absurd h hends
        · exact ⟨.inr hmem, h⟩
      · rintro ⟨rfl | hmem, h⟩
        · exact absurd h.1 hd
        · exact .inr ⟨hmem, h⟩

/-- **When the compiler complains about the types of a connection** from a declared output to a
declared input: just if the one may not feed the other. -/
theorem isMismatch_iff (hd : g.nodeIds.Nodup) (hc : c ∈ g.connections) {type : PortType}
    (hsource : g.HasOutput r c.source type) {b : Node} (hb : b ∈ g.nodes)
    (hnode : b.id = c.target.node) {m : Manifest} {p : Port} (hm : r.manifest? b.type = some m)
    (hp : m.inputPort? c.target.port = some p) :
    g.IsMismatch r c ↔ p.type.acceptsPort type = false := by
  obtain ⟨hunreserved, s, q, hs, hq, rfl⟩ := hsource
  have htarget : g.manifestAt? r c.target.node = some m := by rw [← hnode, manifestAt?_eq hd hb, hm]
  have hinitial : c.isInitial = false := decide_eq_false hunreserved
  have hends : g.endErrors c = [] := by
    refine endErrors_eq_nil_iff.mpr ⟨.inr ?_, hnode ▸ List.mem_map_of_mem hb⟩
    by_contra hunknown
    cases (manifestAt?_eq_none hunknown).symm.trans hs
  simp only [IsMismatch, structureErrors, List.mem_append, typeMismatch_notMem_nodeErrors, false_or,
    typeMismatch_mem_connectionErrors_iff, hc, hends, true_and, portError?, get?_manifests hd, htarget,
    hp, hinitial, hs, hq, Bool.false_eq_true, if_false]
  cases p.type.acceptsPort q.type <;> simp

end Graph

/-! ### Recommendations -/

/-- An input of the type lists `t` itself. -/
def Manifest.Lists (m : Manifest) (t : DataType) : Prop := ∃ p ∈ m.inputs, t ∈ p.type.members

/-- The order of recommendations for `t`: types that list it come first, and those of either kind are
in ascending order. -/
def Manifest.ComesBefore (t : DataType) (a b : Manifest) : Prop :=
  (a.Lists t ∧ ¬ b.Lists t) ∨ ((a.Lists t ↔ b.Lists t) ∧ a.type < b.type)

namespace Registry

variable {β : Type} {r : Registry β} {t : DataType} {m : Manifest}

theorem takesExactly_iff : takesExactly t m = true ↔ m.Lists t := by
  simp [takesExactly, Manifest.Lists, List.any_eq_true]

theorem takes_iff : takes t m = true ↔ ∃ p ∈ m.inputs, p.type.acceptsPort (.single t) = true := by
  simp only [takes, List.any_eq_true, PortType.acceptsPort_single]

theorem takes_of_lists (h : m.Lists t) : takes t m = true := by
  obtain ⟨p, hp, ht⟩ := h
  exact List.any_eq_true.mpr ⟨p, hp, PortType.accepts_of_mem ht⟩

theorem Reachable.mem_recommend_iff (h : r.Reachable) :
    m ∈ r.recommend t ↔ r.manifest? m.type = some m ∧
      ∃ p ∈ m.inputs, p.type.acceptsPort (.single t) = true := by
  rw [← takes_iff, recommend, List.mem_append, List.mem_filter, List.mem_filter, h.mem_manifests_iff,
    ← and_or_left]
  refine and_congr_right fun _ => ?_
  by_cases hlists : m.Lists t
  · simp [takesExactly_iff.mpr hlists, takes_of_lists hlists]
  · simp [Bool.eq_false_iff.mpr (mt takesExactly_iff.mp hlists)]

/-- Recommendations are in order. -/
theorem Reachable.pairwise_recommend (h : r.Reachable) (t : DataType) :
    (r.recommend t).Pairwise (Manifest.ComesBefore t) := by
  have hlists {a : Manifest} (ha : a ∈ r.manifests.filter (takesExactly t)) : a.Lists t :=
    takesExactly_iff.mp (List.mem_filter.mp ha).2
  have hnot {a : Manifest}
      (ha : a ∈ r.manifests.filter fun m => !takesExactly t m && takes t m) : ¬ a.Lists t := by
    intro hl
    simp [takesExactly_iff.mpr hl] at ha
  refine List.pairwise_append.mpr ⟨?_, ?_, fun a ha b hb => .inl ⟨hlists ha, hnot hb⟩⟩
  · refine (h.pairwise_filter _).imp_of_mem fun ha hb hlt => .inr ⟨?_, hlt⟩
    exact iff_of_true (hlists ha) (hlists hb)
  · refine (h.pairwise_filter _).imp_of_mem fun ha hb hlt => .inr ⟨?_, hlt⟩
    exact iff_of_false (hnot ha) (hnot hb)

theorem Reachable.nodup_recommend (h : r.Reachable) (t : DataType) : (r.recommend t).Nodup := by
  refine (h.pairwise_recommend t).imp ?_
  rintro a b (⟨hl, hn⟩ | ⟨-, hlt⟩) rfl
  · exact hn hl
  · exact String.lt_irrefl _ hlt

/-- **Recommendations agree with the compiler.** For a registry that can come about and a type `t`:

* nothing is recommended twice, and what is recommended is just the registered types with an input
  that may be fed by an output of the single type `t`;
* that is, just the types that can be connected to an output of type `t`, in any graph that has such
  an output and a node of the type, without being told that the types do not go together;
* those with an input that lists `t` itself come before all others, and those of either kind are in
  ascending order of type. -/
theorem recommend_agrees (r : Registry β) (hr : r.Reachable) (t : DataType) :
    ((r.recommend t).Nodup ∧ ∀ m, m ∈ r.recommend t ↔ r.manifest? m.type = some m ∧
      ∃ p ∈ m.inputs, p.type.acceptsPort (.single t) = true) ∧
    (∀ (g : Graph) (source : Endpoint) (b : Node) (m : Manifest), g.nodeIds.Nodup →
      g.HasOutput r source (.single t) → b ∈ g.nodes → r.manifest? b.type = some m →
      (m ∈ r.recommend t ↔ ∃ p ∈ m.inputs,
        ¬ (g.connect source ⟨b.id, p.name⟩).IsMismatch r ⟨source, ⟨b.id, p.name⟩⟩)) ∧
    (r.recommend t).Pairwise (Manifest.ComesBefore t) := by
  refine ⟨⟨hr.nodup_recommend t, fun m => hr.mem_recommend_iff⟩, fun g source b m hd hsource hb hm => ?_,
    hr.pairwise_recommend t⟩
  have hregistered : r.manifest? m.type = some m := by rwa [hr.type_eq hm]
  rw [hr.mem_recommend_iff, and_iff_right hregistered]
  refine exists_congr fun p => and_congr_right fun hp => ?_
  have hport : m.inputPort? p.name = some p := Manifest.inputPort?_eq_some (hr.problem?_eq_none hm) hp
  have hiff : (g.connect source ⟨b.id, p.name⟩).IsMismatch r ⟨source, ⟨b.id, p.name⟩⟩ ↔
      p.type.acceptsPort (.single t) = false :=
    Graph.isMismatch_iff (g := g.connect source ⟨b.id, p.name⟩) hd
      (List.mem_append_right _ (List.mem_singleton.mpr rfl))
      ⟨hsource.unreserved, hsource.declared⟩ hb rfl hm hport
  rw [hiff, Bool.not_eq_false]

/-! ### Types that list a ledger, and types that take anything -/

/-- Three types that take a ledger, two of them as they take anything, and one that takes none. -/
def ledgerRegistrations : List (Registration Unit) :=
  [⟨(Manifest.named "sink" "1" .output).withInput ⟨"value", .single .any, true, none⟩, none⟩,
    ⟨(Manifest.named "audit" "1" .audit).withInput ⟨"any", .oneOf [.string, .any], false, none⟩, none⟩,
    ⟨(Manifest.named "journal" "1" .audit).withInput ⟨"book", .oneOf [.vouchers, .ledger], true, none⟩,
      none⟩,
    ⟨(Manifest.named "match" "1" .audit).withInput ⟨"bill", .single .invoices, true, none⟩, none⟩,
    ⟨(Manifest.named "import" "1" .input).withOutput ⟨"book", .single .ledger, false, none⟩, none⟩]

/-- A node that gives a ledger, and a node of a type. -/
def ledgerGraph (type : String) : Graph where
  id := "g"
  nodes := [⟨"a", "import", Table.empty⟩, ⟨"b", type, Table.empty⟩]
  connections := []

/-- What is recommended for a ledger, and that a type that is not recommended cannot be connected to
one, although it has an input. -/
theorem recommend_ledger :
    let r := (empty : Registry Unit).enrolAll ledgerRegistrations
    let g := ledgerGraph "match"
    r.Reachable ∧ (r.recommend .ledger).map (·.type) = ["journal", "audit", "sink"] ∧
      (g.nodeIds.Nodup ∧ g.HasOutput r ⟨"a", "book"⟩ (.single .ledger) ∧
        (g.connect ⟨"a", "book"⟩ ⟨"b", "bill"⟩).IsMismatch r ⟨⟨"a", "book"⟩, ⟨"b", "bill"⟩⟩) ∧
      (r.recommend .ledger).Pairwise (Manifest.ComesBefore .ledger) := by
  intro r g
  have hr : r.Reachable := Reachable.empty.enrolAll _
  obtain ⟨-, hconnect, hordered⟩ := recommend_agrees r hr .ledger
  have hd : g.nodeIds.Nodup := by decide +kernel
  have hsource : g.HasOutput r ⟨"a", "book"⟩ (.single .ledger) :=
    ⟨by decide +kernel, _, _, by rfl, by rfl, rfl⟩
  have htypes : (r.recommend .ledger).map (·.type) = ["journal", "audit", "sink"] := by
    decide +kernel
  refine ⟨hr, htypes, ⟨hd, hsource, ?_⟩, hordered⟩
  -- The type is registered, and not among those that are recommended.
  obtain ⟨m, hm⟩ : ∃ m, r.manifest? "match" = some m :=
    Option.isSome_iff_exists.mp (by decide +kernel)
  have hnot : m ∉ r.recommend .ledger := fun h => by
    simpa [htypes, hr.type_eq hm] using List.mem_map_of_mem (f := (·.type)) h
  have hbill : ∀ m' ∈ r.manifest? "match", ⟨"bill", .single .invoices, true, none⟩ ∈ m'.inputs := by
    decide +kernel
  have hiff := hconnect g ⟨"a", "book"⟩ ⟨"b", "match", Table.empty⟩ m hd hsource (by simp [g, ledgerGraph]) hm
  by_contra hfits
  exact hnot (hiff.mpr ⟨_, hbill m hm, hfits⟩)

end Registry

end PortGraph
