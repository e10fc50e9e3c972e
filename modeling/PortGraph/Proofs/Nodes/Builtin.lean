import PortGraph.Nodes.Builtin
import PortGraph.Proofs.Number.Range
import PortGraph.Proofs.Schema
import PortGraph.Proofs.Validation
import PortGraph.Work.World

/-!
# Built-in nodes and their manifests

A built-in node is described twice: by its manifest, which inputs, configuration and outputs are
held against, and by its body, which reads its configuration into settings of its own and picks what
it needs out of the inputs. The two descriptions agree. A body that is given what validation has let
pass never complains of its configuration or of its inputs, and what it comes to is never refused
afterwards. The one way to fail is that of the threshold: records are recognised by their tag, and
nobody looks for their rows before the body does.

The proof has the same shape for each node. Every field of its schema has to be there or has a
default that is a value of the field, so that a validated configuration holds an admitted value for
each; and the settings are read from admitted values without a complaint.

## Main definitions

* `ConfigField.IsSettled`: a validated configuration holds a value of the field
* `Nodes.Threshold.Asks`: the settings that the configuration of a threshold asks for
* `Work.ComesTo`: work that ends with the same value whatever it sees
* `Fields.HoldWords`: the whole numbers that are bound to inputs have 64 bits
* `Nodes.HasRows`: the records have rows

## Main results

* `Manifest.exists_admits_of_validateConfig`: what a validated configuration holds
* `Settings.exists_read`: settings are read where each reader accepts its value
* `Settings.holds_of_read`: what is read is what its reader makes of it
* `Nodes.builtins_honour_manifests`: the bodies agree with the manifests
-/

namespace PortGraph

/-! ### Validated configurations -/

/-- A validated configuration holds a value of the field: there is no doing without one, or the
default is one. -/
def ConfigField.IsSettled (f : ConfigField) : Prop :=
  (f.default = none ∧ f.required = true) ∨ ∃ d ∈ f.default, d ≠ .null ∧ f.problem? d = none

/-- **What a validated configuration holds**: a value for each field that is settled. -/
theorem Manifest.exists_admits_of_validateConfig {m : Manifest} {config normalized : Fields}
    (hnames : (m.configSchema.map (·.name)).Nodup) (h : m.validateConfig config = .ok normalized)
    {f : ConfigField} (hf : f ∈ m.configSchema) (hsettled : f.IsSettled) :
    ∃ v, normalized.get? f.name = some v ∧ f.Admits v := by
  obtain ⟨hvalid, rfl⟩ := validateConfig_eq_ok_iff.mp h
  obtain ⟨hadmits, hrequired⟩ := fieldProblemIn?_eq_none_iff.mp (hvalid f hf)
  have hheld {v : Json} (h : (m.withDefaults config).getNonNull? f.name = some v) :
      (m.withDefaults config).get? f.name = some v := (Table.getNonNull?_eq_some_iff.mp h).1
  cases hget : config.getNonNull? f.name with
  | some v =>
    exact ⟨v, hheld (getNonNull?_withDefaults_of_some hnames hf hget), hadmits v hget⟩
  | none =>
    rcases hsettled with ⟨hdefault, hneeded⟩ | ⟨d, hd, hnull, hproblem⟩
    · obtain ⟨d, hd⟩ := hrequired hget hneeded
      cases hdefault.symm.trans hd
    · exact ⟨d, hheld ((getNonNull?_withDefaults_of_none hnames hf hget).mpr ⟨hd, hnull⟩),
        ConfigField.problem?_eq_none_iff.mp hproblem⟩

/-- What validated inputs hold for a port that must be bound. -/
theorem Manifest.exists_matchesValue_of_validateInputs {m : Manifest} {inputs : Fields}
    (h : m.validateInputs inputs = .ok ()) {p : Port} (hp : p ∈ m.inputs)
    (hrequired : p.required = true) :
    ∃ v, inputs.get? p.name = some v ∧ p.type.matchesValue v = true := by
  have hnil : m.inputProblems inputs = [] := by
    by_contra hne
    cases h.symm.trans (validateInputs_eq_error_iff.mpr ⟨hne, rfl⟩)
  have hproblem := List.filterMap_eq_nil_iff.mp hnil p hp
  obtain ⟨hmatches, hsome⟩ := Port.problem?_eq_none_iff.mp hproblem
  obtain ⟨v, hv⟩ := Option.isSome_iff_exists.mp (hsome hrequired)
  exact ⟨v, (Table.getNonNull?_eq_some_iff.mp hv).1, hmatches v hv⟩

/-! ### Settings -/

/-- A text is the same data as itself alone. -/
theorem Json.eq_str_of_same {s : String} {v : Json} (h : (Json.str s).same v = true) :
    v = .str s := by
  cases v <;> simp_all [Json.same]

namespace Settings

theorem map_eq_ok_iff {ε α β : Type} {f : α → β} {x : Except ε α} {b : β} :
    x.map f = .ok b ↔ ∃ a, x = .ok a ∧ f a = b := by
  cases x <;> simp [Except.map]

variable {σ : Type} {readers : List (Reader σ)} {entries : List (String × Json)} {s t : σ}

/-- Reading goes well if each reader accepts what stands under its name. -/
theorem exists_readFrom
    (h : ∀ r ∈ readers, ∀ v, (r.1, v) ∈ entries → ∀ s, ∃ t, r.2 v s = .ok t) (s : σ) :
    ∃ t, readFrom readers s entries = .ok t := by
  induction entries generalizing s with
  | nil => exact ⟨s, rfl⟩
  | cons e rest ih =>
    have hrest := ih fun r hr v hv => h r hr v (List.mem_cons_of_mem _ hv)
    rw [readFrom]
    cases hfind : readers.find? (·.1 = e.1) with
    | none => exact hrest s
    | some r =>
      have hname : r.1 = e.1 := by simpa using List.find?_some hfind
      obtain ⟨t, ht⟩ := h r (List.mem_of_find?_eq_some hfind) e.2 (hname ▸ List.mem_cons_self) s
      simpa only [ht] using hrest t

/-- What becomes of the first field: nothing is known of it, or its reader has accepted it. -/
theorem exists_of_readFrom_cons {e : String × Json} {rest : List (String × Json)}
    (h : readFrom readers s (e :: rest) = .ok t) : ∃ after, readFrom readers after rest = .ok t ∧
      match readers.find? (·.1 = e.1) with
      | none => after = s
      | some r => r.2 e.2 s = .ok after := by
  rw [readFrom] at h
  cases hfind : readers.find? (·.1 = e.1) with
  | none => exact ⟨s, by simpa only [hfind] using h, rfl⟩
  | some r =>
    simp only [hfind] at h
    cases hr : r.2 e.2 s with
    | error reason => simp [hr] at h
    | ok after => exact ⟨after, by simpa only [hr] using h, hr⟩

/-- **Settings are read where each reader accepts its value.** -/
theorem exists_read {config : Fields}
    (h : ∀ r ∈ readers, ∀ v, config.get? r.1 = some v → ∀ s, ∃ t, r.2 v s = .ok t) (default : σ) :
    ∃ t, read readers default config = .ok t :=
  exists_readFrom (fun r hr v hv => h r hr v (Table.get?_eq_some_iff.mpr hv)) default

/-- What the reader of a field brings about, and all others keep up, holds once the field has been
read. -/
theorem holds_of_readFrom {P : σ → Prop} {name : String} {v : Json} {r : Reader σ}
    (hfind : readers.find? (·.1 = name) = some r) (hset : ∀ s t, r.2 v s = .ok t → P t)
    (hkeep : ∀ r ∈ readers, r.1 ≠ name → ∀ w s t, r.2 w s = .ok t → P s → P t)
    (hentries : ∀ w, (name, w) ∈ entries → w = v) (h : readFrom readers s entries = .ok t)
    (hP : P s ∨ (name, v) ∈ entries) : P t := by
  induction entries generalizing s with
  | nil =>
    cases h
    exact hP.resolve_right List.not_mem_nil
  | cons e rest ih =>
    obtain ⟨after, hrest, hafter⟩ := exists_of_readFrom_cons h
    refine ih (fun w hw => hentries w (List.mem_cons_of_mem _ hw)) hrest ?_
    by_cases hname : e.1 = name
    · obtain rfl : e.2 = v := hentries e.2 (hname ▸ List.mem_cons_self)
      rw [hname, hfind] at hafter
      exact .inl (hset s after hafter)
    · have hother : P s ∨ (name, v) ∈ rest := by
        refine hP.imp_right fun hmem => (List.mem_cons.mp hmem).resolve_left ?_
        rintro rfl
        exact hname rfl
      refine hother.imp_left fun hP => ?_
      split at hafter
      · exact hafter ▸ hP
      · rename_i r' hfind'
        have hname' : r'.1 = e.1 := by simpa using List.find?_some hfind'
        exact hkeep r' (List.mem_of_find?_eq_some hfind') (hname' ▸ hname) e.2 s after hafter hP

/-- What the reader of a field brings about, and all others keep up, holds after reading. -/
theorem holds_of_read {P : σ → Prop} {config : Fields} {name : String} {v : Json} {r : Reader σ}
    {default : σ} (hfind : readers.find? (·.1 = name) = some r)
    (hset : ∀ s t, r.2 v s = .ok t → P t)
    (hkeep : ∀ r ∈ readers, r.1 ≠ name → ∀ w s t, r.2 w s = .ok t → P s → P t)
    (hv : config.get? name = some v) (h : read readers default config = .ok t) : P t := by
  refine holds_of_readFrom hfind hset hkeep (fun w hw => ?_) h (.inr (Table.get?_eq_some_iff.mp hv))
  cases hv.symm.trans (Table.get?_eq_some_iff.mpr hw)
  rfl

end Settings

/-! ### Work that looks at nothing -/

/-- Work that tells and lets others go first, and ends with the same value whatever it sees. -/
inductive Work.ComesTo {σ ε α : Type} : Work σ ε α → α → Prop
  | done {a} : ComesTo (.done a) a
  | tell {news next a} (h : ComesTo next a) : ComesTo (.tell news next) a
  | yield {next a} (h : ComesTo next a) : ComesTo (.yield next) a

theorem Work.ComesTo.bind {σ ε α β : Type} {w : Work σ ε α} {f : α → Work σ ε β} {a : α} {b : β}
    (h : w.ComesTo a) (hf : (f a).ComesTo b) : (w.bind f).ComesTo b := by
  induction h with
  | done => exact hf
  | tell _ ih => exact .tell (ih hf)
  | yield _ ih => exact .yield (ih hf)

theorem Work.ComesTo.run {σ ε α : Type} {w : Work σ ε α} {a : α} (h : w.ComesTo a)
    (world : World σ ε) : ∃ after, w.run world = .ok (after, a) := by
  induction h generalizing world with
  | done => exact ⟨world, rfl⟩
  | tell _ ih => exact ih _
  | yield _ ih => exact ih _

/-! ### What the bodies come to -/

/-- The whole numbers among the values have 64 bits, as all numbers that are read do. -/
def Fields.HoldWords (t : Fields) : Prop := ∀ name n, t.get? name = some (.num n) → n.IsWord

namespace Nodes

variable {config normalized inputs : Fields}

/-- One value for an output that need not be there is in order if it is of the type, or `null`. -/
theorem validateOutputs_output {m : Manifest} {p : Port} (hm : m.outputs = [p])
    (hrequired : p.required = false) {v : Json}
    (hv : v ≠ .null → p.type.matchesValue v = true) :
    m.validateOutputs (output p.name v) = .ok () := by
  refine Manifest.validateOutputs_eq_ok_iff.mpr fun q hq => ?_
  obtain rfl : q = p := by simpa [hm] using hq
  refine Port.problem?_eq_none_iff.mpr ⟨fun w hw => ?_, by simp [hrequired]⟩
  obtain ⟨hget, hnull⟩ := Table.getNonNull?_eq_some_iff.mp hw
  rw [output, Table.get?_insert, if_pos rfl] at hget
  cases hget
  exact hv hnull

/-- The result of a computation is a number, or else `null`. -/
theorem matchesValue_ofReal? {x? : Option Double} (h : Json.ofReal? x? ≠ .null) :
    (PortType.single .number).matchesValue (.ofReal? x?) = true := by
  cases x? with
  | none => exact absurd rfl h
  | some x => rfl

theorem Constant.outcome_eq (h : manifest.validateConfig config = .ok normalized) :
    ∃ v, outcome normalized = .ok (output "value" v) := by
  obtain ⟨v, hv, -⟩ := Manifest.exists_admits_of_validateConfig (by decide) h
    (List.mem_singleton.mpr rfl) (.inl ⟨rfl, rfl⟩)
  refine ⟨v, ?_⟩
  rw [outcome, show normalized.get? "value" = some v from hv]

theorem JsonOutput.outcome_eq (h : manifest.validateConfig config = .ok normalized) :
    ∃ text, outcome inputs normalized = .ok (output "json" (.str text)) := by
  obtain ⟨v, hv, b, rfl⟩ := Manifest.exists_admits_of_validateConfig (by decide) h
    (List.mem_singleton.mpr rfl) (.inr ⟨.bool false, rfl, nofun, rfl⟩)
  obtain ⟨indented, hread⟩ : ∃ indented, pretty normalized = .ok indented := by
    refine Settings.exists_read (fun r hr w hw s => ?_) _
    obtain rfl := List.mem_singleton.mp hr
    cases hv.symm.trans hw
    exact ⟨b, rfl⟩
  simp only [outcome, hread]
  exact ⟨_, rfl⟩

theorem Offset.outcome_eq (hwords : Fields.HoldWords inputs)
    (hinputs : manifest.validateInputs inputs = .ok ())
    (h : manifest.validateConfig config = .ok normalized) :
    ∃ x?, outcome inputs normalized = .ok (output "value" (.ofReal? x?)) := by
  obtain ⟨v, hv, x, hx, -⟩ := Manifest.exists_admits_of_validateConfig (by decide) h
    (List.mem_singleton.mpr rfl) (.inr ⟨.ofNat 0, rfl, nofun, by decide +kernel⟩)
  obtain ⟨shift, hread⟩ : ∃ x, amount normalized = .ok x := by
    refine Settings.exists_read (fun r hr w hw s => ?_) _
    obtain rfl := List.mem_singleton.mp hr
    cases hv.symm.trans hw
    exact ⟨x, by simp only [Json.asNumber, hx]⟩
  obtain ⟨w, hw, hnumber⟩ := Manifest.exists_matchesValue_of_validateInputs hinputs
    (List.mem_singleton.mpr rfl) rfl
  cases w with
  | num n =>
    obtain ⟨y, hy⟩ := (hwords _ n hw).exists_toDouble?
    refine ⟨y.add shift, ?_⟩
    rw [outcome, hread, show inputs.get? "value" = some (.num n) from hw]
    simp only [Option.bind_some, Json.toDouble?, hy]
  | _ => cases hnumber

namespace Threshold

/-- What a reader does to the settings. -/
theorem readers_inv {r : PortGraph.Settings.Reader Draft} (hr : r ∈ readers) {v : Json}
    {d d' : Draft} (h : r.2 v d = .ok d') :
    (r.1 = "field" ∧ ∃ t, v.asText = .ok t ∧ d' = { d with field := t }) ∨
      (r.1 = "threshold" ∧ ∃ x, v.asNumber = .ok x ∧ d' = { d with threshold? := some x }) ∨
      (r.1 = "mode" ∧ ∃ s, v.asChoice Side.byName = .ok s ∧ d' = { d with side := s }) := by
  simp only [readers, List.mem_cons, List.not_mem_nil, or_false] at hr
  obtain rfl | rfl | rfl := hr
  · obtain ⟨t, ht, rfl⟩ := PortGraph.Settings.map_eq_ok_iff.mp h
    exact .inl ⟨rfl, t, ht, rfl⟩
  · obtain ⟨x, hx, rfl⟩ := PortGraph.Settings.map_eq_ok_iff.mp h
    exact .inr (.inl ⟨rfl, x, hx, rfl⟩)
  · obtain ⟨s, hs, rfl⟩ := PortGraph.Settings.map_eq_ok_iff.mp h
    exact .inr (.inr ⟨rfl, s, hs, rfl⟩)

/-- The configuration asks for the amounts in a field that are beyond a threshold, on one side. -/
structure Asks (config : Fields) (s : Settings) : Prop where
  field : config.get? "field" = some (.str s.field)
  threshold : ∃ n, config.get? "threshold" = some (.num n) ∧ n.toDouble? = some s.threshold
  mode : ∃ name, config.get? "mode" = some (.str name) ∧ (name, s.side) ∈ Side.byName

theorem asChoice_byName {name : String} {side : Side} (h : (name, side) ∈ Side.byName) :
    (Json.str name).asChoice Side.byName = .ok side := by
  simp only [Side.byName, List.mem_cons, Prod.mk.injEq, List.not_mem_nil, or_false] at h
  obtain ⟨rfl, rfl⟩ | ⟨rfl, rfl⟩ := h <;> rfl

/-- **What is asked for is what is read.** -/
theorem settings_eq (h : Asks config s) : settings config = .ok s := by
  obtain ⟨n, hthreshold, hn⟩ := h.threshold
  obtain ⟨name, hmode, hname⟩ := h.mode
  have hside := asChoice_byName hname
  have hnumber : (Json.num n).asNumber = .ok s.threshold := by
    simp only [Json.asNumber, Json.toDouble?, hn]
  obtain ⟨d, hd⟩ : ∃ d, PortGraph.Settings.read readers {} config = .ok d := by
    refine PortGraph.Settings.exists_read (fun r hr v hv d => ?_) _
    simp only [readers, List.mem_cons, List.not_mem_nil, or_false] at hr
    obtain rfl | rfl | rfl := hr
    · cases h.field.symm.trans hv
      exact ⟨_, rfl⟩
    · cases hthreshold.symm.trans hv
      exact ⟨_, PortGraph.Settings.map_eq_ok_iff.mpr ⟨_, hnumber, rfl⟩⟩
    · cases hmode.symm.trans hv
      exact ⟨_, PortGraph.Settings.map_eq_ok_iff.mpr ⟨_, hside, rfl⟩⟩
  have hfield : d.field = s.field := by
    refine PortGraph.Settings.holds_of_read (P := fun d => d.field = s.field) (r := readers[0]) rfl
      (fun d d' hset => ?_) (fun r hr hne w d d' hset hd => ?_) h.field hd
    · cases hset
      rfl
    · obtain ⟨hname, -⟩ | ⟨-, _, -, rfl⟩ | ⟨-, _, -, rfl⟩ := readers_inv hr hset
      · exact absurd hname hne
      · exact hd
      · exact hd
  have hbound : d.threshold? = some s.threshold := by
    refine PortGraph.Settings.holds_of_read (P := fun d => d.threshold? = some s.threshold)
      (r := readers[1]) rfl (fun d d' hset => ?_) (fun r hr hne w d d' hset hd => ?_) hthreshold hd
    · obtain ⟨x, hx, rfl⟩ := PortGraph.Settings.map_eq_ok_iff.mp hset
      cases hnumber.symm.trans hx
      rfl
    · obtain ⟨-, _, -, rfl⟩ | ⟨hname, -⟩ | ⟨-, _, -, rfl⟩ := readers_inv hr hset
      · exact hd
      · exact absurd hname hne
      · exact hd
  have hmode : d.side = s.side := by
    refine PortGraph.Settings.holds_of_read (P := fun d => d.side = s.side) (r := readers[2]) rfl
      (fun d d' hset => ?_) (fun r hr hne w d d' hset hd => ?_) hmode hd
    · obtain ⟨x, hx, rfl⟩ := PortGraph.Settings.map_eq_ok_iff.mp hset
      cases hside.symm.trans hx
      rfl
    · obtain ⟨-, _, -, rfl⟩ | ⟨-, _, -, rfl⟩ | ⟨hname, -⟩ := readers_inv hr hset
      · exact hd
      · exact hd
      · exact absurd hname hne
  simp only [settings, hd, hbound, hfield, hmode]

/-- **A validated configuration asks for something.** -/
theorem exists_asks (h : manifest.validateConfig config = .ok normalized) :
    ∃ s, Asks normalized s := by
  obtain ⟨_, hfield, field, rfl⟩ := Manifest.exists_admits_of_validateConfig (by decide) h
    (List.mem_cons_self ..) (.inr ⟨.str "amount", rfl, by simp, rfl⟩)
  obtain ⟨v, hthreshold, x, hx, -⟩ := Manifest.exists_admits_of_validateConfig (by decide) h
    (List.mem_cons_of_mem _ (List.mem_cons_self ..)) (.inl ⟨rfl, rfl⟩)
  obtain ⟨_, hmode, option, hoption, hsame⟩ := Manifest.exists_admits_of_validateConfig
    (by decide) h (List.mem_cons_of_mem _ (List.mem_cons_of_mem _ (List.mem_singleton.mpr rfl)))
    (.inr ⟨.str "above", rfl, by simp, rfl⟩)
  obtain ⟨n, rfl⟩ : ∃ n, v = .num n := by
    cases v with
    | num n => exact ⟨n, rfl⟩
    | _ => cases hx
  obtain ⟨name, side, rfl, hside⟩ :
      ∃ name side, option = .str name ∧ (name, side) ∈ Side.byName := by
    obtain rfl | rfl : option = .str "above" ∨ option = .str "below" := by simpa using hoption
    · exact ⟨"above", .above, rfl, by decide⟩
    · exact ⟨"below", .below, rfl, by decide⟩
  obtain rfl := Json.eq_str_of_same hsame
  exact ⟨⟨field, x, side⟩, hfield, ⟨n, hthreshold, hx⟩, ⟨name, hmode, hside⟩⟩

/-- A validated configuration is read without a complaint. -/
theorem exists_settings (h : manifest.validateConfig config = .ok normalized) :
    ∃ s, settings normalized = .ok s :=
  (exists_asks h).imp fun _ hasked => settings_eq hasked

/-- Whatever the rows are, a scan comes to its end. -/
theorem exists_comesTo_scanFrom {κ : Type} (s : Settings) (total index : Nat) (t : Tally)
    (rows : List Json) : ∃ u, (scanFrom s total index t rows : Work κ Report Tally).ComesTo u := by
  induction rows generalizing index t with
  | nil => exact ⟨t, .done⟩
  | cons row rest ih =>
    obtain ⟨u, hu⟩ := ih (index + 1) (t.add s index row)
    rw [scanFrom]
    split
    · exact ⟨u, .tell (.yield hu)⟩
    · exact ⟨u, hu⟩

/-- Findings are tagged as the output wants them. -/
theorem matchesValue_findings (s : Settings) (t : Tally) :
    (PortType.single .riskSet).matchesValue (findings s t) = true := by
  rfl

end Threshold

/-- The records have an array of rows. -/
def HasRows (inputs : Fields) : Prop :=
  ∃ records rows, inputs.get? "records" = some records ∧ records.get? "rows" = some (.arr rows)

theorem hasRows_iff : HasRows inputs ↔ ∃ rows, Threshold.rows? inputs = some rows := by
  simp only [HasRows, Threshold.rows?, Option.bind_eq_some_iff]
  constructor
  · rintro ⟨records, rows, hrecords, hrows⟩
    exact ⟨rows, records, hrecords, _, hrows, rfl⟩
  · rintro ⟨rows, records, hrecords, v, hv, hrows⟩
    cases v with
    | arr items => exact ⟨records, items, hrecords, hv⟩
    | _ => cases hrows

/-- An outcome as it is promised of a node whose inputs and configuration are valid: outputs that
are in order, or that the records have no rows, which the threshold alone says, and says then. -/
def IsPromised (m : Manifest) (inputs : Fields) : Outcome → Prop
  | .ok outputs =>
    m.validateOutputs outputs = .ok () ∧ (m.type = "amount-threshold" → HasRows inputs)
  | .error e =>
    m.type = "amount-threshold" ∧ ¬ HasRows inputs ∧
      e = .failed "records value has no 'rows' array" none

theorem isPromised_output {m : Manifest} (p : Port) (hm : m.outputs = [p])
    (hrequired : p.required = false) (htype : m.type ≠ "amount-threshold") {v : Json}
    (hv : v ≠ .null → p.type.matchesValue v = true) :
    IsPromised m inputs (.ok (output p.name v)) :=
  ⟨validateOutputs_output hm hrequired hv, fun h => absurd h htype⟩

/-- The threshold comes to findings, or says that there are no rows. -/
theorem Threshold.exists_comesTo_body {κ : Type} (scope : Scope)
    (h : manifest.validateConfig config = .ok normalized) :
    ∃ o, (body scope inputs normalized : Work κ Report Outcome).ComesTo o ∧
      IsPromised manifest inputs o := by
  obtain ⟨s, hs⟩ := exists_settings h
  simp only [body, hs]
  cases hrows : rows? inputs with
  | none =>
    refine ⟨_, .done, rfl, ?_, rfl⟩
    rw [hasRows_iff, hrows]
    exact fun ⟨_, hrows⟩ => nomatch hrows
  | some rows =>
    obtain ⟨t, ht⟩ := exists_comesTo_scanFrom (κ := κ) s rows.length 0 {} rows
    refine ⟨_, ht.bind .done, ?_, fun _ => hasRows_iff.mpr ⟨rows, hrows⟩⟩
    exact validateOutputs_output (p := ⟨"findings", .single .riskSet, false, none⟩) rfl rfl
      fun _ => matchesValue_findings s t

/-- **The bodies agree with the manifests.** A built-in node is given inputs and a configuration
that have been found valid, the latter with its defaults filled in. Then it comes to one outcome in
every world, and that is as promised: outputs that are found valid in turn, or, for the threshold
and if the records have no rows, just that. In particular it complains neither of its configuration
nor of its inputs. -/
theorem builtins_honour_manifests {κ : Type} (m : Manifest) (body : Body κ)
    (hbuiltin : (m, body) ∈ (builtins : List (Manifest × Body κ))) (scope : Scope)
    (inputs config normalized : Fields) (hwords : Fields.HoldWords inputs)
    (hinputs : m.validateInputs inputs = .ok ())
    (hconfig : m.validateConfig config = .ok normalized) :
    ∃ o, (∀ world, ∃ after, (body scope inputs normalized).run world = .ok (after, o)) ∧
      IsPromised m inputs o := by
  obtain ⟨o, hcomes, hpromised⟩ : ∃ o, (body scope inputs normalized).ComesTo o ∧
      IsPromised m inputs o := by
    -- Only the offset needs a number among its inputs, and only the threshold needs rows.
    simp only [builtins, List.mem_cons, List.not_mem_nil, or_false, Prod.mk.injEq] at hbuiltin
    obtain ⟨rfl, rfl⟩ | ⟨rfl, rfl⟩ | ⟨rfl, rfl⟩ | ⟨rfl, rfl⟩ | ⟨rfl, rfl⟩ | ⟨rfl, rfl⟩ := hbuiltin
    · obtain ⟨v, hv⟩ := Constant.outcome_eq hconfig
      exact ⟨_, .done, hv ▸ isPromised_output ⟨"value", .single .any, false, none⟩ rfl rfl
        (by decide) fun _ => rfl⟩
    · obtain ⟨x?, hx⟩ := Offset.outcome_eq hwords hinputs hconfig
      exact ⟨_, .done, hx ▸ isPromised_output ⟨"value", .single .number, false, none⟩ rfl rfl
        (by decide) matchesValue_ofReal?⟩
    · exact ⟨_, .done, isPromised_output ⟨"sum", .single .number, false, none⟩ rfl rfl
        (by decide) matchesValue_ofReal?⟩
    · exact ⟨_, .done, isPromised_output ⟨"value", .single .any, false, none⟩ rfl rfl
        (by decide) fun _ => rfl⟩
    · exact Threshold.exists_comesTo_body scope hconfig
    · obtain ⟨text, htext⟩ := JsonOutput.outcome_eq hconfig
      exact ⟨_, .done, htext ▸ isPromised_output ⟨"json", .single .string, false, none⟩ rfl rfl
        (by decide) fun _ => rfl⟩
  exact ⟨o, hcomes.run, hpromised⟩

/-- A threshold for records without rows, with `null` for a side: it says just that. -/
theorem threshold_without_rows :
    let inputs : Fields := .ofList [("records", .obj [("type", .str "records")])]
    let config : Fields := .ofList [("threshold", .ofNat 10), ("mode", .null), ("note", .arr [])]
    let normalized : Fields := .ofList [("field", .str "amount"), ("threshold", .ofNat 10),
      ("mode", .str "above"), ("note", .arr [])]
    (Threshold.manifest, Threshold.body) ∈ (builtins : List (Manifest × Body Unit)) ∧
      Fields.HoldWords inputs ∧ Threshold.manifest.validateInputs inputs = .ok () ∧
      Threshold.manifest.validateConfig config = .ok normalized ∧
      ∀ world : World Unit Report, ∃ after, (Threshold.body default inputs normalized).run world =
        .ok (after, .error (.failed "records value has no 'rows' array" none)) := by
  intro inputs config normalized
  have hbuiltin : (Threshold.manifest, Threshold.body) ∈ (builtins : List (Manifest × Body Unit)) := by
    simp [builtins]
  have hwords : Fields.HoldWords inputs := by
    intro name n hget
    simp [inputs, Table.get?_ofList, Table.find?] at hget
  have hinputs : Threshold.manifest.validateInputs inputs = .ok () := by decide +kernel
  have hconfig : Threshold.manifest.validateConfig config = .ok normalized := by decide +kernel
  refine ⟨hbuiltin, hwords, hinputs, hconfig, ?_⟩
  obtain ⟨o, hrun, hpromised⟩ := builtins_honour_manifests _ _ hbuiltin default inputs config
    normalized hwords hinputs hconfig
  have hrows : ¬ HasRows inputs := by
    rw [hasRows_iff, show Threshold.rows? inputs = none by decide +kernel]
    rintro ⟨_, hrows⟩
    cases hrows
  cases o with
  | ok outputs => exact absurd (hpromised.2 rfl) hrows
  | error e =>
    obtain ⟨-, -, rfl⟩ := hpromised
    exact hrun

end Nodes

end PortGraph
