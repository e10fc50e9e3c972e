import PortGraph.Proofs.Nodes.Builtin
import PortGraph.Proofs.Number.Order
import PortGraph.Proofs.Work.Reporting

/-!
# What the scan for a threshold finds

A scan goes through the rows once, with an index that is reported and decides when to let others go
first. It finds each row beyond the threshold once, in the order of the rows, and it tells its
progress before every further 500 rows and nowhere else.

An amount is compared with the threshold after both have been rounded to fractional numbers. Of
whole numbers that is their order, except that two which are far from zero and near to each other
may have become equal.

## Main definitions

* `Nodes.Threshold.IsFlagged`: a row has an amount beyond the threshold
* `Nodes.Threshold.tallyFrom`, `reports`: what a scan finds, and what it tells

## Main results

* `Nodes.Threshold.scan_eq`: a scan only reports, and comes to its tally
* `Nodes.Threshold.lists_exactly_flagged_rows`: what is found and told
-/

namespace PortGraph

namespace Nodes.Threshold

variable {κ : Type} {s : Settings} {inputs config : Fields} {rows : List Json}

/-! ### Rows -/

/-- Whether a row is an object that has a number in the field. -/
def hasNumber (field : String) : Json → Bool
  | .obj members =>
    match Table.find? field members with
    | some (.num _) => true
    | _ => false
  | _ => false

/-- A row has an amount in the field, and it is strictly beyond the threshold. -/
def IsFlagged (s : Settings) (row : Json) : Prop :=
  ∃ n x, row.get? s.field = some (.num n) ∧ n.toDouble? = some x ∧
    match s.side with
    | .above => s.threshold.value < x.value
    | .below => x.value < s.threshold.value

/-- The finding about row `i`: its amount, its index, and the row as it is. -/
def IsFinding (s : Settings) (rows : List Json) (i : Nat) (item : Json) : Prop :=
  ∃ row n x, rows[i]? = some row ∧ row.get? s.field = some (.num n) ∧ n.toDouble? = some x ∧
    item = .obj [("amount", .ofDouble x), ("index", .ofNat i), ("row", row)]

theorem hasNumber_eq_true_iff {field : String} {row : Json} :
    hasNumber field row = true ↔ ∃ n, row.get? field = some (.num n) := by
  cases row with
  | obj members =>
    rw [hasNumber, Json.get?]
    split
    · rename_i n hfind
      exact iff_of_true rfl ⟨n, hfind⟩
    · rename_i hne
      exact iff_of_false (by simp) fun ⟨n, hfind⟩ => hne n hfind
  | _ => simp [hasNumber, Json.get?]

theorem amount?_eq_some_iff {row : Json} {x : Double} :
    amount? s row = some x ↔ ∃ n, row.get? s.field = some (.num n) ∧ n.toDouble? = some x := by
  rw [amount?, Option.bind_eq_some_iff]
  constructor
  · rintro ⟨v, hv, hx⟩
    cases v with
    | num n => exact ⟨n, hv, hx⟩
    | _ => cases hx
  · exact fun ⟨n, hv, hx⟩ => ⟨_, hv, hx⟩

theorem flags_iff {side : Side} {x threshold : Double} :
    side.flags x threshold = true ↔
      match side with
      | .above => threshold.value < x.value
      | .below => x.value < threshold.value := by
  cases side <;> exact Binary.lt_iff_value_lt

theorem finding?_eq_some_iff {i : Nat} {row item : Json} :
    finding? s i row = some item ↔ ∃ x, amount? s row = some x ∧
      s.side.flags x s.threshold = true ∧
      item = .obj [("amount", .ofDouble x), ("index", .ofNat i), ("row", row)] := by
  rw [finding?]
  cases amount? s row with
  | none => exact iff_of_false nofun fun ⟨_, hx, _⟩ => nomatch hx
  | some x =>
    simp only [Option.some.injEq, exists_eq_left']
    by_cases hflags : s.side.flags x s.threshold = true
    · rw [if_pos hflags, Option.some.injEq, and_iff_right hflags, eq_comm]
    · rw [if_neg hflags]
      exact iff_of_false nofun fun h => hflags h.1

/-- **A row is reported if it is flagged.** -/
theorem isSome_finding?_iff {i : Nat} {row : Json} :
    (finding? s i row).isSome = true ↔ IsFlagged s row := by
  rw [Option.isSome_iff_exists, IsFlagged]
  constructor
  · rintro ⟨item, hitem⟩
    obtain ⟨x, hx, hflags, -⟩ := finding?_eq_some_iff.mp hitem
    obtain ⟨n, hn, hx⟩ := amount?_eq_some_iff.mp hx
    exact ⟨n, x, hn, hx, flags_iff.mp hflags⟩
  · rintro ⟨n, x, hn, hx, hbeyond⟩
    exact ⟨_, finding?_eq_some_iff.mpr
      ⟨x, amount?_eq_some_iff.mpr ⟨n, hn, hx⟩, flags_iff.mpr hbeyond, rfl⟩⟩

/-- A row is skipped if it has no number, as long as its numbers have 64 bits. -/
theorem isSkipped_eq {row : Json} (hwords : ∀ n, row.get? s.field = some (.num n) → n.IsWord) :
    isSkipped s row = !hasNumber s.field row := by
  rw [isSkipped, Bool.eq_iff_iff, Option.isNone_iff_eq_none, Bool.not_eq_true', 
    ← Bool.not_eq_true, hasNumber_eq_true_iff]
  constructor
  · rintro hnone ⟨n, hn⟩
    obtain ⟨x, hx⟩ := (hwords n hn).exists_toDouble?
    cases hnone.symm.trans (amount?_eq_some_iff.mpr ⟨n, hn, hx⟩)
  · intro hnumber
    refine Option.eq_none_iff_forall_ne_some.mpr fun x hx => hnumber ?_
    obtain ⟨n, hn, -⟩ := amount?_eq_some_iff.mp hx
    exact ⟨n, hn⟩

/-! ### The scan -/

/-- The tally of the rows from number `index` on. -/
def tallyFrom (s : Settings) (index : Nat) (t : Tally) : List Json → Tally
  | [] => t
  | row :: rest => tallyFrom s (index + 1) (t.add s index row) rest

/-- The rows before which a scan reports, of `n` rows from number `index` on. -/
def stops (index n : Nat) : List Nat :=
  (List.range' index n).filter fun i => 0 < i ∧ i % chunk = 0

/-- What a scan of `n` rows tells. -/
def reports (n : Nat) : List Report :=
  (List.range ((n - 1) / chunk)).map fun k => report (chunk * (k + 1)) n

/-- **A scan only reports**, and comes to its tally. -/
theorem scanFrom_eq (s : Settings) (total index : Nat) (t : Tally) (rows : List Json) :
    (scanFrom s total index t rows : Work κ Report Tally) =
      .reporting (tallyFrom s index t rows) ((stops index rows.length).map (report · total)) := by
  induction rows generalizing index t with
  | nil => rfl
  | cons row rest ih =>
    rw [scanFrom, tallyFrom, List.length_cons, stops, List.range'_succ, List.filter_cons, ih]
    simp only [decide_eq_true_eq]
    split
    · rfl
    · rfl

/-- A scan reports before every further chunk of rows. -/
theorem stops_zero (n : Nat) :
    stops 0 n = (List.range ((n - 1) / chunk)).map fun k => chunk * (k + 1) := by
  induction n with
  | zero => rfl
  | succ n ih =>
    have hlast : stops 0 (n + 1) = stops 0 n ++ if 0 < n ∧ n % chunk = 0 then [n] else [] := by
      rw [stops, List.range'_1_concat, List.filter_append, Nat.zero_add]
      congr 1
      simp only [List.filter_cons, List.filter_nil, decide_eq_true_eq]
    rw [hlast, ih, Nat.add_sub_cancel]
    split
    · rename_i hstop
      have hmore : n / chunk = (n - 1) / chunk + 1 := by
        simp only [chunk] at hstop ⊢
        omega
      have hn : chunk * ((n - 1) / chunk + 1) = n := by
        simp only [chunk] at hstop ⊢
        omega
      rw [hmore, List.range_succ, List.map_append, List.map_singleton, hn]
    · rename_i hstop
      have hsame : n / chunk = (n - 1) / chunk := by
        simp only [chunk] at hstop ⊢
        omega
      rw [hsame, List.append_nil]

/-- **What a scan tells.** -/
theorem scan_eq (s : Settings) (rows : List Json) :
    (scan s rows : Work κ Report Tally) =
      .reporting (tallyFrom s 0 {} rows) (reports rows.length) := by
  rw [scan, scanFrom_eq, stops_zero, List.map_map]
  rfl

/-- What a step adds is what a run adds up: the findings of the rows, in their order, and the number
of rows skipped. -/
theorem tallyFrom_eq (s : Settings) (index : Nat) (t : Tally) (rows : List Json) :
    (tallyFrom s index t rows).items.reverse =
        t.items.reverse ++ (rows.zipIdx index).filterMap (fun p => finding? s p.2 p.1) ∧
      (tallyFrom s index t rows).skipped = t.skipped + rows.countP (isSkipped s) := by
  induction rows generalizing index t with
  | nil => exact ⟨(List.append_nil _).symm, rfl⟩
  | cons row rest ih =>
    obtain ⟨hitems, hskipped⟩ := ih (index + 1) (t.add s index row)
    rw [tallyFrom]
    constructor
    · rw [hitems, List.zipIdx_cons, List.filterMap_cons, Tally.add]
      cases finding? s index row <;> simp
    · rw [hskipped, List.countP_cons]
      simp only [Tally.add]
      omega

/-! ### The findings -/

/-- The findings of the rows, in their order. -/
def found (s : Settings) (rows : List Json) : List Json :=
  rows.zipIdx.filterMap fun p => finding? s p.2 p.1

/-- The numbers of the rows with a finding. -/
def flagged (s : Settings) (rows : List Json) : List Nat :=
  (rows.zipIdx.filter fun p => (finding? s p.2 p.1).isSome).map (·.2)

theorem pairwise_flagged (s : Settings) (rows : List Json) : (flagged s rows).Pairwise (· < ·) := by
  have hsub : (flagged s rows).Sublist (List.range' 0 rows.length) := by
    rw [← List.zipIdx_map_snd]
    exact List.filter_sublist.map _
  exact List.Pairwise.sublist hsub List.pairwise_lt_range'

theorem mem_flagged {i : Nat} :
    i ∈ flagged s rows ↔ ∃ row, rows[i]? = some row ∧ IsFlagged s row := by
  rw [flagged, List.mem_map]
  constructor
  · rintro ⟨⟨row, j⟩, hmem, rfl⟩
    obtain ⟨hrow, hsome⟩ := List.mem_filter.mp hmem
    exact ⟨row, List.mk_mem_zipIdx_iff_getElem?.mp hrow, isSome_finding?_iff.mp hsome⟩
  · rintro ⟨row, hrow, hflagged⟩
    exact ⟨(row, i), List.mem_filter.mpr ⟨List.mk_mem_zipIdx_iff_getElem?.mpr hrow,
      isSome_finding?_iff.mpr hflagged⟩, rfl⟩

/-- Each finding is about the row that is flagged. -/
theorem forall₂_found (s : Settings) (rows : List Json) :
    List.Forall₂ (IsFinding s rows) (flagged s rows) (found s rows) := by
  have hfinding : ∀ p ∈ rows.zipIdx, ∀ item, finding? s p.2 p.1 = some item →
      IsFinding s rows p.2 item := by
    intro p hp item hitem
    obtain ⟨x, hx, -, rfl⟩ := finding?_eq_some_iff.mp hitem
    obtain ⟨n, hn, hx⟩ := amount?_eq_some_iff.mp hx
    exact ⟨p.1, n, x, List.mk_mem_zipIdx_iff_getElem?.mp hp, hn, hx, rfl⟩
  rw [flagged, found]
  generalize rows.zipIdx = l at hfinding
  induction l with
  | nil => exact .nil
  | cons p rest ih =>
    have hrest := ih fun q hq => hfinding q (List.mem_cons_of_mem _ hq)
    rw [List.filter_cons, List.filterMap_cons]
    cases hitem : finding? s p.2 p.1 with
    | none => exact hrest
    | some item => exact .cons (hfinding p List.mem_cons_self item hitem) hrest

/-- There is a finding about a row, or it is skipped, or neither. -/
theorem length_found_add_countP_le (s : Settings) (rows : List Json) :
    (found s rows).length + rows.countP (isSkipped s) ≤ rows.length := by
  have hskipped : rows.countP (isSkipped s) = rows.zipIdx.countP (isSkipped s ∘ Prod.fst) := by
    rw [← List.countP_map, List.zipIdx_map_fst]
  have hsplit := List.length_eq_countP_add_countP (isSkipped s ∘ Prod.fst) (l := rows.zipIdx)
  have hfound : (found s rows).length ≤
      rows.zipIdx.countP fun p => ¬ (isSkipped s ∘ Prod.fst) p = true := by
    rw [found, List.length_filterMap_eq_countP]
    refine List.countP_mono_left fun p _ hsome => ?_
    obtain ⟨item, hitem⟩ := Option.isSome_iff_exists.mp hsome
    obtain ⟨x, hx, -⟩ := finding?_eq_some_iff.mp hitem
    simp [isSkipped, hx]
  rw [List.length_zipIdx] at hsplit
  omega

/-- The findings of a scan as a value. -/
def result (s : Settings) (rows : List Json) : Json :=
  .obj [("count", .ofNat (found s rows).length), ("items", .arr (found s rows)),
    ("rule", .str (rule s)), ("skipped", .ofNat (rows.countP (isSkipped s))),
    ("type", .str DataType.riskSet.name)]

theorem rows?_eq_some {records : Json} (hrecords : inputs.get? "records" = some records)
    (hrows : records.get? "rows" = some (.arr rows)) : rows? inputs = some rows := by
  rw [rows?, hrecords, Option.bind_some, hrows]
  rfl

/-- **What becomes of records with rows**: work that only reports, and ends with the findings. -/
theorem body_eq (scope : Scope) (hasked : Asks config s) (hrows : rows? inputs = some rows) :
    (body scope inputs config : Work κ Report Outcome) =
      .reporting (.ok (output "findings" (result s rows))) (reports rows.length) := by
  have hvalue : findings s (tallyFrom s 0 {} rows) = result s rows := by
    obtain ⟨hitems, hskipped⟩ := tallyFrom_eq s 0 {} rows
    have hitems' : (tallyFrom s 0 {} rows).items.reverse = found s rows := hitems
    rw [findings, result, ← hitems', List.length_reverse, hskipped, Nat.zero_add]
  simp only [body, settings_eq hasked, hrows, scan_eq, Work.reporting_bind, hvalue]

theorem exists_run_body (scope : Scope) (hasked : Asks config s) (hrows : rows? inputs = some rows)
    (world : World κ Report) : ∃ after, (body scope inputs config).run world =
      .ok (after, .ok (output "findings" (result s rows))) := by
  rw [body_eq scope hasked hrows]
  exact (Work.exists_run_reporting _ _ world).imp fun _ h => h.1

theorem length_reports (n : Nat) : (reports n).length = (n - 1) / 500 := by
  rw [reports, List.length_map, List.length_range]
  rfl

/-- **What the scan for a threshold finds and tells.** The numbers of the flagged rows stand in
strictly ascending order, and for each of them there is one finding, with its number and the row as
it is. They are counted, and so are the rows without a number; the two counts do not exceed that of
the rows. There is a report before every further 500 rows, at each of which the scan lets others go
first, and there is no other: the body is that work, and it tells this and ends so however it is
run, by itself or among others. -/
theorem lists_exactly_flagged_rows {κ : Type} (scope : Scope) (inputs config : Fields)
    (s : Settings) (records : Json) (rows : List Json) (hasked : Asks config s)
    (hrecords : inputs.get? "records" = some records)
    (hrows : records.get? "rows" = some (.arr rows))
    (hwords : ∀ row ∈ rows, ∀ n, row.get? s.field = some (.num n) → n.IsWord) :
    ∃ (indices : List Nat) (items : List Json) (skipped : Nat) (outcome : Outcome),
      indices.Pairwise (· < ·) ∧
      (∀ i, i ∈ indices ↔ ∃ row, rows[i]? = some row ∧ IsFlagged s row) ∧
      List.Forall₂ (IsFinding s rows) indices items ∧
      skipped = rows.countP (fun row => !hasNumber s.field row) ∧
      items.length + skipped ≤ rows.length ∧
      outcome = .ok (output "findings" (.obj [("count", .ofNat items.length),
        ("items", .arr items), ("rule", .str (rule s)), ("skipped", .ofNat skipped),
        ("type", .str DataType.riskSet.name)])) ∧
      (body scope inputs config : Work κ Report Outcome) =
        .reporting outcome (reports rows.length) ∧
      (body scope inputs config : Work κ Report Outcome).IsSteady (reports rows.length) outcome ∧
      (reports rows.length).length = (rows.length - 1) / 500 := by
  have hbody := body_eq (κ := κ) scope hasked (rows?_eq_some hrecords hrows)
  have hskipped : rows.countP (isSkipped s) = rows.countP fun row => !hasNumber s.field row :=
    List.countP_congr fun row hrow => by rw [isSkipped_eq (hwords row hrow)]
  refine ⟨flagged s rows, found s rows, rows.countP (isSkipped s), _, pairwise_flagged s rows,
    fun i => mem_flagged, forall₂_found s rows, hskipped, length_found_add_countP_le s rows, rfl,
    hbody, ?_, length_reports rows.length⟩
  rw [hbody]
  exact Work.isSteady_reporting _ _

/-- Rows of every kind, flagged below one: two of them are, and two have no number. -/
theorem lists_two_rows_below_one :
    let rows : List Json := [.obj [("amount", .ofNat 3)], .str "amount",
      .obj [("amount", .num (.whole (-2)))], .obj [("amount", .str "1")],
      .obj [("amount", .ofDouble .zero)]]
    let inputs : Fields :=
      .ofList [("records", .obj [("rows", .arr rows), ("type", .str "records")])]
    let config : Fields := .ofList [("field", .str "amount"), ("threshold", .ofNat 1),
      ("mode", .str "below")]
    let s : Settings := ⟨"amount", .one, .below⟩
    Asks config s ∧ (∀ row ∈ rows, ∀ n, row.get? s.field = some (.num n) → n.IsWord) ∧
      ∃ items, List.Forall₂ (IsFinding s rows) [2, 4] items ∧
        (body default inputs config : Work Unit Report Outcome) =
          .done (.ok (output "findings" (.obj [("count", .ofNat 2), ("items", .arr items),
            ("rule", .str (rule s)), ("skipped", .ofNat 2),
            ("type", .str DataType.riskSet.name)]))) := by
  intro rows inputs config s
  have hasked : Asks config s := by
    refine ⟨by decide +kernel, ⟨.whole 1, by decide +kernel, by decide +kernel⟩,
      ⟨"below", by decide +kernel, by decide⟩⟩
  have hwords : ∀ row ∈ rows, ∀ n, row.get? s.field = some (.num n) → n.IsWord := by
    intro row hrow n hn
    simp only [rows, List.mem_cons, List.not_mem_nil, or_false] at hrow
    obtain rfl | rfl | rfl | rfl | rfl := hrow <;> cases hn
    · exact ⟨by decide, by decide⟩
    · exact ⟨by decide, by decide⟩
    · trivial
  refine ⟨hasked, hwords, ?_⟩
  obtain ⟨indices, items, skipped, outcome, hsorted, hmem, hitems, hskipped, -, houtcome, hbody, -,
      hlength⟩ :=
    lists_exactly_flagged_rows (κ := Unit) default inputs config s
      (.obj [("rows", .arr rows), ("type", .str "records")]) rows hasked (by decide +kernel) rfl
      hwords
  have hindices : indices = [2, 4] := by
    refine hsorted.eq_of_mem_iff (by decide) fun i => ?_
    rw [hmem, ← mem_flagged, show flagged s rows = [2, 4] by decide +kernel]
  have hcount : items.length = 2 := by
    rw [← hitems.length_eq, hindices]
    rfl
  have htwo : skipped = 2 := by
    rw [hskipped]
    decide +kernel
  rw [hcount, htwo] at houtcome
  have hquiet : reports rows.length = [] :=
    List.length_eq_zero_iff.mp (hlength.trans (by decide))
  refine ⟨items, hindices ▸ hitems, ?_⟩
  rw [hbody, houtcome, hquiet]
  rfl

/-! ### Whole numbers -/

/-- The findings have one about row `i`. -/
def Lists (findings : Json) (i : Nat) : Prop :=
  ∃ items, findings.get? "items" = some (.arr items) ∧
    ∃ item ∈ items, item.get? "index" = some (.ofNat i)

/-- A whole amount is strictly beyond a whole threshold. -/
def Side.isBeyond : Side → Int → Int → Prop
  | .above, amount, threshold => threshold < amount
  | .below, amount, threshold => amount < threshold

theorem lists_result_iff {i : Nat} :
    Lists (result s rows) i ↔ ∃ row, rows[i]? = some row ∧ IsFlagged s row := by
  have hitems : (result s rows).get? "items" = some (.arr (found s rows)) := rfl
  constructor
  · rintro ⟨items, hget, item, hitem, hindex⟩
    cases hitems.symm.trans hget
    obtain ⟨⟨row, j⟩, hrow, hfinding⟩ := List.mem_filterMap.mp hitem
    obtain ⟨x, hx, -, rfl⟩ := finding?_eq_some_iff.mp hfinding
    have hj : some (Json.ofNat j) = some (.ofNat i) := hindex
    obtain rfl : j = i := by simpa [Json.ofNat] using hj
    exact ⟨row, List.mk_mem_zipIdx_iff_getElem?.mp hrow,
      isSome_finding?_iff.mp (Option.isSome_iff_exists.mpr ⟨_, hfinding⟩)⟩
  · rintro ⟨row, hrow, hflagged⟩
    obtain ⟨item, hfinding⟩ :=
      Option.isSome_iff_exists.mp (isSome_finding?_iff (i := i).mpr hflagged)
    refine ⟨_, hitems, item, List.mem_filterMap.mpr
      ⟨(row, i), List.mk_mem_zipIdx_iff_getElem?.mpr hrow, hfinding⟩, ?_⟩
    obtain ⟨x, -, -, rfl⟩ := finding?_eq_some_iff.mp hfinding
    rfl

/-- A whole amount is flagged if it is beyond the threshold and rounding has not made them equal. -/
theorem isFlagged_whole_iff {row : Json} {a t : Int} {x : Double}
    (ht : Binary.ofInt .double t = some s.threshold) (hx : Binary.ofInt .double a = some x)
    (hamount : row.get? s.field = some (.num (.whole a))) :
    IsFlagged s row ↔ s.side.isBeyond a t ∧ x.value ≠ s.threshold.value := by
  have hflagged : IsFlagged s row ↔
      match s.side with
      | .above => s.threshold.value < x.value
      | .below => x.value < s.threshold.value := by
    constructor
    · rintro ⟨n, y, hn, hy, hbeyond⟩
      cases hamount.symm.trans hn
      cases hx.symm.trans hy
      exact hbeyond
    · exact fun hbeyond => ⟨_, x, hamount, hx, hbeyond⟩
  rw [hflagged]
  cases s.side with
  | above =>
    simp only [Side.isBeyond]
    rw [← Binary.lt_iff_value_lt, Binary.lt_iff_of_ofInt Binary.Format.isProper_double ht hx,
      ne_comm]
  | below =>
    simp only [Side.isBeyond]
    rw [← Binary.lt_iff_value_lt, Binary.lt_iff_of_ofInt Binary.Format.isProper_double hx ht]

/-- Whole numbers that are their own nearest values are not made equal. -/
theorem value_ne_of_natAbs_le {a t : Int} {x y : Double} (hx : Binary.ofInt .double a = some x)
    (hy : Binary.ofInt .double t = some y) (ha : a.natAbs ≤ 2 ^ 53) (ht : t.natAbs ≤ 2 ^ 53)
    (hne : a ≠ t) : x.value ≠ y.value := by
  rw [Binary.value_eq_self_of_ofInt Binary.Format.isProper_double ha hx,
    Binary.value_eq_self_of_ofInt Binary.Format.isProper_double ht hy]
  exact_mod_cast hne

/-- Whole numbers of 64 bits that are far from each other are not made equal. -/
theorem value_ne_of_lt {a t : Int} {x y : Double} (hx : Binary.ofInt .double a = some x)
    (hy : Binary.ofInt .double t = some y) (ha : (Json.Number.whole a).IsWord)
    (ht : (Json.Number.whole t).IsWord) (hfar : 2048 < (a - t).natAbs) : x.value ≠ y.value := by
  have hword {i : Int} (h : (Json.Number.whole i).IsWord) :
      i.natAbs < 2 ^ (Binary.Format.double.digits + 11) := by
    obtain ⟨hleast, hmost⟩ := h
    have : 2 ^ (Binary.Format.double.digits + 11) = 2 ^ 64 := rfl
    omega
  have hoff := Binary.abs_value_sub_le_of_ofInt Binary.Format.isProper_double (hword ha) hx
  have hoff' := Binary.abs_value_sub_le_of_ofInt Binary.Format.isProper_double (hword ht) hy
  intro heq
  rw [heq, show (2 : ℚ) ^ 11 / 2 = 1024 by norm_num, abs_le] at hoff
  rw [show (2 : ℚ) ^ 11 / 2 = 1024 by norm_num, abs_le] at hoff'
  have hapart : (2048 : ℚ) < |(a : ℚ) - t| := by
    rw [← Int.cast_sub, ← Int.cast_abs, ← Nat.cast_natAbs]
    exact_mod_cast hfar
  have hnear : |(a : ℚ) - t| ≤ 2048 := abs_le.mpr ⟨by linarith, by linarith⟩
  exact absurd hapart (not_lt.mpr hnear)

/-- **When a whole amount is flagged.** An amount and a threshold of 64 bits are rounded to
fractional numbers before they are compared. The amount is flagged if it is strictly beyond the
threshold and the two have not become equal; so it is never flagged without being beyond, and is
flagged whenever it is beyond as long as neither is farther from zero than `2 ^ 53` or they are more
than 2048 apart. -/
theorem flags_whole_amount_iff {κ : Type} (scope : Scope) (inputs config : Fields)
    (field name : String) (side : Side) (a t : Int) (records : Json) (rows : List Json) (i : Nat)
    (row : Json)
    (hfield : config.get? "field" = some (.str field))
    (hthreshold : config.get? "threshold" = some (.num (.whole t)))
    (hmode : config.get? "mode" = some (.str name)) (hside : (name, side) ∈ Side.byName)
    (hrecords : inputs.get? "records" = some records)
    (hrows : records.get? "rows" = some (.arr rows)) (hrow : rows[i]? = some row)
    (hamount : row.get? field = some (.num (.whole a))) (ha : (Json.Number.whole a).IsWord)
    (ht : (Json.Number.whole t).IsWord) :
    ∃ (findings : Json) (x y : Double),
      (∀ world : World κ Report, ∃ after, (body scope inputs config).run world =
        .ok (after, .ok (output "findings" findings))) ∧
      Binary.ofInt .double a = some x ∧ Binary.ofInt .double t = some y ∧
      (Lists findings i ↔ side.isBeyond a t ∧ x.value ≠ y.value) ∧
      (a.natAbs ≤ 2 ^ 53 → t.natAbs ≤ 2 ^ 53 → (Lists findings i ↔ side.isBeyond a t)) ∧
      (2048 < (a - t).natAbs → (Lists findings i ↔ side.isBeyond a t)) := by
  obtain ⟨x, hx⟩ := ha.exists_toDouble?
  obtain ⟨y, hy⟩ := ht.exists_toDouble?
  have hasked : Asks config ⟨field, y, side⟩ :=
    ⟨hfield, ⟨_, hthreshold, hy⟩, ⟨name, hmode, hside⟩⟩
  have hlists : Lists (result ⟨field, y, side⟩ rows) i ↔ side.isBeyond a t ∧ x.value ≠ y.value := by
    rw [lists_result_iff, ← isFlagged_whole_iff (s := ⟨field, y, side⟩) hy hx hamount]
    constructor
    · rintro ⟨row', hrow', hflagged⟩
      cases hrow.symm.trans hrow'
      exact hflagged
    · exact fun hflagged => ⟨row, hrow, hflagged⟩
  have hne (hbeyond : side.isBeyond a t) : a ≠ t := by
    rintro rfl
    cases side <;> exact lt_irrefl _ hbeyond
  refine ⟨_, x, y, exists_run_body scope hasked (rows?_eq_some hrecords hrows), hx, hy, hlists,
    fun ha ht => ?_, fun hfar => ?_⟩
  · rw [hlists, and_iff_left_of_imp]
    exact fun hbeyond => value_ne_of_natAbs_le hx hy ha ht (hne hbeyond)
  · rw [hlists, and_iff_left (value_ne_of_lt hx hy ha ht hfar)]

/-- Amounts beyond the range of signed 64 bits, as near to each other as they can be to be told
apart with certainty. -/
theorem flags_amount_2049_above :
    let config : Fields := .ofList [("field", .str "paid"),
      ("threshold", .num (.whole 9223372036854775808)), ("mode", .str "above")]
    let row : Json := .obj [("paid", .num (.whole 9223372036854777857))]
    let inputs : Fields := .ofList [("records", .obj [("rows", .arr [.null, row])])]
    ∃ findings, (∀ world : World Unit Report, ∃ after, (body default inputs config).run world =
        .ok (after, .ok (output "findings" findings))) ∧ Lists findings 1 := by
  intro config row inputs
  obtain ⟨findings, x, y, hrun, -, -, -, -, hfar⟩ := flags_whole_amount_iff (κ := Unit) default
    inputs config "paid" "above" .above 9223372036854777857 9223372036854775808
    (.obj [("rows", .arr [.null, row])]) [.null, row] 1 row (by decide +kernel) (by decide +kernel)
    (by decide +kernel) (by decide) (by decide +kernel) rfl rfl rfl ⟨by decide, by decide⟩
    ⟨by decide, by decide⟩
  refine ⟨findings, hrun, (hfar (by decide)).mpr ?_⟩
  simp only [Side.isBeyond]
  decide

/-- **One above the threshold, and not flagged**: the amount is the next whole number after a
threshold of `2 ^ 53`, and is rounded to the threshold. -/
theorem next_whole_amount_not_flagged :
    let config : Fields := .ofList [("field", .str "amount"),
      ("threshold", .num (.whole 9007199254740992)), ("mode", .str "above")]
    let inputs : Fields := .ofList [("records", .obj [("rows",
      .arr [.obj [("amount", .num (.whole 9007199254740993))]]), ("type", .str "records")])]
    ∃ findings, (∀ world : World Unit Report, ∃ after, (body default inputs config).run world =
        .ok (after, .ok (output "findings" findings))) ∧
      ¬ (Lists findings 0 ↔ (9007199254740992 : Int) < 9007199254740993) := by
  intro config inputs
  let s : Settings := ⟨"amount", ⟨false, 2 ^ 52, 1, by decide⟩, .above⟩
  have hasked : Asks config s := by
    refine ⟨by decide +kernel, ⟨.whole 9007199254740992, by decide +kernel, by decide +kernel⟩,
      ⟨"above", by decide +kernel, by decide⟩⟩
  have hrows : rows? inputs = some [.obj [("amount", .num (.whole 9007199254740993))]] := by
    decide +kernel
  refine ⟨_, exists_run_body default hasked hrows, fun hiff => ?_⟩
  obtain ⟨row, hrow, hflagged⟩ := lists_result_iff.mp (hiff.mpr (by decide))
  cases hrow
  have hnone :
      (finding? s 0 (.obj [("amount", .num (.whole 9007199254740993))])).isSome = false := by
    decide +kernel
  exact Bool.false_ne_true (hnone.symm.trans (isSome_finding?_iff.mpr hflagged))

end Nodes.Threshold

end PortGraph
