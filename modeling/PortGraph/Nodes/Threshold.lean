import PortGraph.Nodes.Values
import PortGraph.Text.Lowercase

/-!
# Amounts beyond a threshold

Flags the rows of a `records` value whose amount lies beyond a threshold. The scan reports its
progress, and lets others go first, before every further chunk of 500 rows.

## Main definitions

* `Threshold.Settings`: field, threshold and side
* `Threshold.finding?`, `Threshold.isSkipped`: what becomes of a row
* `Threshold.scan`: the scan of the rows
* `Threshold.manifest`, `Threshold.body`
-/

namespace PortGraph.Nodes.Threshold

/-- The type of the node. -/
def manifest : Manifest where
  type := "amount-threshold"
  version := "1.0.0"
  category := .audit
  label := "Amount Threshold"
  description := "Flags records whose amount crosses a threshold"
  inputs := [{ name := "records", type := .single .records, required := true }]
  outputs := [{ name := "findings", type := .single .riskSet }]
  configSchema := [{ name := "field", kind := .string, default := some (.str "amount") },
    { name := "threshold", kind := .number, required := true },
    { name := "mode", kind := .select, options := [.str "above", .str "below"],
      default := some (.str "above") }]
  capabilities := { cacheable := true, parallel := true }

/-! ### Settings -/

/-- Which side of the threshold is flagged. -/
inductive Side where
  | above
  | below
deriving DecidableEq, Inhabited

/-- The sides by name. -/
def Side.byName : List (String × Side) := [("above", .above), ("below", .below)]

/-- The name of a side in a rule. -/
def Side.title : Side → String
  | .above => "Above"
  | .below => "Below"

/-- Whether an amount lies strictly beyond the threshold. -/
def Side.flags (side : Side) (amount threshold : Double) : Bool :=
  match side with
  | .above => threshold.lt amount
  | .below => amount.lt threshold

/-- What to look for. -/
structure Settings where
  field : String
  threshold : Double
  side : Side
deriving DecidableEq

/-- What to look for, as far as it has been read. -/
structure Draft where
  field : String := "amount"
  threshold? : Option Double := none
  side : Side := .above

/-- How the fields are read. -/
def readers : List (Settings.Reader Draft) :=
  [("field", fun v d => v.asText.map fun t => { d with field := t }),
    ("threshold", fun v d => v.asNumber.map fun x => { d with threshold? := some x }),
    ("mode", fun v d => (v.asChoice Side.byName).map fun s => { d with side := s })]

/-- Read a configuration. -/
def settings (config : Fields) : Except String Settings :=
  match PortGraph.Settings.read readers {} config with
  | .error e => .error e
  | .ok d =>
    match d.threshold? with
    | some x => .ok ⟨d.field, x, d.side⟩
    | none => .error (PortGraph.Settings.missing "threshold")

/-! ### Rows -/

/-- The amount of a row, if it has one. -/
def amount? (s : Settings) (row : Json) : Option Double := (row.get? s.field).bind (·.toDouble?)

/-- Whether a row has no amount. -/
def isSkipped (s : Settings) (row : Json) : Bool := (amount? s row).isNone

/-- The finding about a row with an amount beyond the threshold. -/
def finding? (s : Settings) (index : Nat) (row : Json) : Option Json :=
  match amount? s row with
  | some amount =>
    if s.side.flags amount s.threshold then
      some (.obj [("amount", .ofDouble amount), ("index", .ofNat index), ("row", row)])
    else none
  | none => none

/-- How many rows are scanned between two reports. -/
def chunk : Nat := 500

/-- The share of `total` rows that `index` rows are, in percent. -/
def percent (index total : Nat) : Progress :=
  let share := do
    let part ← (← Binary.ofNat .single index).mul Single.hundred
    part.div (← Binary.ofNat .single total)
  .ofNearest false share

/-- The progress after `index` of `total` rows. -/
def report (index total : Nat) : Report where
  percent := percent index total
  message := some (toString index ++ " of " ++ toString total ++ " rows")

/-- What a scan has found: the findings, last first, and the number of rows skipped. -/
structure Tally where
  items : List Json := []
  skipped : Nat := 0

/-- A tally with one more row. -/
def Tally.add (s : Settings) (t : Tally) (index : Nat) (row : Json) : Tally where
  items := (finding? s index row).toList ++ t.items
  skipped := t.skipped + if isSkipped s row then 1 else 0

/-- Scan the rows from number `index` on. -/
def scanFrom {κ : Type} (s : Settings) (total index : Nat) (t : Tally) :
    List Json → Work κ Report Tally
  | [] => .done t
  | row :: rest =>
    if 0 < index ∧ index % chunk = 0 then
      .tell (report index total) (.yield (scanFrom s total (index + 1) (t.add s index row) rest))
    else scanFrom s total (index + 1) (t.add s index row) rest

/-- Scan all rows. -/
def scan {κ : Type} (s : Settings) (rows : List Json) : Work κ Report Tally :=
  scanFrom s rows.length 0 {} rows

/-! ### The node -/

/-- The rule in words. -/
def rule (s : Settings) : String :=
  Text.lowercase (s.field ++ " " ++ s.side.title ++ " " ++ s.threshold.message)

/-- The findings as a value. -/
def findings (s : Settings) (t : Tally) : Json :=
  .obj [("count", .ofNat t.items.length), ("items", .arr t.items.reverse),
    ("rule", .str (rule s)), ("skipped", .ofNat t.skipped), ("type", .str DataType.riskSet.name)]

/-- The rows of the records. -/
def rows? (inputs : Fields) : Option (List Json) :=
  (inputs.get? "records").bind fun records => (records.get? "rows").bind (·.toItems?)

/-- The body. -/
def body {κ : Type} : Body κ := fun _ inputs config =>
  match settings config with
  | .error e => .done (.error (PortGraph.Settings.invalid e))
  | .ok s =>
    match rows? inputs with
    | none => .done (.error (.failed "records value has no 'rows' array" none))
    | some rows => (scan s rows).bind fun t => .done (.ok (output "findings" (findings s t)))

end PortGraph.Nodes.Threshold
