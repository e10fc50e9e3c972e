import PortGraph.Document

/-!
# Port types

The types that flow between ports: the kinds of JSON, the tagged kinds of audit data, and the
wildcard. A port declares one type or a list of them.

Two questions are asked of port types, and they are asked apart. Before a run, whether an output
may feed an input (`PortType.acceptsPort`); during it, whether a value is of a type
(`PortType.matchesValue`).

## Main definitions

* `DataType`, `PortType`
* `PortType.accepts`, `PortType.acceptsPort`: compatibility of declared types
* `DataType.matchesValue`, `PortType.matchesValue`: membership of values
-/

namespace PortGraph

/-- A type that can flow through a port. -/
inductive DataType where
  | any
  | string | number | boolean | object | array
  | records | ledger | vouchers | invoices | bankFlow | contracts | riskSet | dataBlock
deriving DecidableEq, Inhabited

namespace DataType

/-- The name of a type. A value of an audit data type carries it under `type`. -/
def name : DataType → String
  | .any => "any"
  | .string => "string"
  | .number => "number"
  | .boolean => "boolean"
  | .object => "object"
  | .array => "array"
  | .records => "records"
  | .ledger => "ledger"
  | .vouchers => "vouchers"
  | .invoices => "invoices"
  | .bankFlow => "bank_flow"
  | .contracts => "contracts"
  | .riskSet => "risk_set"
  | .dataBlock => "data_block"

/-- All types. -/
def all : List DataType :=
  [.any, .string, .number, .boolean, .object, .array, .records, .ledger, .vouchers, .invoices,
    .bankFlow, .contracts, .riskSet, .dataBlock]

/-- Whether a value is an object tagged with the name of the type. -/
def isTagged (t : DataType) (v : Json) : Bool :=
  match v.get? "type" with
  | some (.str tag) => tag = t.name
  | _ => false

/-- Whether a value is of the type. -/
def matchesValue : DataType → Json → Bool
  | .any, _ => true
  | .string, v => match v with | .str _ => true | _ => false
  | .number, v => match v with | .num _ => true | _ => false
  | .boolean, v => match v with | .bool _ => true | _ => false
  | .object, v => match v with | .obj _ => true | _ => false
  | .array, v => match v with | .arr _ => true | _ => false
  | t, v => t.isTagged v

/-- Read a type by its name. -/
def ofDocument? (w : Written) : Option DataType := w.choice? (all.map fun t => (t.name, t))

/-- A type as its name. -/
def toJson (t : DataType) : Json := .str t.name

end DataType

/-- The declared type of a port: one type, or any of several. -/
inductive PortType where
  | single (type : DataType)
  | oneOf (types : List DataType)
deriving DecidableEq, Inhabited

namespace PortType

/-- The types that are declared. -/
def members : PortType → List DataType
  | .single t => [t]
  | .oneOf ts => ts

/-- Whether the wildcard is among the declared types. -/
def isAny (p : PortType) : Bool := p.members.contains .any

/-- Whether a single type may feed the port. -/
def accepts (p : PortType) (source : DataType) : Bool :=
  source = .any || p.isAny || p.members.contains source

/-- Whether an output of type `source` may feed the port. With a wildcard on either side it may;
otherwise each of the types it declares, and there must be one, must be accepted. -/
def acceptsPort (p source : PortType) : Bool :=
  if source.isAny || p.isAny then true
  else !source.members.isEmpty && source.members.all p.accepts

/-- Whether a value is of one of the declared types. -/
def matchesValue (p : PortType) (v : Json) : Bool := p.members.any (·.matchesValue v)

/-- The type as it is shown: a name, or names between brackets. -/
def display : PortType → String
  | .single t => t.name
  | .oneOf ts => "[" ++ String.intercalate "|" (ts.map DataType.name) ++ "]"

/-- Read one type name or a list of them. -/
def ofDocument? (w : Written) : Option PortType :=
  match DataType.ofDocument? w with
  | some t => some (.single t)
  | none => (w.list? DataType.ofDocument?).map .oneOf

/-- A type name or a list of them. -/
def toJson : PortType → Json
  | .single t => t.toJson
  | .oneOf ts => .arr (ts.map DataType.toJson)

end PortType

end PortGraph
