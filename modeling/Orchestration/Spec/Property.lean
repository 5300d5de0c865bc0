import Orchestration.Spec.Basic

/-!
The properties of a specification, and specifications as plain data.

A property is looked for among what was spelled out, among the parts, and then in what is written,
where the schema may have a default. A name with underscores also finds a property that is written
with hyphens.
-/

namespace Orchestration

/-- What a property is: plain data, a specification, or something that can be asked. -/
inductive Property where
  | value (v : Value)
  | spec (s : Spec)
  | method

namespace Property

def truthy : Property → Bool
  | .value v => v.truthy
  | .spec s =>
    match s.kind.shape with
    | .plain => true
    | .mapping => s.raw.truthy
    | .sequence => !s.items.isEmpty
  | .method => true

/-- The data of a property; a part is given as it is written. -/
def raw : Property → Value
  | .value v => v
  | .spec s => s.raw
  | .method => .object "method"

end Property

namespace Spec

def noProperty (s : Spec) (name : String) : Error :=
  .broken .noAttribute ("'" ++ s.kind.name ++ "' object has no attribute '" ++ name ++ "'")

/-- What a property is when it is not written. -/
def defaultOf (schema : Value) (name : String) : Value :=
  match (schema.field "properties").field name with
  | .named title =>
    match Kind.ofTitle? title with
    | some kind => kind.written.field "default"
    | none => .null
  | v => v.field "default"

def schemaProperty? (s : Spec) (schema : Value) (name : String) : Except Error (Option Value) := do
  let hyphened := Text.replace name "_" "-"
  let find (written : String) : Except Error (Option Value) := do
    .ok (some ((← s.rawField? written).getD (defaultOf schema name)))
  if (schema.field "properties").hasField name then find name
  else if (schema.field "properties").hasField hyphened then find hyphened
  else .ok none

def patternsOf (schema : Value) : List String :=
  match schema.field "patternProperties" with
  | .map entries => entries.map (·.1.text)
  | _ => []

def writtenProperty (s : Spec) (name : String) : Except Error Value := do
  match ← s.schemaProperty? s.kind.header name with
  | some v => .ok v
  | none =>
    match ← s.schemaProperty? s.kind.written name with
    | some v => .ok v
    | none =>
      if (patternsOf s.kind.written).any fun p => (Schema.patternOf p).matchesStart name then do
        .ok ((← s.rawField? name).getD .null)
      else .error (s.noProperty name)

def property (s : Spec) (name : String) : Except Error Property :=
  match s.part? name with
  | some part => .ok (.spec part)
  | none =>
    match s.given.find? (·.1 == name) with
    | some (_, v) => .ok (.value v)
    | none =>
      match name, s.name with
      | "spec", _ => .ok (.value s.raw)
      | "member", _ => .ok (.value s.member)
      | "name", some v => .ok (.value v)
      | _, _ =>
        if s.kind.methods.contains name then .ok .method
        else do .ok (.value (← s.writtenProperty name))

def value (s : Spec) (name : String) : Except Error Value := do .ok (← s.property name).raw

def valueOrNull (s : Spec) (name : String) : Value := (s.value name).toOption.getD .null

def serialize (s : Spec) : Value :=
  let name := match s.property "name" with
    | .ok p => if p.truthy then [("name", p.raw)] else []
    | .error _ => []
  let member := if s.member.truthy then [("member", s.member)] else []
  .fields ([("catalog", .str s.kind.catalog.name), ("version", .str Kind.version), ("spec", s.raw)] ++ name ++
    member)

def deserialize (kind : Kind) (data : Value) : Except Error Spec := do
  match data with
  | .map entries =>
    if !(data.field "catalog" == .str kind.catalog.name) then
      throw (.refused .value ("Serialized spec catalog does not match \"" ++ kind.catalog.name ++ "\"."))
    if !(data.field "version" == .str Kind.version) then
      throw (.refused .value ("Serialized spec version does not match \"" ++ Kind.version ++ "\"."))
    match Entries.getStr? entries "spec" with
    | some given => build kind given (data.field "name") ((data.field? "member").getD (.bool false))
    | none => throw (.broken .key "'spec'")
  | _ => throw (Value.noAttribute data "get")

def copy (s : Spec) : Except Error Spec :=
  match s.kind.shape with
  | .mapping =>
    let name := if s.raw.hasField "name" then .null else s.valueOrNull "name"
    build s.kind s.raw name s.member
  | _ => deserialize s.kind s.serialize

/-! ### Mappings of specifications -/

/-- The names of the parts of a mapping, in the order in which they are written. -/
def keys (s : Spec) : Except Error (List Value) :=
  match s.raw with
  | .map entries => .ok (Entries.keys entries)
  | _ => .error (Value.noAttribute s.raw "keys")

def keyed (s : Spec) : Except Error (List (String × Property)) := do
  (← s.keys).mapM fun key =>
    match key with
    | .str name => do .ok (name, ← s.property name)
    | _ => .error (.broken .type "attribute name must be string")

end Spec

/-! ### Catalogs of specifications -/

namespace Catalog

def ofName? : String → Option Catalog
  | "native" => some .native
  | "mock" => some .mock
  | _ => none

/-- Names beside those of the catalogs that are taken. -/
def otherNames : List String :=
  ["base", "loader", "types", "mock.models", "native.v1", "native.v1.base", "native.v1.models"]

def fullName (name : Value) : Except Error String :=
  match name with
  | .str s =>
    if (ofName? s).isSome || otherNames.contains s then .ok ("orquesta.specs." ++ s)
    else .error (.broken .missingModule ("No module named 'orquesta.specs." ++ s ++ "'"))
  | _ =>
    .error (.broken .type ("can only concatenate str (not \"" ++ name.typeName ++ "\") to str"))

def find (name : Value) : Except Error Catalog := do
  let full ← fullName name
  match ofName? name.text with
  | some catalog => .ok catalog
  | none => .error (.broken .noAttribute ("module '" ++ full ++ "' has no attribute 'VERSION'"))

def workflowKind : Catalog → Kind
  | .mock => .mockWorkflow
  | _ => .workflow

/-- Makes a workflow from a definition. In the catalog of mocks the definition has one entry, which
names the workflow. -/
def instantiate (catalog : Catalog) (definition : Value) : Except Error Spec :=
  match catalog with
  | .mock =>
    match definition with
    | .map [] => .error (.broken .index "list index out of range")
    | .map [(name, given)] => Spec.build .mockWorkflow given name (.bool false)
    | .map _ => .error (.refused .value "Workflow definition contains more than one workflow.")
    | _ => .error (Value.noAttribute definition "keys")
  | _ => Spec.make .workflow definition

def deserialize (catalog : Catalog) (data : Value) : Except Error Spec :=
  Spec.deserialize catalog.workflowKind data

def load (catalogName definition : Value) : Except Error Spec := do
  if !definition.truthy then throw (.refused .value "Workflow definition is empty.")
  let definition ← match definition with
    | .str _ => Document.load definition
    | _ => .ok definition
  match definition with
  | .map entries =>
    let catalog ← find catalogName
    let version := (Entries.getStr? entries "version").getD .null
    if !version.truthy then
      throw (.refused .value "Version of the workflow definition is not provided.")
    if version.text != Kind.version then throw (.unsupportedVersion Kind.version)
    let rest := Entries.eraseStr entries "version"
    if rest.isEmpty then throw (.refused .value "Workflow definition contains no workflow.")
    catalog.instantiate (.map rest)
  | _ => throw (.refused .value "Unable to convert workflow definition into dict.")

def restore (data : Value) : Except Error Spec :=
  match data with
  | .map _ => do (← find (data.field "catalog")).deserialize data
  | _ => .error (Value.noAttribute data "get")

end Catalog

end Orchestration
