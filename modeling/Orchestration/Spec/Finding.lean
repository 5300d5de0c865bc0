import Orchestration.Expression.Basic
import Orchestration.Spec.Property

/-!
What an inspection finds, and where.
-/

namespace Orchestration

/-- Where something stands, in a specification and in its schema. -/
structure Place where
  spec : String
  schema : String

namespace Place

def joined (start name : String) : String := Text.trimChars "." (start ++ "." ++ name)

def property (parent : Option Place) (name : String) : Place :=
  match parent with
  | some p => ⟨joined p.spec name, joined p.schema ("properties." ++ name)⟩
  | none => ⟨name, "properties." ++ name⟩

def item (p : Place) (i : Nat) : Place := ⟨p.spec ++ "[" ++ toString i ++ "]", p.schema ++ ".items"⟩

def entry (p : Place) (name : String) : Place :=
  ⟨p.spec ++ "." ++ name, p.schema ++ ".patternProperties." ++ Schema.wordPatternText⟩

def transition (p : Place) (i : Nat) : Place :=
  ⟨p.spec ++ ".next[" ++ toString i ++ "]", p.schema ++ ".properties.next.items"⟩

def top : Place := ⟨".", "."⟩

end Place

/-- Something that is wrong, and where. Some findings are about an expression. -/
structure Finding where
  expression : Option (Option Language × String)
  message : String
  specPath : Value
  schemaPath : Value

namespace Finding

def plain (place : Place) (message : String) : Finding :=
  ⟨none, message, .str place.spec, .str place.schema⟩

def ofComplaint (place : Place) (c : Expression.Complaint) : Finding :=
  ⟨some (c.language, c.expression), c.message, .str place.spec, .str place.schema⟩

def ofUse (place : Place) (use : Expression.Use) (message : String) : Finding :=
  ⟨some (some use.language, use.statement), message, .str place.spec, .str place.schema⟩

def toValue (f : Finding) : Value :=
  let about := match f.expression with
    | some (language, text) =>
      [("type", (language.map fun l => Value.str l.name).getD .null), ("expression", .str text)]
    | none => []
  .fields (about ++ [("message", .str f.message), ("spec_path", f.specPath), ("schema_path", f.schemaPath)])

def pathText (v : Value) : String := v.asStr?.getD ""

def sortBySpec (findings : List Finding) : List Finding :=
  findings.mergeSort fun a b => Value.compareText (pathText a.specPath) (pathText b.specPath) != .gt

def sort (findings : List Finding) : List Finding :=
  findings.mergeSort fun a b =>
    ((Value.compareText (pathText a.schemaPath) (pathText b.schemaPath)).then
      (Value.compareText (pathText a.specPath) (pathText b.specPath))) != .gt

end Finding

/-- What is known where an inspection starts: the place, and the variables assigned so far. -/
structure Parent where
  place : Place
  names : List Value

namespace Parent

def pathOf (parent : Value) (key missing : String) : Except Error String :=
  match parent.field key with
  | .str s => if s.isEmpty then .error (.refused .value missing) else .ok s
  | v =>
    if v.truthy then
      .error (.broken .type ("unsupported operand type(s) for +: '" ++ v.typeName ++ "' and 'str'"))
    else .error (.refused .value missing)

def distinct (names : List Value) : List Value :=
  names.foldl (fun found v => if found.any (· == v) then found else found ++ [v]) []

/-- Reads what is given as the start of an inspection; it may be nothing. -/
def read (parent : Value) : Except Error (Option Parent) := do
  if !parent.truthy then .ok none
  else
    match parent with
    | .map _ =>
      let spec ← pathOf parent "spec_path" "Parent context is missing spec path."
      let schema ← pathOf parent "schema_path" "Parent context is missing schema path."
      let names ← match parent.field? "ctx" with
        | some v => Schema.itemsOf v
        | none => .ok []
      .ok (some ⟨⟨spec, schema⟩, distinct names⟩)
    | _ => .error (Value.noAttribute parent "get")

end Parent

end Orchestration
