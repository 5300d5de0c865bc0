import Orchestration.Expression.Itemization
import Orchestration.Status
import Orchestration.Value.Entries

/-!
The types that schemas are made of.
-/

namespace Orchestration.Schema

open Text (Pattern)

def ofType (type : String) : Value := .fields [("type", .str type)]

def nonemptyString : Value := .fields [("type", "string"), ("minLength", .int 1)]

def uniqueListOf (items : Value) : Value :=
  .fields [("type", "array"), ("items", items), ("uniqueItems", .bool true), ("minItems", .int 1)]

def uniqueStringList : Value := uniqueListOf nonemptyString

def positiveInteger : Value := .fields [("type", "integer"), ("minimum", .int 0)]

def positiveNumber : Value := .fields [("type", "number"), ("minimum", .float 0.0)]

def anyOf (choices : List Value) : Value := .fields [("anyOf", .list choices)]

def oneOf (choices : List Value) : Value := .fields [("oneOf", .list choices)]

def version : Value := anyOf [nonemptyString, positiveInteger, positiveNumber]

def anyTypes : List Value :=
  ["array", "boolean", "integer", "number", "object", "string"].map ofType

def anything : Value := anyOf anyTypes

def anythingOrNull : Value := anyOf (ofType "null" :: anyTypes)

/-- The names that a key may have. -/
def wordPatternText : String := "^\\w+$"

def wordPattern : Pattern := .all [.atStart, .oneOrMore .wordChar, .atEnd]

def nonemptyMap : Value :=
  .fields [("type", "object"), ("minProperties", .int 1),
    ("patternProperties", .fields [(wordPatternText, anythingOrNull)])]

def oneKeyMap : Value :=
  .fields [("type", "object"), ("minProperties", .int 1), ("maxProperties", .int 1),
    ("patternProperties", .fields [(wordPatternText, anythingOrNull)])]

def stringOrPositiveInteger : Value := oneOf [nonemptyString, positiveInteger]

def stringOrPositiveNumber : Value := oneOf [nonemptyString, positiveNumber]

def stringOrBoolean : Value := oneOf [nonemptyString, ofType "boolean"]

def stringOrOneKeyMap : Value := oneOf [nonemptyString, oneKeyMap]

def uniqueStringOrOneKeyMapList : Value := uniqueListOf stringOrOneKeyMap

def uniqueOneKeyMapList : Value := uniqueListOf oneKeyMap

def statuses : Value :=
  .fields [("type", "string"), ("enum", .list (Status.all.map fun s => .str s.text))]

/-- The types that go by a name of their own. -/
def named : List (String × Value) :=
  [("NONEMPTY_STRING", nonemptyString),
   ("UNIQUE_STRING_LIST", uniqueStringList),
   ("POSITIVE_INTEGER", positiveInteger),
   ("POSITIVE_NUMBER", positiveNumber),
   ("VERSION", version),
   ("ANY", anything),
   ("ANY_NULLABLE", anythingOrNull),
   ("NONEMPTY_DICT", nonemptyMap),
   ("ONE_KEY_DICT", oneKeyMap),
   ("STRING_OR_POSITIVE_INTEGER", stringOrPositiveInteger),
   ("STRING_OR_POSITIVE_NUMBER", stringOrPositiveNumber),
   ("STRING_OR_BOOLEAN", stringOrBoolean),
   ("STRING_OR_ONE_KEY_DICT", stringOrOneKeyMap),
   ("UNIQUE_STRING_OR_ONE_KEY_DICT_LIST", uniqueStringOrOneKeyMapList),
   ("UNIQUE_ONE_KEY_DICT_LIST", uniqueOneKeyMapList),
   ("WORKFLOW_STATUSES", statuses)]

/-- The patterns that occur in schemas, by the text in which they are written there. -/
def patternOf (text : String) : Pattern :=
  if text == wordPatternText then wordPattern
  else if text == Itemization.patternText then Itemization.pattern
  else .literal text

end Orchestration.Schema
