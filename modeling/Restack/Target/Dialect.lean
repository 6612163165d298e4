import Restack.Text.Split
import Restack.Value.Access

/-!
# Types and values in generated code

What the types of properties and of state variables are called in each target, and how their values
are written there.
-/

namespace Restack.Target

/-- How types and values are written in a target. -/
structure Dialect where
  /-- The names of the types that are known. -/
  types : List (String × String)
  /-- The name of any other type. -/
  anyType : String
  /-- The sign that begins and ends a text. -/
  quote : Char
  emptyList : String
  emptyObject : String
  absent : String
  /-- What stands for a property of a known type in a test. -/
  samples : List (String × String)
  /-- What stands for a property of any other type in a test. -/
  anySample : String

namespace Dialect

/-- What a table of types says of a type. A type that is no name is like one that is not known. -/
def inTable (table : List (String × String)) (other : String) (type : Value) :
    Except Fault String :=
  type.asKey.map fun key => (key.bind fun name => table.lookup name).getD other

/-- The name of a type in the target. -/
def typeName (dialect : Dialect) (type : Value) : Except Fault String :=
  inTable dialect.types dialect.anyType type

/-- What stands for a property of a type in a test. -/
def sample (dialect : Dialect) (type : Value) : Except Fault String :=
  inTable dialect.samples dialect.anySample type

/-- The name of the type of texts. -/
def textType (dialect : Dialect) : String :=
  (dialect.types.lookup "string").getD dialect.anyType

/-- A text between quotes, with a backslash in front of each quote in it. -/
def writeText (dialect : Dialect) (s : List Char) : List Char :=
  let mark := dialect.quote
  mark :: (s.flatMap (fun c => if c == mark then ['\\', c] else [c]) ++ [mark])

/-- A value of a type. A text is put between quotes only where its type is that of texts. -/
def writeValue (dialect : Dialect) (value : Value) (type : String) : String :=
  match value with
  | .str s => if type == dialect.textType then String.ofList (dialect.writeText s.toList) else s
  | .list _ => dialect.emptyList
  | .object _ => dialect.emptyObject
  | .null => dialect.absent
  | .bool b => if b then "true" else "false"
  | value => value.display

end Dialect

/-- Types and values of Dart. -/
def dart : Dialect :=
  { types :=
      [("string", "String"), ("number", "int"), ("boolean", "bool"), ("array", "List<dynamic>"),
        ("object", "Map<String, dynamic>")]
    anyType := "dynamic"
    quote := '\x27'
    emptyList := "[]"
    emptyObject := "\x7b\x7d"
    absent := "null"
    samples :=
      [("string", "''"), ("number", "0"), ("boolean", "false"), ("array", "[]"),
        ("object", "\x7b\x7d")]
    anySample := "null" }

/-- Types and values of Kotlin. -/
def kotlin : Dialect :=
  { types :=
      [("string", "String"), ("number", "Int"), ("boolean", "Boolean"), ("array", "List<Any>"),
        ("object", "Map<String, Any>")]
    anyType := "Any"
    quote := '"'
    emptyList := "listOf()"
    emptyObject := "mapOf()"
    absent := "null"
    samples :=
      [("string", "\"\""), ("number", "0"), ("boolean", "false"), ("array", "listOf()"),
        ("object", "mapOf()")]
    anySample := "Unit" }

/-- Types and values of TypeScript. -/
def typeScript : Dialect :=
  { types :=
      [("string", "string"), ("number", "number"), ("boolean", "boolean"), ("array", "any[]"),
        ("object", "Record<string, any>")]
    anyType := "any"
    quote := '\x27'
    emptyList := "[]"
    emptyObject := "\x7b\x7d"
    absent := "undefined"
    samples := []
    anySample := "" }

end Restack.Target
