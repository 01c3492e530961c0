/-!
# Column types

A column type is a canonical name and the numbers in parentheses behind it, such as a length, or a
precision and a scale.

* `ColumnType.length`, `ColumnType.scale`: what the numbers mean;
* `ColumnType.display`: the type as SQL writes it;
* `ColumnType.canonicalName`: the one name of types that have several.
-/

namespace MigrationSafety

/-- A column type. -/
structure ColumnType where
  name : String
  modifiers : List Nat
  deriving DecidableEq, Repr

namespace ColumnType

/-- The length or precision; `none` if it is not limited. -/
def length (t : ColumnType) : Option Nat :=
  t.modifiers.head?

/-- The scale of a decimal; one that is left out is zero. -/
def scale (t : ColumnType) : Nat :=
  (t.modifiers.drop 1).headD 0

/-- The type as SQL writes it. -/
def display (t : ColumnType) : String :=
  if t.modifiers.isEmpty then t.name
  else t.name ++ "(" ++ ",".intercalate (t.modifiers.map toString) ++ ")"

/-- Names that stand for another, canonical name. -/
def synonyms : List (String × String) :=
  [("character varying", "varchar"), ("char varying", "varchar"), ("character", "char"),
    ("bpchar", "char"), ("numeric", "decimal"), ("dec", "decimal"), ("int", "integer"),
    ("int4", "integer"), ("int8", "bigint"), ("int2", "smallint"),
    ("float8", "double precision"), ("double", "double precision"), ("float4", "real"),
    ("bool", "boolean"), ("timestamp without time zone", "timestamp"),
    ("timestamp with time zone", "timestamptz"), ("time without time zone", "time"),
    ("time with time zone", "timetz"), ("datetime", "datetime")]

/-- The canonical name of a type. -/
def canonicalName (name : String) : String :=
  (synonyms.lookup name).getD name

/-- Whether the type is plain `json`, not `jsonb`. -/
def isJson (t : ColumnType) : Bool :=
  t.name == "json"

end ColumnType

end MigrationSafety
