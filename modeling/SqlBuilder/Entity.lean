import SqlBuilder.Operator

/-!
# Entities

An entity describes one table: its name and its fields in declaration order.
-/

namespace SqlBuilder

/-- One field of an entity. -/
structure FieldDef where
  name : String
  type : FieldType
  nullable : Bool
  deriving DecidableEq, Repr

/-- A table as queries see it. -/
structure Entity where
  table : String
  fields : List FieldDef
  deriving DecidableEq, Repr

namespace Entity

/-- The field of a given name. -/
def field? (e : Entity) (name : String) : Option FieldDef :=
  e.fields.find? fun f => f.name == name

/-- A field's name after that of its table. -/
def qualified (e : Entity) (field : String) : String := e.table ++ "." ++ field

end Entity

end SqlBuilder
