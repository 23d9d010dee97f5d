import SqlBuilder.Entity

/-!
# Types of expressions

An expression stands for a value of a storage type, for a row of an entity, or for either of these
with the possibility of its absence.

* `Ty` : the types;
* `Ty.isValue`, `Ty.isNumeric` : the classes of types that operations ask for;
* `Ty.orAbsent` : the type with absence, which is not added twice.
-/

namespace SqlBuilder

/-- The type of an expression. -/
inductive Ty where
  | scalar (f : FieldType)
  | row (e : Entity)
  | option (t : Ty)
  deriving DecidableEq, Repr

namespace Ty

/-- The type of truth values. -/
def bool : Ty := .scalar .bool

/-- The storage type under any number of absences; a row has none. -/
def storage? : Ty → Option FieldType
  | .scalar f => some f
  | .row _ => none
  | .option t => t.storage?

/-- Whether values of the type can be stored in a column, which rows cannot. -/
def isValue (t : Ty) : Bool := t.storage?.isSome

/-- Whether arithmetic applies to the type. -/
def isNumeric (t : Ty) : Bool := t.storage?.any FieldType.isNumeric

/-- Whether the type is that of texts or of texts that may be absent. -/
def isText (t : Ty) : Bool := t == .scalar .text || t == .option (.scalar .text)

/-- Whether a value of the type may be absent. -/
def isOption : Ty → Bool
  | .option _ => true
  | _ => false

/-- The type with absence; a type that has it already stays as it is. -/
def orAbsent : Ty → Ty
  | .option t => .option t
  | t => .option t

/-- A storage type, with absence or without. -/
def ofStorage (f : FieldType) (nullable : Bool) : Ty :=
  if nullable then .option (.scalar f) else .scalar f

/-- The type of a field. -/
def ofField (f : FieldDef) : Ty := ofStorage f.type f.nullable

/-- The type of a row of an entity, which may be missing or not. -/
def ofRow (e : Entity) (nullable : Bool) : Ty := if nullable then .option (.row e) else .row e

/-- The entity under any number of absences; a value has none. -/
def entity? : Ty → Option Entity
  | .scalar _ => none
  | .row e => some e
  | .option t => t.entity?

end Ty

end SqlBuilder
