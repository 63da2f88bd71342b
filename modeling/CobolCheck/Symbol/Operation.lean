import CobolCheck.Symbol.Table

/-!
# Operations on symbol tables

Everything that can be done to a symbol table, as data: a sequence of operations
is a list, and what holds of a table after any such sequence is one induction.
-/

namespace CobolCheck

/-- Something done to a symbol table. Every operation is about one key. -/
inductive Operation where
  | add (item : Item)
  | setSection (kind : DataSection)
  | setParent (name : String)
  | setType (type : PictureType)
  | setPictureLength (length : String)
  | setInitialValue (value : String)
  | setShape (shape : Shape)
  | setValue (value : ConstantValue)
  | setExternal (name : String)
  | setGlobal
  | setBased

namespace Operation

/-- How an operation changes the item under its key. Adding an item changes none. -/
def change : Operation → Item → Item
  | add _ => id
  | setSection kind => fun item => { item with inSection := some kind }
  | setParent name => fun item => { item with parent := some name }
  | setType type => Item.mapStorage fun attributes => { attributes with type := some type }
  | setPictureLength length =>
      Item.mapStorage fun attributes => { attributes with pictureLength := some length }
  | setInitialValue value =>
      Item.mapStorage fun attributes => { attributes with initialValue := some value }
  | setShape shape => Item.setShape shape
  | setValue value => Item.setValue value
  | setExternal name => Item.setExternal name
  | setGlobal => fun item => { item with isGlobal := true }
  | setBased => fun item => { item with isBased := true }

/-- Does an operation to the item under a key. An item that cannot be added,
because there is one already, leaves the table as it is. -/
def apply (table : SymbolTable) (key : SymbolKey) : Operation → Except Duplicate SymbolTable
  | add item => table.add key item
  | operation => .ok (table.update key operation.change)

/-- The table after an operation, whether it succeeds or not. -/
def after (table : SymbolTable) (step : SymbolKey × Operation) : SymbolTable :=
  match step.2.apply table step.1 with
  | .ok next => next
  | .error _ => table

/-- The table after a sequence of operations. -/
def run (table : SymbolTable) (steps : List (SymbolKey × Operation)) : SymbolTable :=
  steps.foldl after table

/-- An operation on one key leaves the items under all others as they are. -/
theorem get?_after_of_ne (table : SymbolTable) {key other : SymbolKey} (differs : other ≠ key)
    (operation : Operation) : (after table (key, operation)).get? other = table.get? other := by
  cases operation with
  | add item =>
      unfold after apply
      split
      · next added => rw [SymbolTable.get?_of_add_eq_ok added, if_neg differs]
      · rfl
  | _ => simp [after, apply, SymbolTable.get?_update, differs]

end Operation

end CobolCheck
