import PolySql.Text.SnakeCase

/-!
# Models out of declarations

A model can be derived from the declaration of a type: the table is named by an attribute
`table(name = "…")` or else by the type, a column by an attribute `column(name = "…")` or else by
the field.

* `Declaration.tableName` : the first table attribute with a name counts;
* `Declaration.columnName` : the last name of the column attributes counts;
* `Declaration.names` : table and columns, or why the declaration is no model.
-/

namespace PolySql

/-- What stands after the name of an attribute's item. -/
inductive AttributeValue where
  | none
  | string (s : String)
  /-- A literal of any other kind. -/
  | other
deriving DecidableEq, Repr

/-- An attribute: its path alone, the path with a value, or the path with items in parentheses. -/
inductive Attribute where
  | bare (path : String)
  | assigned (path : String)
  | list (path : String) (items : List (String × AttributeValue))
deriving DecidableEq, Repr

/-- The path that an attribute starts with. -/
def Attribute.path : Attribute → String
  | .bare path | .assigned path | .list path _ => path

/-- What is declared. -/
inductive DeclarationKind where
  | namedFields
  | tuple
  | unit
  | enumeration
  | union
deriving DecidableEq, Repr

/-- A declared field. -/
structure FieldDeclaration where
  name : String
  attributes : List Attribute
deriving DecidableEq, Repr

/-- A declared type. -/
structure Declaration where
  kind : DeclarationKind
  name : String
  attributes : List Attribute
  fields : List FieldDeclaration
deriving DecidableEq, Repr

/-- Why a declaration is no model. -/
inductive DeclarationFault where
  | argumentsMissing (path : String)
  | parenthesesMissing (path : String)
  | valueMissing
  | notAString
  | unknownItem (path : String)
  | noNamedFields
  | noStructure
deriving DecidableEq, Repr

/-- The fault in words. -/
def DeclarationFault.message : DeclarationFault → String
  | .argumentsMissing path =>
    "expected attribute arguments in parentheses: #[" ++ path ++ "(...)]"
  | .parenthesesMissing path => "expected parentheses: #[" ++ path ++ "(...)]"
  | .valueMissing => "expected \x60=\x60"
  | .notAString => "expected a string literal"
  | .unknownItem path => "unsupported " ++ path ++ " attribute"
  | .noNamedFields => "Model derive only supports structs with named fields"
  | .noStructure => "Model derive only supports structs"

namespace Attribute

/-- The name that a list of items gives, the last one if there are several. -/
def nameOf (path : String) : Option String → List (String × AttributeValue) →
    Except DeclarationFault (Option String)
  | found, [] => .ok found
  | _, (key, value) :: items =>
    if key != "name" then .error (.unknownItem path)
    else
      match value with
      | .none => .error .valueMissing
      | .other => .error .notAString
      | .string s => nameOf path (some s) items

/-- The name that an attribute with arguments gives. -/
def name? : Attribute → Except DeclarationFault (Option String)
  | .bare path => .error (.argumentsMissing path)
  | .assigned path => .error (.parenthesesMissing path)
  | .list path items => nameOf path none items

end Attribute

namespace Declaration

/-- The first name among the table attributes; later attributes are not looked at. -/
def tableNameOf : List Attribute → Except DeclarationFault (Option String)
  | [] => .ok none
  | a :: as =>
    if a.path != "table" then tableNameOf as
    else
      match a.name? with
      | .error e => .error e
      | .ok (some name) => .ok (some name)
      | .ok none => tableNameOf as

/-- The last name among the column attributes; one without arguments says nothing. -/
def columnNameOf : Option String → List Attribute → Except DeclarationFault (Option String)
  | found, [] => .ok found
  | found, a :: as =>
    if a.path != "column" then columnNameOf found as
    else
      match a with
      | .bare _ => columnNameOf found as
      | _ =>
        match a.name? with
        | .error e => .error e
        | .ok name => columnNameOf (name.or found) as

/-- The table: its name in an attribute, or else the snake case of the type's name. -/
def tableName (d : Declaration) : Except DeclarationFault String :=
  match tableNameOf d.attributes with
  | .error e => .error e
  | .ok (some name) => .ok name
  | .ok none => .ok (.ofList (Text.snakeCase d.name.toList))

/-- The column: its name in an attribute, or else the name of the field. -/
def columnName (f : FieldDeclaration) : Except DeclarationFault String :=
  match columnNameOf none f.attributes with
  | .error e => .error e
  | .ok name => .ok (name.getD f.name)

/-- Only a structure with named fields can be a model. -/
def checkKind : DeclarationKind → Except DeclarationFault Unit
  | .namedFields => .ok ()
  | .tuple | .unit => .error .noNamedFields
  | .enumeration | .union => .error .noStructure

/-- The columns in field order, up to the first malformed attribute. -/
def columnNames : List FieldDeclaration → Except DeclarationFault (List String)
  | [] => .ok []
  | f :: fs =>
    match columnName f with
    | .error e => .error e
    | .ok c =>
      match columnNames fs with
      | .error e => .error e
      | .ok cs => .ok (c :: cs)

/-- The table and the columns. The table's attributes are looked at first, then the kind of the
declaration, then the fields. -/
def names (d : Declaration) : Except DeclarationFault (String × List String) := do
  let table ← d.tableName
  checkKind d.kind
  return (table, ← columnNames d.fields)

end Declaration

end PolySql
