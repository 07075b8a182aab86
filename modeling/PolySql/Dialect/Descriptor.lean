import PolySql.Dialect
import PolySql.Json.Reading

/-!
# Dialect descriptors

A dialect can be written down as a JSON document, an object with one member for each property or an
array of the properties in order.

* `Dialect.toJson`, `Dialect.toJsonArray` : the two forms;
* `Dialect.ofJson?` : the dialect of a document. Each member counts once, the order does not matter,
  members of other names are skipped with whatever is in them, and nothing is converted from one
  type to another;
* `Dialect.load?` : the dialect of a text.
-/

namespace PolySql

/-! ## Names of the alternatives -/

/-- The style as descriptors name it. -/
def PlaceholderStyle.key : PlaceholderStyle → String
  | .question => "question"
  | .dollar => "dollar"

/-- The syntax as descriptors name it. -/
def UpsertSyntax.key : UpsertSyntax → String
  | .standard => "standard"
  | .mySql => "my_sql"
  | .unsupported => "unsupported"

/-- The spelling as descriptors name it. -/
def BooleanLiterals.key : BooleanLiterals → String
  | .keywords => "keywords"
  | .numeric => "numeric"

namespace Json

/-- The truth value of a document that is one. -/
def asBool? : Json → Option Bool
  | .bool b => some b
  | _ => none

/-- The text of a string that stands for one. -/
def asString? : Json → Option String
  | .string s => s
  | _ => none

/-- The character of a string of one character. -/
def asChar? : Json → Option Char
  | .text s =>
    match s.toList with
    | [c] => some c
    | _ => none
  | _ => none

/-- One of several alternatives, by its name, or by an object with null under that name. -/
def asChoice? {α : Type} (key : α → String) (choices : List α) : Json → Option α
  | .text s => choices.find? fun a => key a == s
  | .object [(some s, .null)] => choices.find? fun a => key a == s
  | _ => none

/-- The members of a given name, which must not be more than one. -/
def member? (members : List (String × Json)) (name : String) : Option (Option Json) :=
  match members.filter fun m => m.1 == name with
  | [] => some none
  | [m] => some (some m.2)
  | _ => none

/-- A member that must be there. -/
def required? {α : Type} (members : List (String × Json)) (name : String)
    (as? : Json → Option α) : Option α :=
  match member? members name with
  | some (some v) => as? v
  | _ => none

/-- A truth value that is false when left out. -/
def flag? (members : List (String × Json)) (name : String) : Option Bool :=
  match member? members name with
  | some (some v) => v.asBool?
  | some none => some false
  | none => none

end Json

namespace Dialect

/-! ## Writing -/

/-- The names of the properties in order. -/
def memberNames : List String :=
  ["name", "quote_open", "quote_close", "placeholder", "supports_if_exists", "supports_returning",
   "supports_auto_increment", "auto_increment_keyword", "supports_drop_behavior",
   "supports_multiple_alter_actions", "upsert_syntax", "conflict_target_required",
   "boolean_literals", "escape_backslash"]

/-- The properties in order. -/
def memberValues (d : Dialect) : List Json :=
  [.text d.name, .text (.singleton d.quoteOpen), .text (.singleton d.quoteClose),
   .text d.placeholderStyle.key, .bool d.ifExists, .bool d.returning, .bool d.autoIncrement,
   .text d.autoIncrementKeyword, .bool d.dropBehavior, .bool d.multipleAlterActions,
   .text d.upsertSyntax.key, .bool d.conflictTargetRequired, .text d.booleanLiterals.key,
   .bool d.escapeBackslash]

/-- An object with every property under its name. -/
def toJson (d : Dialect) : Json := .object ((memberNames.map some).zip d.memberValues)

/-- An array of the properties. -/
def toJsonArray (d : Dialect) : Json := .array d.memberValues

/-! ## Reading -/

/-- The dialect with these members. -/
def ofMembers? (ms : List (String × Json)) : Option Dialect := do
  return {
    name := ← Json.required? ms "name" Json.asString?
    quoteOpen := ← Json.required? ms "quote_open" Json.asChar?
    quoteClose := ← Json.required? ms "quote_close" Json.asChar?
    placeholderStyle := ← Json.required? ms "placeholder"
      (Json.asChoice? PlaceholderStyle.key [.question, .dollar])
    ifExists := ← Json.required? ms "supports_if_exists" Json.asBool?
    returning := ← Json.required? ms "supports_returning" Json.asBool?
    autoIncrement := ← Json.required? ms "supports_auto_increment" Json.asBool?
    autoIncrementKeyword := ← Json.required? ms "auto_increment_keyword" Json.asString?
    dropBehavior := ← Json.required? ms "supports_drop_behavior" Json.asBool?
    multipleAlterActions := ← Json.required? ms "supports_multiple_alter_actions" Json.asBool?
    upsertSyntax := ← Json.required? ms "upsert_syntax"
      (Json.asChoice? UpsertSyntax.key [.standard, .mySql, .unsupported])
    conflictTargetRequired := ← Json.flag? ms "conflict_target_required"
    booleanLiterals := ← Json.required? ms "boolean_literals"
      (Json.asChoice? BooleanLiterals.key [.keywords, .numeric])
    escapeBackslash := ← Json.flag? ms "escape_backslash" }

/-- The members under their names, unless a name is no text. -/
def named? (members : List (Option String × Json)) : Option (List (String × Json)) :=
  members.mapM fun (name, v) => name.map fun name => (name, v)

/-- The dialect of a document. An array names its items by their place. -/
def ofJson? : Json → Option Dialect
  | .object members => (named? members).bind ofMembers?
  | .array items =>
    if items.length ≤ memberNames.length then ofMembers? (memberNames.zip items) else none
  | _ => none

/-- The dialect of the document that a text stands for. -/
def load? (text : List Char) : Option Dialect := (Json.read? text).bind ofJson?

end Dialect

end PolySql
