import PolySql.Literal
import PolySql.Text.Doubled

/-!
# Dialects

A `Dialect` describes one kind of database: how names are quoted, how placeholders look, how
literals are spelled, and which optional features there are.

* `Dialect.quoted` : a name between the dialect's quotes;
* `Dialect.placeholder` : the text that stands for a bind;
* `Dialect.spelled` : a literal as part of a statement;
* `Dialect.withAutoIncrement` : switches the auto-increment keyword on or off.
-/

namespace PolySql

/-- What stands for a bind: `?`, or a dollar sign with the number of the bind. -/
inductive PlaceholderStyle where
  | question
  | dollar
deriving DecidableEq, Repr

/-- How an INSERT says what happens to a row that is already there. -/
inductive UpsertSyntax where
  /-- `ON CONFLICT (target) DO NOTHING` or `DO UPDATE SET`. -/
  | standard
  /-- `INSERT IGNORE` or `ON DUPLICATE KEY UPDATE`. -/
  | mySql
  | unsupported
deriving DecidableEq, Repr

/-- How truth values are spelled: as keywords, or as one and zero. -/
inductive BooleanLiterals where
  | keywords
  | numeric
deriving DecidableEq, Repr

/-- A kind of database, by what its SQL can say and how. -/
structure Dialect where
  name : String
  quoteOpen : Char
  quoteClose : Char
  placeholderStyle : PlaceholderStyle
  ifExists : Bool
  returning : Bool
  autoIncrement : Bool
  autoIncrementKeyword : String
  dropBehavior : Bool
  multipleAlterActions : Bool
  upsertSyntax : UpsertSyntax
  conflictTargetRequired : Bool
  booleanLiterals : BooleanLiterals
  escapeBackslash : Bool
deriving DecidableEq, Repr

namespace Dialect

/-! ## Presets -/

/-- The common ground: no `RETURNING`, no auto-increment, no conflict clauses. -/
def generic : Dialect where
  name := "generic"
  quoteOpen := '"'
  quoteClose := '"'
  placeholderStyle := .question
  ifExists := true
  returning := false
  autoIncrement := false
  autoIncrementKeyword := ""
  dropBehavior := true
  multipleAlterActions := true
  upsertSyntax := .unsupported
  conflictTargetRequired := false
  booleanLiterals := .keywords
  escapeBackslash := false

/-- Backticks, `INSERT IGNORE`, truth values as numbers, and backslashes that escape. -/
def mysql : Dialect :=
  { generic with
    name := "mysql"
    quoteOpen := '\x60'
    quoteClose := '\x60'
    autoIncrement := true
    autoIncrementKeyword := "AUTO_INCREMENT"
    upsertSyntax := .mySql
    booleanLiterals := .numeric
    escapeBackslash := true }

/-- Numbered placeholders; a key that counts up is a matter of its type, not of a keyword. -/
def postgres : Dialect :=
  { generic with
    name := "postgres"
    placeholderStyle := .dollar
    returning := true
    upsertSyntax := .standard
    conflictTargetRequired := true }

/-- One action for each `ALTER TABLE`, nothing said about what depends on a dropped table. -/
def sqlite : Dialect :=
  { generic with
    name := "sqlite"
    returning := true
    autoIncrement := true
    autoIncrementKeyword := "AUTOINCREMENT"
    dropBehavior := false
    multipleAlterActions := false
    upsertSyntax := .standard
    booleanLiterals := .numeric }

instance : Inhabited Dialect := ⟨generic⟩

/-- Sets the auto-increment keyword; without one the dialect has no auto-increment. -/
def withAutoIncrement (d : Dialect) : Option String → Dialect
  | some keyword => { d with autoIncrement := true, autoIncrementKeyword := keyword }
  | none => { d with autoIncrement := false, autoIncrementKeyword := "" }

/-! ## Spelling -/

/-- A name between quotes, with every closing quote inside it doubled. -/
def quoted (d : Dialect) (name : String) : List Char :=
  Text.enclosed d.quoteOpen d.quoteClose (· == d.quoteClose) name.toList

/-- The text for the bind with this number, counted from one. -/
def placeholder (d : Dialect) (number : Nat) : List Char :=
  match d.placeholderStyle with
  | .question => ['?']
  | .dollar => '$' :: Digits.ofNat number

/-- Whether a character is written twice inside a text literal. -/
def doublesInText (d : Dialect) (c : Char) : Bool := c == '\'' || (d.escapeBackslash && c == '\\')

/-- A text between apostrophes. -/
def spelledText (d : Dialect) (cs : List Char) : List Char :=
  Text.enclosed '\'' '\'' d.doublesInText cs

/-- A truth value as a keyword or as a digit. -/
def spelledBool (d : Dialect) (b : Bool) : List Char :=
  match d.booleanLiterals, b with
  | .keywords, true => ['t', 'r', 'u', 'e']
  | .keywords, false => ['f', 'a', 'l', 's', 'e']
  | .numeric, true => ['1']
  | .numeric, false => ['0']

/-- A literal as part of a statement. A number without a fraction keeps a point and a zero, so that
it stays a floating point number. -/
def spelled (d : Dialect) : Literal → List Char
  | .null => ['N', 'U', 'L', 'L']
  | .bool b => d.spelledBool b
  | .int n => Digits.ofInt n.toInt
  | .float x => if x.isIntegral then x.exactText else x.text
  | .text s => d.spelledText s.toList
  | .date day => '\'' :: (day.text ++ ['\''])
  | .timestamp t => '\'' :: (t.text ++ ['\''])

end Dialect

end PolySql
