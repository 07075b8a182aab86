import PolySql.Dialect
import PolySql.Event

/-!
# Drafts of SQL text

A `Draft` is a statement on its way to text: a list of tokens that no dialect has spelled yet, the
events on the way, and the fault at which the writing stopped, if it did. What was written before a
fault stays. Drafts are joined with `++`, and nothing joins a draft that has stopped; so they form a
monoid, in which every draft with a fault absorbs what comes after it.

* `Token` : a piece of text, a name, a literal or a bind;
* `Draft.sql`, `Draft.name`, `Draft.literal`, `Draft.bind`, `Draft.fail`, `Draft.note` : the least
  drafts;
* `Draft.append_assoc`, `Draft.append_empty`, `Draft.empty_append` : the monoid;
* `Draft.joined`, `Draft.clause`, `Draft.led` : drafts with separators and keywords;
* `Draft.fault_append` and its kin : of several drafts the first fault counts.
-/

namespace PolySql

/-- A piece of a statement. -/
inductive Token where
  /-- Keywords, marks and trusted text, copied as they are. -/
  | sql (text : String)
  | name (name : String)
  | literal (l : Literal)
  | bind (v : Value)
deriving DecidableEq, Repr

/-- A statement as far as it is written. -/
structure Draft where
  tokens : List Token
  events : List Event
  fault : Option Fault

namespace Draft

/-! ## Single pieces -/

/-- Nothing. -/
def empty : Draft := ⟨[], [], none⟩

/-- Text that is copied as it is. -/
def sql (text : String) : Draft := ⟨[.sql text], [], none⟩

/-- A name, which the dialect quotes. -/
def name (n : String) : Draft := ⟨[.name n], [], none⟩

/-- A literal, which the dialect spells. -/
def literal (l : Literal) : Draft := ⟨[.literal l], [], none⟩

/-- A value, for which the text has a placeholder. -/
def bind (v : Value) : Draft := ⟨[.bind v], [], none⟩

/-- An event without text. -/
def note (e : Event) : Draft := ⟨[], [e], none⟩

/-- A fault, at which the writing stops. -/
def fail (e : Fault) : Draft := ⟨[], [], some e⟩

/-- A number in the text. -/
def number (n : Nat) : Draft := sql (.ofList (Digits.ofNat n))

/-! ## Joining -/

/-- The second draft after the first, unless the first has stopped. -/
def append (a b : Draft) : Draft :=
  match a.fault with
  | some _ => a
  | none => ⟨a.tokens ++ b.tokens, a.events ++ b.events, b.fault⟩

instance : Append Draft := ⟨append⟩

theorem append_def (a b : Draft) : a ++ b = append a b := rfl

@[simp] theorem append_empty (a : Draft) : a ++ empty = a := by
  rcases a with ⟨_, _, _ | _⟩ <;> simp [append_def, append, empty]

@[simp] theorem empty_append (a : Draft) : empty ++ a = a := by
  simp [append_def, append, empty]

theorem append_assoc (a b c : Draft) : a ++ b ++ c = a ++ (b ++ c) := by
  rcases a with ⟨_, _, _ | _⟩ <;> rcases b with ⟨_, _, _ | _⟩ <;> simp [append_def, append]

theorem append_of_fault {a : Draft} {e : Fault} (h : a.fault = some e) (b : Draft) :
    a ++ b = a := by
  simp [append_def, append, h]

theorem tokens_append {a : Draft} (h : a.fault = none) (b : Draft) :
    (a ++ b).tokens = a.tokens ++ b.tokens := by
  simp [append_def, append, h]

theorem fault_append (a b : Draft) : (a ++ b).fault = a.fault.or b.fault := by
  rcases a with ⟨_, _, _ | _⟩ <;> simp [append_def, append]

/-- Stops with the fault unless the condition holds. -/
def require (condition : Bool) (e : Fault) : Draft := if condition then empty else fail e

/-- The draft if the condition holds, and nothing otherwise. -/
def only (condition : Bool) (a : Draft) : Draft := if condition then a else empty

/-- One draft after the other. -/
def all : List Draft → Draft
  | [] => empty
  | a :: as => a ++ all as

/-- Drafts with a separator between neighbours. -/
def joined (separator : String) : List Draft → Draft
  | [] => empty
  | [a] => a
  | a :: b :: as => a ++ (sql separator ++ joined separator (b :: as))

/-- A draft between parentheses. -/
def parens (a : Draft) : Draft := sql "(" ++ a ++ sql ")"

/-- A draft between parentheses where the condition asks for them. -/
def parensIf (condition : Bool) (a : Draft) : Draft := if condition then parens a else a

/-- A name with the name of its table in front. -/
def qualified (table : Option String) (a : Draft) : Draft :=
  match table with
  | some t => name t ++ sql "." ++ a
  | none => a

/-- Names between commas. -/
def names (ns : List String) : Draft := joined ", " (ns.map name)

/-- A keyword with a draft after it, or nothing. -/
def led (keyword : String) : Option Draft → Draft
  | some a => sql keyword ++ a
  | none => empty

/-- A keyword with drafts between commas after it, or nothing if there are none. -/
def clause (keyword : String) : List Draft → Draft
  | [] => empty
  | a :: as => sql keyword ++ joined ", " (a :: as)

/-! ## The first fault -/

@[simp] theorem fault_empty : empty.fault = none := rfl

@[simp] theorem fault_sql (text : String) : (sql text).fault = none := rfl

@[simp] theorem fault_name (n : String) : (name n).fault = none := rfl

@[simp] theorem fault_literal (l : Literal) : (literal l).fault = none := rfl

@[simp] theorem fault_bind (v : Value) : (bind v).fault = none := rfl

@[simp] theorem fault_note (e : Event) : (note e).fault = none := rfl

@[simp] theorem fault_fail (e : Fault) : (fail e).fault = some e := rfl

@[simp] theorem fault_require (condition : Bool) (e : Fault) :
    (require condition e).fault = if condition then none else some e := by
  cases condition <;> rfl

@[simp] theorem fault_parensIf (condition : Bool) (a : Draft) :
    (parensIf condition a).fault = a.fault := by
  cases condition <;> simp [parensIf, parens, fault_append]

@[simp] theorem fault_qualified (table : Option String) (a : Draft) :
    (qualified table a).fault = a.fault := by
  cases table <;> simp [qualified, fault_append]

@[simp] theorem fault_all (as : List Draft) : (all as).fault = as.findSome? Draft.fault := by
  induction as with
  | nil => rfl
  | cons a as ih => cases h : a.fault <;> simp [all, fault_append, ih, h]

@[simp] theorem fault_joined (separator : String) (as : List Draft) :
    (joined separator as).fault = as.findSome? Draft.fault := by
  induction as using joined.induct with
  | case1 => rfl
  | case2 a => cases h : a.fault <;> simp [joined, h]
  | case3 a b as ih => cases h : a.fault <;> simp [joined, fault_append, ih, h]

@[simp] theorem fault_clause (keyword : String) (as : List Draft) :
    (clause keyword as).fault = as.findSome? Draft.fault := by
  cases as with
  | nil => rfl
  | cons a as => simp [clause, fault_append]

@[simp] theorem fault_led (keyword : String) (a : Option Draft) :
    (led keyword a).fault = a.bind Draft.fault := by
  cases a <;> simp [led, fault_append]

end Draft

end PolySql
