import PolySql.Expr
import PolySql.Proofs.Scanning

/-!
# The items of a condition

Between the marks of a text and its meaning there are two more steps. Marks are glued to lexemes:
words, operators, columns with or without a table. Lexemes are read as items: an atom, which is a
column or the bind of a placeholder, or one of the symbols that make conditions out of atoms.

* `Lexeme`, `Lexeme.glue` : from the right to the left, each mark joins the lexeme after it or
  starts one of its own;
* `Symbol`, `Item`, `Lexeme.itemsFrom` : lexemes as items, the placeholders with their binds;
* `Lexeme.foldr_glue_code` : text in front of other lexemes.
-/

namespace PolySql

open Text

/-! ## Lexemes -/

/-- A word of a text. -/
inductive Lexeme where
  | blank
  | dot
  | column (table : Option String) (name : String)
  | text (s : String)
  | word (cs : List Char)
  | operator (cs : List Char)
  /-- Any other character. -/
  | mark (c : Char)
deriving DecidableEq, Repr

namespace Text

/-- A character that makes words, or placeholders with numbers. -/
def isInWord (c : Char) : Bool := isWord c || c == '$'

/-- A character that makes operators. -/
def isInOperator (c : Char) : Bool := ['=', '<', '>', '+', '-', '*', '/', '%', '|'].contains c

end Text

namespace Lexeme

/-- A character in front of lexemes. -/
def glueCode (c : Char) (ls : List Lexeme) : List Lexeme :=
  if isInWord c then
    match ls with
    | .word cs :: ls => .word (c :: cs) :: ls
    | _ => .word [c] :: ls
  else if isInOperator c then
    match ls with
    | .operator cs :: ls => .operator (c :: cs) :: ls
    | _ => .operator [c] :: ls
  else if c = ' ' then .blank :: ls
  else if c = '.' then .dot :: ls
  else .mark c :: ls

/-- A mark in front of lexemes. -/
def glue : Mark → List Lexeme → List Lexeme
  | .code c, ls => glueCode c ls
  | .text s, ls => .text s :: ls
  | .name t, .dot :: .column none n :: ls => .column (some t) n :: ls
  | .name n, ls => .column none n :: ls

/-- The lexemes of a text that has been scanned. -/
def ofMarks (marks : List Mark) : List Lexeme := marks.foldr glue []

/-- Nothing in front of these lexemes is glued to them. -/
def clear : List Lexeme → Bool
  | [] | .blank :: _ | .mark _ :: _ => true
  | _ => false

/-- Nothing after this text is glued to it. -/
def endsApart (cs : List Char) : Bool := cs.getLast?.all fun c => !(isInWord c || isInOperator c)

theorem glueCode_ne_nil (c : Char) (ls : List Lexeme) : glueCode c ls ≠ [] := by
  unfold glueCode
  repeat' split
  all_goals simp

theorem glueCode_append {ls : List Lexeme} (h : ls ≠ []) (c : Char) (rest : List Lexeme) :
    glueCode c (ls ++ rest) = glueCode c ls ++ rest := by
  obtain ⟨l, ls, rfl⟩ := List.exists_cons_of_ne_nil h
  unfold glueCode
  cases l <;> split_ifs <;> rfl

theorem glueCode_of_clear {rest : List Lexeme} (h : clear rest = true) (c : Char) :
    glueCode c rest = glueCode c [] ++ rest := by
  unfold glueCode
  rcases rest with _ | ⟨l, rest⟩
  · simp
  · cases l <;> simp [clear] at h <;> split_ifs <;> rfl

theorem glueCode_of_apart {c : Char} (h : (isInWord c || isInOperator c) = false)
    (rest : List Lexeme) : glueCode c rest = glueCode c [] ++ rest := by
  rw [Bool.or_eq_false_iff] at h
  unfold glueCode
  rw [h.1, h.2]
  simp only [Bool.false_eq_true, if_false]
  split_ifs <;> rfl

/-- Text keeps its lexemes whatever follows it, if nothing there is glued to it. -/
theorem foldr_glue_code {cs : List Char} {rest : List Lexeme}
    (h : endsApart cs = true ∨ clear rest = true) :
    (cs.map Mark.code).foldr glue rest = ofMarks (cs.map .code) ++ rest := by
  induction cs with
  | nil => rfl
  | cons c cs ih =>
    rw [ofMarks, List.map_cons, List.foldr_cons, List.foldr_cons]
    show glueCode c _ = glueCode c _ ++ rest
    cases cs with
    | nil =>
      rcases h with h | h
      · exact glueCode_of_apart (by simpa [endsApart] using h) rest
      · exact glueCode_of_clear h c
    | cons c' cs =>
      have hne : ofMarks ((c' :: cs).map .code) ≠ [] := glueCode_ne_nil c' _
      rw [ih (h.imp_left (by simp [endsApart])), glueCode_append hne]
      rfl

end Lexeme

/-! ## Items -/

/-- What makes conditions out of atoms. -/
inductive Symbol where
  | compare (op : BinaryOp)
  | and
  | or
  | not
  | is
  | null
  | inList
  | between
  | like
  | leftParen
  | rightParen
  | comma
deriving DecidableEq, Repr

namespace Symbol

/-- The symbols with their texts. -/
def table : List (String × Symbol) :=
  [("=", .compare .eq), ("<>", .compare .notEq), ("<", .compare .lt), ("<=", .compare .ltEq),
    (">", .compare .gt), (">=", .compare .gtEq), ("AND", .and), ("OR", .or), ("NOT", .not),
    ("IS", .is), ("NULL", .null), ("IN", .inList), ("BETWEEN", .between), ("LIKE", .like),
    ("(", .leftParen), (")", .rightParen), (",", .comma)]

/-- The symbol with this text. -/
def ofText? (cs : List Char) : Option Symbol :=
  (table.find? fun entry => entry.1.toList == cs).map Prod.snd

end Symbol

/-- An atom, or a symbol. -/
inductive Item where
  | atom (e : Expr)
  | symbol (s : Symbol)

namespace Lexeme

/-- The symbols of a lexeme without a placeholder; a blank has none. -/
def symbols? : Lexeme → Option (List Symbol)
  | .blank => some []
  | .word cs | .operator cs => (Symbol.ofText? cs).map ([·])
  | .mark c => (Symbol.ofText? [c]).map ([·])
  | _ => none

/-- The symbols of lexemes without placeholders. -/
def symbolsFrom : List Lexeme → Option (List Symbol)
  | [] => some []
  | l :: ls => l.symbols?.bind fun xs => (symbolsFrom ls).map (xs ++ ·)

/-- The number of a placeholder, counted from one, after a number of earlier ones. -/
def placeholder? (next : Nat) : Lexeme → Option Nat
  | .mark c => if c = '?' then some (next + 1) else none
  | .word (c :: cs) => if c = '$' ∧ cs.all Char.isDigit then some (Digits.value cs) else none
  | _ => none

/-- The items of one lexeme, and the number of placeholders up to it. -/
def read (binds : List Value) (next : Nat) (l : Lexeme) : Option (List Item × Nat) :=
  match l with
  | .column table n => some ([.atom (.column table n)], next)
  | l =>
    match l.placeholder? next with
    | some 0 => none
    | some (k + 1) => binds[k]?.map fun v => ([.atom (.bind v)], next + 1)
    | none => l.symbols?.map fun xs => (xs.map .symbol, next)

/-- The items of a text, if each of its lexemes has items. -/
def itemsFrom (binds : List Value) (next : Nat) : List Lexeme → Option (List Item)
  | [] => some []
  | l :: ls => (l.read binds next).bind fun (xs, next') =>
    (itemsFrom binds next' ls).map (xs ++ ·)

theorem placeholder?_of_symbols? {l : Lexeme} {xs : List Symbol} (h : l.symbols? = some xs)
    (next : Nat) : l.placeholder? next = none := by
  cases l with
  | mark c =>
    unfold placeholder?
    refine if_neg ?_
    rintro rfl
    have hnone : symbols? (.mark '?') = none := by decide
    rw [hnone] at h
    cases h
  | word cs =>
    cases cs with
    | nil => rfl
    | cons c cs =>
      unfold placeholder?
      refine if_neg ?_
      rintro ⟨rfl, -⟩
      simp [symbols?, Symbol.ofText?, Symbol.table] at h
  | _ => rfl

end Lexeme

/-- The items of a text with its binds. -/
def Dialect.items (d : Dialect) (r : Rendering) : Option (List Item) :=
  (d.scan r.sql.toList).bind fun marks => Lexeme.itemsFrom r.binds 0 (Lexeme.ofMarks marks)

end PolySql
