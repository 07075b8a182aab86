/-!
# Doubled characters

Quoted text protects its special characters by writing each of them twice.

* `Text.doubled` : the text with every special character twice;
* `Text.enclosed` : the same between an opening and a closing character.
-/

namespace PolySql.Text

/-- Writes every special character twice and every other one once. -/
def doubled (special : Char → Bool) : List Char → List Char
  | [] => []
  | c :: cs => if special c then c :: c :: doubled special cs else c :: doubled special cs

/-- Doubled text between two delimiters. -/
def enclosed (left right : Char) (special : Char → Bool) (cs : List Char) : List Char :=
  left :: (doubled special cs ++ [right])

@[simp] theorem doubled_nil (special : Char → Bool) : doubled special [] = [] := rfl

/-- A text without special characters stays as it is. -/
theorem doubled_of_forall {special : Char → Bool} {cs : List Char}
    (h : ∀ c ∈ cs, special c = false) : doubled special cs = cs := by
  induction cs with
  | nil => rfl
  | cons c cs ih => simp_all [doubled]

end PolySql.Text
