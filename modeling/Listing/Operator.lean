import Listing.Text.Ascii

/-!
# `Listing/Operator.lean` — what a condition asks of a value

Eight operators in three groups, and the type keeps the groups apart because each is answered
differently: six *comparisons* look only at the order of the value and the operand, `isLike` looks
for the operand inside the value, and `none` asks nothing.

In a condition the operator is found by its keyword, in any ASCII case. Messages show it in
capitals.
-/

set_option autoImplicit false

namespace Listing

/-! ## Comparisons -/

/-- A relation between a value and an operand that their order decides. -/
inductive Comparison where
  | equal
  | notEqual
  | less
  | lessOrEqual
  | greater
  | greaterOrEqual
  deriving DecidableEq

namespace Comparison

/-- Whether the comparison needs an order, and not only equality. -/
def isOrdering : Comparison → Bool
  | .equal | .notEqual => false
  | .less | .lessOrEqual | .greater | .greaterOrEqual => true

/-- Whether a value in this order to the operand satisfies the comparison. -/
def holds : Comparison → Ordering → Bool
  | .equal, order => order.isEq
  | .notEqual, order => order.isNe
  | .less, order => order.isLT
  | .lessOrEqual, order => order.isLE
  | .greater, order => order.isGT
  | .greaterOrEqual, order => order.isGE

/-- The same for two things that may be unordered, as a number and a NaN are: then they are
different, and nothing else holds. -/
def admits (comparison : Comparison) : Option Ordering → Bool
  | some order => comparison.holds order
  | none => comparison = .notEqual

end Comparison

/-! ## Operators -/

/-- What a condition asks of a value. -/
inductive Operator where
  | comparing (comparison : Comparison)
  | containing
  | unrestricted
  deriving DecidableEq

namespace Operator

def all : List Operator :=
  [.comparing .equal, .comparing .greater, .comparing .greaterOrEqual, .comparing .less,
    .comparing .lessOrEqual, .comparing .notEqual, .containing, .unrestricted]

theorem mem_all (operator : Operator) : operator ∈ all := by
  rcases operator with comparison | _ | _
  · cases comparison <;> decide
  all_goals decide

/-- What is said of all operators can be decided for one after the other. -/
instance decidableForall {p : Operator → Prop} [DecidablePred p] :
    Decidable (∀ operator, p operator) :=
  decidable_of_iff (∀ operator ∈ all, p operator)
    ⟨fun h operator => h operator (mem_all operator), fun h operator _ => h operator⟩

/-- The word for the operator in a condition. -/
def keyword : Operator → String
  | .comparing .equal => "equalTo"
  | .comparing .greater => "greaterThan"
  | .comparing .greaterOrEqual => "greaterThanOrEqualTo"
  | .comparing .less => "lessThan"
  | .comparing .lessOrEqual => "lessThanOrEqualTo"
  | .comparing .notEqual => "notEqualTo"
  | .containing => "isLike"
  | .unrestricted => "none"

/-- The operator that a condition names, in any ASCII case. -/
def ofKeyword? (word : List Char) : Option Operator :=
  all.find? fun operator => Text.agree operator.keyword.toList word

/-- The operator with a keyword, letter for letter. -/
def ofName? (name : String) : Option Operator :=
  all.find? (·.keyword = name)

/-- The word for the operator in messages: its keyword in capitals. -/
def label (operator : Operator) : String :=
  String.ofList (operator.keyword.toList.map Char.toUpper)

/-- Whether the operator is one of the four that need an order. -/
def isOrdering : Operator → Bool
  | .comparing comparison => comparison.isOrdering
  | .containing | .unrestricted => false

theorem ofKeyword?_keyword (operator : Operator) :
    ofKeyword? operator.keyword.toList = some operator := by
  rcases operator with comparison | _ | _
  · cases comparison <;> rfl
  all_goals rfl

theorem ofName?_keyword (operator : Operator) : ofName? operator.keyword = some operator := by
  rcases operator with comparison | _ | _
  · cases comparison <;> rfl
  all_goals rfl

end Operator

end Listing
