import ScenarioTree.Tag.TagSet

/-!
# Tag expressions

Conditions on tag sets: a tag, the conjunction or disjunction of any number of conditions, and
negation. `Expr.render` writes an expression in the query language, with parentheses around every
chain.
-/

namespace ScenarioTree.Tag

/-- A condition on a tag set. -/
inductive Expr where
  | tag (name : String)
  | and (operands : List Expr)
  | or (operands : List Expr)
  | not (operand : Expr)
  deriving Inhabited, BEq

mutual

/-- Whether a tag set satisfies a condition. -/
def Expr.eval (tags : TagSet) : Expr → Bool
  | .tag name => tags.contains name
  | .and operands => Expr.evalAll tags operands
  | .or operands => Expr.evalAny tags operands
  | .not operand => !operand.eval tags

def Expr.evalAll (tags : TagSet) : List Expr → Bool
  | [] => true
  | e :: rest => e.eval tags && Expr.evalAll tags rest

def Expr.evalAny (tags : TagSet) : List Expr → Bool
  | [] => false
  | e :: rest => e.eval tags || Expr.evalAny tags rest

end

mutual

/-- An expression in the query language. -/
def Expr.render : Expr → String
  | .tag name => name
  | .and operands => "(" ++ " and ".intercalate (Expr.renderList operands) ++ ")"
  | .or operands => "(" ++ " or ".intercalate (Expr.renderList operands) ++ ")"
  | .not operand => "not " ++ operand.render

def Expr.renderList : List Expr → List String
  | [] => []
  | e :: rest => e.render :: Expr.renderList rest

end

/-- A chain of operands. One operand alone is itself. -/
def Expr.chain (build : List Expr → Expr) : List Expr → Expr
  | [operand] => operand
  | operands => build operands

end ScenarioTree.Tag
