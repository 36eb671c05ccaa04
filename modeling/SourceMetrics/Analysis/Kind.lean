import SourceMetrics.Tree.Basic

/-!
# Node kinds

The kinds of nodes that the analysis tells apart. A kind that it does not know keeps the name that
the grammar gives it. The two logical operators share one grammar kind and are told apart by their
operator token.

Main statement: `name_of` — the name of a node's kind is the name that the grammar gives it.
-/

namespace SourceMetrics

/-- The kind of a node. -/
inductive NodeKind where
  | module
  | functionDefinition
  | classDefinition
  | decoratedDefinition
  | lambda
  | expressionStatement
  | assignment
  | augmentedAssignment
  | returnStatement
  | importStatement
  | importFromStatement
  | call
  | identifier
  | ifStatement
  | elifClause
  | elseClause
  | forStatement
  | whileStatement
  | tryStatement
  | exceptClause
  | exceptGroupClause
  | finallyClause
  | withStatement
  | matchStatement
  | caseClause
  | conditionalExpression
  | logicalAnd
  | logicalOr
  | notOperator
  | comparisonOperator
  | listComprehension
  | dictionaryComprehension
  | setComprehension
  | generatorExpression
  | other (name : String)
  deriving DecidableEq, Repr, Inhabited

namespace NodeKind

/-- The operator token of a logical operation. -/
def operator? (children : List Tree) : Option String :=
  (children.find? fun c => !c.isNamed && (c.kind = "and" || c.kind = "or")).map Tree.kind

/-- The kind of a logical operation. -/
def ofOperator : Option String → NodeKind
  | some "and" => logicalAnd
  | some "or" => logicalOr
  | _ => other "boolean_operator"

/-- The kind of a node with the given name and children. -/
def ofParts (name : String) (children : List Tree) : NodeKind :=
  match name with
  | "module" => module
  | "function_definition" => functionDefinition
  | "class_definition" => classDefinition
  | "decorated_definition" => decoratedDefinition
  | "lambda" => lambda
  | "expression_statement" => expressionStatement
  | "assignment" => assignment
  | "augmented_assignment" => augmentedAssignment
  | "return_statement" => returnStatement
  | "import_statement" => importStatement
  | "import_from_statement" => importFromStatement
  | "call" => call
  | "identifier" => identifier
  | "if_statement" => ifStatement
  | "elif_clause" => elifClause
  | "else_clause" => elseClause
  | "for_statement" => forStatement
  | "while_statement" => whileStatement
  | "try_statement" => tryStatement
  | "except_clause" => exceptClause
  | "except_group_clause" => exceptGroupClause
  | "finally_clause" => finallyClause
  | "with_statement" => withStatement
  | "match_statement" => matchStatement
  | "case_clause" => caseClause
  | "conditional_expression" => conditionalExpression
  | "boolean_operator" => ofOperator (operator? children)
  | "not_operator" => notOperator
  | "comparison_operator" => comparisonOperator
  | "list_comprehension" => listComprehension
  | "dictionary_comprehension" => dictionaryComprehension
  | "set_comprehension" => setComprehension
  | "generator_expression" => generatorExpression
  | name => other name

/-- The kind of a node. -/
def of (t : Tree) : NodeKind := ofParts t.kind t.children

/-- The name that the grammar gives to a kind. -/
def name : NodeKind → String
  | module => "module"
  | functionDefinition => "function_definition"
  | classDefinition => "class_definition"
  | decoratedDefinition => "decorated_definition"
  | lambda => "lambda"
  | expressionStatement => "expression_statement"
  | assignment => "assignment"
  | augmentedAssignment => "augmented_assignment"
  | returnStatement => "return_statement"
  | importStatement => "import_statement"
  | importFromStatement => "import_from_statement"
  | call => "call"
  | identifier => "identifier"
  | ifStatement => "if_statement"
  | elifClause => "elif_clause"
  | elseClause => "else_clause"
  | forStatement => "for_statement"
  | whileStatement => "while_statement"
  | tryStatement => "try_statement"
  | exceptClause => "except_clause"
  | exceptGroupClause => "except_group_clause"
  | finallyClause => "finally_clause"
  | withStatement => "with_statement"
  | matchStatement => "match_statement"
  | caseClause => "case_clause"
  | conditionalExpression => "conditional_expression"
  | logicalAnd | logicalOr => "boolean_operator"
  | notOperator => "not_operator"
  | comparisonOperator => "comparison_operator"
  | listComprehension => "list_comprehension"
  | dictionaryComprehension => "dictionary_comprehension"
  | setComprehension => "set_comprehension"
  | generatorExpression => "generator_expression"
  | other name => name

/-- Whether the kind is `and` or `or`. -/
def isLogical : NodeKind → Bool
  | logicalAnd | logicalOr => true
  | _ => false

/-- Whether the kind adds a path through the program: branches, loops, exception handlers and the
logical operators do; conditional expressions, match cases and comprehensions do not. -/
def isDecisionPoint : NodeKind → Bool
  | ifStatement | elifClause | forStatement | whileStatement | exceptClause | exceptGroupClause
  | logicalAnd | logicalOr => true
  | _ => false

theorem name_ofOperator (o : Option String) : (ofOperator o).name = "boolean_operator" := by
  unfold ofOperator
  split <;> rfl

theorem name_ofParts (n : String) (children : List Tree) : (ofParts n children).name = n := by
  unfold ofParts
  split <;> first | rfl | exact name_ofOperator _

/-- A node's kind is named as the grammar names it. -/
theorem name_of (t : Tree) : (of t).name = t.kind := name_ofParts _ _

end NodeKind

end SourceMetrics
