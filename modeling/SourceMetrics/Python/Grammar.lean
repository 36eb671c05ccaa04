import SourceMetrics.Grammar.Rule

/-!
# The grammar of Python

The rules by which Python source is read: Python 3 with the `print` and `exec` statements of
Python 2. Line ends and changes of indentation are tokens of their own (`_newline`, `_indent`,
`_dedent`), and so are the parts of a string.
-/

namespace SourceMetrics.Python

open SourceMetrics.Grammar
open SourceMetrics.Grammar.Rule

/-! ## Levels of precedence -/

namespace Level

def lambda : Int := -2
def typedParameter : Int := -1
def conditional : Int := -1
def parenthesized : Int := 1
def or : Int := 10
def and : Int := 11
def not : Int := 12
def compare : Int := 13
def bitwiseOr : Int := 14
def bitwiseAnd : Int := 15
def bitwiseXor : Int := 16
def shift : Int := 17
def plus : Int := 18
def times : Int := 19
def unary : Int := 20
def power : Int := 21
def call : Int := 22

end Level

/-! ## Rules -/

/-- A choice among rules given by name. -/
def anySymbol (names : List String) : Rule := any (names.map symbol)

/-- A choice among literals. -/
def anyLiteral (texts : List String) : Rule := any (texts.map literal)

/-- Something in parentheses. -/
def parenthesized (r : Rule) : Rule := all [literal "(", r, literal ")"]

/-- Something in square brackets. -/
def bracketed (r : Rule) : Rule := all [literal "[", r, literal "]"]

/-- Something in braces. -/
def braced (r : Rule) : Rule := all [literal "\x7b", r, literal "\x7d"]

def simpleStatements : List (String × Rule) := [
  ("module", star (symbol "_statement")),
  ("_statement", anySymbol ["_simple_statements", "_compound_statement"]),
  ("_simple_statements", all [
    separated (literal ";") (symbol "_simple_statement"),
    optional (literal ";"),
    symbol "_newline"]),
  ("_simple_statement", anySymbol [
    "future_import_statement", "import_statement", "import_from_statement", "print_statement",
    "assert_statement", "expression_statement", "return_statement", "delete_statement",
    "raise_statement", "pass_statement", "break_statement", "continue_statement",
    "global_statement", "nonlocal_statement", "exec_statement", "type_alias_statement"]),
  ("import_statement", all [literal "import", symbol "_import_list"]),
  ("import_prefix", many (literal ".")),
  ("relative_import", all [symbol "import_prefix", optional (symbol "dotted_name")]),
  ("future_import_statement", all [
    literal "from", literal "__future__", literal "import",
    any [symbol "_import_list", parenthesized (symbol "_import_list")]]),
  ("import_from_statement", all [
    literal "from",
    field "module_name" (anySymbol ["relative_import", "dotted_name"]),
    literal "import",
    any [symbol "wildcard_import", symbol "_import_list",
      parenthesized (symbol "_import_list")]]),
  ("_import_list", commaEnded (field "name" (anySymbol ["dotted_name", "aliased_import"]))),
  ("aliased_import", all [
    field "name" (symbol "dotted_name"), literal "as", field "alias" (symbol "identifier")]),
  ("wildcard_import", literal "*"),
  ("print_statement", any [
    level 1 (all [
      literal "print", symbol "chevron",
      star (all [literal ",", field "argument" (symbol "expression")]),
      optional (literal ",")]),
    level (-3) (weighs (-1) (all [
      literal "print",
      commaSeparated (field "argument" (symbol "expression")),
      optional (literal ",")]))]),
  ("chevron", all [literal ">>", symbol "expression"]),
  ("assert_statement", all [literal "assert", commaSeparated (symbol "expression")]),
  ("expression_statement", any [
    symbol "expression",
    all [commaSeparated (symbol "expression"), optional (literal ",")],
    symbol "assignment",
    symbol "augmented_assignment",
    symbol "yield"]),
  ("named_expression", all [
    field "name" (symbol "_named_expression_lhs"), literal ":=",
    field "value" (symbol "expression")]),
  ("_named_expression_lhs", anySymbol ["identifier", "keyword_identifier"]),
  ("return_statement", all [literal "return", optional (symbol "_expressions")]),
  ("delete_statement", all [literal "del", symbol "_expressions"]),
  ("_expressions", anySymbol ["expression", "expression_list"]),
  ("raise_statement", all [
    literal "raise",
    optional (symbol "_expressions"),
    optional (all [literal "from", field "cause" (symbol "expression")])]),
  ("pass_statement", leanLeft 0 (literal "pass")),
  ("break_statement", leanLeft 0 (literal "break")),
  ("continue_statement", leanLeft 0 (literal "continue"))]

def compoundStatements : List (String × Rule) := [
  ("_compound_statement", anySymbol [
    "if_statement", "for_statement", "while_statement", "try_statement", "with_statement",
    "function_definition", "class_definition", "decorated_definition", "match_statement"]),
  ("if_statement", all [
    literal "if", field "condition" (symbol "expression"), literal ":",
    field "consequence" (symbol "_suite"),
    star (field "alternative" (symbol "elif_clause")),
    optional (field "alternative" (symbol "else_clause"))]),
  ("elif_clause", all [
    literal "elif", field "condition" (symbol "expression"), literal ":",
    field "consequence" (symbol "_suite")]),
  ("else_clause", all [literal "else", literal ":", field "body" (symbol "_suite")]),
  ("match_statement", all [
    literal "match",
    commaSeparated (field "subject" (symbol "expression")),
    optional (literal ","), literal ":",
    field "body" (shown "block" (symbol "_match_block"))]),
  ("_match_block", any [
    all [symbol "_indent", star (field "alternative" (symbol "case_clause")), symbol "_dedent"],
    symbol "_newline"]),
  ("case_clause", all [
    literal "case",
    commaSeparated (symbol "case_pattern"),
    optional (literal ","),
    optional (field "guard" (symbol "if_clause")),
    literal ":",
    field "consequence" (symbol "_suite")]),
  ("for_statement", all [
    optional (literal "async"), literal "for",
    field "left" (symbol "_left_hand_side"), literal "in",
    field "right" (symbol "_expressions"), literal ":",
    field "body" (symbol "_suite"),
    field "alternative" (optional (symbol "else_clause"))]),
  ("while_statement", all [
    literal "while", field "condition" (symbol "expression"), literal ":",
    field "body" (symbol "_suite"),
    optional (field "alternative" (symbol "else_clause"))]),
  ("try_statement", all [
    literal "try", literal ":", field "body" (symbol "_suite"),
    any [
      all [many (symbol "except_clause"), optional (symbol "else_clause"),
        optional (symbol "finally_clause")],
      all [many (symbol "except_group_clause"), optional (symbol "else_clause"),
        optional (symbol "finally_clause")],
      symbol "finally_clause"]]),
  ("except_clause", all [
    literal "except",
    optional (all [
      field "value" (symbol "expression"),
      optional (all [anyLiteral ["as", ","], field "alias" (symbol "expression")])]),
    literal ":", symbol "_suite"]),
  ("except_group_clause", all [
    literal "except*",
    all [symbol "expression", optional (all [literal "as", symbol "expression"])],
    literal ":", symbol "_suite"]),
  ("finally_clause", all [literal "finally", literal ":", symbol "_suite"]),
  ("with_statement", all [
    optional (literal "async"), literal "with", symbol "with_clause", literal ":",
    field "body" (symbol "_suite")]),
  ("with_clause", any [
    commaEnded (symbol "with_item"),
    all [literal "(", commaSeparated (symbol "with_item"), optional (literal ","), literal ")"]]),
  ("with_item", weighs 1 (field "value" (symbol "expression"))),
  ("function_definition", all [
    optional (literal "async"), literal "def", field "name" (symbol "identifier"),
    field "type_parameters" (optional (symbol "type_parameter")),
    field "parameters" (symbol "parameters"),
    optional (all [literal "->", field "return_type" (symbol "type")]),
    literal ":", field "body" (symbol "_suite")]),
  ("parameters", parenthesized (optional (symbol "_parameters"))),
  ("lambda_parameters", symbol "_parameters"),
  ("list_splat", all [literal "*", symbol "expression"]),
  ("dictionary_splat", all [literal "**", symbol "expression"]),
  ("global_statement", all [literal "global", commaSeparated (symbol "identifier")]),
  ("nonlocal_statement", all [literal "nonlocal", commaSeparated (symbol "identifier")]),
  ("exec_statement", all [
    literal "exec", field "code" (anySymbol ["string", "identifier"]),
    optional (all [literal "in", commaSeparated (symbol "expression")])]),
  ("type_alias_statement", weighs 1 (all [
    literal "type", field "left" (symbol "type"), literal "=", field "right" (symbol "type")])),
  ("class_definition", all [
    literal "class", field "name" (symbol "identifier"),
    field "type_parameters" (optional (symbol "type_parameter")),
    field "superclasses" (optional (symbol "argument_list")),
    literal ":", field "body" (symbol "_suite")]),
  ("type_parameter", all [
    literal "[", commaSeparated (symbol "type"), optional (literal ","), literal "]"]),
  ("parenthesized_list_splat", level Level.parenthesized (parenthesized (any [
    shown "parenthesized_expression" (symbol "parenthesized_list_splat"),
    symbol "list_splat"]))),
  ("argument_list", all [
    literal "(",
    optional (commaSeparated (any [
      symbol "expression", symbol "list_splat", symbol "dictionary_splat",
      shown "parenthesized_expression" (symbol "parenthesized_list_splat"),
      symbol "keyword_argument"])),
    optional (literal ","), literal ")"]),
  ("decorated_definition", all [
    many (symbol "decorator"),
    field "definition" (anySymbol ["class_definition", "function_definition"])]),
  ("decorator", all [literal "@", symbol "expression", symbol "_newline"]),
  ("_suite", any [
    shown "block" (symbol "_simple_statements"),
    all [symbol "_indent", symbol "block"],
    shown "block" (symbol "_newline")]),
  ("block", all [star (symbol "_statement"), symbol "_dedent"]),
  ("expression_list", leanRight 0 (all [
    symbol "expression",
    any [
      literal ",",
      all [many (all [literal ",", symbol "expression"]), optional (literal ",")]]])),
  ("dotted_name", level 1 (separated (literal ".") (symbol "identifier")))]

/-- The inside of a bracketed case pattern. -/
def casePatterns : Rule :=
  optional (all [commaSeparated (symbol "case_pattern"), optional (literal ",")])

def casePatternRules : List (String × Rule) := [
  ("case_pattern", level 1 (any [
    shown "as_pattern" (symbol "_as_pattern"),
    symbol "keyword_pattern",
    symbol "_simple_pattern"])),
  ("_simple_pattern", level 1 (any [
    symbol "class_pattern",
    symbol "splat_pattern",
    symbol "union_pattern",
    shown "list_pattern" (symbol "_list_pattern"),
    shown "tuple_pattern" (symbol "_tuple_pattern"),
    symbol "dict_pattern",
    symbol "string",
    symbol "concatenated_string",
    symbol "true",
    symbol "false",
    symbol "none",
    all [optional (literal "-"), anySymbol ["integer", "float"]],
    symbol "complex_pattern",
    symbol "dotted_name",
    literal "_"])),
  ("_as_pattern", all [symbol "case_pattern", literal "as", symbol "identifier"]),
  ("union_pattern", leanRight 0 (all [
    symbol "_simple_pattern",
    many (leanLeft 0 (all [literal "|", symbol "_simple_pattern"]))])),
  ("_list_pattern", bracketed casePatterns),
  ("_tuple_pattern", parenthesized casePatterns),
  ("dict_pattern", braced (optional (all [
    commaSeparated (anySymbol ["_key_value_pattern", "splat_pattern"]),
    optional (literal ",")]))),
  ("_key_value_pattern", all [
    field "key" (symbol "_simple_pattern"), literal ":",
    field "value" (symbol "case_pattern")]),
  ("keyword_pattern", all [symbol "identifier", literal "=", symbol "_simple_pattern"]),
  ("splat_pattern", level 1 (all [
    anyLiteral ["*", "**"], any [symbol "identifier", literal "_"]])),
  ("class_pattern", all [symbol "dotted_name", literal "(", casePatterns, literal ")"]),
  ("complex_pattern", level 1 (all [
    optional (literal "-"), anySymbol ["integer", "float"], anyLiteral ["+", "-"],
    anySymbol ["integer", "float"]]))]

/-- What may follow the stars of a splat pattern. -/
def splatTarget : Rule :=
  anySymbol ["identifier", "keyword_identifier", "subscript", "attribute"]

def patternRules : List (String × Rule) := [
  ("_parameters", commaEnded (symbol "parameter")),
  ("_patterns", commaEnded (symbol "pattern")),
  ("parameter", anySymbol [
    "identifier", "typed_parameter", "default_parameter", "typed_default_parameter",
    "list_splat_pattern", "tuple_pattern", "keyword_separator", "positional_separator",
    "dictionary_splat_pattern"]),
  ("pattern", anySymbol [
    "identifier", "keyword_identifier", "subscript", "attribute", "list_splat_pattern",
    "tuple_pattern", "list_pattern"]),
  ("tuple_pattern", parenthesized (optional (symbol "_patterns"))),
  ("list_pattern", bracketed (optional (symbol "_patterns"))),
  ("default_parameter", all [
    field "name" (anySymbol ["identifier", "tuple_pattern"]), literal "=",
    field "value" (symbol "expression")]),
  ("typed_default_parameter", level Level.typedParameter (all [
    field "name" (symbol "identifier"), literal ":", field "type" (symbol "type"), literal "=",
    field "value" (symbol "expression")])),
  ("list_splat_pattern", all [literal "*", splatTarget]),
  ("dictionary_splat_pattern", all [literal "**", splatTarget]),
  ("as_pattern", leanLeft 0 (all [
    symbol "expression", literal "as",
    field "alias" (shown "as_pattern_target" (symbol "expression"))]))]

/-- The binary operators with their levels. All but the power lean to the left. -/
def binaryOperators : List (String × Int) := [
  ("+", Level.plus), ("-", Level.plus), ("*", Level.times), ("@", Level.times),
  ("/", Level.times), ("%", Level.times), ("//", Level.times), ("**", Level.power),
  ("|", Level.bitwiseOr), ("&", Level.bitwiseAnd), ("^", Level.bitwiseXor), ("<<", Level.shift),
  (">>", Level.shift)]

def binaryOperation (operand : String) (operator : String) (n : Int) : Rule :=
  binds n (some (if operator = "**" then .right else .left)) (all [
    field "left" (symbol operand), field "operator" (literal operator),
    field "right" (symbol operand)])

def expressionRules : List (String × Rule) := [
  ("_expression_within_for_in_clause", any [
    symbol "expression", shown "lambda" (symbol "lambda_within_for_in_clause")]),
  ("expression", anySymbol [
    "comparison_operator", "not_operator", "boolean_operator", "lambda", "primary_expression",
    "conditional_expression", "named_expression", "as_pattern"]),
  ("primary_expression", any [
    anySymbol [
      "await", "binary_operator", "identifier", "keyword_identifier", "string",
      "concatenated_string", "integer", "float", "true", "false", "none", "unary_operator",
      "attribute", "subscript", "call", "list", "list_comprehension", "dictionary",
      "dictionary_comprehension", "set", "set_comprehension", "tuple",
      "parenthesized_expression", "generator_expression", "ellipsis"],
    shown "list_splat" (symbol "list_splat_pattern")]),
  ("not_operator", level Level.not (all [
    literal "not", field "argument" (symbol "expression")])),
  ("boolean_operator", any [
    binaryOperation "expression" "and" Level.and,
    binaryOperation "expression" "or" Level.or]),
  ("binary_operator", any (binaryOperators.map fun (operator, n) =>
    binaryOperation "primary_expression" operator n)),
  ("unary_operator", level Level.unary (all [
    field "operator" (anyLiteral ["+", "-", "~"]),
    field "argument" (symbol "primary_expression")])),
  ("_not_in", all [literal "not", literal "in"]),
  ("_is_not", all [literal "is", literal "not"]),
  ("comparison_operator", leanLeft Level.compare (all [
    symbol "primary_expression",
    many (all [
      field "operators" (any [
        anyLiteral ["<", "<=", "==", "!=", ">=", ">", "<>", "in"],
        shownAs "not in" false (symbol "_not_in"),
        literal "is",
        shownAs "is not" false (symbol "_is_not")]),
      symbol "primary_expression"])])),
  ("lambda", level Level.lambda (all [
    literal "lambda", field "parameters" (optional (symbol "lambda_parameters")), literal ":",
    field "body" (symbol "expression")])),
  ("lambda_within_for_in_clause", all [
    literal "lambda", field "parameters" (optional (symbol "lambda_parameters")), literal ":",
    field "body" (symbol "_expression_within_for_in_clause")]),
  ("assignment", all [
    field "left" (symbol "_left_hand_side"),
    any [
      all [literal "=", field "right" (symbol "_right_hand_side")],
      all [literal ":", field "type" (symbol "type")],
      all [literal ":", field "type" (symbol "type"), literal "=",
        field "right" (symbol "_right_hand_side")]]]),
  ("augmented_assignment", all [
    field "left" (symbol "_left_hand_side"),
    field "operator" (anyLiteral [
      "+=", "-=", "*=", "/=", "@=", "//=", "%=", "**=", ">>=", "<<=", "&=", "^=", "|="]),
    field "right" (symbol "_right_hand_side")]),
  ("_left_hand_side", anySymbol ["pattern", "pattern_list"]),
  ("pattern_list", all [
    symbol "pattern",
    any [
      literal ",",
      all [many (all [literal ",", symbol "pattern"]), optional (literal ",")]]]),
  ("_right_hand_side", anySymbol [
    "expression", "expression_list", "assignment", "augmented_assignment", "pattern_list",
    "yield"]),
  ("yield", leanRight 0 (all [
    literal "yield",
    any [
      all [literal "from", symbol "expression"],
      optional (symbol "_expressions")]])),
  ("attribute", level Level.call (all [
    field "object" (symbol "primary_expression"), literal ".",
    field "attribute" (symbol "identifier")])),
  ("subscript", level Level.call (all [
    field "value" (symbol "primary_expression"), literal "[",
    commaSeparated (field "subscript" (anySymbol ["expression", "slice"])),
    optional (literal ","), literal "]"])),
  ("slice", all [
    optional (symbol "expression"), literal ":", optional (symbol "expression"),
    optional (all [literal ":", optional (symbol "expression")])]),
  ("call", level Level.call (all [
    field "function" (symbol "primary_expression"),
    field "arguments" (anySymbol ["generator_expression", "argument_list"])])),
  ("typed_parameter", level Level.typedParameter (all [
    anySymbol ["identifier", "list_splat_pattern", "dictionary_splat_pattern"],
    literal ":", field "type" (symbol "type")])),
  ("type", any [
    level 1 (symbol "expression"),
    anySymbol ["splat_type", "generic_type", "union_type", "constrained_type", "member_type"]]),
  ("splat_type", level 1 (all [anyLiteral ["*", "**"], symbol "identifier"])),
  ("generic_type", level 1 (all [
    any [symbol "identifier", shown "identifier" (literal "type")],
    symbol "type_parameter"])),
  ("union_type", leanLeft 0 (all [symbol "type", literal "|", symbol "type"])),
  ("constrained_type", leanRight 0 (all [symbol "type", literal ":", symbol "type"])),
  ("member_type", all [symbol "type", literal ".", symbol "identifier"]),
  ("keyword_argument", all [
    field "name" (anySymbol ["identifier", "keyword_identifier"]), literal "=",
    field "value" (symbol "expression")])]

/-- An interpolated part of a string, between braces. -/
def interpolation : Rule := braced (all [
  field "expression" (symbol "_f_expression"),
  optional (literal "="),
  optional (field "type_conversion" (symbol "type_conversion")),
  optional (field "format_specifier" (symbol "format_specifier"))])

def literalRules : List (String × Rule) := [
  ("list", bracketed (optional (symbol "_collection_elements"))),
  ("set", braced (symbol "_collection_elements")),
  ("tuple", parenthesized (optional (symbol "_collection_elements"))),
  ("dictionary", all [
    literal "\x7b",
    optional (commaSeparated (anySymbol ["pair", "dictionary_splat"])),
    optional (literal ","), literal "\x7d"]),
  ("pair", all [
    field "key" (symbol "expression"), literal ":", field "value" (symbol "expression")]),
  ("list_comprehension", bracketed (all [
    field "body" (symbol "expression"), symbol "_comprehension_clauses"])),
  ("dictionary_comprehension", braced (all [
    field "body" (symbol "pair"), symbol "_comprehension_clauses"])),
  ("set_comprehension", braced (all [
    field "body" (symbol "expression"), symbol "_comprehension_clauses"])),
  ("generator_expression", parenthesized (all [
    field "body" (symbol "expression"), symbol "_comprehension_clauses"])),
  ("_comprehension_clauses", all [
    symbol "for_in_clause", star (anySymbol ["for_in_clause", "if_clause"])]),
  ("parenthesized_expression", level Level.parenthesized (parenthesized
    (anySymbol ["expression", "yield"]))),
  ("_collection_elements", commaEnded (anySymbol [
    "expression", "yield", "list_splat", "parenthesized_list_splat"])),
  ("for_in_clause", leanLeft 0 (all [
    optional (literal "async"), literal "for", field "left" (symbol "_left_hand_side"),
    literal "in",
    field "right" (commaSeparated (symbol "_expression_within_for_in_clause")),
    optional (literal ",")])),
  ("if_clause", all [literal "if", symbol "expression"]),
  ("conditional_expression", leanRight Level.conditional (all [
    symbol "expression", literal "if", symbol "expression", literal "else",
    symbol "expression"])),
  ("concatenated_string", all [symbol "string", many (symbol "string")]),
  ("string", all [
    symbol "string_start", star (anySymbol ["interpolation", "string_content"]),
    symbol "string_end"]),
  ("string_content", leanRight 0 (many (anySymbol [
    "escape_interpolation", "escape_sequence", "_not_escape_sequence", "_string_content"]))),
  ("interpolation", interpolation),
  ("_f_expression", anySymbol ["expression", "expression_list", "pattern_list", "yield"]),
  ("format_specifier", all [
    literal ":",
    star (any [symbol "_format_text", shown "format_expression" (symbol "interpolation")])]),
  ("keyword_identifier", any [
    level (-3) (shown "identifier" (anyLiteral ["print", "exec", "async", "await"])),
    shown "identifier" (anyLiteral ["type", "match"])]),
  ("await", level Level.unary (all [literal "await", symbol "primary_expression"])),
  ("positional_separator", literal "/"),
  ("keyword_separator", literal "*")]

/-- The grammar of Python, with the module as its start. -/
def description : Description where
  rules := simpleStatements ++ compoundStatements ++ casePatternRules ++ patternRules ++
    expressionRules ++ literalRules
  inlined := ["_simple_statement", "_compound_statement", "_suite", "_expressions",
    "_left_hand_side", "keyword_identifier"]
  transparent := ["expression", "primary_expression", "pattern", "parameter"]

end SourceMetrics.Python
