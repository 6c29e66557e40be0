/-
  TreeQuery.Language.Grammars

  The vocabulary of each language. Names of kinds, tokens, fields and supertypes are
  complete, and so are the kinds of tokens under `childless`. The children under `barred`
  are examples of what the parse tables exclude, known for the C and C++ grammar only:
  a query for any other child is accepted, and finds nothing where there can be none.
-/

import TreeQuery.Language.Basic
import TreeQuery.Language.Vocabulary

namespace TreeQuery

/-- The words of the C and C++ grammar. -/
def cppVocabulary : Vocabulary where
  named :=
    ["abstract_array_declarator", "abstract_function_declarator",
     "abstract_parenthesized_declarator", "abstract_pointer_declarator",
     "abstract_reference_declarator", "access_specifier", "alias_declaration",
     "alignas_qualifier", "alignof_expression", "argument_list", "array_declarator",
     "assignment_expression", "attribute", "attribute_declaration", "attribute_specifier",
     "attributed_declarator", "attributed_statement", "auto", "base_class_clause",
     "binary_expression", "bitfield_clause", "break_statement", "call_expression",
     "case_statement", "cast_expression", "catch_clause", "char_literal", "character",
     "class_specifier", "co_await_expression", "co_return_statement", "co_yield_statement",
     "comma_expression", "comment", "compound_literal_expression", "compound_requirement",
     "compound_statement", "concatenated_string", "concept_definition", "condition_clause",
     "conditional_expression", "constraint_conjunction", "constraint_disjunction",
     "continue_statement", "declaration", "declaration_list", "decltype", "default_method_clause",
     "delete_expression", "delete_method_clause", "dependent_name", "dependent_type",
     "destructor_name", "do_statement", "else_clause", "enum_specifier", "enumerator",
     "enumerator_list", "escape_sequence", "explicit_function_specifier", "expression_statement",
     "extension_expression", "false", "field_declaration", "field_declaration_list",
     "field_designator", "field_expression", "field_identifier", "field_initializer",
     "field_initializer_list", "fold_expression", "for_range_loop", "for_statement",
     "friend_declaration", "function_declarator", "function_definition", "generic_expression",
     "gnu_asm_clobber_list", "gnu_asm_expression", "gnu_asm_goto_list", "gnu_asm_input_operand",
     "gnu_asm_input_operand_list", "gnu_asm_output_operand", "gnu_asm_output_operand_list",
     "gnu_asm_qualifier", "goto_statement", "identifier", "if_statement", "init_declarator",
     "init_statement", "initializer_list", "initializer_pair", "labeled_statement",
     "lambda_capture_initializer", "lambda_capture_specifier", "lambda_default_capture",
     "lambda_expression", "linkage_specification", "literal_suffix", "ms_based_modifier",
     "ms_call_modifier", "ms_declspec_modifier", "ms_pointer_modifier", "ms_restrict_modifier",
     "ms_signed_ptr_modifier", "ms_unaligned_ptr_modifier", "ms_unsigned_ptr_modifier",
     "namespace_alias_definition", "namespace_definition", "namespace_identifier",
     "nested_namespace_specifier", "new_declarator", "new_expression", "noexcept", "null",
     "number_literal", "offsetof_expression", "operator_cast", "operator_name",
     "optional_parameter_declaration", "optional_type_parameter_declaration",
     "parameter_declaration", "parameter_list", "parameter_pack_expansion",
     "parenthesized_declarator", "parenthesized_expression", "placeholder_type_specifier",
     "pointer_declarator", "pointer_expression", "pointer_type_declarator", "preproc_arg",
     "preproc_call", "preproc_def", "preproc_defined", "preproc_directive", "preproc_elif",
     "preproc_elifdef", "preproc_else", "preproc_function_def", "preproc_if", "preproc_ifdef",
     "preproc_include", "preproc_params", "primitive_type", "pure_virtual_clause",
     "qualified_identifier", "raw_string_content", "raw_string_delimiter", "raw_string_literal",
     "ref_qualifier", "reference_declarator", "requirement_seq", "requires_clause",
     "requires_expression", "return_statement", "seh_except_clause", "seh_finally_clause",
     "seh_leave_statement", "seh_try_statement", "simple_requirement", "sized_type_specifier",
     "sizeof_expression", "statement_identifier", "static_assert_declaration",
     "storage_class_specifier", "string_content", "string_literal", "struct_specifier",
     "structured_binding_declarator", "subscript_argument_list", "subscript_designator",
     "subscript_expression", "subscript_range_designator", "switch_statement",
     "system_lib_string", "template_argument_list", "template_declaration", "template_function",
     "template_instantiation", "template_method", "template_parameter_list",
     "template_template_parameter_declaration", "template_type", "this", "throw_specifier",
     "throw_statement", "trailing_return_type", "translation_unit", "true", "try_statement",
     "type_definition", "type_descriptor", "type_identifier", "type_parameter_declaration",
     "type_qualifier", "type_requirement", "unary_expression", "union_specifier",
     "update_expression", "user_defined_literal", "using_declaration", "variadic_declarator",
     "variadic_parameter_declaration", "variadic_type_parameter_declaration", "virtual_specifier",
     "while_statement"]
  anonymous :=
    ["\n", "!", "!=", "\"", "\"\"", "#define", "#elif", "#elifdef", "#elifndef", "#else",
     "#endif", "#if", "#ifdef", "#ifndef", "#include", "%", "%=", "&", "&&", "&=", "'", "(", "()",
     ")", "*", "*=", "+", "++", "+=", ",", "-", "--", "-=", "->", "->*", ".", ".*", "...", "/",
     "/=", ":", "::", ";", "<", "<<", "<<=", "<=", "<=>", "=", "==", ">", ">=", ">>", ">>=", "?",
     "L\"", "L'", "LR\"", "NULL", "R\"", "U\"", "U'", "UR\"", "[", "[[", "[]", "]", "]]", "^",
     "^=", "_Alignas", "_Alignof", "_Atomic", "_Generic", "_Nonnull", "_Noreturn", "__alignof",
     "__alignof__", "__asm", "__asm__", "__attribute", "__attribute__", "__based", "__cdecl",
     "__clrcall", "__declspec", "__except", "__extension__", "__fastcall", "__finally",
     "__forceinline", "__inline", "__inline__", "__leave", "__restrict__", "__stdcall",
     "__thiscall", "__thread", "__try", "__unaligned", "__vectorcall", "__volatile__", "_alignof",
     "_unaligned", "alignas", "alignof", "and", "and_eq", "asm", "bitand", "bitor", "break",
     "case", "catch", "class", "co_await", "co_return", "co_yield", "compl", "concept", "const",
     "consteval", "constexpr", "constinit", "continue", "decltype", "default", "defined",
     "delete", "do", "else", "enum", "explicit", "extern", "final", "for", "friend", "goto", "if",
     "inline", "long", "mutable", "namespace", "new", "noexcept", "noreturn", "not", "not_eq",
     "nullptr", "offsetof", "operator", "or", "or_eq", "override", "private", "protected",
     "public", "register", "requires", "restrict", "return", "short", "signed", "sizeof",
     "static", "static_assert", "struct", "switch", "template", "thread_local", "throw", "try",
     "typedef", "typename", "u\"", "u'", "u8\"", "u8'", "u8R\"", "uR\"", "union", "unsigned",
     "using", "virtual", "volatile", "while", "xor", "xor_eq", "\x7b", "|", "|=", "||", "\x7d",
     "~"]
  fields :=
    ["alternative", "argument", "arguments", "assembly_code", "base", "body", "captures",
     "clobbers", "condition", "consequence", "constraint", "declarator", "default_type",
     "default_value", "delimiter", "designator", "directive", "end", "field", "filter",
     "function", "goto_labels", "indices", "initializer", "input_operands", "label", "left",
     "length", "member", "message", "name", "operand", "operator", "output_operands",
     "parameters", "path", "pattern", "placement", "prefix", "register", "requirements", "right",
     "scope", "size", "start", "symbol", "template_parameters", "type", "update", "value"]
  supertypes :=
    [("_abstract_declarator", []),
     ("_declarator", []),
     ("_field_declarator", []),
     ("_type_declarator", []),
     ("expression", []),
     ("statement", []),
     ("type_specifier", [])]
  childless :=
    ["auto", "character", "comment", "escape_sequence", "false", "field_identifier", "identifier",
     "literal_suffix", "ms_restrict_modifier", "ms_signed_ptr_modifier", "ms_unsigned_ptr_modifier",
     "namespace_identifier", "number_literal", "preproc_arg", "preproc_directive", "primitive_type",
     "raw_string_content", "raw_string_delimiter", "statement_identifier", "string_content",
     "system_lib_string", "this", "true", "type_identifier"]
  barred :=
    [⟨"field_expression", some "field", "number_literal"⟩,
     ⟨"parameter_list", none, "number_literal"⟩,
     ⟨"call_expression", some "arguments", "identifier"⟩,
     ⟨"translation_unit", none, "parameter_list"⟩,
     ⟨"argument_list", none, "parameter_declaration"⟩,
     ⟨"break_statement", none, "identifier"⟩]

/-- The words of the Rust grammar. -/
def rustVocabulary : Vocabulary where
  named :=
    ["abstract_type", "arguments", "array_expression", "array_type", "assignment_expression",
     "associated_type", "async_block", "attribute", "attribute_item", "await_expression",
     "base_field_initializer", "binary_expression", "block", "block_comment", "boolean_literal",
     "bounded_type", "bracketed_type", "break_expression", "call_expression", "captured_pattern",
     "char_literal", "closure_expression", "closure_parameters", "compound_assignment_expr",
     "const_block", "const_item", "const_parameter", "continue_expression", "crate",
     "declaration_list", "doc_comment", "dynamic_type", "else_clause", "empty_statement",
     "enum_item", "enum_variant", "enum_variant_list", "escape_sequence", "expression_statement",
     "extern_crate_declaration", "extern_modifier", "field_declaration", "field_declaration_list",
     "field_expression", "field_identifier", "field_initializer", "field_initializer_list",
     "field_pattern", "float_literal", "for_expression", "for_lifetimes", "foreign_mod_item",
     "fragment_specifier", "function_item", "function_modifiers", "function_signature_item",
     "function_type", "gen_block", "generic_function", "generic_pattern", "generic_type",
     "generic_type_with_turbofish", "higher_ranked_trait_bound", "identifier", "if_expression",
     "impl_item", "index_expression", "inner_attribute_item", "inner_doc_comment_marker",
     "integer_literal", "label", "let_chain", "let_condition", "let_declaration", "lifetime",
     "lifetime_parameter", "line_comment", "loop_expression", "macro_definition",
     "macro_invocation", "macro_rule", "match_arm", "match_block", "match_expression",
     "match_pattern", "metavariable", "mod_item", "mut_pattern", "mutable_specifier",
     "negative_literal", "never_type", "or_pattern", "ordered_field_declaration_list",
     "outer_doc_comment_marker", "parameter", "parameters", "parenthesized_expression",
     "pointer_type", "primitive_type", "qualified_type", "range_expression", "range_pattern",
     "raw_string_literal", "ref_pattern", "reference_expression", "reference_pattern",
     "reference_type", "remaining_field_pattern", "removed_trait_bound", "return_expression",
     "scoped_identifier", "scoped_type_identifier", "scoped_use_list", "self", "self_parameter",
     "shebang", "shorthand_field_identifier", "shorthand_field_initializer", "slice_pattern",
     "source_file", "static_item", "string_content", "string_literal", "struct_expression",
     "struct_item", "struct_pattern", "super", "token_binding_pattern", "token_repetition",
     "token_repetition_pattern", "token_tree", "token_tree_pattern", "trait_bounds", "trait_item",
     "try_block", "try_expression", "tuple_expression", "tuple_pattern", "tuple_struct_pattern",
     "tuple_type", "type_arguments", "type_binding", "type_cast_expression", "type_identifier",
     "type_item", "type_parameter", "type_parameters", "unary_expression", "union_item",
     "unit_expression", "unit_type", "unsafe_block", "use_as_clause", "use_bounds",
     "use_declaration", "use_list", "use_wildcard", "variadic_parameter", "visibility_modifier",
     "where_clause", "where_predicate", "while_expression", "yield_expression"]
  anonymous :=
    ["!", "!=", "\"", "#", "$", "%", "%=", "&", "&&", "&=", "'", "(", ")", "*", "*/", "*=", "+",
     "+=", ",", "-", "-=", "->", ".", "..", "...", "..=", "/", "/*", "//", "/=", ":", "::", ";",
     "<", "<<", "<<=", "<=", "=", "==", "=>", ">", ">=", ">>", ">>=", "?", "@", "[", "]", "^",
     "^=", "_", "as", "async", "await", "block", "break", "const", "continue", "default", "dyn",
     "else", "enum", "expr", "expr_2021", "extern", "false", "fn", "for", "gen", "ident", "if",
     "impl", "in", "item", "let", "lifetime", "literal", "loop", "macro_rules!", "match", "meta",
     "mod", "move", "pat", "pat_param", "path", "pub", "raw", "ref", "return", "static", "stmt",
     "struct", "trait", "true", "try", "tt", "ty", "type", "union", "unsafe", "use", "vis",
     "where", "while", "yield", "\x7b", "|", "|=", "||", "\x7d"]
  fields :=
    ["alias", "alternative", "argument", "arguments", "body", "bounds", "condition",
     "consequence", "default_type", "doc", "element", "field", "function", "inner", "left",
     "length", "list", "macro", "name", "operator", "outer", "parameters", "path", "pattern",
     "return_type", "right", "trait", "type", "type_arguments", "type_parameters", "value"]
  supertypes :=
    [("_expression",
      ["_literal", "array_expression", "assignment_expression", "async_block", "await_expression",
       "binary_expression", "block", "break_expression", "call_expression", "closure_expression",
       "compound_assignment_expr", "const_block", "continue_expression", "field_expression",
       "for_expression", "gen_block", "generic_function", "identifier", "if_expression",
       "index_expression", "loop_expression", "macro_invocation", "match_expression",
       "metavariable", "parenthesized_expression", "range_expression", "reference_expression",
       "return_expression", "scoped_identifier", "self", "struct_expression", "try_block",
       "try_expression", "tuple_expression", "type_cast_expression", "unary_expression",
       "unit_expression", "unsafe_block", "while_expression", "yield_expression"]),
     ("_literal",
      ["boolean_literal", "char_literal", "float_literal", "integer_literal",
       "raw_string_literal", "string_literal"]),
     ("_literal_pattern",
      ["boolean_literal", "char_literal", "float_literal", "integer_literal", "negative_literal",
       "raw_string_literal", "string_literal"]),
     ("_pattern",
      ["_", "_literal_pattern", "captured_pattern", "const_block", "generic_pattern",
       "identifier", "macro_invocation", "mut_pattern", "or_pattern", "range_pattern",
       "ref_pattern", "reference_pattern", "remaining_field_pattern", "scoped_identifier",
       "slice_pattern", "struct_pattern", "tuple_pattern", "tuple_struct_pattern"]),
     ("_type",
      ["abstract_type", "array_type", "bounded_type", "dynamic_type", "function_type",
       "generic_type", "macro_invocation", "metavariable", "never_type", "pointer_type",
       "primitive_type", "reference_type", "removed_trait_bound", "scoped_type_identifier",
       "tuple_type", "type_identifier", "unit_type"])]
  childless :=
    ["char_literal", "crate", "doc_comment", "escape_sequence", "field_identifier", "float_literal",
     "identifier", "integer_literal", "metavariable", "mutable_specifier", "primitive_type", "self",
     "shebang", "shorthand_field_identifier", "string_content", "super", "type_identifier"]
  barred := []

/-- The words of the Python grammar. -/
def pythonVocabulary : Vocabulary where
  named :=
    ["aliased_import", "argument_list", "as_pattern", "as_pattern_target", "assert_statement",
     "assignment", "attribute", "augmented_assignment", "await", "binary_operator", "block",
     "boolean_operator", "break_statement", "call", "case_clause", "case_pattern", "chevron",
     "class_definition", "class_pattern", "comment", "comparison_operator", "complex_pattern",
     "concatenated_string", "conditional_expression", "constrained_type", "continue_statement",
     "decorated_definition", "decorator", "default_parameter", "delete_statement", "dict_pattern",
     "dictionary", "dictionary_comprehension", "dictionary_splat", "dictionary_splat_pattern",
     "dotted_name", "elif_clause", "ellipsis", "else_clause", "escape_interpolation",
     "escape_sequence", "except_clause", "exec_statement", "expression_list",
     "expression_statement", "false", "finally_clause", "float", "for_in_clause", "for_statement",
     "format_expression", "format_specifier", "function_definition", "future_import_statement",
     "generator_expression", "generic_type", "global_statement", "identifier", "if_clause",
     "if_statement", "import_from_statement", "import_prefix", "import_statement", "integer",
     "interpolation", "keyword_argument", "keyword_pattern", "keyword_separator", "lambda",
     "lambda_parameters", "line_continuation", "list", "list_comprehension", "list_pattern",
     "list_splat", "list_splat_pattern", "match_statement", "member_type", "module",
     "named_expression", "none", "nonlocal_statement", "not_operator", "pair", "parameters",
     "parenthesized_expression", "parenthesized_list_splat", "pass_statement", "pattern_list",
     "positional_separator", "print_statement", "raise_statement", "relative_import",
     "return_statement", "set", "set_comprehension", "slice", "splat_pattern", "splat_type",
     "string", "string_content", "string_end", "string_start", "subscript", "true",
     "try_statement", "tuple", "tuple_pattern", "type", "type_alias_statement", "type_conversion",
     "type_parameter", "typed_default_parameter", "typed_parameter", "unary_operator",
     "union_pattern", "union_type", "while_statement", "wildcard_import", "with_clause",
     "with_item", "with_statement", "yield"]
  anonymous :=
    ["!=", "%", "%=", "&", "&=", "(", ")", "*", "**", "**=", "*=", "+", "+=", ",", "-", "-=",
     "->", ".", "/", "//", "//=", "/=", ":", ":=", ";", "<", "<<", "<<=", "<=", "<>", "=", "==",
     ">", ">=", ">>", ">>=", "@", "@=", "[", "\\", "]", "^", "^=", "_", "__future__", "and", "as",
     "assert", "async", "await", "break", "case", "class", "continue", "def", "del", "elif",
     "else", "except", "exec", "finally", "for", "from", "global", "if", "import", "in", "is",
     "is not", "lambda", "match", "nonlocal", "not", "not in", "or", "pass", "print", "raise",
     "return", "try", "type", "while", "with", "yield", "\x7b", "|", "|=", "\x7d", "~"]
  fields :=
    ["alias", "alternative", "argument", "arguments", "attribute", "body", "cause", "code",
     "condition", "consequence", "definition", "expression", "format_specifier", "function",
     "guard", "key", "left", "module_name", "name", "object", "operator", "operators",
     "parameters", "return_type", "right", "subject", "subscript", "superclasses", "type",
     "type_conversion", "type_parameters", "value"]
  supertypes :=
    [("expression",
      ["as_pattern", "boolean_operator", "comparison_operator", "conditional_expression",
       "lambda", "named_expression", "not_operator", "primary_expression"]),
     ("parameter",
      ["default_parameter", "dictionary_splat_pattern", "identifier", "keyword_separator",
       "list_splat_pattern", "positional_separator", "tuple_pattern", "typed_default_parameter",
       "typed_parameter"]),
     ("pattern",
      ["attribute", "identifier", "list_pattern", "list_splat_pattern", "subscript",
       "tuple_pattern"]),
     ("primary_expression",
      ["attribute", "await", "binary_operator", "call", "concatenated_string", "dictionary",
       "dictionary_comprehension", "ellipsis", "false", "float", "generator_expression",
       "identifier", "integer", "list", "list_comprehension", "list_splat", "none",
       "parenthesized_expression", "set", "set_comprehension", "string", "subscript", "true",
       "tuple", "unary_operator"])]
  childless :=
    ["comment", "ellipsis", "escape_interpolation", "escape_sequence", "false", "float",
     "identifier", "integer", "line_continuation", "none", "string_end", "string_start", "true",
     "type_conversion"]
  barred := []

/-- The words of the TypeScript grammar. -/
def typescriptVocabulary : Vocabulary where
  named :=
    ["abstract_class_declaration", "abstract_method_signature", "accessibility_modifier",
     "adding_type_annotation", "ambient_declaration", "arguments", "array", "array_pattern",
     "array_type", "arrow_function", "as_expression", "asserts", "asserts_annotation",
     "assignment_expression", "assignment_pattern", "augmented_assignment_expression",
     "await_expression", "binary_expression", "break_statement", "call_expression",
     "call_signature", "catch_clause", "class", "class_body", "class_declaration",
     "class_heritage", "class_static_block", "comment", "computed_property_name",
     "conditional_type", "constraint", "construct_signature", "constructor_type",
     "continue_statement", "debugger_statement", "decorator", "default_type", "do_statement",
     "else_clause", "empty_statement", "enum_assignment", "enum_body", "enum_declaration",
     "escape_sequence", "existential_type", "export_clause", "export_specifier",
     "export_statement", "expression_statement", "extends_clause", "extends_type_clause", "false",
     "finally_clause", "flow_maybe_type", "for_in_statement", "for_statement",
     "formal_parameters", "function_declaration", "function_expression", "function_signature",
     "function_type", "generator_function", "generator_function_declaration", "generic_type",
     "hash_bang_line", "html_character_reference", "html_comment", "identifier", "if_statement",
     "implements_clause", "import", "import_alias", "import_attribute", "import_clause",
     "import_require_clause", "import_specifier", "import_statement", "index_signature",
     "index_type_query", "infer_type", "instantiation_expression", "interface_body",
     "interface_declaration", "internal_module", "intersection_type", "jsx_attribute",
     "jsx_closing_element", "jsx_element", "jsx_expression", "jsx_namespace_name",
     "jsx_opening_element", "jsx_self_closing_element", "jsx_text", "labeled_statement",
     "lexical_declaration", "literal_type", "lookup_type", "mapped_type_clause",
     "member_expression", "meta_property", "method_definition", "method_signature", "module",
     "named_imports", "namespace_export", "namespace_import", "nested_identifier",
     "nested_type_identifier", "new_expression", "non_null_expression", "null", "number",
     "object", "object_assignment_pattern", "object_pattern", "object_type",
     "omitting_type_annotation", "opting_type_annotation", "optional_chain", "optional_parameter",
     "optional_type", "override_modifier", "pair", "pair_pattern", "parenthesized_expression",
     "parenthesized_type", "predefined_type", "private_property_identifier", "program",
     "property_identifier", "property_signature", "public_field_definition", "readonly_type",
     "regex", "regex_flags", "regex_pattern", "required_parameter", "rest_pattern", "rest_type",
     "return_statement", "satisfies_expression", "sequence_expression",
     "shorthand_property_identifier", "shorthand_property_identifier_pattern", "spread_element",
     "statement_block", "statement_identifier", "string", "string_fragment",
     "subscript_expression", "super", "switch_body", "switch_case", "switch_default",
     "switch_statement", "template_literal_type", "template_string", "template_substitution",
     "template_type", "ternary_expression", "this", "this_type", "throw_statement", "true",
     "try_statement", "tuple_type", "type_alias_declaration", "type_annotation", "type_arguments",
     "type_identifier", "type_parameter", "type_parameters", "type_predicate",
     "type_predicate_annotation", "type_query", "unary_expression", "undefined", "union_type",
     "update_expression", "variable_declaration", "variable_declarator", "while_statement",
     "with_statement", "yield_expression"]
  anonymous :=
    ["!", "!=", "!==", "\"", "$\x7b", "%", "%=", "&", "&&", "&&=", "&=", "'", "(", ")", "*", "**",
     "**=", "*=", "+", "++", "+=", "+?:", ",", "-", "--", "-=", "-?:", ".", "...", "/", "/=",
     "/>", ":", ";", "<", "</", "<<", "<<=", "<=", "=", "==", "===", "=>", ">", ">=", ">>", ">>=",
     ">>>", ">>>=", "?", "?.", "?:", "??", "??=", "@", "[", "]", "^", "^=", "`", "abstract",
     "accessor", "any", "as", "assert", "asserts", "async", "await", "boolean", "break", "case",
     "catch", "class", "const", "continue", "debugger", "declare", "default", "delete", "do",
     "else", "enum", "export", "extends", "finally", "for", "from", "function", "get", "global",
     "if", "implements", "import", "in", "infer", "instanceof", "interface", "is", "keyof", "let",
     "meta", "module", "namespace", "never", "new", "number", "object", "of", "override",
     "private", "protected", "public", "readonly", "require", "return", "satisfies", "set",
     "static", "string", "switch", "symbol", "target", "throw", "try", "type", "typeof",
     "unique symbol", "unknown", "using", "var", "void", "while", "with", "yield", "\x7b",
     "\x7b|", "|", "|=", "||", "||=", "|\x7d", "\x7d", "~"]
  fields :=
    ["alias", "alternative", "argument", "arguments", "attribute", "body", "close_tag",
     "condition", "consequence", "constraint", "constructor", "declaration", "decorator",
     "finalizer", "flags", "function", "handler", "increment", "index", "index_type",
     "initializer", "key", "kind", "label", "left", "module", "name", "object", "open_tag",
     "operator", "optional_chain", "parameter", "parameters", "pattern", "property",
     "return_type", "right", "sign", "source", "type", "type_arguments", "type_parameters",
     "value"]
  supertypes :=
    [("declaration", []),
     ("expression", []),
     ("pattern", []),
     ("primary_expression", []),
     ("primary_type", []),
     ("statement", []),
     ("type", [])]
  childless :=
    ["comment", "escape_sequence", "false", "hash_bang_line", "html_character_reference",
     "html_comment", "identifier", "jsx_text", "null", "number", "private_property_identifier",
     "property_identifier", "regex_flags", "regex_pattern", "shorthand_property_identifier",
     "shorthand_property_identifier_pattern", "statement_identifier", "string_fragment", "super",
     "this", "this_type", "true", "type_identifier", "undefined"]
  barred := []

/-- The vocabulary of a language. -/
def Language.vocabulary : Language → Vocabulary
  | .cpp => cppVocabulary
  | .rust => rustVocabulary
  | .python => pythonVocabulary
  | .typescript => typescriptVocabulary

end TreeQuery
