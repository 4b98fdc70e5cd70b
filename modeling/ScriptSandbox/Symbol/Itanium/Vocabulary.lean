import ScriptSandbox.Symbol.Itanium.Node

/-!
# The vocabulary of symbols

The types, names and operators that have a code of their own in the Itanium binary interface.

## Main definitions

* `Itanium.builtinTypes`: the types
* `Itanium.abbreviations`: the names
* `Itanium.operators`: the operators
-/

namespace ScriptSandbox.Symbol.Itanium

/-- The types that have a code. -/
def builtinTypes : List (String × String) :=
  [("v", "void"), ("w", "wchar_t"), ("b", "bool"), ("c", "char"), ("a", "signed char"),
    ("h", "unsigned char"), ("s", "short"), ("t", "unsigned short"), ("i", "int"),
    ("j", "unsigned int"), ("l", "long"), ("m", "unsigned long"), ("x", "long long"),
    ("y", "unsigned long long"), ("n", "__int128"), ("o", "unsigned __int128"), ("f", "float"),
    ("d", "double"), ("e", "long double"), ("g", "__float128"), ("z", "..."),
    ("Dd", "decimal64"), ("De", "decimal128"), ("Df", "decimal32"), ("Dh", "half"),
    ("Di", "char32_t"), ("Ds", "char16_t"), ("Du", "char8_t"), ("Da", "auto"),
    ("Dc", "decltype(auto)"), ("Dn", "std::nullptr_t")]

/-- The names that have a code, with their last parts. -/
def abbreviations : List (String × Node) :=
  [("St", .abbreviated "std" "std"),
    ("Sa", .abbreviated "std::allocator" "allocator"),
    ("Sb", .abbreviated "std::basic_string" "basic_string"),
    ("Ss", .abbreviated "std::string" "string"),
    ("Si", .abbreviated "std::basic_istream<char, std::char_traits<char> >" "basic_istream"),
    ("So", .abbreviated "std::ostream" "ostream"),
    ("Sd", .abbreviated "std::basic_iostream<char, std::char_traits<char> >" "basic_iostream")]

/-- An operator that has a code. -/
structure Operator where
  code : String
  symbol : String
  /-- The number of operands. -/
  arity : Nat
  deriving Repr, DecidableEq

/-- The operators that have a code. -/
def operators : List Operator :=
  [⟨"nw", "new", 3⟩, ⟨"na", "new[]", 3⟩, ⟨"dl", "delete", 1⟩, ⟨"da", "delete[]", 1⟩,
    ⟨"ps", "+", 1⟩, ⟨"ng", "-", 1⟩, ⟨"ad", "&", 1⟩, ⟨"de", "*", 1⟩, ⟨"co", "~", 1⟩,
    ⟨"pl", "+", 2⟩, ⟨"mi", "-", 2⟩, ⟨"ml", "*", 2⟩, ⟨"dv", "/", 2⟩, ⟨"rm", "%", 2⟩,
    ⟨"an", "&", 2⟩, ⟨"or", "|", 2⟩, ⟨"eo", "^", 2⟩, ⟨"aS", "=", 2⟩, ⟨"pL", "+=", 2⟩,
    ⟨"mI", "-=", 2⟩, ⟨"mL", "*=", 2⟩, ⟨"dV", "/=", 2⟩, ⟨"rM", "%=", 2⟩, ⟨"aN", "&=", 2⟩,
    ⟨"oR", "|=", 2⟩, ⟨"eO", "^=", 2⟩, ⟨"ls", "<<", 2⟩, ⟨"rs", ">>", 2⟩, ⟨"lS", "<<=", 2⟩,
    ⟨"rS", ">>=", 2⟩, ⟨"eq", "==", 2⟩, ⟨"ne", "!=", 2⟩, ⟨"lt", "<", 2⟩, ⟨"gt", ">", 2⟩,
    ⟨"le", "<=", 2⟩, ⟨"ge", ">=", 2⟩, ⟨"nt", "!", 1⟩, ⟨"aa", "&&", 2⟩, ⟨"oo", "||", 2⟩,
    ⟨"pp", "++", 1⟩, ⟨"mm", "--", 1⟩, ⟨"cm", ",", 2⟩, ⟨"pm", "->*", 2⟩, ⟨"pt", "->", 2⟩,
    ⟨"cl", "()", 2⟩, ⟨"ix", "[]", 2⟩, ⟨"qu", "?:", 3⟩, ⟨"ss", "<=>", 2⟩]

/-- What is written for integers of a type behind their digits. -/
def integerEndings : List (String × String) :=
  [("int", ""), ("unsigned int", "u"), ("long", "l"), ("unsigned long", "ul"), ("long long", "ll"),
    ("unsigned long long", "ull")]

/-- The types whose constants are bits in hexadecimal. -/
def floatTypes : List String := ["float", "double", "long double", "__float128"]

end ScriptSandbox.Symbol.Itanium
