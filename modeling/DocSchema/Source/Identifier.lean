import DocSchema.Text.Words

/-!
# Identifiers of generated code

Names of a document become Rust identifiers: a class name a type in camel case, a class or member
name a module or field in snake case. A name that would be empty or begin with a digit gets a
letter in front, a keyword is written raw where the language allows it, and a type that would hide
one of the names in use gets another ending.
-/

namespace DocSchema.Source

/-- The keywords that may be written as raw identifiers. -/
def rawKeywords : List String := [
  "abstract", "as", "async", "await", "become", "box", "break", "const", "continue", "do", "dyn",
  "else", "enum", "extern", "false", "final", "fn", "for", "gen", "if", "impl", "in", "let", "loop",
  "macro", "match", "mod", "move", "mut", "override", "priv", "pub", "ref", "return", "static",
  "struct", "trait", "true", "try", "type", "typeof", "unsafe", "unsized", "use", "virtual",
  "where", "while", "yield"]

/-- The keywords that cannot be written even as raw identifiers. -/
def pathKeywords : List String := ["crate", "self", "super", "Self"]

/-- The types and traits that generated code uses by their bare names. -/
def reservedTypes : List String := [
  "AsMut", "AsRef", "Box", "Clone", "Copy", "Default", "DoubleEndedIterator", "Drop", "Eq", "Err",
  "ExactSizeIterator", "Extend", "Fn", "FnMut", "FnOnce", "From", "FromIterator", "IndexMap",
  "Into", "IntoIterator", "Iterator", "None", "Ok", "Option", "Ord", "PartialEq", "PartialOrd",
  "Result", "Self", "Send", "Sized", "Some", "String", "Sync", "ToOwned", "ToString", "TryFrom",
  "TryInto", "Unpin", "Vec"]

/-- The text is empty or begins with an ASCII digit. -/
def needsLetter (text : String) : Bool :=
  match text.toList with
  | [] => true
  | c :: _ => c.isDigit

/-- The type of a class. -/
def typeName (className : String) : String :=
  let camel := Text.camelCase className
  if needsLetter camel then "C" ++ camel
  else if reservedTypes.contains camel then camel ++ "Class"
  else camel

/-- The identifier of a field or module. -/
def fieldName (name : String) : String :=
  let snake := Text.snakeCase name
  if needsLetter snake then "f_" ++ snake
  else if pathKeywords.contains snake then snake ++ "_"
  else if rawKeywords.contains snake then "r#" ++ snake
  else snake

/-- A name as a part of longer identifiers, where a keyword needs no mark. -/
def bareName (name : String) : String :=
  let snake := Text.snakeCase name
  if needsLetter snake then "f_" ++ snake
  else if pathKeywords.contains snake then snake ++ "_"
  else snake

/-- The path of a module in its namespace. -/
def modulePath (namespaceName moduleName : String) : String :=
  if namespaceName.isEmpty then moduleName else namespaceName ++ "::" ++ moduleName

end DocSchema.Source
