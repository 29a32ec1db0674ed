import DocSchema.Source.Code
import DocSchema.Source.Module

/-!
# The text of generated modules

`Module.text` writes a generated module as Rust source: comments, imports, the struct, its
constructor and accessors, its dump as a `Display`, and the helper for untyped values where
something calls it. The text depends on the module alone.
-/

namespace DocSchema.Source

open Code

/-- The type of the values of a kind. -/
def kindType : Kind → String
  | .string => "String"
  | .number => "f64"
  | .boolean => "bool"
  | .any => "serde_json::Value"

namespace FieldType

/-- A field type in code. -/
def text : FieldType → String
  | value kind => s!"Option<{kindType kind}>"
  | single target => s!"Option<Box<{target}>>"
  | sequence target => s!"Vec<{target}>"
  | table target => s!"IndexMap<String, {target}>"

/-- What a field holds in a new object, unless a parameter gives it. -/
def initial : FieldType → String
  | value _ => "None"
  | single _ => "None"
  | sequence _ => "Vec::new()"
  | table _ => "IndexMap::new()"

end FieldType

/-- The key of an item in code. -/
def IndexKey.expression (item : String) : IndexKey → String
  | none => "String::new()"
  | text field => s!"{item}.{field}.clone().unwrap_or_default()"
  | shown field => s!"{item}.{field}.map(|value| value.to_string()).unwrap_or_default()"
  | rendered field => s!"{item}.{field}.as_ref().map(render_value).unwrap_or_default()"

namespace Accessors

/-- The parameter that an accessor takes an item by. -/
def item (a : Accessors) : String := "a_" ++ a.name

/-- The accessor that adds an item. -/
def adder (a : Accessors) (body : List Code) : Code :=
  block s!"pub fn add_{a.name}(&mut self, {a.item}: {a.target})" body

/-- The accessor that removes an item, given its parameter. -/
def remover (a : Accessors) (parameter : String) (body : List Code) : Code :=
  block s!"pub fn remove_{a.name}(&mut self, {parameter}: &{a.target})" body

/-- The accessor that iterates over the items. -/
def iterator (a : Accessors) (body : String) : Code :=
  block s!"pub fn iter_{a.name}(&self) -> impl Iterator<Item = &{a.target}> + '_" [line body]

/-- The accessors of a relationship with one object at most. -/
def singleCode (a : Accessors) : List Code := [
  blank,
  a.adder [line s!"self.{a.field} = Some(Box::new({a.item}));"],
  blank,
  a.remover a.item [
    block s!"if self.{a.field}.as_deref() == Some({a.item})" [line s!"self.{a.field} = None;"]],
  blank,
  a.iterator s!"self.{a.field}.as_deref().into_iter()"]

/-- The accessors of a sequence. -/
def sequenceCode (a : Accessors) : List Code := [
  blank,
  a.adder [line s!"self.{a.field}.push({a.item});"],
  blank,
  a.remover a.item [
    block s!"if let Some(position) = self.{a.field}.iter().position(|item| item == {a.item})" [
      line s!"self.{a.field}.remove(position);"]],
  blank,
  a.iterator s!"self.{a.field}.iter()"]

/-- The accessors of a table. Where every key is empty the item to remove is not used, and its
parameter says so. -/
def tableCode (a : Accessors) (lookupName : String) (key : IndexKey) : List Code :=
  -- An unused parameter begins with an underscore.
  let removed := if key = .none then "_" ++ a.item else a.item
  [blank,
    a.adder [
      line s!"let key: String = {key.expression a.item};",
      line s!"self.{a.field}.insert(key, {a.item});"],
    blank,
    a.remover removed [
      line s!"let key: String = {key.expression removed};",
      line s!"self.{a.field}.shift_remove(&key);"],
    blank,
    a.iterator s!"self.{a.field}.values()",
    blank,
    line "#[must_use]",
    block s!"pub fn get_{a.name}_with_{lookupName}(&self, key: &str) -> Option<&{a.target}>" [
      line s!"self.{a.field}.get(key)"]]

/-- The accessors of a relationship. -/
def code (a : Accessors) : List Code :=
  match a.access with
  | .single => a.singleCode
  | .sequence => a.sequenceCode
  | .table lookupName key => a.tableCode lookupName key

end Accessors

/-- The statements that add a part to the dump. -/
def DumpPart.code : DumpPart → List Code
  | value label field => [
      block s!"if let Some(value) = &self.{field}" [
        line ("parts.push(format!(\"" ++ label ++ ": \x7bvalue\x7d\"));")]]
  | rendered label field => [
      block s!"if let Some(value) = self.{field}.as_ref().filter(|value| !value.is_null())" [
        line ("parts.push(format!(\"" ++ label ++ ": \x7b\x7d\", render_value(value)));")]]
  | objects label field table =>
    let elements := if table then "values()" else "iter()"
    [line (s!"let items: Vec<String> = self.{field}.{elements}" ++
        ".map(|item| format!(\"\x7b\x7b\x7bitem\x7d\x7d\x7d\")).collect();"),
      block "if !items.is_empty()" [
        line ("parts.push(format!(\"" ++ label ++ ": [\x7b\x7d]\", items.join(\", \")));")]]

/-- The helper that renders untyped values. -/
def helperCode : List Code := [
  blank,
  block "fn render_value(value: &serde_json::Value) -> String" [
    block "match value" [
      line "serde_json::Value::String(text) => text.clone(),",
      line "serde_json::Value::Number(number) => number",
      line "    .as_f64()",
      line "    .map_or_else(|| number.to_string(), |float| float.to_string()),",
      line "other => other.to_string(),"]]]

/-- The first comment line of every generated file. -/
def generatedNotice : String := "//! Generated by json-class-gen. Do not edit manually."

namespace Module

/-- The comment that opens the module. -/
def headerCode (m : Module) : List Code := [
  line generatedNotice,
  line "//!",
  line ("//! Class `" ++ m.qualifiedName ++ "`."),
  blank]

/-- The imports, those of other classes apart. -/
def importCode (m : Module) : List Code :=
  (if m.usesTables then [line "use indexmap::IndexMap;"] else []) ++
    [line "use std::fmt;"] ++
    (if m.imports.isEmpty then []
      else blank :: m.imports.map fun i => line s!"use super::{i.moduleName}::{i.typeName};") ++
    [blank]

/-- The struct. -/
def structCode (m : Module) : List Code := [
  line "#[derive(Debug, Clone, PartialEq)]",
  block s!"pub struct {m.typeName}"
    ((m.values ++ m.stores).map fun f => line s!"pub {f.name}: {f.type.text},"),
  blank]

/-- The constructor, with a parameter for each value. -/
def constructorCode (m : Module) : List Code :=
  let parameters := ", ".intercalate (m.values.map fun f => s!"{f.name}: {f.type.text}")
  [line ("/// Creates a `" ++ m.className ++ "` from its attribute values."),
    line "#[must_use]",
    block s!"pub fn new({parameters}) -> Self" [
      block "Self" (m.values.map (fun f => line s!"{f.name},") ++
        m.stores.map fun f => line s!"{f.name}: {f.type.initial},")]]

/-- The dump. -/
def dumpCode (m : Module) : List Code := [
  blank,
  block s!"impl fmt::Display for {m.typeName}" [
    block "fn fmt(&self, f: &mut fmt::Formatter<'_>) -> fmt::Result" (
      [line (if m.dump.isEmpty then "let parts: Vec<String> = Vec::new();"
          else "let mut parts: Vec<String> = Vec::new();")] ++
        m.dump.flatMap DumpPart.code ++
        [block "if parts.is_empty()" [line "return f.write_str(\"Empty JSONClass Object\");"],
          line "f.write_str(&parts.join(\", \"))"])]]

/-- The whole module in code. -/
def code (m : Module) : List Code :=
  m.headerCode ++ m.importCode ++ m.structCode ++
    [block s!"impl {m.typeName}" (m.constructorCode ++ m.accessors.flatMap Accessors.code)] ++
    m.dumpCode ++ (if m.usesHelper then helperCode else [])

/-- The source of a module. -/
def text (m : Module) : String := Code.text m.code

end Module

end DocSchema.Source
