import DocSchema.Source.Printer
import Mathlib.Data.List.Basic

/-!
# What generated code declares

The fields of a struct and the public functions of a module are read off its code, by the keywords
that begin a line or the head of a block (`Code.structFieldsIn`, `Code.functionsIn`). Where no name
holds the sign that ends it, the code of a module declares its constructor and the accessors of its
relationships (`functionsIn_code`), and the fields of its struct (`structFieldsIn_code`).
-/

namespace DocSchema.Source

namespace Code

/-- The name between a start and a sign that ends it, if a text begins with the start. -/
def declared (start : String) (stop : Char) (text : String) : Option String :=
  if start.toList.isPrefixOf text.toList then
    some (String.ofList ((text.toList.drop start.toList.length).takeWhile (· ≠ stop)))
  else none

mutual

/-- The public functions that a piece of code declares. -/
def functions : Code → List String
  | line _ => []
  | blank => []
  | block head body => (declared "pub fn " '(' head).toList ++ functionsIn body
termination_by structural code => code

/-- The public functions that pieces of code declare. -/
def functionsIn : List Code → List String
  | [] => []
  | code :: rest => functions code ++ functionsIn rest
termination_by structural codes => codes

end

/-- The field that a line of a struct declares. -/
def field? : Code → Option String
  | line text => declared "pub " ':' text
  | _ => none

/-- The fields of a piece of code that declares a struct. -/
def structFields : Code → List String
  | block head body =>
    if "pub struct ".toList.isPrefixOf head.toList then body.filterMap field? else []
  | _ => []

/-- The fields of the structs that pieces of code declare. -/
def structFieldsIn (codes : List Code) : List String := codes.flatMap structFields

/-- A name that does not hold the sign that ends it is read back. -/
theorem declared_eq_some {start name : String} {stop : Char} (rest : String) {text : String}
    (hname : stop ∉ name.toList) (htext : text = start ++ name ++ String.singleton stop ++ rest) :
    declared start stop text = some name := by
  have hchars : text.toList = start.toList ++ (name.toList ++ stop :: rest.toList) := by
    simp [htext]
  have hwhile : (name.toList ++ stop :: rest.toList).takeWhile (· ≠ stop) = name.toList := by
    rw [List.takeWhile_append_of_pos (by grind), List.takeWhile_cons_of_neg (by simp),
      List.append_nil]
  rw [declared, hchars, if_pos (by simp), List.drop_left, hwhile, String.ofList_toList]

/-- A line declares no function. -/
@[simp] theorem functions_line (text : String) : functions (line text) = [] := rfl

/-- An empty line declares no function. -/
@[simp] theorem functions_blank : functions blank = [] := rfl

/-- No code declares no function. -/
@[simp] theorem functionsIn_nil : functionsIn [] = [] := rfl

/-- The functions of the first piece of code come first. -/
@[simp] theorem functionsIn_cons (code : Code) (rest : List Code) :
    functionsIn (code :: rest) = functions code ++ functionsIn rest := rfl

/-- The functions of pieces of code are those of each. -/
theorem functionsIn_eq_flatMap (codes : List Code) :
    functionsIn codes = codes.flatMap functions := by
  induction codes with
  | nil => rfl
  | cons code rest ih => rw [functionsIn_cons, ih, List.flatMap_cons]

/-- The functions of code in two parts. -/
@[simp] theorem functionsIn_append (front back : List Code) :
    functionsIn (front ++ back) = functionsIn front ++ functionsIn back := by
  simp [functionsIn_eq_flatMap]

/-- Lines that are made one for each item declare no functions. -/
@[simp] theorem functionsIn_map_line {α : Type} (items : List α) (text : α → String) :
    functionsIn (items.map fun a => line (text a)) = [] := by
  simp [functionsIn_eq_flatMap]

/-- A line declares no struct. -/
@[simp] theorem structFields_line (text : String) : structFields (line text) = [] := rfl

/-- An empty line declares no struct. -/
@[simp] theorem structFields_blank : structFields blank = [] := rfl

/-- No code declares no struct. -/
@[simp] theorem structFieldsIn_nil : structFieldsIn [] = [] := rfl

/-- The fields of the first piece of code come first. -/
@[simp] theorem structFieldsIn_cons (code : Code) (rest : List Code) :
    structFieldsIn (code :: rest) = structFields code ++ structFieldsIn rest := List.flatMap_cons

/-- The fields of code in two parts. -/
@[simp] theorem structFieldsIn_append (front back : List Code) :
    structFieldsIn (front ++ back) = structFieldsIn front ++ structFieldsIn back :=
  List.flatMap_append

/-- Lines that are made one for each item declare no struct. -/
@[simp] theorem structFieldsIn_map_line {α : Type} (items : List α) (text : α → String) :
    structFieldsIn (items.map fun a => line (text a)) = [] := by
  simp [structFieldsIn]

/-- The head of a struct declares its fields. -/
theorem structFields_struct {head : String} {body : List Code}
    (hhead : "pub struct ".toList <+: head.toList) :
    structFields (block head body) = body.filterMap field? := by
  rw [structFields, if_pos (by rwa [List.isPrefixOf_iff_prefix])]

/-- Any other head declares no struct. -/
theorem structFields_other {head : String} {body : List Code}
    (hhead : ¬ "pub struct ".toList <+: head.toList) : structFields (block head body) = [] := by
  rw [structFields, if_neg (by rwa [List.isPrefixOf_iff_prefix])]

/-- The head of a public function declares it. -/
theorem functions_public {name head : String} (rest : String) {body : List Code}
    (hname : '(' ∉ name.toList) (hhead : head = "pub fn " ++ name ++ "(" ++ rest)
    (hbody : functionsIn body = []) : functions (block head body) = [name] := by
  rw [functions, declared_eq_some rest hname hhead, hbody]
  rfl

/-- Any other head declares no function. -/
theorem functions_private {head : String} {body : List Code}
    (hhead : ¬ "pub fn ".toList <+: head.toList) :
    functions (block head body) = functionsIn body := by
  rw [functions, declared, if_neg (by rwa [List.isPrefixOf_iff_prefix])]
  rfl

end Code

open Code

/-- The name of the look-up of a table. -/
def Accessors.lookup? (a : Accessors) : Option String :=
  match a.access with
  | .table lookupName _ => some ("get_" ++ a.name ++ "_with_" ++ lookupName)
  | _ => none

/-- The public functions of the accessors of a relationship. -/
def Accessors.functions (a : Accessors) : List String :=
  ["add_" ++ a.name, "remove_" ++ a.name, "iter_" ++ a.name] ++ a.lookup?.toList

/-- The names of accessors hold no sign that could end them. -/
structure Accessors.Clean (a : Accessors) : Prop where
  /-- The name that they share does not. -/
  name : '(' ∉ a.name.toList
  /-- The name of a look-up does not. -/
  lookup : ∀ lookupName key, a.access = .table lookupName key → '(' ∉ lookupName.toList

section Reading

variable {a : Accessors}

/-- The accessor that adds an item declares one function. -/
theorem functions_adder (ha : a.Clean) {body : List Code} (hbody : functionsIn body = []) :
    Code.functions (a.adder body) = ["add_" ++ a.name] :=
  functions_public s!"&mut self, {a.item}: {a.target})" (by simp [ha.name])
    (by simp [← String.toList_inj, toString]) hbody

/-- The accessor that removes an item declares one function. -/
theorem functions_remover (ha : a.Clean) (parameter : String) {body : List Code}
    (hbody : functionsIn body = []) :
    Code.functions (a.remover parameter body) = ["remove_" ++ a.name] :=
  functions_public s!"&mut self, {parameter}: &{a.target})" (by simp [ha.name])
    (by simp [← String.toList_inj, toString]) hbody

/-- The accessor that iterates over the items declares one function. -/
theorem functions_iterator (ha : a.Clean) (body : String) :
    Code.functions (a.iterator body) = ["iter_" ++ a.name] :=
  functions_public s!"&self) -> impl Iterator<Item = &{a.target}> + '_" (by simp [ha.name])
    (by simp [← String.toList_inj, toString]) rfl

/-- The code of accessors declares their functions. -/
theorem functionsIn_code_accessors (ha : a.Clean) : functionsIn a.code = a.functions := by
  rw [Accessors.code, Accessors.functions, Accessors.lookup?]
  cases haccess : a.access with
  | single =>
    have hbody : Code.functions (block s!"if self.{a.field}.as_deref() == Some({a.item})"
        [line s!"self.{a.field} = None;"]) = [] := functions_private (by simp [toString])
    simp [Accessors.singleCode, functions_adder ha, functions_remover ha, functions_iterator ha,
      hbody]
  | sequence =>
    have hbody : Code.functions (block
        s!"if let Some(position) = self.{a.field}.iter().position(|item| item == {a.item})"
        [line s!"self.{a.field}.remove(position);"]) = [] := functions_private (by simp [toString])
    simp [Accessors.sequenceCode, functions_adder ha, functions_remover ha, functions_iterator ha,
      hbody]
  | table lookupName key =>
    have hget : Code.functions (block
        s!"pub fn get_{a.name}_with_{lookupName}(&self, key: &str) -> Option<&{a.target}>"
        [line s!"self.{a.field}.get(key)"]) = ["get_" ++ a.name ++ "_with_" ++ lookupName] :=
      functions_public s!"&self, key: &str) -> Option<&{a.target}>"
        (by simp [ha.name, ha.lookup lookupName key haccess])
        (by simp [← String.toList_inj, toString]) rfl
    simp [Accessors.tableCode, functions_adder ha, functions_remover ha, functions_iterator ha,
      hget]

/-- A part of a dump declares no function. -/
theorem functionsIn_code_dumpPart (part : DumpPart) : functionsIn part.code = [] := by
  cases part with
  | value label field =>
    have hif : Code.functions (block s!"if let Some(value) = &self.{field}"
        [line ("parts.push(format!(\"" ++ label ++ ": \x7bvalue\x7d\"));")]) = [] :=
      functions_private (by simp [toString])
    simp [DumpPart.code, hif]
  | rendered label field =>
    have hif : Code.functions (block
        s!"if let Some(value) = self.{field}.as_ref().filter(|value| !value.is_null())"
        [line ("parts.push(format!(\"" ++ label ++ ": \x7b\x7d\", render_value(value)));")]) = [] :=
      functions_private (by simp [toString])
    simp [DumpPart.code, hif]
  | objects label field table =>
    have hif : Code.functions (block "if !items.is_empty()"
        [line ("parts.push(format!(\"" ++ label ++
          ": [\x7b\x7d]\", items.join(\", \")));")]) = [] := functions_private (by simp)
    simp [DumpPart.code, hif]

/-- The dump declares no public function. -/
theorem functionsIn_dumpCode (m : Module) : functionsIn m.dumpCode = [] := by
  have hparts : functionsIn (m.dump.flatMap DumpPart.code) = [] := by
    rw [functionsIn_eq_flatMap, List.flatMap_assoc]
    simp only [← functionsIn_eq_flatMap, functionsIn_code_dumpPart]
    simp
  have hempty : Code.functions (block "if parts.is_empty()"
      [line "return f.write_str(\"Empty JSONClass Object\");"]) = [] := functions_private (by simp)
  have hfmt : ∀ body, Code.functions
      (block "fn fmt(&self, f: &mut fmt::Formatter<'_>) -> fmt::Result" body) =
        functionsIn body := fun body => functions_private (by simp)
  have himpl : ∀ body, Code.functions (block s!"impl fmt::Display for {m.typeName}" body) =
      functionsIn body := fun body => functions_private (by simp [toString])
  simp [Module.dumpCode, himpl, hfmt, hparts, hempty]

/-- The constructor declares one function. -/
theorem functionsIn_constructorCode (m : Module) : functionsIn m.constructorCode = ["new"] := by
  have hself : ∀ body, Code.functions (block "Self" body) = functionsIn body :=
    fun body => functions_private (by simp)
  have hnew : ∀ (parameters : String) (body : List Code), functionsIn body = [] →
      Code.functions (block s!"pub fn new({parameters}) -> Self" body) = ["new"] :=
    fun parameters body hbody => functions_public s!"{parameters}) -> Self" (by simp)
      (by simp [← String.toList_inj, toString]) hbody
  simp [Module.constructorCode, hnew, hself]

/-- A module declares its constructor and the functions of the accessors. -/
theorem functionsIn_code {m : Module} (hm : ∀ a ∈ m.accessors, a.Clean) :
    functionsIn m.code = "new" :: m.accessors.flatMap Accessors.functions := by
  have hheader : functionsIn m.headerCode = [] := rfl
  have himports : functionsIn m.importCode = [] := by
    rw [Module.importCode]
    split <;> split <;> simp
  have hstruct : functionsIn m.structCode = [] := by
    have hbody : ∀ body, Code.functions (block s!"pub struct {m.typeName}" body) =
        functionsIn body := fun body => functions_private (by simp [toString])
    simp [Module.structCode, hbody]
  have himpl : ∀ body, Code.functions (block s!"impl {m.typeName}" body) = functionsIn body :=
    fun body => functions_private (by simp [toString])
  have haccessors : functionsIn (m.accessors.flatMap Accessors.code) =
      m.accessors.flatMap Accessors.functions := by
    rw [functionsIn_eq_flatMap, List.flatMap_assoc]
    simp only [← functionsIn_eq_flatMap]
    exact List.flatMap_congr fun a ha => functionsIn_code_accessors (hm a ha)
  have hhelper : functionsIn helperCode = [] := by decide
  rw [Module.code]
  split <;> simp [hheader, himports, hstruct, himpl, functionsIn_constructorCode, haccessors,
    functionsIn_dumpCode, hhelper]

/-- The struct of a module has the fields of the module. -/
theorem structFieldsIn_code {m : Module} (hm : ∀ f ∈ m.values ++ m.stores, ':' ∉ f.name.toList) :
    structFieldsIn m.code = (m.values ++ m.stores).map Field.name := by
  have hfield : ∀ f ∈ m.values ++ m.stores,
      field? (line s!"pub {f.name}: {f.type.text},") = some f.name := fun f hf =>
    declared_eq_some s!" {f.type.text}," (hm f hf) (by simp [← String.toList_inj, toString])
  have hfields : ((m.values ++ m.stores).map fun f =>
      line s!"pub {f.name}: {f.type.text},").filterMap field? =
        (m.values ++ m.stores).map Field.name := by
    rw [List.filterMap_map, ← List.filterMap_eq_map]
    exact List.filterMap_congr hfield
  have hstruct : structFieldsIn m.structCode = (m.values ++ m.stores).map Field.name := by
    have hhead : ∀ body, structFields (block s!"pub struct {m.typeName}" body) =
        body.filterMap field? := fun body => structFields_struct (by simp [toString])
    rw [← hfields]
    simp [Module.structCode, hhead]
  have hheader : structFieldsIn m.headerCode = [] := rfl
  have himports : structFieldsIn m.importCode = [] := by
    rw [Module.importCode]
    split <;> split <;> simp
  have himpl : ∀ body, structFields (block s!"impl {m.typeName}" body) = [] :=
    fun body => structFields_other (by simp [toString])
  have hdump : structFieldsIn m.dumpCode = [] := by
    have hhead : ∀ body, structFields (block s!"impl fmt::Display for {m.typeName}" body) = [] :=
      fun body => structFields_other (by simp [toString])
    simp [Module.dumpCode, hhead]
  have hhelper : structFieldsIn helperCode = [] := by decide
  rw [Module.code]
  split <;> simp [hheader, himports, hstruct, himpl, hdump, hhelper]

end Reading

end DocSchema.Source
