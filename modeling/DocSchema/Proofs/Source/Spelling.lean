import DocSchema.Proofs.Source.Identifiers
import DocSchema.Proofs.Source.Labels
import DocSchema.Proofs.Source.Lines

/-!
# Names as identifiers and labels

Apart from its comments a generated module holds names only as identifiers and labels make them
(`Module.Spelled`, `spelled_ofClass`). These hold no line break, so the code of a module that spells
its names is plain: its imports, its struct, its constructor and accessors, its dump and the helper.
-/

namespace DocSchema.Source

open Text Code

section LineBreaks

/-- A type holds no line break. -/
@[simp] theorem lineBreak_notMem_typeName (name : String) : '\n' ∉ (typeName name).toList :=
  notMem_typeName (by decide)

/-- The name of a field or module holds no line break. -/
@[simp] theorem lineBreak_notMem_fieldName (name : String) : '\n' ∉ (fieldName name).toList :=
  notMem_fieldName (by decide) (by decide) (by decide)

/-- A bare name holds no line break. -/
@[simp] theorem lineBreak_notMem_bareName (name : String) : '\n' ∉ (bareName name).toList :=
  notMem_bareName (by decide) (by decide)

/-- A label holds no line break. -/
@[simp] theorem lineBreak_notMem_label (name : String) : '\n' ∉ (label name).toList :=
  (lineBreaks_notMem_label name).1

end LineBreaks

section Types

/-- The type of an attribute in code. -/
theorem FieldType.text_value (kind : Kind) :
    (value kind).text = "Option<" ++ kindType kind ++ ">" := rfl

/-- The type of one object at most in code. -/
theorem FieldType.text_single (target : String) :
    (single target).text = "Option<Box<" ++ target ++ ">>" := rfl

/-- The type of a sequence in code. -/
theorem FieldType.text_sequence (target : String) :
    (sequence target).text = "Vec<" ++ target ++ ">" := rfl

/-- The type of a table in code. -/
theorem FieldType.text_table (target : String) :
    (table target).text = "IndexMap<String, " ++ target ++ ">" := rfl

end Types

/-- A type in code is made of a name. -/
def FieldType.Spelled : FieldType → Prop
  | value _ => True
  | single target | sequence target | table target => ∃ name, target = typeName name

/-- The identifier and the type of a field are made of names. -/
structure Field.Spelled (f : Field) : Prop where
  /-- The identifier is. -/
  name : ∃ name, f.name = fieldName name
  /-- The type is. -/
  type : f.type.Spelled

/-- The field that an index key is read from. -/
def IndexKey.field? : IndexKey → Option String
  | none => .none
  | text field | shown field | rendered field => some field

/-- All that accessors write is made of names. -/
structure Accessors.Spelled (a : Accessors) : Prop where
  /-- The name that they share is. -/
  name : ∃ name, a.name = bareName name
  /-- The field of the relationship is. -/
  field : ∃ name, a.field = fieldName name
  /-- The type of the objects is. -/
  target : ∃ name, a.target = typeName name
  /-- The name of a look-up is. -/
  lookup : ∀ lookupName key, a.access = .table lookupName key → ∃ name, lookupName = bareName name
  /-- The field of an index key is. -/
  index : ∀ lookupName key, a.access = .table lookupName key →
    ∀ field ∈ key.field?, ∃ name, field = fieldName name

/-- The label and the field of a part of a dump are made of names. -/
def DumpPart.Spelled : DumpPart → Prop
  | value text field | rendered text field | objects text field _ =>
    (∃ name, text = label name) ∧ ∃ name, field = fieldName name

/-- Apart from the two names in its comments, all names of a module are spelled as identifiers or
labels. -/
structure Module.Spelled (m : Module) : Prop where
  /-- The type is. -/
  type : ∃ name, m.typeName = Source.typeName name
  /-- The imports are. -/
  imports : ∀ i ∈ m.imports, ∃ name, i = ⟨fieldName name, Source.typeName name⟩
  /-- The fields are. -/
  fields : ∀ f ∈ m.values ++ m.stores, f.Spelled
  /-- The accessors are. -/
  accessors : ∀ a ∈ m.accessors, a.Spelled
  /-- The dump is. -/
  dump : ∀ part ∈ m.dump, part.Spelled

/-- The field of an attribute is spelled. -/
theorem spelled_attributeField (a : Attribute) : (attributeField a).Spelled where
  name := ⟨a.name, by simp only [attributeField]⟩
  type := by simp [attributeField, FieldType.Spelled]

/-- The field of a relationship is spelled. -/
theorem spelled_storeField (r : Relationship) : (storeField r).Spelled where
  name := ⟨r.storageKey, by simp only [storeField]⟩
  type := by
    have htarget : ∃ name, typeName r.target = typeName name := ⟨r.target, rfl⟩
    cases hstorage : r.storage <;> simpa only [storeField, hstorage, FieldType.Spelled]

/-- An index key is read from the field that is named after the index field. -/
theorem eq_of_mem_field? {field text : String} {kind : Option Kind}
    (h : text ∈ (indexKey field kind).field?) : text = fieldName field := by
  cases kind with
  | none => simp [indexKey, IndexKey.field?] at h
  | some kind => cases kind <;> simpa [indexKey, IndexKey.field?, eq_comm] using h

/-- Accessors that look up in a table are those of a table, whose keys are read from its index
field. -/
theorem storage_of_access {r : Relationship} {kind : Option Kind} {lookupName : String}
    {key : IndexKey} (h : (accessorsOf r kind).access = .table lookupName key) :
    ∃ field, r.storage = .indexed field ∧ lookupName = bareName field ∧
      key = indexKey field kind := by
  cases hstorage : r.storage with
  | single => simp [accessorsOf, hstorage] at h
  | sequence => simp [accessorsOf, hstorage] at h
  | indexed field =>
    simp only [accessorsOf, hstorage, Access.table.injEq] at h
    exact ⟨field, rfl, h.1.symm, h.2.symm⟩

/-- The accessors of a relationship are spelled. -/
theorem spelled_accessorsOf (r : Relationship) (kind : Option Kind) :
    (accessorsOf r kind).Spelled := by
  refine ⟨⟨r.name, by simp only [accessorsOf]⟩, ⟨r.storageKey, by simp only [accessorsOf]⟩,
    ⟨r.target, by simp only [accessorsOf]⟩, ?_, ?_⟩
  · intro lookupName key haccess
    obtain ⟨field, -, hlookup, -⟩ := storage_of_access haccess
    exact ⟨field, hlookup⟩
  · intro lookupName key haccess text htext
    obtain ⟨field, -, -, rfl⟩ := storage_of_access haccess
    exact ⟨field, eq_of_mem_field? htext⟩

/-- The part of a dump that shows an attribute is spelled. -/
theorem spelled_attributePart (a : Attribute) : (attributePart a).Spelled := by
  have hlabel : ∃ name, label a.name = label name := ⟨a.name, rfl⟩
  have hfield : ∃ name, fieldName a.name = fieldName name := ⟨a.name, rfl⟩
  rw [attributePart]
  split <;> exact ⟨hlabel, hfield⟩

/-- The generated module of a class spells its names. -/
theorem spelled_ofClass (reg : Registry) (c : EntityClass) : (Module.ofClass reg c).Spelled where
  type := ⟨c.name, by simp only [Module.ofClass]⟩
  imports := by
    intro i hi
    obtain ⟨name, -, rfl⟩ := List.mem_map.1 hi
    exact ⟨name, rfl⟩
  fields := by
    intro f hf
    rcases List.mem_append.1 hf with hf | hf
    · obtain ⟨a, -, rfl⟩ := List.mem_map.1 hf
      exact spelled_attributeField a
    · obtain ⟨r, -, rfl⟩ := List.mem_map.1 hf
      exact spelled_storeField r
  accessors := by
    intro a ha
    obtain ⟨r, -, rfl⟩ := List.mem_map.1 ha
    exact spelled_accessorsOf r _
  dump := by
    intro part hpart
    rcases List.mem_append.1 hpart with hpart | hpart
    · obtain ⟨a, -, rfl⟩ := List.mem_map.1 hpart
      exact spelled_attributePart a
    · obtain ⟨r, -, rfl⟩ := List.mem_map.1 hpart
      have hlabel : ∃ name, label r.name = label name := ⟨r.name, rfl⟩
      have hfield : ∃ name, fieldName r.storageKey = fieldName name := ⟨r.storageKey, rfl⟩
      exact ⟨hlabel, hfield⟩

section Plain

/-- The type of a field and its initial value hold no line break. -/
theorem FieldType.Spelled.whole {type : FieldType} (h : type.Spelled) :
    '\n' ∉ type.text.toList ∧ '\n' ∉ type.initial.toList := by
  have htype : ∀ target, (∃ name, target = typeName name) → '\n' ∉ target.toList := by
    rintro target ⟨name, hname⟩
    rw [hname]
    exact lineBreak_notMem_typeName name
  cases type with
  | value kind => cases kind <;> decide
  | single target =>
    exact ⟨by simp [text_single, htype target h], show '\n' ∉ "None".toList by decide⟩
  | sequence target =>
    exact ⟨by simp [text_sequence, htype target h], show '\n' ∉ "Vec::new()".toList by decide⟩
  | table target =>
    exact ⟨by simp [text_table, htype target h], show '\n' ∉ "IndexMap::new()".toList by decide⟩

/-- The expression of an index key holds no line break. -/
theorem whole_expression {item : String} {key : IndexKey} (hitem : '\n' ∉ item.toList)
    (hkey : ∀ field ∈ key.field?, ∃ name, field = fieldName name) :
    '\n' ∉ (key.expression item).toList := by
  cases key with
  | none => simp [IndexKey.expression]
  | text field | shown field | rendered field =>
    obtain ⟨name, hname⟩ := hkey field rfl
    have hfield : '\n' ∉ field.toList := by
      rw [hname]
      exact lineBreak_notMem_fieldName name
    simp [IndexKey.expression, hitem, hfield, toString]

variable {a : Accessors}

/-- What accessors write holds no line break. -/
theorem Accessors.Spelled.whole (h : a.Spelled) :
    '\n' ∉ a.name.toList ∧ '\n' ∉ a.field.toList ∧ '\n' ∉ a.target.toList := by
  obtain ⟨name, hname⟩ := h.name
  obtain ⟨field, hfield⟩ := h.field
  obtain ⟨target, htarget⟩ := h.target
  simp [hname, hfield, htarget]

/-- The accessor that adds an item is plain, if its body is. -/
theorem plain_adder (h : a.Spelled) {body : List Code} (hbody : ∀ code ∈ body, Plain code) :
    Plain (a.adder body) := by
  obtain ⟨hname, -, htarget⟩ := h.whole
  refine plain_block (.of_first ?_ ?_) hbody
  · simp [toString, Accessors.item, hname, htarget]
  · simp [toString]

/-- The accessor that removes an item is plain, if its body is. -/
theorem plain_remover (h : a.Spelled) {parameter : String} (hparameter : '\n' ∉ parameter.toList)
    {body : List Code} (hbody : ∀ code ∈ body, Plain code) : Plain (a.remover parameter body) := by
  obtain ⟨hname, -, htarget⟩ := h.whole
  refine plain_block (.of_first ?_ ?_) hbody
  · simp [toString, hname, htarget, hparameter]
  · simp [toString]

/-- The accessor that iterates over the items is plain, if its body is. -/
theorem plain_iterator (h : a.Spelled) {body : String} (hbody : PlainLine body) :
    Plain (a.iterator body) := by
  obtain ⟨hname, -, htarget⟩ := h.whole
  refine plain_block (.of_first ?_ ?_) (by simpa using plain_line hbody)
  · simp [toString, hname, htarget]
  · simp [toString]

/-- The code of accessors is plain. -/
theorem plain_code_accessors (h : a.Spelled) : ∀ code ∈ a.code, Plain code := by
  obtain ⟨hname, hfield, htarget⟩ := h.whole
  have hitem : '\n' ∉ a.item.toList := by simp [Accessors.item, hname]
  rw [Accessors.code]
  cases haccess : a.access with
  | single =>
    have hadd : Plain (line s!"self.{a.field} = Some(Box::new({a.item}));") :=
      plain_line (.of_first (by simp [toString, hfield, hitem]) (by simp [toString]))
    have hremove : Plain (block s!"if self.{a.field}.as_deref() == Some({a.item})"
        [line s!"self.{a.field} = None;"]) := by
      refine plain_block (.of_first (by simp [toString, hfield, hitem]) (by simp [toString])) ?_
      exact List.forall_mem_singleton.2
        (plain_line (.of_first (by simp [toString, hfield]) (by simp [toString])))
    have hiter : PlainLine s!"self.{a.field}.as_deref().into_iter()" :=
      .of_first (by simp [toString, hfield]) (by simp [toString])
    simp [Accessors.singleCode, plain_blank, plain_adder h, plain_remover h, plain_iterator h,
      hitem, hadd, hremove, hiter]
  | sequence =>
    have hadd : Plain (line s!"self.{a.field}.push({a.item});") :=
      plain_line (.of_first (by simp [toString, hfield, hitem]) (by simp [toString]))
    have hremove : Plain (block
        s!"if let Some(position) = self.{a.field}.iter().position(|item| item == {a.item})"
        [line s!"self.{a.field}.remove(position);"]) := by
      refine plain_block (.of_first (by simp [toString, hfield, hitem]) (by simp [toString])) ?_
      exact List.forall_mem_singleton.2
        (plain_line (.of_first (by simp [toString, hfield]) (by simp [toString])))
    have hiter : PlainLine s!"self.{a.field}.iter()" :=
      .of_first (by simp [toString, hfield]) (by simp [toString])
    simp [Accessors.sequenceCode, plain_blank, plain_adder h, plain_remover h, plain_iterator h,
      hitem, hadd, hremove, hiter]
  | table lookupName key =>
    have hlookup : '\n' ∉ lookupName.toList := by
      obtain ⟨name, hname⟩ := h.lookup lookupName key haccess
      rw [hname]
      exact lineBreak_notMem_bareName name
    have hkey : ∀ item, '\n' ∉ item.toList →
        Plain (line s!"let key: String = {key.expression item};") := by
      intro item hitem
      have hexpression := whole_expression hitem (h.index lookupName key haccess)
      exact plain_line (.of_first (by simp [toString, hexpression]) (by simp [toString]))
    have hremoved : '\n' ∉ (if key = .none then "_" ++ a.item else a.item).toList := by
      split <;> simp [hitem]
    have hinsert : Plain (line s!"self.{a.field}.insert(key, {a.item});") :=
      plain_line (.of_first (by simp [toString, hfield, hitem]) (by simp [toString]))
    have hremove : Plain (line s!"self.{a.field}.shift_remove(&key);") :=
      plain_line (.of_first (by simp [toString, hfield]) (by simp [toString]))
    have hiter : PlainLine s!"self.{a.field}.values()" :=
      .of_first (by simp [toString, hfield]) (by simp [toString])
    have huse : Plain (line "#[must_use]") := plain_line (.of_first (by simp) (by simp))
    have hget : Plain (block
        s!"pub fn get_{a.name}_with_{lookupName}(&self, key: &str) -> Option<&{a.target}>"
        [line s!"self.{a.field}.get(key)"]) := by
      refine plain_block
        (.of_first (by simp [toString, hname, hlookup, htarget]) (by simp [toString])) ?_
      exact List.forall_mem_singleton.2
        (plain_line (.of_first (by simp [toString, hfield]) (by simp [toString])))
    simp [Accessors.tableCode, plain_blank, plain_adder h, plain_remover h, plain_iterator h,
      hkey, hitem, hremoved, hinsert, hremove, hiter, huse, hget]

/-- The code of a part of a dump is plain. -/
theorem plain_code_dumpPart {part : DumpPart} (h : part.Spelled) :
    ∀ code ∈ part.code, Plain code := by
  have hwhole : ∀ text field : String, (∃ name, text = label name) ∧
      (∃ name, field = fieldName name) → '\n' ∉ text.toList ∧ '\n' ∉ field.toList := by
    rintro text field ⟨⟨labelled, hlabel⟩, ⟨name, hname⟩⟩
    rw [hlabel, hname]
    exact ⟨lineBreak_notMem_label labelled, lineBreak_notMem_fieldName name⟩
  cases part with
  | value text field =>
    obtain ⟨htext, hfield⟩ := hwhole text field h
    refine List.forall_mem_singleton.2 (plain_block ?_ (List.forall_mem_singleton.2 ?_))
    · exact .of_first (by simp [toString, hfield]) (by simp [toString])
    · exact plain_line (.of_first (by simp [htext]) (by simp))
  | rendered text field =>
    obtain ⟨htext, hfield⟩ := hwhole text field h
    refine List.forall_mem_singleton.2 (plain_block ?_ (List.forall_mem_singleton.2 ?_))
    · exact .of_first (by simp [toString, hfield]) (by simp [toString])
    · exact plain_line (.of_first (by simp [htext]) (by simp))
  | objects text field table =>
    obtain ⟨htext, hfield⟩ := hwhole text field h
    refine List.forall_mem_cons.2 ⟨?_, List.forall_mem_singleton.2
      (plain_block ?_ (List.forall_mem_singleton.2 ?_))⟩
    · cases table <;> exact plain_line (.of_first (by simp [toString, hfield]) (by simp [toString]))
    · exact .of_first (by simp) (by simp)
    · exact plain_line (.of_first (by simp [htext]) (by simp))

variable {m : Module}

/-- The type of a module holds no line break. -/
theorem Module.Spelled.whole (h : m.Spelled) : '\n' ∉ m.typeName.toList := by
  obtain ⟨name, hname⟩ := h.type
  exact hname ▸ lineBreak_notMem_typeName name

/-- The imports are plain. -/
theorem plain_importCode (h : m.Spelled) : ∀ code ∈ m.importCode, Plain code := by
  have hmap : Plain (line "use indexmap::IndexMap;") := plain_line (.of_first (by simp) (by simp))
  have hfmt : Plain (line "use std::fmt;") := plain_line (.of_first (by simp) (by simp))
  have himports : ∀ code ∈ m.imports.map fun i =>
      line s!"use super::{i.moduleName}::{i.typeName};", Plain code := by
    refine List.forall_mem_map.2 fun i hi => ?_
    obtain ⟨name, hname⟩ := h.imports i hi
    rw [hname]
    exact plain_line (.of_first (by simp [toString]) (by simp [toString]))
  rw [Module.importCode]
  simp only [List.forall_mem_append, List.forall_mem_singleton]
  refine ⟨⟨⟨?_, hfmt⟩, ?_⟩, plain_blank⟩
  · split
    · exact List.forall_mem_singleton.2 hmap
    · exact List.forall_mem_nil _
  · split
    · exact List.forall_mem_nil _
    · exact List.forall_mem_cons.2 ⟨plain_blank, himports⟩

/-- A line for a field of the struct is plain. -/
theorem plain_field (h : m.Spelled) {f : Field} (hf : f ∈ m.values ++ m.stores) :
    '\n' ∉ f.name.toList ∧ Plain (line s!"pub {f.name}: {f.type.text},") := by
  obtain ⟨name, hname⟩ := (h.fields f hf).name
  have hwhole : '\n' ∉ f.name.toList := hname ▸ lineBreak_notMem_fieldName name
  have htype := (h.fields f hf).type.whole.1
  exact ⟨hwhole, plain_line (.of_first (by simp [toString, hwhole, htype]) (by simp [toString]))⟩

/-- The struct is plain. -/
theorem plain_structCode (h : m.Spelled) : ∀ code ∈ m.structCode, Plain code := by
  have hderive : Plain (line "#[derive(Debug, Clone, PartialEq)]") :=
    plain_line (.of_first (by simp) (by simp))
  have hstruct : Plain (block s!"pub struct {m.typeName}"
      ((m.values ++ m.stores).map fun f => line s!"pub {f.name}: {f.type.text},")) := by
    refine plain_block (.of_first (by simp [toString, h.whole]) (by simp [toString])) ?_
    exact List.forall_mem_map.2 fun f hf => (plain_field h hf).2
  exact List.forall_mem_cons.2 ⟨hderive, List.forall_mem_cons.2
    ⟨hstruct, List.forall_mem_singleton.2 plain_blank⟩⟩

/-- The dump is plain. -/
theorem plain_dumpCode (h : m.Spelled) : ∀ code ∈ m.dumpCode, Plain code := by
  have hparts : ∀ code ∈ m.dump.flatMap DumpPart.code, Plain code := by
    intro code hcode
    obtain ⟨part, hpart, hcode⟩ := List.mem_flatMap.1 hcode
    exact plain_code_dumpPart (h.dump part hpart) code hcode
  have hstart : Plain (line (if m.dump.isEmpty then "let parts: Vec<String> = Vec::new();"
      else "let mut parts: Vec<String> = Vec::new();")) := by
    split <;> exact plain_line (.of_first (by simp) (by simp))
  have hempty : Plain (block "if parts.is_empty()"
      [line "return f.write_str(\"Empty JSONClass Object\");"]) :=
    plain_block (.of_first (by simp) (by simp))
      (List.forall_mem_singleton.2 (plain_line (.of_first (by simp) (by simp))))
  have hend : Plain (line "f.write_str(&parts.join(\", \"))") :=
    plain_line (.of_first (by simp) (by simp))
  refine List.forall_mem_cons.2 ⟨plain_blank, List.forall_mem_singleton.2 (plain_block ?_
    (List.forall_mem_singleton.2 (plain_block (.of_first (by simp) (by simp)) ?_)))⟩
  · exact .of_first (by simp [toString, h.whole]) (by simp [toString])
  · rw [List.forall_mem_append, List.forall_mem_append]
    exact ⟨⟨List.forall_mem_singleton.2 hstart, hparts⟩,
      List.forall_mem_cons.2 ⟨hempty, List.forall_mem_singleton.2 hend⟩⟩

/-- The helper is plain. -/
theorem plain_helperCode : ∀ code ∈ helperCode, Plain code := by
  have harms : ∀ code ∈ [
      line "serde_json::Value::String(text) => text.clone(),",
      line "serde_json::Value::Number(number) => number",
      line "    .as_f64()",
      line "    .map_or_else(|| number.to_string(), |float| float.to_string()),",
      line "other => other.to_string(),"], Plain code := by
    simp only [List.forall_mem_cons]
    refine ⟨?_, ?_, ?_, ?_, ?_, List.forall_mem_nil _⟩ <;>
      exact plain_line ⟨by decide, by decide⟩
  refine List.forall_mem_cons.2 ⟨plain_blank, List.forall_mem_singleton.2 (plain_block ?_
    (List.forall_mem_singleton.2 (plain_block ?_ harms)))⟩ <;>
  exact ⟨by decide, by decide⟩

/-- A line that begins with the identifier of a field is plain, if the rest is. -/
theorem plainLine_fieldName (name : String) {rest : String} (hwhole : '\n' ∉ rest.toList)
    (hfirst : ∀ c, rest.toList.head? = some c → c ≠ ' ' ∧ c ≠ '/') :
    PlainLine (fieldName name ++ rest) := by
  refine .of_first (by simp [hwhole]) fun c hc => ?_
  rw [String.toList_append, List.head?_append, Option.or_eq_some_iff] at hc
  rcases hc with hc | ⟨-, hc⟩
  · have hmem : c ∈ (fieldName name).toList := List.mem_of_head? hc
    constructor <;> rintro rfl
    · exact notMem_fieldName (by decide) (by decide) (by decide) hmem
    · exact notMem_fieldName (by decide) (by decide) (by decide) hmem
  · exact hfirst c hc

/-- The constructor is plain behind its comment. -/
theorem plain_constructorCode (h : m.Spelled) : ∀ code ∈ m.constructorCode.tail, Plain code := by
  have huse : Plain (line "#[must_use]") := plain_line (.of_first (by simp) (by simp))
  have hparameters :
      '\n' ∉ (", ".intercalate (m.values.map fun f => s!"{f.name}: {f.type.text}")).toList := by
    rw [String.toList_intercalate]
    intro hmem
    rcases mem_of_mem_intercalate hmem with hmem | ⟨chars, hchars, hmem⟩
    · simp at hmem
    · rw [List.map_map] at hchars
      obtain ⟨f, hf, rfl⟩ := List.mem_map.1 hchars
      have hf' : f ∈ m.values ++ m.stores := List.mem_append_left _ hf
      simp [toString, (plain_field h hf').1, (h.fields f hf').type.whole.1] at hmem
  have hvalues : ∀ code ∈ m.values.map (fun f => line s!"{f.name},"), Plain code := by
    refine List.forall_mem_map.2 fun f hf => ?_
    obtain ⟨name, hname⟩ := (h.fields f (List.mem_append_left _ hf)).name
    have hplain : PlainLine (fieldName name ++ ",") := plainLine_fieldName name (by simp) (by simp)
    rw [hname]
    exact plain_line hplain
  have hstores : ∀ code ∈ m.stores.map (fun f => line s!"{f.name}: {f.type.initial},"),
      Plain code := by
    refine List.forall_mem_map.2 fun f hf => ?_
    have hf' : f ∈ m.values ++ m.stores := List.mem_append_right _ hf
    obtain ⟨name, hname⟩ := (h.fields f hf').name
    have hinitial := (h.fields f hf').type.whole.2
    have hplain : PlainLine (fieldName name ++ (": " ++ f.type.initial ++ ",")) :=
      plainLine_fieldName name (by simp [hinitial]) (by simp)
    rw [hname]
    simpa [toString, String.append_assoc] using plain_line hplain
  have hhead : ∀ parameters : String, '\n' ∉ parameters.toList →
      PlainLine (s!"pub fn new({parameters}) -> Self" ++ " \x7b") := fun parameters hwhole =>
    .of_first (by simp [toString, hwhole]) (by simp [toString])
  exact List.forall_mem_cons.2 ⟨huse, List.forall_mem_singleton.2 (plain_block
    (hhead _ hparameters) (List.forall_mem_singleton.2 (plain_block (.of_first (by simp) (by simp))
      (List.forall_mem_append.2 ⟨hvalues, hstores⟩))))⟩

end Plain

end DocSchema.Source
