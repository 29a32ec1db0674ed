import DocSchema.Proofs.Source.Mentions

/-!
# What the pieces of a module mention

Each piece of generated code mentions what the declaration that it is made from says, whatever
stands around it: accessors (`mentions_code_accessors`), the dump (`mentions_dumpCode`) and the
imports (`mentions_importCode`). The struct and the constructor are quiet (`quiet_structCode`,
`quiet_constructorCode`). So the mentions of a module are those of its pieces in order
(`mentions_bareCode`).
-/

namespace DocSchema.Source

open Code

-- The tokens of a line are known but for its names, and its readings compute from them.
attribute [simp] parameter? scope whole? member? ownAt entryAt callAt mentionsFrom lineMentions

section Lines

/-- An empty line mentions nothing. -/
@[simp] theorem mentions_blank (parameter : Option Parameter) (rest : List (List Token)) :
    mentions parameter ([] :: rest) = mentions parameter rest := by
  simp [mentions, tokens]

/-- A closing brace mentions nothing. -/
@[simp] theorem mentions_brace (parameter : Option Parameter) (rest : List (List Token)) :
    mentions parameter ([.sign '\x7d'] :: rest) = mentions parameter rest := by
  simp [mentions, tokens]

/-- A line that begins with neither of two keywords says nothing as a whole. -/
theorem whole?_eq_none {l : List Token} (huse : l.head? ≠ some (.word "use"))
    (hfn : l.head? ≠ some (.word "fn")) : whole? l = none := by
  cases l with
  | nil => simp [tokens]
  | cons t l =>
    rw [List.head?_cons, ne_eq, Option.some.injEq] at huse hfn
    simp [tokens, huse, hfn]

end Lines

section Words

/-- A word for a parameter that generated code uses for nothing else. -/
structure IsItem (name : String) : Prop where
  /-- It is a word. -/
  word : IsWord name
  /-- It is not the object itself. -/
  ne_self : "self" ≠ name
  /-- It is no parameter of a closure. -/
  ne_value : "value" ≠ name
  /-- It is not the helper. -/
  ne_helper : name ≠ "render_value"

/-- A word is one for a parameter by its first character. -/
theorem isItem_of_head? {name : String} (hword : IsWord name)
    (hhead : name.toList.head? = some 'a' ∨ name.toList.head? = some '_') : IsItem name where
  word := hword
  ne_self := by
    rintro rfl
    simp at hhead
  ne_value := by
    rintro rfl
    simp at hhead
  ne_helper := by
    rintro rfl
    simp at hhead

/-- A type that is made of a name is a word. -/
theorem isWord_of_typeName {target : String} (h : ∃ name, target = typeName name) :
    IsWord target := by
  obtain ⟨name, hname⟩ := h
  exact hname ▸ isWord_typeName name

/-- A field that is made of a name is a word. -/
theorem isWord_of_fieldName {field : String} (h : ∃ name, field = fieldName name) :
    IsWord field := by
  obtain ⟨name, hname⟩ := h
  exact hname ▸ isWord_fieldName name

/-- A bare name is a word. -/
theorem isWord_of_bareName {bare : String} (h : ∃ name, bare = bareName name) : IsWord bare := by
  obtain ⟨name, hname⟩ := h
  exact hname ▸ isWord_bareName name

end Words

section Accessors

variable {a : Accessors}

/-- The names that accessors write are words. -/
structure Accessors.Worded (a : Accessors) : Prop where
  /-- The name that they share is. -/
  name : IsWord a.name
  /-- The field of the relationship is. -/
  field : IsWord a.field
  /-- The type of the objects is. -/
  target : IsWord a.target

/-- The parameter of accessors is a word for one. -/
theorem Accessors.Worded.item (h : a.Worded) : IsItem a.item :=
  isItem_of_head? (IsWord.append (isWord_of_all (by decide) (by decide)) h.name)
    (.inl (by simp [Accessors.item]))

/-- It is one with an underscore in front. -/
theorem Accessors.Worded.unused (h : a.Worded) : IsItem ("_" ++ a.item) :=
  isItem_of_head? (IsWord.append (isWord_of_all (by decide) (by decide)) h.item.word)
    (.inr (by simp))

/-- In the accessor that adds an item, the item is the parameter. -/
theorem mentions_adder (h : a.Worded) (body rest : List Code) (parameter : Option Parameter) :
    mentions parameter (lexed (a.adder body :: rest)) =
      mentions (some ⟨a.item, a.target⟩) (lexed body ++ [.sign '\x7d'] :: lexed rest) := by
  simp [Accessors.adder, tokens, toString, mentions, h.name, h.target, h.item.word]

/-- In the accessor that removes an item, the item is the parameter. -/
theorem mentions_remover (h : a.Worded) {removed : String} (hremoved : IsItem removed)
    (body rest : List Code) (parameter : Option Parameter) :
    mentions parameter (lexed (a.remover removed body :: rest)) =
      mentions (some ⟨removed, a.target⟩) (lexed body ++ [.sign '\x7d'] :: lexed rest) := by
  simp [Accessors.remover, tokens, toString, mentions, h.name, h.target, hremoved.word]

/-- In the accessor that iterates over the items, no object is a parameter. -/
theorem mentions_iterator (h : a.Worded) (body : String) (rest : List Code)
    (parameter : Option Parameter) :
    mentions parameter (lexed (a.iterator body :: rest)) =
      mentions none (tokens body :: [.sign '\x7d'] :: lexed rest) := by
  simp [Accessors.iterator, tokens, toString, mentions, h.name, h.target]

/-- The line that finds the key of an item mentions what the key does. -/
theorem mentions_key {item type : String} (hitem : IsItem item) {key : IndexKey}
    (hkey : ∀ field ∈ key.field?, IsWord field) (rest : List (List Token)) :
    mentions (some ⟨item, type⟩) (tokens s!"let key: String = {key.expression item};" :: rest) =
      key.mentions type ++ mentions (some ⟨item, type⟩) rest := by
  cases key with
  | none => simp [IndexKey.expression, IndexKey.mentions, tokens, toString, mentions]
  | text field | shown field | rendered field =>
    have hfield : IsWord field := hkey field rfl
    simp [IndexKey.expression, IndexKey.mentions, tokens, toString, mentions, hitem.word, hfield,
      hitem.ne_self.symm, hitem.ne_value]

/-- The accessors of one object mention their field. -/
theorem mentions_singleCode (h : a.Worded) (parameter : Option Parameter) :
    mentions parameter (lexed a.singleCode) = List.replicate 4 (Mention.own a.field) := by
  simp [Accessors.singleCode, mentions_adder h, mentions_remover h h.item, mentions_iterator h,
    tokens, toString, mentions, h.field, h.item.word, h.item.ne_self, h.item.ne_helper]

/-- The accessors of a sequence mention their field. -/
theorem mentions_sequenceCode (h : a.Worded) (parameter : Option Parameter) :
    mentions parameter (lexed a.sequenceCode) = List.replicate 4 (Mention.own a.field) := by
  simp [Accessors.sequenceCode, mentions_adder h, mentions_remover h h.item, mentions_iterator h,
    tokens, toString, mentions, h.field, h.item.word, h.item.ne_self, h.item.ne_helper]

/-- The accessors of a table mention their field, and the key of an item twice. -/
theorem mentions_tableCode (h : a.Worded) {lookupName : String} (hlookup : IsWord lookupName)
    {key : IndexKey} (hkey : ∀ field ∈ key.field?, IsWord field) (parameter : Option Parameter) :
    mentions parameter (lexed (a.tableCode lookupName key)) =
      key.mentions a.target ++ Mention.own a.field :: (key.mentions a.target ++
        List.replicate 3 (Mention.own a.field)) := by
  -- The item that is removed has an underscore in front where the key makes no use of it.
  have hremoved : IsItem (if key = .none then "_" ++ a.item else a.item) := by
    split
    · exact h.unused
    · exact h.item
  -- The lines of the accessors, each with whatever stands behind it.
  have hinsert : ∀ rest, mentions (some ⟨a.item, a.target⟩)
      (tokens s!"self.{a.field}.insert(key, {a.item});" :: rest) =
        Mention.own a.field :: mentions (some ⟨a.item, a.target⟩) rest := by
    intro rest
    simp [tokens, toString, mentions, h.field, h.item.word, h.item.ne_self]
  have hremove : ∀ removed rest, IsItem removed → mentions (some ⟨removed, a.target⟩)
      (tokens s!"self.{a.field}.shift_remove(&key);" :: rest) =
        Mention.own a.field :: mentions (some ⟨removed, a.target⟩) rest := by
    intro removed rest hremoved
    simp [tokens, toString, mentions, h.field, hremoved.ne_self]
  have hvalues : ∀ rest, mentions none (tokens s!"self.{a.field}.values()" :: rest) =
      Mention.own a.field :: mentions none rest := by
    intro rest
    simp [tokens, toString, mentions, h.field]
  have hget : mentions none (lexed [line "#[must_use]",
      block s!"pub fn get_{a.name}_with_{lookupName}(&self, key: &str) -> Option<&{a.target}>" [
        line s!"self.{a.field}.get(key)"]]) = [.own a.field] := by
    simp [tokens, toString, mentions, h.field, h.name, h.target, hlookup]
  rw [Accessors.tableCode]
  generalize (if key = .none then "_" ++ a.item else a.item) = removed at hremoved ⊢
  have hdrop := fun rest => hremove removed rest hremoved
  simp only [lexed_blank, mentions_blank, mentions_adder h, mentions_remover h hremoved,
    mentions_iterator h, lexed_line s!"let key: String = {key.expression a.item};",
    lexed_line s!"let key: String = {key.expression removed};",
    lexed_line s!"self.{a.field}.insert(key, {a.item});",
    lexed_line s!"self.{a.field}.shift_remove(&key);", lexed_nil, List.cons_append,
    List.nil_append, mentions_brace, mentions_key h.item hkey, mentions_key hremoved hkey, hinsert,
    hdrop, hvalues, hget]
  rfl

/-- The accessors of a relationship mention what they are said to. -/
theorem mentions_code_accessors (h : a.Spelled) (parameter : Option Parameter) :
    mentions parameter (lexed a.code) = a.mentions := by
  have hworded : a.Worded :=
    ⟨isWord_of_bareName h.name, isWord_of_fieldName h.field, isWord_of_typeName h.target⟩
  cases haccess : a.access with
  | single =>
    simp only [Accessors.code, Accessors.mentions, haccess]
    exact mentions_singleCode hworded parameter
  | sequence =>
    simp only [Accessors.code, Accessors.mentions, haccess]
    exact mentions_sequenceCode hworded parameter
  | table lookupName key =>
    have hlookup : IsWord lookupName := isWord_of_bareName (h.lookup lookupName key haccess)
    have hkey : ∀ field ∈ key.field?, IsWord field := fun field hfield =>
      isWord_of_fieldName (h.index lookupName key haccess field hfield)
    simp only [Accessors.code, Accessors.mentions, haccess]
    exact mentions_tableCode hworded hlookup hkey parameter

end Accessors

section Dump

/-- Where no object is a parameter, a part of a dump mentions what it is said to, and none is one
behind it. -/
theorem mentions_code_dumpPart {part : DumpPart} (h : part.Spelled) :
    mentions none (lexed part.code) = part.mentions ∧
      (lexed part.code).foldl scope none = none := by
  have hwords : ∀ text field : String, (∃ name, text = label name) ∧
      (∃ name, field = fieldName name) → ∃ name, text = label name ∧ IsWord field := by
    rintro text field ⟨⟨name, hlabel⟩, hfield⟩
    exact ⟨name, hlabel, isWord_of_fieldName hfield⟩
  cases part with
  | value text field =>
    obtain ⟨name, htext, hfield⟩ := hwords text field h
    simp [DumpPart.code, DumpPart.mentions, tokens, toString, mentions, htext, hfield]
  | rendered text field =>
    obtain ⟨name, htext, hfield⟩ := hwords text field h
    simp [DumpPart.code, DumpPart.mentions, tokens, toString, mentions, htext, hfield]
  | objects text field table =>
    obtain ⟨name, htext, hfield⟩ := hwords text field h
    cases table <;>
      simp [DumpPart.code, DumpPart.mentions, tokens, toString, mentions, htext, hfield]

/-- The dump mentions what its parts do. -/
theorem mentions_dumpCode {m : Module} (h : m.Spelled) (parameter : Option Parameter) :
    mentions parameter (lexed m.dumpCode) = m.dump.flatMap DumpPart.mentions := by
  -- The method takes no object besides its own, and no part brings one in.
  have htype : IsWord m.typeName := isWord_of_typeName h.type
  have hpart : ∀ part ∈ m.dump, ∀ parameter, parameter = none →
      mentions parameter (lexed part.code) = part.mentions ∧
        (lexed part.code).foldl scope parameter = none := by
    rintro part hpart _ rfl
    exact mentions_code_dumpPart (h.dump part hpart)
  have hparts := mentions_flatMap (fun parameter => parameter = none) hpart rfl
  have hhead : ∀ rest, mentions parameter
      (tokens (s!"impl fmt::Display for {m.typeName}" ++ " \x7b") ::
        tokens ("fn fmt(&self, f: &mut fmt::Formatter<'_>) -> fmt::Result" ++ " \x7b") :: rest) =
          mentions none rest := by
    intro rest
    simp [tokens, toString, mentions, htype]
  have hfirst : ∀ rest, mentions none (tokens (if m.dump.isEmpty then
      "let parts: Vec<String> = Vec::new();" else "let mut parts: Vec<String> = Vec::new();") ::
        rest) = mentions none rest := by
    intro rest
    split <;> simp [tokens, mentions]
  simp only [Module.dumpCode, lexed_blank, mentions_blank, lexed_block, lexed_append, lexed_flatMap,
    lexed_line, List.cons_append, hhead, hfirst, List.nil_append, lexed_nil, List.append_assoc,
    mentions_append, hparts]
  simp [tokens, mentions]

end Dump

section Fields

/-- What stands behind a type is read anew, and the type mentions nothing. -/
theorem read_type {type : FieldType} (h : type.Spelled) :
    (∀ rest, tokens (type.text ++ rest) = tokens type.text ++ tokens rest) ∧
    ∀ parameter before rest, mentionsFrom parameter before (tokens type.text ++ rest) =
      mentionsFrom parameter (some (.sign '>')) rest := by
  cases type with
  | value kind =>
    rw [FieldType.text_value]
    cases kind <;> simp [kindType, tokens]
  | single target =>
    have htarget : IsWord target := isWord_of_typeName h
    simp [FieldType.text_single, tokens, htarget]
  | sequence target =>
    have htarget : IsWord target := isWord_of_typeName h
    simp [FieldType.text_sequence, tokens, htarget]
  | table target =>
    have htarget : IsWord target := isWord_of_typeName h
    simp [FieldType.text_table, tokens, htarget]

/-- The tokens of a name with a type. -/
theorem tokens_field {f : Field} (h : f.Spelled) (rest : String) :
    tokens (s!"{f.name}: {f.type.text}" ++ rest) =
      .word f.name :: .sign ':' :: (tokens f.type.text ++ tokens rest) := by
  have hname : IsWord f.name := isWord_of_fieldName h.name
  rw [← (read_type h.type).1]
  simp [tokens, toString, hname]

/-- The tokens of the line that declares a field. -/
theorem tokens_declaration {f : Field} (h : f.Spelled) :
    tokens s!"pub {f.name}: {f.type.text}," =
      Token.word "pub" :: .word f.name :: .sign ':' ::
        (tokens f.type.text ++ [Token.sign ',']) := by
  have hline : s!"pub {f.name}: {f.type.text}," =
      "pub" ++ " " ++ (s!"{f.name}: {f.type.text}" ++ ",") := by
    simp [← String.toList_inj, toString]
  have hcomma : tokens "," = [.sign ','] := by decide
  rw [hline, tokens_word_append (isWord_of_all (by decide) (by decide)), tokens_field h, hcomma]

/-- Parameters with types mention nothing. -/
theorem mentionsFrom_parameters {fields : List Field} (h : ∀ f ∈ fields, f.Spelled)
    (parameter : Option Parameter) {rest : String}
    (hrest : ∀ before, mentionsFrom parameter before (tokens rest) = []) (before : Option Token) :
    mentionsFrom parameter before
      (tokens (", ".intercalate (fields.map fun f => s!"{f.name}: {f.type.text}") ++ rest)) =
        [] := by
  induction fields generalizing before with
  | nil => simpa using hrest before
  | cons f fields ih =>
    obtain ⟨hf, hfields⟩ := List.forall_mem_cons.1 h
    have hfirst : ∀ text, mentionsFrom parameter before
        (tokens (s!"{f.name}: {f.type.text}" ++ text)) =
          mentionsFrom parameter (some (.sign '>')) (tokens text) := by
      intro text
      rw [tokens_field hf]
      simp [(read_type hf.type).2]
    -- A comma stands behind every field but the last one.
    cases fields with
    | nil => rw [List.map_singleton, String.intercalate_singleton, hfirst, hrest]
    | cons g fields =>
      have hcomma : ∀ text, tokens (", " ++ text) = .sign ',' :: tokens text := by
        intro text
        simp [tokens]
      rw [List.map_cons, List.map_cons, String.intercalate_cons_cons, String.append_assoc,
        String.append_assoc, hfirst, hcomma]
      simpa using ih hfields (some (.sign ','))

end Fields

section Quiet

variable {m : Module}

/-- A brace is quiet. -/
theorem quiet_brace : Quiet [.sign '\x7d'] := by simp [Quiet, tokens]

/-- The struct is quiet. -/
theorem quiet_structCode (h : m.Spelled) : ∀ l ∈ lexed m.structCode, Quiet l := by
  have htype : IsWord m.typeName := isWord_of_typeName h.type
  have hderive : Quiet (tokens "#[derive(Debug, Clone, PartialEq)]") := by simp [Quiet, tokens]
  have hhead : Quiet (tokens (s!"pub struct {m.typeName}" ++ " \x7b")) := by
    simp [Quiet, tokens, toString, htype]
  have hfield : ∀ f ∈ m.values ++ m.stores, Quiet (tokens s!"pub {f.name}: {f.type.text},") := by
    intro f hf parameter
    rw [tokens_declaration (h.fields f hf), lineMentions, whole?_eq_none (by simp) (by simp)]
    simp [(read_type (h.fields f hf).type).2]
  have hempty : Quiet [] := by simp [Quiet, tokens]
  simp only [Module.structCode, lexed_line, lexed_block, lexed_blank, lexed_nil,
    List.forall_mem_cons, List.forall_mem_append]
  rw [lexed_map_line, List.forall_mem_map]
  exact ⟨hderive, hhead, hfield, quiet_brace, hempty, List.forall_mem_nil _⟩

/-- The constructor is quiet behind its comment. -/
theorem quiet_constructorCode (h : m.Spelled) : ∀ l ∈ lexed m.constructorCode.tail, Quiet l := by
  have hvalues : ∀ f ∈ m.values, f.Spelled := fun f hf => h.fields f (List.mem_append_left _ hf)
  have hstores : ∀ f ∈ m.stores, f.Spelled := fun f hf => h.fields f (List.mem_append_right _ hf)
  have huse : Quiet (tokens "#[must_use]") := by simp [Quiet, tokens]
  have hnew : ∀ parameters, parameters = ", ".intercalate (m.values.map fun f =>
      s!"{f.name}: {f.type.text}") →
        Quiet (tokens (s!"pub fn new({parameters}) -> Self" ++ " \x7b")) := by
    rintro _ rfl parameter
    -- The text is put together by its end, so the parameters stand between two known parts.
    have hrest : ∀ before, mentionsFrom parameter before (tokens ") -> Self \x7b") = [] := by
      simp [tokens]
    have hparameters := mentionsFrom_parameters hvalues parameter hrest (some (.sign '('))
    have hstart : ∀ text, tokens ("pub fn new(" ++ text) =
        .word "pub" :: .word "fn" :: .word "new" :: .sign '(' :: tokens text := by
      intro text
      simp [tokens]
    have hhead : ∀ parameters : String, s!"pub fn new({parameters}) -> Self" ++ " \x7b" =
        "pub fn new(" ++ (parameters ++ ") -> Self \x7b") := by
      intro parameters
      simp [← String.toList_inj, toString]
    rw [hhead, hstart, lineMentions, whole?_eq_none (by simp) (by simp)]
    simp [hparameters]
  have hself : Quiet (tokens ("Self" ++ " \x7b")) := by simp [Quiet, tokens]
  have hvalue : ∀ f ∈ m.values, Quiet (tokens s!"{f.name},") := by
    intro f hf
    have hname : IsWord f.name := isWord_of_fieldName (hvalues f hf).name
    simp [Quiet, tokens, toString, hname]
  have hstore : ∀ f ∈ m.stores, Quiet (tokens s!"{f.name}: {f.type.initial},") := by
    intro f hf
    have hname : IsWord f.name := isWord_of_fieldName (hstores f hf).name
    have hinitial : f.type.initial = "None" ∨ f.type.initial = "Vec::new()" ∨
        f.type.initial = "IndexMap::new()" := by
      cases f.type <;> simp [FieldType.initial]
    rcases hinitial with hinitial | hinitial | hinitial <;>
      simp [Quiet, tokens, toString, hname, hinitial]
  simp only [Module.constructorCode, List.tail_cons, lexed_line, lexed_block, lexed_append,
    lexed_map_line, lexed_nil, List.forall_mem_cons, List.forall_mem_append, List.forall_mem_map,
    List.append_assoc]
  exact ⟨huse, hnew _ rfl, ⟨hself, hvalue, hstore, quiet_brace, List.forall_mem_nil _⟩, quiet_brace,
    List.forall_mem_nil _⟩

end Quiet

section Module

variable {m : Module}

/-- The imports mention the types that they import. -/
theorem mentions_importCode (h : m.Spelled) (parameter : Option Parameter) :
    mentions parameter (lexed m.importCode) = (if m.usesTables then [Mention.tables] else []) ++
      m.imports.map fun i => Mention.other i.moduleName i.typeName := by
  have himport : ∀ i ∈ m.imports, ∀ parameter, True →
      mentions parameter [tokens s!"use super::{i.moduleName}::{i.typeName};"] =
        [Mention.other i.moduleName i.typeName] ∧ True := by
    intro i hi parameter _
    obtain ⟨name, hname⟩ := h.imports i hi
    have hmodule : IsWord i.moduleName := by simpa [hname] using isWord_fieldName name
    have htype : IsWord i.typeName := by simpa [hname] using isWord_typeName name
    simp [mentions, tokens, toString, hmodule, htype]
  have himports : ∀ parameter, mentions parameter (m.imports.map fun i =>
      tokens s!"use super::{i.moduleName}::{i.typeName};") =
        m.imports.map fun i => Mention.other i.moduleName i.typeName := by
    intro parameter
    rw [List.map_eq_flatMap, List.map_eq_flatMap]
    exact (mentions_flatMap (fun _ => True) himport trivial).1
  have htables : ∀ parameter, mentions parameter (lexed (if m.usesTables then
      [line "use indexmap::IndexMap;"] else [])) =
        if m.usesTables then [Mention.tables] else [] := by
    intro parameter
    split <;> simp [mentions, tokens]
  have hfmt : ∀ parameter, mentions parameter [tokens "use std::fmt;"] = [] := by
    simp [mentions, tokens]
  have hother : ∀ parameter, mentions parameter (lexed (if m.imports.isEmpty then []
      else blank :: m.imports.map fun i => line s!"use super::{i.moduleName}::{i.typeName};")) =
        m.imports.map fun i => Mention.other i.moduleName i.typeName := by
    intro parameter
    split
    · next hempty => simp [List.isEmpty_iff.1 hempty]
    · rw [lexed_blank, mentions_blank, lexed_map_line, himports]
  simp only [Module.importCode, lexed_append, lexed_line, lexed_blank, lexed_nil, mentions_append,
    htables, hfmt, hother, mentions_blank, mentions_nil, List.append_nil]

/-- The helper is mentioned where it is defined. -/
theorem mentions_helperCode (parameter : Option Parameter) :
    mentions parameter (lexed helperCode) = [.helper] := by
  simp [helperCode, mentions, tokens]

/-- The code of a module without its comments. -/
def Module.bareCode (m : Module) : List Code :=
  m.importCode ++ m.structCode ++
    [block s!"impl {m.typeName}" (m.constructorCode.tail ++ m.accessors.flatMap Accessors.code)] ++
    m.dumpCode ++ (if m.usesHelper then helperCode else [])

/-- The code of a module mentions what the module is said to. -/
theorem mentions_bareCode (h : m.Spelled) (parameter : Option Parameter) :
    mentions parameter (lexed m.bareCode) = m.mentions := by
  have htype : IsWord m.typeName := isWord_of_typeName h.type
  have himpl : ∀ parameter rest, mentions parameter
      (tokens (s!"impl {m.typeName}" ++ " \x7b") :: rest) = mentions parameter rest := by
    intro parameter rest
    simp [tokens, toString, mentions, htype]
  have haccessor : ∀ a ∈ m.accessors, ∀ parameter, True →
      mentions parameter (lexed a.code) = a.mentions ∧ True := fun a ha parameter _ =>
    ⟨mentions_code_accessors (h.accessors a ha) parameter, trivial⟩
  have haccessors : ∀ parameter, mentions parameter
      (lexed (m.accessors.flatMap Accessors.code)) = m.accessors.flatMap Accessors.mentions := by
    intro parameter
    rw [lexed_flatMap]
    exact (mentions_flatMap (fun _ => True) haccessor trivial).1
  have hhelper : ∀ parameter, mentions parameter
      (lexed (if m.usesHelper then helperCode else [])) =
        if m.usesHelper then [Mention.helper] else [] := by
    intro parameter
    split
    · exact mentions_helperCode parameter
    · rfl
  simp only [Module.bareCode, Module.mentions, lexed_append, lexed_block, mentions_append,
    mentions_importCode h, mentions_of_quiet (quiet_structCode h), himpl,
    mentions_of_quiet (quiet_constructorCode h), haccessors, mentions_brace, mentions_dumpCode h,
    hhelper, lexed_nil, mentions_nil, List.append_nil, List.nil_append, List.append_assoc]

end Module

end DocSchema.Source
