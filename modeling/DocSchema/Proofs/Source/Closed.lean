import DocSchema.Proofs.Source.Comments
import DocSchema.Proofs.Source.Members
import DocSchema.Proofs.Source.Pieces

/-!
# Generated modules are closed

The source of a class is read as a compiler reads it: comments are left out, and the lines of code
are tokens (`codeTokens`). It is closed (`Closed`) if the types, the helper and the fields that it
uses are those that it imports, defines and declares, and those that the source of the class at the
other end declares. Where the comments of classes leave no code behind (`Harmless`), the source of a
class is the code of its module (`codeTokens_source`), and so it is closed (`closed_of_harmless`).
-/

namespace DocSchema.Source

open Code

/-- The tokens of the lines of a text that are no comments. -/
def codeTokens (text : String) : List (List Token) :=
  ((textLines text).filter fun l => !isComment l).map tokens

/-- The lines between the first one with a start and the brace that closes it. -/
def between (start : List Token) (lines : List (List Token)) : List (List Token) :=
  ((lines.dropWhile fun l => ¬ start <+: l).drop 1).takeWhile (· ≠ [.sign '\x7d'])

/-- The field that a line declares, with the tokens of its type. -/
def declaredField? : List Token → Option (String × List Token)
  | .word _ :: .word name :: .sign _ :: type => some (name, type.dropLast)
  | _ => none

/-- The fields that a struct declares, with the tokens of their types. -/
def declaredFields (lines : List (List Token)) : List (String × List Token) :=
  (between (tokens "pub struct") lines).filterMap declaredField?

/-- The field that a line begins with. -/
def initialField? : List Token → Option String
  | .word name :: _ => some name
  | _ => none

/-- The fields that a constructor gives a value. -/
def initialFields (lines : List (List Token)) : List String :=
  (between (tokens "Self \x7b") lines).filterMap initialField?

/-- What stands between a start and its brace is found, if no line before begins as the start. -/
theorem between_eq {start head : List Token} {front body rest : List (List Token)}
    (hstart : start ≠ []) (hfront : ∀ l ∈ front, l.head? ≠ start.head?) (hhead : start <+: head)
    (hbody : ∀ l ∈ body, l ≠ [.sign '\x7d']) :
    between start (front ++ head :: (body ++ [.sign '\x7d'] :: rest)) = body := by
  have hbefore : ∀ l ∈ front, ¬ start <+: l := by
    rintro l hl ⟨tail, rfl⟩
    exact hfront _ hl (List.head?_append_of_ne_nil _ hstart)
  have hdrop : (front ++ head :: (body ++ [.sign '\x7d'] :: rest)).dropWhile
      (fun l => ¬ start <+: l) = head :: (body ++ [.sign '\x7d'] :: rest) := by
    rw [List.dropWhile_append_of_pos (by simpa using hbefore),
      List.dropWhile_cons_of_neg (by simpa using hhead)]
  rw [between, hdrop, List.drop_succ_cons, List.drop_zero,
    List.takeWhile_append_of_pos (by simpa using hbody), List.takeWhile_cons_of_neg (by simp),
    List.append_nil]

section Module

variable {m : Module}

/-- A line of the imports begins with their keyword, if it is not empty. -/
theorem head?_of_mem_importCode {l : List Token} (hl : l ∈ lexed m.importCode) :
    l.head? = none ∨ l.head? = some (.word "use") := by
  have huse : ∀ text : String, (tokens ("use" ++ " " ++ text)).head? = some (.word "use") := by
    intro text
    rw [tokens_word_append (isWord_of_all (by decide) (by decide)), List.head?_cons]
  have hother : ∀ i : Import,
      (tokens s!"use super::{i.moduleName}::{i.typeName};").head? = some (.word "use") := by
    intro i
    have hline : s!"use super::{i.moduleName}::{i.typeName};" =
        "use" ++ " " ++ s!"super::{i.moduleName}::{i.typeName};" := by
      simp [← String.toList_inj, toString]
    rw [hline, huse]
  -- The lines one by one: the type of tables, the formatter, the other modules.
  have hlines : lexed m.importCode =
      (if m.usesTables then [tokens "use indexmap::IndexMap;"] else []) ++
        [tokens "use std::fmt;"] ++ (if m.imports.isEmpty then [] else [] :: m.imports.map fun i =>
          tokens s!"use super::{i.moduleName}::{i.typeName};") ++ [[]] := by
    rw [Module.importCode]
    split <;> split <;> simp
  rw [hlines] at hl
  simp only [List.mem_append] at hl
  rcases hl with ((hl | hl) | hl) | hl
  · split at hl
    · rw [List.mem_singleton.1 hl]
      exact .inr (huse "indexmap::IndexMap;")
    · cases hl
  · rw [List.mem_singleton.1 hl]
    exact .inr (huse "std::fmt;")
  · split at hl
    · cases hl
    · rcases List.mem_cons.1 hl with rfl | hl
      · exact .inl rfl
      · obtain ⟨i, -, rfl⟩ := List.mem_map.1 hl
        exact .inr (hother i)
  · rw [List.mem_singleton.1 hl]
    exact .inl rfl

/-- No line of the struct begins with the type itself. -/
theorem head?_of_mem_structCode (h : m.Spelled) {l : List Token} (hl : l ∈ lexed m.structCode) :
    l.head? ≠ some (.word "Self") := by
  simp only [Module.structCode, lexed_line, lexed_block, lexed_blank, lexed_nil, lexed_map_line,
    List.mem_cons, List.mem_append, List.mem_map, List.not_mem_nil, or_false] at hl
  rcases hl with rfl | rfl | ⟨f, hf, rfl⟩ | rfl | rfl
  · simp [tokens]
  · simp [tokens, toString]
  · rw [tokens_declaration (h.fields f (List.mem_append.2 hf))]
    simp
  · simp
  · simp

/-- The struct declares the fields of the module. -/
theorem declaredFields_bareCode (h : m.Spelled) :
    declaredFields ([] :: lexed m.bareCode) =
      (m.values ++ m.stores).map fun f => (f.name, tokens f.type.text) := by
  have hstart : tokens "pub struct" = [.word "pub", .word "struct"] := by decide
  have htype : IsWord m.typeName := isWord_of_typeName h.type
  have hline : ∀ f ∈ m.values ++ m.stores, tokens s!"pub {f.name}: {f.type.text}," =
      .word "pub" :: .word f.name :: .sign ':' :: (tokens f.type.text ++ [Token.sign ',']) :=
    fun f hf => tokens_declaration (h.fields f hf)
  -- The head of the struct, with what stands before it, in it and behind it.
  have hlines : [] :: lexed m.bareCode =
      ([] :: (lexed m.importCode ++ [tokens "#[derive(Debug, Clone, PartialEq)]"])) ++
        tokens (s!"pub struct {m.typeName}" ++ " \x7b") ::
          (((m.values ++ m.stores).map fun f => tokens s!"pub {f.name}: {f.type.text},") ++
            [.sign '\x7d'] :: [] :: lexed ([block s!"impl {m.typeName}"
              (m.constructorCode.tail ++ m.accessors.flatMap Accessors.code)] ++
                m.dumpCode ++ (if m.usesHelper then helperCode else []))) := by
    simp [Module.bareCode, Module.structCode]
  have hbetween : between (tokens "pub struct") ([] :: lexed m.bareCode) =
      (m.values ++ m.stores).map fun f => tokens s!"pub {f.name}: {f.type.text}," := by
    rw [hlines, hstart]
    refine between_eq (by simp) ?_ ?_ ?_
    · simp only [List.mem_cons, List.mem_append, List.not_mem_nil, or_false]
      rintro l (rfl | hl | rfl)
      · simp
      · rcases head?_of_mem_importCode hl with hl | hl <;> simp [hl]
      · simp [tokens]
    · simp [tokens, toString, htype]
    · refine List.forall_mem_map.2 fun f hf => ?_
      rw [hline f hf]
      simp
  rw [declaredFields, hbetween, List.filterMap_map, ← List.filterMap_eq_map]
  refine List.filterMap_congr fun f hf => ?_
  rw [Function.comp_apply, hline f hf]
  simp [declaredField?]

/-- The constructor gives each field of the module a value, in order. -/
theorem initialFields_bareCode (h : m.Spelled) :
    initialFields ([] :: lexed m.bareCode) = (m.values ++ m.stores).map Field.name := by
  have hstart : tokens "Self \x7b" = [.word "Self", .sign '\x7b'] := by decide
  have hvalue : ∀ f ∈ m.values, ∃ rest, tokens s!"{f.name}," = .word f.name :: rest := by
    intro f hf
    have hname : IsWord f.name := isWord_of_fieldName (h.fields f (List.mem_append_left _ hf)).name
    exact ⟨[.sign ','], by simp [tokens, toString, hname]⟩
  have hstore : ∀ f ∈ m.stores, ∃ rest,
      tokens s!"{f.name}: {f.type.initial}," = .word f.name :: rest := by
    intro f hf
    have hname : IsWord f.name := isWord_of_fieldName (h.fields f (List.mem_append_right _ hf)).name
    exact ⟨.sign ':' :: tokens (f.type.initial ++ ","), by simp [tokens, toString, hname]⟩
  obtain ⟨parameters, hparameters⟩ : ∃ parameters, parameters =
      ", ".intercalate (m.values.map fun f => s!"{f.name}: {f.type.text}") := ⟨_, rfl⟩
  -- The head of the values, with what stands before it, in it and behind it.
  have hlines : [] :: lexed m.bareCode =
      ([] :: (lexed m.importCode ++ lexed m.structCode ++
        [tokens (s!"impl {m.typeName}" ++ " \x7b"), tokens "#[must_use]",
          tokens (s!"pub fn new({parameters}) -> Self" ++ " \x7b")])) ++
        tokens "Self \x7b" :: ((m.values.map (fun f => tokens s!"{f.name},") ++
          m.stores.map fun f => tokens s!"{f.name}: {f.type.initial},") ++
            [.sign '\x7d'] :: [.sign '\x7d'] :: (lexed (m.accessors.flatMap Accessors.code) ++
              [.sign '\x7d'] ::
                lexed (m.dumpCode ++ (if m.usesHelper then helperCode else [])))) := by
    simp [Module.bareCode, Module.constructorCode, hparameters]
  have hbetween : between (tokens "Self \x7b") ([] :: lexed m.bareCode) =
      m.values.map (fun f => tokens s!"{f.name},") ++
        m.stores.map fun f => tokens s!"{f.name}: {f.type.initial}," := by
    rw [hlines]
    refine between_eq (by simp [hstart]) ?_ (List.prefix_refl _) ?_
    · rw [hstart]
      simp only [List.mem_cons, List.mem_append, List.not_mem_nil, or_false]
      rintro l (rfl | (hl | hl) | rfl | rfl | rfl)
      · simp
      · rcases head?_of_mem_importCode hl with hl | hl <;> simp [hl]
      · exact head?_of_mem_structCode h hl
      · simp [tokens, toString]
      · simp [tokens]
      · simp [tokens, toString]
    · refine List.forall_mem_append.2 ⟨List.forall_mem_map.2 fun f hf => ?_,
        List.forall_mem_map.2 fun f hf => ?_⟩
      · obtain ⟨rest, hrest⟩ := hvalue f hf
        simp [hrest]
      · obtain ⟨rest, hrest⟩ := hstore f hf
        simp [hrest]
  rw [initialFields, hbetween, List.filterMap_append, List.map_append, List.filterMap_map,
    List.filterMap_map, ← List.filterMap_eq_map]
  congr 1
  · refine List.filterMap_congr fun f hf => ?_
    obtain ⟨rest, hrest⟩ := hvalue f hf
    simp [hrest, initialField?]
  · refine List.filterMap_congr fun f hf => ?_
    obtain ⟨rest, hrest⟩ := hstore f hf
    simp [hrest, initialField?]

/-- The lines around the comments of a module are those of its code without comments. -/
theorem map_tokens_lines (m : Module) :
    (m.linesBefore ++ m.linesBehind).map tokens = lexed m.bareCode := by
  have hbrace : tokens "\x7d" = [.sign '\x7d'] := by decide
  have himpl : s!"impl {m.typeName}" ++ " \x7b" = "impl " ++ m.typeName ++ " \x7b" := by
    simp [toString]
  rw [Module.linesBefore, Module.linesBehind, Module.bareCode]
  simp only [List.map_append, List.map_cons, map_tokens_linesOf, hbrace, lexed_append, lexed_block,
    himpl, List.append_assoc, List.cons_append, List.nil_append]

end Module

section Source

variable {reg : Registry} {c : EntityClass}

/-- The comments of a class leave no code behind: whatever a reader finds in them is a comment. -/
def Harmless (c : EntityClass) : Prop :=
  ∀ l ∈ classComment c.qualifiedName ++ constructorComment c.name, ∀ piece ∈ pieces l,
    isComment piece = true

/-- The comments of a class whose names hold no line break leave no code behind. -/
theorem harmless_of_whole (hname : '\n' ∉ c.name.toList)
    (hnamespace : '\n' ∉ c.classNamespace.toList) : Harmless c := by
  intro l hl piece hpiece
  have hwhole := (whole_comments_iff c).2 ⟨hname, hnamespace⟩ l hl
  rw [pieces_of_notMem hwhole, List.mem_singleton] at hpiece
  rw [hpiece]
  exact isComment_of_mem_comments c.name c.qualifiedName l hl

/-- Plain lines are the code of their text. -/
theorem filter_pieces_of_plain {lines : List String} (h : ∀ l ∈ lines, PlainLine l) :
    (lines.flatMap pieces).filter (fun l => !isComment l) = lines := by
  rw [List.flatMap_congr fun l hl => pieces_of_notMem (h l hl).whole, List.flatMap_singleton',
    List.filter_eq_self]
  intro l hl
  simp [(h l hl).code]

/-- Lines that a reader finds nothing but comments in are no code. -/
theorem filter_pieces_of_comment {lines : List String}
    (h : ∀ l ∈ lines, ∀ piece ∈ pieces l, isComment piece = true) :
    (lines.flatMap pieces).filter (fun l => !isComment l) = [] := by
  rw [List.filter_eq_nil_iff]
  intro piece hpiece
  obtain ⟨l, hl, hpiece⟩ := List.mem_flatMap.1 hpiece
  simp [h l hl piece hpiece]

/-- Where its comments leave no code behind, the source of a class is the code of its module. -/
theorem codeTokens_source (reg : Registry) (h : Harmless c) :
    codeTokens (artifactOf reg c).source = [] :: lexed (Module.ofClass reg c).bareCode := by
  have hplain := (spelled_ofClass reg c).plainLine
  have hempty : (pieces "").filter (fun l => !isComment l) = [""] := by decide
  rw [List.forall_mem_append] at hplain
  rw [Harmless, List.forall_mem_append] at h
  rw [codeTokens, source_eq_ended, textLines_ended, ← map_tokens_lines]
  simp only [List.flatMap_append, List.flatMap_cons, List.filter_append,
    filter_pieces_of_comment h.1, filter_pieces_of_comment h.2, filter_pieces_of_plain hplain.1,
    filter_pieces_of_plain hplain.2, hempty, List.nil_append, List.append_nil]
  simp

/-- What the source of a class mentions. -/
def mentioned (reg : Registry) (c : EntityClass) : List Mention :=
  mentions none (codeTokens (artifactOf reg c).source)

/-- The fields that the source of a class declares, with the tokens of their types. -/
def fieldsOf (reg : Registry) (c : EntityClass) : List (String × List Token) :=
  declaredFields (codeTokens (artifactOf reg c).source)

/-- The source of a class is closed: what it uses is what it imports, defines and declares. -/
structure Closed (reg : Registry) (c : EntityClass) : Prop where
  /-- The type of tables is imported if and only if some field has it. -/
  tables : .tables ∈ mentioned reg c ↔
    ∃ field ∈ fieldsOf reg c, field.2.head? = some (.word "IndexMap")
  /-- It is if and only if some relationship is a table. -/
  indexed : .tables ∈ mentioned reg c ↔
    ∃ r ∈ c.shape.relationships, r.storage.indexField?.isSome = true
  /-- The imports from other modules are those of the targets other than the class itself, one for
  each in the order of first use. -/
  imports : (mentioned reg c).filterMap Mention.import? =
    (((c.shape.relationships.map Relationship.target).filter (· ≠ c.name)).eraseDups).map
      fun name => (fieldName name, typeName name)
  /-- The helper is defined if and only if it is called. -/
  helper : .helper ∈ mentioned reg c ↔ .call ∈ mentioned reg c
  /-- It is if and only if some value is untyped, an attribute or the index field of a table. -/
  untyped : .helper ∈ mentioned reg c ↔ (∃ a ∈ c.shape.attributes, a.kind = .any) ∨
    ∃ r ∈ c.shape.relationships, indexKind? reg r = some .any
  /-- The fields of the object itself that are mentioned are declared. -/
  own : ∀ field, .own field ∈ mentioned reg c → field ∈ (fieldsOf reg c).map Prod.fst
  /-- The constructor gives a value to the declared fields, to each as often as it is declared. -/
  initial : initialFields (codeTokens (artifactOf reg c).source) = (fieldsOf reg c).map Prod.fst
  /-- A field is declared once for each member, attributes before relationships. -/
  members : (fieldsOf reg c).map Prod.fst = (c.shape.attributes.map Attribute.name ++
    c.shape.relationships.map Relationship.storageKey).map fieldName
  /-- A field of an item that is mentioned is that of an item of a table, and the class of the items
  declares it with a type that is read in this way. -/
  entries : ∀ type field behind, .entry type field behind ∈ mentioned reg c →
    ∃ r ∈ c.shape.relationships, r.storage.indexField?.isSome = true ∧ type = typeName r.target ∧
      ∃ target, reg.find? r.target = some target ∧
        ∃ declared, (field, declared) ∈ fieldsOf reg target ∧ keyTokens? declared = some behind

/-- Where its comments leave no code behind, the source of a class mentions what its module does. -/
theorem mentioned_eq (h : Harmless c) : mentioned reg c = (Module.ofClass reg c).mentions := by
  rw [mentioned, codeTokens_source reg h, mentions_blank, mentions_bareCode (spelled_ofClass reg c)]

/-- It declares the fields of its module. -/
theorem fieldsOf_eq (h : Harmless c) :
    fieldsOf reg c = ((Module.ofClass reg c).values ++ (Module.ofClass reg c).stores).map
      fun f => (f.name, tokens f.type.text) := by
  rw [fieldsOf, codeTokens_source reg h, declaredFields_bareCode (spelled_ofClass reg c)]

/-- The names of the fields are those by which the members are stored. -/
theorem map_fst_fieldsOf (h : Harmless c) :
    (fieldsOf reg c).map Prod.fst = (Validation.storedNames c).map fieldName := by
  rw [fieldsOf_eq h, List.map_map, ← map_name_ofClass reg c]
  rfl

/-- Only tables have the type of tables. -/
theorem head?_type_iff {type : FieldType} :
    (tokens type.text).head? = some (.word "IndexMap") ↔ ∃ target, type = .table target := by
  cases type with
  | value kind => simp [FieldType.text_value, tokens]
  | single target => simp [FieldType.text_single, tokens]
  | sequence target => simp [FieldType.text_sequence, tokens]
  | table target => simp [FieldType.text_table, tokens]

/-- Some field has the type of tables if and only if some relationship is a table. -/
theorem exists_table_iff (h : Harmless c) :
    (∃ field ∈ fieldsOf reg c, field.2.head? = some (.word "IndexMap")) ↔
      ∃ r ∈ c.shape.relationships, r.storage.indexField?.isSome = true := by
  have hstore : ∀ r : Relationship, (∃ target, (storeField r).type = .table target) ↔
      r.storage.indexField?.isSome = true := by
    intro r
    cases hstorage : r.storage <;> simp [storeField, hstorage, Storage.indexField?]
  rw [fieldsOf_eq h]
  constructor
  · rintro ⟨_, hfield, hhead⟩
    obtain ⟨f, hf, rfl⟩ := List.mem_map.1 hfield
    obtain ⟨target, htype⟩ := head?_type_iff.1 hhead
    rcases List.mem_append.1 hf with hf | hf
    · obtain ⟨a, -, rfl⟩ := List.mem_map.1 hf
      cases htype
    · obtain ⟨r, hr, rfl⟩ := List.mem_map.1 hf
      exact ⟨r, hr, (hstore r).1 ⟨target, htype⟩⟩
  · rintro ⟨r, hr, hindexed⟩
    exact ⟨_, List.mem_map_of_mem (List.mem_append_right _ (List.mem_map_of_mem hr)),
      head?_type_iff.2 ((hstore r).2 hindexed)⟩

/-- The fields of the object itself that a module mentions are those by which the members are
stored. -/
theorem mem_storedNames_of_own {field : String}
    (h : .own field ∈ (Module.ofClass reg c).mentions) :
    field ∈ (Validation.storedNames c).map fieldName := by
  have hattribute : ∀ a ∈ c.shape.attributes, a.name ∈ Validation.storedNames c := fun a ha =>
    List.mem_append_left _ (List.mem_map_of_mem ha)
  have hrelationship : ∀ r ∈ c.shape.relationships, r.storageKey ∈ Validation.storedNames c :=
    fun r hr => List.mem_append_right _ (List.mem_map_of_mem hr)
  rcases own_mem_mentions_iff.1 h with ⟨a, ha, hfield⟩ | ⟨part, hpart, hfield⟩
  · obtain ⟨r, hr, rfl⟩ := List.mem_map.1 ha
    have hname : field = fieldName r.storageKey := by simpa only [accessorsOf] using hfield
    exact hname ▸ List.mem_map_of_mem (hrelationship r hr)
  · rcases List.mem_append.1 hpart with hpart | hpart
    · obtain ⟨a, ha, rfl⟩ := List.mem_map.1 hpart
      have hname : field = fieldName a.name := by
        rw [hfield, attributePart]
        split <;> simp only [DumpPart.field]
      exact hname ▸ List.mem_map_of_mem (hattribute a ha)
    · obtain ⟨r, hr, rfl⟩ := List.mem_map.1 hpart
      have hname : field = fieldName r.storageKey := by
        rw [hfield, relationshipPart]
        simp only [DumpPart.field]
      exact hname ▸ List.mem_map_of_mem (hrelationship r hr)

/-- A key that is read from a field of some kind mentions that field only, and reads it as the type
for the kind is read. -/
theorem exists_keyTokens (item index : String) (kind : Kind) :
    ∃ behind, keyTokens? (tokens (FieldType.value kind).text) = some behind ∧
      ∀ type field other, .entry type field other ∈ (indexKey index (some kind)).mentions item →
        type = item ∧ field = fieldName index ∧ other = behind := by
  rw [FieldType.text_value]
  cases kind with
  | string =>
    exact ⟨tokens ".clone().unwrap_or_default();", by decide, by simp [indexKey, IndexKey.mentions]⟩
  | number =>
    exact ⟨tokens ".map(|value| value.to_string()).unwrap_or_default();", by decide,
      by simp [indexKey, IndexKey.mentions]⟩
  | boolean =>
    exact ⟨tokens ".map(|value| value.to_string()).unwrap_or_default();", by decide,
      by simp [indexKey, IndexKey.mentions]⟩
  | any =>
    exact ⟨tokens ".as_ref().map(render_value).unwrap_or_default();", by decide,
      by simp [indexKey, IndexKey.mentions]⟩

/-- The kind that a key is made for is that with which the class of the items declares the index
field. -/
theorem mem_fieldsOf_of_indexKind? (hreg : ∀ d ∈ reg.classes, Harmless d) {r : Relationship}
    {index : String} {kind : Kind} (hstorage : r.storage = .indexed index)
    (hkind : indexKind? reg r = some kind) :
    ∃ target, reg.find? r.target = some target ∧
      (fieldName index, tokens (FieldType.value kind).text) ∈ fieldsOf reg target := by
  simp only [indexKind?, hstorage, Storage.indexField?, Option.bind_eq_bind, Option.bind_some,
    Option.bind_eq_some_iff] at hkind
  obtain ⟨target, hfind, hkind⟩ := hkind
  rw [Shape.kind?, Option.map_eq_some_iff] at hkind
  obtain ⟨a, ha, rfl⟩ := hkind
  have hname : a.name = index := by simpa using List.find?_some ha
  have hfield : attributeField a ∈ (Module.ofClass reg target).values :=
    List.mem_map_of_mem (List.mem_of_find?_eq_some ha)
  refine ⟨target, hfind, ?_⟩
  rw [fieldsOf_eq (hreg target (Registry.mem_of_find? hfind))]
  refine List.mem_map.2 ⟨_, List.mem_append_left _ hfield, ?_⟩
  simp only [attributeField, hname]

/-- Accessors mention a field of an item only if they are those of a table and the class of the
items declares the field with a type that is read in this way. -/
theorem declared_of_entry (hreg : ∀ d ∈ reg.classes, Harmless d) {r : Relationship}
    {type field : String} {behind : List Token}
    (h : .entry type field behind ∈ (accessorsOf r (indexKind? reg r)).mentions) :
    r.storage.indexField?.isSome = true ∧ type = typeName r.target ∧
      ∃ target, reg.find? r.target = some target ∧
        ∃ declared, (field, declared) ∈ fieldsOf reg target ∧
          keyTokens? declared = some behind := by
  rcases mem_mentions_accessors.1 h with h | ⟨lookupName, key, haccess, h⟩
  · cases h
  · obtain ⟨index, hstorage, -, rfl⟩ := storage_of_access haccess
    have hindexed : r.storage.indexField?.isSome = true := by simp [hstorage, Storage.indexField?]
    cases hkind : indexKind? reg r with
    | none => simp [hkind, indexKey, IndexKey.mentions] at h
    | some kind =>
      rw [hkind] at h
      obtain ⟨expected, hexpected, honly⟩ := exists_keyTokens _ index kind
      obtain ⟨htype, hfield, hbehind⟩ := honly type field behind h
      obtain ⟨target, hfind, hmem⟩ := mem_fieldsOf_of_indexKind? hreg hstorage hkind
      have hname : type = typeName r.target := by
        rw [htype]
        simp only [accessorsOf]
      exact ⟨hindexed, hname, target, hfind, _, hfield ▸ hmem, hbehind ▸ hexpected⟩

/-- Where the comments of classes leave no code behind, the source of every class is closed. -/
theorem closed_of_harmless (hreg : ∀ d ∈ reg.classes, Harmless d) (hc : c ∈ reg.classes) :
    Closed reg c := by
  have hmentioned : mentioned reg c = (Module.ofClass reg c).mentions := mentioned_eq (hreg c hc)
  have hfields : (fieldsOf reg c).map Prod.fst = (Validation.storedNames c).map fieldName :=
    map_fst_fieldsOf (hreg c hc)
  have hindexed : .tables ∈ mentioned reg c ↔
      ∃ r ∈ c.shape.relationships, r.storage.indexField?.isSome = true := by
    rw [hmentioned, tables_mem_mentions_iff]
    simp [Module.ofClass]
  constructor
  case tables => rw [hindexed, exists_table_iff (hreg c hc)]
  case indexed => exact hindexed
  case imports =>
    rw [hmentioned, filterMap_import?_mentions]
    simp [Module.ofClass, otherClasses, firstOccurrences_eq]
  case helper => rw [hmentioned, helper_mem_mentions_iff, usesHelper_ofClass_iff]
  case untyped =>
    rw [hmentioned, helper_mem_mentions_iff]
    simp [Module.ofClass]
  case own =>
    intro field h
    rw [hmentioned] at h
    rw [hfields]
    exact mem_storedNames_of_own h
  case initial =>
    rw [codeTokens_source reg (hreg c hc), initialFields_bareCode (spelled_ofClass reg c), hfields,
      map_name_ofClass]
  case members => exact hfields
  case entries =>
    intro type field behind h
    rw [hmentioned, entry_mem_mentions_iff] at h
    obtain ⟨a, ha, h⟩ := h
    obtain ⟨r, hr, rfl⟩ := List.mem_map.1 ha
    exact ⟨r, hr, declared_of_entry hreg h⟩

/-- A document with a table under untyped keys, a sequence and a single object. -/
def untypedKeys : Json :=
  .object [
    ("table_users", .object [("first", .object [("id", .null), ("name", .string "a")])]),
    ("notes", .array [.object [("text", .string "b")]]),
    ("owner", .object [("name", .string "c")])]

/-- The sources of the classes of a document are closed, and one of them reads a key of an item of
another class. -/
theorem closed_of_harmless_untypedKeys :
    ∃ reg, Registry.inferDocument "root" untypedKeys "" .union = .ok reg ∧
      (∀ d ∈ reg.classes, Harmless d) ∧ (∀ c ∈ reg.classes, Closed reg c) ∧
      ∃ c ∈ reg.classes, .entry "User" "id"
        (tokens ".as_ref().map(render_value).unwrap_or_default();") ∈ mentioned reg c := by
  have hcheck : (Registry.inferDocument "root" untypedKeys "" .union).toOption.any
      (fun reg => decide ((∀ c ∈ reg.classes, '\n' ∉ c.name.toList ∧
        '\n' ∉ c.classNamespace.toList) ∧ ∃ c ∈ reg.classes, Mention.entry "User" "id"
          (tokens ".as_ref().map(render_value).unwrap_or_default();") ∈
            (Module.ofClass reg c).mentions)) = true := by
    decide +kernel
  obtain ⟨reg, hinfer, htest⟩ := Chain.exists_of_any hcheck
  obtain ⟨hnames, c, hc, hentry⟩ := of_decide_eq_true htest
  have hharmless : ∀ d ∈ reg.classes, Harmless d := fun d hd =>
    harmless_of_whole (hnames d hd).1 (hnames d hd).2
  refine ⟨reg, hinfer, hharmless, fun c hc => closed_of_harmless hharmless hc, c, hc, ?_⟩
  rwa [mentioned_eq (hharmless c hc)]

/-- A document with a key that goes over three lines, the second one an import. -/
def importingKey : Json := .object [("x\nuse super::y::Y;\n//", .object [])]

/-- The source of a class without relationships imports what a line of its name says. -/
theorem not_closed_importingKey :
    ∃ reg, Registry.inferDocument "root" importingKey "" .union = .ok reg ∧
      ∃ c ∈ reg.classes, c.name = "x\nuse super::y::Y;\n//" ∧ c.shape.relationships = [] ∧
        "use super::y::Y;" ∈ textLines (artifactOf reg c).source ∧ ¬ Closed reg c := by
  have hcheck : (Registry.inferDocument "root" importingKey "" .union).toOption.any
      (fun reg => reg.classes.any fun c => decide
        (c.name = "x\nuse super::y::Y;\n//" ∧ c.qualifiedName = "x\nuse super::y::Y;\n//" ∧
          c.shape.relationships = [])) = true := by
    decide +kernel
  obtain ⟨reg, hinfer, htest⟩ := Chain.exists_of_any hcheck
  obtain ⟨c, hc, hnames⟩ := List.any_eq_true.1 htest
  obtain ⟨hname, hqualified, hrelationships⟩ := of_decide_eq_true hnames
  have hline : "use super::y::Y;" ∈ textLines (artifactOf reg c).source := by
    refine mem_textLines_source reg ?_
    rw [hqualified]
    decide
  have htokens : tokens "use super::y::Y;" ∈ codeTokens (artifactOf reg c).source :=
    List.mem_map_of_mem (List.mem_filter.2 ⟨hline, by decide⟩)
  have hmention : .other "y" "Y" ∈ mentioned reg c :=
    mem_mentions_of_whole? htokens (by decide) none
  have himport : ("y", "Y") ∈ (mentioned reg c).filterMap Mention.import? :=
    List.mem_filterMap.2 ⟨_, hmention, rfl⟩
  refine ⟨reg, hinfer, c, hc, hname, hrelationships, hline, fun hclosed => ?_⟩
  rw [hclosed.imports, hrelationships] at himport
  simp at himport

end Source

end DocSchema.Source
