import DocSchema.Proofs.Source.Tokens

/-!
# What generated code mentions

The tokens of code are read for the types that it imports, for the helper, for the fields of the
object that a method belongs to, and for the fields of an object that a method takes as a parameter
(`mentions`). The parameter is that of the last function that has begun (`scope`), so that the
mentions of code in two parts depend on the first one by that alone (`mentions_append`). What a
generated module is to mention is read off the module before it is text (`Module.mentions`,
`mem_mentions_module`).
-/

namespace DocSchema.Source

open Code

/-- A parameter that a function takes an object by. -/
structure Parameter where
  /-- The name. -/
  name : String
  /-- The type of the object. -/
  type : String
deriving DecidableEq, Repr

/-- What code mentions of a struct, of the modules around it and of the helper. -/
inductive Mention where
  /-- The type of tables is imported. -/
  | tables
  /-- The type of another module is imported. -/
  | other (moduleName typeName : String)
  /-- The helper is defined. -/
  | helper
  /-- The helper is called, or handed on to be called. -/
  | call
  /-- A field of the object itself. -/
  | own (field : String)
  /-- A field of an object that is a parameter, with the type of that and the tokens behind. -/
  | entry (type field : String) (behind : List Token)
deriving DecidableEq, Repr

/-- The object that a function takes besides the one that it changes. -/
def parameter? (l : List Token) : Option Parameter :=
  if (l.drop 3).take 5 = tokens "(&mut self," then
    match (l.drop 8).filter (· ≠ .sign '&') with
    | .word name :: _ :: .word type :: _ => some ⟨name, type⟩
    | _ => none
  else none

/-- The object that is a parameter in a line, given the one in the line before. -/
def scope (parameter : Option Parameter) (l : List Token) : Option Parameter :=
  if l.take 2 = tokens "pub fn" ∨ l.take 1 = tokens "fn" then parameter? l else parameter

/-- What a line says as a whole: an import, or the definition of the helper. -/
def whole? (l : List Token) : Option Mention :=
  if l = tokens "use indexmap::IndexMap;" then some .tables
  else if l.take 3 = tokens "fn render_value(" then some .helper
  else if l.take 4 = tokens "use super::" then
    match l.drop 4 with
    | [.word moduleName, .sign ':', .sign ':', .word typeName, .sign ';'] =>
      some (.other moduleName typeName)
    | _ => none
  else none

/-- The member that a dot leads to, with the tokens behind. -/
def member? : List Token → Option (String × List Token)
  | .sign '.' :: .word member :: rest => some (member, rest)
  | _ => none

/-- The field of the object itself that is spoken of from a token on. -/
def ownAt : Token → List Token → List Mention
  | .word w, rest =>
    match member? rest with
    | some (field, _) => if w = "self" then [.own field] else []
    | none => []
  | _, _ => []

/-- The field of a parameter that is spoken of from a token on. -/
def entryAt (parameter : Option Parameter) : Token → List Token → List Mention
  | .word w, rest =>
    match parameter, member? rest with
    | some p, some (field, behind) => if w = p.name then [.entry p.type field behind] else []
    | _, _ => []
  | _, _ => []

/-- The call of the helper that a token is: arguments stand behind it, or it is one itself. -/
def callAt (before : Option Token) : Token → List Token → List Mention
  | .word w, rest =>
    if rest.head? = some (.sign '(') ∧ before ≠ some (.word "fn") ∨
        rest.head? = some (.sign ')') ∧ before = some (.sign '(') then
      if w = "render_value" then [.call] else []
    else []
  | _, _ => []

/-- What the parts of a line mention. What stands behind a dot belongs to what stands before it. -/
def mentionsFrom (parameter : Option Parameter) (before : Option Token) : List Token → List Mention
  | [] => []
  | t :: rest =>
    (if before = some (.sign '.') then []
      else ownAt t rest ++ entryAt parameter t rest ++ callAt before t rest) ++
      mentionsFrom parameter (some t) rest

/-- What a line mentions. -/
def lineMentions (parameter : Option Parameter) (l : List Token) : List Mention :=
  (whole? l).toList ++ mentionsFrom parameter none l

/-- What lines mention, in order. -/
def mentions (parameter : Option Parameter) : List (List Token) → List Mention
  | [] => []
  | l :: rest => lineMentions (scope parameter l) l ++ mentions (scope parameter l) rest

section Reading

variable {lines : List (List Token)}

/-- No lines mention nothing. -/
@[simp] theorem mentions_nil (parameter : Option Parameter) : mentions parameter [] = [] := rfl

/-- The mentions of lines in two parts. -/
theorem mentions_append (parameter : Option Parameter) (front back : List (List Token)) :
    mentions parameter (front ++ back) =
      mentions parameter front ++ mentions (front.foldl scope parameter) back := by
  induction front generalizing parameter with
  | nil => rfl
  | cons l front ih => simp [mentions, ih]

/-- The mentions of pieces that are made for each item, where each leaves a scope that suits the
next one. -/
theorem mentions_flatMap {α : Type} {items : List α} {code : α → List (List Token)}
    {found : α → List Mention} (suits : Option Parameter → Prop)
    (h : ∀ a ∈ items, ∀ parameter, suits parameter →
      mentions parameter (code a) = found a ∧ suits ((code a).foldl scope parameter))
    {parameter : Option Parameter} (hsuits : suits parameter) :
    mentions parameter (items.flatMap code) = items.flatMap found ∧
      suits ((items.flatMap code).foldl scope parameter) := by
  induction items generalizing parameter with
  | nil => exact ⟨rfl, hsuits⟩
  | cons a items ih =>
    obtain ⟨ha, hnext⟩ := h a (by simp) parameter hsuits
    obtain ⟨hrest, hend⟩ := ih (fun b hb => h b (by simp [hb])) hnext
    exact ⟨by rw [List.flatMap_cons, mentions_append, ha, hrest, List.flatMap_cons],
      by rw [List.flatMap_cons, List.foldl_append]; exact hend⟩

/-- A line that mentions nothing, whatever object is a parameter there. -/
def Quiet (l : List Token) : Prop := ∀ parameter, lineMentions parameter l = []

/-- Quiet lines mention nothing. -/
theorem mentions_of_quiet (h : ∀ l ∈ lines, Quiet l) (parameter : Option Parameter) :
    mentions parameter lines = [] := by
  induction lines generalizing parameter with
  | nil => rfl
  | cons l lines ih =>
    obtain ⟨hl, hlines⟩ := List.forall_mem_cons.1 h
    rw [mentions, hl, ih hlines, List.nil_append]

/-- What a line says as a whole is mentioned. -/
theorem mem_mentions_of_whole? {l : List Token} {mention : Mention} (hl : l ∈ lines)
    (h : whole? l = some mention) (parameter : Option Parameter) :
    mention ∈ mentions parameter lines := by
  induction lines generalizing parameter with
  | nil => simp at hl
  | cons first lines ih =>
    rw [mentions, lineMentions]
    rcases List.mem_cons.1 hl with rfl | hl
    · rw [h]
      simp
    · exact List.mem_append_right _ (ih hl _)

end Reading

/-- The tokens behind the field that a key is read from, by the declared type of the field. -/
def keyTokens? (declared : List Token) : Option (List Token) :=
  if declared = tokens "Option<String>" then some (tokens ".clone().unwrap_or_default();")
  else if declared = tokens "Option<f64>" ∨ declared = tokens "Option<bool>" then
    some (tokens ".map(|value| value.to_string()).unwrap_or_default();")
  else if declared = tokens "Option<serde_json::Value>" then
    some (tokens ".as_ref().map(render_value).unwrap_or_default();")
  else none

/-- What the key of an item of a type mentions. -/
def IndexKey.mentions (type : String) : IndexKey → List Mention
  | none => []
  | text field => [.entry type field (tokens ".clone().unwrap_or_default();")]
  | shown field =>
    [.entry type field (tokens ".map(|value| value.to_string()).unwrap_or_default();")]
  | rendered field =>
    [.entry type field (tokens ".as_ref().map(render_value).unwrap_or_default();"), .call]

/-- What accessors mention. -/
def Accessors.mentions (a : Accessors) : List Mention :=
  match a.access with
  | .single | .sequence => List.replicate 4 (Mention.own a.field)
  | .table _ key =>
    key.mentions a.target ++ .own a.field :: (key.mentions a.target ++
      List.replicate 3 (.own a.field))

/-- What a part of a dump mentions. -/
def DumpPart.mentions : DumpPart → List Mention
  | value _ field | objects _ field _ => [.own field]
  | rendered _ field => [.own field, .call]

/-- What a module mentions. -/
def Module.mentions (m : Module) : List Mention :=
  (if m.usesTables then [Mention.tables] else []) ++
    m.imports.map (fun i => Mention.other i.moduleName i.typeName) ++
    m.accessors.flatMap Accessors.mentions ++ m.dump.flatMap DumpPart.mentions ++
    (if m.usesHelper then [Mention.helper] else [])

section Mentions

variable {m : Module}

/-- The type that a mention imports from another module. -/
def Mention.import? : Mention → Option (String × String)
  | other moduleName typeName => some (moduleName, typeName)
  | _ => none

/-- The field that a part of a dump shows. -/
def DumpPart.field : DumpPart → String
  | value _ field | rendered _ field | objects _ field _ => field

/-- A key mentions a field of the item, and the helper where it renders that. -/
theorem mem_mentions_indexKey {type : String} {key : IndexKey} {mention : Mention}
    (h : mention ∈ key.mentions type) :
    (∃ field behind, mention = .entry type field behind) ∨
      mention = .call ∧ ∃ field, key = .rendered field := by
  cases key with
  | none => simp [IndexKey.mentions] at h
  | text field | shown field =>
    rw [IndexKey.mentions, List.mem_singleton] at h
    exact .inl ⟨_, _, h⟩
  | rendered field =>
    rw [IndexKey.mentions, List.mem_cons, List.mem_singleton] at h
    exact h.imp (fun h => ⟨_, _, h⟩) fun h => ⟨h, field, rfl⟩

/-- Accessors mention the field of the relationship, and what the key of a table mentions. -/
theorem mem_mentions_accessors {a : Accessors} {mention : Mention} :
    mention ∈ a.mentions ↔ mention = .own a.field ∨
      ∃ lookupName key, a.access = .table lookupName key ∧ mention ∈ key.mentions a.target := by
  rw [Accessors.mentions]
  cases a.access with
  | single => simp
  | sequence => simp
  | table lookupName key =>
    simp only [List.reduceReplicate, List.mem_append, List.mem_cons, List.not_mem_nil, or_false,
      or_self, Access.table.injEq, ↓existsAndEq, and_true, exists_and_right, true_and]
    tauto

/-- A part of a dump mentions its field, and the helper where it renders that. -/
theorem mem_mentions_dumpPart {part : DumpPart} {mention : Mention} :
    mention ∈ part.mentions ↔ mention = .own part.field ∨
      mention = .call ∧ ∃ label field, part = .rendered label field := by
  cases part <;> simp [DumpPart.mentions, DumpPart.field]

/-- What a module mentions. -/
theorem mem_mentions_module {mention : Mention} :
    mention ∈ m.mentions ↔ mention = .tables ∧ m.usesTables = true ∨
      (∃ i ∈ m.imports, mention = .other i.moduleName i.typeName) ∨
      (∃ a ∈ m.accessors, mention ∈ a.mentions) ∨ (∃ part ∈ m.dump, mention ∈ part.mentions) ∨
      mention = .helper ∧ m.usesHelper = true := by
  rw [Module.mentions]
  cases m.usesTables <;> cases m.usesHelper <;> simp [eq_comm]

/-- A mention that is no import and no definition. -/
def Mention.Inner (mention : Mention) : Prop :=
  mention.import? = none ∧ mention ≠ .tables ∧ mention ≠ .helper

/-- Accessors import nothing and define nothing. -/
theorem inner_of_mem_accessors {a : Accessors} {mention : Mention} (h : mention ∈ a.mentions) :
    mention.Inner := by
  rcases mem_mentions_accessors.1 h with rfl | ⟨_, _, _, h⟩
  · simp [Mention.Inner, Mention.import?]
  · rcases mem_mentions_indexKey h with ⟨_, _, rfl⟩ | ⟨rfl, _⟩ <;>
      simp [Mention.Inner, Mention.import?]

/-- A dump imports nothing and defines nothing. -/
theorem inner_of_mem_dumpPart {part : DumpPart} {mention : Mention} (h : mention ∈ part.mentions) :
    mention.Inner := by
  rcases mem_mentions_dumpPart.1 h with rfl | ⟨rfl, _⟩ <;> simp [Mention.Inner, Mention.import?]

/-- What is no import and no definition is mentioned by accessors or by the dump. -/
theorem Mention.Inner.mem_mentions_iff {mention : Mention} (h : mention.Inner) :
    mention ∈ m.mentions ↔
      (∃ a ∈ m.accessors, mention ∈ a.mentions) ∨ ∃ part ∈ m.dump, mention ∈ part.mentions := by
  obtain ⟨himport, htables, hhelper⟩ := h
  have hother : ¬ ∃ i ∈ m.imports, mention = .other i.moduleName i.typeName := by
    rintro ⟨i, -, rfl⟩
    cases himport
  rw [mem_mentions_module]
  simp [htables, hhelper, hother]

/-- What is an import or a definition is mentioned by neither accessors nor the dump. -/
theorem mem_mentions_iff_of_not_inner {mention : Mention} (h : ¬ mention.Inner) :
    mention ∈ m.mentions ↔ mention = .tables ∧ m.usesTables = true ∨
      (∃ i ∈ m.imports, mention = .other i.moduleName i.typeName) ∨
      mention = .helper ∧ m.usesHelper = true := by
  have haccessors : ¬ ∃ a ∈ m.accessors, mention ∈ a.mentions := by
    rintro ⟨a, -, hmention⟩
    exact h (inner_of_mem_accessors hmention)
  have hdump : ¬ ∃ part ∈ m.dump, mention ∈ part.mentions := by
    rintro ⟨part, -, hmention⟩
    exact h (inner_of_mem_dumpPart hmention)
  simp only [mem_mentions_module, haccessors, hdump, false_or]

/-- The type of tables is imported if and only if the module uses it. -/
theorem tables_mem_mentions_iff : .tables ∈ m.mentions ↔ m.usesTables = true := by
  have hinner : ¬ Mention.tables.Inner := by simp [Mention.Inner]
  simp [mem_mentions_iff_of_not_inner hinner]

/-- The helper is defined if and only if the module uses it. -/
theorem helper_mem_mentions_iff : .helper ∈ m.mentions ↔ m.usesHelper = true := by
  have hinner : ¬ Mention.helper.Inner := by simp [Mention.Inner]
  simp [mem_mentions_iff_of_not_inner hinner]

/-- The helper is called if and only if a part of the dump or a key renders a field. -/
theorem call_mem_mentions_iff : .call ∈ m.mentions ↔
    (∃ part ∈ m.dump, ∃ label field, part = .rendered label field) ∨
      ∃ a ∈ m.accessors, ∃ lookupName field, a.access = .table lookupName (.rendered field) := by
  have hinner : Mention.call.Inner := by simp [Mention.Inner, Mention.import?]
  have hkey : ∀ (type : String) (key : IndexKey), .call ∈ key.mentions type ↔
      ∃ field, key = .rendered field := by
    intro type key
    cases key <;> simp [IndexKey.mentions]
  rw [hinner.mem_mentions_iff]
  constructor
  · rintro (⟨a, ha, h⟩ | ⟨part, hpart, h⟩)
    · rcases mem_mentions_accessors.1 h with h | ⟨lookupName, key, haccess, h⟩
      · cases h
      · obtain ⟨field, rfl⟩ := (hkey _ key).1 h
        exact .inr ⟨a, ha, lookupName, field, haccess⟩
    · rcases mem_mentions_dumpPart.1 h with h | ⟨-, h⟩
      · cases h
      · exact .inl ⟨part, hpart, h⟩
  · rintro (⟨part, hpart, h⟩ | ⟨a, ha, lookupName, field, haccess⟩)
    · exact .inr ⟨part, hpart, mem_mentions_dumpPart.2 (.inr ⟨rfl, h⟩)⟩
    · have hcall := (hkey a.target _).2 ⟨field, rfl⟩
      exact .inl ⟨a, ha, mem_mentions_accessors.2 (.inr ⟨lookupName, _, haccess, hcall⟩)⟩

/-- A field of the object itself is mentioned if and only if it is that of accessors or of a part of
the dump. -/
theorem own_mem_mentions_iff {field : String} :
    .own field ∈ m.mentions ↔
      (∃ a ∈ m.accessors, field = a.field) ∨ ∃ part ∈ m.dump, field = part.field := by
  have hinner : (Mention.own field).Inner := by simp [Mention.Inner, Mention.import?]
  have haccessors : ∀ a : Accessors, .own field ∈ a.mentions ↔ field = a.field := by
    intro a
    have hkey : ∀ key : IndexKey, .own field ∉ key.mentions a.target := by
      intro key
      cases key <;> simp [IndexKey.mentions]
    simp [mem_mentions_accessors, hkey]
  have hdump : ∀ part : DumpPart, .own field ∈ part.mentions ↔ field = part.field := by
    simp [mem_mentions_dumpPart]
  simp only [hinner.mem_mentions_iff, haccessors, hdump]

/-- A field of an item is mentioned if and only if accessors do so. -/
theorem entry_mem_mentions_iff {type field : String} {behind : List Token} :
    .entry type field behind ∈ m.mentions ↔
      ∃ a ∈ m.accessors, .entry type field behind ∈ a.mentions := by
  have hinner : (Mention.entry type field behind).Inner := by simp [Mention.Inner, Mention.import?]
  have hdump : ∀ part : DumpPart, .entry type field behind ∉ part.mentions := by
    simp [mem_mentions_dumpPart]
  simp [hinner.mem_mentions_iff, hdump]

/-- The imports are those that a module mentions. -/
theorem filterMap_import?_mentions :
    m.mentions.filterMap Mention.import? = m.imports.map fun i => (i.moduleName, i.typeName) := by
  have htables : (if m.usesTables then [Mention.tables] else []).filterMap Mention.import? =
      [] := by split <;> rfl
  have hhelper : (if m.usesHelper then [Mention.helper] else []).filterMap Mention.import? =
      [] := by split <;> rfl
  have haccessors : (m.accessors.flatMap Accessors.mentions).filterMap Mention.import? = [] := by
    rw [List.filterMap_eq_nil_iff]
    intro mention hmention
    obtain ⟨a, -, hmention⟩ := List.mem_flatMap.1 hmention
    exact (inner_of_mem_accessors hmention).1
  have hdump : (m.dump.flatMap DumpPart.mentions).filterMap Mention.import? = [] := by
    rw [List.filterMap_eq_nil_iff]
    intro mention hmention
    obtain ⟨part, -, hmention⟩ := List.mem_flatMap.1 hmention
    exact (inner_of_mem_dumpPart hmention).1
  have himports : (m.imports.map fun i => Mention.other i.moduleName i.typeName).filterMap
      Mention.import? = m.imports.map fun i => (i.moduleName, i.typeName) := by
    rw [List.filterMap_map, ← List.filterMap_eq_map]
    rfl
  simp only [Module.mentions, List.filterMap_append, htables, himports, haccessors, hdump, hhelper,
    List.append_nil, List.nil_append]

end Mentions

section Helper

variable {reg : Registry} {c : EntityClass}

/-- The dump renders an attribute if and only if its kind is unknown. -/
theorem attributePart_eq_rendered_iff {a : Attribute} :
    (∃ label field, attributePart a = .rendered label field) ↔ a.kind = .any := by
  rw [attributePart]
  split
  · next hany => exact ⟨fun _ => hany, fun _ => ⟨_, _, rfl⟩⟩
  · next hknown =>
    refine ⟨?_, fun hany => absurd hany hknown⟩
    rintro ⟨_, _, hrendered⟩
    cases hrendered

/-- The key of a relationship is rendered if and only if the kind of its index field is unknown. -/
theorem access_eq_rendered_iff {r : Relationship} :
    (∃ lookupName field, (accessorsOf r (indexKind? reg r)).access =
      .table lookupName (.rendered field)) ↔ indexKind? reg r = some .any := by
  cases hstorage : r.storage with
  | single => simp [accessorsOf, indexKind?, hstorage, Storage.indexField?]
  | sequence => simp [accessorsOf, indexKind?, hstorage, Storage.indexField?]
  | indexed field =>
    simp only [accessorsOf, hstorage, Access.table.injEq]
    rcases indexKind? reg r with _ | _ | _ | _ | _ <;> simp [indexKey]

/-- The module of a class uses the helper if and only if its code calls it. The first is told by the
kinds of attributes and of index fields, the second by the parts of the module. -/
theorem usesHelper_ofClass_iff :
    (Module.ofClass reg c).usesHelper = true ↔ .call ∈ (Module.ofClass reg c).mentions := by
  have hdump : (∃ part ∈ (Module.ofClass reg c).dump, ∃ label field,
      part = .rendered label field) ↔ ∃ a ∈ c.shape.attributes, a.kind = .any := by
    constructor
    · rintro ⟨part, hpart, hrendered⟩
      rcases List.mem_append.1 hpart with hpart | hpart
      · obtain ⟨a, ha, rfl⟩ := List.mem_map.1 hpart
        exact ⟨a, ha, attributePart_eq_rendered_iff.1 hrendered⟩
      · -- What the dump shows of a relationship is never rendered.
        obtain ⟨r, -, rfl⟩ := List.mem_map.1 hpart
        obtain ⟨label, field, h⟩ := hrendered
        cases h
    · rintro ⟨a, ha, hany⟩
      exact ⟨_, List.mem_append_left _ (List.mem_map_of_mem ha),
        attributePart_eq_rendered_iff.2 hany⟩
  have haccessors : (∃ a ∈ (Module.ofClass reg c).accessors, ∃ lookupName field,
      a.access = .table lookupName (.rendered field)) ↔
        ∃ r ∈ c.shape.relationships, indexKind? reg r = some .any := by
    constructor
    · rintro ⟨_, ha, hrendered⟩
      obtain ⟨r, hr, rfl⟩ := List.mem_map.1 ha
      exact ⟨r, hr, access_eq_rendered_iff.1 hrendered⟩
    · rintro ⟨r, hr, hany⟩
      exact ⟨_, List.mem_map_of_mem hr, access_eq_rendered_iff.2 hany⟩
  rw [call_mem_mentions_iff, hdump, haccessors]
  simp [Module.ofClass]

end Helper

end DocSchema.Source
