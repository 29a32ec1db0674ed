import DocSchema.Proofs.Chain
import DocSchema.Proofs.Source.Spelling
import DocSchema.Schema.Inference
import DocSchema.Source.Artifact

/-!
# Names in comments

Generated files hold the name of a class, its qualified name and a namespace as they are in comments
only. The text of a module is plain lines around two comments (`Module.text_eq_ended`), that of the
file that declares all modules is plain lines behind one (`moduleFile_eq_ended`). The comments keep
to their lines if and only if the names hold no line break (`commentsHold_iff_whole`).
-/

namespace DocSchema.Source

open Code

/-- The comment that opens the module of a class. -/
def classComment (qualifiedName : String) : List String :=
  [generatedNotice, "//!", "//! Class `" ++ qualifiedName ++ "`."]

/-- The comment that opens the file that declares all modules. -/
def namespaceComment (namespaceName : String) : List String :=
  [generatedNotice, "//!", "//! Namespace `" ++ namespaceName ++ "`."]

/-- The comment before the constructor of a class. -/
def constructorComment (className : String) : List String :=
  ["    /// Creates a `" ++ className ++ "` from its attribute values."]

/-- A text opens with the comment lines of a header and an empty line, and other comment lines than
these and those for its members are not in it. -/
structure CommentsHold (text : String) (header members : List String) : Prop where
  /-- The header and an empty line stand first. -/
  opens : ∃ rest, textLines text = header ++ "" :: rest
  /-- The comment lines are those of the header and those for the members. -/
  comments : (textLines text).filter isComment = header ++ members

namespace Module

variable (m : Module)

/-- The lines of a module between the header and the comment of its constructor. -/
def linesBefore : List String :=
  linesOf 0 (m.importCode ++ m.structCode) ++ ["impl " ++ m.typeName ++ " \x7b"]

/-- The lines of a module behind the comment of its constructor. -/
def linesBehind : List String :=
  linesOf 1 (m.constructorCode.tail ++ m.accessors.flatMap Accessors.code) ++
    "\x7d" :: linesOf 0 (m.dumpCode ++ if m.usesHelper then helperCode else [])

/-- The header is three comment lines and an empty line. -/
theorem linesOf_headerCode : linesOf 0 m.headerCode = classComment m.qualifiedName ++ [""] := by
  simp [headerCode, linesAt, indentation, classComment]

/-- The constructor has one comment line in front. -/
theorem linesOf_constructorCode :
    linesOf 1 m.constructorCode =
      constructorComment m.className ++ linesOf 1 m.constructorCode.tail := by
  have hcode : m.constructorCode =
      line ("/// Creates a `" ++ m.className ++ "` from its attribute values.") ::
        m.constructorCode.tail := by
    simp only [constructorCode, List.tail_cons]
  have hline : linesAt 1 (line ("/// Creates a `" ++ m.className ++
      "` from its attribute values.")) = constructorComment m.className := by
    simp [← String.toList_inj, linesAt, indentation, constructorComment, List.replicate]
  rw [hcode, linesOf_cons, hline, List.tail_cons]

/-- The text of a module is lines of code around its two comments. -/
theorem text_eq_ended :
    m.text = ended (classComment m.qualifiedName ++
      "" :: (m.linesBefore ++ constructorComment m.className ++ m.linesBehind)) := by
  have hblock : ∀ (head : String) (body : List Code), linesAt 0 (block head body) =
      (head ++ " \x7b") :: (linesOf 1 body ++ ["\x7d"]) := by
    intro head body
    simp [linesAt, indentation]
  have himpl : s!"impl {m.typeName}" = "impl " ++ m.typeName := by simp [toString]
  rw [text, Code.text, textsAt_eq_ended, code, linesBefore, linesBehind]
  simp [linesOf_headerCode, linesOf_constructorCode, hblock, himpl]

/-- Other names in the comments of a module change nothing else in its text. -/
theorem text_named (className qualifiedName : String) :
    ({ m with className, qualifiedName } : Module).text =
      ended (classComment qualifiedName ++
        "" :: (m.linesBefore ++ constructorComment className ++ m.linesBehind)) :=
  text_eq_ended { m with className, qualifiedName }

variable {m}

/-- Apart from its two comments a module is plain. -/
theorem Spelled.plainLine (h : m.Spelled) : ∀ l ∈ m.linesBefore ++ m.linesBehind, PlainLine l := by
  have hbefore : ∀ code ∈ m.importCode ++ m.structCode, Plain code :=
    List.forall_mem_append.2 ⟨plain_importCode h, plain_structCode h⟩
  have haccessors : ∀ code ∈ m.accessors.flatMap Accessors.code, Plain code := by
    intro code hcode
    obtain ⟨a, ha, hcode⟩ := List.mem_flatMap.1 hcode
    exact plain_code_accessors (h.accessors a ha) code hcode
  have hmembers : ∀ code ∈ m.constructorCode.tail ++ m.accessors.flatMap Accessors.code,
      Plain code := List.forall_mem_append.2 ⟨plain_constructorCode h, haccessors⟩
  have hafter : ∀ code ∈ m.dumpCode ++ (if m.usesHelper then helperCode else []), Plain code := by
    refine List.forall_mem_append.2 ⟨plain_dumpCode h, ?_⟩
    split
    · exact plain_helperCode
    · exact List.forall_mem_nil _
  have himpl : PlainLine ("impl " ++ m.typeName ++ " \x7b") :=
    .of_first (by simp [h.whole]) (by simp)
  have hend : PlainLine "\x7d" := ⟨by decide, by decide⟩
  rw [linesBefore, linesBehind]
  simp only [List.forall_mem_append, List.forall_mem_cons]
  exact ⟨⟨fun l => plainLine_of_mem_linesOf hbefore, himpl, List.forall_mem_nil _⟩,
    fun l => plainLine_of_mem_linesOf hmembers, hend, fun l => plainLine_of_mem_linesOf hafter⟩

end Module

/-- The source of a class is lines of code around its two comments. -/
theorem source_eq_ended (reg : Registry) (c : EntityClass) :
    (artifactOf reg c).source = ended (classComment c.qualifiedName ++
      "" :: ((Module.ofClass reg c).linesBefore ++ constructorComment c.name ++
        (Module.ofClass reg c).linesBehind)) :=
  Module.text_eq_ended (Module.ofClass reg c)

/-- The text of the file that declares all modules is lines of code behind its comment. -/
theorem moduleFile_eq_ended (reg : Registry) (namespaceName : String)
    (classes : List EntityClass) :
    moduleFile namespaceName (classes.map (artifactOf reg)) =
      ended (namespaceComment namespaceName ++
        "" :: (classes.map (fun c => "pub mod " ++ fieldName c.name ++ ";") ++
          "" :: classes.map fun c =>
            "pub use " ++ fieldName c.name ++ "::" ++ typeName c.name ++ ";")) := by
  have hlines : ∀ text : EntityClass → String,
      linesOf 0 (classes.map fun c => line (text c)) = classes.map text := by
    intro text
    rw [linesOf_eq_flatMap, List.flatMap_map, List.map_eq_flatMap]
    simp [linesAt, indentation]
  rw [moduleFile, Code.text, textsAt_eq_ended]
  simp [artifactOf, namespaceComment, hlines, linesAt, indentation, Function.comp_def, toString]

/-- The lines behind the comment of the file that declares all modules are plain. -/
theorem plainLine_moduleFile (classes : List EntityClass) :
    ∀ l ∈ classes.map (fun c => "pub mod " ++ fieldName c.name ++ ";") ++
      "" :: classes.map fun c => "pub use " ++ fieldName c.name ++ "::" ++ typeName c.name ++ ";",
      PlainLine l := by
  refine List.forall_mem_append.2 ⟨List.forall_mem_map.2 fun c _ => ?_,
    List.forall_mem_cons.2 ⟨⟨by decide, by decide⟩, List.forall_mem_map.2 fun c _ => ?_⟩⟩
  · exact .of_first (by simp) (by simp)
  · exact .of_first (by simp) (by simp)

/-- Lines of code around comments leave these whole if and only if the comments hold no line
break. -/
theorem commentsHold_iff {text : String} {header members front back : List String}
    (htext : text = ended (header ++ "" :: (front ++ members ++ back)))
    (hplain : ∀ l ∈ front ++ back, PlainLine l)
    (hcomments : ∀ l ∈ header ++ members, isComment l = true) :
    CommentsHold text header members ↔ ∀ l ∈ header ++ members, '\n' ∉ l.toList := by
  constructor
  · intro h l hl
    have hmem : l ∈ (textLines text).filter isComment := h.comments ▸ hl
    exact notMem_of_mem_textLines (List.mem_of_mem_filter hmem)
  · intro hwhole
    rw [List.forall_mem_append] at hplain hcomments hwhole
    have hlines : textLines text = header ++ "" :: (front ++ members ++ back) := by
      rw [htext]
      refine textLines_ended_of_whole ?_
      simp only [List.forall_mem_append, List.forall_mem_cons]
      exact ⟨hwhole.1, by simp, ⟨fun l hl => (hplain.1 l hl).whole, hwhole.2⟩,
        fun l hl => (hplain.2 l hl).whole⟩
    have hcode : ∀ lines : List String, (∀ l ∈ lines, PlainLine l) →
        lines.filter isComment = [] := by
      intro lines hlines
      rw [List.filter_eq_nil_iff]
      intro l hl
      simp [(hlines l hl).code]
    have hempty : isComment "" = false := by decide
    refine ⟨⟨_, hlines⟩, ?_⟩
    rw [hlines, List.filter_append, List.filter_cons_of_neg (by simp [hempty]),
      List.filter_append, List.filter_append, hcode front hplain.1, hcode back hplain.2,
      List.filter_eq_self.2 hcomments.1, List.filter_eq_self.2 hcomments.2, List.nil_append,
      List.append_nil]

/-- The comments of a class are comment lines. -/
theorem isComment_of_mem_comments (className qualifiedName : String) :
    ∀ l ∈ classComment qualifiedName ++ constructorComment className, isComment l = true := by
  simp only [classComment, constructorComment, List.forall_mem_append, List.forall_mem_cons]
  exact ⟨⟨by decide, by decide, by simp [isComment], List.forall_mem_nil _⟩,
    by simp [isComment], List.forall_mem_nil _⟩

/-- The comments of a class hold no line break if and only if its names hold none. -/
theorem whole_comments_iff (c : EntityClass) :
    (∀ l ∈ classComment c.qualifiedName ++ constructorComment c.name, '\n' ∉ l.toList) ↔
      '\n' ∉ c.name.toList ∧ '\n' ∉ c.classNamespace.toList := by
  have hnotice : '\n' ∉ generatedNotice.toList := by decide
  have hqualified : '\n' ∉ c.qualifiedName.toList ↔
      '\n' ∉ c.name.toList ∧ '\n' ∉ c.classNamespace.toList := by
    rw [EntityClass.qualifiedName]
    split
    · next hempty =>
      have hnamespace : c.classNamespace = "" := by simpa using hempty
      simp [hnamespace]
    · simp [and_comm]
  simp only [classComment, constructorComment]
  simp [hnotice, hqualified]
  tauto

/-- The comments of the module of a class hold its names if and only if these hold no line
break. -/
theorem commentsHold_source_iff (reg : Registry) (c : EntityClass) :
    CommentsHold (artifactOf reg c).source (classComment c.qualifiedName)
        (constructorComment c.name) ↔
      '\n' ∉ c.name.toList ∧ '\n' ∉ c.classNamespace.toList := by
  rw [commentsHold_iff (source_eq_ended reg c) (spelled_ofClass reg c).plainLine
    (isComment_of_mem_comments c.name c.qualifiedName), whole_comments_iff]

/-- What a reader finds in the comment that opens the source of a class is in the source. -/
theorem mem_textLines_source (reg : Registry) {c : EntityClass} {piece : String}
    (h : piece ∈ pieces ("//! Class `" ++ c.qualifiedName ++ "`.")) :
    piece ∈ textLines (artifactOf reg c).source := by
  rw [source_eq_ended, textLines_ended, List.flatMap_append, List.mem_append, List.mem_flatMap]
  exact .inl ⟨_, by simp [classComment], h⟩

/-- The comment of the file that declares all modules holds the namespace if and only if that holds
no line break. -/
theorem commentsHold_moduleFile_iff (reg : Registry) (namespaceName : String)
    (classes : List EntityClass) :
    CommentsHold (moduleFile namespaceName (classes.map (artifactOf reg)))
        (namespaceComment namespaceName) [] ↔ '\n' ∉ namespaceName.toList := by
  have htext : moduleFile namespaceName (classes.map (artifactOf reg)) =
      ended (namespaceComment namespaceName ++ "" :: ([] ++ [] ++ _)) :=
    moduleFile_eq_ended reg namespaceName classes
  have hcomments : ∀ l ∈ namespaceComment namespaceName ++ [], isComment l = true := by
    simp only [namespaceComment, List.append_nil, List.forall_mem_cons]
    exact ⟨by decide, by decide, by simp [isComment], List.forall_mem_nil _⟩
  have hnotice : '\n' ∉ generatedNotice.toList := by decide
  rw [commentsHold_iff htext (plainLine_moduleFile classes) hcomments]
  simp only [namespaceComment]
  simp [hnotice]

/-- Generated files hold the names of a class and a namespace as they are in their comments, each
once, and everywhere else as identifiers and labels. The comments keep to their lines if and only if
these names hold no line break. -/
theorem commentsHold_iff_whole (reg : Registry) (c : EntityClass) (namespaceName : String)
    (classes : List EntityClass) :
    (CommentsHold (artifactOf reg c).source (classComment c.qualifiedName)
        (constructorComment c.name) ↔
      '\n' ∉ c.name.toList ∧ '\n' ∉ c.classNamespace.toList) ∧
    (CommentsHold (moduleFile namespaceName (classes.map (artifactOf reg)))
        (namespaceComment namespaceName) [] ↔ '\n' ∉ namespaceName.toList) ∧
    (Module.ofClass reg c).Spelled ∧
    (∃ front back, (∀ l ∈ front ++ back, PlainLine l) ∧ ∀ className qualifiedName,
      ({ Module.ofClass reg c with className, qualifiedName } : Module).text =
        ended (classComment qualifiedName ++
          "" :: (front ++ constructorComment className ++ back))) ∧
    (∃ back, (∀ l ∈ back, PlainLine l) ∧ ∀ namespaceName,
      moduleFile namespaceName (classes.map (artifactOf reg)) =
        ended (namespaceComment namespaceName ++ "" :: back)) := by
  have hspelled := spelled_ofClass reg c
  exact ⟨commentsHold_source_iff reg c, commentsHold_moduleFile_iff reg namespaceName classes,
    hspelled, ⟨_, _, hspelled.plainLine, Module.text_named (Module.ofClass reg c)⟩,
    ⟨_, plainLine_moduleFile classes, fun name => moduleFile_eq_ended reg name classes⟩⟩

/-- A document with a key that goes over three lines. -/
def brokenKey : Json := .object [("x\nmod y;\n//", .object [])]

/-- The comments of a module do not hold a class name of three lines: the second one is code. -/
theorem not_commentsHold_brokenKey :
    ∃ reg, Registry.inferDocument "root" brokenKey "" .union = .ok reg ∧
      ∃ c ∈ reg.classes, c.name = "x\nmod y;\n//" ∧
        "mod y;" ∈ textLines (artifactOf reg c).source ∧
        ¬ CommentsHold (artifactOf reg c).source (classComment c.qualifiedName)
          (constructorComment c.name) := by
  have hcheck : (Registry.inferDocument "root" brokenKey "" .union).toOption.any
      (fun reg => reg.classes.any fun c => decide
        (c.name = "x\nmod y;\n//" ∧ c.qualifiedName = "x\nmod y;\n//")) = true := by
    decide +kernel
  obtain ⟨reg, hinfer, htest⟩ := Chain.exists_of_any hcheck
  obtain ⟨c, hc, hnames⟩ := List.any_eq_true.1 htest
  obtain ⟨hname, hqualified⟩ := of_decide_eq_true hnames
  refine ⟨reg, hinfer, c, hc, hname, ?_, ?_⟩
  · have hpieces : "mod y;" ∈ pieces ("//! Class `" ++ c.qualifiedName ++ "`.") := by
      rw [hqualified]
      decide
    exact mem_textLines_source reg hpieces
  · have hbreak : '\n' ∈ c.name.toList := by
      rw [hname]
      decide
    rw [commentsHold_source_iff]
    exact fun hwhole => hwhole.1 hbreak

end DocSchema.Source
