import DocSchema.Proofs.Files.Paths
import DocSchema.Proofs.Lists

/-!
# Writing files into a directory

Where a directory that holds files only is the place of a path, a file can be written under any name
that fits, and sets one entry of the directory (`write_join`). Files that are written in order leave
the directory with the entries set in order (`writeAll_join`): each name once, with the file that
was written last under it (`map_fst_entriesAfter`), and so all of the files if and only if their
names are distinct (`entriesAfter_eq_iff`).

No directory is lost by writing a file (`isDirectory_withFile`), so that the path leads to the same
place after it.
-/

namespace DocSchema.Files

open FileSystem

namespace Node

/-- The first entry is found under its name. -/
theorem lookup_cons_eq_if (name other : String) (node : Node) (rest : List (String × Node)) :
    ((name, node) :: rest).lookup other =
      if other = name then some node else rest.lookup other := by
  by_cases h : other = name
  · rw [if_pos h, h, List.lookup_cons_self]
  · have hbeq : (other == name) = false := by simpa using h
    rw [if_neg h, List.lookup_cons, hbeq]

/-- An entry that is set is found, and the others as they were. -/
theorem lookup_putEntry (name other : String) (node : Node) (entries : List (String × Node)) :
    (putEntry name node entries).lookup other =
      if other = name then some node else entries.lookup other := by
  induction entries with
  | nil => rw [putEntry, lookup_cons_eq_if]
  | cons entry rest ih =>
    obtain ⟨n, old⟩ := entry
    rw [putEntry]
    by_cases hn : n = name
    · rw [if_pos hn, lookup_cons_eq_if, lookup_cons_eq_if, hn]
      split <;> rfl
    · rw [if_neg hn, lookup_cons_eq_if, lookup_cons_eq_if, ih]
      by_cases h : other = n
      · rw [if_pos h, if_pos h, if_neg (h ▸ hn)]
      · rw [if_neg h, if_neg h]

/-- An entry under a new name comes last. -/
theorem putEntry_of_notMem {name : String} {node : Node} {entries : List (String × Node)}
    (h : name ∉ entries.map Prod.fst) : putEntry name node entries = entries ++ [(name, node)] := by
  induction entries with
  | nil => rfl
  | cons entry rest ih =>
    rw [List.map_cons, List.mem_cons, not_or] at h
    rw [putEntry, if_neg (Ne.symm h.1), ih h.2, List.cons_append]

/-- An entry under a new name is the last one, and no other name changes. -/
theorem map_fst_putEntry (name : String) (node : Node) (entries : List (String × Node)) :
    (putEntry name node entries).map Prod.fst =
      if name ∈ entries.map Prod.fst then entries.map Prod.fst
      else entries.map Prod.fst ++ [name] := by
  by_cases h : name ∈ entries.map Prod.fst
  · rw [if_pos h]
    induction entries with
    | nil => simp at h
    | cons entry rest ih =>
      rw [putEntry]
      by_cases hn : entry.1 = name
      · rw [if_pos hn, List.map_cons, List.map_cons]
      · have hrest : name ∈ rest.map Prod.fst := by simpa [Ne.symm hn] using h
        rw [if_neg hn, List.map_cons, List.map_cons, ih hrest]
  · rw [if_neg h, putEntry_of_notMem h, List.map_append, List.map_singleton]

/-- The node below a node that is found. -/
theorem get?_append (node : Node) (front back : Location) :
    node.get? (front ++ back) = (node.get? front).bind (·.get? back) := by
  induction front generalizing node with
  | nil => rfl
  | cons name rest ih =>
    cases node with
    | file bytes => rfl
    | directory entries =>
      rw [List.cons_append, get?, get?, Option.bind_assoc]
      simp only [ih]

/-- A node is set further down in the entry that is there. -/
theorem put_below {entries : List (String × Node)} {new child : Node} {first : String}
    {rest : Location} (hrest : rest ≠ []) (hchild : entries.lookup first = some child) :
    (directory entries).put new (first :: rest) =
      directory (putEntry first (child.put new rest) entries) := by
  obtain ⟨second, others, rfl⟩ := List.exists_cons_of_ne_nil hrest
  simp [put, hchild]

/-- Nothing is set further down where no entry is. -/
theorem put_below_none {entries : List (String × Node)} {new : Node} {first : String}
    {rest : Location} (hrest : rest ≠ []) (hnone : entries.lookup first = none) :
    (directory entries).put new (first :: rest) = directory entries := by
  obtain ⟨second, others, rfl⟩ := List.exists_cons_of_ne_nil hrest
  simp [put, hnone]

/-- A node that is set is an entry of the directory around it. -/
theorem get?_put_concat {node new : Node} {here : Location} {name : String}
    {entries : List (String × Node)} (h : node.get? here = some (directory entries)) :
    (node.put new (here ++ [name])).get? here = some (directory (putEntry name new entries)) := by
  induction here generalizing node with
  | nil =>
    obtain rfl := Option.some.inj h
    rfl
  | cons first rest ih =>
    cases node with
    | file bytes => simp [get?] at h
    | directory outer =>
      obtain ⟨child, hchild, hrest⟩ := Option.bind_eq_some_iff.1 h
      rw [List.cons_append, put_below (by simp) hchild, get?, lookup_putEntry, if_pos rfl]
      exact ih hrest

/-- A directory that is at a location is still there when a node is set where no directory is. -/
theorem get?_put_directory {node new : Node} {location other : Location}
    {entries : List (String × Node)}
    (hlocation : ∀ entries, node.get? location ≠ some (directory entries))
    (h : node.get? other = some (directory entries)) :
    ∃ entries', (node.put new location).get? other = some (directory entries') := by
  induction location generalizing node other with
  | nil =>
    -- The node itself would have to be no directory.
    cases node with
    | file bytes => cases other <;> simp [get?] at h
    | directory outer => exact absurd rfl (hlocation outer)
  | cons first rest ih =>
    cases node with
    | file bytes => cases other <;> simp [get?] at h
    | directory outer =>
      by_cases hrest : rest = []
      · subst hrest
        cases other with
        | nil => exact ⟨_, rfl⟩
        | cons name below =>
          obtain ⟨child, hchild, hbelow⟩ := Option.bind_eq_some_iff.1 h
          have hne : name ≠ first := by
            rintro rfl
            -- Only a directory has anything below it.
            cases child with
            | file bytes => cases below <;> simp [get?] at hbelow
            | directory inner => exact hlocation inner (by simp [get?, hchild])
          refine ⟨entries, ?_⟩
          rw [put, get?, lookup_putEntry, if_neg hne, hchild]
          exact hbelow
      · cases hfirst : outer.lookup first with
        | none =>
          rw [put_below_none hrest hfirst]
          exact ⟨entries, h⟩
        | some inner =>
          rw [put_below hrest hfirst]
          cases other with
          | nil => exact ⟨_, rfl⟩
          | cons name below =>
            obtain ⟨child, hchild, hbelow⟩ := Option.bind_eq_some_iff.1 h
            rw [get?, lookup_putEntry]
            by_cases hname : name = first
            · subst hname
              obtain rfl := Option.some.inj (hchild.symm.trans hfirst)
              rw [if_pos rfl]
              refine ih (fun entries hentries => hlocation entries ?_) hbelow
              rw [get?, hfirst]
              exact hentries
            · rw [if_neg hname, hchild]
              exact ⟨entries, hbelow⟩

end Node

section Places

/-- A directory is at a location if and only if it has entries. -/
theorem isDirectory_iff {fs : FileSystem} {location : Location} :
    fs.isDirectory location = true ↔ ∃ entries, fs.get? location = some (.directory entries) := by
  rw [isDirectory]
  split
  · next entries h => simp [h]
  · next h => simpa using h

/-- Where a component leads from a directory, without a look at the files. -/
def entered (here : Location) : Component → Option Location
  | .root => some []
  | .current => some here
  | .parent => some here.dropLast
  | .normal name => if nameFits name then some (here ++ [name]) else none

/-- Components are followed from a directory, one after the other. -/
theorem follow_cons (fs : FileSystem) (here : Location) (c : Component) (rest : List Component) :
    fs.follow here (c :: rest) =
      if fs.isDirectory here then (entered here c).bind (fs.follow · rest) else none := by
  cases hdir : fs.isDirectory here with
  | false => cases c <;> simp [follow, hdir]
  | true =>
    cases c with
    | normal name => by_cases hfits : nameFits name = true <;> simp [follow, entered, hdir, hfits]
    | _ => simp [follow, entered, hdir]

/-- Components lead on from where the first of them lead. -/
theorem follow_append (fs : FileSystem) (here : Location) (front back : List Component) :
    fs.follow here (front ++ back) = (fs.follow here front).bind (fs.follow · back) := by
  induction front generalizing here with
  | nil => rfl
  | cons c rest ih =>
    rw [List.cons_append, follow_cons, follow_cons]
    split
    · simp only [ih, Option.bind_assoc]
    · rfl

/-- Components that lead to a directory start from one. -/
theorem isDirectory_of_follow {fs : FileSystem} {here there : Location} {cs : List Component}
    (h : fs.follow here cs = some there) (hthere : fs.isDirectory there = true) :
    fs.isDirectory here = true := by
  cases cs with
  | nil => exact Option.some.inj h ▸ hthere
  | cons c rest =>
    rw [follow_cons] at h
    split at h
    · next hdir => exact hdir
    · simp at h

/-- Components lead to the same location where all directories are still there. -/
theorem follow_of_isDirectory {fs fs' : FileSystem}
    (hkeep : ∀ location, fs.isDirectory location = true → fs'.isDirectory location = true)
    {here there : Location} {cs : List Component} (h : fs.follow here cs = some there) :
    fs'.follow here cs = some there := by
  induction cs generalizing here with
  | nil => exact h
  | cons c rest ih =>
    rw [follow_cons] at h ⊢
    split at h
    · next hdir =>
      obtain ⟨next, hnext, hrest⟩ := Option.bind_eq_some_iff.1 h
      rw [if_pos (hkeep here hdir), hnext]
      exact ih hrest
    · simp at h

/-- Directories that are there need not be made. -/
theorem makeFrom_of_follow {fs : FileSystem} {here there : Location} {cs : List Component}
    (h : fs.follow here cs = some there) (hthere : fs.isDirectory there = true) :
    fs.makeFrom here cs = fs := by
  induction cs generalizing here with
  | nil => rfl
  | cons c rest ih =>
    -- Every directory on the way is there, since the components lead through it.
    have hdir := isDirectory_of_follow h hthere
    rw [follow_cons, if_pos hdir] at h
    obtain ⟨next, hnext, hrest⟩ := Option.bind_eq_some_iff.1 h
    obtain ⟨entries, hentries⟩ := isDirectory_iff.1 (isDirectory_of_follow hrest hthere)
    have hmade := ih hrest
    cases c with
    | normal name =>
      by_cases hfits : nameFits name = true
      · simp only [entered, hfits, if_true, Option.some.injEq] at hnext
        subst hnext
        simpa [makeFrom, hdir, hfits, hentries] using hmade
      · simp [entered, hfits] at hnext
    | _ =>
      obtain rfl := Option.some.inj hnext
      simpa [makeFrom, hdir] using hmade

/-- Making a directory that is there changes nothing. -/
theorem makeDirectory_of_locate {fs : FileSystem} {path : String} {location : Location}
    (h : fs.locate path = some location) (hdir : fs.isDirectory location = true) :
    fs.makeDirectory path = (fs, true) := by
  rw [locate] at h
  split at h
  · next hfits =>
    -- Only a front part of the path is made, and the rest leads on from it to the directory.
    obtain ⟨back, hback⟩ := components_directoryToMake path
    rw [← hback, follow_append] at h
    obtain ⟨middle, hmiddle, hrest⟩ := Option.bind_eq_some_iff.1 h
    have hmade := makeFrom_of_follow hmiddle (isDirectory_of_follow hrest hdir)
    have hlocate : fs.locate path = some location := by
      rw [locate, if_pos hfits, ← hback, follow_append, hmiddle]
      exact hrest
    rw [makeDirectory, if_pos hfits]
    simp [hmade, hasDirectory, hlocate, hdir]
  · simp at h

/-- The path of a file in a directory leads to the entry of its name. -/
theorem locate_join {fs : FileSystem} {path name : String} {here : Location}
    (h : fs.locate path = some here) (hdir : fs.isDirectory here = true) (hname : FileName name)
    (hfits : nameFits name = true) (hpath : pathFits (join path name) = true) :
    fs.locate (join path name) = some (here ++ [name]) := by
  rw [locate] at h
  split at h
  · rw [locate, if_pos hpath, components_join path hname, follow_append, h]
    simp [hdir, hfits, follow]
  · simp at h

end Places

/-- A file that is to be written fits into the directory of a path. -/
structure Fits (path : String) (file : String × String) : Prop where
  /-- Its name is one of a file. -/
  name : FileName file.1
  /-- The name is not too long. -/
  short : nameFits file.1 = true
  /-- Its path is not too long. -/
  path : pathFits (join path file.1) = true

/-- A directory that holds files only, with the path that leads to it. -/
structure Holds (fs : FileSystem) (path : String) (here : Location)
    (entries : List (String × Node)) : Prop where
  /-- The path leads to it. -/
  locate : fs.locate path = some here
  /-- It is a directory with the entries. -/
  get : fs.get? here = some (.directory entries)
  /-- The entries are files. -/
  files : ∀ entry ∈ entries, ∃ bytes, entry.2 = .file bytes

/-- The entries of a directory after files have been written into it in order. -/
def entriesAfter (entries : List (String × Node)) (files : List (String × String)) :
    List (String × Node) :=
  files.foldl (fun entries file => Node.putEntry file.1 (.file file.2.toUTF8) entries) entries

section Writing

/-- Files stay files when one more is written. -/
theorem mem_putEntry {name : String} {node : Node} {entries : List (String × Node)}
    {entry : String × Node} (h : entry ∈ Node.putEntry name node entries) :
    entry = (name, node) ∨ entry ∈ entries := by
  induction entries with
  | nil => exact .inl (by simpa [Node.putEntry] using h)
  | cons first rest ih =>
    obtain ⟨n, old⟩ := first
    rw [Node.putEntry] at h
    split at h
    · next hn =>
      rw [hn] at h
      grind
    · grind

/-- A file system with a file at a location. -/
def withFile (fs : FileSystem) (location : Location) (bytes : ByteArray) : FileSystem :=
  { fs with root := fs.root.put (.file bytes) location }

/-- No directory is lost by a file that takes the place of none. -/
theorem isDirectory_withFile {fs : FileSystem} {location other : Location}
    (hlocation : fs.isDirectory location = false) (h : fs.isDirectory other = true)
    (bytes : ByteArray) : (withFile fs location bytes).isDirectory other = true := by
  obtain ⟨entries, hentries⟩ := isDirectory_iff.1 h
  refine isDirectory_iff.2 (Node.get?_put_directory (fun inner hinner => ?_) hentries)
  rw [isDirectory_iff.2 ⟨inner, hinner⟩] at hlocation
  exact absurd hlocation (by decide)

/-- A path leads to the same location after a file has been written where no directory is. -/
theorem locate_withFile {fs : FileSystem} {location there : Location} {path : String}
    (hlocation : fs.isDirectory location = false) (h : fs.locate path = some there)
    (bytes : ByteArray) : (withFile fs location bytes).locate path = some there := by
  rw [locate] at h ⊢
  split at h
  · next hfits =>
    rw [if_pos hfits]
    exact follow_of_isDirectory (fun _ hother => isDirectory_withFile hlocation hother bytes) h
  · simp at h

/-- No directory is below a directory that holds files only. -/
theorem Holds.isDirectory_concat {fs : FileSystem} {path : String} {here : Location}
    {entries : List (String × Node)} (h : Holds fs path here entries) (name : String) :
    fs.isDirectory (here ++ [name]) = false := by
  rw [Bool.eq_false_iff, Ne, isDirectory_iff]
  rintro ⟨inner, hinner⟩
  rw [FileSystem.get?, Node.get?_append, show fs.root.get? here = _ from h.get, Option.bind_some,
    Node.get?] at hinner
  obtain ⟨node, hnode, heq⟩ := Option.bind_eq_some_iff.1 hinner
  obtain rfl : node = .directory inner := Option.some.inj heq
  -- It would be an entry, and the entries are files.
  obtain ⟨bytes, hbytes⟩ := h.files (name, .directory inner) (mem_of_lookup_eq_some hnode)
  simp at hbytes

/-- A file is written into the directory as the entry of its name. -/
theorem write_join {fs : FileSystem} {path : String} {here : Location}
    {entries : List (String × Node)} (h : Holds fs path here entries) {file : String × String}
    (hfile : Fits path file) :
    ∃ fs', fs.write (join path file.1) file.2.toUTF8 = some fs' ∧
      Holds fs' path here (Node.putEntry file.1 (.file file.2.toUTF8) entries) := by
  have hdir : fs.isDirectory here = true := isDirectory_iff.2 ⟨entries, h.get⟩
  have hlocate := locate_join h.locate hdir hfile.name hfile.short hfile.path
  have hnone := h.isDirectory_concat file.1
  refine ⟨withFile fs (here ++ [file.1]) file.2.toUTF8, ?_, ?_, ?_, fun entry hentry => ?_⟩
  · rw [FileSystem.write, endsAsDirectory_join path hfile.name, hlocate]
    simp [hnone, hdir, withFile]
  · exact locate_withFile hnone h.locate _
  · exact Node.get?_put_concat h.get
  · rcases mem_putEntry hentry with rfl | hentry
    · exact ⟨_, rfl⟩
    · exact h.files entry hentry

/-- Files are written into the directory in order. -/
theorem writeAll_join {fs : FileSystem} {path : String} {here : Location}
    {entries : List (String × Node)} (h : Holds fs path here entries)
    {files : List (String × String)} (hfiles : ∀ file ∈ files, Fits path file) :
    ∃ fs', fs.writeAll (files.map fun file => (join path file.1, file.2)) = (fs', true) ∧
      Holds fs' path here (entriesAfter entries files) := by
  induction files generalizing fs entries with
  | nil => exact ⟨fs, rfl, h⟩
  | cons file rest ih =>
    obtain ⟨hfile, hrest⟩ := List.forall_mem_cons.1 hfiles
    obtain ⟨middle, hwrite, hmiddle⟩ := write_join h hfile
    obtain ⟨fs', hall, hholds⟩ := ih hmiddle hrest
    refine ⟨fs', ?_, hholds⟩
    rw [List.map_cons, FileSystem.writeAll, hwrite]
    exact hall

end Writing

section Entries

/-- One more file sets its entry. -/
theorem entriesAfter_concat (entries : List (String × Node)) (files : List (String × String))
    (file : String × String) :
    entriesAfter entries (files ++ [file]) =
      Node.putEntry file.1 (.file file.2.toUTF8) (entriesAfter entries files) := by
  simp [entriesAfter]

/-- The entries of an empty directory are named after the files, each name once. -/
theorem map_fst_entriesAfter (files : List (String × String)) :
    (entriesAfter [] files).map Prod.fst = (files.map Prod.fst).eraseDups := by
  induction files using List.reverseRecOn with
  | nil => rfl
  | append_singleton front file ih =>
    rw [entriesAfter_concat, Node.map_fst_putEntry, ih, List.map_append, List.map_singleton,
      eraseDups_concat]
    simp only [List.mem_eraseDups]

/-- An empty directory holds all files that are written into it if and only if their names are
distinct. -/
theorem entriesAfter_eq_iff {files : List (String × String)} :
    entriesAfter [] files = files.map (fun file => (file.1, .file file.2.toUTF8)) ↔
      (files.map Prod.fst).Nodup := by
  constructor
  · intro h
    have hnames := map_fst_entriesAfter files
    rw [h, List.map_map] at hnames
    have hsame : files.map Prod.fst = (files.map Prod.fst).eraseDups := hnames
    rw [hsame]
    exact nodup_eraseDups _
  · intro h
    induction files using List.reverseRecOn with
    | nil => rfl
    | append_singleton front file ih =>
      rw [List.map_append, List.map_singleton, List.nodup_append] at h
      obtain ⟨hfront, -, hnew⟩ := h
      have hfree : file.1 ∉ (entriesAfter [] front).map Prod.fst := by
        rw [map_fst_entriesAfter, List.mem_eraseDups]
        exact fun hmem => hnew _ hmem _ (by simp) rfl
      rw [entriesAfter_concat, Node.putEntry_of_notMem hfree, ih hfront, List.map_append,
        List.map_singleton]

end Entries

end DocSchema.Files
