import DocSchema.Files.Tree
import DocSchema.Proofs.Lists
import Mathlib.Data.List.Basic

/-!
# Components of joined paths

The path of a file in a directory has the components of the directory and the name of the file
(`components_join`). The directory to make for a path has the first of the components of the path
(`components_directoryToMake`).
-/

namespace DocSchema.Files

/-- A name that a path can end in as the name of a file. -/
structure FileName (name : String) : Prop where
  /-- It holds no slash. -/
  slash : '/' ∉ name.toList
  /-- It is not empty. -/
  nonempty : name ≠ ""
  /-- It is no dot. -/
  dot : name ≠ "."
  /-- It is not two dots. -/
  dots : name ≠ ".."

/-- A path has segments. -/
theorem segments_ne_nil (path : String) : segments path ≠ [] := by
  simp [segments]

/-- The segments on both sides of a slash are those of the path. -/
theorem segments_append_slash (front back : String) :
    segments (front ++ "/" ++ back) = segments front ++ segments back := by
  have hchars : (front ++ "/" ++ back).toList = front.toList ++ '/' :: back.toList := by simp
  rw [segments, hchars, List.splitOn_append_cons_self, List.map_append, segments, segments]

/-- A path without a slash is its only segment. -/
theorem segments_of_notMem {path : String} (h : '/' ∉ path.toList) : segments path = [path] := by
  rw [segments, List.splitOn_eq_singleton h, List.map_singleton, String.ofList_toList]

/-- Segments hold no slash. -/
theorem notMem_of_mem_segments {path segment : String} (h : segment ∈ segments path) :
    '/' ∉ segment.toList := by
  obtain ⟨piece, hpiece, rfl⟩ := List.mem_map.1 h
  rw [String.toList_ofList]
  exact notMem_of_mem_splitOn hpiece

/-- Only the empty path has one empty segment. -/
theorem eq_empty_of_segments {path : String} (h : segments path = [""]) : path = "" := by
  rw [segments, List.map_eq_singleton_iff] at h
  obtain ⟨piece, hsplit, hpiece⟩ := h
  have hjoin : ['/'].intercalate (path.toList.splitOn '/') = path.toList :=
    List.intercalate_splitOn '/'
  rw [hsplit, List.intercalate_singleton] at hjoin
  rw [← String.toList_inj, ← hjoin, ← hpiece, String.toList_ofList]

/-- What the first segment of a path stands for, given those behind it. -/
def startComponents (first : String) (rest : List String) : List Component :=
  if first = "" then (if rest.isEmpty then [] else [.root])
  else if first = "." then [.current]
  else (laterComponent first).toList

/-- The components of a path by its segments. -/
theorem components_eq {path first : String} {rest : List String}
    (h : segments path = first :: rest) :
    components path = startComponents first rest ++ rest.filterMap laterComponent := by
  rw [components, h]
  rfl

/-- A name is a component. -/
theorem laterComponent_of_fileName {name : String} (h : FileName name) :
    laterComponent name = some (.normal name) := by
  simp [laterComponent, isIdle, h.nonempty, h.dot, h.dots]

/-- The path of a file in a directory ends in the name, behind the segments of the directory that
name something. -/
theorem segments_join (directory : String) {name : String} (hname : FileName name)
    (hdir : directory ≠ "") :
    ∃ first rest, segments (join directory name) = first :: (rest ++ [name]) ∧
      components directory =
        startComponents first (rest ++ [name]) ++ rest.filterMap laterComponent := by
  by_cases hslash : directory.toList.getLast? = some '/'
  · obtain ⟨front, hfront⟩ := List.getLast?_eq_some_iff.1 hslash
    have hsplit : directory = String.ofList front ++ "/" ++ "" := by
      rw [← String.toList_inj, hfront]
      simp
    obtain ⟨first, rest, hcons⟩ :=
      List.exists_cons_of_ne_nil (segments_ne_nil (String.ofList front))
    have hdirectory : segments directory = first :: (rest ++ [""]) := by
      rw [hsplit, segments_append_slash, hcons, segments_of_notMem (by simp)]
      rfl
    have hjoin : join directory name = String.ofList front ++ "/" ++ name := by
      rw [join, if_pos (by simp [hslash]), hsplit, String.append_empty]
    refine ⟨first, rest, ?_, ?_⟩
    · rw [hjoin, segments_append_slash, hcons, segments_of_notMem hname.slash]
      rfl
    · rw [components_eq hdirectory]
      simp [startComponents, laterComponent, isIdle]
  · obtain ⟨first, rest, hcons⟩ := List.exists_cons_of_ne_nil (segments_ne_nil directory)
    have hjoin : join directory name = directory ++ "/" ++ name := by
      rw [join, if_neg (by simp [hslash, hdir])]
    refine ⟨first, rest, ?_, ?_⟩
    · rw [hjoin, segments_append_slash, hcons, segments_of_notMem hname.slash]
      rfl
    · have hempty : first = "" → rest ≠ [] := by
        rintro rfl rfl
        exact hdir (eq_empty_of_segments hcons)
      rw [components_eq hcons]
      by_cases hfirst : first = ""
      · simp [startComponents, hfirst, hempty hfirst]
      · simp [startComponents, hfirst]

/-- The path of a file in a directory has the components of the directory and the name. -/
theorem components_join (directory : String) {name : String} (hname : FileName name) :
    components (join directory name) = components directory ++ [.normal name] := by
  by_cases hdir : directory = ""
  · subst hdir
    have hjoin : join "" name = name := by simp [join]
    have hempty : components "" = [] := by decide
    rw [hjoin, hempty, components_eq (segments_of_notMem hname.slash)]
    simp [startComponents, hname.nonempty, hname.dot, laterComponent_of_fileName hname]
  · obtain ⟨first, rest, hjoin, hdirectory⟩ := segments_join directory hname hdir
    rw [components_eq hjoin, hdirectory, List.filterMap_append, List.append_assoc]
    simp [laterComponent_of_fileName hname]

/-- The path of a file can be that of a file. -/
theorem endsAsDirectory_join (directory : String) {name : String} (hname : FileName name) :
    FileSystem.endsAsDirectory (join directory name) = false := by
  have hlast : (segments (join directory name)).getLast? = some name := by
    by_cases hdir : directory = ""
    · subst hdir
      have hjoin : join "" name = name := by simp [join]
      rw [hjoin, segments_of_notMem hname.slash, List.getLast?_singleton]
    · obtain ⟨first, rest, hjoin, -⟩ := segments_join directory hname hdir
      rw [hjoin, ← List.cons_append, List.getLast?_concat]
  rw [FileSystem.endsAsDirectory, hlast]
  simp [hname.nonempty, hname.dot]

/-- A path with the first segments of another one has its first components. -/
theorem components_prefix {path longer : String} (h : segments path <+: segments longer) :
    components path <+: components longer := by
  obtain ⟨first, rest, hpath⟩ := List.exists_cons_of_ne_nil (segments_ne_nil path)
  obtain ⟨first', rest', hlonger⟩ := List.exists_cons_of_ne_nil (segments_ne_nil longer)
  rw [hpath, hlonger, List.cons_prefix_cons] at h
  obtain ⟨rfl, hrest⟩ := h
  rw [components_eq hpath, components_eq hlonger]
  by_cases hnil : rest = []
  · subst hnil
    by_cases hfirst : first = ""
    · simp [startComponents, hfirst]
    · simp [startComponents, hfirst]
  · have hnil' : rest' ≠ [] := fun h => hnil (List.prefix_nil.1 (h ▸ hrest))
    have hstart : startComponents first rest = startComponents first rest' := by
      simp [startComponents, hnil, hnil']
    rw [hstart, List.prefix_append_right_inj]
    exact hrest.filterMap _

/-- The directory to make has the first components of the path. -/
theorem components_directoryToMake (path : String) :
    components (directoryToMake path) <+: components path := by
  rw [directoryToMake]
  split
  · rw [front]
    have hkept : ((segments path).reverse.dropWhile isIdle).tail.reverse <+: segments path := by
      have hsuffix := (List.tail_suffix ((segments path).reverse.dropWhile isIdle)).trans
        (List.dropWhile_suffix isIdle)
      simpa using List.reverse_prefix.2 hsuffix
    generalize ((segments path).reverse.dropWhile isIdle).tail.reverse = kept at hkept
    by_cases hnil : kept = []
    · have hempty : components ("/".intercalate kept) = [] := by
        rw [hnil]
        decide
      rw [hempty]
      exact List.nil_prefix
    · have hsegments : segments ("/".intercalate kept) = kept := by
        have hslash : ∀ piece ∈ kept.map String.toList, '/' ∉ piece := by
          intro piece hpiece
          obtain ⟨segment, hsegment, rfl⟩ := List.mem_map.1 hpiece
          exact notMem_of_mem_segments (hkept.subset hsegment)
        rw [segments, String.toList_intercalate]
        have hsplit := List.splitOn_intercalate '/' hslash (by simpa using hnil)
        rw [show "/".toList = ['/'] from rfl, hsplit, List.map_map]
        simp [Function.comp_def]
      exact components_prefix (hsegments.symm ▸ hkept)
  · exact List.prefix_refl _

end DocSchema.Files
