import Terradoc.Files.Tree

/-! Directories of a file tree. An absolute path without dots leads to a directory only by the names
that lead down to it, so there are no more such paths than directories. -/

namespace Terradoc

/-- A piece of a path that is the name of an entry. -/
structure Path.IsName (piece : String) : Prop where
  nonempty : piece ≠ ""
  notCurrent : piece ≠ "."
  notParent : piece ≠ ".."
  single : '/' ∉ piece.toList

namespace Path

theorem isName_of_mem_components {path : Path} {text : String}
    (member : .name text ∈ path.components) : IsName text := by
  have inner : .name text ∈ (Text.splitChar '/' path.text).filterMap componentOf? := by
    unfold components at member
    dsimp only at member
    split at member
    · simpa using member
    · split at member
      · simpa using member
      · exact member
  obtain ⟨piece, present, shown⟩ := List.mem_filterMap.mp inner
  have outside : '/' ∉ piece.toList := by
    obtain ⟨characters, split, rfl⟩ := List.mem_map.mp present
    simpa using Text.not_mem_of_mem_splitAt split
  unfold componentOf? at shown
  split at shown
  · cases shown
  · split at shown
    · cases shown
    · cases shown
      rename_i nonempty upward
      simp only [Bool.or_eq_true, beq_iff_eq, not_or] at nonempty upward
      exact ⟨nonempty.1, nonempty.2, upward, outside⟩

theorem componentOf?_name {text : String} (named : IsName text) : componentOf? text = some (.name text) := by
  simp [componentOf?, named.nonempty, named.notCurrent, named.notParent]

theorem resolveDots_names {names : List String} {components : List Component}
    (before : ∀ name ∈ names, IsName name)
    (added : ∀ text, .name text ∈ components → IsName text) :
    ∀ name ∈ resolveDots names components, IsName name := by
  induction components generalizing names with
  | nil => exact before
  | cons component rest ih =>
    have later : ∀ text, .name text ∈ rest → IsName text :=
      fun text member => added text (List.mem_cons_of_mem _ member)
    cases component with
    | root => exact ih nofun later
    | current => exact ih before later
    | parent => exact ih (fun name member => before name (List.dropLast_subset _ member)) later
    | name text =>
      refine ih (fun name member => ?_) later
      rcases List.mem_append.mp member with old | new
      · exact before name old
      · obtain rfl := List.mem_singleton.mp new
        exact added _ List.mem_cons_self

theorem isName_of_mem_names {path : Path} {text : String} (member : text ∈ path.names) : IsName text := by
  have named : ∀ name ∈ path.names, IsName name := resolveDots_names nofun fun _ => isName_of_mem_components
  exact named text member

/-- An absolute form consists of names. -/
theorem absolutize_eq_ofNames (directory path : Path) :
    ∃ names, (∀ name ∈ names, IsName name) ∧ absolutize directory path = ofNames names := by
  refine ⟨_, ?_, rfl⟩
  split
  · exact fun _ => isName_of_mem_names
  · exact resolveDots_names (fun _ => isName_of_mem_names) fun _ => isName_of_mem_components

/-- The pieces of the path of names, but for the empty ones before and after slashes. -/
theorem pieces_ofNames {names : List String} (named : ∀ name ∈ names, IsName name) :
    (Text.splitChar '/' (ofNames names).text).filter (· != "") = names := by
  have text : (ofNames names).text.toList = [] ++ '/' :: (Text.joinWith "/" names).toList := by simp [ofNames]
  rw [Text.splitChar, text, Text.splitAt_append_cons List.not_mem_nil, List.map_cons, ← Text.splitChar]
  by_cases empty : names = []
  · subst empty
    decide +kernel
  · rw [Text.splitChar_joinWith empty fun name member => (named name member).single]
    simpa using fun name present => (named name present).nonempty

end Path

namespace FileTree

mutual
/-- Names that lead to the directories below a node, the node included. -/
def directoriesBelow : FileTree → List (List String)
  | file _ => []
  | directory entries => [] :: directoriesBelowEntries entries

/-- Names that lead to the directories below the entries of a directory. -/
def directoriesBelowEntries : List (String × FileTree) → List (List String)
  | [] => []
  | (name, node) :: rest =>
    (directoriesBelow node).map (name :: ·) ++ directoriesBelowEntries rest
end

mutual
theorem length_directoriesBelow (node : FileTree) :
    node.directoriesBelow.length = node.directoryCount := by
  cases node with
  | file => rw [directoriesBelow, directoryCount]; rfl
  | directory entries =>
    rw [directoriesBelow, directoryCount, List.length_cons, length_directoriesBelowEntries entries]

theorem length_directoriesBelowEntries (entries : List (String × FileTree)) :
    (directoriesBelowEntries entries).length = directoryCountEntries entries := by
  match entries with
  | [] => rw [directoriesBelowEntries, directoryCountEntries]; rfl
  | (name, node) :: rest =>
    rw [directoriesBelowEntries, directoryCountEntries, List.length_append, List.length_map,
      length_directoriesBelow node, length_directoriesBelowEntries rest]
end

theorem directoriesBelowEntries_eq (entries : List (String × FileTree)) :
    directoriesBelowEntries entries =
      entries.flatMap fun entry => entry.2.directoriesBelow.map (entry.1 :: ·) := by
  induction entries with
  | nil => rw [directoriesBelowEntries]; rfl
  | cons entry rest ih => rw [directoriesBelowEntries, ih, List.flatMap_cons]

/-- A dot at the end leads nowhere else. -/
theorem follow_dot {ancestors : List FileTree} {node found : FileTree} {names : List String}
    (named : ∀ name ∈ names, Path.IsName name)
    (followed : follow ancestors node (names ++ ["."]) = .ok found) :
    follow ancestors node names = .ok found := by
  induction names generalizing ancestors node with
  | nil =>
    cases node with
    | file => cases followed
    | directory entries => exact followed
  | cons name rest ih =>
    have here := named name List.mem_cons_self
    cases node with
    | file => cases followed
    | directory entries =>
      simp only [List.cons_append, follow, beq_iff_eq, here.notCurrent, here.notParent, ↓reduceIte] at followed ⊢
      split at followed
      · exact ih (fun other member => named other (List.mem_cons_of_mem _ member)) followed
      · cases followed

theorem mem_directoriesBelow {ancestors : List FileTree} {node found : FileTree}
    {names : List String} (named : ∀ name ∈ names, Path.IsName name)
    (followed : follow ancestors node names = .ok found) (inside : found.isDirectory = true) :
    names ∈ node.directoriesBelow := by
  induction names generalizing ancestors node with
  | nil =>
    obtain rfl := Except.ok.inj followed
    cases node with
    | file => cases inside
    | directory entries =>
      rw [directoriesBelow]
      exact List.mem_cons_self
  | cons name rest ih =>
    have here := named name List.mem_cons_self
    cases node with
    | file => cases followed
    | directory entries =>
      simp only [follow, beq_iff_eq, here.notCurrent, here.notParent, ↓reduceIte] at followed
      split at followed
      · rename_i child present
        have below := ih (fun other member => named other (List.mem_cons_of_mem _ member)) followed
        rw [directoriesBelow, directoriesBelowEntries_eq]
        refine List.mem_cons_of_mem _ (List.mem_flatMap.mpr ⟨(name, child), ?_, ?_⟩)
        · exact Entries.mem_of_get? present
        · exact List.mem_map_of_mem below
      · cases followed

/-- An absolute form leads to a directory only by the names of the directory. -/
theorem absolutize_mem_directories {tree : FileTree} {directory path : Path}
    (present : tree.hasDirectory (Path.absolutize directory path) = true) :
    Path.absolutize directory path ∈ tree.directoriesBelow.map Path.ofNames := by
  obtain ⟨names, named, same⟩ := Path.absolutize_eq_ofNames directory path
  rw [same] at present ⊢
  refine List.mem_map_of_mem ?_
  unfold hasDirectory find at present
  split at present
  · rename_i found reached
    split at reached
    · cases reached
    · unfold Path.steps at reached
      dsimp only at reached
      rw [Path.pieces_ofNames named] at reached
      split at reached
      · exact mem_directoriesBelow named (follow_dot named reached) present
      · exact mem_directoriesBelow named reached present
  · cases present

theorem hasDirectory_of_list {tree : FileTree} {path : Path} {entries : List Path}
    (listed : tree.list path = .ok entries) : tree.hasDirectory path = true := by
  unfold list at listed
  unfold hasDirectory
  split at listed
  · rename_i found
    rw [found]
    rfl
  · cases listed
  · cases listed

end FileTree

end Terradoc
