import Mathlib.Data.Set.Finite.Basic
import Terradoc.Proofs.Templates.Asking

namespace Terradoc

namespace FileTree

mutual
/-- Bytes of the files below a node. -/
def contents : FileTree → List (List UInt8)
  | file bytes => [bytes]
  | directory entries => contentsOfEntries entries

/-- Bytes of the files below the entries of a directory. -/
def contentsOfEntries : List (String × FileTree) → List (List UInt8)
  | [] => []
  | (_, node) :: rest => contents node ++ contentsOfEntries rest
end

theorem contents_subset {entries : List (String × FileTree)} {name : String} {child : FileTree}
    (member : (name, child) ∈ entries) : child.contents ⊆ (directory entries).contents := by
  rw [contents]
  induction entries with
  | nil => cases member
  | cons entry rest ih =>
    rw [contentsOfEntries]
    rcases List.mem_cons.mp member with rfl | later
    · exact List.subset_append_left ..
    · exact List.Subset.trans (ih later) (List.subset_append_right ..)

/-- Steps lead to files below the node or its ancestors only. -/
theorem mem_of_follow {all : List (List UInt8)} {bytes : List UInt8} {ancestors : List FileTree}
    {node : FileTree} {steps : List String}
    (inside : ∀ other ∈ node :: ancestors, other.contents ⊆ all)
    (found : follow ancestors node steps = .ok (file bytes)) : bytes ∈ all := by
  induction steps generalizing ancestors node with
  | nil =>
    obtain rfl := Except.ok.inj found
    refine inside _ List.mem_cons_self ?_
    rw [contents]
    exact List.mem_singleton_self bytes
  | cons step rest ih =>
    cases node with
    | file => cases found
    | directory entries =>
      unfold follow at found
      dsimp only at found
      split at found
      · exact ih inside found
      · split at found
        · cases ancestors with
          | nil => exact ih inside found
          | cons parent others =>
            exact ih (fun other member => inside other (List.mem_cons_of_mem _ member)) found
        · split at found
          · rename_i child present
            refine ih (List.forall_mem_cons.mpr ⟨?_, inside⟩) found
            exact List.Subset.trans (contents_subset (Entries.mem_of_get? present))
              (inside _ List.mem_cons_self)
          · cases found

theorem mem_contents_of_readBytes {tree : FileTree} {path : Path} {bytes : List UInt8}
    (read : tree.readBytes path = .ok bytes) : bytes ∈ tree.contents := by
  unfold readBytes find at read
  split at read
  · rename_i content found
    cases read
    split at found
    · cases found
    · exact mem_of_follow (List.forall_mem_singleton.mpr (List.Subset.refl _)) found
  · cases read
  · cases read

end FileTree

theorem mem_contents_of_readFile {host : Host} {root : Path} {path text : String}
    (read : Functions.readFile host root path = .ok text) :
    ∃ bytes ∈ host.files.contents, Text.decode bytes = .ok text := by
  unfold Functions.readFile Functions.readBytes at read
  cases found : host.files.readBytes (Functions.locate root path) with
  | error => rw [found] at read; cases read
  | ok bytes =>
    rw [found] at read
    refine ⟨bytes, FileTree.mem_contents_of_readBytes found, ?_⟩
    simp only [Bind.bind, Except.bind] at read
    split at read
    · rename_i decoded same
      cases read
      exact same
    · cases read

/-- A file tree holds finitely many templates. -/
theorem finite_stored (host : Host) (root : Path) :
    {template : Template | template.Stored host root}.Finite := by
  let read (bytes : List UInt8) : Option Template :=
    (Text.decode bytes).toOption.bind Template.parse?
  refine (List.finite_toSet (host.files.contents.filterMap read)).subset ?_
  rintro template ⟨path, text, present, parsed⟩
  obtain ⟨bytes, member, decoded⟩ := mem_contents_of_readFile present
  exact List.mem_filterMap.mpr ⟨bytes, member, by simp only [read, decoded]; exact parsed⟩

end Terradoc
