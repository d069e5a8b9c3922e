import Mathlib.Data.List.Forall2
import Terradoc.Proofs.Nesting.Directories

/-! File trees whose directories list the same entries in other orders. What is found under a path is the
same in both, and so is what is read there. -/

namespace Terradoc

/-- A file tree as a file system holds it: a directory lists each name once, and names are free of slashes
and dots. -/
inductive FileTree.Formed : FileTree → Prop where
  | file (bytes : List UInt8) : Formed (.file bytes)
  | directory {entries : List (String × FileTree)} (once : (entries.map Prod.fst).Nodup)
      (named : ∀ entry ∈ entries, Path.IsName entry.1) (below : ∀ entry ∈ entries, Formed entry.2) :
      Formed (.directory entries)

mutual
/-- The second tree is the first one with the entries of its directories in other orders. -/
inductive FileTree.Relisted : FileTree → FileTree → Prop where
  | file (bytes : List UInt8) : Relisted (.file bytes) (.file bytes)
  | directory {entries rows others : List (String × FileTree)}
      (nodes : List.Forall₂ FileTree.EntryRelisted entries rows) (order : rows.Perm others) :
      Relisted (.directory entries) (.directory others)

/-- The same name with a tree whose directories list their entries in other orders. -/
inductive FileTree.EntryRelisted : String × FileTree → String × FileTree → Prop where
  | entry (name : String) {left right : FileTree} (node : FileTree.Relisted left right) :
      EntryRelisted (name, left) (name, right)
end

/-- A tree beside one that lists the same entries in other orders. -/
structure FileTree.Reordered (left right : FileTree) : Prop where
  formed : left.Formed
  relisted : left.Relisted right

/-- Two computations that fail in the same way, or both succeed with related results. -/
inductive SameOutcome {ε α β : Type} (relation : α → β → Prop) : Except ε α → Except ε β → Prop where
  | error (cause : ε) : SameOutcome relation (.error cause) (.error cause)
  | ok {left : α} {right : β} (related : relation left right) :
      SameOutcome relation (.ok left) (.ok right)

theorem SameOutcome.cases {ε α β : Type} {relation : α → β → Prop} {left : Except ε α}
    {right : Except ε β} (same : SameOutcome relation left right) :
    (∃ cause, left = .error cause ∧ right = .error cause) ∨
      ∃ first second, left = .ok first ∧ right = .ok second ∧ relation first second := by
  cases same with
  | error cause => exact .inl ⟨cause, rfl, rfl⟩
  | ok related => exact .inr ⟨_, _, rfl, rfl, related⟩

theorem SameOutcome.bind {ε α β γ δ : Type} {relation : α → β → Prop} {other : γ → δ → Prop}
    {left : Except ε α} {right : Except ε β} {next : α → Except ε γ} {after : β → Except ε δ}
    (start : SameOutcome relation left right)
    (rest : ∀ first second, relation first second → SameOutcome other (next first) (after second)) :
    SameOutcome other (left >>= next) (right >>= after) := by
  cases start with
  | error cause => exact .error cause
  | ok related => exact rest _ _ related

theorem SameOutcome.self {ε α : Type} (result : Except ε α) :
    SameOutcome (fun _ _ => True) result result := by
  cases result with
  | error cause => exact .error cause
  | ok => exact .ok trivial

namespace FileTree

theorem rows_names {entries rows : List (String × FileTree)}
    (nodes : List.Forall₂ EntryRelisted entries rows) : entries.map Prod.fst = rows.map Prod.fst := by
  induction nodes with
  | nil => rfl
  | cons head tail ih =>
    cases head
    rw [List.map_cons, List.map_cons, ih]

private theorem rows_get? {entries rows : List (String × FileTree)}
    (nodes : List.Forall₂ EntryRelisted entries rows) (name : String) :
    Option.Rel Relisted (Entries.get? entries name) (Entries.get? rows name) := by
  induction nodes with
  | nil => exact .none
  | cons head tail ih =>
    cases head with
    | entry other node =>
      simp only [Entries.get?_cons]
      split
      · exact .some node
      · exact ih

/-- A name leads to counterparts in two listings of a directory. -/
theorem Reordered.get? {entries others : List (String × FileTree)}
    (same : Reordered (.directory entries) (.directory others)) (name : String) :
    Option.Rel Reordered (Entries.get? entries name) (Entries.get? others name) := by
  obtain ⟨formed, relisted⟩ := same
  cases formed with
  | directory once named below =>
    cases relisted with
    | directory nodes order =>
      have found := rows_get? nodes name
      rw [Entries.get?_of_perm order (rows_names nodes ▸ once)] at found
      cases here : Entries.get? entries name with
      | none =>
        rw [here] at found
        generalize Entries.get? others name = image at found
        cases found
        exact .none
      | some child =>
        rw [here] at found
        generalize Entries.get? others name = image at found
        cases found with
        | some node => exact .some ⟨below _ (Entries.mem_of_get? here), node⟩

/-- Steps lead to counterparts, or fail at the same place. -/
theorem follow_reordered {ancestors parents : List FileTree} {node image : FileTree}
    (above : List.Forall₂ Reordered ancestors parents) (same : node.Reordered image)
    (steps : List String) :
    SameOutcome Reordered (follow ancestors node steps) (follow parents image steps) := by
  induction steps generalizing ancestors parents node image with
  | nil => exact .ok same
  | cons step rest ih =>
    cases node with
    | file bytes =>
      obtain ⟨_, relisted⟩ := same
      cases relisted
      exact .error _
    | directory entries =>
      cases image with
      | file =>
        obtain ⟨_, relisted⟩ := same
        cases relisted
      | directory others =>
        simp only [follow]
        by_cases here : (step == ".") = true
        · rw [if_pos here, if_pos here]
          exact ih above same
        · rw [if_neg here, if_neg here]
          by_cases upward : (step == "..") = true
          · rw [if_pos upward, if_pos upward]
            cases above with
            | nil => exact ih .nil same
            | cons parent more => exact ih more parent
          · rw [if_neg upward, if_neg upward]
            have found := same.get? step
            generalize Entries.get? entries step = left at found
            generalize Entries.get? others step = right at found
            cases found with
            | none => exact .error _
            | some child => exact ih (.cons same above) child

section

variable {files others : FileTree} (same : files.Reordered others)
include same

theorem Reordered.find (path : Path) : SameOutcome Reordered (files.find path) (others.find path) := by
  unfold FileTree.find
  split
  · exact .error _
  · exact follow_reordered .nil same path.steps

theorem Reordered.isDirectory : files.isDirectory = others.isDirectory := by
  obtain ⟨_, relisted⟩ := same
  cases relisted <;> rfl

theorem Reordered.hasDirectory (path : Path) : files.hasDirectory path = others.hasDirectory path := by
  unfold FileTree.hasDirectory
  rcases (same.find path).cases with ⟨cause, here, there⟩ | ⟨node, image, here, there, found⟩
  · rw [here, there]
  · rw [here, there]
    exact found.isDirectory

theorem Reordered.hasFile (path : Path) : files.hasFile path = others.hasFile path := by
  unfold FileTree.hasFile
  rcases (same.find path).cases with ⟨cause, here, there⟩ | ⟨node, image, here, there, found⟩
  · rw [here, there]
  · rw [here, there]
    exact congrArg Bool.not found.isDirectory

theorem Reordered.readBytes (path : Path) : files.readBytes path = others.readBytes path := by
  unfold FileTree.readBytes
  rcases (same.find path).cases with ⟨cause, here, there⟩ | ⟨node, image, here, there, found⟩
  · rw [here, there]
  · rw [here, there]
    obtain ⟨_, relisted⟩ := found
    cases relisted <;> rfl

theorem Reordered.readText (path : Path) : files.readText path = others.readText path := by
  rw [FileTree.readText, FileTree.readText, same.readBytes]

end

theorem filesBelowEntries_eq (entries : List (String × FileTree)) :
    filesBelowEntries entries =
      entries.flatMap fun entry => entry.2.filesBelow.map (entry.1 :: ·) := by
  induction entries with
  | nil => rw [filesBelowEntries]; rfl
  | cons entry rest ih => rw [filesBelowEntries, ih, List.flatMap_cons]

theorem directoryCountEntries_perm {entries others : List (String × FileTree)}
    (order : entries.Perm others) : directoryCountEntries entries = directoryCountEntries others := by
  induction order with
  | nil => rfl
  | cons entry _ ih => rw [directoryCountEntries, directoryCountEntries, ih]
  | swap first second rest =>
    simp only [directoryCountEntries]
    omega
  | trans _ _ first second => exact first.trans second

-- Recursion is on the first tree: the relation is nested in lists, for which there is no induction tactic.
mutual
/-- The same files stand below both trees. -/
theorem Relisted.filesBelow : ∀ {left right : FileTree}, left.Relisted right →
    left.filesBelow.Perm right.filesBelow
  | .file _, _, .file _ => .refl _
  | .directory entries, _, .directory nodes order => by
    rw [FileTree.filesBelow, FileTree.filesBelow]
    refine (Relisted.filesBelow_rows nodes).trans ?_
    rw [filesBelowEntries_eq, filesBelowEntries_eq]
    exact order.flatMap_right _

theorem Relisted.filesBelow_rows : ∀ {entries rows : List (String × FileTree)},
    List.Forall₂ EntryRelisted entries rows →
    (filesBelowEntries entries).Perm (filesBelowEntries rows)
  | [], _, .nil => .refl _
  | (name, left) :: rest, _, .cons (.entry _ node) tail => by
    rw [filesBelowEntries, filesBelowEntries]
    exact ((Relisted.filesBelow node).map _).append (Relisted.filesBelow_rows tail)
end

mutual
/-- Both trees have as many directories. -/
theorem Relisted.directoryCount : ∀ {left right : FileTree}, left.Relisted right →
    left.directoryCount = right.directoryCount
  | .file _, _, .file _ => rfl
  | .directory entries, _, .directory nodes order => by
    rw [FileTree.directoryCount, FileTree.directoryCount, Relisted.directoryCount_rows nodes,
      directoryCountEntries_perm order]

theorem Relisted.directoryCount_rows : ∀ {entries rows : List (String × FileTree)},
    List.Forall₂ EntryRelisted entries rows →
    directoryCountEntries entries = directoryCountEntries rows
  | [], _, .nil => rfl
  | (name, left) :: rest, _, .cons (.entry _ node) tail => by
    rw [directoryCountEntries, directoryCountEntries, Relisted.directoryCount node,
      Relisted.directoryCount_rows tail]
end

/-- What is made in one tree can be made in the other, and what cannot be made fails in the same way. -/
theorem change_reordered {edit : Option FileTree → Except FileFault FileTree}
    (edits : ∀ left right, Option.Rel Reordered left right →
      SameOutcome (fun _ _ => True) (edit left) (edit right))
    {files others : FileTree} (same : files.Reordered others) (names : List String) :
    SameOutcome (fun _ _ => True) (files.change edit names) (others.change edit names) := by
  induction names generalizing files others with
  | nil => exact edits _ _ (.some same)
  | cons name rest ih =>
    cases files with
    | file bytes =>
      obtain ⟨_, relisted⟩ := same
      cases relisted
      exact .error _
    | directory entries =>
      cases others with
      | file =>
        obtain ⟨_, relisted⟩ := same
        cases relisted
      | directory others =>
        have found := same.get? name
        unfold change
        dsimp only
        generalize Entries.get? entries name = left at found ⊢
        generalize Entries.get? others name = right at found ⊢
        cases found with
        | some child => exact (ih child).bind fun _ _ _ => .ok trivial
        | none =>
          cases rest with
          | nil => exact (SameOutcome.self _).bind fun _ _ _ => .ok trivial
          | cons => exact (SameOutcome.self _).bind fun _ _ _ => .ok trivial

/-- Directories can be made in one tree where they can be made in the other. -/
theorem Reordered.makeDirectories {files others : FileTree} (same : files.Reordered others)
    (path : Path) :
    SameOutcome (fun _ _ => True) (files.makeDirectories path) (others.makeDirectories path) := by
  refine change_reordered (fun left right found => ?_) same path.names
  cases found with
  | none => exact .ok trivial
  | some node =>
    obtain ⟨_, relisted⟩ := node
    cases relisted with
    | file => exact .error _
    | directory => exact .ok trivial

end FileTree

end Terradoc
