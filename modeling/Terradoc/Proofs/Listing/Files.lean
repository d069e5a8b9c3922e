import Terradoc.Module.Run
import Terradoc.Proofs.Listing.Tree
import Terradoc.Proofs.Lists
import Terradoc.Proofs.Text.Occurrences

/-! What a configuration reads from its directories. Files are taken in the order of their names, so the
order in which a directory lists them does not matter. -/

namespace Terradoc

namespace Path

/-- The last piece of the path of an entry is its name. -/
theorem pieces_join (base : Path) {name : String} (named : IsName name) :
    ∃ front, Text.splitChar '/' (base.join name).text = front ++ [name] := by
  have relative : name.startsWith "/" = false :=
    Text.not_startsWith_of_not_mem (List.mem_singleton_self '/') named.single
  have after : ∀ front : List Char, ∃ pieces,
      Text.splitChar '/' (String.ofList front ++ "/" ++ name) = pieces ++ [name] := by
    intro front
    refine ⟨(Text.splitAt '/' [] front).map String.ofList, ?_⟩
    have text : (String.ofList front ++ "/" ++ name).toList = front ++ '/' :: name.toList := by simp
    rw [Text.splitChar, text, Text.splitAt_append, Text.splitAt_eq_single named.single]
    simp
  unfold join
  rw [relative, if_neg Bool.false_ne_true]
  split
  · rename_i ends
    rcases (Bool.or_eq_true ..).mp ends with empty | ends
    · refine ⟨[], ?_⟩
      rw [beq_iff_eq.mp empty, String.empty_append, Text.splitChar_eq_single named.single, List.nil_append]
    · obtain ⟨stem, same⟩ := Text.endsWith_iff.mp ends
      rw [same]
      simpa using after stem.toList
  · simpa using after base.text.toList

theorem fileName?_join (base : Path) {name : String} (named : IsName name) :
    (base.join name).fileName? = some name := by
  obtain ⟨front, pieces⟩ := pieces_join base named
  have inner : (front ++ [name]).filterMap componentOf? =
      front.filterMap componentOf? ++ [.name name] := by
    rw [List.filterMap_append, List.filterMap_cons, componentOf?_name named, List.filterMap_nil]
  have last : (base.join name).components.getLast? = some (.name name) := by
    unfold components
    dsimp only
    rw [pieces, inner]
    split
    · rw [← List.cons_append, List.getLast?_concat]
    · split
      · rw [← List.cons_append, List.getLast?_concat]
      · rw [List.getLast?_concat]
  rw [fileName?, last]

end Path

def NamedApart (paths : List Path) : Prop :=
  ∀ left ∈ paths, ∀ right ∈ paths,
    left.fileName?.getD "" = right.fileName?.getD "" → left = right

theorem NamedApart.sublist {paths some : List Path} (apart : NamedApart paths) (part : some ⊆ paths) :
    NamedApart some :=
  fun left member right other => apart left (part member) right (part other)

/-- Both trees list the same paths, whose file names tell them apart. -/
theorem FileTree.Reordered.list {files others : FileTree} (same : files.Reordered others) (path : Path) :
    SameOutcome (fun paths listed => paths.Perm listed ∧ NamedApart paths) (files.list path)
      (others.list path) := by
  unfold FileTree.list
  rcases (same.find path).cases with ⟨cause, here, there⟩ | ⟨node, image, here, there, found⟩
  · rw [here, there]
    exact .error cause
  · rw [here, there]
    obtain ⟨formed, relisted⟩ := found
    cases relisted with
    | file => exact .error _
    | directory nodes order =>
      cases formed with
      | directory once named below =>
        refine .ok ⟨?_, ?_⟩
        · have names := (order.map Prod.fst).map path.join
          rw [← FileTree.rows_names nodes] at names
          simpa only [List.map_map, Function.comp_def] using names
        · intro left member right other
          obtain ⟨entry, inside, rfl⟩ := List.mem_map.mp member
          obtain ⟨next, within, rfl⟩ := List.mem_map.mp other
          rw [Path.fileName?_join path (named entry inside), Path.fileName?_join path (named next within),
            Option.getD_some, Option.getD_some]
          exact congrArg path.join

/-- Sorting by file names forgets the order in which paths came in. -/
theorem sortByName_perm {paths listed : List Path} (order : paths.Perm listed)
    (apart : NamedApart paths) : sortByName paths = sortByName listed := by
  let name (path : Path) : String := path.fileName?.getD ""
  refine mergeSort_perm_eq (notAbove_trans name) (notAbove_total name) order
    fun first member second other here there => ?_
  exact apart first member second other (String.le_antisymm (notAbove_iff.mp here) (notAbove_iff.mp there))

theorem sortedTexts_perm {texts others : List String} (order : texts.Perm others) :
    (texts.mergeSort fun left right => !(right < left)) =
      others.mergeSort fun left right => !(right < left) := by
  refine mergeSort_perm_eq (notAbove_trans id) (notAbove_total id) order
    fun first _ second _ here there => ?_
  exact String.le_antisymm (notAbove_iff.mp here) (notAbove_iff.mp there)

theorem pathsNamed_perm {paths listed : List Path} (order : paths.Perm listed)
    (apart : NamedApart paths) (names : List String) :
    pathsNamed paths names = pathsNamed listed names := by
  have single : ∀ name, paths.find? (fun path => path.fileName? == some name) =
      listed.find? fun path => path.fileName? == some name := by
    intro name
    cases here : paths.find? fun path => path.fileName? == some name with
    | none =>
      symm
      rw [List.find?_eq_none] at here ⊢
      exact fun path member => here path (order.mem_iff.mpr member)
    | some path =>
      have found := List.find?_some here
      have member := order.mem_iff.mp (List.mem_of_find?_eq_some here)
      cases there : listed.find? fun path => path.fileName? == some name with
      | none => exact absurd found (List.find?_eq_none.mp there path member)
      | some other =>
        have shown := List.find?_some there
        rw [beq_iff_eq] at found shown
        rw [apart path (order.mem_iff.mpr member) other
          (order.mem_iff.mpr (List.mem_of_find?_eq_some there)) (by rw [found, shown])]
  unfold pathsNamed
  exact congrArg (fun find => names.filterMap find) (funext single)

theorem standardFiles_perm {paths listed : List Path} (order : paths.Perm listed)
    (apart : NamedApart paths) (workspace : String) :
    standardFiles paths workspace = standardFiles listed workspace := by
  unfold standardFiles
  rw [pathsNamed_perm order apart, pathsNamed_perm order apart,
    sortByName_perm (order.filter _) (apart.sublist (List.filter_subset_self _))]

section

variable {files others : FileTree} (same : files.Reordered others)
include same

theorem configurationFiles_reordered (directory : Path) :
    configurationFiles files directory = configurationFiles others directory := by
  unfold configurationFiles
  rcases (same.list directory).cases with ⟨cause, here, there⟩ | ⟨paths, listed, here, there, order, apart⟩
  · rw [here, there]
  · rw [here, there]
    exact congrArg Except.ok (sortByName_perm (order.filter _) (apart.sublist (List.filter_subset_self _)))

theorem readSource_reordered (root file : Path) : readSource files root file = readSource others root file := by
  rw [readSource, readSource, same.readText]

theorem readVariableFiles_reordered (env : Environment) (inputs : Inputs) (paths : List Path) :
    readVariableFiles env files inputs paths = readVariableFiles env others inputs paths := by
  induction paths generalizing inputs with
  | nil => rfl
  | cons path rest ih =>
    simp only [readVariableFiles, readVariableFile, same.readText, ih]

theorem rootInputs_reordered (env : Environment) (root : Path) (options : Options) :
    rootInputs env files root options = rootInputs env others root options := by
  unfold rootInputs
  rcases (same.list root).cases with ⟨cause, here, there⟩ | ⟨paths, listed, here, there, order, apart⟩
  · rw [here, there]
  · rw [here, there]
    simp only [standardFiles_perm order apart, readVariableFiles_reordered same]

theorem manifest_reordered (root : Path) : Manifest.load files root = Manifest.load others root := by
  rw [Manifest.load, Manifest.load, same.readText]

theorem fetchRepository_reordered (services : Services) (cache : Path) :
    fetchRepository services files cache = fetchRepository services others cache := by
  funext source
  unfold fetchRepository
  dsimp only
  rw [same.hasDirectory]
  split
  · rfl
  · rcases (same.makeDirectories cache).cases with ⟨cause, here, there⟩ | ⟨made, other, here, there, _⟩
    · rw [here, there]
    · rw [here, there]

theorem fetchSource_reordered (cache : Path) (source : String) (version : Option String)
    (services : Services) :
    fetchSource files cache source version services = fetchSource others cache source version services := by
  rw [fetchSource, fetchSource, fetchRepository_reordered same]

end

/-- Sources of modules lead to the same directories. -/
theorem Resolver.resolve_reordered {files others : FileTree} (same : files.Reordered others)
    (workingDirectory : Path) (manifest : Manifest) (fetcher : Option Fetcher) :
    @resolve ⟨files, workingDirectory, manifest, fetcher⟩ =
      @resolve ⟨others, workingDirectory, manifest, fetcher⟩ := by
  funext caller key source version
  simp only [resolve, installed?, same.hasDirectory]

end Terradoc
