import Mathlib.Data.List.TakeWhile
import Terradoc.Module.Source
import Terradoc.Proofs.Function.Texts
import Terradoc.Proofs.Text.Occurrences

/-! Registry sources. Classifying a source, reading its address and cutting off its package agree: the address holds
all of the source, and its package alone is the same address without a directory. -/

namespace Terradoc

namespace Text

/-- A text without the slashes around it. -/
structure Bare (text inner : List Char) : Prop where
  around : ∃ left right, text = left ++ inner ++ right ∧ ∀ char ∈ left ++ right, char = '/'
  noStart : ¬ "/".toList <+: inner
  noEnd : ¬ "/".toList <:+ inner

theorem dropWhile_not_prefix (text : List Char) : ¬ ['/'] <+: text.dropWhile ['/'].contains := by
  rintro ⟨rest, same⟩
  have head : (text.dropWhile ['/'].contains).head? = some '/' := by rw [← same]; rfl
  have := List.head?_dropWhile_not ['/'].contains text
  rw [head] at this
  simp at this

theorem bare_trimOf (text : List Char) : Bare text (trimOf ['/'] text) := by
  let front := text.dropWhile ['/'].contains
  have slashes {part : List Char} : ∀ char ∈ part.takeWhile ['/'].contains, char = '/' := by
    intro char member
    simpa using List.mem_takeWhile_imp member
  refine ⟨⟨text.takeWhile ['/'].contains, (front.reverse.takeWhile ['/'].contains).reverse, ?_, ?_⟩, ?_, ?_⟩
  · rw [trimOf, List.append_assoc, ← List.reverse_append, List.takeWhile_append_dropWhile,
      List.reverse_reverse, List.takeWhile_append_dropWhile]
  · intro char member
    rcases List.mem_append.mp member with left | right
    · exact slashes char left
    · exact slashes char (List.mem_reverse.mp right)
  · intro starts
    have inside : trimOf ['/'] text <+: front := by
      rw [← List.reverse_suffix, trimOf, List.reverse_reverse]
      exact List.dropWhile_suffix _
    exact dropWhile_not_prefix text (starts.trans inside)
  · intro ends
    rw [← List.reverse_prefix, trimOf, List.reverse_reverse] at ends
    exact dropWhile_not_prefix _ ends

theorem splitOnce?_eq_none_iff {mark text : String} :
    splitOnce? mark text = none ↔ ¬ mark.toList <:+: text.toList := by
  rw [splitOnce?, Option.map_eq_none_iff, breakAt?_eq_none_iff]

theorem splitOnce?_eq_some {mark text before rest : String} (nonempty : mark.toList ≠ [])
    (cut : splitOnce? mark text = some (before, rest)) :
    text = before ++ mark ++ rest ∧ ¬ mark.toList <:+: before.toList := by
  obtain ⟨⟨front, back⟩, found, same⟩ := Option.map_eq_some_iff.mp cut
  cases same
  obtain ⟨whole, first⟩ := (breakAt?_eq_some_iff nonempty).mp found
  refine ⟨?_, ?_⟩
  · rw [← String.toList_inj, whole]
    simp
  · rw [String.toList_ofList]
    exact mt List.infix_append_of_infix_left first

theorem joinWith_splitChar (text : String) : joinWith "/" (splitChar '/' text) = text := by
  rw [joinWith, splitChar, List.map_map, ← String.toList_inj, String.toList_ofList]
  simpa [Function.comp_def] using join_splitAt '/' [] text.toList

end Text

section Packages

variable {source : String}

theorem packageOf_of_single (single : ¬ "//".toList <:+: source.toList) : packageOf source = source := by
  rw [packageOf, Text.splitOnce?_eq_none_iff.mpr single]
  rfl

theorem subdirectoryOf?_of_single (single : ¬ "//".toList <:+: source.toList) : subdirectoryOf? source = none := by
  rw [subdirectoryOf?, Text.splitOnce?_eq_none_iff.mpr single]
  rfl

/-- The directory that is stored for the text behind a package: the text without the slashes around it, none when
nothing is left. -/
def Stored (written stored : Option String) : Prop :=
  match written with
  | none => stored = none
  | some text => ∃ inner, Text.Bare text.toList inner ∧
      stored = if inner = [] then none else some (String.ofList inner)

/-- A source is its package and the text behind it. -/
theorem packageOf_append (source : String) :
    ¬ "//".toList <:+: (packageOf source).toList ∧
      ∃ written : Option String, source = packageOf source ++ written.elim "" ("//" ++ ·) ∧
        Stored written (subdirectoryOf? source) := by
  cases cut : Text.splitOnce? "//" source with
  | none =>
    have single := Text.splitOnce?_eq_none_iff.mp cut
    rw [packageOf_of_single single, subdirectoryOf?_of_single single]
    exact ⟨single, none, String.append_empty.symm, rfl⟩
  | some parts =>
    obtain ⟨package, text⟩ := parts
    obtain ⟨whole, single⟩ := Text.splitOnce?_eq_some (by decide) cut
    have here : packageOf source = package := by rw [packageOf, cut]; rfl
    rw [here]
    refine ⟨single, some text, by rw [whole, String.append_assoc]; rfl, _, Text.bare_trimOf text.toList, ?_⟩
    rw [subdirectoryOf?, cut, Option.bind_some]
    simp [← String.toList_inj]

theorem packageOf_prefix (source : String) : (packageOf source).toList <+: source.toList := by
  obtain ⟨-, written, whole, -⟩ := packageOf_append source
  exact ⟨(written.elim "" ("//" ++ ·)).toList, by rw [← String.toList_append, ← whole]⟩

theorem isDirectorySource_eq_false_iff {source : String} :
    isDirectorySource source = false ↔ source ≠ "." ∧ source ≠ ".." ∧
      ∀ start ∈ ["./", "../", ".\\", "..\\", "/"], ¬ start.toList <+: source.toList := by
  simp [isDirectorySource, and_assoc]

theorem namesProtocol_eq_false_iff {source : String} :
    namesProtocol source = false ↔ ¬ "::".toList <:+: source.toList ∧ ¬ "://".toList <:+: source.toList ∧
      ¬ "git@".toList <+: source.toList := by
  rw [namesProtocol, Bool.or_eq_false_iff, Bool.or_eq_false_iff, ← Bool.not_eq_true, ← Bool.not_eq_true,
    Text.occursIn_iff, Text.occursIn_iff, String.startsWith_string_eq_false_iff, and_assoc]

end Packages

/-- The pieces of a package that a registry serves: a host where one is written, then namespace, name and provider. -/
inductive Served : List String → Prop where
  | short {space name provider : String} (segments : ∀ text ∈ [space, name, provider], isSegment text = true) :
      Served [space, name, provider]
  | long {host space name provider : String} (isHost : isRegistryHost host = true)
      (segments : ∀ text ∈ [space, name, provider], isSegment text = true) : Served [host, space, name, provider]

theorem Served.slash_mem {text : String} (served : Served (Text.splitChar '/' text)) : '/' ∈ text.toList := by
  by_contra outside
  rw [Text.splitChar_eq_single outside] at served
  cases served

/-- A source is one for a registry just where it is no path, names no protocol and has a package that a registry
serves. -/
theorem ofSource_eq_registry_iff {source : String} :
    SourceKind.ofSource source = .registry ↔ isDirectorySource source = false ∧ namesProtocol source = false ∧
      Served (Text.splitChar '/' (packageOf source)) := by
  unfold SourceKind.ofSource
  split
  · rename_i path
    exact ⟨nofun, fun ⟨other, _⟩ => nomatch path.symm.trans other⟩
  rename_i path
  split
  · rename_i protocol
    exact ⟨nofun, fun ⟨_, other, _⟩ => nomatch protocol.symm.trans other⟩
  rename_i protocol
  rw [Bool.not_eq_true] at path protocol
  constructor
  · intro registry
    refine ⟨path, protocol, ?_⟩
    split at registry
    · rename_i space name provider parts
      split at registry
      · rename_i segments
        exact parts ▸ .short (List.all_eq_true.mp segments)
      · cases registry
    · rename_i host space name provider parts
      split at registry
      · rename_i both
        obtain ⟨isHost, segments⟩ := (Bool.and_eq_true ..).mp both
        exact parts ▸ .long isHost (List.all_eq_true.mp segments)
      · cases registry
    · cases registry
  · rintro ⟨-, -, served⟩
    generalize Text.splitChar '/' (packageOf source) = parts at served
    cases served with
    | short segments => exact if_pos (List.all_eq_true.mpr segments)
    | long isHost segments => exact if_pos ((Bool.and_eq_true ..).mpr ⟨isHost, List.all_eq_true.mpr segments⟩)

/-- The package of a registry source is one on its own. -/
theorem ofSource_packageOf {source : String} (registry : SourceKind.ofSource source = .registry) :
    SourceKind.ofSource (packageOf source) = .registry := by
  obtain ⟨path, protocol, served⟩ := ofSource_eq_registry_iff.mp registry
  have start := packageOf_prefix source
  have again := packageOf_of_single (packageOf_append source).1
  rw [isDirectorySource_eq_false_iff] at path
  rw [namesProtocol_eq_false_iff] at protocol
  refine ofSource_eq_registry_iff.mpr ⟨isDirectorySource_eq_false_iff.mpr ⟨?_, ?_, ?_⟩,
    namesProtocol_eq_false_iff.mpr ⟨?_, ?_, ?_⟩, again.symm ▸ served⟩
  · exact fun dot => absurd served.slash_mem (dot ▸ by decide)
  · exact fun dots => absurd served.slash_mem (dots ▸ by decide)
  · exact fun mark member starts => path.2.2 mark member (starts.trans start)
  · exact fun inside => protocol.1 (inside.trans start.isInfix)
  · exact fun inside => protocol.2.1 (inside.trans start.isInfix)
  · exact fun starts => protocol.2.2 (starts.trans start)

namespace RegistryAddress

/-- A package is the host of its address, where one is written, and its path. -/
structure Names (address : RegistryAddress) (package : String) : Prop where
  rejoined : package = address.path ∧ address.host = defaultRegistry ∨
    package = address.host ++ "/" ++ address.path ∧ isRegistryHost address.host = true
  segments : ∃ space name provider, address.path = space ++ "/" ++ name ++ "/" ++ provider ∧
    ∀ text ∈ [space, name, provider], isSegment text = true

theorem parse?_of_served {source : String} (served : Served (Text.splitChar '/' (packageOf source))) :
    ∃ address, RegistryAddress.parse? source = some address ∧ address.Names (packageOf source) ∧
      address.subdirectory = subdirectoryOf? source := by
  have joined := Text.joinWith_splitChar (packageOf source)
  have three (space name provider : String) :
      Text.joinWith "/" [space, name, provider] = space ++ "/" ++ name ++ "/" ++ provider := by
    simp [Text.joinWith, Text.join, ← String.toList_inj]
  unfold RegistryAddress.parse?
  generalize Text.splitChar '/' (packageOf source) = parts at served joined
  cases served with
  | short segments => exact ⟨_, rfl, ⟨.inl ⟨joined.symm, rfl⟩, _, _, _, three _ _ _, segments⟩, rfl⟩
  | @long host space name provider isHost segments =>
    have whole : Text.joinWith "/" [host, space, name, provider] =
        host ++ "/" ++ Text.joinWith "/" [space, name, provider] := by
      simp [Text.joinWith, Text.join, ← String.toList_inj]
    exact ⟨_, rfl, ⟨.inr ⟨joined.symm.trans whole, isHost⟩, _, _, _, three _ _ _, segments⟩, rfl⟩

/-- Every source that is classified as one for a registry has an address. The source is its package and the text
behind it, the package is the host where it is written and the path, and the directory is that text without the
slashes around it. The package alone is a registry source with the same address and no directory. -/
theorem parse?_of_registry {source : String} (registry : SourceKind.ofSource source = .registry) :
    ∃ address written, RegistryAddress.parse? source = some address ∧
      source = packageOf source ++ Option.elim written "" ("//" ++ ·) ∧
      ¬ "//".toList <:+: (packageOf source).toList ∧
      address.Names (packageOf source) ∧ Stored written address.subdirectory ∧
      SourceKind.ofSource (packageOf source) = .registry ∧
      RegistryAddress.parse? (packageOf source) = some { address with subdirectory := none } := by
  obtain ⟨-, -, served⟩ := ofSource_eq_registry_iff.mp registry
  obtain ⟨single, written, whole, stored⟩ := packageOf_append source
  obtain ⟨address, parsed, names, subdirectory⟩ := parse?_of_served served
  refine ⟨address, written, parsed, whole, single, names, subdirectory ▸ stored, ofSource_packageOf registry, ?_⟩
  unfold RegistryAddress.parse? at parsed ⊢
  rw [packageOf_of_single single, subdirectoryOf?_of_single single]
  generalize Text.splitChar '/' (packageOf source) = parts at served parsed
  cases served <;> cases parsed <;> rfl

/-- A source with a host, and with slashes around its directory. -/
theorem parse?_of_registry_with_host :
    let source := "app.terraform.io/corp/k8s/azurerm///modules/pool/"
    SourceKind.ofSource source = .registry ∧
      RegistryAddress.parse? source = some ⟨"app.terraform.io", "corp/k8s/azurerm", some "modules/pool"⟩ ∧
      SourceKind.ofSource "app.terraform.io/corp/k8s/azurerm" = .registry ∧
      RegistryAddress.parse? "app.terraform.io/corp/k8s/azurerm" =
        some ⟨"app.terraform.io", "corp/k8s/azurerm", none⟩ := by
  intro source
  have registry : SourceKind.ofSource source = .registry := by decide +kernel
  have package : packageOf source = "app.terraform.io/corp/k8s/azurerm" := by decide +kernel
  have parsed : RegistryAddress.parse? source =
      some ⟨"app.terraform.io", "corp/k8s/azurerm", some "modules/pool"⟩ := by decide +kernel
  obtain ⟨address, _, found, -, -, -, -, again, alone⟩ := parse?_of_registry registry
  obtain rfl := Option.some.inj (found.symm.trans parsed)
  rw [package] at again alone
  exact ⟨registry, parsed, again, alone⟩

end RegistryAddress

end Terradoc
