import Mathlib.Data.List.Forall2
import Terradoc.Proofs.Function.Call

/-! Texts that are joined and split. The pieces of a text joined are the text again, whatever separates them;
pieces that are joined are found again just where there are any and none of them holds the separator. -/

namespace Terradoc

structure Value.Prints (value : Value) (text : String) : Prop where
  known : value.unknowns = []
  written : value.toText = .ok text

theorem Value.prints_string {written text : String} : (Value.string written).Prints text ↔ written = text :=
  ⟨fun prints => Except.ok.inj prints.written, fun same => ⟨rfl, congrArg Except.ok same⟩⟩

theorem Value.not_prints_unknown {marker : Unknown} {text : String} : ¬ (Value.unknown marker).Prints text :=
  fun prints => nomatch prints.written

section Joining

theorem joinWith_empty (texts : List String) : Text.joinWith "" texts = String.join texts := by
  induction texts with
  | nil => rfl
  | cons text rest ih =>
    rw [String.join_cons, ← ih]
    cases rest with
    | nil => simp [Text.joinWith, Text.join]
    | cons next others => simp [Text.joinWith, Text.join, List.intercalate]

variable {host : Host} {root : Path} {depth : Nat}

theorem textArgument_eq_ok_iff {value : Value} {text : String} :
    textArgument value = .ok text ↔ value.toText = .ok text := by
  rw [textArgument]
  cases value.toText with
  | error cause => exact ⟨nofun, nofun⟩
  | ok written => simp

theorem joined_eq_ok_iff {separator : String} {items : List Value} {result : Value} :
    Functions.joined separator [items] = .ok result ↔
      ∃ texts, List.Forall₂ (fun item text => item.toText = .ok text) items texts ∧
        .string (Text.joinWith separator texts) = result := by
  rw [Functions.joined, Except.bind_eq_ok_iff, List.flatten_cons, List.flatten_nil, List.append_nil]
  refine exists_congr fun texts => and_congr ?_ ?_
  · rw [mapM_eq_ok_iff]
    simp only [textArgument_eq_ok_iff]
  · rw [Functions.ofChars, Except.ok.injEq, Text.joinWith]

theorem Value.forall₂_prints_iff {items : List Value} {texts : List String} :
    List.Forall₂ Value.Prints items texts ↔
      (∀ item ∈ items, item.unknowns = []) ∧
        List.Forall₂ (fun item text => item.toText = .ok text) items texts := by
  rw [← List.forall₂_and_left]
  constructor <;> refine List.Forall₂.imp fun item text here => ⟨here.1, here.2⟩

/-- Joining gives a text just where all items are known and have texts. -/
theorem functionTable_join_iff {separator text : String} {value : Value} :
    functionTable host root depth "join" [.string separator, value] = .ok (.string text) ↔
      ∃ items texts, value = .list items ∧ List.Forall₂ Value.Prints items texts ∧
        text = Text.joinWith separator texts := by
  rw [functionTable_eq_ok_iff fun _ => rfl, Function.call_eq_ok_iff rfl rfl]
  constructor
  · rintro ⟨-, known, arguments, accepted, joined⟩
    cases value with
    | list items =>
      cases accepted
      obtain ⟨texts, written, same⟩ := joined_eq_ok_iff.mp joined
      have plain := known _ (List.mem_cons_of_mem _ List.mem_cons_self)
      exact ⟨items, texts, rfl,
        Value.forall₂_prints_iff.mpr ⟨Value.unknownsOfItems_eq_nil_iff.mp plain, written⟩,
        (Value.string.inj same).symm⟩
    | null | bool | number | string | map | unknown => cases accepted
  · rintro ⟨items, texts, rfl, prints, rfl⟩
    obtain ⟨known, written⟩ := Value.forall₂_prints_iff.mp prints
    refine ⟨rfl, ?_, (separator, [items]), rfl, joined_eq_ok_iff.mpr ⟨texts, written, rfl⟩⟩
    simpa [Value.unknowns] using Value.unknownsOfItems_eq_nil_iff.mpr known

end Joining

section Splitting

namespace Text

/-- Pieces as characters and as texts are the same. -/
theorem map_ofList_eq_iff {pieces : List (List Char)} {texts : List String} :
    pieces.map String.ofList = texts ↔ pieces = texts.map String.toList := by
  constructor
  · rintro rfl
    simp [Function.comp_def]
  · rintro rfl
    simp [Function.comp_def]

theorem splitAt_ne_nil (first : Char) (more text : List Char) : splitAt first more text ≠ [] := by
  rw [splitAt]
  split
  · exact List.cons_ne_nil _ _
  · exact List.cons_ne_nil _ _

theorem join_splitAt (first : Char) (more text : List Char) :
    join (first :: more) (splitAt first more text) = text := by
  fun_induction splitAt first more text with
  | case1 text whole => exact List.intercalate_singleton
  | case2 text before rest broken ih =>
    rw [join, List.intercalate_cons_of_ne_nil (splitAt_ne_nil first more rest), breakAt?_eq_append broken]
    exact congrArg (before ++ (first :: more) ++ ·) ih

/-- Joining the pieces of a text gives the text, also where the separator is empty. -/
theorem join_split (separator text : List Char) : join separator (split separator text) = text := by
  cases separator with
  | cons first more => exact join_splitAt first more text
  | nil =>
    -- The empty separator stands before, between and behind the characters.
    have flat (pieces : List (List Char)) : join [] pieces = pieces.flatten := by
      induction pieces with
      | nil => rfl
      | cons piece rest ih =>
        cases rest with
        | nil => simp [join]
        | cons next others =>
          rw [join, List.intercalate_cons_cons, List.append_nil, List.flatten_cons, ← ih]
          rfl
    rw [flat, split, List.flatten_append, List.flatten_cons, ← List.flatMap_def]
    simp

end Text

namespace Functions

theorem join_splitText (separator text : List Char) : Text.join separator (splitText separator text) = text := by
  rw [splitText]
  split
  · rename_i empty
    rw [List.isEmpty_iff.mp empty]
    rfl
  · exact Text.join_split separator text

/-- At a single character a text is split as `splitAt` does it, the empty text included. -/
theorem splitText_single (separator : Char) (text : List Char) :
    splitText [separator] text = Text.splitAt separator [] text := by
  rw [splitText]
  split
  · rename_i empty
    rw [List.isEmpty_iff.mp empty, Text.splitAt_eq_single List.not_mem_nil]
  · rfl

/-- Pieces are found again just where there are any and none of them holds the separator. -/
theorem splitText_join_iff (separator : Char) (pieces : List (List Char)) :
    splitText [separator] (Text.join [separator] pieces) = pieces ↔
      pieces ≠ [] ∧ ∀ piece ∈ pieces, separator ∉ piece := by
  rw [splitText_single]
  constructor
  · intro found
    refine ⟨?_, fun piece member => ?_⟩
    · rw [← found]
      exact Text.splitAt_ne_nil separator [] _
    · rw [← found] at member
      exact Text.not_mem_of_mem_splitAt member
  · rintro ⟨some, outside⟩
    exact Text.splitAt_join some outside

end Functions

variable {host : Host} {root : Path} {depth : Nat}

theorem functionTable_split (separator text : String) :
    functionTable host root depth "split" [.string separator, .string text] =
      .ok (.list (((Functions.splitText separator.toList text.toList).map String.ofList).map .string)) := by
  rw [List.map_map]
  exact functionTable_run (fun _ => rfl) rfl (by simp [Value.unknowns]) rfl rfl

theorem functionTable_join (separator : String) (texts : List String) :
    functionTable host root depth "join" [.string separator, .list (texts.map .string)] =
      .ok (.string (Text.joinWith separator texts)) := by
  refine functionTable_join_iff.mpr ⟨_, texts, rfl, ?_, rfl⟩
  rw [List.forall₂_map_left_iff, List.forall₂_same]
  exact fun text _ => Value.prints_string.mpr rfl

end Splitting

/-- Joining undoes splitting for every separator and text. Splitting at a character undoes joining just where
there are pieces and none of them holds the character. -/
theorem split_join_inverse (host : Host) (root : Path) (depth : Nat) :
    (∀ separator text : String,
      (functionTable host root depth "split" [.string separator, .string text] >>= fun pieces =>
        functionTable host root depth "join" [.string separator, pieces]) = .ok (.string text)) ∧
    ∀ (separator : Char) (pieces : List String),
      (functionTable host root depth "join" [.string (String.singleton separator), .list (pieces.map .string)]
        >>= fun text => functionTable host root depth "split" [.string (String.singleton separator), text]) =
          .ok (.list (pieces.map .string)) ↔
        pieces ≠ [] ∧ ∀ piece ∈ pieces, separator ∉ piece.toList := by
  constructor
  · intro separator text
    have same := Text.map_ofList_eq_iff.mp (Eq.refl
      ((Functions.splitText separator.toList text.toList).map String.ofList))
    refine Except.bind_eq_ok_iff.mpr ⟨_, functionTable_split separator text, ?_⟩
    rw [functionTable_join, Text.joinWith, ← same, Functions.join_splitText, String.ofList_toList]
  · intro separator pieces
    have strings : Function.Injective fun texts : List String => Value.list (texts.map .string) := by
      intro left right same
      exact List.map_injective_iff.mpr (fun _ _ => Value.string.inj) (Value.list.inj same)
    rw [functionTable_join]
    change functionTable host root depth "split" [_, _] = _ ↔ _
    rw [functionTable_split, Except.ok.injEq, strings.eq_iff, Text.joinWith, String.toList_singleton,
      String.toList_ofList, Text.map_ofList_eq_iff, Functions.splitText_join_iff, List.forall_mem_map,
      Ne, List.map_eq_nil_iff]

end Terradoc
