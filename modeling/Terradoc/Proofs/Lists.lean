import Mathlib.Data.List.Chain
import Mathlib.Data.List.Forall2
import Mathlib.Data.List.Pairwise

namespace Terradoc

theorem exists_of_forall₂ {α β : Type} {relation : α → β → Prop} {left : List α} {right : List β}
    (rows : List.Forall₂ relation left right) {image : β} (member : image ∈ right) :
    ∃ item ∈ left, relation item image := by
  induction rows with
  | nil => cases member
  | cons related _ ih =>
    rcases List.mem_cons.mp member with rfl | later
    · exact ⟨_, List.mem_cons_self, related⟩
    · obtain ⟨item, present, found⟩ := ih later
      exact ⟨item, List.mem_cons_of_mem _ present, found⟩

theorem forall_of_forall₂ {α β : Type} {relation : α → β → Prop} {holds : β → Prop} {left : List α}
    {right : List β} (rows : List.Forall₂ relation left right)
    (each : ∀ item image, relation item image → holds image) : ∀ image ∈ right, holds image := by
  intro image member
  obtain ⟨item, _, related⟩ := exists_of_forall₂ rows member
  exact each item image related

theorem forall₂_and {α β : Type} {relation related : α → β → Prop} {left : List α} {right : List β}
    (rows : List.Forall₂ relation left right) (others : List.Forall₂ related left right) :
    List.Forall₂ (fun item image => relation item image ∧ related item image) left right := by
  induction rows with
  | nil => exact .nil
  | cons head _ ih =>
    cases others with
    | cons head' tail' => exact .cons ⟨head, head'⟩ (ih tail')

theorem forall₂_exists_iff {α β γ : Type} {relation : α → β → Prop} {related : β → γ → Prop}
    {left : List α} {right : List γ} :
    List.Forall₂ (fun item image => ∃ middle, relation item middle ∧ related middle image) left right ↔
      ∃ middles, List.Forall₂ relation left middles ∧ List.Forall₂ related middles right := by
  constructor
  · intro rows
    induction rows with
    | nil => exact ⟨[], .nil, .nil⟩
    | cons here _ ih =>
      obtain ⟨middle, first, second⟩ := here
      obtain ⟨middles, firsts, seconds⟩ := ih
      exact ⟨middle :: middles, .cons first firsts, .cons second seconds⟩
  · rintro ⟨middles, firsts, seconds⟩
    induction firsts generalizing right with
    | nil =>
      cases seconds
      exact .nil
    | cons first _ ih =>
      cases seconds with
      | cons second later => exact .cons ⟨_, first, second⟩ (ih later)

theorem forall₂_of_mem {α β : Type} {relation related : α → β → Prop} {left : List α} {right : List β}
    (rows : List.Forall₂ relation left right)
    (carry : ∀ item ∈ left, ∀ image ∈ right, relation item image → related item image) :
    List.Forall₂ related left right := by
  induction rows with
  | nil => exact .nil
  | cons head _ ih =>
    exact .cons (carry _ List.mem_cons_self _ List.mem_cons_self head) (ih fun item member image inside =>
      carry item (List.mem_cons_of_mem _ member) image (List.mem_cons_of_mem _ inside))

theorem exists_forall₂ {α β : Type} {relation : α → β → Prop} {items : List α}
    (each : ∀ item ∈ items, ∃ image, relation item image) :
    ∃ images, List.Forall₂ relation items images := by
  induction items with
  | nil => exact ⟨[], .nil⟩
  | cons head tail ih =>
    obtain ⟨⟨image, first⟩, rest⟩ := List.forall_mem_cons.mp each
    obtain ⟨images, next⟩ := ih rest
    exact ⟨image :: images, .cons first next⟩

theorem map_eq_map_iff_forall₂ {α β γ : Type} {image : α → γ} {view : β → γ} {left : List α}
    {right : List β} : left.map image = right.map view ↔
      List.Forall₂ (fun item other => image item = view other) left right := by
  rw [← List.forall₂_eq_eq_eq, List.forall₂_map_left_iff, List.forall₂_map_right_iff]

theorem eq_map_of_forall₂ {α β : Type} {image : α → β} {items : List α} {results : List β}
    (each : List.Forall₂ (fun item result => image item = result) items results) :
    items.map image = results := by
  simpa using map_eq_map_iff_forall₂.mpr each

theorem pairwise_of_forall₂ {α β : Type} {relation : α → β → Prop} {apart : α → α → Prop}
    {distant : β → β → Prop} {left : List α} {right : List β} (rows : List.Forall₂ relation left right)
    (pairs : left.Pairwise apart)
    (carry : ∀ first second image other, apart first second → relation first image →
      relation second other → distant image other) : right.Pairwise distant := by
  induction rows with
  | nil => exact .nil
  | cons head tail ih =>
    obtain ⟨first, rest⟩ := List.pairwise_cons.mp pairs
    refine .cons (fun image member => ?_) (ih rest)
    obtain ⟨item, inside, related⟩ := exists_of_forall₂ tail member
    exact carry _ _ _ _ (first item inside) head related

/-- What holds of the pairs of a list, and from either side, holds of any two different items. -/
theorem forall_of_pairwise {α : Type} {related : α → α → Prop} {items : List α}
    (pairs : items.Pairwise related) (turn : ∀ first second, related first second → related second first)
    {first second : α} (member : first ∈ items) (inside : second ∈ items) (different : first ≠ second) :
    related first second :=
  have : Std.Symm related := ⟨turn⟩
  pairs.forall member inside different

/-- Of items that share no image, images in two orders are in the same order. -/
theorem eq_of_forall₂_perm {α β : Type} {relation : α → β → Prop} {items : List α} {left right : List β}
    (rows : List.Forall₂ relation items left) (others : List.Forall₂ relation items right)
    (order : left.Perm right)
    (apart : items.Pairwise fun first second => ∀ image, relation first image → ¬ relation second image) :
    left = right := by
  induction rows generalizing right with
  | nil =>
    cases others
    rfl
  | @cons item image _ _ head tail ih =>
    cases others with
    | @cons _ other _ _ head' tail' =>
      obtain ⟨first, rest⟩ := List.pairwise_cons.mp apart
      rcases List.mem_cons.mp (order.subset List.mem_cons_self) with rfl | later
      · rw [ih tail' order.cons_inv rest]
      · obtain ⟨second, inside, related⟩ := exists_of_forall₂ tail' later
        exact absurd related (first second inside image head)

theorem Except.bind_eq_ok_iff {α β ε : Type} {first : Except ε α} {next : α → Except ε β} {result : β} :
    first >>= next = .ok result ↔ ∃ value, first = .ok value ∧ next value = .ok result := by
  cases first with
  | error fault => exact ⟨nofun, fun ⟨_, done, _⟩ => nomatch done⟩
  | ok value => exact ⟨fun done => ⟨value, rfl, done⟩, fun ⟨_, same, done⟩ => Except.ok.inj same ▸ done⟩

theorem Except.map_eq_ok_iff {α β ε : Type} {first : Except ε α} {image : α → β} {result : β} :
    first.map image = .ok result ↔ ∃ value, first = .ok value ∧ image value = result := by
  cases first with
  | error fault => exact ⟨nofun, fun ⟨_, done, _⟩ => nomatch done⟩
  | ok value =>
    exact ⟨fun done => ⟨value, rfl, Except.ok.inj done⟩,
      fun ⟨_, same, done⟩ => congrArg Except.ok (Except.ok.inj same ▸ done)⟩

/-- Steps that all succeed give their results one by one. -/
theorem mapM_eq_ok_iff {α β ε : Type} {step : α → Except ε β} {items : List α} {results : List β} :
    items.mapM step = .ok results ↔
      List.Forall₂ (fun item result => step item = .ok result) items results := by
  induction items generalizing results with
  | nil =>
    rw [List.mapM_nil, List.forall₂_nil_left_iff]
    exact ⟨fun done => (Except.ok.inj done).symm, fun empty => empty ▸ rfl⟩
  | cons item rest ih =>
    rw [List.mapM_cons, Except.bind_eq_ok_iff]
    constructor
    · rintro ⟨first, here, later⟩
      obtain ⟨others, rows, same⟩ := Except.bind_eq_ok_iff.mp later
      cases same
      exact .cons here (ih.mp rows)
    · intro rows
      cases rows with
      | cons here later => exact ⟨_, here, Except.bind_eq_ok_iff.mpr ⟨_, ih.mpr later, rfl⟩⟩

theorem List.nodup_eraseDups {α : Type} [BEq α] [LawfulBEq α] (items : List α) :
    items.eraseDups.Nodup := by
  induction size : items.length using Nat.strongRecOn generalizing items with
  | ind length ih =>
    cases items with
    | nil => exact List.nodup_nil
    | cons item rest =>
      rw [List.eraseDups_cons, List.nodup_cons]
      refine ⟨fun member => ?_, ih _ ?_ _ rfl⟩
      · simpa using (List.mem_filter.mp (List.mem_eraseDups.mp member)).2
      · rw [← size, List.length_cons]
        exact Nat.lt_succ_of_le (List.length_filter_le _ _)

theorem List.eraseDups_of_nodup {α : Type} [BEq α] [LawfulBEq α] {items : List α}
    (distinct : items.Nodup) : items.eraseDups = items := by
  induction items with
  | nil => rfl
  | cons item rest ih =>
    obtain ⟨fresh, later⟩ := List.nodup_cons.mp distinct
    have others : rest.filter (fun other => !other == item) = rest := by
      refine List.filter_eq_self.mpr fun other member => ?_
      have differ : (other == item) = false :=
        beq_eq_false_iff_ne.mpr fun same => fresh (same ▸ member)
      rw [differ]
      rfl
    rw [List.eraseDups_cons, others, ih later]

theorem List.eraseDups_concat {α : Type} [BEq α] [LawfulBEq α] (items : List α) (item : α) :
    (items ++ [item]).eraseDups =
      if item ∈ items then items.eraseDups else items.eraseDups ++ [item] := by
  rw [List.eraseDups_append]
  split
  · rename_i known
    simp [List.removeAll, known]
  · rename_i fresh
    simp [List.removeAll, fresh, List.eraseDups_cons]

theorem List.filter_eraseDups {α : Type} [BEq α] [LawfulBEq α] (kept : α → Bool) (items : List α) :
    items.eraseDups.filter kept = (items.filter kept).eraseDups := by
  induction items using List.reverseRecOn with
  | nil => rfl
  | append_singleton rest item ih =>
    rw [List.filter_append, List.eraseDups_concat]
    cases keep : kept item with
    | false =>
      rw [List.filter_cons_of_neg (by simp [keep]), List.filter_nil, List.append_nil, ← ih]
      split
      · rfl
      · rw [List.filter_append, List.filter_cons_of_neg (by simp [keep]), List.filter_nil, List.append_nil]
    | true =>
      rw [List.filter_cons_of_pos keep, List.filter_nil, List.eraseDups_concat]
      simp only [List.mem_filter, keep, and_true]
      split
      · exact ih
      · rw [List.filter_append, List.filter_cons_of_pos keep, List.filter_nil, ih]

/-- The first occurrences of a part may stand for the part. -/
theorem List.eraseDups_append_eraseDups {α : Type} [BEq α] [LawfulBEq α] (before inner after : List α) :
    (before ++ inner.eraseDups ++ after).eraseDups = (before ++ inner ++ after).eraseDups := by
  have front : (before ++ inner.eraseDups).eraseDups = (before ++ inner).eraseDups := by
    rw [List.eraseDups_append, List.eraseDups_append, List.removeAll, List.filter_eraseDups,
      List.eraseDups_of_nodup (List.nodup_eraseDups _)]
    rfl
  have missing : after.removeAll (before ++ inner.eraseDups) = after.removeAll (before ++ inner) := by
    refine List.filter_congr fun item _ => ?_
    simp
  rw [List.eraseDups_append, front, missing, ← List.eraseDups_append]

/-- Sorting forgets the order in which items came in, where the order of items tells them apart. -/
theorem mergeSort_perm_eq {α : Type} {before : α → α → Bool}
    (transitive : ∀ first second third, before first second = true → before second third = true →
      before first third = true)
    (total : ∀ first second, (before first second || before second first) = true)
    {items others : List α} (order : items.Perm others)
    (apart : ∀ first ∈ items, ∀ second ∈ items, before first second = true →
      before second first = true → first = second) :
    items.mergeSort before = others.mergeSort before := by
  have members := List.mergeSort_perm items before
  have images := List.mergeSort_perm others before
  refine List.Perm.eq_of_pairwise (fun first second member image => ?_)
    (List.pairwise_mergeSort transitive total items) (List.pairwise_mergeSort transitive total others)
    (members.trans (order.trans images.symm))
  exact apart first (members.mem_iff.mp member) second
    (order.mem_iff.mpr (images.mem_iff.mp image))

section Texts

theorem notAbove_iff {first second : String} : (!decide (second < first)) = true ↔ first ≤ second := by
  rw [Bool.not_eq_true', decide_eq_false_iff_not, String.not_lt]

variable {α : Type} (key : α → String)

theorem notAbove_trans (first second third : α) (here : (!decide (key second < key first)) = true)
    (there : (!decide (key third < key second)) = true) : (!decide (key third < key first)) = true :=
  notAbove_iff.mpr (String.le_trans (notAbove_iff.mp here) (notAbove_iff.mp there))

theorem notAbove_total (first second : α) :
    (!decide (key second < key first) || !decide (key first < key second)) = true := by
  rw [Bool.or_eq_true, notAbove_iff, notAbove_iff]
  exact String.le_total _ _

/-- Items that are sorted by a text of each come in the order of their texts. -/
theorem pairwise_mergeSort_texts (items : List α) :
    (items.mergeSort fun first second => !(key second < key first)).Pairwise
      fun first second => key first ≤ key second :=
  (List.pairwise_mergeSort (notAbove_trans key) (notAbove_total key) items).imp notAbove_iff.mp

end Texts

/-- Sorting by what is an order on the items that are there. -/
theorem pairwise_mergeSort_of_mem {α : Type} {before : α → α → Bool} {items : List α}
    (transitive : ∀ first ∈ items, ∀ second ∈ items, ∀ third ∈ items, before first second = true →
      before second third = true → before first third = true)
    (total : ∀ first ∈ items, ∀ second ∈ items, (before first second || before second first) = true) :
    (items.mergeSort before).Pairwise fun first second => before first second = true := by
  let within (first second : { item // item ∈ items }) : Bool := before first.1 second.1
  have sorted : (items.attach.mergeSort within).Pairwise fun first second => within first second = true :=
    List.pairwise_mergeSort
      (fun first second third => transitive first.1 first.2 second.1 second.2 third.1 third.2)
      (fun first second => total first.1 first.2 second.1 second.2) items.attach
  have image : (items.attach.mergeSort within).map Subtype.val =
      (items.attach.map Subtype.val).mergeSort before := List.map_mergeSort fun _ _ _ _ => rfl
  rw [List.attach_map_subtype_val] at image
  rw [← image, List.pairwise_map]
  exact sorted

/-- A list sorted step by step is sorted as a whole, where the relation is transitive on its items. -/
theorem pairwise_of_isChain {α : Type} {related : α → α → Prop} {items : List α}
    (transitive : ∀ first ∈ items, ∀ second ∈ items, ∀ third ∈ items, related first second →
      related second third → related first third) (sorted : items.IsChain related) :
    items.Pairwise related := by
  induction items with
  | nil => exact .nil
  | cons item rest ih =>
    have later : rest.Pairwise related :=
      ih (fun first member second inside third last =>
        transitive first (List.mem_cons_of_mem _ member) second (List.mem_cons_of_mem _ inside) third
          (List.mem_cons_of_mem _ last)) (List.isChain_cons.mp sorted).2
    cases rest with
    | nil => exact List.pairwise_singleton _ _
    | cons next more =>
      have first := (List.isChain_cons_cons.mp sorted).1
      refine .cons (List.forall_mem_cons.mpr ⟨first, fun other member => ?_⟩) later
      exact transitive item List.mem_cons_self next (List.mem_cons_of_mem _ List.mem_cons_self) other
        (List.mem_cons_of_mem _ (List.mem_cons_of_mem _ member)) first (List.rel_of_pairwise_cons later member)

private theorem mem_head?_merge {α : Type} {before : α → α → Bool} {left right : List α} {item : α}
    (head : item ∈ (left.merge right before).head?) : item ∈ left.head? ∨ item ∈ right.head? := by
  cases left with
  | nil =>
    rw [List.nil_merge] at head
    exact .inr head
  | cons first rest =>
    cases right with
    | nil =>
      rw [List.merge_right] at head
      exact .inl head
    | cons second others =>
      rw [List.cons_merge_cons] at head
      split at head
      · exact .inl head
      · exact .inr head

/-- Sorted lists merge into one, also where the relation is not transitive. -/
theorem isChain_merge {α : Type} {before : α → α → Bool}
    (total : ∀ first second, (before first second || before second first) = true) (left right : List α)
    (first : left.IsChain fun item next => before item next = true)
    (second : right.IsChain fun item next => before item next = true) :
    (left.merge right before).IsChain fun item next => before item next = true := by
  fun_induction List.merge left right before with
  | case1 => exact second
  | case2 => exact first
  | case3 item rest other others inOrder ih =>
    rw [List.isChain_cons] at first ⊢
    refine ⟨fun next head => ?_, ih first.2 second⟩
    rcases mem_head?_merge head with here | there
    · exact first.1 next here
    · cases there
      exact inOrder
  | case4 item rest other others inOrder ih =>
    rw [List.isChain_cons] at second ⊢
    refine ⟨fun next head => ?_, ih first second.2⟩
    rcases mem_head?_merge head with here | there
    · cases here
      exact (Bool.or_eq_true _ _ ▸ total item other).resolve_left inOrder
    · exact second.1 next there

theorem isChain_mergeSort {α : Type} {before : α → α → Bool}
    (total : ∀ first second, (before first second || before second first) = true) (items : List α) :
    (items.mergeSort before).IsChain fun item next => before item next = true := by
  induction items, before using List.mergeSort.induct with
  | case1 =>
    rw [List.mergeSort_nil]
    exact .nil
  | case2 =>
    rw [List.mergeSort_singleton]
    exact .singleton _
  | case3 first second rest before halves _ _ ih ih' =>
    rw [List.mergeSort]
    exact isChain_merge total _ _ (ih total) (ih' total)

end Terradoc
