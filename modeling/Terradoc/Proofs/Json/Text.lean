import Terradoc.Json.Printer
import Terradoc.Proofs.Number.Text

namespace Terradoc.Json

/-- The character that a letter after a backslash stands for. -/
def unescape (mark : Char) : Char :=
  if mark = 'n' then '\n'
  else if mark = 'r' then '\r'
  else if mark = 't' then '\t'
  else if mark = 'b' then '\x08'
  else if mark = 'f' then '\x0c'
  else mark

theorem escapeChar_cases (char : Char) :
    (∃ mark, escapeChar char = ['\\', mark] ∧ mark ≠ 'u' ∧ unescape mark = char) ∨
      (escapeChar char = '\\' :: 'u' :: hexQuad char.toNat ∧ char.toNat < 32) ∨
      (escapeChar char = [char] ∧ char ≠ '"' ∧ char ≠ '\\') := by
  unfold escapeChar
  split
  · rename_i quote
    exact .inl ⟨'"', rfl, by decide, (beq_iff_eq.mp quote).symm⟩
  split
  · rename_i slash
    exact .inl ⟨'\\', rfl, by decide, (beq_iff_eq.mp slash).symm⟩
  split
  · rename_i line
    exact .inl ⟨'n', rfl, by decide, (beq_iff_eq.mp line).symm⟩
  split
  · rename_i feed
    exact .inl ⟨'r', rfl, by decide, (beq_iff_eq.mp feed).symm⟩
  split
  · rename_i tab
    exact .inl ⟨'t', rfl, by decide, (beq_iff_eq.mp tab).symm⟩
  split
  · rename_i back
    exact .inl ⟨'b', rfl, by decide, (beq_iff_eq.mp back).symm⟩
  split
  · rename_i form
    exact .inl ⟨'f', rfl, by decide, (beq_iff_eq.mp form).symm⟩
  split
  · rename_i small
    exact .inr (.inl ⟨rfl, small⟩)
  · rename_i quote slash _ _ _ _ _ _
    exact .inr (.inr ⟨rfl, by simpa using quote, by simpa using slash⟩)

/-- Four digits tell a code below 32. -/
theorem hexQuad_inj {left right : Nat} (first : left < 32) (second : right < 32) {rest more : List Char}
    (same : hexQuad left ++ rest = hexQuad right ++ more) : left = right ∧ rest = more := by
  have length : ∀ code < 32, (hexQuad code).length = 4 := by decide +kernel
  have injective : ∀ code < 32, ∀ other < 32, hexQuad code = hexQuad other → code = other := by
    decide +kernel
  obtain ⟨digits, tails⟩ := List.append_inj same (by rw [length _ first, length _ second])
  exact ⟨injective _ first _ second digits, tails⟩

theorem escapeChar_inj {left right : Char} {rest more : List Char}
    (same : escapeChar left ++ rest = escapeChar right ++ more) : left = right ∧ rest = more := by
  rcases escapeChar_cases left with
      ⟨mark, text, named, meaning⟩ | ⟨text, small⟩ | ⟨text, notQuote, notSlash⟩ <;>
    rcases escapeChar_cases right with
      ⟨mark', text', named', meaning'⟩ | ⟨text', small'⟩ | ⟨text', notQuote', notSlash'⟩ <;>
    rw [text, text'] at same <;>
    simp only [List.cons_append, List.nil_append, List.cons.injEq, true_and] at same
  · obtain ⟨rfl, tails⟩ := same
    exact ⟨meaning.symm.trans meaning', tails⟩
  · exact absurd same.1 named
  · exact absurd same.1.symm notSlash'
  · exact absurd same.1.symm named'
  · obtain ⟨codes, tails⟩ := hexQuad_inj small small' same
    exact ⟨Char.toNat_inj.mp codes, tails⟩
  · exact absurd same.1.symm notSlash'
  · exact absurd same.1 notSlash
  · exact absurd same.1 notSlash
  · exact same

private theorem escapeChar_ne_quote (char : Char) (rest more : List Char) :
    escapeChar char ++ rest ≠ '"' :: more := by
  rcases escapeChar_cases char with ⟨_, text, _⟩ | ⟨text, _⟩ | ⟨text, notQuote, _⟩ <;> rw [text] <;>
    simp
  exact fun same => absurd same notQuote

private theorem escaped_inj {left right rest more : List Char}
    (same : left.flatMap escapeChar ++ '"' :: rest = right.flatMap escapeChar ++ '"' :: more) :
    left = right ∧ rest = more := by
  induction left generalizing right with
  | nil =>
    cases right with
    | nil => exact ⟨rfl, List.cons.inj same |>.2⟩
    | cons head tail =>
      rw [List.flatMap_cons, List.append_assoc] at same
      exact (escapeChar_ne_quote _ _ _ same.symm).elim
  | cons first others ih =>
    cases right with
    | nil =>
      rw [List.flatMap_cons, List.append_assoc] at same
      exact (escapeChar_ne_quote _ _ _ same).elim
    | cons head tail =>
      rw [List.flatMap_cons, List.append_assoc, List.flatMap_cons, List.append_assoc] at same
      obtain ⟨rfl, later⟩ := escapeChar_inj same
      obtain ⟨rfl, tails⟩ := ih later
      exact ⟨rfl, tails⟩

theorem toList_quote (text : String) :
    (quote text).toList = '"' :: (text.toList.flatMap escapeChar ++ ['"']) := by
  simp [quote]

/-- A quoted text tells where it ends. -/
theorem quote_inj {left right : String} {rest more : List Char}
    (same : (quote left).toList ++ rest = (quote right).toList ++ more) :
    left = right ∧ rest = more := by
  rw [toList_quote, toList_quote] at same
  simp only [List.cons_append, List.append_assoc, List.nil_append, List.cons.injEq, true_and] at same
  obtain ⟨texts, tails⟩ := escaped_inj same
  exact ⟨String.toList_inj.mp texts, tails⟩

mutual
/-- All numbers of a document are finite. -/
def Finite : Json → Prop
  | number value => value.Finite
  | array items => ItemsFinite items
  | object entries => EntriesFinite entries
  | _ => True

def ItemsFinite : List Json → Prop
  | [] => True
  | item :: rest => item.Finite ∧ ItemsFinite rest

def EntriesFinite : List (String × Json) → Prop
  | [] => True
  | (_, value) :: rest => value.Finite ∧ EntriesFinite rest
end

theorem itemsFinite_iff {items : List Json} : ItemsFinite items ↔ ∀ item ∈ items, item.Finite := by
  induction items with
  | nil => exact iff_of_true trivial (List.forall_mem_nil _)
  | cons head tail ih => rw [ItemsFinite, ih, List.forall_mem_cons]

theorem entriesFinite_iff {entries : List (String × Json)} :
    EntriesFinite entries ↔ ∀ entry ∈ entries, entry.2.Finite := by
  induction entries with
  | nil => exact iff_of_true trivial (List.forall_mem_nil _)
  | cons head tail ih => rw [EntriesFinite, ih, List.forall_mem_cons]

def StartsWith : Json → Char → Prop
  | null, char => char = 'n'
  | bool value, char => char = if value then 't' else 'f'
  | number _, char => Number.IsTextHead char
  | string _, char => char = '"'
  | array _, char => char = '['
  | object _, char => char = '\x7b'

theorem compact_head {value : Json} (finite : value.Finite) :
    ∃ head rest, value.compact.toList = head :: rest ∧ value.StartsWith head := by
  cases value with
  | null => exact ⟨'n', _, rfl, rfl⟩
  | bool value => cases value <;> exact ⟨_, _, rfl, rfl⟩
  | number value => 
    simp only [Finite] at finite
    exact Number.toDocumentText_head finite
  | string value =>
    rw [compact, toList_quote]
    exact ⟨_, _, rfl, rfl⟩
  | array items =>
    rw [compact, String.toList_append, String.toList_append]
    exact ⟨_, _, rfl, rfl⟩
  | object entries =>
    rw [compact, String.toList_append, String.toList_append]
    exact ⟨_, _, rfl, rfl⟩

/-- What can follow a document inside another: nothing that goes on with a number. -/
def Ends (rest : List Char) : Prop := ∀ char ∈ rest.head?, ¬ Number.IsTextChar char

/-- A run of characters ends where the next one is of another kind. -/
private theorem run_inj {kind : Char → Prop} {left right rest more : List Char}
    (first : ∀ char ∈ left, kind char) (second : ∀ char ∈ right, kind char)
    (stop : ∀ char ∈ rest.head?, ¬ kind char) (stop' : ∀ char ∈ more.head?, ¬ kind char)
    (same : left ++ rest = right ++ more) : left = right ∧ rest = more := by
  induction left generalizing right with
  | nil =>
    cases right with
    | nil => exact ⟨rfl, same⟩
    | cons head tail =>
      rw [List.nil_append] at same
      exact absurd (second head List.mem_cons_self) (stop head (by rw [same]; rfl))
  | cons char others ih =>
    cases right with
    | nil =>
      rw [List.nil_append] at same
      exact absurd (first char List.mem_cons_self) (stop' char (by rw [← same]; rfl))
    | cons head tail =>
      obtain ⟨rfl, later⟩ := List.cons.inj same
      obtain ⟨rfl, tails⟩ := ih (fun _ member => first _ (List.mem_cons_of_mem _ member))
        (fun _ member => second _ (List.mem_cons_of_mem _ member)) later
      exact ⟨rfl, tails⟩

/-- The characters that stand between documents end a number. -/
private theorem ends_of_cons {mark : Char} (rest : List Char)
    (between : mark = ',' ∨ mark = ']' ∨ mark = '\x7d') : Ends (mark :: rest) := by
  intro char member
  obtain rfl : mark = char := by simpa using member
  rcases between with rfl | rfl | rfl <;> simp [Number.IsTextChar]

/-- No document starts with a character that stands between documents. -/
theorem not_startsWith {value : Json} {mark : Char}
    (between : mark = ',' ∨ mark = ']' ∨ mark = '\x7d') : ¬ value.StartsWith mark := by
  cases value <;> rcases between with rfl | rfl | rfl <;> simp [StartsWith, Number.IsTextHead]
  all_goals split <;> decide

/-- The kind of document that a character starts, by the position of its constructor. -/
private def kindOf (char : Char) : Nat :=
  if char = 'n' then 0
  else if char = 't' ∨ char = 'f' then 1
  else if char = '"' then 3
  else if char = '[' then 4
  else if char = '\x7b' then 5
  else 2

private theorem kindOf_eq {value : Json} {char : Char} (starts : value.StartsWith char) :
    kindOf char = value.ctorIdx := by
  cases value with
  | bool value =>
    rw [show char = if value then 't' else 'f' from starts]
    cases value <;> rfl
  | number =>
    rcases (starts : Number.IsTextHead char) with rfl | rfl | digit
    · rfl
    · rfl
    · have other {mark : Char} (outside : mark.isDigit = false) : char ≠ mark := by
        rintro rfl
        rw [digit] at outside
        cases outside
      unfold kindOf
      rw [if_neg (other rfl), if_neg (not_or.mpr ⟨other rfl, other rfl⟩), if_neg (other rfl),
        if_neg (other rfl), if_neg (other rfl)]
      rfl
  | _ =>
    cases (starts : char = _)
    rfl

/-- Documents with one text are of one kind. -/
private theorem ctorIdx_eq {left right : Json} (first : left.Finite) (second : right.Finite)
    {rest more : List Char} (same : left.compact.toList ++ rest = right.compact.toList ++ more) :
    left.ctorIdx = right.ctorIdx := by
  obtain ⟨head, tail, text, starts⟩ := compact_head first
  obtain ⟨other, others, text', starts'⟩ := compact_head second
  rw [text, text'] at same
  obtain rfl := (List.cons.inj same).1
  exact (kindOf_eq starts).symm.trans (kindOf_eq starts')

/-- What follows an item: the end of the collection, or a comma and the other items. -/
def following {α : Type} (close : Char) (others : List α) (text rest : List Char) : List Char :=
  if others.isEmpty then close :: rest else ',' :: (text ++ close :: rest)

section Following

variable {α : Type} (close : Char) (text rest : List Char)

@[simp] theorem following_nil : following close ([] : List α) text rest = close :: rest := rfl

@[simp] theorem following_cons (item : α) (others : List α) :
    following close (item :: others) text rest = ',' :: (text ++ close :: rest) := rfl

end Following

private theorem ends_following {α : Type} {close : Char} (closes : close = ']' ∨ close = '\x7d')
    (others : List α) (text rest : List Char) : Ends (following close others text rest) := by
  unfold following
  split
  · exact ends_of_cons _ (.inr closes)
  · exact ends_of_cons _ (.inl rfl)

theorem compactItems_cons (item : Json) (others : List Json) (rest : List Char) :
    (compactItems (item :: others)).toList ++ ']' :: rest =
      item.compact.toList ++ following ']' others (compactItems others).toList rest := by
  cases others <;> simp [compactItems, following]

theorem compactEntries_cons (key : String) (value : Json) (others : List (String × Json))
    (rest : List Char) :
    (compactEntries ((key, value) :: others)).toList ++ '\x7d' :: rest =
      (quote key).toList ++ ':' :: (value.compact.toList ++
        following '\x7d' others (compactEntries others).toList rest) := by
  cases others <;> simp [compactEntries, following]

/-- The other items go on alike, whether there are any or not. -/
private theorem following_inj {α : Type} {close : Char} (closes : close ≠ ',') {left right : List α}
    {text other rest more : List Char} (empty : left = [] → text = []) (empty' : right = [] → other = [])
    (same : following close left text rest = following close right other more) :
    text ++ close :: rest = other ++ close :: more := by
  unfold following at same
  split at same <;> split at same
  · rename_i first second
    rw [empty (List.isEmpty_iff.mp first), empty' (List.isEmpty_iff.mp second), List.nil_append,
      List.nil_append, same]
  · exact absurd (List.cons.inj same).1 closes
  · exact absurd (List.cons.inj same).1.symm closes
  · exact (List.cons.inj same).2

/-- An item does not start with what closes a collection. -/
private theorem compact_ne_close {value : Json} (finite : value.Finite) {close : Char}
    (closes : close = ']' ∨ close = '\x7d') (rest more : List Char) :
    value.compact.toList ++ rest ≠ close :: more := by
  obtain ⟨head, tail, text, starts⟩ := compact_head finite
  rw [text]
  intro same
  obtain rfl := (List.cons.inj same).1
  exact not_startsWith (.inr closes) starts

mutual
/-- The text of a document tells where it ends and which document it is. -/
theorem compact_inj : ∀ (left : Json) {right : Json} {rest more : List Char}, left.Finite →
    right.Finite → Ends rest → Ends more →
    left.compact.toList ++ rest = right.compact.toList ++ more → left = right ∧ rest = more
  | null, right, rest, more, first, second, ends, ends', same => by
    have kind := ctorIdx_eq first second same
    cases right with
    | null => exact ⟨rfl, List.append_cancel_left same⟩
    | _ => cases kind
  | bool value, right, rest, more, first, second, ends, ends', same => by
    have kind := ctorIdx_eq first second same
    cases right with
    | bool other =>
      cases value <;> cases other <;> simp [compact] at same ⊢
      · exact same
      · exact same
    | _ => cases kind
  | number value, right, rest, more, first, second, ends, ends', same => by
    have kind := ctorIdx_eq first second same
    cases right with
    | number other =>
      simp only [Finite] at first second
      obtain ⟨texts, tails⟩ := run_inj (Number.toDocumentText_chars first)
        (Number.toDocumentText_chars second) ends ends' same
      rw [Number.toDocumentText_injective first second (String.toList_inj.mp texts)]
      exact ⟨rfl, tails⟩
    | _ => cases kind
  | string value, right, rest, more, first, second, ends, ends', same => by
    have kind := ctorIdx_eq first second same
    cases right with
    | string other =>
      obtain ⟨rfl, tails⟩ := quote_inj same
      exact ⟨rfl, tails⟩
    | _ => cases kind
  | array items, right, rest, more, first, second, ends, ends', same => by
    have kind := ctorIdx_eq first second same
    cases right with
    | array others =>
      simp only [Finite] at first second
      have inner : (compactItems items).toList ++ ']' :: rest =
          (compactItems others).toList ++ ']' :: more := by simpa [compact] using same
      obtain ⟨rfl, tails⟩ := compactItems_inj items first second inner
      exact ⟨rfl, tails⟩
    | _ => cases kind
  | object entries, right, rest, more, first, second, ends, ends', same => by
    have kind := ctorIdx_eq first second same
    cases right with
    | object others =>
      simp only [Finite] at first second
      have inner : (compactEntries entries).toList ++ '\x7d' :: rest =
          (compactEntries others).toList ++ '\x7d' :: more := by simpa [compact] using same
      obtain ⟨rfl, tails⟩ := compactEntries_inj entries first second inner
      exact ⟨rfl, tails⟩
    | _ => cases kind

theorem compactItems_inj : ∀ (left : List Json) {right : List Json} {rest more : List Char},
    ItemsFinite left → ItemsFinite right →
    (compactItems left).toList ++ ']' :: rest = (compactItems right).toList ++ ']' :: more →
    left = right ∧ rest = more
  | [], [], _, _, _, _, same => ⟨rfl, (List.cons.inj same).2⟩
  | [], item :: others, _, _, _, second, same => by
    rw [compactItems_cons] at same
    exact absurd same.symm (compact_ne_close second.1 (.inl rfl) _ _)
  | item :: others, [], _, _, first, _, same => by
    rw [compactItems_cons] at same
    exact absurd same (compact_ne_close first.1 (.inl rfl) _ _)
  | item :: others, item' :: others', _, _, first, second, same => by
    rw [compactItems_cons, compactItems_cons] at same
    obtain ⟨rfl, after⟩ := compact_inj item first.1 second.1 (ends_following (.inl rfl) _ _ _)
      (ends_following (.inl rfl) _ _ _) same
    have later := following_inj (by decide) (by rintro rfl; rfl) (by rintro rfl; rfl) after
    obtain ⟨rfl, tails⟩ := compactItems_inj others first.2 second.2 later
    exact ⟨rfl, tails⟩

theorem compactEntries_inj : ∀ (left : List (String × Json)) {right : List (String × Json)}
    {rest more : List Char}, EntriesFinite left → EntriesFinite right →
    (compactEntries left).toList ++ '\x7d' :: rest =
      (compactEntries right).toList ++ '\x7d' :: more →
    left = right ∧ rest = more
  | [], [], _, _, _, _, same => ⟨rfl, (List.cons.inj same).2⟩
  | [], (key, value) :: others, _, _, _, _, same => by
    rw [compactEntries_cons, toList_quote] at same
    cases (List.cons.inj same).1
  | (key, value) :: others, [], _, _, _, _, same => by
    rw [compactEntries_cons, toList_quote] at same
    cases (List.cons.inj same).1
  | (key, value) :: others, (key', value') :: others', _, _, first, second, same => by
    rw [compactEntries_cons, compactEntries_cons] at same
    obtain ⟨rfl, named⟩ := quote_inj same
    obtain ⟨rfl, after⟩ := compact_inj value first.1 second.1 (ends_following (.inr rfl) _ _ _)
      (ends_following (.inr rfl) _ _ _) (List.cons.inj named).2
    have later := following_inj (by decide) (by rintro rfl; rfl) (by rintro rfl; rfl) after
    obtain ⟨rfl, tails⟩ := compactEntries_inj others first.2 second.2 later
    exact ⟨rfl, tails⟩
end

/-- Different documents have different texts. -/
theorem compact_injective {left right : Json} (first : left.Finite) (second : right.Finite)
    (same : left.compact = right.compact) : left = right :=
  (@compact_inj left right [] [] first second nofun nofun (by rw [same])).1

end Terradoc.Json
