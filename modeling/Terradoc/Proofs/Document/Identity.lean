import Mathlib.Algebra.Group.Nat.Defs
import Mathlib.Data.List.Lattice
import Mathlib.Data.List.Perm.Subperm
import Terradoc.Proofs.Session.Shift
import Terradoc.Proofs.Settling.Invariants
import Terradoc.Proofs.Settling.Shown
import Terradoc.Text.Runs

namespace Terradoc

section Texts

theorem hexValue_append (front : List Char) (digit : Char) :
    Text.hexValue (front ++ [digit]) = Text.hexValue front * 16 + Text.hexValue [digit] := by
  simp [Text.hexValue, List.foldl_append]

/-- The value of the digits of a number is the number. -/
theorem hexValue_toDigits (number : Nat) : Text.hexValue (Nat.toDigits 16 number) = number := by
  induction number using Nat.strongRecOn with
  | ind number ih =>
    have digit : ∀ value < 16, Text.hexValue [Nat.digitChar value] = value := by decide
    rcases Nat.lt_or_ge number 16 with small | large
    · rw [Nat.toDigits_of_lt_base small, digit number small]
    · rw [Nat.toDigits_of_base_le (by decide) large, hexValue_append,
        ih _ (Nat.div_lt_self (by omega) (by decide)), digit _ (Nat.mod_lt _ (by decide)),
        Nat.div_add_mod' number 16]

theorem hexValue_hexDigits (size number : Nat) : Text.hexValue (hexDigits size number) = number := by
  have zeros : ∀ count,
      Text.hexValue (List.replicate count '0' ++ Nat.toDigits 16 number) = number := by
    intro count
    induction count with
    | zero => exact hexValue_toDigits number
    | succ count ih => exact ih
  exact zeros _

theorem length_hexDigits {number : Nat} (small : number < 16 ^ 32) :
    (hexDigits 32 number).length = 32 := by
  have bounded := (Nat.length_toDigits_le_iff (by decide) (by decide)).mpr small
  rw [hexDigits, List.length_append, List.length_replicate]
  omega

/-- The text of an id shows all digits of its number. -/
theorem BlockId.digits_of_text {left right : BlockId}
    (first : (hexDigits 32 left.number).length = 32)
    (second : (hexDigits 32 right.number).length = 32) (same : left.text = right.text) :
    hexDigits 32 left.number = hexDigits 32 right.number := by
  generalize shown : hexDigits 32 left.number = digits at first
  generalize printed : hexDigits 32 right.number = others at second
  have size (start size : Nat) :
      ((digits.drop start).take size).length = ((others.drop start).take size).length := by
    simp [first, second]
  have letters := congrArg String.toList same
  simp only [BlockId.text, Text.joinWith, Text.join, shown, printed, String.toList_ofList,
    List.map_cons, List.map_nil, List.intercalate, List.intersperse, List.flatten_cons,
    List.flatten_nil, List.append_nil] at letters
  obtain ⟨eight, letters⟩ := List.append_inj letters (size 0 8)
  obtain ⟨four, letters⟩ := List.append_inj (List.append_cancel_left letters) (size 8 4)
  obtain ⟨more, letters⟩ := List.append_inj (List.append_cancel_left letters) (size 12 4)
  obtain ⟨still, letters⟩ := List.append_inj (List.append_cancel_left letters) (size 16 4)
  have twelve := List.append_cancel_left letters
  have parts (digits : List Char) (length : digits.length = 32) : digits =
      (digits.drop 0).take 8 ++ ((digits.drop 8).take 4 ++ ((digits.drop 12).take 4 ++
        ((digits.drop 16).take 4 ++ (digits.drop 20).take 12))) := by
    have last : (digits.drop 20).take 12 = digits.drop 20 :=
      List.take_of_length_le (by simp [length])
    have cut (start size : Nat) : (digits.drop start).take size ++ digits.drop (start + size) =
        digits.drop start := by
      rw [← List.drop_drop, List.take_append_drop]
    rw [last, cut 16 4, cut 12 4, cut 8 4, cut 0 8, List.drop_zero]
  rw [parts digits first, parts others second, eight, four, more, still, twelve]

/-- Different ids have different texts, as long as their numbers have no more than 32 digits. -/
theorem BlockId.text_inj {left right : BlockId} (small : left.number < 2 ^ 128)
    (bounded : right.number < 2 ^ 128) (same : left.text = right.text) : left = right := by
  have digits := BlockId.digits_of_text (length_hexDigits small) (length_hexDigits bounded) same
  obtain ⟨number⟩ := left
  obtain ⟨other⟩ := right
  rw [← hexValue_hexDigits 32 number, digits, hexValue_hexDigits]

end Texts

mutual
/-- The ids of the blocks inside a nested block, and its own. -/
def NestedBlock.ids {ι : Type} : NestedBlock ι → List ι
  | .mk _ _ _ _ blocks id => nestedIds blocks ++ [id]

/-- The ids of nested blocks at every depth. -/
def nestedIds {ι : Type} : List (NestedBlock ι) → List ι
  | [] => []
  | block :: rest => block.ids ++ nestedIds rest
end

def Block.ids (block : Block) : List BlockId := block.id :: nestedIds block.blocks

def blockIds (blocks : List Block) : List BlockId := blocks.flatMap Block.ids

/-- Different ids that are drawn between two points of a run. -/
structure Drawn (before after : Nat) (ids : List BlockId) : Prop where
  forward : before ≤ after
  distinct : ids.Nodup
  between : ∀ id ∈ ids, before < id.number ∧ id.number ≤ after

namespace Drawn

variable {before middle after : Nat} {ids more : List BlockId}

theorem none (forward : before ≤ after) : Drawn before after [] :=
  ⟨forward, List.nodup_nil, fun _ member => nomatch member⟩

theorem next (drawn : Nat) : Drawn drawn (drawn + 1) [⟨drawn + 1⟩] where
  forward := Nat.le_succ drawn
  distinct := List.nodup_singleton _
  between id member := by
    obtain rfl := List.mem_singleton.mp member
    exact ⟨Nat.lt_succ_self drawn, Nat.le_refl _⟩

theorem append (first : Drawn before middle ids) (second : Drawn middle after more) :
    Drawn before after (ids ++ more) where
  forward := first.forward.trans second.forward
  distinct := by
    refine List.Nodup.append first.distinct second.distinct fun id early late => ?_
    exact Nat.not_lt.mpr (first.between id early).2 (second.between id late).1
  between id member := by
    rcases List.mem_append.mp member with early | late
    · obtain ⟨above, below⟩ := first.between id early
      exact ⟨above, below.trans second.forward⟩
    · obtain ⟨above, below⟩ := second.between id late
      exact ⟨first.forward.trans_lt above, below⟩

/-- Fewer ids, in another order. -/
theorem subperm (drawn : Drawn before after ids) (fewer : more.Subperm ids) :
    Drawn before after more where
  forward := drawn.forward
  distinct := by
    obtain ⟨kept, same, inside⟩ := fewer
    exact same.nodup_iff.mp (drawn.distinct.sublist inside)
  between id member := drawn.between id (fewer.subset member)

theorem grow (drawn : Drawn before middle ids) (later : middle ≤ after) : Drawn before after ids := by
  have none := drawn.append (none later)
  rwa [List.append_nil] at none

theorem flatMap {α : Type} {parts : α → List BlockId} {items : List α}
    (drawn : Drawn before after (items.flatMap parts)) {item : α} (member : item ∈ items) :
    Drawn before after (parts item) :=
  drawn.subperm (List.sublist_flatten_of_mem (List.mem_map_of_mem member)).subperm

end Drawn

mutual
theorem NestedBlock.draw_drawn (drawn : Nat) : ∀ block : NestedBlock Unit,
    Drawn drawn (block.draw drawn).2 (block.draw drawn).1.ids
  | .mk _ _ _ _ blocks _ => by
    rw [NestedBlock.draw, NestedBlock.ids]
    exact (drawAll_drawn drawn blocks).append (.next _)

theorem drawAll_drawn (drawn : Nat) : ∀ blocks : List (NestedBlock Unit),
    Drawn drawn (drawAll drawn blocks).2 (nestedIds (drawAll drawn blocks).1)
  | [] => by
    rw [drawAll, nestedIds]
    exact .none (Nat.le_refl drawn)
  | block :: rest => by
    rw [drawAll, nestedIds]
    exact (block.draw_drawn drawn).append (drawAll_drawn _ rest)
end

/-- A computation that does after others what it does first only adds to what is drawn. -/
theorem Running.grows_of_shifts {α : Type} {comp : Running α}
    (shifts : ∀ drawn noted, Shifts drawn noted id comp comp) {state after : RunState}
    {value : α} (done : comp state = .ok (value, after)) : state.drawn ≤ after.drawn := by
  have later := shifts state.drawn state.tolerated .start
  rw [RunState.after, RunState.start, Nat.add_zero, List.append_nil, done] at later
  cases first : comp ⟨0, []⟩ with
  | error => rw [first] at later; cases later
  | ok result =>
    rw [first] at later
    cases later
    exact Nat.le_add_right _ _

/-- The ids in what a computation gives are drawn by it. -/
def Running.Draws {α : Type} (ids : α → List BlockId) (comp : Running α) : Prop :=
  ∀ (state after : RunState) (value : α), comp state = .ok (value, after) →
    Drawn state.drawn after.drawn (ids value)

theorem Running.Draws.mapM {α β : Type} {ids : β → List BlockId} {step : α → Running β}
    (one : ∀ item, Draws ids (step item)) (items : List α) :
    Draws (List.flatMap ids) (items.mapM step) := by
  induction items with
  | nil =>
    intro state after value done
    cases done
    exact .none (Nat.le_refl _)
  | cons item rest ih =>
    intro state after value done
    rw [List.mapM_cons] at done
    obtain ⟨first, _, here, later⟩ := Running.bind_eq_ok.mp done
    obtain ⟨others, _, there, last⟩ := Running.bind_eq_ok.mp later
    cases last
    rw [List.flatMap_cons]
    exact (one item _ _ _ here).append (ih _ _ _ there)

section Making

open Running

variable (session : Session) (call : ModuleCall) (env : Environment)
  (declarations : List VariableDeclaration) (source : SourceBlock)

theorem accept_grows {α : Type} {noted : Noted α} {state after : RunState} {value : α}
    (done : session.accept noted state = .ok (value, after)) : state.drawn ≤ after.drawn :=
  grows_of_shifts (fun _ _ => accept_shifts session noted) done

theorem makeInstance_draws (inst : Instance) :
    Draws Block.ids (makeInstance session call env declarations source inst) := by
  intro state after block done
  obtain ⟨id, _, drawn, rest⟩ := Running.bind_eq_ok.mp done
  obtain ⟨body, between, accepted, rest⟩ := Running.bind_eq_ok.mp rest
  obtain ⟨nested, _, numbered, last⟩ := Running.bind_eq_ok.mp rest
  cases drawn
  cases numbered
  cases last
  exact ((Drawn.next _).grow (accept_grows session accepted)).append (drawAll_drawn _ _)

theorem makeBlock_draws :
    Draws (List.flatMap fun made => made.2.ids)
      (makeBlock session call env declarations source) := by
  intro state after made done
  obtain ⟨all, between, accepted, rest⟩ := Running.bind_eq_ok.mp done
  have each (inst : Instance) : Draws (fun made : SourceBlock × Block => made.2.ids)
      (do return (source, ← makeInstance session call env declarations source inst)) := by
    intro state after made done
    obtain ⟨block, _, here, last⟩ := Running.bind_eq_ok.mp done
    cases last
    exact makeInstance_draws session call env declarations source inst _ _ _ here
  have drawn := Draws.mapM each all _ _ _ rest
  exact (Drawn.none (accept_grows session accepted)).append drawn

end Making

/-- References change nothing of ids. -/
theorem blockIds_linkBlocks (made : List (SourceBlock × Block)) :
    blockIds (linkBlocks made) = made.flatMap fun entry => entry.2.ids := by
  rw [blockIds, linkBlocks, List.flatMap_map]
  rfl

/-- The blocks that a module makes of its own have ids that are drawn for them. -/
theorem makeBlocks_draws (session : Session) (call : ModuleCall) (env : Environment)
    (declarations : List VariableDeclaration) (blocks : List SourceBlock) :
    Running.Draws (fun made => blockIds (linkBlocks made.flatten))
      (blocks.mapM (makeBlock session call env declarations)) := by
  intro state after made done
  have drawn := Running.Draws.mapM (makeBlock_draws session call env declarations) blocks _ _ _ done
  show Drawn _ _ (blockIds (linkBlocks made.flatten))
  rwa [blockIds_linkBlocks, List.flatten_eq_flatMap, List.flatMap_assoc]

/-- The ids in what is kept of a called module. -/
def ChildRun.ids (child : ChildRun) : List BlockId :=
  (child.run.map fun run => blockIds run.blocks).getD []

/-- The ids in all that is kept of called modules. -/
def Children.ids (children : Children) : List BlockId :=
  children.runs.flatMap fun entry => entry.2.ids

/-- The ids in what is kept of the called module at a path. -/
def Children.idsAt (children : Children) (path : String) : List BlockId :=
  ((Entries.get? children.runs path).map ChildRun.ids).getD []

theorem Children.blockIds_blocks (children : Children) :
    blockIds children.blocks = children.order.eraseDups.flatMap children.idsAt := by
  rw [blockIds, Children.blocks, List.flatMap_assoc]
  refine congrArg (List.flatMap · _) (funext fun path => ?_)
  rw [Children.idsAt]
  cases Entries.get? children.runs path with
  | none => rfl
  | some child => cases run : child.run <;> simp [ChildRun.ids, run, blockIds]

/-- What is put under a key comes in the place of what was there, or beside all the rest. -/
theorem Entries.insert_cases {α β : Type} (parts : String × α → List β) (entries : Entries α)
    (key : String) (value : α) : ∃ rest, rest.Subperm (entries.flatMap parts) ∧
      ((insert entries key value).flatMap parts).Perm (rest ++ parts (key, value)) := by
  induction entries with
  | nil => exact ⟨[], List.nil_subperm, by simp [insert]⟩
  | cons head others ih =>
    obtain ⟨other, old⟩ := head
    by_cases same : other = key
    · subst same
      refine ⟨others.flatMap parts, (List.sublist_append_right _ _).subperm, ?_⟩
      simp only [insert, beq_self_eq_true, ↓reduceIte, List.flatMap_cons]
      exact List.perm_append_comm
    · obtain ⟨rest, fewer, all⟩ := ih
      have differ : (other == key) = false := beq_eq_false_iff_ne.mpr same
      refine ⟨parts (other, old) ++ rest, ?_, ?_⟩
      · rw [List.flatMap_cons]
        exact (List.subperm_append_left _).mpr fewer
      · simp only [insert, differ, List.flatMap_cons, Bool.false_eq_true, ↓reduceIte,
          List.append_assoc]
        exact all.append_left _

theorem Entries.insert_same {α : Type} {entries : Entries α} {key : String} {value : α}
    (found : get? entries key = some value) : insert entries key value = entries := by
  induction entries with
  | nil => cases found
  | cons head rest ih =>
    obtain ⟨other, old⟩ := head
    rw [get?_cons] at found
    by_cases same : other = key
    · subst same
      rw [if_pos (beq_self_eq_true other)] at found
      obtain rfl := Option.some.inj found
      simp [insert]
    · have differ : (other == key) = false := beq_eq_false_iff_ne.mpr same
      rw [if_neg (by simp [Ne.symm same])] at found
      simp only [insert, differ, Bool.false_eq_true, ↓reduceIte, ih found]

theorem Children.mem_idsAt {children : Children} {path : String} {id : BlockId} :
    id ∈ children.idsAt path ↔ ∃ child, Entries.get? children.runs path = some child ∧ id ∈ child.ids := by
  rw [Children.idsAt]
  cases Entries.get? children.runs path <;> simp

/-- Called modules at different paths have no id in common. -/
theorem Children.idsAt_disjoint {children : Children} (distinct : children.ids.Nodup)
    {path other : String} (differ : path ≠ other) :
    (children.idsAt path).Disjoint (children.idsAt other) := by
  intro id here there
  obtain ⟨child, found, inside⟩ := Children.mem_idsAt.mp here
  obtain ⟨twin, present, within⟩ := Children.mem_idsAt.mp there
  have symmetric : Std.Symm (Function.onFun List.Disjoint fun entry : String × ChildRun =>
      entry.2.ids) := ⟨fun _ _ disjoint => disjoint.symm⟩
  exact (List.nodup_flatMap.mp distinct).2.forall (Entries.mem_of_get? found)
    (Entries.mem_of_get? present) (fun same => differ (Prod.mk.inj same).1) inside within

theorem Children.idsAt_drawn {children : Children} {before after : Nat}
    (drawn : Drawn before after children.ids) (path : String) :
    Drawn before after (children.idsAt path) := by
  cases found : Entries.get? children.runs path with
  | none =>
    rw [Children.idsAt, found]
    exact .none drawn.forward
  | some child =>
    rw [Children.idsAt, found]
    exact drawn.flatMap (Entries.mem_of_get? found)

/-- The blocks of called modules have the ids that are kept, and none of them twice. -/
theorem Children.blocks_drawn {children : Children} {before after : Nat}
    (drawn : Drawn before after children.ids) : Drawn before after (blockIds children.blocks) where
  forward := drawn.forward
  distinct := by
    rw [children.blockIds_blocks, List.nodup_flatMap]
    exact ⟨fun path _ => (children.idsAt_drawn drawn path).distinct,
      (List.nodup_eraseDups children.order).imp (Children.idsAt_disjoint drawn.distinct)⟩
  between id member := by
    rw [children.blockIds_blocks] at member
    obtain ⟨path, -, inside⟩ := List.mem_flatMap.mp member
    exact (children.idsAt_drawn drawn path).between id inside

section Runs

variable {session : Session} {run : Runner}
  (runs : ∀ call, Running.Draws (fun made => blockIds made.blocks) (run call))
include runs

theorem runChild_draws (lead : String) (call : Except ModuleFault ModuleCall) (inputs : Inputs) :
    Running.Draws (fun outcome => (ChildRun.mk inputs outcome).ids)
      (runChild session run lead call) := by
  intro state after outcome done
  cases call with
  | error fault =>
    obtain ⟨reported, rfl⟩ := (runChild_of_fault session run).mp done
    exact .none (Running.grows_of_shifts
      (fun _ _ => report_shifts session _) reported)
  | ok call =>
    obtain ⟨made, ran, rfl⟩ := (runChild_of_call session run).mp done
    exact runs call _ _ _ ran

/-- All that is kept of called modules has ids of its own. -/
theorem settleChild_maintains_ids (stack : List Path) (caller : ModuleCall) (before : Nat)
    (env : Environment) (block : SourceBlock) (name : String) (inst : Instance) :
    Maintains (fun children state => Drawn before state.drawn children.ids)
      (settleChild session run stack caller env block name inst.key) := by
  intro children kept state after value drawn done
  rw [settleChild_apply] at done
  split at done
  · rename_i child found
    cases done
    have known := (Option.filter_eq_some_iff.mp found).1
    rwa [Children.add, Children.ids, Entries.insert_same known]
  · obtain ⟨outcome, _, ran, last⟩ := Running.bind_eq_ok.mp done
    cases last
    obtain ⟨rest, fewer, all⟩ := Entries.insert_cases (fun entry => entry.2.ids) children.runs
      (instancePath block inst) (ChildRun.mk (childInputs env (instancePath block inst) block.body) outcome)
    exact ((drawn.subperm fewer).append (runChild_draws runs _ _ _ _ _ _ ran)).subperm all.subperm

theorem settleModule_draws (stack : List Path) (call : ModuleCall) (blocks : List SourceBlock) :
    Running.Draws (fun settled => settled.2.2.ids)
      (settleModule session run stack call blocks) := by
  rintro state after ⟨declarations, final, children⟩ done
  obtain ⟨inputs, between, given, rest⟩ := Running.bind_eq_ok.mp done
  obtain ⟨⟨scope, kept⟩, _, passes, last⟩ := Running.bind_eq_ok.mp rest
  cases last
  have started := Running.grows_of_shifts
    (fun _ _ => Running.Shifts.ofExcept (session.inputsOf call _)) given
  exact settle_maintains
    (fun env block _ name inst _ =>
      settleChild_maintains_ids runs stack call state.drawn env block name inst)
    (fun _ _ drawn => drawn) maxPasses _ _ _ _ _ _ (.none started) passes

theorem evaluateModule_draws (stack : List Path) (call : ModuleCall) (blocks : List SourceBlock) :
    Running.Draws (fun made => blockIds made.blocks)
      (evaluateModule session run stack call blocks) := by
  intro state after result done
  obtain ⟨declarations, scope, children, settled, made, settles, makes, rfl⟩ :=
    (evaluateModule_eq_ok session run stack call blocks).mp done
  have called := Children.blocks_drawn (settleModule_draws runs stack call blocks _ _ _ settles)
  have own := makeBlocks_draws session call _ declarations blocks _ _ _ makes
  have all : blockIds (linkBlocks made.flatten ++ children.blocks) =
      blockIds (linkBlocks made.flatten) ++ blockIds children.blocks := List.flatMap_append ..
  show Drawn _ _ (blockIds (linkBlocks made.flatten ++ children.blocks))
  rw [all]
  exact (called.append own).subperm List.perm_append_comm.subperm

end Runs

/-- A run draws all the ids of its blocks, those of called modules included, each for one block. -/
theorem runModule_draws (session : Session) (fuel : Nat) (stack : List Path) (call : ModuleCall) :
    Running.Draws (fun made => blockIds made.blocks) (runModule session fuel stack call) := by
  induction fuel generalizing stack call with
  | zero =>
    intro state after result done
    cases done
  | succ fuel ih =>
    intro state after result done
    obtain ⟨blocks, _, read, evaluated⟩ := Running.bind_eq_ok.mp done
    have reading := Running.grows_of_shifts
      (fun _ _ => moduleBlocks_shifts session call.directory) read
    exact (Drawn.none reading).append
      (evaluateModule_draws (ih (call.directory :: stack)) _ call blocks _ _ _ evaluated)

end Terradoc
