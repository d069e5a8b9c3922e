import Terradoc.Proofs.Bounds.Collections
import Terradoc.Proofs.Bounds.Dates
import Terradoc.Proofs.Bounds.Formats
import Terradoc.Proofs.Bounds.Texts
import Terradoc.Proofs.Function.Call

/-! Calls of functions with guarded operations. No operation stops a call on values that are in memory, so a call
gives what the function gives: a value or a fault. -/

namespace Terradoc

open Guarded

/-- Functions with guarded operations. -/
structure GuardedFunction where
  params : List Param
  more : Option Param
  tolerant : Bool
  body : Arguments params more → Guarded Value

/-- Calls a function: counts the arguments, looks for unknowns, accepts the arguments and runs. -/
def GuardedFunction.call (guarded : GuardedFunction) (values : List Value) : Guarded Value :=
  if values.length < guarded.params.length || (guarded.more.isNone && guarded.params.length < values.length) then
    fail (.arity guarded.params.length values.length guarded.more.isSome)
  else
    match if guarded.tolerant then values.findSome? Value.unknown? else values.findSome? Value.firstUnknown? with
    | some marker => .ok (.unknown marker)
    | none => (plain (Arguments.accept guarded.more guarded.params 0 values)).bind guarded.body

def Guarded.ofChars (chars : Guarded (List Char)) : Guarded Value :=
  chars.map fun chars => .string (String.ofList chars)

/-- Guarded functions by name, given how many bytes a value has. -/
def guardedFunctions (valueSize : Nat) : Entries GuardedFunction := [
  ("substr", ⟨[.text, .number, .number], none, false, fun (text, offset, length, ()) => do
    let offset ← plain (wholeArgument 1 offset)
    let length ← plain (wholeArgument 2 length)
    ofChars (substring text.toList offset length)⟩),
  ("replace", ⟨[.text, .text, .text], none, false, fun (text, wanted, image, ()) => replaceText text wanted image⟩),
  ("indent", ⟨[.number, .text], none, false, fun (spaces, text, ()) => do
    indented (← plain (wholeArgument 0 spaces)) text⟩),
  ("join", ⟨[.text], some .list, false, fun (separator, lists) =>
    joined separator (.string separator :: List.map Value.list lists)⟩),
  ("format", ⟨[.text], some .any, false, fun (format, values) => formatted format (.string format :: values)⟩),
  ("formatlist", ⟨[.text], some .any, false, fun (format, values) =>
    formattedRows valueSize format (.string format :: values)⟩),
  ("dirname", ⟨[.text], none, false, fun (path, ()) => ofChars (directoryName path.toList)⟩),
  ("basename", ⟨[.text], none, false, fun (path, ()) => ofChars (baseName path.toList)⟩),
  ("slice", ⟨[.list, .number, .number], none, true, fun (items, start, stop, ()) => do
    sliceItems items (← plain (wholeArgument 1 start)) (← plain (wholeArgument 2 stop))⟩),
  ("element", ⟨[.list, .number], none, true, fun (items, position, ()) => element items position⟩),
  ("chunklist", ⟨[.list, .number], none, true, fun (items, size, ()) => do
    chunked items (← plain (wholeArgument 1 size))⟩),
  ("formatdate", ⟨[.text, .text], none, false, fun (pattern, text, ()) => formatDate pattern text⟩),
  ("timeadd", ⟨[.text, .text], none, false, fun (text, span, ()) => addTime text span⟩)]

/-- A value is in memory, where a value has so many bytes: its text and the list that it is are no larger. -/
structure Value.Fits (valueSize : Nat) (value : Value) : Prop where
  text : ∀ text, value.toText = .ok text → byteSize text.toList ≤ mostMemory
  items : ∀ items, value = .list items → items.length * valueSize ≤ mostMemory

section Memory

variable {valueSize : Nat}

/-- An accepted argument is in memory. -/
def Param.Fits (valueSize : Nat) : (param : Param) → param.Carrier → Prop
  | .any, value => Value.Fits valueSize value
  | .text, written => byteSize (String.toList written) ≤ mostMemory
  | .list, items => List.length items * valueSize ≤ mostMemory
  | .number, _ | .bool, _ | .map, _ => True

/-- Accepted arguments are in memory. -/
def Arguments.Fit (valueSize : Nat) : (params : List Param) → (more : Option Param) → Arguments params more → Prop
  | [], none, _ => True
  | [], some param, carriers => ∀ carrier ∈ (show List param.Carrier from carriers), param.Fits valueSize carrier
  | param :: params, more, (first, others) => param.Fits valueSize first ∧ Arguments.Fit valueSize params more others

/-- What is accepted is the value or its text. -/
theorem Param.fits_of_accept {param : Param} {index : Nat} {value : Value} {carrier : param.Carrier}
    (accepted : param.accept index value = .ok carrier) (fits : value.Fits valueSize) :
    param.Fits valueSize carrier := by
  cases param with
  | number => trivial
  | bool => trivial
  | map => trivial
  | any =>
    cases accepted
    exact fits
  | list =>
    cases value <;> cases accepted
    exact fits.items _ rfl
  | text =>
    cases value <;> cases accepted
    all_goals exact fits.text _ rfl

theorem Param.fits_of_acceptAll {param : Param} {index : Nat} {values : List Value} {carriers : List param.Carrier}
    (accepted : param.acceptAll index values = .ok carriers) (fits : ∀ value ∈ values, value.Fits valueSize) :
    ∀ carrier ∈ carriers, param.Fits valueSize carrier := by
  induction values generalizing index carriers with
  | nil =>
    cases accepted
    exact nofun
  | cons value rest ih =>
    obtain ⟨first, here, accepted⟩ := Except.bind_eq_ok_iff.mp accepted
    obtain ⟨others, later, accepted⟩ := Except.bind_eq_ok_iff.mp accepted
    cases accepted
    obtain ⟨fit, fits⟩ := List.forall_mem_cons.mp fits
    exact List.forall_mem_cons.mpr ⟨Param.fits_of_accept here fit, ih later fits⟩

theorem Arguments.fit_of_accept {params : List Param} {more : Option Param} {index : Nat} {values : List Value}
    {arguments : Arguments params more} (accepted : Arguments.accept more params index values = .ok arguments)
    (fits : ∀ value ∈ values, value.Fits valueSize) : Arguments.Fit valueSize params more arguments := by
  induction params generalizing index values with
  | nil =>
    cases more with
    | none => trivial
    | some param => exact Param.fits_of_acceptAll accepted fits
  | cons param params ih =>
    cases values with
    | nil => cases accepted
    | cons value rest =>
      obtain ⟨first, here, accepted⟩ := Except.bind_eq_ok_iff.mp accepted
      obtain ⟨others, later, accepted⟩ := Except.bind_eq_ok_iff.mp accepted
      cases accepted
      obtain ⟨fit, fits⟩ := List.forall_mem_cons.mp fits
      exact ⟨Param.fits_of_accept here fit, ih later fits⟩

end Memory

/-- A guarded function that gives what a function gives of arguments in memory. -/
inductive Guards (valueSize : Nat) : GuardedFunction → Function → Prop where
  | mk {params : List Param} {more : Option Param} {tolerant : Bool} {run : Arguments params more → Guarded Value}
    {body : Arguments params more → Except CallFault Value}
    (same : ∀ arguments, Arguments.Fit valueSize params more arguments → run arguments = plain (body arguments)) :
    Guards valueSize ⟨params, more, tolerant, run⟩ ⟨params, more, tolerant, body⟩

inductive GuardedByName (valueSize : Nat) (host : Host) (root : Path) (name : String) : Prop where
  | mk (guarded : GuardedFunction) (function : Function)
    (listed : Entries.get? (guardedFunctions valueSize) name = some guarded)
    (found : ∀ render, Entries.get? (functionsWith host root render) name = some function)
    (guards : Guards valueSize guarded function)

theorem Guards.call {valueSize : Nat} {guarded : GuardedFunction} {function : Function}
    (guards : Guards valueSize guarded function) {values : List Value}
    (fits : ∀ value ∈ values, value.Fits valueSize) :
    guarded.call values = plain (function.call values) := by
  obtain ⟨same⟩ := guards
  rename_i params more tolerant run body
  have takes : (!Function.takes ⟨params, more, tolerant, body⟩ values.length) =
      (decide (values.length < params.length) || (more.isNone && decide (params.length < values.length))) := by
    simp only [Function.takes, Bool.not_and, Bool.not_or, ← decide_not, Nat.not_le, Option.not_isSome]
  rw [GuardedFunction.call, Function.call, takes, Function.blocking?]
  dsimp only
  split
  · rfl
  · generalize (if tolerant then values.findSome? Value.unknown? else values.findSome? Value.firstUnknown?) = unknown
    cases unknown with
    | some marker => rfl
    | none =>
      cases accepted : Arguments.accept more params 0 values with
      | error cause => rfl
      | ok arguments => exact same arguments (Arguments.fit_of_accept accepted fits)

/-- Reading a whole number and going on with it is guarded where the rest is. -/
theorem wholeArgument_bind {index : Nat} {value : Option Number} {run : Int → Guarded Value}
    {body : Int → Except CallFault Value}
    (same : ∀ whole, Number.minWord ≤ whole → whole ≤ Number.maxWord → run whole = plain (body whole)) :
    (plain (wholeArgument index value) >>= run) = plain (wholeArgument index value >>= body) := by
  cases read : wholeArgument index value with
  | error cause => rfl
  | ok whole =>
    obtain ⟨lower, upper⟩ := wholeArgument_bounds read
    exact same whole lower upper

section Names

variable {valueSize : Nat} {host : Host} {root : Path}

theorem guarded_substr : GuardedByName valueSize host root "substr" :=
  ⟨_, _, rfl, fun _ => rfl, ⟨fun (text, offset, length, ()) ⟨fits, _⟩ => by
    refine wholeArgument_bind fun offset lower _ => wholeArgument_bind fun length _ _ => ?_
    rw [substring_eq ((length_le_byteSize text.toList).trans fits) lower]
    cases Functions.substring text.toList offset length <;> rfl⟩⟩

theorem guarded_replace : GuardedByName valueSize host root "replace" :=
  ⟨_, _, rfl, fun _ => rfl, ⟨fun (text, wanted, image, ()) _ => replaceText_eq text wanted image⟩⟩

theorem guarded_indent : GuardedByName valueSize host root "indent" :=
  ⟨_, _, rfl, fun _ => rfl,
    ⟨fun (_, text, ()) _ => wholeArgument_bind fun spaces _ _ => indented_eq spaces text⟩⟩

theorem guarded_join : GuardedByName valueSize host root "join" :=
  ⟨_, _, rfl, fun _ => rfl, ⟨fun (separator, lists) _ => joined_eq separator lists⟩⟩

theorem guarded_format : GuardedByName valueSize host root "format" :=
  ⟨_, _, rfl, fun _ => rfl, ⟨fun (format, values) _ => formatted_eq format values⟩⟩

theorem guarded_formatlist (small : valueSize ≤ mostMemory) : GuardedByName valueSize host root "formatlist" :=
  ⟨_, _, rfl, fun _ => rfl, ⟨fun (format, _) ⟨_, fits⟩ =>
    formattedRows_eq small format fun items member => (fits (.list items) member).items items rfl⟩⟩

theorem guarded_dirname : GuardedByName valueSize host root "dirname" :=
  ⟨_, _, rfl, fun _ => rfl, ⟨fun (path, ()) _ => congrArg Guarded.ofChars (directoryName_eq path.toList)⟩⟩

theorem guarded_basename : GuardedByName valueSize host root "basename" :=
  ⟨_, _, rfl, fun _ => rfl, ⟨fun (_, ()) ⟨fits, _⟩ => congrArg Guarded.ofChars (baseName_eq fits)⟩⟩

theorem guarded_slice : GuardedByName valueSize host root "slice" :=
  ⟨_, _, rfl, fun _ => rfl, ⟨fun (items, _, _, ()) _ => wholeArgument_bind fun start _ _ =>
    wholeArgument_bind fun _ _ bounded => sliceItems_eq items start bounded⟩⟩

theorem guarded_element : GuardedByName valueSize host root "element" :=
  ⟨_, _, rfl, fun _ => rfl, ⟨fun (items, position, ()) _ => element_eq items position⟩⟩

theorem guarded_chunklist : GuardedByName valueSize host root "chunklist" :=
  ⟨_, _, rfl, fun _ => rfl,
    ⟨fun (items, _, ()) _ => wholeArgument_bind fun _ _ bounded => chunked_eq items bounded⟩⟩

theorem guarded_formatdate : GuardedByName valueSize host root "formatdate" :=
  ⟨_, _, rfl, fun _ => rfl, ⟨fun (pattern, text, ()) ⟨fits, _⟩ =>
    formatDate_eq text (String.length_toList ▸ (length_le_byteSize pattern.toList).trans fits)⟩⟩

theorem guarded_timeadd : GuardedByName valueSize host root "timeadd" :=
  ⟨_, _, rfl, fun _ => rfl, ⟨fun (text, span, ()) _ => addTime_eq text span⟩⟩

end Names

/-- No operation of these functions is stopped, whatever values in memory they are called with: a call gives a value
or a fault, as the call by name does. -/
theorem call_within_bounds {valueSize : Nat} (small : valueSize ≤ mostMemory) (host : Host) (root : Path)
    (depth : Nat)
    (name : String)
    (listed : name ∈ ["substr", "slice", "element", "chunklist", "replace", "indent", "join", "format", "formatlist",
      "dirname", "basename", "formatdate", "timeadd"])
    {values : List Value} (fits : ∀ value ∈ values, value.Fits valueSize) :
    ∃ guarded, Entries.get? (guardedFunctions valueSize) name = some guarded ∧
      (∀ breach, guarded.call values ≠ .error (.breach breach)) ∧
      ((∃ value, guarded.call values = .ok value ∧ functionTable host root depth name values = .ok value) ∨
        ∃ cause, guarded.call values = .error (.fault cause) ∧
          functionTable host root depth name values = .error (.call name cause)) := by
  have named : GuardedByName valueSize host root name := by
    simp only [List.mem_cons, List.not_mem_nil, or_false] at listed
    rcases listed with rfl | rfl | rfl | rfl | rfl | rfl | rfl | rfl | rfl | rfl | rfl | rfl | rfl
    · exact guarded_substr
    · exact guarded_slice
    · exact guarded_element
    · exact guarded_chunklist
    · exact guarded_replace
    · exact guarded_indent
    · exact guarded_join
    · exact guarded_format
    · exact guarded_formatlist small
    · exact guarded_dirname
    · exact guarded_basename
    · exact guarded_formatdate
    · exact guarded_timeadd
  obtain ⟨guarded, function, here, found, guards⟩ := named
  refine ⟨guarded, here, ?_⟩
  rw [guards.call fits, functionTable_eq_mapError found]
  cases function.call values with
  | ok value => exact ⟨nofun, .inl ⟨value, rfl, rfl⟩⟩
  | error cause => exact ⟨nofun, .inr ⟨cause, rfl, rfl⟩⟩

/-- An offset from the end, and the largest length that there is. -/
theorem call_within_bounds_of_substr :
    let host : Host := ⟨.directory [], ⟨"/"⟩, "/", ⟨"/tmp"⟩⟩
    let values : List Value := [.string "aéb", .number (.int (-2)), .number (.int 9223372036854775807)]
    32 ≤ mostMemory ∧ (∀ value ∈ values, value.Fits 32) ∧
      ∃ guarded, Entries.get? (guardedFunctions 32) "substr" = some guarded ∧
        guarded.call values = .ok (.string "éb") ∧
        functionTable host ⟨"/"⟩ 0 "substr" values = .ok (.string "éb") := by
  intro host values
  have small : 32 ≤ mostMemory := by decide
  have fits : ∀ value ∈ values, value.Fits 32 := by
    refine List.forall_mem_cons.mpr ⟨⟨fun text written => ?_, nofun⟩, List.forall_mem_cons.mpr
      ⟨⟨fun text written => ?_, nofun⟩, List.forall_mem_singleton.mpr ⟨fun text written => ?_, nofun⟩⟩⟩
    all_goals
      cases written
      decide +kernel
  have made : functionTable host ⟨"/"⟩ 0 "substr" values = .ok (.string "éb") :=
    functionTable_run (fun _ => rfl) rfl (by simp [values, Value.unknowns]) rfl rfl
  obtain ⟨guarded, here, -, ⟨value, guards, same⟩ | ⟨cause, -, failed⟩⟩ :=
    call_within_bounds small host ⟨"/"⟩ 0 "substr" (by simp) fits
  · obtain rfl := Except.ok.inj (same.symm.trans made)
    exact ⟨small, fits, guarded, here, guards, made⟩
  · cases failed.symm.trans made

end Terradoc
