import Terradoc.Function.Library
import Terradoc.Proofs.Lists

namespace Terradoc

/-- A call by name is the call of the function of that name; its faults are told with the name. -/
theorem callAmong_eq {functions : Entries Function} {name : String} {function : Function}
    (found : Entries.get? functions name = some function) (values : List Value) :
    callAmong functions name values = (function.call values).mapError (.call name) := by
  simp only [callAmong, found]
  cases function.call values with
  | error cause => rfl
  | ok value => rfl

section Table

variable {host : Host} {root : Path} {depth : Nat} {name : String} {function : Function}
  {values : List Value} {result : Value}

theorem functionTable_eq_mapError
    (found : ∀ render, Entries.get? (functionsWith host root render) name = some function) :
    functionTable host root depth name values = (function.call values).mapError (.call name) := by
  cases depth with
  | zero => exact callAmong_eq (found _) values
  | succ depth => exact callAmong_eq (found _) values

theorem functionTable_eq_ok_iff
    (found : ∀ render, Entries.get? (functionsWith host root render) name = some function) :
    functionTable host root depth name values = .ok result ↔ function.call values = .ok result := by
  rw [functionTable_eq_mapError found]
  cases function.call values with
  | error cause => exact ⟨(nomatch ·), (nomatch ·)⟩
  | ok value => simp [Except.mapError]

/-- Where a function gives the same for two calls, so does the call by name. -/
theorem functionTable_congr {others : List Value}
    (found : ∀ render, Entries.get? (functionsWith host root render) name = some function)
    (same : function.call values = function.call others) :
    functionTable host root depth name values = functionTable host root depth name others := by
  rw [functionTable_eq_mapError found, functionTable_eq_mapError found, same]

theorem functionTable_call
    (found : ∀ render, Entries.get? (functionsWith host root render) name = some function)
    (gives : function.call values = .ok result) :
    functionTable host root depth name values = .ok result :=
  (functionTable_eq_ok_iff found).mpr gives

/-- A function runs on known arguments that are accepted. -/
theorem Function.call_of_known {arguments : Arguments function.params function.more}
    (takes : function.takes values.length = true) (known : ∀ value ∈ values, value.unknowns = [])
    (accepted : Arguments.accept function.more function.params 0 values = .ok arguments) :
    function.call values = function.body arguments := by
  have nothing : function.blocking? values = none := by
    unfold Function.blocking?
    split <;> refine List.findSome?_eq_none_iff.mpr fun value member => ?_
    · cases value <;> first | rfl | simpa [Value.unknowns] using known _ member
    · rw [Value.firstUnknown?, known value member]
      rfl
  rw [Function.call, takes, nothing, accepted]
  rfl

theorem functionTable_of_known {arguments : Arguments function.params function.more}
    (found : ∀ render, Entries.get? (functionsWith host root render) name = some function)
    (takes : function.takes values.length = true) (known : ∀ value ∈ values, value.unknowns = [])
    (accepted : Arguments.accept function.more function.params 0 values = .ok arguments) :
    functionTable host root depth name values = (function.body arguments).mapError (.call name) := by
  rw [functionTable_eq_mapError found, Function.call_of_known takes known accepted]

/-- A call on known arguments that are accepted runs the function. -/
theorem functionTable_run_iff {arguments : Arguments function.params function.more}
    (found : ∀ render, Entries.get? (functionsWith host root render) name = some function)
    (takes : function.takes values.length = true) (known : ∀ value ∈ values, value.unknowns = [])
    (accepted : Arguments.accept function.more function.params 0 values = .ok arguments) :
    functionTable host root depth name values = .ok result ↔ function.body arguments = .ok result := by
  rw [functionTable_eq_ok_iff found, Function.call_of_known takes known accepted]

theorem functionTable_run {arguments : Arguments function.params function.more}
    (found : ∀ render, Entries.get? (functionsWith host root render) name = some function)
    (takes : function.takes values.length = true) (known : ∀ value ∈ values, value.unknowns = [])
    (accepted : Arguments.accept function.more function.params 0 values = .ok arguments)
    (gives : function.body arguments = .ok result) :
    functionTable host root depth name values = .ok result :=
  (functionTable_run_iff found takes known accepted).mpr gives

/-- A function of any one value runs on one that is known. -/
theorem functionTable_onValue {tolerant : Bool} {run : Value → Except CallFault Value} {value : Value}
    (found : ∀ render, Entries.get? (functionsWith host root render) name = some (Functions.onValue tolerant run))
    (known : value.unknowns = []) :
    functionTable host root depth name [value] = .ok result ↔ run value = .ok result :=
  functionTable_run_iff found rfl (List.forall_mem_singleton.mpr known) rfl

end Table

/-- Arguments of any type are accepted as they are. -/
theorem acceptAll_any (index : Nat) (values : List Value) : Param.any.acceptAll index values = .ok values := by
  induction values generalizing index with
  | nil => rfl
  | cons value rest ih =>
    rw [Param.acceptAll, ih]
    rfl

/-- A call of a function that does not tolerate unknowns gives a known value just where the arguments are as
many as it takes, known and accepted, and the function makes that value of them. -/
theorem Function.call_eq_ok_iff {function : Function} (strict : function.tolerant = false)
    {values : List Value} {result : Value} (known : result.isUnknown = false) :
    function.call values = .ok result ↔
      function.takes values.length = true ∧ (∀ value ∈ values, value.unknowns = []) ∧
        ∃ arguments, Arguments.accept function.more function.params 0 values = .ok arguments ∧
          function.body arguments = .ok result := by
  have blocking : function.blocking? values = none ↔ ∀ value ∈ values, value.unknowns = [] := by
    simp [Function.blocking?, strict, Value.firstUnknown?]
  rw [Function.call]
  cases function.takes values.length with
  | false => exact ⟨nofun, fun ⟨fits, _⟩ => nomatch fits⟩
  | true =>
    cases found : function.blocking? values with
    | some marker =>
      refine ⟨fun given => ?_, fun ⟨_, plain, _⟩ => nomatch found.symm.trans (blocking.mpr plain)⟩
      cases given
      cases known
    | none =>
      refine Iff.trans Except.bind_eq_ok_iff ⟨fun made => ⟨rfl, blocking.mp found, made⟩, ?_⟩
      rintro ⟨_, _, made⟩
      exact made

end Terradoc
