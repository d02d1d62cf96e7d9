import Mathlib.Tactic.IntervalCases
import LoggerV2.Log.RawTrace

/-!
# The generated logging functions

`Log.hpp` includes `LogMetaMetaFuncs.inc` once for each function, that file includes
`LogMetaFuncs.inc` once for each column of its tables, and that one, for the columns with
counted arguments, includes `LogFuncs.inc` once for each number of arguments. Every
inclusion that is no loop emits one overload. `mem_generated_iff` says which ones.
-/

namespace LoggerV2

/-- The logging functions of `Log`. -/
inductive LogFunc where
  | sendTrace | trace | debug | info | warn | warning | error | critical | crit | count
deriving DecidableEq, Repr

/-- A parameter of a generated function, by its declaration. -/
inductive Param where
  | level | id | handle | format
  /-- `const CustomSourceLocation loc` -/
  | loc
  /-- `const CustomSourceLocation loc = CustomSourceLocation::current()` -/
  | locCurrent
  /-- `const T0 t0` and so on -/
  | arg (index : Nat)
  /-- `const Args... all` -/
  | all
deriving DecidableEq, Repr

/-- What a generated body passes to `RawTrace`: a parameter, or a value in its place. -/
inductive Forward where
  | level | id | handle | loc | format
  | arg (index : Nat)
  | all
  /-- The function's own level; `none` is `NULL`. -/
  | levelValue (value : Option Level)
  /-- `0` -/
  | noId
  /-- `ModuleHandle{}` -/
  | noHandle
  /-- `""` -/
  | noFormat
deriving DecidableEq, Repr

/-- What stands before a function: nothing, `template <typename... Args>` or classes by number.
-/
inductive Template where
  | none | pack
  | classes (count : Nat)
deriving DecidableEq, Repr

/-- A generated function. `ret` says whether `inline void` stands before the name. -/
structure Overload where
  template : Template
  ret : Bool
  name : Option LogFunc
  params : List Param
  call : List Forward
deriving DecidableEq, Repr

section Tables

/-- `LOG_func_names`, the rows of the tables. -/
def logFuncNames : List LogFunc :=
  [.sendTrace, .trace, .debug, .info, .warn, .warning, .error, .critical, .crit, .count]

/-- `LOG_funcs_level_p_enabled`: whether the function is given its level. -/
def logFuncsLevelPEnabled : List Bool :=
  [true, false, false, false, false, false, false, false, false, false]

/-- `LOG_funcs_level_value`: the level it has otherwise. -/
def logFuncsLevelValue : List (Option Level) :=
  [none, some .trace, some .debug, some .info, some .warning, some .warning, some .error,
    some .critical, some .critical, some .count]

/-- `LOG_function_max_iter`: the number of rows. -/
def logFunctionMaxIter : Nat := 10

/-- `LOG_max_iter`: the number of columns. -/
def logMaxIter : Nat := 12

def logFuncRetArr : List Bool :=
  [true, true, true, true, true, true, true, true, true, true, true, true]

def logFuncNameArr : List Bool :=
  [true, true, true, true, true, true, true, true, true, true, true, true]

def logLevelArr : List Bool :=
  [true, true, true, true, true, true, true, true, true, true, true, true]

/-- `LOG_id_arr`: whether the column declares an id. -/
def logIdArr : List Bool :=
  [false, false, true, true, false, true, true, false, false, false, true, true]

/-- `LOG_mod_arr`: whether it declares a module handle. -/
def logModArr : List Bool :=
  [false, true, true, false, false, false, true, true, false, true, true, false]

/-- `LOG_loc_ndef_arr`: whether it declares a location without a default. -/
def logLocNdefArr : List Bool :=
  [false, false, false, false, true, true, true, true, false, false, false, false]

/-- `LOG_loc_def_arr`: whether it declares a location with a default. -/
def logLocDefArr : List Bool :=
  [true, true, true, true, false, false, false, false, true, true, true, true]

def logFormatArr : List Bool :=
  [true, true, true, true, true, true, true, true, true, true, true, true]

/-- `LOG_template_arr`: whether the column is a variadic template. -/
def logTemplateArr : List Bool :=
  [false, false, false, false, true, true, true, true, false, false, false, false]

/-- `LOG_var_arr`: whether the column is enumerated by the number of arguments. -/
def logVarArr : List Bool :=
  [true, true, true, true, false, false, false, false, false, false, false, false]

end Tables

/-- `BOOST_PP_ARRAY_ELEM` of an array of `TRUE` and `FALSE`. -/
def ppArrayElem (index : Nat) (array : List Bool) : Bool := array.getD index false

/-- `BOOST_PP_IF` between two macros, by what they expand to. -/
def ppIf {Token : Type} (condition : Bool) (yes no : List Token) : List Token :=
  if condition then yes else no

section Emit

variable (currIter currIter2 : Nat)

/-- `BOOST_PP_AND(LOG_level_enabled, ...)`. -/
def logLevelEnabled : Bool :=
  ppArrayElem currIter logFuncsLevelPEnabled && ppArrayElem currIter2 logLevelArr

/-- `LOG_func_name`, if the column has names. -/
def logFuncName : Option LogFunc :=
  if ppArrayElem currIter2 logFuncNameArr then logFuncNames[currIter]? else none

/-- The parameters that both files declare in the same way. -/
def levelDec : List Param := ppIf (logLevelEnabled currIter currIter2) [.level] []

/-- `LOG_id_dec`, if the column has ids. -/
def idDec : List Param := ppIf (ppArrayElem currIter2 logIdArr) [.id] []

/-- `LOG_mod_dec`, if the column has module handles. -/
def modDec : List Param := ppIf (ppArrayElem currIter2 logModArr) [.handle] []

/-- `LOG_format_dec`, if the column has formats. -/
def formatDec : List Param := ppIf (ppArrayElem currIter2 logFormatArr) [.format] []

/-- The arguments that both files pass in the same way. -/
def levelFor : List Forward :=
  ppIf (logLevelEnabled currIter currIter2) [.level]
    [.levelValue (logFuncsLevelValue.getD currIter none)]

/-- `LOG_id_for` or `LOG_id_n`. -/
def idFor : List Forward := ppIf (ppArrayElem currIter2 logIdArr) [.id] [.noId]

/-- `LOG_mod_for` or `LOG_mod_n`. -/
def modFor : List Forward := ppIf (ppArrayElem currIter2 logModArr) [.handle] [.noHandle]

/-- `LOG_loc_def_for` or nothing. -/
def locDefFor : List Forward := ppIf (ppArrayElem currIter2 logLocDefArr) [.loc] []

/-- `LOG_format_for` or `LOG_format_n`. -/
def formatFor : List Forward := ppIf (ppArrayElem currIter2 logFormatArr) [.format] [.noFormat]

/-- The overload that `LogMetaFuncs.inc` emits itself. -/
def metaOverload : Overload where
  template := if ppArrayElem currIter2 logTemplateArr then .pack else .none
  ret := ppArrayElem currIter2 logFuncRetArr
  name := logFuncName currIter currIter2
  params := levelDec currIter currIter2 ++ idDec currIter2 ++ modDec currIter2 ++
    ppIf (ppArrayElem currIter2 logLocNdefArr) [.loc] [] ++ formatDec currIter2 ++
    ppIf (ppArrayElem currIter2 logTemplateArr) [.all] [] ++
    ppIf (ppArrayElem currIter2 logLocDefArr) [.locCurrent] []
  call := levelFor currIter currIter2 ++ idFor currIter2 ++ modFor currIter2 ++
    ppIf (ppArrayElem currIter2 logLocNdefArr) [.loc] [] ++ locDefFor currIter2 ++
    formatFor currIter2 ++ ppIf (ppArrayElem currIter2 logTemplateArr) [.all] []

/-- The overload that `LogFuncs.inc` emits for a number of arguments. -/
def varOverload (currIter3 : Nat) : Overload where
  template := .classes currIter3
  ret := ppArrayElem currIter2 logFuncRetArr
  name := logFuncName currIter currIter2
  params := levelDec currIter currIter2 ++ idDec currIter2 ++ modDec currIter2 ++
    formatDec currIter2 ++ (List.range currIter3).map .arg ++ [.locCurrent]
  call := levelFor currIter currIter2 ++ idFor currIter2 ++ modFor currIter2 ++
    locDefFor currIter2 ++ formatFor currIter2 ++ (List.range currIter3).map .arg

end Emit

/-- What the preprocessor remembers between inclusions: the slot
`LOG_SLOT_NUMBER_LAYER_3`, and whether `LOG_curr_iter_3` is defined. -/
structure Preprocessor where
  slot : Nat
  defined : Bool

/-- `BOOST_PP_ITERATE`: include the file for each value between the limits. -/
def ppIterate (file : Nat → Preprocessor → List Overload × Preprocessor) :
    (values : List Nat) → Preprocessor → List Overload × Preprocessor
  | [], state => ([], state)
  | value :: rest, state =>
    let (first, middle) := file value state
    let (others, last) := ppIterate file rest middle
    (first ++ others, last)

/-- `BOOST_PP_ITERATION_LIMITS`; both are included. -/
def ppLimits (lower upper : Nat) : List Nat := List.range' lower (upper + 1 - lower)

/-- `LogFuncs.inc`, which counts its inclusions in the slot. -/
def logFuncs (currIter currIter2 : Nat) (state : Preprocessor) :
    List Overload × Preprocessor :=
  let slot := if state.defined then state.slot else 0
  let currIter3 := slot + 1
  ([varOverload currIter currIter2 currIter3], ⟨currIter3, true⟩)

/-- `LogMetaFuncs.inc`. -/
def logMetaFuncs (logFuncMaxArgs currIter currIter2 : Nat) (state : Preprocessor) :
    List Overload × Preprocessor :=
  if ppArrayElem currIter2 logVarArr then
    let (overloads, last) :=
      ppIterate (fun _ => logFuncs currIter currIter2) (ppLimits 0 logFuncMaxArgs) state
    (overloads, { last with defined := false })
  else ([metaOverload currIter currIter2], state)

/-- `LogMetaMetaFuncs.inc`. -/
def logMetaMetaFuncs (logFuncMaxArgs currIter : Nat) :
    Preprocessor → List Overload × Preprocessor :=
  ppIterate (logMetaFuncs logFuncMaxArgs currIter) (ppLimits 0 (logMaxIter - 1))

/-- The overloads that `Log.hpp` ends up with. -/
def generated (logFuncMaxArgs : Nat) : List Overload :=
  (ppIterate (logMetaMetaFuncs logFuncMaxArgs) (ppLimits 0 (logFunctionMaxIter - 1))
    ⟨0, false⟩).1

section Counting

variable {currIter currIter2 : Nat}

/-- The slot counts up by one with each inclusion. -/
theorem ppIterate_logFuncs (values : List Nat) (slot : Nat) :
    (ppIterate (fun _ => logFuncs currIter currIter2) values ⟨slot, true⟩).1 =
      (List.range' (slot + 1) values.length).map (varOverload currIter currIter2) := by
  induction values generalizing slot with
  | nil => rfl
  | cons value rest ih =>
    rw [List.length_cons, List.range'_succ, List.map_cons, ← ih (slot + 1)]
    rfl

/-- The first inclusion resets the slot, whatever an earlier loop left in it. -/
theorem ppIterate_logFuncs_undefined {values : List Nat} (nonempty : values ≠ []) (slot : Nat) :
    ppIterate (fun _ => logFuncs currIter currIter2) values ⟨slot, false⟩ =
      ppIterate (fun _ => logFuncs currIter currIter2) values ⟨0, true⟩ := by
  cases values with
  | nil => exact absurd rfl nonempty
  | cons value rest => rfl

/-- What `LogMetaFuncs.inc` emits for a column. -/
def emitted (logFuncMaxArgs currIter currIter2 : Nat) : List Overload :=
  if ppArrayElem currIter2 logVarArr then
    (List.range' 1 (logFuncMaxArgs + 1)).map (varOverload currIter currIter2)
  else [metaOverload currIter currIter2]

/-- A column emits its overloads and leaves the slot undefined. -/
theorem logMetaFuncs_emits (logFuncMaxArgs currIter currIter2 slot : Nat) :
    (logMetaFuncs logFuncMaxArgs currIter currIter2 ⟨slot, false⟩).1 =
        emitted logFuncMaxArgs currIter currIter2 ∧
      (logMetaFuncs logFuncMaxArgs currIter currIter2 ⟨slot, false⟩).2.defined = false := by
  rw [logMetaFuncs, emitted]
  split_ifs
  · have included : ppLimits 0 logFuncMaxArgs ≠ [] := by simp [ppLimits]
    rw [ppIterate_logFuncs_undefined included]
    refine ⟨?_, rfl⟩
    exact (ppIterate_logFuncs _ 0).trans (by simp [ppLimits])
  · exact ⟨rfl, rfl⟩

/-- A loop over files that each leave `LOG_curr_iter_3` undefined. -/
theorem ppIterate_of_undefined {file : Nat → Preprocessor → List Overload × Preprocessor}
    {emits : Nat → List Overload}
    (each : ∀ value slot, (file value ⟨slot, false⟩).1 = emits value ∧
      (file value ⟨slot, false⟩).2.defined = false)
    (values : List Nat) (slot : Nat) :
    (ppIterate file values ⟨slot, false⟩).1 = values.flatMap emits ∧
      (ppIterate file values ⟨slot, false⟩).2.defined = false := by
  induction values generalizing slot with
  | nil => exact ⟨rfl, rfl⟩
  | cons value rest ih =>
    obtain ⟨first, undefined⟩ := each value slot
    rw [ppIterate]
    rcases ran : file value ⟨slot, false⟩ with ⟨overloads, next, _ | _⟩ <;>
      rw [ran] at first undefined
    · obtain ⟨others, last⟩ := ih next
      refine ⟨?_, last⟩
      rw [List.flatMap_cons, ← first, ← others]
    · cases undefined

/-- The overloads of all rows and columns. -/
theorem generated_eq (logFuncMaxArgs : Nat) :
    generated logFuncMaxArgs = (List.range 10).flatMap fun currIter =>
      (List.range 12).flatMap (emitted logFuncMaxArgs currIter) := by
  have columns : ∀ currIter slot,
      (logMetaMetaFuncs logFuncMaxArgs currIter ⟨slot, false⟩).1 =
          (List.range 12).flatMap (emitted logFuncMaxArgs currIter) ∧
        (logMetaMetaFuncs logFuncMaxArgs currIter ⟨slot, false⟩).2.defined = false := by
    intro currIter slot
    exact ppIterate_of_undefined (logMetaFuncs_emits logFuncMaxArgs currIter) _ slot
  exact (ppIterate_of_undefined columns _ 0).1

end Counting

/-- How a generated function takes the arguments of the format: counted, with the location
last and optional, or as a pack, with the location before the format. -/
inductive Form where
  | counted (arity : Nat)
  | pack
deriving DecidableEq, Repr

/-- The level of a function that takes none. -/
def LogFunc.level? : LogFunc → Option Level
  | .sendTrace => none
  | .trace => some .trace
  | .debug => some .debug
  | .info => some .info
  | .warn | .warning => some .warning
  | .error => some .error
  | .critical | .crit => some .critical
  | .count => some .count

/-- What stands before a function of this form. -/
def Form.template : Form → Template
  | .counted 0 => .none
  | .counted arity => .classes arity
  | .pack => .pack

/-- The parameters behind the id and the module handle. -/
def Form.params : Form → List Param
  | .counted arity => .format :: (List.range arity).map .arg ++ [.locCurrent]
  | .pack => [.loc, .format, .all]

/-- What is passed on behind the format. -/
def Form.forwards : Form → List Forward
  | .counted arity => (List.range arity).map .arg
  | .pack => [.all]

/-- The overload of a function in a form, with or without an id and a module handle. -/
def Overload.intended (function : LogFunc) (takesId takesHandle : Bool) (form : Form) :
    Overload where
  template := form.template
  ret := true
  name := some function
  params := (if function.level? = none then [.level] else []) ++
    (if takesId then [.id] else []) ++ (if takesHandle then [.handle] else []) ++ form.params
  call := (if function.level? = none then [.level] else [.levelValue function.level?]) ++
    (if takesId then [.id] else [.noId]) ++ (if takesHandle then [.handle] else [.noHandle]) ++
    .loc :: .format :: form.forwards

/-- The rows of the function tables belong together. -/
theorem exists_function {currIter : Nat} (isRow : currIter < 10) :
    ∃ function, logFuncNames[currIter]? = some function ∧
      ppArrayElem currIter logFuncsLevelPEnabled = decide (function.level? = none) ∧
      logFuncsLevelValue[currIter]?.getD none = function.level? := by
  interval_cases currIter <;> exact ⟨_, rfl, rfl, rfl⟩

/-- Every function has a row. -/
theorem exists_row (function : LogFunc) :
    ∃ currIter < 10, logFuncNames[currIter]? = some function := by
  cases function <;> decide

/-- The columns of the other tables belong together. -/
theorem columns_full : ∀ currIter2 < 12, ppArrayElem currIter2 logFuncRetArr = true ∧
    ppArrayElem currIter2 logFuncNameArr = true ∧ ppArrayElem currIter2 logLevelArr = true ∧
    ppArrayElem currIter2 logFormatArr = true := by
  decide

/-- A counted column declares a location with a default. -/
theorem columns_var : ∀ currIter2 < 12, ppArrayElem currIter2 logVarArr = true →
    ppArrayElem currIter2 logLocDefArr = true := by
  decide

/-- The other columns declare one of the two locations. -/
theorem columns_meta : ∀ currIter2 < 12, ppArrayElem currIter2 logVarArr = false →
    ppArrayElem currIter2 logLocNdefArr = ppArrayElem currIter2 logTemplateArr ∧
      ppArrayElem currIter2 logLocDefArr = !ppArrayElem currIter2 logTemplateArr := by
  decide

/-- Each choice of an id and a module handle has one column of every form. -/
theorem exists_column : ∀ takesId takesHandle,
    (∃ currIter2 < 12, ppArrayElem currIter2 logVarArr = true ∧
      ppArrayElem currIter2 logIdArr = takesId ∧ ppArrayElem currIter2 logModArr = takesHandle) ∧
    ∀ template, ∃ currIter2 < 12, ppArrayElem currIter2 logVarArr = false ∧
      ppArrayElem currIter2 logTemplateArr = template ∧
      ppArrayElem currIter2 logIdArr = takesId ∧
      ppArrayElem currIter2 logModArr = takesHandle := by
  decide

section Columns

variable {currIter currIter2 : Nat} {function : LogFunc}

/-- What `LogFuncs.inc` emits is the intended overload for that many arguments. -/
theorem varOverload_eq (isRow : currIter < 10) (isColumn : currIter2 < 12)
    (named : logFuncNames[currIter]? = some function)
    (isVar : ppArrayElem currIter2 logVarArr = true) (arity : Nat) :
    varOverload currIter currIter2 (arity + 1) =
      .intended function (ppArrayElem currIter2 logIdArr) (ppArrayElem currIter2 logModArr)
        (.counted (arity + 1)) := by
  obtain ⟨ret, name, level, format⟩ := columns_full currIter2 isColumn
  have locDef := columns_var currIter2 isColumn isVar
  obtain ⟨same, isSame, enabled, value⟩ := exists_function isRow
  obtain rfl := Option.some.inj (named.symm.trans isSame)
  simp [varOverload, Overload.intended, Form.template, Form.params, Form.forwards, logFuncName,
    levelDec, idDec, modDec, formatDec, levelFor, idFor, modFor, locDefFor, formatFor,
    logLevelEnabled, ppIf, ret, name, level, format, locDef, named, enabled, value]

/-- What `LogMetaFuncs.inc` emits itself is the one without arguments, or the template. -/
theorem metaOverload_eq (isRow : currIter < 10) (isColumn : currIter2 < 12)
    (named : logFuncNames[currIter]? = some function)
    (isMeta : ppArrayElem currIter2 logVarArr = false) :
    metaOverload currIter currIter2 =
      .intended function (ppArrayElem currIter2 logIdArr) (ppArrayElem currIter2 logModArr)
        (if ppArrayElem currIter2 logTemplateArr then .pack else .counted 0) := by
  obtain ⟨ret, name, level, format⟩ := columns_full currIter2 isColumn
  obtain ⟨locNdef, locDef⟩ := columns_meta currIter2 isColumn isMeta
  obtain ⟨same, isSame, enabled, value⟩ := exists_function isRow
  obtain rfl := Option.some.inj (named.symm.trans isSame)
  cases template : ppArrayElem currIter2 logTemplateArr <;>
    simp [metaOverload, Overload.intended, Form.template, Form.params, Form.forwards,
      logFuncName, levelDec, idDec, modDec, formatDec,
      levelFor, idFor, modFor, locDefFor, formatFor, logLevelEnabled, ppIf, ret, name, level,
      format, locNdef, locDef, named, enabled, value, template]

end Columns

/-- The generated overloads: every function, with or without an id and a module handle, for
every number of arguments up to one more than asked for, and for a pack. -/
theorem mem_generated_iff {logFuncMaxArgs : Nat} {overload : Overload} :
    overload ∈ generated logFuncMaxArgs ↔
      ∃ function takesId takesHandle form,
        (∀ arity, form = .counted arity → arity ≤ logFuncMaxArgs + 1) ∧
          overload = .intended function takesId takesHandle form := by
  rw [generated_eq, List.mem_flatMap]
  constructor
  · rintro ⟨currIter, isRow, inRow⟩
    obtain ⟨currIter2, isColumn, emits⟩ := List.mem_flatMap.mp inRow
    rw [List.mem_range] at isRow isColumn
    obtain ⟨function, named, -⟩ := exists_function isRow
    refine ⟨function, ppArrayElem currIter2 logIdArr, ppArrayElem currIter2 logModArr, ?_⟩
    rw [emitted] at emits
    split_ifs at emits with isVar
    · obtain ⟨arity, isArity, rfl⟩ := List.mem_map.mp emits
      rw [List.mem_range'_1] at isArity
      obtain ⟨arity, rfl⟩ := Nat.exists_eq_succ_of_ne_zero (Nat.pos_iff_ne_zero.mp isArity.1)
      refine ⟨.counted (arity + 1), ?_, varOverload_eq isRow isColumn named isVar arity⟩
      rintro _ ⟨⟩
      omega
    · have isMeta := Bool.not_eq_true _ ▸ isVar
      obtain rfl := List.mem_singleton.mp emits
      refine ⟨_, ?_, metaOverload_eq isRow isColumn named isMeta⟩
      intro arity isCounted
      split_ifs at isCounted
      cases isCounted
      exact Nat.zero_le _
  · rintro ⟨function, takesId, takesHandle, form, fits, rfl⟩
    obtain ⟨currIter, isRow, named⟩ := exists_row function
    obtain ⟨vars, metas⟩ := exists_column takesId takesHandle
    refine ⟨currIter, List.mem_range.mpr isRow, ?_⟩
    have fromMeta : ∀ template : Bool, .intended function takesId takesHandle
        (if template then .pack else .counted 0) ∈
          (List.range 12).flatMap (emitted logFuncMaxArgs currIter) := by
      intro template
      obtain ⟨currIter2, isColumn, isMeta, rfl, rfl, rfl⟩ := metas template
      refine List.mem_flatMap.mpr ⟨currIter2, List.mem_range.mpr isColumn, ?_⟩
      rw [emitted, isMeta, metaOverload_eq isRow isColumn named isMeta]
      exact List.mem_singleton.mpr rfl
    match form with
    | .pack => exact fromMeta true
    | .counted 0 => exact fromMeta false
    | .counted (arity + 1) =>
      obtain ⟨currIter2, isColumn, isVar, rfl, rfl⟩ := vars
      refine List.mem_flatMap.mpr ⟨currIter2, List.mem_range.mpr isColumn, ?_⟩
      have counted := fits (arity + 1) rfl
      rw [emitted, if_pos isVar]
      refine List.mem_map.mpr ⟨arity + 1, ?_, varOverload_eq isRow isColumn named isVar arity⟩
      rw [List.mem_range'_1]
      omega

end LoggerV2
