import LoggerV2.Log.MetaFuncs

/-!
# Calls of the generated functions

The arguments of a call become the parameters' values in order (`complete`), and the
generated body passes them on to `RawTrace` (`Overload.body`). The plain templates are the
other implementation of the same functions.
-/

namespace LoggerV2

open Verification

/-- An argument of a call; `Arg` are the arguments of the format. -/
inductive Actual (Arg : Type) where
  | level (value : Level)
  | id (value : UInt16)
  | handle (value : ModuleHandle)
  | loc (value : CustomSourceLocation)
  | format (value : Text)
  | arg (value : Arg)
deriving DecidableEq, Repr

/-- The types that parameters are told apart by. -/
inductive ParamType where
  | level | id | handle | loc | format | arg
deriving DecidableEq, Repr

/-- A call of `RawTrace`. -/
structure RawTraceCall (Arg : Type) where
  level : Level
  id : UInt16
  handle : ModuleHandle
  loc : CustomSourceLocation
  format : Text
  all : List Arg
deriving DecidableEq, Repr

variable {Arg : Type}

namespace Actual

def level? : Actual Arg → Option Level
  | .level value => some value
  | _ => none

def id? : Actual Arg → Option UInt16
  | .id value => some value
  | _ => none

def handle? : Actual Arg → Option ModuleHandle
  | .handle value => some value
  | _ => none

def loc? : Actual Arg → Option CustomSourceLocation
  | .loc value => some value
  | _ => none

def format? : Actual Arg → Option Text
  | .format value => some value
  | _ => none

def arg? : Actual Arg → Option Arg
  | .arg value => some value
  | _ => none

end Actual

/-- The type of a parameter, and of what a pack takes. -/
def Param.type : Param → ParamType
  | .level => .level
  | .id => .id
  | .handle => .handle
  | .format => .format
  | .loc | .locCurrent => .loc
  | .arg _ | .all => .arg

@[simp] theorem Param.type_eq_level {param : Param} : param.type = .level ↔ param = .level := by
  cases param <;> simp [Param.type]

@[simp] theorem Param.type_eq_id {param : Param} : param.type = .id ↔ param = .id := by
  cases param <;> simp [Param.type]

@[simp] theorem Param.type_eq_handle {param : Param} : param.type = .handle ↔ param = .handle := by
  cases param <;> simp [Param.type]

@[simp] theorem Param.type_eq_format {param : Param} : param.type = .format ↔ param = .format := by
  cases param <;> simp [Param.type]

/-- A location goes to either of its parameters. -/
@[simp] theorem Param.type_eq_loc {param : Param} :
    param.type = .loc ↔ param = .loc ∨ param = .locCurrent := by
  cases param <;> simp [Param.type]

/-- The type of an argument. -/
def Actual.type : Actual Arg → ParamType
  | .level _ => .level
  | .id _ => .id
  | .handle _ => .handle
  | .loc _ => .loc
  | .format _ => .format
  | .arg _ => .arg

/-- `ModuleHandle{}` -/
def noModule : ModuleHandle := ⟨[], none⟩

section Call

variable (here : CustomSourceLocation)

/-- The values of the parameters, if the arguments fit. A location that is left out is the
place of the call; a pack takes all that is left. -/
def complete : List Param → List (Actual Arg) → Option (List (Actual Arg))
  | [], [] => some []
  | [], _ :: _ => none
  | .all :: params, actuals =>
    if params = [] ∧ ∀ actual ∈ actuals, actual.type = .arg then some actuals else none
  | param :: params, [] => if param = .locCurrent ∧ params = [] then some [.loc here] else none
  | param :: params, actual :: actuals =>
    if param.type = actual.type then (complete params actuals).map (actual :: ·) else none

/-- What a name or a constant in the body stands for. -/
def Forward.value (values : List (Actual Arg)) : Forward → Option (List (Actual Arg))
  | .level => (values.findSome? Actual.level?).map fun value => [.level value]
  | .id => (values.findSome? Actual.id?).map fun value => [.id value]
  | .handle => (values.findSome? Actual.handle?).map fun value => [.handle value]
  | .loc => (values.findSome? Actual.loc?).map fun value => [.loc value]
  | .format => (values.findSome? Actual.format?).map fun value => [.format value]
  | .arg index => (values.filterMap Actual.arg?)[index]?.map fun value => [.arg value]
  | .all => some ((values.filterMap Actual.arg?).map .arg)
  | .levelValue value => value.map fun value => [.level value]
  | .noId => some [.id 0]
  | .noHandle => some [.handle noModule]
  | .noFormat => some [.format []]

/-- The arguments that a body passes on, in order. -/
def passed (values : List (Actual Arg)) : List Forward → Option (List (Actual Arg))
  | [] => some []
  | next :: rest => do
    let first ← next.value values
    let others ← passed values rest
    pure (first ++ others)

/-- Arguments that fit the parameters of `RawTrace`. -/
def rawTraceCall : List (Actual Arg) → Option (RawTraceCall Arg)
  | .level level :: .id id :: .handle handle :: .loc loc :: .format format :: all =>
    if ∀ actual ∈ all, actual.type = .arg then
      some ⟨level, id, handle, loc, format, all.filterMap Actual.arg?⟩
    else none
  | _ => none

/-- The call of `RawTrace` that a call of the overload leads to. -/
def Overload.body (overload : Overload) (actuals : List (Actual Arg)) :
    Option (RawTraceCall Arg) := do
  let values ← complete here overload.params actuals
  let forwarded ← passed values overload.call
  rawTraceCall forwarded

end Call

section Plain

/-! The template definitions. A call is at the place `here`. -/

variable (here : CustomSourceLocation) (handle : ModuleHandle) (format : Text) (all : List Arg)

/-- What the template definitions share. -/
def plainCall (level : Level) : RawTraceCall Arg := ⟨level, 0, handle, here, format, all⟩

/-- `SendTrace`, which is given its level. The others have their own. -/
def Plain.sendTrace (level : Level) : RawTraceCall Arg := plainCall here handle format all level
def Plain.trace : RawTraceCall Arg := plainCall here noModule format all .trace
def Plain.traceHandle : RawTraceCall Arg := plainCall here handle format all .trace
def Plain.debug : RawTraceCall Arg := plainCall here noModule format all .debug
def Plain.debugHandle : RawTraceCall Arg := plainCall here handle format all .debug
def Plain.info : RawTraceCall Arg := plainCall here noModule format all .info
def Plain.infoHandle : RawTraceCall Arg := plainCall here handle format all .info
def Plain.warn : RawTraceCall Arg := plainCall here noModule format all .warning
def Plain.warnHandle : RawTraceCall Arg := plainCall here handle format all .warning
def Plain.warning : RawTraceCall Arg := plainCall here noModule format all .warning
def Plain.warningHandle : RawTraceCall Arg := plainCall here handle format all .warning
def Plain.error : RawTraceCall Arg := plainCall here noModule format all .error
def Plain.errorHandle : RawTraceCall Arg := plainCall here handle format all .error
def Plain.critical : RawTraceCall Arg := plainCall here noModule format all .critical
def Plain.criticalHandle : RawTraceCall Arg := plainCall here handle format all .critical
def Plain.crit : RawTraceCall Arg := plainCall here noModule format all .critical
def Plain.critHandle : RawTraceCall Arg := plainCall here handle format all .critical
def Plain.count : RawTraceCall Arg := plainCall here noModule format all .count
def Plain.countHandle : RawTraceCall Arg := plainCall here handle format all .count

end Plain

/-- The template definition of a function. `SendTrace` alone always takes a module handle,
so that a call without one is compared with the empty one. -/
def LogFunc.plain (here : CustomSourceLocation) (level : Level) (handle? : Option ModuleHandle)
    (format : Text) (all : List Arg) : LogFunc → RawTraceCall Arg
  | .sendTrace => Plain.sendTrace here (handle?.getD noModule) format all level
  | .trace => handle?.elim (Plain.trace here format all) (Plain.traceHandle here · format all)
  | .debug => handle?.elim (Plain.debug here format all) (Plain.debugHandle here · format all)
  | .info => handle?.elim (Plain.info here format all) (Plain.infoHandle here · format all)
  | .warn => handle?.elim (Plain.warn here format all) (Plain.warnHandle here · format all)
  | .warning =>
    handle?.elim (Plain.warning here format all) (Plain.warningHandle here · format all)
  | .error => handle?.elim (Plain.error here format all) (Plain.errorHandle here · format all)
  | .critical =>
    handle?.elim (Plain.critical here format all) (Plain.criticalHandle here · format all)
  | .crit => handle?.elim (Plain.crit here format all) (Plain.critHandle here · format all)
  | .count => handle?.elim (Plain.count here format all) (Plain.countHandle here · format all)

section Complete

variable {here : CustomSourceLocation} {params : List Param} {actuals values : List (Actual Arg)}

/-- How the first parameter is given its value. -/
theorem complete_cons {param : Param}
    (completed : complete here (param :: params) actuals = some values) :
    (param = .all ∧ params = [] ∧ (∀ actual ∈ actuals, actual.type = .arg) ∧ values = actuals) ∨
    (param = .locCurrent ∧ params = [] ∧ actuals = [] ∧ values = [.loc here]) ∨
    ∃ actual rest others, actuals = actual :: rest ∧ param.type = actual.type ∧
      complete here params rest = some others ∧ values = actual :: others := by
  by_cases isPack : param = .all
  · subst isPack
    rw [complete] at completed
    split_ifs at completed with fits
    exact .inl ⟨rfl, fits.1, fits.2, (Option.some.inj completed).symm⟩
  · cases actuals with
    | nil =>
      rw [complete.eq_4 _ _ _ isPack] at completed
      split_ifs at completed with isLast
      exact .inr (.inl ⟨isLast.1, isLast.2, rfl, (Option.some.inj completed).symm⟩)
    | cons actual rest =>
      rw [complete.eq_5 _ _ _ _ _ isPack] at completed
      split_ifs at completed with typed
      obtain ⟨others, further, rfl⟩ := Option.map_eq_some_iff.mp completed
      exact .inr (.inr ⟨actual, rest, others, rfl, typed, further, rfl⟩)

/-- Without parameters there are no arguments. -/
theorem complete_nil (completed : complete here [] actuals = some values) :
    actuals = [] ∧ values = [] := by
  cases actuals with
  | nil => exact ⟨rfl, (Option.some.inj completed).symm⟩
  | cons actual rest => cases completed

/-- Only a location is filled in, and only at the end. -/
theorem complete_cases (completed : complete here params actuals = some values) :
    values = actuals ∨ values = actuals ++ [.loc here] := by
  induction params generalizing actuals values with
  | nil =>
    obtain ⟨rfl, rfl⟩ := complete_nil completed
    exact .inl rfl
  | cons param rest ih =>
    rcases complete_cons completed with ⟨-, -, -, rfl⟩ | ⟨-, -, rfl, rfl⟩ |
      ⟨actual, actuals, others, rfl, -, further, rfl⟩
    · exact .inl rfl
    · exact .inr rfl
    · rcases ih further with rfl | rfl
      · exact .inl rfl
      · exact .inr rfl

/-- What is picked among the values is what is picked among the arguments. -/
theorem findSome?_complete {Value : Type} {pick : Actual Arg → Option Value}
    (notLoc : pick (.loc here) = none) (completed : complete here params actuals = some values) :
    values.findSome? pick = actuals.findSome? pick := by
  rcases complete_cases completed with rfl | rfl
  · rfl
  · rw [List.findSome?_append, List.findSome?_singleton, notLoc, Option.or_none]

/-- Defaults add nothing to be formatted. -/
theorem args_complete (completed : complete here params actuals = some values) :
    values.filterMap Actual.arg? = actuals.filterMap Actual.arg? := by
  rcases complete_cases completed with rfl | rfl
  · rfl
  · rw [List.filterMap_append]
    exact List.append_nil _

/-- A declared location is the given one, or the place of the call. -/
theorem loc_complete (completed : complete here params actuals = some values)
    (declared : (values.findSome? Actual.loc?).isSome) :
    values.findSome? Actual.loc? = some ((actuals.findSome? Actual.loc?).getD here) := by
  rcases complete_cases completed with rfl | rfl
  · obtain ⟨loc, isLoc⟩ := Option.isSome_iff_exists.mp declared
    rw [isLoc, Option.getD_some]
  · rw [List.findSome?_append]
    cases actuals.findSome? Actual.loc? <;> rfl

/-- The parameters of a type have a value exactly when one is declared. -/
theorem isSome_findSome?_iff {Value : Type} {pick : Actual Arg → Option Value} {type : ParamType}
    (picks : ∀ actual, (pick actual).isSome ↔ actual.type = type) (notArg : type ≠ .arg)
    (completed : complete here params actuals = some values) :
    (values.findSome? pick).isSome ↔ ∃ param ∈ params, param.type = type := by
  induction params generalizing actuals values with
  | nil =>
    obtain ⟨rfl, rfl⟩ := complete_nil completed
    simp
  | cons param rest ih =>
    rw [List.exists_mem_cons_iff]
    rcases complete_cons completed with ⟨rfl, rfl, args, rfl⟩ | ⟨rfl, rfl, rfl, rfl⟩ |
      ⟨actual, actuals, others, rfl, typed, further, rfl⟩
    · have absent : values.findSome? pick = none := by
        refine List.findSome?_eq_none_iff.mpr fun actual member => ?_
        rw [← Option.not_isSome_iff_eq_none, picks, args actual member]
        exact Ne.symm notArg
      simp [absent, Param.type, Ne.symm notArg]
    · rw [List.findSome?_singleton, picks]
      simp [Actual.type, Param.type]
    · rw [typed, ← picks actual, ← ih further, List.findSome?_cons]
      cases pick actual <;> simp

theorem isSome_level?_iff (actual : Actual Arg) : actual.level?.isSome ↔ actual.type = .level := by
  cases actual <;> simp [Actual.level?, Actual.type]

theorem isSome_id?_iff (actual : Actual Arg) : actual.id?.isSome ↔ actual.type = .id := by
  cases actual <;> simp [Actual.id?, Actual.type]

theorem isSome_handle?_iff (actual : Actual Arg) :
    actual.handle?.isSome ↔ actual.type = .handle := by
  cases actual <;> simp [Actual.handle?, Actual.type]

theorem isSome_loc?_iff (actual : Actual Arg) : actual.loc?.isSome ↔ actual.type = .loc := by
  cases actual <;> simp [Actual.loc?, Actual.type]

theorem isSome_format?_iff (actual : Actual Arg) :
    actual.format?.isSome ↔ actual.type = .format := by
  cases actual <;> simp [Actual.format?, Actual.type]

theorem isSome_arg?_iff (actual : Actual Arg) : actual.arg?.isSome ↔ actual.type = .arg := by
  cases actual <;> simp [Actual.arg?, Actual.type]

/-- Every counted parameter has one value, if there is no pack. -/
theorem length_args_complete (counted : .all ∉ params)
    (completed : complete here params actuals = some values) :
    (values.filterMap Actual.arg?).length = params.countP fun param => param.type = .arg := by
  induction params generalizing actuals values with
  | nil =>
    obtain ⟨rfl, rfl⟩ := complete_nil completed
    rfl
  | cons param rest ih =>
    rw [List.mem_cons, not_or] at counted
    rcases complete_cons completed with ⟨rfl, -⟩ | ⟨rfl, rfl, rfl, rfl⟩ |
      ⟨actual, actuals, others, rfl, typed, further, rfl⟩
    · exact absurd rfl counted.1
    · rfl
    · have isArg := isSome_arg?_iff actual
      rw [List.countP_cons, ← ih counted.2 further, typed, List.filterMap_cons]
      cases picked : actual.arg? <;> simp [picked] at isArg <;> simp [isArg]

end Complete

section Passed

variable {values first second : List (Actual Arg)} {forwards others : List Forward}

/-- What is forwarded first is passed first. -/
theorem passed_append (isFirst : passed values forwards = some first)
    (isSecond : passed values others = some second) :
    passed values (forwards ++ others) = some (first ++ second) := by
  induction forwards generalizing first with
  | nil =>
    cases isFirst
    exact isSecond
  | cons next rest ih =>
    simp only [passed, Option.bind_eq_bind, Option.bind_eq_some_iff] at isFirst
    obtain ⟨head, isHead, tail, isTail, joined⟩ := isFirst
    cases joined
    simp [passed, isHead, ih isTail]

/-- The counted arguments are passed on in order. -/
theorem passed_args {args : List Arg} (isArgs : values.filterMap Actual.arg? = args)
    (start count : Nat) (fits : start + count ≤ args.length) :
    passed values ((List.range' start count).map .arg) =
      some (((args.drop start).take count).map .arg) := by
  induction count generalizing start with
  | zero => rfl
  | succ count ih =>
    have bound : start < args.length := by omega
    have value : Forward.value values (.arg start) = some [.arg args[start]] := by
      rw [Forward.value, isArgs, List.getElem?_eq_getElem bound, Option.map_some]
    rw [List.range'_succ, List.map_cons, List.drop_eq_getElem_cons bound, List.take_succ_cons]
    simp [passed, value, ih (start + 1) (by omega)]

/-- Arguments to be formatted are just that. -/
theorem filterMap_arg (all : List Arg) : (all.map Actual.arg).filterMap Actual.arg? = all := by
  rw [List.filterMap_map]
  exact List.filterMap_some

/-- Values in the order of its parameters call `RawTrace`. -/
theorem rawTraceCall_eq (level : Level) (id : UInt16) (handle : ModuleHandle)
    (loc : CustomSourceLocation) (format : Text) (all : List Arg) :
    rawTraceCall (.level level :: .id id :: .handle handle :: .loc loc :: .format format ::
      all.map .arg) = some ⟨level, id, handle, loc, format, all⟩ := by
  have args : ∀ actual ∈ all.map Actual.arg, actual.type = .arg := by
    intro actual member
    obtain ⟨value, -, rfl⟩ := List.mem_map.mp member
    rfl
  rw [rawTraceCall, if_pos args, filterMap_arg]

end Passed

/-- What the caller gives reaches `RawTrace` unchanged, and only what it leaves out is
filled in. -/
structure PassesOn (function : LogFunc) (here : CustomSourceLocation)
    (actuals : List (Actual Arg)) (call : RawTraceCall Arg) : Prop where
  level : (actuals.findSome? Actual.level?).or function.level? = some call.level
  id : call.id = (actuals.findSome? Actual.id?).getD 0
  handle : call.handle = (actuals.findSome? Actual.handle?).getD noModule
  loc : call.loc = (actuals.findSome? Actual.loc?).getD here
  format : actuals.findSome? Actual.format? = some call.format
  all : call.all = actuals.filterMap Actual.arg?

section Intended

variable {here : CustomSourceLocation} {function : LogFunc} {takesId takesHandle : Bool}
  {form : Form} {actuals values : List (Actual Arg)}

/-- Only `SendTrace` declares a level. -/
theorem declares_level :
    (∃ param ∈ (Overload.intended function takesId takesHandle form).params,
      param.type = .level) ↔ function.level? = none := by
  cases form <;> simp [Overload.intended, Form.params]

/-- Whether an id is declared. -/
theorem declares_id :
    (∃ param ∈ (Overload.intended function takesId takesHandle form).params,
      param.type = .id) ↔ takesId = true := by
  cases form <;> simp [Overload.intended, Form.params]

/-- Whether a module handle is declared. -/
theorem declares_handle :
    (∃ param ∈ (Overload.intended function takesId takesHandle form).params,
      param.type = .handle) ↔ takesHandle = true := by
  cases form <;> simp [Overload.intended, Form.params]

/-- A location is always declared. -/
theorem declares_loc :
    ∃ param ∈ (Overload.intended function takesId takesHandle form).params,
      param.type = .loc := by
  cases form <;> simp [Overload.intended, Form.params, or_and_right, exists_or]

theorem declares_format :
    ∃ param ∈ (Overload.intended function takesId takesHandle form).params,
      param.type = .format := by
  cases form <;> simp [Overload.intended, Form.params]

/-- Counted parameters are as many as counted. -/
theorem declares_args (arity : Nat) :
    ((Overload.intended function takesId takesHandle (.counted arity)).params.countP
      fun param => param.type = .arg) = arity := by
  have counted : (List.range arity).countP ((fun param : Param => param.type = .arg) ∘ .arg) =
      arity := by
    rw [List.countP_eq_length.mpr (by simp [Param.type]), List.length_range]
  rw [Overload.intended, Form.params]
  split_ifs <;>
    simp only [List.countP_append, List.countP_cons, List.countP_nil, List.countP_map, counted] <;>
    simp [Param.type]

section Pieces

variable (completed :
  complete here (Overload.intended function takesId takesHandle form).params actuals = some values)

include completed

/-- The level is the given one where the function takes one, and otherwise its own. -/
theorem passed_level :
    ∃ level, passed values
        (if function.level? = none then [.level] else [.levelValue function.level?]) =
          some [.level level] ∧
      (actuals.findSome? Actual.level?).or function.level? = some level := by
  have given := (isSome_findSome?_iff isSome_level?_iff (by decide) completed).trans declares_level
  rw [← findSome?_complete rfl completed]
  cases own : function.level? with
  | none =>
    obtain ⟨level, isLevel⟩ := Option.isSome_iff_exists.mp (given.mpr own)
    exact ⟨level, by simp [passed, Forward.value, isLevel], by simp [isLevel]⟩
  | some level =>
    have absent : values.findSome? Actual.level? = none := by
      rw [← Option.not_isSome_iff_eq_none, given, own]
      simp
    exact ⟨level, by simp [passed, Forward.value], by simp [absent]⟩

/-- The id that was given, or 0. -/
theorem passed_id :
    passed values (if takesId then [.id] else [.noId]) =
      some [.id ((actuals.findSome? Actual.id?).getD 0)] := by
  have given := (isSome_findSome?_iff isSome_id?_iff (by decide) completed).trans declares_id
  rw [← findSome?_complete rfl completed]
  cases takesId with
  | true =>
    obtain ⟨id, isId⟩ := Option.isSome_iff_exists.mp (given.mpr rfl)
    simp [passed, Forward.value, isId]
  | false =>
    have absent : values.findSome? Actual.id? = none := by
      rw [← Option.not_isSome_iff_eq_none, given]
      simp
    simp [passed, Forward.value, absent]

/-- The module handle that was given, or the null handle. -/
theorem passed_handle :
    passed values (if takesHandle then [.handle] else [.noHandle]) =
      some [.handle ((actuals.findSome? Actual.handle?).getD noModule)] := by
  have given :=
    (isSome_findSome?_iff isSome_handle?_iff (by decide) completed).trans declares_handle
  rw [← findSome?_complete rfl completed]
  cases takesHandle with
  | true =>
    obtain ⟨handle, isHandle⟩ := Option.isSome_iff_exists.mp (given.mpr rfl)
    simp [passed, Forward.value, isHandle]
  | false =>
    have absent : values.findSome? Actual.handle? = none := by
      rw [← Option.not_isSome_iff_eq_none, given]
      simp
    simp [passed, Forward.value, absent]

/-- The location that was given, or that of the call. -/
theorem passed_loc :
    passed values [.loc] = some [.loc ((actuals.findSome? Actual.loc?).getD here)] := by
  have declared := (isSome_findSome?_iff isSome_loc?_iff (by decide) completed).mpr declares_loc
  simp [passed, Forward.value, loc_complete completed declared]

/-- The format that was given. -/
theorem passed_format :
    ∃ format, passed values [.format] = some [.format format] ∧
      actuals.findSome? Actual.format? = some format := by
  have declared :=
    (isSome_findSome?_iff isSome_format?_iff (by decide) completed).mpr declares_format
  obtain ⟨format, isFormat⟩ := Option.isSome_iff_exists.mp declared
  rw [← findSome?_complete rfl completed]
  exact ⟨format, by simp [passed, Forward.value, isFormat], isFormat⟩

/-- The arguments of the format are passed on in order, counted or as a pack. -/
theorem passed_form :
    passed values form.forwards = some ((actuals.filterMap Actual.arg?).map .arg) := by
  have args := args_complete completed
  cases form with
  | counted arity =>
    have pack : .all ∉
        (Overload.intended function takesId takesHandle (.counted arity)).params := by
      simp [Overload.intended, Form.params]
    have counts := length_args_complete pack completed
    rw [args, declares_args] at counts
    have whole := passed_args args 0 arity (by omega)
    rw [← List.range_eq_range', List.drop_zero,
      List.take_of_length_le (Nat.le_of_eq counts)] at whole
    exact whole
  | pack => simp [Form.forwards, passed, Forward.value, args]

end Pieces

/-- Every intended overload passes on what it is given. -/
theorem body_intended
    (completed :
      complete here (Overload.intended function takesId takesHandle form).params actuals =
        some values) :
    ∃ call, (Overload.intended function takesId takesHandle form).body here actuals = some call ∧
      PassesOn function here actuals call := by
  obtain ⟨level, passedLevel, isLevel⟩ := passed_level completed
  obtain ⟨format, passedFormat, isFormat⟩ := passed_format completed
  have leading := passed_append (passed_append passedLevel (passed_id completed))
    (passed_handle completed)
  have trailing := passed_append (passed_loc completed)
    (passed_append passedFormat (passed_form completed))
  have whole : passed values (Overload.intended function takesId takesHandle form).call = _ :=
    passed_append leading trailing
  refine ⟨⟨level, _, _, _, format, _⟩, ?_, isLevel, rfl, rfl, rfl, isFormat, rfl⟩
  rw [Overload.body, completed]
  simp only [Option.bind_eq_bind, Option.bind_some]
  rw [whole]
  exact rawTraceCall_eq _ _ _ _ _ _

end Intended

/-- The arguments of a call that leaves the location to its place. -/
def LogFunc.actuals (function : LogFunc) (level : Level) (handle? : Option ModuleHandle)
    (format : Text) (all : List Arg) : List (Actual Arg) :=
  (if function = .sendTrace then [.level level] else []) ++ handle?.toList.map .handle ++
    .format format :: all.map .arg

/-- Only `SendTrace` has no level of its own. -/
theorem LogFunc.level?_eq_none_iff {function : LogFunc} :
    function.level? = none ↔ function = .sendTrace := by
  cases function <;> decide

section Agree

variable {here : CustomSourceLocation} {function : LogFunc} {level : Level}
  {handle? : Option ModuleHandle} {format : Text} {all : List Arg}

/-- An argument of the right type goes to the next parameter. -/
theorem complete_cons_cons {param : Param} {params : List Param} {actual : Actual Arg}
    {actuals values : List (Actual Arg)} (notPack : param ≠ .all)
    (typed : param.type = actual.type) (further : complete here params actuals = some values) :
    complete here (param :: params) (actual :: actuals) = some (actual :: values) := by
  rw [complete.eq_5 _ _ _ _ _ notPack, if_pos typed, further, Option.map_some]

end Agree

end LoggerV2
