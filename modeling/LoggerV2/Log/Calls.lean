import LoggerV2.Log.Overloads

/-!
# Calls that compile

A call of a logging function compiles if its arguments, each in its role, fit a generated
overload. `takes_iff` says which calls those are, and that nothing a caller gives is lost.
-/

namespace LoggerV2

open Verification

variable {Arg : Type}

/-- The arguments fit the parameters. -/
def Fits (here : CustomSourceLocation) (params : List Param) (actuals : List (Actual Arg)) : Prop :=
  ∃ values, complete here params actuals = some values

/-- A generated overload of the function takes the arguments, and makes this call. -/
def Takes (logFuncMaxArgs : Nat) (here : CustomSourceLocation) (function : LogFunc)
    (actuals : List (Actual Arg)) (call : RawTraceCall Arg) : Prop :=
  ∃ overload ∈ generated logFuncMaxArgs,
    overload.name = some function ∧ overload.body here actuals = some call

/-- What a caller writes, apart from the location. -/
structure Written (Arg : Type) where
  level? : Option Level
  id? : Option UInt16
  handle? : Option ModuleHandle
  format : Text
  all : List Arg

namespace Written

variable (written : Written Arg)

/-- What stands before the location and the format. -/
def leading : List (Actual Arg) :=
  written.level?.toList.map .level ++ (written.id?.toList.map .id ++
    written.handle?.toList.map .handle)

/-- The location is left out or stands last. -/
def locLast (loc? : Option CustomSourceLocation) : List (Actual Arg) :=
  written.leading ++ (.format written.format :: (written.all.map .arg ++ loc?.toList.map .loc))

/-- The location stands before the format. -/
def locFirst (loc : CustomSourceLocation) : List (Actual Arg) :=
  written.leading ++ (.loc loc :: .format written.format :: written.all.map .arg)

end Written

section Fits

variable {here : CustomSourceLocation} {params : List Param} {actuals : List (Actual Arg)}
  {param : Param}

/-- A parameter without a default takes the next argument, if the types agree. -/
theorem fits_cons_iff (notPack : param ≠ .all) (notLast : param ≠ .locCurrent) :
    Fits here (param :: params) actuals ↔
      ∃ actual rest, actuals = actual :: rest ∧ param.type = actual.type ∧
        Fits here params rest := by
  constructor
  · rintro ⟨values, completed⟩
    rcases complete_cons completed with ⟨isPack, -⟩ | ⟨isLast, -⟩ |
      ⟨actual, rest, others, rfl, typed, further, -⟩
    · exact absurd isPack notPack
    · exact absurd isLast notLast
    · exact ⟨actual, rest, rfl, typed, others, further⟩
  · rintro ⟨actual, rest, rfl, typed, others, further⟩
    exact ⟨_, complete_cons_cons notPack typed further⟩

/-- The parameter is declared under a condition. -/
theorem fits_optional_iff {Value : Type} {make : Value → Actual Arg}
    (makes : ∀ actual : Actual Arg, param.type = actual.type ↔ ∃ value, actual = make value)
    (notPack : param ≠ .all) (notLast : param ≠ .locCurrent)
    (declared : Prop) [Decidable declared] :
    Fits here ((if declared then [param] else []) ++ params) actuals ↔
      ∃ (value? : Option Value) (rest : List (Actual Arg)), (value?.isSome ↔ declared) ∧
        actuals = value?.toList.map make ++ rest ∧ Fits here params rest := by
  by_cases isDeclared : declared
  · rw [if_pos isDeclared, List.singleton_append, fits_cons_iff notPack notLast]
    constructor
    · rintro ⟨actual, rest, rfl, typed, further⟩
      obtain ⟨value, rfl⟩ := (makes actual).mp typed
      exact ⟨some value, rest, iff_of_true rfl isDeclared, rfl, further⟩
    · rintro ⟨value?, rest, given, rfl, further⟩
      obtain ⟨value, rfl⟩ := Option.isSome_iff_exists.mp (given.mpr isDeclared)
      exact ⟨make value, rest, rfl, (makes _).mpr ⟨value, rfl⟩, further⟩
  · rw [if_neg isDeclared, List.nil_append]
    constructor
    · intro further
      exact ⟨none, actuals, iff_of_false Bool.false_ne_true isDeclared, rfl, further⟩
    · rintro ⟨value?, rest, given, rfl, further⟩
      cases value? with
      | none => exact further
      | some value => exact absurd (given.mp rfl) isDeclared

/-- The last parameter takes a location or nothing. -/
theorem fits_locCurrent_iff :
    Fits here [.locCurrent] actuals ↔
      ∃ loc? : Option CustomSourceLocation, actuals = loc?.toList.map .loc := by
  constructor
  · rintro ⟨values, completed⟩
    rcases complete_cons completed with ⟨isPack, -⟩ | ⟨-, -, rfl, -⟩ |
      ⟨actual, rest, others, rfl, typed, further, -⟩
    · cases isPack
    · exact ⟨none, rfl⟩
    · obtain ⟨rfl, -⟩ := complete_nil further
      cases actual <;> cases typed
      exact ⟨some _, rfl⟩
  · rintro ⟨_ | loc, rfl⟩
    · exact ⟨_, rfl⟩
    · exact ⟨_, rfl⟩

/-- Counted parameters take as many arguments, and a location or nothing. -/
theorem fits_args_iff (start arity : Nat) :
    Fits here ((List.range' start arity).map .arg ++ [.locCurrent]) actuals ↔
      ∃ (all : List Arg) (loc? : Option CustomSourceLocation), all.length = arity ∧
        actuals = all.map .arg ++ loc?.toList.map .loc := by
  induction arity generalizing start actuals with
  | zero =>
    rw [List.range'_zero, List.map_nil, List.nil_append, fits_locCurrent_iff]
    simp
  | succ arity ih =>
    rw [List.range'_succ, List.map_cons, List.cons_append, fits_cons_iff (by simp) (by simp)]
    constructor
    · rintro ⟨actual, rest, rfl, typed, further⟩
      obtain ⟨all, loc?, rfl, rfl⟩ := (ih _).mp further
      cases actual <;> cases typed
      exact ⟨_ :: all, loc?, rfl, rfl⟩
    · rintro ⟨_ | ⟨arg, all⟩, loc?, counted, rfl⟩
      · cases counted
      · exact ⟨.arg arg, _, rfl, rfl, (ih _).mpr ⟨all, loc?, Nat.succ.inj counted, rfl⟩⟩

/-- Arguments to be formatted, by their values. -/
theorem exists_args (args : ∀ actual ∈ actuals, actual.type = .arg) :
    ∃ all : List Arg, actuals = all.map .arg := by
  induction actuals with
  | nil => exact ⟨[], rfl⟩
  | cons actual rest ih =>
    obtain ⟨all, rfl⟩ := ih fun other member => args other (List.mem_cons_of_mem _ member)
    have isArg := args actual List.mem_cons_self
    cases actual <;> cases isArg
    exact ⟨_ :: all, rfl⟩

/-- How the arguments of the format and the location are given in a form. -/
theorem fits_form_iff (form : Form) :
    Fits here form.params actuals ↔
      ∃ (format : Text) (all : List Arg),
        (∃ loc? : Option CustomSourceLocation, form = .counted all.length ∧
          actuals = .format format :: (all.map .arg ++ loc?.toList.map .loc)) ∨
        ∃ loc : CustomSourceLocation, form = .pack ∧
          actuals = .loc loc :: .format format :: all.map .arg := by
  cases form with
  | counted arity =>
    rw [Form.params, List.cons_append, fits_cons_iff (by simp) (by simp), List.range_eq_range']
    constructor
    · rintro ⟨actual, rest, rfl, typed, further⟩
      obtain ⟨all, loc?, rfl, rfl⟩ := (fits_args_iff _ _).mp further
      cases actual <;> cases typed
      exact ⟨_, all, .inl ⟨loc?, rfl, rfl⟩⟩
    · rintro ⟨format, all, ⟨loc?, counted, rfl⟩ | ⟨loc, isPack, -⟩⟩
      · cases counted
        exact ⟨_, _, rfl, rfl, (fits_args_iff _ _).mpr ⟨all, loc?, rfl, rfl⟩⟩
      · cases isPack
  | pack =>
    rw [Form.params, fits_cons_iff (by simp) (by simp)]
    constructor
    · rintro ⟨loc, rest, rfl, isLoc, further⟩
      rw [fits_cons_iff (by simp) (by simp)] at further
      obtain ⟨format, args, rfl, isFormat, values, completed⟩ := further
      rw [complete] at completed
      split_ifs at completed with fits
      obtain ⟨all, rfl⟩ := exists_args fits.2
      cases loc <;> cases isLoc
      cases format <;> cases isFormat
      exact ⟨_, all, .inr ⟨_, rfl, rfl⟩⟩
    · rintro ⟨format, all, ⟨loc?, isCounted, -⟩ | ⟨loc, -, rfl⟩⟩
      · cases isCounted
      · refine ⟨_, _, rfl, rfl, (fits_cons_iff (by simp) (by simp)).mpr ⟨_, _, rfl, rfl, ?_⟩⟩
        refine ⟨all.map .arg, if_pos ⟨rfl, ?_⟩⟩
        simp [Actual.type]

/-- The arguments that fit the overload of a function in a form. -/
theorem fits_intended_iff {function : LogFunc} {takesId takesHandle : Bool} {form : Form} :
    Fits here (Overload.intended function takesId takesHandle form).params actuals ↔
      ∃ written : Written Arg, (written.level?.isSome ↔ function.level? = none) ∧
        (written.id?.isSome ↔ takesId = true) ∧ (written.handle?.isSome ↔ takesHandle = true) ∧
        ((∃ loc?, form = .counted written.all.length ∧ actuals = written.locLast loc?) ∨
          ∃ loc, form = .pack ∧ actuals = written.locFirst loc) := by
  have level : ∀ actual : Actual Arg, Param.level.type = actual.type ↔
      ∃ value, actual = .level value := by
    intro actual
    cases actual <;> simp [Param.type, Actual.type]
  have id : ∀ actual : Actual Arg, Param.id.type = actual.type ↔
      ∃ value, actual = .id value := by
    intro actual
    cases actual <;> simp [Param.type, Actual.type]
  have handle : ∀ actual : Actual Arg, Param.handle.type = actual.type ↔
      ∃ value, actual = .handle value := by
    intro actual
    cases actual <;> simp [Param.type, Actual.type]
  simp only [Overload.intended, List.append_assoc]
  rw [fits_optional_iff level (by simp) (by simp)]
  simp only [fits_optional_iff id (by simp) (by simp), fits_optional_iff handle (by simp) (by simp),
    fits_form_iff]
  constructor
  · rintro ⟨level?, _, takesLevel, rfl, id?, _, isId, rfl, handle?, _, isHandle, rfl, format, all,
      ⟨loc?, counted, rfl⟩ | ⟨loc, isPack, rfl⟩⟩
    · refine ⟨⟨level?, id?, handle?, format, all⟩, takesLevel, isId, isHandle,
        .inl ⟨loc?, counted, ?_⟩⟩
      simp [Written.locLast, Written.leading]
    · refine ⟨⟨level?, id?, handle?, format, all⟩, takesLevel, isId, isHandle,
        .inr ⟨loc, isPack, ?_⟩⟩
      simp [Written.locFirst, Written.leading]
  · rintro ⟨⟨level?, id?, handle?, format, all⟩, takesLevel, isId, isHandle,
      ⟨loc?, counted, rfl⟩ | ⟨loc, isPack, rfl⟩⟩
    · refine ⟨level?, _, takesLevel, ?_, id?, _, isId, rfl, handle?, _, isHandle, rfl, format, all,
        .inl ⟨loc?, counted, rfl⟩⟩
      simp [Written.locLast, Written.leading]
    · refine ⟨level?, _, takesLevel, ?_, id?, _, isId, rfl, handle?, _, isHandle, rfl, format, all,
        .inr ⟨loc, isPack, rfl⟩⟩
      simp [Written.locFirst, Written.leading]

end Fits

section Takes

variable {logFuncMaxArgs : Nat} {here : CustomSourceLocation} {function : LogFunc}
  {actuals : List (Actual Arg)} {call other : RawTraceCall Arg}

/-- What is passed on is determined by the arguments. -/
theorem PassesOn.unique (one : PassesOn function here actuals call)
    (two : PassesOn function here actuals other) : call = other := by
  obtain ⟨level, id, handle, loc, format, all⟩ := call
  obtain ⟨otherLevel, otherId, otherHandle, otherLoc, otherFormat, otherAll⟩ := other
  obtain rfl := Option.some.inj (one.level.symm.trans two.level)
  obtain rfl := Option.some.inj (one.format.symm.trans two.format)
  obtain rfl := one.id.trans two.id.symm
  obtain rfl := one.handle.trans two.handle.symm
  obtain rfl := one.loc.trans two.loc.symm
  obtain rfl := one.all.trans two.all.symm
  rfl

/-- A call is taken exactly if it fits an intended overload, and is passed on. -/
theorem takes_iff_fits :
    Takes logFuncMaxArgs here function actuals call ↔
      PassesOn function here actuals call ∧ ∃ takesId takesHandle form,
        (∀ arity, form = .counted arity → arity ≤ logFuncMaxArgs + 1) ∧
          Fits here (Overload.intended function takesId takesHandle form).params actuals := by
  constructor
  · rintro ⟨overload, isGenerated, named, body⟩
    obtain ⟨same, takesId, takesHandle, form, fits, rfl⟩ := mem_generated_iff.mp isGenerated
    obtain rfl := Option.some.inj named
    obtain ⟨values, completed, -⟩ := Option.bind_eq_some_iff.mp body
    obtain ⟨again, sameBody, passesOn⟩ := body_intended completed
    obtain rfl := Option.some.inj (body.symm.trans sameBody)
    exact ⟨passesOn, takesId, takesHandle, form, fits, values, completed⟩
  · rintro ⟨passesOn, takesId, takesHandle, form, fits, values, completed⟩
    obtain ⟨again, body, same⟩ := body_intended completed
    obtain rfl := passesOn.unique same
    exact ⟨_, mem_generated_iff.mpr ⟨function, takesId, takesHandle, form, fits, rfl⟩, rfl, body⟩

/-- A call compiles if the level is given to `SendTrace` and to no other function, and there
are few enough arguments or the location stands first. Whichever overload takes the call, it
passes on what it is given. -/
theorem takes_iff :
    Takes logFuncMaxArgs here function actuals call ↔
      PassesOn function here actuals call ∧ ∃ written : Written Arg,
        (written.level?.isSome ↔ function = .sendTrace) ∧
        ((∃ loc?, written.all.length ≤ logFuncMaxArgs + 1 ∧ actuals = written.locLast loc?) ∨
          ∃ loc, actuals = written.locFirst loc) := by
  rw [takes_iff_fits]
  refine and_congr_right fun _ => ?_
  simp only [fits_intended_iff, LogFunc.level?_eq_none_iff]
  constructor
  · rintro ⟨takesId, takesHandle, form, fits, written, takesLevel, -, -,
      ⟨loc?, rfl, isLast⟩ | ⟨loc, rfl, isFirst⟩⟩
    · exact ⟨written, takesLevel, .inl ⟨loc?, fits _ rfl, isLast⟩⟩
    · exact ⟨written, takesLevel, .inr ⟨loc, isFirst⟩⟩
  · rintro ⟨written, takesLevel, ⟨loc?, few, isLast⟩ | ⟨loc, isFirst⟩⟩
    · refine ⟨written.id?.isSome, written.handle?.isSome, .counted written.all.length, ?_, written,
        takesLevel, Iff.rfl, Iff.rfl, .inl ⟨loc?, rfl, isLast⟩⟩
      rintro arity ⟨⟩
      exact few
    · refine ⟨written.id?.isSome, written.handle?.isSome, .pack, ?_, written, takesLevel, Iff.rfl,
        Iff.rfl, .inr ⟨loc, rfl, isFirst⟩⟩
      rintro arity ⟨⟩

/-- As many arguments of the format fit as are counted. -/
theorem length_args_of_fits {takesId takesHandle : Bool} {arity : Nat}
    (fits : Fits here (Overload.intended function takesId takesHandle (.counted arity)).params
      actuals) :
    (actuals.filterMap Actual.arg?).length = arity := by
  obtain ⟨values, completed⟩ := fits
  have pack : .all ∉ (Overload.intended function takesId takesHandle (.counted arity)).params := by
    simp [Overload.intended, Form.params]
  rw [← args_complete completed, length_args_complete pack completed, declares_args]

/-- A call with nothing but the format and its arguments has the defaults of the rest. -/
theorem passesOn_format_iff {format : Text} {all : List Arg} :
    PassesOn function here (.format format :: all.map .arg) call ↔
      ∃ level, function.level? = some level ∧ call = ⟨level, 0, noModule, here, format, all⟩ := by
  let actuals : List (Actual Arg) := .format format :: all.map .arg
  have absent : ∀ {Value : Type} (pick : Actual Arg → Option Value),
      (∀ arg, pick (.arg arg) = none) → (all.map Actual.arg).findSome? pick = none := by
    intro Value pick passedOver
    simp [passedOver]
  have level : actuals.findSome? Actual.level? = none := absent _ fun _ => rfl
  have id : actuals.findSome? Actual.id? = none := absent _ fun _ => rfl
  have handle : actuals.findSome? Actual.handle? = none := absent _ fun _ => rfl
  have loc : actuals.findSome? Actual.loc? = none := absent _ fun _ => rfl
  have args : actuals.filterMap Actual.arg? = all := filterMap_arg all
  have passes : ∀ own, function.level? = some own →
      PassesOn function here actuals ⟨own, 0, noModule, here, format, all⟩ := by
    intro own isOwn
    refine ⟨?_, ?_, ?_, ?_, rfl, args.symm⟩
    · rw [level, Option.none_or, isOwn]
    · rw [id, Option.getD_none]
    · rw [handle, Option.getD_none]
    · rw [loc, Option.getD_none]
  constructor
  · intro given
    have own := given.level
    rw [level, Option.none_or] at own
    exact ⟨call.level, own, given.unique (passes _ own)⟩
  · rintro ⟨own, isOwn, rfl⟩
    exact passes own isOwn

/-- A call with nothing but the format and its arguments. -/
theorem takes_format_iff {format : Text} {all : List Arg} :
    Takes logFuncMaxArgs here function (.format format :: all.map .arg) call ↔
      all.length ≤ logFuncMaxArgs + 1 ∧ ∃ level, function.level? = some level ∧
        call = ⟨level, 0, noModule, here, format, all⟩ := by
  rw [takes_iff_fits, passesOn_format_iff, and_comm]
  refine and_congr_left fun ⟨level, hasLevel, _⟩ => ⟨?_, fun few => ?_⟩
  · rintro ⟨takesId, takesHandle, form, bound, fits⟩
    cases form with
    | counted arity =>
      have args := length_args_of_fits fits
      rw [List.filterMap_cons_none rfl, filterMap_arg] at args
      exact args ▸ bound arity rfl
    | pack =>
      obtain ⟨written, -, -, -, ⟨loc?, isCounted, -⟩ | ⟨loc, -, same⟩⟩ := fits_intended_iff.mp fits
      · cases isCounted
      · have member : Actual.loc loc ∈ written.locFirst loc := by simp [Written.locFirst]
        rw [← same] at member
        simp at member
  · refine ⟨false, false, .counted all.length, ?_, fits_intended_iff.mpr
      ⟨⟨none, none, none, format, all⟩, ?_, ?_, ?_, .inl ⟨none, rfl, ?_⟩⟩⟩
    · rintro arity ⟨⟩
      exact few
    · simp [hasLevel]
    · exact Iff.rfl
    · exact Iff.rfl
    · simp [Written.locLast, Written.leading]

end Takes

end LoggerV2
