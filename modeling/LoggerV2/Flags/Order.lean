import Mathlib.Data.List.Perm.Basic
import Mathlib.Data.List.Nodup
import LoggerV2.Flags.Assign

/-!
# The order of flags on a command line

Parsers read the sink, the pool size and the packet size from the half-built store, so
the position of `--log_sink` and `--log_pool_size` among the arguments can decide
whether another argument is accepted. `perm_invariant_iff` says exactly for which
command lines it does not.
-/

namespace LoggerV2.Flags

open Verification

/-- The sinks that are current at some time while the arguments are processed in some
order: the default and the assigned one. -/
def sinksInEffect (assignments : List Assignment) : List LogSink :=
  kLogSinkDefault :: (assignments.filter (·.flag = .logSink)).filterMap
    fun assignment => (LogSink.abslParseFlag assignment.text).toOption

/-- The pool sizes that are current at some time: the default and the assigned one. -/
def poolsInEffect (absl : Absl) (assignments : List Assignment) : List LogPoolSize :=
  kLogPoolSizeDefault :: (assignments.filter (·.flag = .logPoolSize)).filterMap
    fun assignment => (LogPoolSize.abslParseFlag absl assignment.text).toOption

/-- The defaults, but for the sink and the pool size. -/
def storeUnder (sink : LogSink) (pool : LogPoolSize) : Store :=
  (Store.default.set .logSink sink).set .logPoolSize pool

/-- The text can be read as a value that passes its flag's checks under the given sink
and pool size. -/
def AcceptedUnder (absl : Absl) (sink : LogSink) (pool : LogPoolSize)
    (assignment : Assignment) : Prop :=
  match decode absl assignment.flag assignment.text with
  | .ok value => Accepts (storeUnder sink pool) assignment.flag value
  | .error _ => False

instance (absl : Absl) (sink : LogSink) (pool : LogPoolSize) (assignment : Assignment) :
    Decidable (AcceptedUnder absl sink pool assignment) :=
  match result : decode absl assignment.flag assignment.text with
  | .ok value =>
    decidable_of_iff (Accepts (storeUnder sink pool) assignment.flag value)
      (by simp [AcceptedUnder, result])
  | .error _ => isFalse (by simp [AcceptedUnder, result])

/-- Some argument is refused under every sink and pool size that can be current, or
every argument is accepted under all of them. -/
def OrderNeutral (absl : Absl) (assignments : List Assignment) : Prop :=
  (∃ assignment ∈ assignments, ∀ sink ∈ sinksInEffect assignments,
      ∀ pool ∈ poolsInEffect absl assignments, ¬ AcceptedUnder absl sink pool assignment) ∨
    ∀ assignment ∈ assignments, ∀ sink ∈ sinksInEffect assignments,
      ∀ pool ∈ poolsInEffect absl assignments, AcceptedUnder absl sink pool assignment

/-- The parts of a store that parsers consult. -/
structure Consults (sink : LogSink) (pool : LogPoolSize) (store : Store) : Prop where
  sink : store .logSink = sink
  pool : store .logPoolSize = pool
  packet : store .logPacketSize = kLogPacketSizeDefault

variable {absl : Absl} {sink : LogSink} {pool : LogPoolSize} {store next : Store}

/-- Before any argument, parsers consult the defaults. -/
theorem consults_default : Consults kLogSinkDefault kLogPoolSizeDefault Store.default :=
  ⟨rfl, rfl, rfl⟩

/-- The checks see a store only through what parsers consult. -/
theorem Consults.accepts_iff (consults : Consults sink pool store) {flag : FlagName}
    {value : flag.Value} :
    Accepts store flag value ↔ Accepts (storeUnder sink pool) flag value := by
  have bound : LogWindow.bound store = LogWindow.bound (storeUnder sink pool) := by
    rw [LogWindow.bound, LogWindow.bound, consults.pool, consults.packet]
    rfl
  have sinks : store .logSink = storeUnder sink pool .logSink := consults.sink
  have ranges : InRange store flag value ↔ InRange (storeUnder sink pool) flag value := by
    cases flag <;> simp only [InRange, bound]
  simp only [Accepts, SinkPermits, sinks, ranges]

/-- Only the sink-restricted flags consult the sink. -/
theorem acceptedUnder_sink_irrel {assignment : Assignment} {sink other : LogSink}
    {pool otherPool : LogPoolSize}
    (switch : assignment.flag = .logSink ∨ assignment.flag = .logPoolSize)
    (accepted : AcceptedUnder absl sink pool assignment) :
    AcceptedUnder absl other otherPool assignment := by
  obtain ⟨flag, text⟩ := assignment
  rcases switch with rfl | rfl <;>
    simpa [AcceptedUnder, Accepts, SinkPermits, permittedSinks, InRange] using accepted

/-- Only the window consults the pool size. -/
theorem acceptedUnder_pool_irrel {assignment : Assignment} {otherPool : LogPoolSize}
    (notWindow : assignment.flag ≠ .logWindow)
    (accepted : AcceptedUnder absl sink pool assignment) :
    AcceptedUnder absl sink otherPool assignment := by
  obtain ⟨flag, text⟩ := assignment
  have sinks : storeUnder sink pool .logSink = storeUnder sink otherPool .logSink := rfl
  cases flag
  case logWindow => exact absurd rfl notWindow
  all_goals simpa [AcceptedUnder, Accepts, SinkPermits, InRange, sinks] using accepted

/-- An assignment is committed exactly when it is accepted under what is consulted. -/
theorem Consults.assign?_isSome_iff (consults : Consults sink pool store)
    {assignment : Assignment} :
    (store.assign? absl assignment).isSome ↔ AcceptedUnder absl sink pool assignment := by
  rw [Option.isSome_iff_exists, AcceptedUnder]
  simp only [assign?_eq_some_iff, consults.accepts_iff]
  cases decode absl assignment.flag assignment.text with
  | ok value =>
    constructor
    · rintro ⟨_, other, ⟨⟩, accepted, -⟩
      exact accepted
    · intro accepted
      exact ⟨_, value, rfl, accepted, rfl⟩
  | error message =>
    constructor
    · rintro ⟨_, _, ⟨⟩, -⟩
    · exact False.elim

/-- Committing a flag other than the sink and the pool size keeps what is consulted. -/
theorem Consults.of_assign? (consults : Consults sink pool store) {assignment : Assignment}
    (committed : store.assign? absl assignment = some next)
    (notSink : assignment.flag ≠ .logSink) (notPool : assignment.flag ≠ .logPoolSize) :
    Consults sink pool next := by
  obtain ⟨flag, text⟩ := assignment
  obtain ⟨value, -, accepted, rfl⟩ := assign?_eq_some_iff.mp committed
  refine ⟨?_, ?_, ?_⟩
  · rw [Store.set_other _ _ (Ne.symm notSink), consults.sink]
  · rw [Store.set_other _ _ (Ne.symm notPool), consults.pool]
  · by_cases packet : flag = .logPacketSize
    · subst packet
      exact (Store.set_self _ _ _).trans (accepted.eq_default (.inr rfl))
    · rw [Store.set_other _ _ (Ne.symm packet), consults.packet]

/-- Committing the sink changes the sink that is consulted. -/
theorem Consults.of_sink (consults : Consults sink pool store) {text : Text} {assigned : LogSink}
    (parsed : LogSink.abslParseFlag text = .ok assigned) :
    ∃ next, store.assign? absl ⟨.logSink, text⟩ = some next ∧ Consults assigned pool next :=
  ⟨store.set .logSink assigned,
    assign?_eq_some_iff.mpr ⟨assigned, parsed,
      .inr ⟨sinkPermits_of_unrestricted rfl, trivial⟩, rfl⟩,
    rfl, consults.pool, consults.packet⟩

/-- Committing the pool size changes the pool size that is consulted. -/
theorem Consults.of_pool (consults : Consults sink pool store) {text : Text}
    {assigned : LogPoolSize} (parsed : LogPoolSize.abslParseFlag absl text = .ok assigned) :
    ∃ next, store.assign? absl ⟨.logPoolSize, text⟩ = some next ∧ Consults sink assigned next := by
  obtain ⟨decoded, accepted⟩ :=
    (@abslParseFlag_eq_ok_iff absl store text .logPoolSize assigned).mp parsed
  exact ⟨store.set .logPoolSize assigned,
    assign?_eq_some_iff.mpr ⟨assigned, decoded, accepted, rfl⟩,
    consults.sink, rfl, consults.packet⟩

/-- Arguments are processed one after the other. -/
theorem processArguments_append (store : Store) (first second : List Assignment) :
    store.processArguments absl (first ++ second) =
      (store.processArguments absl first).bind (·.processArguments absl second) := by
  induction first generalizing store with
  | nil => rfl
  | cons assignment rest ih =>
    simp only [List.cons_append, Store.processArguments]
    cases store.assign? absl assignment with
    | none => rfl
    | some next => simpa using ih next

/-- What an accepted assignment does to a store, whatever the store is. -/
def commit (absl : Absl) (store : Store) (assignment : Assignment) : Store :=
  match decode absl assignment.flag assignment.text with
  | .ok value => store.set assignment.flag value
  | .error _ => store

/-- Arguments for different flags can be committed in either order. -/
theorem commit_comm (store : Store) {first second : Assignment}
    (different : first.flag ≠ second.flag) :
    commit absl (commit absl store first) second =
      commit absl (commit absl store second) first := by
  simp only [commit]
  cases decode absl first.flag first.text <;> cases decode absl second.flag second.text
  case ok.ok => exact Store.set_comm store different _ _
  all_goals rfl

/-- A command line that succeeds commits every argument. -/
theorem processArguments_eq_commit {assignments : List Assignment}
    (success : store.processArguments absl assignments = some next) :
    assignments.foldl (commit absl) store = next := by
  induction assignments generalizing store with
  | nil => exact Option.some.inj success
  | cons assignment rest ih =>
    obtain ⟨middle, committed, success⟩ := Option.bind_eq_some_iff.mp success
    obtain ⟨value, decoded, -, rfl⟩ := assign?_eq_some_iff.mp committed
    have same : commit absl store assignment = store.set assignment.flag value := by
      simp only [commit, decoded]
    rw [List.foldl_cons, same]
    exact ih success

/-- Two orders of one command line that both succeed end in the same store. -/
theorem processArguments_perm {assignments other : List Assignment}
    (distinct : (assignments.map Assignment.flag).Nodup) (reordered : other.Perm assignments)
    {first second : Store} (one : store.processArguments absl assignments = some first)
    (two : store.processArguments absl other = some second) : first = second := by
  rw [← processArguments_eq_commit one, ← processArguments_eq_commit two]
  refine reordered.symm.foldl_eq' (fun left leftMember right rightMember state => ?_) store
  by_cases same : left.flag = right.flag
  · rw [List.inj_on_of_nodup_map distinct leftMember rightMember same]
  · exact commit_comm state same

/-- The store consults a sink and a pool size that can be current. -/
def InEffect (absl : Absl) (assignments : List Assignment) (store : Store) : Prop :=
  ∃ sink ∈ sinksInEffect assignments, ∃ pool ∈ poolsInEffect absl assignments,
    Consults sink pool store

/-- The defaults are in effect. -/
theorem inEffect_default {assignments : List Assignment} :
    InEffect absl assignments Store.default :=
  ⟨_, List.mem_cons_self, _, List.mem_cons_self, consults_default⟩

/-- Each argument keeps the consulted sink and pool size among those in effect. -/
theorem InEffect.of_assign? {assignments : List Assignment} {assignment : Assignment}
    (inEffect : InEffect absl assignments store) (member : assignment ∈ assignments)
    (committed : store.assign? absl assignment = some next) : InEffect absl assignments next := by
  obtain ⟨sink, sinkMember, pool, poolMember, consults⟩ := inEffect
  by_cases isSink : assignment.flag = .logSink
  · obtain ⟨flag, text⟩ := assignment
    obtain rfl : flag = .logSink := isSink
    obtain ⟨assigned, parsed, -, rfl⟩ := assign?_eq_some_iff.mp committed
    refine ⟨assigned, List.mem_cons_of_mem _ ?_, pool, poolMember, rfl, consults.pool,
      consults.packet⟩
    refine List.mem_filterMap.mpr ⟨_, List.mem_filter.mpr ⟨member, by simp⟩, ?_⟩
    change (LogSink.abslParseFlag text).toOption = some assigned
    rw [show LogSink.abslParseFlag text = .ok assigned from parsed]
    rfl
  · by_cases isPool : assignment.flag = .logPoolSize
    · obtain ⟨flag, text⟩ := assignment
      obtain rfl : flag = .logPoolSize := isPool
      obtain ⟨assigned, decoded, accepted, rfl⟩ := assign?_eq_some_iff.mp committed
      have parsed : LogPoolSize.abslParseFlag absl text = .ok assigned :=
        (@abslParseFlag_eq_ok_iff absl store text .logPoolSize assigned).mpr ⟨decoded, accepted⟩
      refine ⟨sink, sinkMember, assigned, List.mem_cons_of_mem _ ?_, consults.sink, rfl,
        consults.packet⟩
      refine List.mem_filterMap.mpr ⟨_, List.mem_filter.mpr ⟨member, by simp⟩, ?_⟩
      change (LogPoolSize.abslParseFlag absl text).toOption = some assigned
      rw [parsed]
      rfl
    · exact ⟨sink, sinkMember, pool, poolMember, consults.of_assign? committed isSink isPool⟩

/-- Arguments that are accepted under everything in effect are processed in any order. -/
theorem processArguments_isSome {assignments arguments : List Assignment}
    (accepted : ∀ assignment ∈ assignments, ∀ sink ∈ sinksInEffect assignments,
      ∀ pool ∈ poolsInEffect absl assignments, AcceptedUnder absl sink pool assignment)
    (members : ∀ assignment ∈ arguments, assignment ∈ assignments)
    (inEffect : InEffect absl assignments store) :
    (store.processArguments absl arguments).isSome := by
  induction arguments generalizing store with
  | nil => rfl
  | cons assignment rest ih =>
    have member := members assignment List.mem_cons_self
    obtain ⟨sink, sinkMember, pool, poolMember, consults⟩ := id inEffect
    obtain ⟨next, committed⟩ := Option.isSome_iff_exists.mp
      (consults.assign?_isSome_iff.mpr (accepted assignment member sink sinkMember pool poolMember))
    rw [Store.processArguments, committed]
    exact ih (fun other rest => members other (List.mem_cons_of_mem _ rest))
      (inEffect.of_assign? member committed)

/-- An argument that is refused under everything in effect fails every order. -/
theorem processArguments_eq_none {assignments arguments : List Assignment}
    {refused : Assignment} (member : refused ∈ arguments)
    (never : ∀ sink ∈ sinksInEffect assignments, ∀ pool ∈ poolsInEffect absl assignments,
      ¬ AcceptedUnder absl sink pool refused)
    (members : ∀ assignment ∈ arguments, assignment ∈ assignments)
    (inEffect : InEffect absl assignments store) :
    store.processArguments absl arguments = none := by
  induction arguments generalizing store with
  | nil => cases member
  | cons assignment rest ih =>
    rw [Store.processArguments, Option.bind_eq_none_iff]
    intro next committed
    rcases List.mem_cons.mp member with rfl | later
    · obtain ⟨sink, sinkMember, pool, poolMember, consults⟩ := inEffect
      have accepted := consults.assign?_isSome_iff.mp (Option.isSome_of_eq_some committed)
      exact absurd accepted (never sink sinkMember pool poolMember)
    · exact ih later (fun other rest => members other (List.mem_cons_of_mem _ rest))
        (inEffect.of_assign? (members assignment List.mem_cons_self) committed)

/-- Processing the arguments succeeds wherever the first sink and pool size are
consulted, and changes what is consulted to the second. -/
def Leads (absl : Absl) (arguments : List Assignment) (sink : LogSink) (pool : LogPoolSize)
    (sink' : LogSink) (pool' : LogPoolSize) : Prop :=
  ∀ store, Consults sink pool store → ∃ next,
    store.processArguments absl arguments = some next ∧ Consults sink' pool' next

variable {first second : List Assignment} {sink' sink'' : LogSink} {pool' pool'' : LogPoolSize}

/-- No arguments change nothing. -/
theorem Leads.nil : Leads absl [] sink pool sink pool :=
  fun store consults => ⟨store, rfl, consults⟩

/-- Stages are passed one after the other. -/
theorem Leads.append (one : Leads absl first sink pool sink' pool')
    (two : Leads absl second sink' pool' sink'' pool'') :
    Leads absl (first ++ second) sink pool sink'' pool'' := by
  intro store consults
  obtain ⟨middle, processed, consults⟩ := one store consults
  obtain ⟨next, rest, consults⟩ := two middle consults
  refine ⟨next, ?_, consults⟩
  rw [processArguments_append, processed, Option.bind_some, rest]

/-- The assignment is of neither the sink nor the pool size. -/
def Steady (assignment : Assignment) : Prop :=
  assignment.flag ≠ .logSink ∧ assignment.flag ≠ .logPoolSize

/-- Accepted arguments other than the sink and the pool size change nothing consulted. -/
theorem Leads.of_accepted {arguments : List Assignment}
    (steady : ∀ assignment ∈ arguments, Steady assignment)
    (accepted : ∀ assignment ∈ arguments, AcceptedUnder absl sink pool assignment) :
    Leads absl arguments sink pool sink pool := by
  induction arguments with
  | nil => exact .nil
  | cons assignment rest ih =>
    rw [List.forall_mem_cons] at steady accepted
    intro store consults
    obtain ⟨next, committed⟩ := Option.isSome_iff_exists.mp
      (consults.assign?_isSome_iff.mpr accepted.1)
    obtain ⟨last, processed, kept⟩ := ih steady.2 accepted.2 next
      (consults.of_assign? committed steady.1.1 steady.1.2)
    refine ⟨last, ?_, kept⟩
    rw [Store.processArguments, committed, Option.bind_some, processed]

/-- Arguments with pairwise distinct flags hold at most one of each flag. -/
theorem filter_flag_eq {assignments : List Assignment}
    (distinct : (assignments.map Assignment.flag).Nodup) (flag : FlagName) :
    assignments.filter (·.flag = flag) = [] ∨
      ∃ text, assignments.filter (·.flag = flag) = [⟨flag, text⟩] := by
  induction assignments with
  | nil => exact .inl rfl
  | cons assignment rest ih =>
    rw [List.map_cons, List.nodup_cons] at distinct
    by_cases here : assignment.flag = flag
    · have others : rest.filter (·.flag = flag) = [] := by
        refine List.filter_eq_nil_iff.mpr fun other member same => distinct.1 ?_
        rw [here]
        exact List.mem_map.mpr ⟨other, member, of_decide_eq_true same⟩
      refine .inr ⟨assignment.text, ?_⟩
      rw [List.filter_cons_of_pos (by simpa using here), others, ← here]
    · rw [List.filter_cons_of_neg (by simpa using here)]
      exact ih distinct.2

/-- The sink's own argument, if it can be read, leads from the default sink to the one
other sink that can be current. -/
theorem exists_sink_switch {assignments : List Assignment}
    (distinct : (assignments.map Assignment.flag).Nodup)
    (readable : ∀ assignment ∈ assignments, ∃ sink pool, AcceptedUnder absl sink pool assignment) :
    ∃ assigned, (∀ sink ∈ sinksInEffect assignments, sink = kLogSinkDefault ∨ sink = assigned) ∧
      assigned ∈ sinksInEffect assignments ∧
      ∀ pool, Leads absl (assignments.filter (·.flag = .logSink)) kLogSinkDefault pool
        assigned pool := by
  rcases filter_flag_eq distinct .logSink with absent | ⟨text, one⟩
  · rw [sinksInEffect, absent]
    exact ⟨kLogSinkDefault, by simp, by simp, fun _ => .nil⟩
  · have member : (⟨.logSink, text⟩ : Assignment) ∈ assignments :=
      List.mem_of_mem_filter (one ▸ List.mem_singleton_self _)
    obtain ⟨sink, pool, accepted⟩ := readable _ member
    obtain ⟨assigned, parsed⟩ : ∃ assigned, LogSink.abslParseFlag text = .ok assigned := by
      rw [AcceptedUnder] at accepted
      split at accepted
      · exact ⟨_, ‹_›⟩
      · exact accepted.elim
    refine ⟨assigned, ?_, ?_, ?_⟩
    · simp [sinksInEffect, one, parsed, Except.toOption]
    · simp [sinksInEffect, one, parsed, Except.toOption]
    · intro pool store consults
      obtain ⟨next, committed, consults⟩ := @Consults.of_sink absl _ _ _ consults _ _ parsed
      exact ⟨next, by rw [one, Store.processArguments, committed]; rfl, consults⟩

/-- The same for the pool size. -/
theorem exists_pool_switch {assignments : List Assignment}
    (distinct : (assignments.map Assignment.flag).Nodup)
    (readable : ∀ assignment ∈ assignments, ∃ sink pool, AcceptedUnder absl sink pool assignment) :
    ∃ assigned, (∀ pool ∈ poolsInEffect absl assignments,
        pool = kLogPoolSizeDefault ∨ pool = assigned) ∧
      assigned ∈ poolsInEffect absl assignments ∧
      ∀ sink, Leads absl (assignments.filter (·.flag = .logPoolSize)) sink kLogPoolSizeDefault
        sink assigned := by
  rcases filter_flag_eq distinct .logPoolSize with absent | ⟨text, one⟩
  · rw [poolsInEffect, absent]
    exact ⟨kLogPoolSizeDefault, by simp, by simp, fun _ => .nil⟩
  · have member : (⟨.logPoolSize, text⟩ : Assignment) ∈ assignments :=
      List.mem_of_mem_filter (one ▸ List.mem_singleton_self _)
    obtain ⟨sink, pool, accepted⟩ := readable _ member
    obtain ⟨assigned, parsed⟩ :
        ∃ assigned, LogPoolSize.abslParseFlag absl text = .ok assigned := by
      rw [AcceptedUnder] at accepted
      split at accepted
      case h_1 value decoded =>
        exact ⟨value, (@abslParseFlag_eq_ok_iff absl (storeUnder sink pool) text .logPoolSize
          value).mpr ⟨decoded, accepted⟩⟩
      case h_2 => exact accepted.elim
    refine ⟨assigned, ?_, ?_, ?_⟩
    · simp [poolsInEffect, one, parsed, Except.toOption]
    · simp [poolsInEffect, one, parsed, Except.toOption]
    · intro sink store consults
      obtain ⟨next, committed, consults⟩ := consults.of_pool parsed
      exact ⟨next, by rw [one, Store.processArguments, committed]; rfl, consults⟩

/-- A list whose members each meet one of three conditions can be reordered so that
they meet the first, then the second, then the third. -/
theorem exists_stages {early middle late : Assignment → Prop} {arguments : List Assignment}
    (staged : ∀ assignment ∈ arguments, early assignment ∨ middle assignment ∨ late assignment) :
    ∃ one two three : List Assignment, (one ++ two ++ three).Perm arguments ∧
      (∀ assignment ∈ one, early assignment) ∧ (∀ assignment ∈ two, middle assignment) ∧
      ∀ assignment ∈ three, late assignment := by
  induction arguments with
  | nil => exact ⟨[], [], [], .refl _, by simp, by simp, by simp⟩
  | cons assignment rest ih =>
    rw [List.forall_mem_cons] at staged
    obtain ⟨one, two, three, reordered, isEarly, isMiddle, isLate⟩ := ih staged.2
    rcases staged.1 with here | here | here
    · exact ⟨assignment :: one, two, three, reordered.cons _,
        List.forall_mem_cons.mpr ⟨here, isEarly⟩, isMiddle, isLate⟩
    · refine ⟨one, assignment :: two, three, ?_, isEarly,
        List.forall_mem_cons.mpr ⟨here, isMiddle⟩, isLate⟩
      rw [List.append_assoc, List.cons_append]
      exact List.perm_middle.trans ((List.append_assoc one two three ▸ reordered).cons _)
    · exact ⟨one, two, assignment :: three, List.perm_middle.trans (reordered.cons _), isEarly,
        isMiddle, List.forall_mem_cons.mpr ⟨here, isLate⟩⟩

/-- The arguments other than the sink and the pool size. -/
def steadyArguments (assignments : List Assignment) : List Assignment :=
  (assignments.filter (·.flag ≠ .logSink)).filter (·.flag ≠ .logPoolSize)

/-- The steady arguments are those for other flags than the sink and the pool size. -/
theorem mem_steadyArguments {assignments : List Assignment} {assignment : Assignment} :
    assignment ∈ steadyArguments assignments ↔ assignment ∈ assignments ∧ Steady assignment := by
  simp only [steadyArguments, Steady, List.mem_filter, decide_eq_true_eq, and_assoc]

/-- The sink's argument, the pool's and the steady ones are all arguments. -/
theorem switches_perm (assignments : List Assignment) :
    (assignments.filter (·.flag = .logSink) ++
      (assignments.filter (·.flag = .logPoolSize) ++ steadyArguments assignments)).Perm
        assignments := by
  have pools : assignments.filter (·.flag = .logPoolSize) =
      (assignments.filter (·.flag ≠ .logSink)).filter (·.flag = .logPoolSize) := by
    rw [List.filter_filter]
    refine List.filter_congr fun assignment _ => ?_
    by_cases pool : assignment.flag = .logPoolSize <;> simp [pool]
  have rest : (assignments.filter (·.flag = .logPoolSize) ++ steadyArguments assignments).Perm
      (assignments.filter (·.flag ≠ .logSink)) := by
    rw [pools, steadyArguments]
    simpa using List.filter_append_perm (·.flag = .logPoolSize)
      (assignments.filter (·.flag ≠ .logSink))
  refine (rest.append_left _).trans ?_
  simpa using List.filter_append_perm (·.flag = .logSink) assignments

/-- Two switches, one after the other, leave three places for a steady argument. -/
theorem exists_order_of_switches {assignments first second : List Assignment}
    (one : Leads absl first sink pool sink' pool')
    (two : Leads absl second sink' pool' sink'' pool'')
    (whole : (first ++ (second ++ steadyArguments assignments)).Perm assignments)
    (staged : ∀ assignment ∈ steadyArguments assignments,
      AcceptedUnder absl sink pool assignment ∨ AcceptedUnder absl sink' pool' assignment ∨
        AcceptedUnder absl sink'' pool'' assignment) :
    ∃ order : List Assignment, order.Perm assignments ∧
      Leads absl order sink pool sink'' pool'' := by
  obtain ⟨early, middle, late, reordered, isEarly, isMiddle, isLate⟩ := exists_stages staged
  have steady : ∀ assignment ∈ early ++ middle ++ late, Steady assignment :=
    fun assignment member => (mem_steadyArguments.mp (reordered.subset member)).2
  simp only [List.forall_mem_append] at steady
  refine ⟨early ++ (first ++ (middle ++ (second ++ late))), ?_,
    (Leads.of_accepted steady.1.1 isEarly).append
      (one.append ((Leads.of_accepted steady.1.2 isMiddle).append
        (two.append (.of_accepted steady.2 isLate))))⟩
  refine .trans (List.perm_iff_count.mpr fun assignment => ?_) whole
  have same := reordered.count_eq assignment
  simp only [List.count_append] at same ⊢
  omega

/-- At most one argument assigns the window. -/
theorem window_unique {assignments : List Assignment}
    (distinct : (assignments.map Assignment.flag).Nodup) {one two : Assignment}
    (oneMember : one ∈ assignments) (twoMember : two ∈ assignments)
    (oneWindow : one.flag = .logWindow) (twoWindow : two.flag = .logWindow) : one = two :=
  List.inj_on_of_nodup_map distinct oneMember twoMember (oneWindow.trans twoWindow.symm)

/-- When each argument is accepted under something in effect, some order succeeds: the
pool size goes first, unless the window needs the assigned sink with the default pool. -/
theorem exists_order {assignments : List Assignment}
    (distinct : (assignments.map Assignment.flag).Nodup)
    (possible : ∀ assignment ∈ assignments, ∃ sink ∈ sinksInEffect assignments,
      ∃ pool ∈ poolsInEffect absl assignments, AcceptedUnder absl sink pool assignment) :
    ∃ order : List Assignment, order.Perm assignments ∧
      (Store.default.processArguments absl order).isSome := by
  have readable : ∀ assignment ∈ assignments,
      ∃ sink pool, AcceptedUnder absl sink pool assignment := by
    intro assignment member
    obtain ⟨sink, -, pool, -, accepted⟩ := possible assignment member
    exact ⟨sink, pool, accepted⟩
  obtain ⟨assignedSink, sinks, -, sinkSwitch⟩ := exists_sink_switch distinct readable
  obtain ⟨assignedPool, pools, -, poolSwitch⟩ := exists_pool_switch distinct readable
  suffices found : ∃ order : List Assignment, order.Perm assignments ∧
      Leads absl order kLogSinkDefault kLogPoolSizeDefault assignedSink assignedPool by
    obtain ⟨order, reordered, leads⟩ := found
    obtain ⟨next, processed, -⟩ := leads Store.default consults_default
    exact ⟨order, reordered, Option.isSome_of_eq_some processed⟩
  -- A steady argument other than the window ignores the pool size.
  have places : ∀ assignment ∈ assignments, assignment.flag ≠ .logWindow → ∀ pool,
      AcceptedUnder absl kLogSinkDefault pool assignment ∨
        AcceptedUnder absl assignedSink pool assignment := by
    intro assignment member notWindow pool
    obtain ⟨sink, sinkMember, other, -, accepted⟩ := possible assignment member
    rcases sinks sink sinkMember with rfl | rfl
    · exact .inl (acceptedUnder_pool_irrel notWindow accepted)
    · exact .inr (acceptedUnder_pool_irrel notWindow accepted)
  by_cases late : ∃ window ∈ assignments, window.flag = .logWindow ∧
      AcceptedUnder absl assignedSink kLogPoolSizeDefault window
  · obtain ⟨window, windowMember, isWindow, accepted⟩ := late
    refine exists_order_of_switches (sinkSwitch _) (poolSwitch _) (switches_perm assignments) ?_
    intro assignment member
    have member := (mem_steadyArguments.mp member).1
    by_cases here : assignment.flag = .logWindow
    · rw [window_unique distinct member windowMember here isWindow]
      exact .inr (.inl accepted)
    · rcases places assignment member here kLogPoolSizeDefault with onDefault | onAssigned
      · exact .inl onDefault
      · exact .inr (.inl onAssigned)
  · refine exists_order_of_switches (poolSwitch _) (sinkSwitch _) ?_ ?_
    · refine .trans (List.perm_iff_count.mpr fun assignment => ?_) (switches_perm assignments)
      simp only [List.count_append]
      omega
    · intro assignment member
      have member := (mem_steadyArguments.mp member).1
      by_cases here : assignment.flag = .logWindow
      · obtain ⟨sink, sinkMember, pool, poolMember, accepted⟩ := possible assignment member
        rcases sinks sink sinkMember with rfl | rfl <;>
          rcases pools pool poolMember with rfl | rfl
        · exact .inl accepted
        · exact .inr (.inl accepted)
        · exact absurd ⟨assignment, member, here, accepted⟩ late
        · exact .inr (.inr accepted)
      · rcases places assignment member here kLogPoolSizeDefault with onDefault | onAssigned
        · exact .inl onDefault
        · exact .inr (.inr (acceptedUnder_pool_irrel here onAssigned))

/-- When every order succeeds, a steady argument can be put where any sink and pool
size in effect are consulted, so it is accepted under them. -/
theorem acceptedUnder_of_all_succeed {assignments : List Assignment}
    (distinct : (assignments.map Assignment.flag).Nodup)
    (readable : ∀ assignment ∈ assignments, ∃ sink pool, AcceptedUnder absl sink pool assignment)
    (succeeds : ∀ order : List Assignment, order.Perm assignments →
      (Store.default.processArguments absl order).isSome)
    {assignment : Assignment} (member : assignment ∈ assignments) (steady : Steady assignment)
    (sinkMember : sink ∈ sinksInEffect assignments)
    (poolMember : pool ∈ poolsInEffect absl assignments) :
    AcceptedUnder absl sink pool assignment := by
  obtain ⟨assignedSink, sinks, -, sinkSwitch⟩ := exists_sink_switch distinct readable
  obtain ⟨assignedPool, pools, -, poolSwitch⟩ := exists_pool_switch distinct readable
  obtain ⟨before, after, split⟩ :=
    List.append_of_mem (mem_steadyArguments.mpr ⟨member, steady⟩)
  have whole := switches_perm assignments
  rw [split] at whole
  -- An order in which the argument comes right after a prefix that leads to the pair.
  suffices found : ∃ switches rest : List Assignment,
      (switches ++ assignment :: rest).Perm assignments ∧
        Leads absl switches kLogSinkDefault kLogPoolSizeDefault sink pool by
    obtain ⟨switches, rest, reordered, leads⟩ := found
    obtain ⟨next, processed, consults⟩ := leads Store.default consults_default
    have success := succeeds _ reordered
    rw [processArguments_append, processed, Option.bind_some, Store.processArguments] at success
    refine consults.assign?_isSome_iff.mp ?_
    cases committed : next.assign? absl assignment with
    | none => simp [committed] at success
    | some _ => rfl
  have counts : ∀ {left right : List Assignment},
      (∀ other, left.count other = right.count other) → right.Perm assignments →
        left.Perm assignments :=
    fun same perm => (List.perm_iff_count.mpr same).trans perm
  rcases sinks sink sinkMember with rfl | rfl <;> rcases pools pool poolMember with rfl | rfl
  · refine ⟨[], before ++ after ++ assignments.filter (·.flag = .logSink) ++
      assignments.filter (·.flag = .logPoolSize), counts (fun other => ?_) whole, .nil⟩
    simp only [List.count_append, List.count_cons, List.nil_append]
    omega
  · refine ⟨_, before ++ after ++ assignments.filter (·.flag = .logSink),
      counts (fun other => ?_) whole, poolSwitch _⟩
    simp only [List.count_append, List.count_cons]
    omega
  · refine ⟨_, before ++ after ++ assignments.filter (·.flag = .logPoolSize),
      counts (fun other => ?_) whole, sinkSwitch _⟩
    simp only [List.count_append, List.count_cons]
    omega
  · refine ⟨_, before ++ after, counts (fun other => ?_) whole,
      (sinkSwitch _).append (poolSwitch _)⟩
    simp only [List.count_append, List.count_cons]
    omega

/-- Every order of a command line has the same outcome exactly when it is order
neutral. -/
theorem perm_invariant_iff (absl : Absl) {assignments : List Assignment}
    (distinct : (assignments.map Assignment.flag).Nodup) :
    (∀ other : List Assignment, other.Perm assignments →
        Store.default.processArguments absl other =
          Store.default.processArguments absl assignments) ↔
      OrderNeutral absl assignments := by
  constructor
  · intro invariant
    by_cases possible : ∀ assignment ∈ assignments, ∃ sink ∈ sinksInEffect assignments,
        ∃ pool ∈ poolsInEffect absl assignments, AcceptedUnder absl sink pool assignment
    · obtain ⟨order, reordered, success⟩ := exists_order distinct possible
      have succeeds : ∀ other : List Assignment, other.Perm assignments →
          (Store.default.processArguments absl other).isSome := by
        intro other otherReordered
        rw [invariant other otherReordered, ← invariant order reordered]
        exact success
      refine .inr fun assignment member sink sinkMember pool poolMember => ?_
      obtain ⟨_, -, _, -, accepted⟩ := possible assignment member
      by_cases steady : Steady assignment
      · refine acceptedUnder_of_all_succeed distinct (fun other otherMember => ?_) succeeds member
          steady sinkMember poolMember
        obtain ⟨sink, -, pool, -, accepted⟩ := possible other otherMember
        exact ⟨sink, pool, accepted⟩
      · refine acceptedUnder_sink_irrel ?_ accepted
        simp only [Steady, not_and_or, not_not] at steady
        exact steady
    · simp only [not_forall, not_exists, not_and] at possible
      obtain ⟨assignment, member, refused⟩ := possible
      exact .inl ⟨assignment, member, fun sink sinkMember pool poolMember =>
        refused sink sinkMember pool poolMember⟩
  · rintro (⟨refused, member, never⟩ | accepted) other reordered
    · rw [processArguments_eq_none (reordered.mem_iff.mpr member) never
          (fun _ here => reordered.subset here) inEffect_default,
        processArguments_eq_none member never (fun _ => id) inEffect_default]
    · obtain ⟨first, one⟩ := Option.isSome_iff_exists.mp
        (processArguments_isSome accepted (fun _ => id) inEffect_default)
      obtain ⟨second, two⟩ := Option.isSome_iff_exists.mp
        (processArguments_isSome accepted (fun _ here => reordered.subset here) inEffect_default)
      rw [one, two, processArguments_perm distinct reordered one two]

/-- A text sink and a log directory may come in either order. -/
theorem perm_invariant_sink_dir :
    Store.default.processArguments decimalAbsl
        [⟨.logDir, ascii "/tmp"⟩, ⟨.logSink, ascii "text"⟩] =
      Store.default.processArguments decimalAbsl
        [⟨.logSink, ascii "text"⟩, ⟨.logDir, ascii "/tmp"⟩] :=
  (perm_invariant_iff decimalAbsl (by decide)).mpr (.inr (by decide +kernel)) _ (.swap _ _ _)

/-- An address followed by the text sink succeeds; the other order fails. -/
theorem address_sink_order_matters :
    ([⟨.logAddress, ascii "10.0.0.1"⟩, ⟨.logSink, ascii "text"⟩].map Assignment.flag).Nodup ∧
      ([⟨.logSink, ascii "text"⟩, ⟨.logAddress, ascii "10.0.0.1"⟩] : List Assignment).Perm
        [⟨.logAddress, ascii "10.0.0.1"⟩, ⟨.logSink, ascii "text"⟩] ∧
      (Store.default.processArguments decimalAbsl
        [⟨.logAddress, ascii "10.0.0.1"⟩, ⟨.logSink, ascii "text"⟩]).isSome ∧
      Store.default.processArguments decimalAbsl
        [⟨.logSink, ascii "text"⟩, ⟨.logAddress, ascii "10.0.0.1"⟩] = none := by
  refine ⟨by decide, .swap _ _ _, by decide +kernel, ?_⟩
  exact Option.isNone_iff_eq_none.mp (by decide +kernel)

end LoggerV2.Flags
