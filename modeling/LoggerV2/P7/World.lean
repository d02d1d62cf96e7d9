import Mathlib.Tactic.SplitIfs
import LoggerV2.Library.Program
import LoggerV2.Library.RefCount
import LoggerV2.Flags.Types

/-!
# The world of the handle classes

What the constructors, the destructors and the exit handler call: the P7 registry of
reference-counted objects, `std::atexit` and `sigaction`, the flags, and the signal data
that is kept until exit. Creating, sharing and registering may be refused; everything
else follows the reference-count rules of P7.
-/

namespace LoggerV2

open Verification Verification.RefCount

/-- The three interfaces of P7 objects, each with names of its own. -/
inductive Kind where
  | client | trace | telemetry
deriving DecidableEq, Repr

/-- The kind of an object, and the name it is shared under, if any. -/
structure P7Tag where
  kind : Kind
  sharedAs : Option Text
deriving DecidableEq, Repr

/-- Every P7 object ever created, by number. -/
abbrev Registry := Heap P7Tag

/-- The live object that is shared under a name, `P7_Get_Shared*`. -/
def Registry.findShared (registry : Registry) (kind : Kind) (name : Text) : Option Nat :=
  registry.findLive fun tag => tag.kind = kind ∧ tag.sharedAs = some name

/-- The signals that get a handler, in the order they are registered. -/
inductive Signal where
  | sigabrt | sigbus | sigfpe | sighup | sigill | sigint | sigpipe | sigpwr | sigquit
  | sigsegv | sigtstp | sigsys | sigterm | sigxcpu | sigxfsz
deriving DecidableEq, Repr

/-- The signal as the error text spells it. -/
def Signal.name : Signal → Text
  | .sigabrt => ascii "SIGABRT"
  | .sigbus => ascii "SIGBUS"
  | .sigfpe => ascii "SIGFPE"
  | .sighup => ascii "SIGHUP"
  | .sigill => ascii "SIGILL"
  | .sigint => ascii "SIGINT"
  | .sigpipe => ascii "SIGPIPE"
  | .sigpwr => ascii "SIGPWR"
  | .sigquit => ascii "SIGQUIT"
  | .sigsegv => ascii "SIGSEGV"
  | .sigtstp => ascii "SIGTSTP"
  | .sigsys => ascii "SIGSYS"
  | .sigterm => ascii "SIGTERM"
  | .sigxcpu => ascii "SIGXCPU"
  | .sigxfsz => ascii "SIGXFSZ"

/-- The fields of `siginfo_t` that are reported. -/
structure SigInfo where
  errno : Int32
  code : Int32
  addr : UInt64
  callAddr : UInt64
  syscall : Int32
  arch : UInt32
deriving DecidableEq, Repr

/-- `atexit_data`. `sig` is `none` for 0; `backtraceData` is the buffer, as the text its
dump is printed as. -/
structure SignalLogData where
  sig : Option Signal
  siginfo : SigInfo
  backtraceData : Option Text
  backtraceDataSize : Nat
  backtraceDepth : Nat
deriving DecidableEq, Repr

/-- `atexit_data` before the first client. -/
def SignalLogData.initial : SignalLogData := ⟨none, ⟨0, 0, 0, 0, 0, 0⟩, none, 0, 0⟩

/-- The levels of the logging functions. -/
inductive Level where
  | trace | debug | info | warning | error | critical | count
deriving DecidableEq, Repr

/-- A message that a trace object was given. -/
structure TraceLine where
  object : Nat
  level : Level
  message : Text
deriving DecidableEq, Repr

/-- P7, the registered handlers, `atexit_data` and the flags. -/
structure World where
  registry : Registry
  /-- How many registrations of `ExitHandler` are pending. -/
  atexit : Nat
  /-- The signals whose handler is installed. -/
  handlers : List Signal
  atexitData : SignalLogData
  flags : Flags.Store
  traced : List TraceLine

/-- A process in which nothing happened yet. -/
def World.initial (flags : Flags.Store) : World :=
  ⟨Heap.empty, 0, [], .initial, flags, []⟩

/-- `sizeof(native_frame_ptr_t) * 1024`. -/
def backtraceBufferSize : Nat := 8 * 1024

/-- What the classes call, of P7 and of the system. -/
inductive P7Call where
  | getShared (kind : Kind) (name : Text)
  | createClient (params : Text)
  | createChannel (kind : Kind) (client : Nat) (name : Text)
  | share (kind : Kind) (object : Nat) (name : Text)
  | addRef (object : Nat)
  | release (object : Nat)
  | getFlags
  | mallocBacktrace
  | atexit
  | sigaction (signal : Signal)
  | log (object : Nat) (level : Level) (message : Text)
  | atexitData
  | flush
deriving DecidableEq, Repr

@[reducible] def P7Call.Reply : P7Call → Type
  | .getShared _ _ => Option Nat
  | .createClient _ => Option Nat
  | .createChannel _ _ _ => Option Nat
  | .share _ _ _ => Bool
  | .addRef _ => Unit
  | .release _ => Unit
  | .getFlags => Flags.Store
  | .mallocBacktrace => Unit
  | .atexit => Bool
  | .sigaction _ => Bool
  | .log _ _ _ => Unit
  | .atexitData => SignalLogData
  | .flush => Unit

/-- Code that ends in a value or throws an exception with a text. -/
abbrev P7Program := Program P7Call P7Call.Reply Text

/-- A program that makes one call. -/
def p7 (request : P7Call) : P7Program request.Reply := Program.perform request

/-- The reply to a call and its effect. `granted` says which of the calls that may be
refused are not. -/
def World.answer (granted : P7Call → Bool) : (call : P7Call) → World → call.Reply × World
  | .getShared kind name, world =>
    match world.registry.findShared kind name with
    | none => (none, world)
    | some object => (some object, { world with registry := world.registry.addRef object })
  | .createClient params, world =>
    if granted (.createClient params) then
      (some world.registry.cells.length,
        { world with registry := world.registry.alloc ⟨.client, none⟩ none })
    else (none, world)
  | .createChannel kind client name, world =>
    if granted (.createChannel kind client name) then
      (some world.registry.cells.length,
        { world with registry := world.registry.alloc ⟨kind, none⟩ (some client) })
    else (none, world)
  | .share kind object name, world =>
    if granted (.share kind object name) ∧ world.registry.findShared kind name = none then
      (true, { world with
        registry := world.registry.retag object fun tag => { tag with sharedAs := some name } })
    else (false, world)
  | .addRef object, world => ((), { world with registry := world.registry.addRef object })
  | .release object, world => ((), { world with registry := world.registry.release object })
  | .getFlags, world => (world.flags, world)
  | .mallocBacktrace, world =>
    ((), { world with atexitData := { world.atexitData with
      backtraceData := if granted .mallocBacktrace then some [] else none
      backtraceDataSize := backtraceBufferSize } })
  | .atexit, world =>
    if granted .atexit then (true, { world with atexit := world.atexit + 1 }) else (false, world)
  | .sigaction signal, world =>
    if granted (.sigaction signal) then
      (true, { world with handlers := signal :: world.handlers })
    else (false, world)
  | .log object level message, world =>
    ((), { world with traced := world.traced ++ [⟨object, level, message⟩] })
  | .atexitData, world => (world.atexitData, world)
  | .flush, world => ((), world)

section Answer

variable {granted : P7Call → Bool} {world : World} {kind : Kind} {name : Text}

theorem run_p7_bind {Value : Type} (request : P7Call)
    (next : request.Reply → P7Program Value) (world : World) :
    (p7 request >>= next).run (World.answer granted) world =
      (next (World.answer granted request world).1).run (World.answer granted)
        (World.answer granted request world).2 := rfl

/-- A name that is not shared is not found. -/
theorem answer_getShared_none (absent : world.registry.findShared kind name = none) :
    World.answer granted (.getShared kind name) world = (none, world) := by
  rw [World.answer, absent]

/-- What is found comes with a reference. -/
theorem answer_getShared_some {object : Nat}
    (found : world.registry.findShared kind name = some object) :
    World.answer granted (.getShared kind name) world =
      (some object, { world with registry := world.registry.addRef object }) := by
  rw [World.answer, found]

/-- Sharing either changes a tag or nothing. -/
theorem answer_share_cases (granted : P7Call → Bool) (kind : Kind) (object : Nat) (name : Text)
    (world : World) :
    World.answer granted (.share kind object name) world = (false, world) ∨
      World.answer granted (.share kind object name) world = (true, { world with
        registry :=
          world.registry.retag object fun tag => { tag with sharedAs := some name } }) := by
  rw [World.answer]
  split_ifs
  · exact .inr rfl
  · exact .inl rfl

/-- The calls that have to do with exit and signals only. -/
def Registers : P7Call → Prop
  | .atexitData | .mallocBacktrace | .atexit | .sigaction _ => True
  | _ => False

/-- Registering handlers touches no P7 object. -/
theorem Registers.registry {request : P7Call} (registers : Registers request) (world : World) :
    (World.answer granted request world).2.registry = world.registry := by
  cases request <;> simp only [Registers] at registers <;> simp only [World.answer] <;>
    split_ifs <;> rfl

end Answer

/-- No call is refused, except to share under a name that is taken. -/
def allGranted : P7Call → Bool := fun _ => true

/-- The characters up to the first NUL, `c_str()` as P7 reads it. -/
def cStr (text : Text) : Text := text.takeWhile (· ≠ 0)

end LoggerV2
