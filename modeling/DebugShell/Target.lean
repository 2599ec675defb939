import DebugShell.Expression
import DebugShell.History
import DebugShell.Host
import DebugShell.NameMap
import DebugShell.Target.Stock

/-!
# Described targets

A debuggee that is described instead of run: the state of its session, the values of its registers,
the addresses of its symbols, its libraries and so on. Every question to the host is answered from
the description and the history of the commands typed so far. Expressions are evaluated in 128-bit
signed arithmetic, and leaving its range is an error.
-/

namespace DebugShell

/-- A call that is met while the target runs. -/
structure CallSite where
  /-- Where the call instruction stands. -/
  address : UInt64
  /-- The name of the called function. -/
  callee : String
  deriving DecidableEq, Repr

/-- The description of a target. -/
structure Target where
  /-- The state of the session. -/
  session : Session := {}
  /-- The registers and their values. -/
  registers : NameMap UInt64 := .empty
  /-- The symbols and their addresses. -/
  symbols : NameMap UInt64 := .empty
  /-- The heap symbols that a scan of the C library finds, and their addresses. -/
  heapScan : NameMap UInt64 := .empty
  /-- The shared libraries that are mapped. -/
  sharedLibraries : List String := []
  /-- The version of the C library, where it is detected. -/
  glibc : Option Version := none
  /-- The listing of the debugger's own commands, where it is not that of a stock debugger. -/
  builtins : Option String := none
  /-- The version of the kernel that runs the target. -/
  kernelVersion : Option String := none
  /-- The functions that can be decompiled, and their sources. -/
  decompiled : NameMap String := .empty
  /-- The calls that are met, in the order of execution. -/
  callSites : List CallSite := []
  deriving DecidableEq

/-- The values that evaluation can yield. -/
def inValueRange (v : Int) : Bool :=
  -Expression.numberBound ≤ v && v < Expression.numberBound

/-- A result of evaluation, refused when it is out of range. -/
def checkedValue (v : Int) : Except HostError Int :=
  if inValueRange v then .ok v else .error (.other "Integer overflow in expression.")

/-- The expression that a text writes. A text that writes none is handed back, without the blanks
around it. -/
def Expression.parse (text : String) : Except HostError Expression :=
  match ofString? text with
  | some expression => .ok expression
  | none => .error (.malformed text.trimBlanks)

/-- The integer that an operator computes. -/
def Operator.apply : Operator → Int → Int → Int
  | .add, a, b => a + b
  | .sub, a, b => a - b
  | .mul, a, b => a * b

namespace Target

/-- The registers whose values a register's name can stand for: the one of that name, and for the
program counter and the stack pointer those of the known architectures. -/
def registersFor (name : String) : List String :=
  match name with
  | "pc" => ["pc", "rip", "eip"]
  | "sp" => ["sp", "rsp", "esp"]
  | _ => [name]

/-- The value of a register. Only a live process has registers. -/
def register (t : Target) (name : String) : Except HostError UInt64 :=
  if t.session.processAlive then
    match (registersFor name).findSome? t.registers.get? with
    | some value => .ok value
    | none => .error (.other s!"Invalid register `{name}'")
  else .error (.other "No registers.")

/-- The address of a symbol. -/
def symbol (t : Target) (name : String) : Except HostError UInt64 :=
  match t.symbols.get? name with
  | some address => .ok address
  | none => .error (.noSymbol name)

/-- The value of an expression, in which operands are evaluated from left to right. -/
def valueOf (t : Target) : Expression → Except HostError Int
  | .number n => .ok n
  | .register name => (t.register name).map fun v => v.toNat
  | .symbol name => (t.symbol name).map fun v => v.toNat
  | .neg operand => do checkedValue (-(← t.valueOf operand))
  | .binary operator left right => do
    let a ← t.valueOf left
    let b ← t.valueOf right
    checkedValue (operator.apply a b)

/-- The value of the expression that a text writes. -/
def evaluate (t : Target) (text : String) : Except HostError Int :=
  (Expression.parse text).bind t.valueOf

/-- The answers that the description gives when those commands have been typed. -/
def host (t : Target) (history : History.Entries) : Host where
  evaluate := t.evaluate
  registerNames := t.registers.names
  historyTail := History.tail history
  builtinListing := t.builtins.getD stockListing
  session := t.session
  sharedLibraries := t.sharedLibraries
  symbolAddress := t.symbols.get?
  scanHeapSymbol name _ := t.heapScan.get? name
  glibcVersion := t.glibc

end Target

end DebugShell
