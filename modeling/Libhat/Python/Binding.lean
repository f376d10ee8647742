import Libhat.CApiHandles
import Libhat.Lib.Raising

/-!
# The Python binding

The binding calls the C interface through `ctypes`.  Its `Signature` and `Module` hold a handle
from when they are made until `close`, which a `with` statement calls at its end; there are no
finalizers.  A string is handed over as its UTF-8 bytes with a null byte behind them, and a
handle of `None` as a null pointer.  Left out are the two methods that go through the sections
and the segments of a module: their callbacks may do anything, and close the module too.

Nothing here checks what the C functions return but their status; `Libhat.Python.Session` says
what holds of whole sessions and `Libhat.Python.FindPattern` what the scans return.
-/

namespace Libhat

namespace Python

open Raising

/-! ### The interpreter -/

/-- What the functions of the binding raise. -/
inductive PyError where
  /-- `LibhatError`, with its message -/
  | libhatError (status : Status) (message : String)
  | valueError (message : String)
  | runtimeError (message : String)
  /-- `int(None)`, and `from_address(None)` -/
  | typeError
  /-- a method that the class does not have -/
  | attributeError
  /-- a variable without a value -/
  | nameError
  deriving DecidableEq

/-- `Signature` and `Module`. -/
inductive Kind where
  | signature
  | module
  deriving DecidableEq

/-- An object of one of the two classes, and its `_handle`. -/
structure Wrapper where
  kind : Kind
  handle : Option Nat

/-- The state of a session: the objects that the C library sees, and the values of the
variables, by their numbers. -/
structure Session where
  world : World
  locals : List Wrapper

abbrev Py := Program Crash Session PyError

/-- The process that the interpreter runs in. -/
structure Interpreter where
  host : Host
  loaded : LoadedModules
  /-- the addresses in modules -/
  inModule : Nat → Bool
  /-- where `ctypes` puts the bytes of arguments, and the variable for a result -/
  arguments : Nat
  result : Nat
  arguments_ne_null : arguments ≠ 0
  result_ne_null : result ≠ 0

/-- `str.encode('utf-8')`. -/
def encode (str : Text) : List Byte :=
  str.flatMap fun c => (String.utf8EncodeChar c).map UInt8.toBitVec

/-- A function of the C library is called. -/
def call {α : Type} (f : World → Exec (α × World)) : Py α :=
  Program.foreign fun s =>
    match f s.world with
    | .error fault => .error (.fault fault)
    | .ok (a, world) => .ok (a, { s with world })

/-- `libhat_free`. -/
def free (handle : Nat) : Py Unit :=
  Program.foreign fun s =>
    match libhatFree s.world handle with
    | .error fault => .error (.fault fault)
    | .ok .ignored => .ok ((), s)
    | .ok (.destroyed world) => .ok ((), { s with world })
    | .ok .terminated => .error .terminated

/-- `if status != 0: raise LibhatError(status)`. -/
def checkStatus (status : Status) : Py Unit :=
  if status = .success then pure ()
  else Program.raise (.libhatError status (libhatStatusToString status))

/-- The value of a variable. -/
def lookup (i : Nat) : Py Wrapper := do
  match ← Program.ask (fun s => s.locals[i]?) with
  | some x => return x
  | none => Program.raise .nameError

/-- A new variable. -/
def assign (x : Wrapper) : Py Unit :=
  Program.modify fun s => { s with locals := s.locals ++ [x] }

namespace Wrapper

/-- `Signature(handle)` and `Module(handle)`. -/
def make (kind : Kind) (handle : Nat) : Py Wrapper :=
  if handle = 0 then Program.raise (.valueError "handle must not be nullptr")
  else pure ⟨kind, some handle⟩

/-- `close`: the object after it. -/
def close (x : Wrapper) : Py Wrapper :=
  match x.handle with
  | none => pure x
  | some handle => do
    free handle
    return { x with handle := none }

/-- The pointer that `ctypes` makes of `x.handle`. -/
def pointer (x : Wrapper) : Nat := x.handle.getD 0

/-- `_check_handle`. -/
def checkHandle (x : Wrapper) : Py Nat :=
  match x.handle with
  | some handle => pure handle
  | none =>
    Program.raise (.runtimeError "Attempted operation on a Module that has already been freed")

end Wrapper

/-! ### The functions -/

/-- The types that are taken for buffers. -/
inductive BufferType where
  | bytes
  | bytearray
  | memoryview (isReadonly : Bool)
  | array

/-- A buffer, which has an address that is not null also where it is empty. -/
structure MemoryBuffer where
  type : BufferType
  address : Nat
  bytes : List Byte
  address_ne_null : address ≠ 0

/-- `_underlying_buffer`. -/
def underlyingBuffer (buf : MemoryBuffer) : Py (Nat × Nat) :=
  match buf.type with
  | .memoryview true => Program.raise (.valueError "memoryview must be writable")
  | _ => pure (buf.address, buf.bytes.length)

namespace Interpreter

variable (python : Interpreter)

/-- The bytes of arguments are put where C functions can read them. -/
def pass (bytes : List Byte) : Py Unit :=
  Program.modify fun s => { s with world := s.world.withBytes python.arguments bytes }

/-- `c_void_p()`. -/
def clearResult : Py Unit :=
  Program.modify fun s => { s with world := s.world.store python.result 0 }

/-- `result.value`, which is `None` for a null pointer. -/
def resultValue : Py Nat := Program.ask fun s => s.world.cells python.result

/-- `parse_signature`. -/
def parseSignature (signatureStr : Text) : Py Wrapper := do
  python.pass (encode signatureStr ++ [0])
  python.clearResult
  let status ← call fun w =>
    libhatParseSignature python.host.allocator w python.arguments python.result
  checkStatus status
  Wrapper.make .signature (← python.resultValue)

/-- `create_signature`. -/
def createSignature (sigBytes sigMask : List Byte) : Py Wrapper := do
  if sigBytes.length ≠ sigMask.length then
    Program.raise (.valueError "Mismatch between len(sig_bytes) and len(sig_mask)")
  else
    python.pass (sigBytes ++ [0] ++ sigMask ++ [0])
    python.clearResult
    let status ← call fun w =>
      libhatCreateSignature python.host.allocator w python.arguments
        (python.arguments + sigBytes.length + 1) sigMask.length python.result
    checkStatus status
    Wrapper.make .signature (← python.resultValue)

/-- What stands under the `with` of `find_pattern`. -/
def scanBuffer (s : Wrapper) (buf : MemoryBuffer) (data size : Nat) (align : ScanAlignment)
    (hints : BitVec 32) : Py (Option Nat) := do
  Program.modify fun t => { t with world := t.world.withBytes buf.address buf.bytes }
  python.clearResult
  let status ← call fun w => libhatFindPattern python.host.target w s.pointer data size
    python.result (alignValue align) hints
  checkStatus status
  let result ← python.resultValue
  return if result ≠ 0 then some (result - data) else none

/-- What stands under the `with` of `find_pattern_mod`. -/
def scanModule (s x : Wrapper) (sectionName : Text) (align : ScanAlignment)
    (hints : BitVec 32) : Py Nat := do
  python.pass (encode sectionName ++ [0])
  python.clearResult
  let status ← call fun w => libhatFindPatternMod python.host w s.pointer x.pointer
    python.arguments python.result (alignValue align) hints
  checkStatus status
  let result ← python.resultValue
  -- `Address(result.value)`
  if result = 0 then Program.raise .typeError else return result

/-- `with context as s`: a text is parsed, and the signature is closed in the end; a `Signature`
is used as it is. -/
def withSignature {α : Type} (sig : Text ⊕ Nat) (body : Wrapper → Py α) : Py α :=
  match sig with
  | .inl signatureStr => do
    let s ← python.parseSignature signatureStr
    (body s).followedBy do
      let _ ← s.close
  | .inr i => do
    let s ← lookup i
    body s

/-- `find_pattern`. -/
def findPattern (sig : Text ⊕ Nat) (buf : MemoryBuffer) (align : ScanAlignment)
    (hints : BitVec 32) : Py (Option Nat) := do
  let (data, size) ← underlyingBuffer buf
  python.withSignature sig fun s => python.scanBuffer s buf data size align hints

/-- `find_pattern_mod`. -/
def findPatternMod (sig : Text ⊕ Nat) (mod : Nat) (sectionName : Text) (align : ScanAlignment)
    (hints : BitVec 32) : Py Nat := do
  let x ← lookup mod
  python.withSignature sig fun s => python.scanModule s x sectionName align hints

/-- `get_process_module`. -/
def getProcessModule : Py Wrapper := do
  let handle ← call fun w => libhatGetProcessModule python.host.allocator python.loaded w
  Wrapper.make .module handle

/-- `Module(handle) if handle else None`. -/
def makeModule (handle : Nat) : Py (Option Wrapper) := do
  if handle = 0 then return none else return some (← Wrapper.make .module handle)

/-- `get_module`. -/
def getModule (name : Text) : Py (Option Wrapper) := do
  python.pass (encode name ++ [0])
  makeModule (← call fun w =>
    libhatGetModule python.host.allocator python.loaded w python.arguments)

/-- `module_at`. -/
def moduleAt (addr : Nat) : Py (Option Wrapper) := do
  makeModule (← call fun w => .ok (libhatModuleAt python.host.allocator python.inModule w addr))

/-- `Span.view`, of the span that a call stored: where it is, and its size. -/
def view : Py (Nat × Nat) := do
  let data ← Program.ask fun s => s.world.cells python.result
  let size ← Program.ask fun s => s.world.cells (python.result + 8)
  if data = 0 then Program.raise .typeError else return (data, size)

/-- What the methods of `Module` do first. -/
def moduleMethod (self : Nat) (f : Nat → World → Exec (Status × World)) : Py Unit := do
  let x ← lookup self
  if x.kind ≠ .module then Program.raise .attributeError
  else
    python.clearResult
    let handle ← x.checkHandle
    let status ← call (f handle)
    checkStatus status

/-- `Module.address`. -/
def moduleAddress (self : Nat) : Py Nat := do
  python.moduleMethod self fun handle w => libhatModuleAddress python.host w handle python.result
  python.resultValue

/-- `Module.get_symbol`. -/
def getSymbol (self : Nat) (name : Text) : Py (Option Nat) := do
  python.pass (encode name ++ [0])
  python.moduleMethod self fun handle w =>
    libhatModuleGetSymbol python.host w handle python.arguments python.result
  let result ← python.resultValue
  return if result ≠ 0 then some result else none

/-- `Module.get_module_data`. -/
def getModuleData (self : Nat) : Py (Nat × Nat) := do
  python.moduleMethod self fun handle w => libhatModuleGetData python.host w handle python.result
  python.view

/-- `Module.get_executable_data`. -/
def getExecutableData (self : Nat) : Py (Nat × Nat) := do
  python.moduleMethod self fun handle w =>
    libhatModuleGetExecutableData python.host w handle python.result
  python.view

/-- `Module.get_section_data`. -/
def getSectionData (self : Nat) (name : Text) : Py (Nat × Nat) := do
  python.pass (encode name ++ [0])
  python.moduleMethod self fun handle w =>
    libhatModuleGetSectionData python.host w handle python.arguments python.result
  python.view

end Interpreter

end Python

end Libhat
