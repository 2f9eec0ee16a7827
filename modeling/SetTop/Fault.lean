import SetTop.Text.Quoted

/-!
What can stop an action.

A failure with its class and wording, an error of the operating system with its number, and a
receive that timed out are ordinary. An action that shields itself against failures lets the other
faults pass: a request to end the program, and the end of the material that a rehearsed run was
given.
-/

namespace SetTop

inductive FaultKind
  | value | type | runtime | assertion | key | index | attribute | zeroDivision | overflow
  | notImplemented | lookup | encoding | decoding | importing | stopIteration | keyboardInterrupt
  | plain | environment
  | configuration | unknownKey | hdmiCec
  | uiTest | uiTestFailure | matchTimeout | motionTimeout | noVideo | precondition
  | http | process | packing | pattern | base64 | picture
  | missingHeader | parsing | noSection | noOption | interpolation
  | interpolationDepth | interpolationOption | mapFull | badXml
  | socketClosed | stopRunning | unboundLocal | recursion | memory | badSyntax | unknownName
deriving DecidableEq

def FaultKind.name : FaultKind → String
  | .value => "ValueError"
  | .type => "TypeError"
  | .runtime => "RuntimeError"
  | .assertion => "AssertionError"
  | .key => "KeyError"
  | .index => "IndexError"
  | .attribute => "AttributeError"
  | .zeroDivision => "ZeroDivisionError"
  | .overflow => "OverflowError"
  | .notImplemented => "NotImplementedError"
  | .lookup => "LookupError"
  | .encoding => "UnicodeEncodeError"
  | .decoding => "UnicodeDecodeError"
  | .importing => "ImportError"
  | .stopIteration => "StopIteration"
  | .keyboardInterrupt => "KeyboardInterrupt"
  | .plain => "Exception"
  | .environment => "OSError"
  | .configuration => "ConfigurationError"
  | .unknownKey => "UnknownKeyError"
  | .hdmiCec => "HdmiCecError"
  | .uiTest => "UITestError"
  | .uiTestFailure => "UITestFailure"
  | .matchTimeout => "MatchTimeout"
  | .motionTimeout => "MotionTimeout"
  | .noVideo => "NoVideo"
  | .precondition => "PreconditionError"
  | .http => "HTTPError"
  | .process => "CalledProcessError"
  | .packing => "struct.error"
  | .pattern => "re.error"
  | .base64 => "binascii.Error"
  | .picture => "CvError"
  | .missingHeader => "MissingSectionHeaderError"
  | .parsing => "ParsingError"
  | .noSection => "NoSectionError"
  | .noOption => "NoOptionError"
  | .interpolation => "InterpolationSyntaxError"
  | .interpolationDepth => "InterpolationDepthError"
  | .interpolationOption => "InterpolationMissingOptionError"
  | .mapFull => "MapFullError"
  | .badXml => "ParseError"
  | .socketClosed => "SocketClosed"
  | .stopRunning => "StopRunning"
  | .unboundLocal => "UnboundLocalError"
  | .recursion => "RecursionError"
  | .memory => "MemoryError"
  | .badSyntax => "SyntaxError"
  | .unknownName => "NameError"

inductive ExitCode
  | none
  | status (n : Int)
  | text (s : String)
deriving DecidableEq

inductive Fault
  /-- A failure with a wording of this library. -/
  | failure (kind : FaultKind) (message : String)
  /-- A failure of a layer below, reported by its class alone. The text is what that layer says. -/
  | foreign (kind : FaultKind) (detail : String)
  /-- An error of the operating system. -/
  | system (number : Nat) (text : String)
  /-- An error of the operating system that this library explains. -/
  | refused (number : Nat) (text : String)
  /-- Nothing arrived in time. -/
  | timedOut
  /-- The program is asked to end. -/
  | exit (code : ExitCode)
  /-- A rehearsed run asked a source for more than it was given. -/
  | exhausted (source : String)
deriving DecidableEq

namespace Fault

/-- Whether an action that shields itself against failures stops this one. -/
def isOrdinary : Fault → Bool
  | .exit _ => false
  | .exhausted _ => false
  | .failure .keyboardInterrupt _ => false
  | .foreign .keyboardInterrupt _ => false
  | .failure .stopRunning _ => false
  | _ => true

def text : Fault → String
  | .failure _ message => message
  | .foreign .key detail => quote detail
  | .foreign _ detail => detail
  | .system number text | .refused number text => s!"[Errno {number}] {text}"
  | .timedOut => "timed out"
  | .exit .none => ""
  | .exit (.status n) => toString n
  | .exit (.text s) => s
  | .exhausted source => source

def systemName : Nat → String
  | 1 | 13 => "PermissionError"
  | 2 => "FileNotFoundError"
  | 3 => "ProcessLookupError"
  | 4 => "InterruptedError"
  | 10 => "ChildProcessError"
  | 11 | 114 | 115 => "BlockingIOError"
  | 17 => "FileExistsError"
  | 20 => "NotADirectoryError"
  | 21 => "IsADirectoryError"
  | 32 | 108 => "BrokenPipeError"
  | 103 => "ConnectionAbortedError"
  | 104 => "ConnectionResetError"
  | 110 => "TimeoutError"
  | 111 => "ConnectionRefusedError"
  | _ => "OSError"

def describe : Fault → String
  | .failure .process _ => FaultKind.process.name ++ "()"
  | .failure kind message => kind.name ++ "(" ++ quote message ++ ")"
  | .foreign kind detail =>
    if detail.isEmpty then kind.name ++ "()" else kind.name ++ "(" ++ quote detail ++ ")"
  | .system number text => systemName number ++ s!"({number}, {quote text})"
  | .refused number text => systemName number ++ s!"({quote text})"
  | .timedOut => "timeout('timed out')"
  | f => f.text

end Fault

def fail {α : Type} {m : Type → Type} [MonadExcept Fault m] (kind : FaultKind) (message : String) :
    m α :=
  throw (.failure kind message)

def failBelow {α : Type} {m : Type → Type} [MonadExcept Fault m] (kind : FaultKind)
    (detail : String := "") : m α :=
  throw (.foreign kind detail)

end SetTop
