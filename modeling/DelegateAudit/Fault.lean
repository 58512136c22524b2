import DelegateAudit.FileTree
import DelegateAudit.Json.Reader
import DelegateAudit.Pattern.Parser
import DelegateAudit.Process

/-!
# DelegateAudit — faults

Everything that can end a piece of work early, by cause. The wording of each cause is
given once, in the `message` functions.
-/

namespace DelegateAudit

/-- The wording of a run of code points that have no UTF-8 encoding. -/
def BadRun.utf8Message (run : BadRun) : Text :=
  "'utf-8' codec can't encode " ++ run.describe ++ ": surrogates not allowed"

/-- The wording of a path that leads nowhere. -/
def PathFault.message : PathFault → Text
  | .system fault => fault.message
  | .nul => "embedded null byte"
  | .unencodable run => run.utf8Message

/-- Why a file could not be read as JSON. -/
inductive ReadFault where
  | path (fault : PathFault)
  | encoding (fault : Utf8.Fault)
  | json (fault : Json.Fault)
deriving DecidableEq, Repr

/-- The wording of a file that could not be read as JSON. -/
def ReadFault.message : ReadFault → Text
  | .path fault => fault.message
  | .encoding fault => fault.message
  | .json fault => fault.message

/-- Why code could not be disassembled. -/
inductive DisassemblyFault where
  | notFound (tool : Text)
  | timedOut (tool : Text) (limit : TimeLimit)
  | failed (tool reason : Text)
  /-- The disassembler gave a reason of its own. -/
  | reported (reason : Text)
deriving DecidableEq, Repr

/-- The wording of code that could not be disassembled. -/
def DisassemblyFault.message : DisassemblyFault → Text
  | .notFound tool => tool ++ " not found"
  | .timedOut tool limit => tool ++ " disassemble timed out after " ++ limit.toText ++ "s"
  | .failed tool reason => tool ++ " disassemble failed: " ++ reason
  | .reported reason => reason

/-- Why the code of a contract could not be obtained. -/
inductive InspectionFault where
  | timedOut (limit : TimeLimit)
  | failed (reason : Text)
deriving DecidableEq, Repr

/-- The wording of an inspection that came to nothing. -/
def InspectionFault.message (target : Text) : InspectionFault → Text
  | .timedOut limit => "forge inspect " ++ target ++ " timed out after " ++ limit.toText ++ "s"
  | .failed reason => "forge inspect " ++ target ++ " failed: " ++ reason

/-- What is wrong with a rule file. -/
inductive RuleFault where
  | unreadable (file : Text) (cause : ReadFault)
  | notObject (file : Text)
  | sectionNotObject (key file : Text)
  | notStrings (key : Text)
  | notTypeLists
  | badPattern (cause : Pattern.Refusal)
deriving DecidableEq, Repr

/-- The wording of a rule file's fault. -/
def RuleFault.message : RuleFault → Text
  | .unreadable file cause => "Failed to load rule tables from " ++ file ++ ": " ++ cause.message
  | .notObject file => "Rule table file must contain a JSON object: " ++ file
  | .sectionNotObject key file =>
    "'" ++ key ++ "' section must be a JSON object: " ++ file
  | .notStrings key => key ++ " must be a list of strings"
  | .notTypeLists => "cooccurring_types must be a list of type lists"
  | .badPattern cause => "invalid source pattern: " ++ cause.message

/-- Why a piece of work ended early. -/
inductive Fault where
  /-- Bytecode text of some length is no hex text. -/
  | undecodable (length : Nat) (cause : HexFault)
  | disassembly (cause : DisassemblyFault)
  /-- A program that is needed is missing; the hint may be empty. -/
  | toolMissing (tool hint : Text)
  | unreadableArtifact (path : Text) (cause : ReadFault)
  | artifactNotObject (path : Text)
  | rules (cause : RuleFault)
  | inspection (target : Text) (cause : InspectionFault)
  /-- A rule file failed in a way that is no rule file's fault. -/
  | read (cause : ReadFault)
  /-- Reading a pattern of a rule file broke down. -/
  | pattern (cause : Pattern.Breakdown)
  | system (fault : SystemFault)
  /-- Something nests deeper than the machine can follow; the text says what was being done. -/
  | tooDeep (doing : Text)
  /-- A whole number has too many digits to be written. -/
  | tooManyDigits
  /-- A signature has code points without an encoding. -/
  | unencodable (run : BadRun)
  /-- A text could not be printed, for a reason that is told. -/
  | unprintable (reason : Text)
  /-- A value of some kind was to be gone through, but has no items. -/
  | notIterable (kind : Text)
  /-- A value of some kind was asked for a member, but is no object. -/
  | noMembers (kind : Text)
  /-- A double star stands inside a longer name. -/
  | badWildcard
  /-- It is not known how many lines around a hit are wanted. -/
  | noReach
  | unknownTier (name : Text)
  | unknownMode (name : Text)
  /-- A disassembler broke down. -/
  | crash (reason : Text)
deriving DecidableEq, Repr

/-- The wording of a fault. -/
def Fault.message : Fault → Text
  | .undecodable length cause =>
    "invalid hex bytecode (" ++ Text.ofNat length ++ " chars): " ++ cause.message
  | .disassembly cause => cause.message
  | .toolMissing tool hint =>
    "missing: " ++ tool ++ (if hint.isEmpty then ([] : Text) else " (" ++ hint ++ ")")
  | .unreadableArtifact path cause => path ++ ": " ++ cause.message
  | .artifactNotObject path => path ++ ": top-level JSON value is not an object"
  | .rules cause => cause.message
  | .inspection target cause => cause.message target
  | .read cause => cause.message
  | .pattern cause => cause.message
  | .system fault => fault.message
  | .tooDeep doing => "maximum recursion depth exceeded" ++ doing
  | .tooManyDigits =>
    "Exceeds the limit (" ++ Text.ofNat Text.digitLimit ++
      " digits) for integer string conversion; use sys.set_int_max_str_digits() to increase " ++
      "the limit"
  | .unencodable run => run.utf8Message
  | .unprintable reason => reason
  | .notIterable kind => "'" ++ kind ++ "' object is not iterable"
  | .noMembers kind => "'" ++ kind ++ "' object has no attribute 'get'"
  | .badWildcard => "Invalid pattern: '**' can only be an entire path component"
  | .noReach => "'<=' not supported between instances of 'list' and 'int'"
  | .unknownTier name => name.quoted ++ " is not a valid RiskTier"
  | .unknownMode name => name.quoted ++ " is not a valid ScanMode"
  | .crash reason => reason

/-- A search that failed ends the work it was for. -/
def Fault.ofSearch : FileTree.SearchFault → Fault
  | .system fault => .system fault
  | .tooDeep => .tooDeep []

/-- A value that cannot be quoted ends the work that was to quote it. -/
def Fault.ofQuoting : Json.Value.QuoteFault → Fault
  | .tooDeep => .tooDeep " while getting the repr of an object"
  | .tooManyDigits => .tooManyDigits

end DelegateAudit
