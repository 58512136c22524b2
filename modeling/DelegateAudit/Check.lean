import DelegateAudit.Evidence

/-!
# DelegateAudit — checking one contract

The code of one contract is obtained from an external program and disassembled without
its metadata tail. Every DELEGATECALL is printed with the number of its line or with the
lines around it. Only if there is none, the code is disassembled with its tail as well, to
tell whether the tail has one.
-/

namespace DelegateAudit.Check

/-- Ask the external program for the code of a contract. -/
def inspect (tools : Toolbox) (tool : Text) (limit : TimeLimit) (target : Text) : Run Text := do
  Run.emit (.process ⟨[tool, "inspect", target, "deployedBytecode"], none, limit⟩)
  match tools.run tool none with
  | .notFound => Run.fail (.toolMissing tool [])
  | .timedOut => Run.fail (.inspection target (.timedOut limit))
  | .denied => Run.fail (.system ⟨.accessDenied, tool⟩)
  | .finished result =>
    if result.status = 0 then pure result.output.cleanHex
    else
      let reason := result.lastComplaint?.getD (Text.ofInt result.status)
      Run.fail (.inspection target (.failed reason))

/-! ## Lines around a hit -/

/-- The part of a list before a position; a negative position counts from the end. -/
def takeTo (lines : List Text) (stop : Int) : List Text :=
  lines.take (if stop < 0 then lines.length + stop else stop).toNat

/-- The lines around the line of a given number. -/
def around (lines : List Text) (number reach : Int) : List Text :=
  (takeTo lines (number + reach)).drop (max 1 (number - reach) - 1).toNat

/-- For every number, a heading and the lines around; the headings are numbered from the given one
on. -/
def blocksFrom (lines : List Text) (reach : Int) : (heading : Nat) → List Int → List Text
  | _, [] => []
  | heading, number :: rest =>
    ("---- match " ++ Text.ofNat heading ++ " ----" : Text) :: around lines number reach ++
      blocksFrom lines reach (heading + 1) rest

/-- For every number, a heading and the lines around. -/
def blocks (lines : List Text) (numbers : List Int) (reach : Int) : List Text :=
  blocksFrom lines reach 1 numbers

/-! ## The report -/

/-- A line with its number. -/
def numberedLine (lines : List Text) (number : Nat) : Text :=
  Text.ofNat number ++ ":" ++ lines.getD (number - 1) []

/-- The texts about the hits in some lines. -/
def hitTexts (lines : List Text) (reach : Int) : List Text :=
  let numbers := Listing.hits lines
  if reach ≤ 0 then numbers.map (numberedLine lines)
  else blocks lines (numbers.map Int.ofNat) reach

/-- How many hits there are in the code with its tail. Failing to find out is worth only
a notice. -/
def fullCount (d : Disassembler) (code : Bytecode) : Run Nat := do
  match ← (d.listing code).attempt with
  | .ok lines => pure (Listing.hitCount lines)
  | .error fault =>
    if fault.isNoLines then
      Run.notice ("warning: full bytecode disassembly failed: " ++ fault.message)
      pure 0
    else Run.fail fault

/-- What is printed before the hits. -/
def heading : Text := "cast disassemble (reachable code; metadata stripped):"

/-- Print what is found in the code of a contract. -/
def report (d : Disassembler) (hex : Option Text) (reach : Int) : Run Unit := do
  let code := Bytecode.ofText hex
  let lines ← d.listing code.stripped
  let count := Listing.hitCount lines
  Run.print heading
  Run.each Run.print (hitTexts lines reach)
  Run.print ("DELEGATECALL count (reachable): " ++ Text.ofNat count)
  if count = 0 then
    let full ← fullCount d code
    if 0 < full then
      Run.print "Note: DELEGATECALL appears only in the metadata tail (unreachable)."

/-- Print what is found in the code of a contract, when it is not known how many lines around a hit
are wanted. That fails as soon as there are lines to choose from. -/
def reportUnbounded (d : Disassembler) (hex : Option Text) : Run Unit := do
  let _ ← d.listing (Bytecode.ofText hex).stripped
  Run.print heading
  Run.fail .noReach

end DelegateAudit.Check
