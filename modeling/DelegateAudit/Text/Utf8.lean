import DelegateAudit.Bytes

/-!
# DelegateAudit — UTF-8

Text to bytes and back. Encoding fails on lone surrogates, which have no bytes.
Decoding goes one character at a time (`Utf8.step`): a character, or a fault that
covers the longest start of a well-formed sequence found there. Strict decoding
stops at the first fault and reports its place; lenient decoding puts one U+FFFD in
the place of each.

Files are read as text with `\r\n` and `\r` turned into `\n`, and source files are
searched line by line, a line ending only there.

File names are bytes that need not be UTF-8. In a text, a byte that is part of no character
stands as one of the surrogates U+DC80 to U+DCFF, and such a surrogate in a name that is looked
up stands for this byte. So a name can be spelled in more than one way, and `Text.stored` is the
way in which a directory lists it.

## Contents

* `Text.encodeUtf8`            — bytes of a text, or the first run without any.
* `Utf8.step`                  — the next character of a byte string.
* `Bytes.decodeUtf8`           — strict decoding.
* `Bytes.decodeUtf8Lossy`      — lenient decoding.
* `Text.fileSize`, `Text.stored` — names of files.
* `Text.withoutByteOrderMark`, `Text.unifyNewlines`, `Text.fileLines` — text files.
-/

namespace DelegateAudit

/-- The bytes of a text, or the first run of surrogates, which have none. -/
def Text.encodeUtf8 (t : Text) : Except BadRun Bytes :=
  match BadRun.find? (fun c => match c with | .scalar _ => false | .surrogate _ => true) 0 t with
  | some run => .error run
  | none => .ok (t.flatMap fun
    | .scalar c => String.utf8EncodeChar c
    | .surrogate _ => [])

namespace Utf8

/-- Why a byte sequence is no character. -/
inductive Reason where
  | invalidStart
  | invalidContinuation
  | unexpectedEnd
deriving DecidableEq, Repr

/-- A decoding fault: where it starts, the byte there, how many bytes it covers, and why. -/
structure Fault where
  start : Nat
  lead : UInt8
  size : Nat
  reason : Reason
deriving DecidableEq, Repr

/-- The wording of a decoding fault. -/
def Fault.message (fault : Fault) : Text :=
  let place : Text :=
    if fault.size ≤ 1 then
      "byte 0x" ++ Text.ofHex 2 fault.lead.toNat ++ " in position " ++ Text.ofNat fault.start
    else
      "bytes in position " ++ Text.ofNat fault.start ++ "-" ++
        Text.ofNat (fault.start + fault.size - 1)
  let reason : Text :=
    match fault.reason with
    | .invalidStart => "invalid start byte"
    | .invalidContinuation => "invalid continuation byte"
    | .unexpectedEnd => "unexpected end of data"
  "'utf-8' codec can't decode " ++ place ++ ": " ++ reason

/-- What stands at the front of a byte string: a character, or a fault of some size. -/
inductive Step where
  | char (c : Char) (size : Nat)
  | fault (reason : Reason) (size : Nat)

/-- Read the bytes that must follow a lead byte, each in its own range. -/
def follow : List (Nat × Nat) → (code size : Nat) → Bytes → Step
  | [], code, size, _ => .char (Char.ofNat code) size
  | _ :: _, _, size, [] => .fault .unexpectedEnd size
  | (lo, hi) :: ranges, code, size, b :: rest =>
    if lo ≤ b.toNat && b.toNat ≤ hi then
      follow ranges (64 * code + (b.toNat - 0x80)) (size + 1) rest
    else .fault .invalidContinuation size

/-- The range of the second byte. It rules out long spellings, surrogates and numbers past the
last code point. -/
def secondRange (lead : Nat) : Nat × Nat :=
  if lead = 0xE0 then (0xA0, 0xBF)
  else if lead = 0xED then (0x80, 0x9F)
  else if lead = 0xF0 then (0x90, 0xBF)
  else if lead = 0xF4 then (0x80, 0x8F)
  else (0x80, 0xBF)

/-- The next character after a lead byte and what follows it. -/
def step (lead : UInt8) (rest : Bytes) : Step :=
  let n := lead.toNat
  if n < 0x80 then .char (Char.ofNat n) 1
  else if n < 0xC2 then .fault .invalidStart 1
  else if n < 0xE0 then follow [secondRange n] (n - 0xC0) 1 rest
  else if n < 0xF0 then follow [secondRange n, (0x80, 0xBF)] (n - 0xE0) 1 rest
  else if n < 0xF5 then follow [secondRange n, (0x80, 0xBF), (0x80, 0xBF)] (n - 0xF0) 1 rest
  else .fault .invalidStart 1

/-- Strict decoding from a position on, `skip` bytes being part of the last character. -/
def decodeFrom : (skip position : Nat) → (done : Text) → Bytes → Except Fault Text
  | _, _, done, [] => .ok done.reverse
  | skip + 1, position, done, _ :: rest => decodeFrom skip (position + 1) done rest
  | 0, position, done, b :: rest =>
    match step b rest with
    | .char c size => decodeFrom (size - 1) (position + 1) (.scalar c :: done) rest
    | .fault reason size => .error ⟨position, b, size, reason⟩

/-- Lenient decoding, `skip` bytes being part of the last character or fault. -/
def decodeLossyFrom : (skip : Nat) → (done : Text) → Bytes → Text
  | _, done, [] => done.reverse
  | skip + 1, done, _ :: rest => decodeLossyFrom skip done rest
  | 0, done, b :: rest =>
    match step b rest with
    | .char c size => decodeLossyFrom (size - 1) (.scalar c :: done) rest
    | .fault _ size => decodeLossyFrom (size - 1) (.scalar '�' :: done) rest

/-- Decoding that loses nothing, `skip` bytes being part of the last character: a byte that is part
of no character stands as the surrogate that escapes it. -/
def decodeEscapedFrom : (skip : Nat) → (done : Text) → Bytes → Text
  | _, done, [] => done.reverse
  | skip + 1, done, _ :: rest => decodeEscapedFrom skip done rest
  | 0, done, b :: rest =>
    match step b rest with
    | .char c size => decodeEscapedFrom (size - 1) (.scalar c :: done) rest
    | .fault _ _ => decodeEscapedFrom 0 (.ofValue (0xDC00 + b.toNat) :: done) rest

end Utf8

/-- The text of a byte string, or the first fault in it. -/
def Bytes.decodeUtf8 (bytes : Bytes) : Except Utf8.Fault Text := Utf8.decodeFrom 0 0 [] bytes

/-- The text of a byte string, one U+FFFD for each fault. -/
def Bytes.decodeUtf8Lossy (bytes : Bytes) : Text := Utf8.decodeLossyFrom 0 [] bytes

/-! ## File names -/

/-- Does the code point stand for a single byte that is part of no character? -/
def CodePoint.isEscape (c : CodePoint) : Bool := c.between 0xDC80 0xDCFF

/-- The bytes of a code point in the name of a file. The other surrogates have none. -/
def CodePoint.fileBytes (c : CodePoint) : Bytes :=
  match c with
  | .scalar d => String.utf8EncodeChar d
  | .surrogate _ => if c.isEscape then [UInt8.ofNat (c.value - 0xDC00)] else []

/-- How many bytes these are. -/
def CodePoint.fileSize (c : CodePoint) : Nat :=
  match c with
  | .scalar d => d.utf8Size
  | .surrogate _ => if c.isEscape then 1 else 0

namespace Text

/-- How many bytes a text has in the name of a file. -/
def fileSize : Text → Nat
  | [] => 0
  | c :: rest => c.fileSize + fileSize rest

/-- The name of a file as its directory lists it. -/
def stored (name : Text) : Text :=
  if name.any CodePoint.isEscape then
    Utf8.decodeEscapedFrom 0 [] (name.flatMap CodePoint.fileBytes)
  else name

/-! ## Text files -/

/-- A text without the byte order mark that it may start with. -/
def withoutByteOrderMark : Text → Text
  | [] => []
  | c :: rest => if c.value = 0xFEFF then rest else c :: rest

/-- Every line ends in a line feed alone. -/
def unifyNewlines : Text → Text
  | [] => []
  | .scalar '\r' :: .scalar '\n' :: rest => .scalar '\n' :: unifyNewlines rest
  | .scalar '\r' :: rest => .scalar '\n' :: unifyNewlines rest
  | c :: rest => c :: unifyNewlines rest

/-- The lines of a text, each with the line feed that ends it; the last one may have none. -/
def fileLines : Text → List Text
  | [] => []
  | c :: rest =>
    if c = '\n' then [c] :: fileLines rest
    else
      match fileLines rest with
      | [] => [[c]]
      | line :: more => (c :: line) :: more

end Text
end DelegateAudit
