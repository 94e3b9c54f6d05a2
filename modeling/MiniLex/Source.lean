import MiniLex.Diagnostic
import MiniLex.Text.Basic

/-!
Source files: paths, UTF-8 between bytes and text, file systems, and reading a file. The text of a
file is what its bytes decode to, with nothing added, dropped or replaced.
-/

namespace MiniLex

/-! ### Paths -/

/-- `root` is the slashes that an absolute path starts with, and empty for any other. -/
structure Path where
  root : Text
  parts : List Text
  deriving DecidableEq

namespace Path

def here : Text := ['.']

def parent : Text := ['.', '.']

def parse (s : Text) : Path :=
  { root :=
      match (s.takeWhile (· == '/')).length with
      | 0 => []
      | 2 => ['/', '/']
      | _ => ['/']
    parts := (s.splitOn '/').filter fun part => part != [] && part != here }

def display (p : Path) : Text :=
  if p.root = [] && p.parts = [] then here
  else p.root ++ List.intercalate ['/'] p.parts

end Path

/-! ### UTF-8 -/

namespace Text.Utf8

def encode (s : Text) : List UInt8 :=
  s.flatMap String.utf8EncodeChar

inductive Reason where
  | invalidStart
  | invalidContinuation
  | unexpectedEnd
  deriving DecidableEq

structure Fault where
  reason : Reason
  start : Nat
  deriving DecidableEq

def Reason.message : Reason → Text
  | invalidStart => "invalid start byte".toList
  | invalidContinuation => "invalid continuation byte".toList
  | unexpectedEnd => "unexpected end of data".toList

/-- A sequence under way: its first offset, the bits so far, the bytes to come, and the range in
which the next of them must lie. -/
structure Pending where
  start : Nat
  bits : Nat
  missing : Nat
  low : Nat
  high : Nat
  deriving DecidableEq

/-- What the first byte of a sequence of several bytes announces. The range of the second byte
rules out overlong forms, surrogates and values past the last code point. -/
def lead? (offset b : Nat) : Option Pending :=
  if 0xC2 ≤ b ∧ b ≤ 0xDF then some ⟨offset, b - 0xC0, 1, 0x80, 0xBF⟩
  else if b = 0xE0 then some ⟨offset, 0, 2, 0xA0, 0xBF⟩
  else if b = 0xED then some ⟨offset, 0xD, 2, 0x80, 0x9F⟩
  else if 0xE1 ≤ b ∧ b ≤ 0xEF then some ⟨offset, b - 0xE0, 2, 0x80, 0xBF⟩
  else if b = 0xF0 then some ⟨offset, 0, 3, 0x90, 0xBF⟩
  else if 0xF1 ≤ b ∧ b ≤ 0xF3 then some ⟨offset, b - 0xF0, 3, 0x80, 0xBF⟩
  else if b = 0xF4 then some ⟨offset, 4, 3, 0x80, 0x8F⟩
  else none

/-- Decode bytes from an offset on, with the sequence that may be under way there. -/
def decodeFrom (offset : Nat) : Option Pending → List UInt8 → Except Fault Text
  | none, [] => .ok []
  | some p, [] => .error ⟨.unexpectedEnd, p.start⟩
  | none, b :: bs =>
    if b.toNat < 0x80 then
      (decodeFrom (offset + 1) none bs).map (Char.ofNat b.toNat :: ·)
    else
      match lead? offset b.toNat with
      | none => .error ⟨.invalidStart, offset⟩
      | some p => decodeFrom (offset + 1) (some p) bs
  | some p, b :: bs =>
    if p.low ≤ b.toNat ∧ b.toNat ≤ p.high then
      let bits := p.bits * 0x40 + (b.toNat - 0x80)
      if p.missing ≤ 1 then
        (decodeFrom (offset + 1) none bs).map (Char.ofNat bits :: ·)
      else
        decodeFrom (offset + 1) (some ⟨p.start, bits, p.missing - 1, 0x80, 0xBF⟩) bs
    else .error ⟨.invalidContinuation, p.start⟩

def decode (bytes : List UInt8) : Except Fault Text :=
  decodeFrom 0 none bytes

end Text.Utf8

/-! ### File systems -/

inductive OpenError where
  | notFound
  | isDirectory
  | permissionDenied
  | other (reason : Text)
  deriving DecidableEq

abbrev FileSystem := Path → Except OpenError (List UInt8)

namespace OpenError

def reason : OpenError → Text
  | notFound => "file not found".toList
  | isDirectory => "is a directory".toList
  | permissionDenied => "permission denied".toList
  | other reason => reason

/-- The error that a system call reports by a number and a text. A missing text is made up from the
number. -/
def ofCode (code : Int) (text : Text) : OpenError :=
  if code = 2 then notFound
  else if code = 21 then isDirectory
  else if code = 1 ∨ code = 13 then permissionDenied
  else if text = [] then other ("[Errno ".toList ++ Text.ofInt code ++ "] ".toList)
  else other text

end OpenError

inductive FolderEntry where
  | file (bytes : List UInt8)
  | directory
  | broken (e : OpenError)
  deriving DecidableEq

/-- The content of a working directory. The directories on the way to an entry exist. -/
structure Folder where
  entries : List (Path × FolderEntry)
  deriving DecidableEq

namespace Folder

/-- A directory that a walk may stand in: one of the folder, given from the folder down without
parents, or one outside it. -/
inductive Place where
  | inside (parts : List Text)
  | outside
  deriving DecidableEq

def Place.parent : Place → Place
  | inside [] => outside
  | inside parts => inside parts.dropLast
  | outside => outside

inductive Node where
  | file (bytes : List UInt8)
  | directory
  deriving DecidableEq

def node? (folder : Folder) (parts : List Text) : Option Node :=
  match folder.entries.find? (fun e => e.1.parts == parts) with
  | some (_, .file bytes) => some (.file bytes)
  | some (_, .directory) => some .directory
  | _ =>
    if parts = [] || folder.entries.any (fun e => parts.isPrefixOf e.1.parts && e.1.parts != parts)
    then some .directory
    else none

def nameTooLong : OpenError :=
  .other "File name too long".toList

def maxNameLength : Nat := 255

def maxPathLength : Nat := 4095

/-- Walk along the parts of a path from a directory. Outside the folder there are directories, but
nothing is known by its name. -/
def walk (folder : Folder) (place : Place) : List Text → Except OpenError (List UInt8)
  | [] => .error .isDirectory
  | part :: rest =>
    if part = Path.parent then folder.walk place.parent rest
    else if maxNameLength < (Text.Utf8.encode part).length then .error nameTooLong
    else
      match place with
      | .outside => .error .notFound
      | .inside parts =>
        match folder.node? (parts ++ [part]) with
        | none => .error .notFound
        | some .directory => folder.walk (.inside (parts ++ [part])) rest
        | some (.file bytes) =>
          if rest = [] then .ok bytes else .error (.other "Not a directory".toList)

def start (path : Path) : Place :=
  if path.root = [] then .inside [] else .outside

/-- The folder as a file system. A broken entry is met under its own path only. -/
def fileSystem (folder : Folder) : FileSystem := fun path =>
  match folder.entries.lookup path with
  | some (.broken e) => .error e
  | _ =>
    if maxPathLength < (Text.Utf8.encode path.display).length then .error nameTooLong
    else folder.walk (start path) path.parts

end Folder

/-! ### Reading -/

inductive Encoding where
  | utf8
  | ascii
  | latin1
  | unknown (name : Text)
  deriving DecidableEq

/-- Why a source was not read. Only the first case is about the source; the others are mistakes
in the request. -/
inductive ReadError where
  | source (e : SourceError)
  | nullInPath
  | unknownEncoding (name : Text)
  deriving DecidableEq

namespace Encoding

def name : Encoding → Text
  | utf8 => "utf-8".toList
  | ascii => "ascii".toList
  | latin1 => "latin-1".toList
  | unknown name => name

def ofName (name : Text) : Encoding :=
  if name = utf8.name then utf8
  else if name = ascii.name then ascii
  else if name = latin1.name then latin1
  else unknown name

def decodeSingle (bytes : List UInt8) : Text :=
  bytes.map fun b => Char.ofNat b.toNat

/-- Decode bytes; a failure gives its cause and the offset where it starts. -/
def decode (bytes : List UInt8) : Encoding → Except (Text × Nat) Text
  | utf8 => (Text.Utf8.decode bytes).mapError fun fault => (fault.reason.message, fault.start)
  | ascii =>
    match bytes.findIdx? (0x80 ≤ ·) with
    | some i => .error ("ordinal not in range(128)".toList, i)
    | none => .ok (decodeSingle bytes)
  | _ => .ok (decodeSingle bytes)

end Encoding

namespace ReadError

def message : ReadError → Text
  | source e => e.message
  | nullInPath => "embedded null byte".toList
  | unknownEncoding name => "unknown encoding: ".toList ++ name

end ReadError

/-- Read a file and decode it. -/
def readSource (files : FileSystem) (path : Text) (encoding : Encoding) : Except ReadError Text :=
  let place := Path.parse path
  let unreadable reason : ReadError := .source ⟨place.display, reason⟩
  if path.contains '\x00' then .error .nullInPath
  else
    match files place with
    | .error e => .error (unreadable e.reason)
    | .ok bytes =>
      match encoding with
      | .unknown name => .error (.unknownEncoding name)
      | encoding =>
        (encoding.decode bytes).mapError fun (reason, start) =>
          unreadable ("not valid ".toList ++ encoding.name ++ " (".toList ++ reason ++
            " at byte ".toList ++ Text.ofNat start ++ ")".toList)

def sourceRecords (path text : Text) : List Record :=
  let place := (Path.parse path).display
  [.loaded place text.length, .content place text]

end MiniLex
