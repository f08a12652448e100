import NumberedBasic.Table
import NumberedBasic.Text.Utf8

/-! # Files

A directory lists files by the names of the folders that lead to them. Looking a path
up enters the folders before its last name, one after the other, and fails where there
is none.
-/

namespace NumberedBasic

/-- Names separated by slashes, behind the slashes of an absolute path. -/
structure Path where
  root : Text
  names : List Text
  deriving DecidableEq, Repr

namespace Path

def parent : Text := ['.', '.']

/-- Reads a path. Empty names and single dots lead nowhere and are dropped. -/
def ofText (text : Text) : Path :=
  let slashes := (text.takeWhile (· == '/')).length
  ⟨List.replicate (if slashes = 2 then 2 else min slashes 1) '/',
    (text.splitAt '/').filter fun name => !name.isEmpty && name != ['.']⟩

def text (p : Path) : Text :=
  if p.root.isEmpty && p.names.isEmpty then ['.']
  else p.root ++ ['/'].intercalate p.names

def size (p : Path) : Nat :=
  (String.ofList p.text).utf8ByteSize

/-- Goes up for every parent name, whatever the names before it lead to. -/
def resolve (names : List Text) : List Text :=
  names.foldl (fun folder name => if name = parent then folder.dropLast else folder ++ [name]) []

end Path

inductive FileError where
  | missing
  | isFolder
  | notFolder
  | nameTooLong
  deriving DecidableEq, Repr

def FileError.message : FileError → String
  | missing => "No such file or directory"
  | isFolder => "Is a directory"
  | notFolder => "Not a directory"
  | nameTooLong => "File name too long"

/-- What a file holds: text, or octets that are no text, with the text that is decoded
before this is found out. -/
inductive Content where
  | text (text : Text)
  | binary (before : Text)
  deriving DecidableEq, Repr

namespace Content

/-- Files are decoded by so many octets at once. -/
def portion : Nat := 8192

/-- Decodes a file. Nothing is decoded of a portion with a broken octet; that the last
character is not complete is found out at the end. -/
def ofOctets (octets : List UInt8) : Content :=
  let d := Utf8.decode octets
  if d.unread.isEmpty then
    if d.unfinished.isEmpty then .text d.text else .binary d.text
  else
    let whole := (octets.length - d.unread.length) / portion * portion
    .binary (Utf8.decode (octets.take whole)).text

/-- The lines that are read from a file, the last of which may lack its end in a text. -/
def lines : Content → List Text
  | text t => t.lines
  | binary before => before.wholeLines

end Content

/-- All files, by the names that lead to them from the root, and the folder in which
relative paths start. -/
structure Directory where
  location : List Text
  files : Table (List Text) Content

namespace Directory

def nameLimit : Nat := 255

def pathLimit : Nat := 4095

def isTooLong (name : Text) : Bool :=
  decide (nameLimit < (String.ofList name).utf8ByteSize)

/-- The folder where relative paths start lies in the folder, or some file does. -/
def hasFolder (d : Directory) (folder : List Text) : Bool :=
  folder.isPrefixOf d.location ||
    d.files.keys.any fun file => folder.isPrefixOf file && decide (folder.length < file.length)

def enter (d : Directory) (folder : List Text) (name : Text) : Except FileError (List Text) :=
  if isTooLong name then .error .nameTooLong
  else if name = Path.parent then .ok folder.dropLast
  else if d.hasFolder (folder ++ [name]) then .ok (folder ++ [name])
  else if d.files.contains (folder ++ [name]) then .error .notFolder
  else .error .missing

def start (d : Directory) (p : Path) : List Text :=
  if p.root.isEmpty then d.location else []

def refuseIf (refused : Bool) (error : FileError) : Except FileError Unit :=
  if refused then .error error else .ok ()

/-- The place of the file that a path names, whether it exists or not. -/
def locate (d : Directory) (p : Path) : Except FileError (List Text) := do
  refuseIf (pathLimit < p.size) .nameTooLong
  match p.names.getLast? with
  | none => throw .isFolder
  | some last =>
    let folder ← p.names.dropLast.foldlM d.enter (d.start p)
    refuseIf (last = Path.parent) .isFolder
    refuseIf (isTooLong last) .nameTooLong
    refuseIf (d.hasFolder (folder ++ [last])) .isFolder
    return folder ++ [last]

def read (d : Directory) (p : Path) : Except FileError Content := do
  match d.files.get? (← d.locate p) with
  | some content => return content
  | none => throw .missing

def put (d : Directory) (file : List Text) (content : Content) : Directory :=
  { d with files := d.files.insert file content }

def write (d : Directory) (p : Path) (text : Text) : Except FileError Directory := do
  return d.put (← d.locate p) (.text text)

def absolute (d : Directory) (p : Path) : Path :=
  ⟨['/'], Path.resolve (d.start p ++ p.names)⟩

/-- Whether a path names a file; a name too long to look for is an error. -/
def hasFile (d : Directory) (p : Path) : Except FileError Bool :=
  match d.read p with
  | .ok _ => .ok true
  | .error .nameTooLong => .error .nameTooLong
  | .error _ => .ok false

end Directory

end NumberedBasic
