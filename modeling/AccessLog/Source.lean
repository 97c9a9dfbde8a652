import AccessLog.Parser
import AccessLog.Glob
import AccessLog.Archive.EntryData

/-!
# Parsing files and archives

Files are found in a `FileTree`: nodes at paths, each a file of bytes or a directory. A path is
read as its components between slashes, empty components and `.` dropped; a directory also
exists when some node lies beneath it, and the empty path leads to the top directory. The
components are then walked from the top directory, or for an absolute path from the root of the
system, in which nothing of the tree is known: each component but the last must lead to a
directory, and `..` goes up one.

Before a file is read its path is checked: it must be given, exist, and not be a directory.

A file's bytes are read as UTF-8 text in reads of `readSize` bytes, a character cut by the end of
a read being completed by the next. The text is cut into lines at line feeds, each line losing
one final carriage return. When the bytes break off — a gzip member or an archive entry that
cannot be read further, or bytes that are not UTF-8 — the lines completed before the break are
read, and the parse stops at the next line with the fault.

* `Parser.parseFile` reads a plain file, or a gzip file when its name ends in `.gz` (in any
  case) or its bytes start with the gzip signature.
* `Parser.parseGzip` reads a gzip file, refusing one without the signature.
* `Parser.parseZip` reads the entries of a zip archive whose names match a glob, in directory
  order, skipping directories. The glob is checked first, then the path, then that the file is
  an archive at all. Before each entry is sought the parse may be cancelled. Each entry is read
  with line numbers restarting at one, and its tally is merged into the archive's under the
  entry's name. An entry that cannot be opened stops the parse without a line number.

Every tally is named after the last component of the path.

## Main statements

* `pathParts_no_dot`: no component of a path is `.`.
* `FileTree.walk_above_name`: above the top directory no name leads anywhere.
-/

namespace AccessLog

open AccessLog.Archive AccessLog.Text

/-- What a path leads to. -/
inductive FileNode where
  /-- A file and its bytes. -/
  | file (bytes : ByteArray)
  /-- A directory. -/
  | directory
  deriving Inhabited

/-- A tree of files and directories, as the paths of its nodes; a later node at the same path
replaces an earlier one. -/
structure FileTree where
  /-- The nodes, by path components. -/
  nodes : List (List String × FileNode) := []
  deriving Inhabited

/-- The components of a path: separated by slashes, without empty components and `.`. -/
def pathParts (path : String) : List String :=
  (pieces "/" path).filter fun p => !p.isEmpty && p != "."

theorem pathParts_no_dot (path : String) : "." ∉ pathParts path := by
  simp [pathParts]

namespace FileTree

/-- Adds a node at a path. -/
def insert (t : FileTree) (path : String) (node : FileNode) : FileTree :=
  ⟨t.nodes ++ [(pathParts path, node)]⟩

/-- The node at the components `parts` below the top directory, if any: the last node added
there, or a directory when some node lies beneath it. -/
def nodeAt (t : FileTree) (parts : List String) : Option FileNode :=
  match (t.nodes.filter (·.1 == parts)).getLast? with
  | some (_, n) => some n
  | none =>
    if parts.isEmpty || t.nodes.any (fun (q, _) => parts.isPrefixOf q && parts.length < q.length)
    then some .directory else none

/-- Whether the place `here` is a directory: a place inside the tree, by its components, or
(`none`) a directory above the top one. -/
def isDirectoryAt (t : FileTree) : Option (List String) → Bool
  | none => true
  | some ps => match t.nodeAt ps with
    | some .directory => true
    | _ => false

/-- The place one step from the directory `here` leads to: `..` goes up, past the top directory
to the directories above it, where no name is known; any other name must exist. -/
def step (t : FileTree) (here : Option (List String)) (name : String) :
    Option (Option (List String)) :=
  if name == ".." then
    match here with
    | some [] | none => some none
    | some ps => some (some ps.dropLast)
  else
    match here with
    | none => none
    | some ps => if (t.nodeAt (ps ++ [name])).isSome then some (some (ps ++ [name])) else none

/-- Walks the components of a path from the directory `here`: every component but the last must
lead to a directory. Gives the place reached, or `none` when the path leads nowhere. -/
def walk (t : FileTree) (here : Option (List String)) : List String → Option (Option (List String))
  | [] => some here
  | [name] => t.step here name
  | name :: rest =>
    match t.step here name with
    | some next => if t.isDirectoryAt next then t.walk next rest else none
    | none => none

/-- What a path leads to, if anything. A relative path starts at the top directory, an absolute
one at the root of the system, above it. -/
def lookup (t : FileTree) (path : String) : Option FileNode :=
  let start := if path.startsWith "/" then none else some []
  match t.walk start (pathParts path) with
  | some (some ps) => t.nodeAt ps
  | some none => some .directory
  | none => none

theorem walk_above_name (t : FileTree) (name : String) (h : name ≠ "..") :
    t.walk none [name] = none := by
  simp [walk, step, h]

/-- Checks a path to be read: given, existing, and not a directory; gives the file's bytes. -/
def checkPath (t : FileTree) (path : String) : Except Error ByteArray :=
  if path.isEmpty then .error (.source .emptyPath "")
  else
    match t.lookup path with
    | none => .error (.source .missing path)
    | some .directory => .error (.source .directory path)
    | some (.file b) => .ok b

end FileTree

/-- The part of a text up to its last line feed, included. -/
def completeLines (cs : List Char) : List Char :=
  (cs.reverse.dropWhile (· != '\n')).reverse

/-- The lines of bytes read as UTF-8 text: all of them when the bytes are whole, else the lines
completed before the break, with its fault. -/
def Archive.ByteFeed.lines (f : ByteFeed) : LineFeed :=
  let pieces := f.pieces.map ByteArray.toList
  let (chars, bad) :=
    match f.failure with
    | none => decodePieces [] [] pieces
    | some _ => decodePiecesBefore [] [] pieces
  match (bad.map ReadFault.undecodable).or f.failure with
  | none => LineFeed.ofText (String.ofList chars)
  | some fault => ⟨textLines (String.ofList (completeLines chars)), some fault⟩

/-- The bytes of a plain file, read by read. -/
def plainFeed (bytes : ByteArray) : ByteFeed := ⟨cutReads bytes, none⟩

/-- Whether a file name's suffix, lowered, is `.gz`; the suffix runs from the last dot, when that
dot is neither the first nor the last character. -/
def hasGzipSuffix (name : String) : Bool :=
  let cs := name.toList
  match ((cs.zipIdx).filter (·.1 == '.')).getLast? with
  | some (_, i) => 0 < i && i + 1 < cs.length && lowerString (String.ofList (cs.drop i)) == ".gz"
  | none => false

/-- Whether bytes start with the gzip signature. -/
def startsWithGzipSignature (b : ByteArray) : Bool :=
  b.size ≥ 2 && b[0]! == 0x1f && b[1]! == 0x8b

/-- The error of an archive entry that cannot be opened. -/
def Archive.EntryProblem.toError : EntryProblem → Error
  | .read f => .line (.entryFailed f) none ""
  | .unsupported m => .unsupported m
  | .encrypted m => .encrypted m

/-- Seeks the next entry to read: not a directory, matching the glob, and opened. Gives the
entry, where its data starts, and the entries after it. -/
def nextEntry (bytes : ByteArray) (glob : Value) :
    List ZipEntry → Except Error (Option (ZipEntry × Nat × List ZipEntry))
  | [] => .ok none
  | e :: rest =>
    match e.isDirectory? with
    | none => .error (.value (.outOfRange "string index out of range"))
    | some true => nextEntry bytes glob rest
    | some false =>
      match matchEntryValue e.name glob with
      | .error err => .error err
      | .ok false => nextEntry bytes glob rest
      | .ok true =>
        match openEntry bytes e with
        | .error p => .error p.toError
        | .ok start => .ok (some (e, start, rest))

/-- Whether a cancellation budget lets the parse go on. -/
def budgetLeft (budget : Option Nat) : Bool := budget != some 0

/-- Reads the entries of an archive, the last cancellation check having passed: seeks the next
entry, reads it, merges its tally, and checks again. -/
def readEntries (bytes : ByteArray) (glob : Value) :
    (fuel : Nat) → (budget : Option Nat) → Pipeline → Tally → String → List ZipEntry →
    String × Except Error Tally
  | 0, _, _, t, w, _ => (w, .ok t)
  | fuel + 1, budget, pl, t, w, entries =>
    match nextEntry bytes glob entries with
    | .error e => (w, .error e)
    | .ok none => (w, .ok t)
    | .ok (some (e, start, rest)) =>
      let feed := (entryFeed bytes e start).lines
      let start : Progress := { pipeline := pl.startEntry (some e.name) }
      let (g, r) := feedLines none feed.failure start feed.lines
      let w := w ++ g.written
      match r with
      | .error err => (w, .error err)
      | .ok _ =>
        let t := t.absorb { g.tally with source := e.name } e.name
        if budgetLeft budget then
          readEntries bytes glob fuel (budget.map (· - 1)) g.pipeline t w rest
        else (w, .ok { t with cancelled := true })

namespace Parser

/-- Parses a file, plain or gzip. -/
def parseFile (p : Parser) (t : FileTree) (path : String) : Run :=
  match p.prepare with
  | .error e => ⟨"", .error e⟩
  | .ok pl =>
    match t.checkPath path with
    | .error e => ⟨"", .error e⟩
    | .ok bytes =>
      let name := baseName path
      let feed := if hasGzipSuffix name || startsWithGzipSignature bytes then readGzip bytes
        else plainFeed bytes
      runFeed pl feed.lines name

/-- Parses a gzip file. -/
def parseGzip (p : Parser) (t : FileTree) (path : String) : Run :=
  match p.prepare with
  | .error e => ⟨"", .error e⟩
  | .ok pl =>
    match t.checkPath path with
    | .error e => ⟨"", .error e⟩
    | .ok bytes =>
      if !startsWithGzipSignature bytes then ⟨"", .error (.source .notGzip path)⟩
      else runFeed pl (readGzip bytes).lines (baseName path)

/-- Parses the entries of a zip archive that match a glob. -/
def parseZip (p : Parser) (t : FileTree) (path : String) (glob : Value)
    (budget : Option Nat := none) :
    Run :=
  let check : Except Error (Pipeline × ByteArray) := do
    let pl ← p.prepare
    validateGlobValue glob
    let bytes ← t.checkPath path
    match isZipArchive bytes with
    | .error f => throw (.archive f)
    | .ok false => throw (.source .notZip path)
    | .ok true => pure (pl, bytes)
  match check with
  | .error e => ⟨"", .error e⟩
  | .ok (pl, bytes) =>
    let name := baseName path
    if !budgetLeft budget then ⟨"", .ok { source := name, cancelled := true }⟩
    else
      match readDirectory bytes with
      | .error prob => ⟨"", .error prob.toError⟩
      | .ok entries =>
        let (w, r) := readEntries bytes glob (entries.length + 1) (budget.map (· - 1)) pl {} ""
          entries
        ⟨w, r.map fun tally => { tally with source := name }⟩

end Parser

end AccessLog
