import AccessLog.Config.Settings
import AccessLog.Source
import AccessLog.Yaml.Load

/-!
# Loading configuration files

A configuration file is a YAML document holding a mapping. It is read as UTF-8 text with
universal newlines — carriage return and line feed, or a lone carriage return, become a line
feed — and loaded; a missing or null document is the empty mapping.

The failures are those of opening a file — it must exist and not be a directory — then, as the
loader reads on, bytes that are not UTF-8 and text that is not YAML (reported with the file's
displayed path inside the loader's message), a document nested too deep, then a value that
cannot be built, and a document that is not a mapping. The bytes are decoded in reads of
`readSize` bytes, so a broken byte is met only when the loader needs the characters of its
read.

Settings are loaded from a configuration file when one is given and exists; otherwise they come
from the environment, with a warning when a file was named but is missing.
-/

namespace AccessLog

open AccessLog.Text AccessLog.Archive AccessLog.Yaml

/-- A path as it is displayed: its root — one slash, or two when the path starts with exactly
two — then its components without empty ones and `.`; `.` when nothing is left. -/
def pathDisplay (path : String) : String :=
  let slashes := (path.toList.takeWhile (· == '/')).length
  let root := if slashes == 0 then "" else if slashes == 2 then "//" else "/"
  let body := "/".intercalate (pathParts path)
  if root.isEmpty && body.isEmpty then "." else root ++ body

/-- Universal newlines: each carriage return, with the line feed after it if there is one,
becomes a line feed. -/
def universalNewlines : List Char → List Char
  | '\r' :: '\n' :: rest => '\n' :: universalNewlines rest
  | '\r' :: rest => '\n' :: universalNewlines rest
  | c :: rest => c :: universalNewlines rest
  | [] => []

/-- Reads a configuration file: the mapping it holds. -/
def loadConfig (t : FileTree) (path : String) : Except Error Value := do
  let shown := pathDisplay path
  match t.lookup path with
  | none => throw (.configMissing path)
  | some .directory => throw (.isDirectory shown)
  | some (.file bytes) =>
    let (chars, bad) := decodePieces [] [] ((cutReads bytes).map ByteArray.toList)
    -- a carriage return ending what was decoded before a break waits for what follows it
    let chars := if bad.isSome && chars.getLast? == some '\r' then chars.dropLast else chars
    match loadChars (universalNewlines chars) bad with
    | .error (.yaml e) => throw (.config ("Invalid YAML in " ++ path ++ ": " ++ e.render shown))
    | .error (.value f) => throw (.value f)
    | .error (.undecodable f) => throw (.undecodable f)
    | .error .tooDeep => throw (.recursion "maximum recursion depth exceeded")
    | .ok none | .ok (some .none) => return .dict []
    | .ok (some v) =>
      if let .dict _ := v.peel then return v
      throw (.config ("Config file " ++ path ++ " must contain a mapping, got " ++ v.kindName))

/-- Loads settings from a configuration file when one is named and exists, else from the
environment. Gives the warnings logged on the way, and the settings. -/
def loadSettings (t : FileTree) (path : Option String) (env : List (String × String)) :
    List String × Except Error Settings :=
  match path with
  | some p =>
    if p.isEmpty then ([], .ok (Settings.ofEnv env))
    else if (t.lookup p).isSome then
      ([], do (Settings.ofValue (← loadConfig t p)).mapError .value)
    else (["Config file " ++ p ++ " not found, using environment"], .ok (Settings.ofEnv env))
  | none => ([], .ok (Settings.ofEnv env))

end AccessLog
