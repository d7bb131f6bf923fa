import ScriptAudit.File.Change
import ScriptAudit.Json.Parser
import ScriptAudit.Text.Utf8
import ScriptAudit.Value.Field

/-!
# File systems as data

A list of entries, each with a path and what is there: a text, bytes in hexadecimal, a link, a pipe
or a directory.

* `Entry.ofValue` : what is at a path.
* `FileSystem.ofEntries` : puts entries into a file system, one after the other.
-/

namespace ScriptAudit

/-- The bytes that pairs of hexadecimal digits stand for. -/
def hexBytes : List Char → List UInt8
  | a :: b :: rest =>
    UInt8.ofNat ((Json.hexValue? a).getD 0 * 16 + (Json.hexValue? b).getD 0) :: hexBytes rest
  | _ => []

/-- What an entry of a list says is there. -/
def Entry.ofValue (value : Value) : Entry :=
  match value.get? "hex", value.get? "link" with
  | some (.text digits), _ => .file (hexBytes digits.toList)
  | _, some (.text target) => .link target
  | _, _ =>
    if (value.field "dir").isSet then .directory []
    else if (value.field "fifo").isSet then .pipe
    else .file (Utf8.encodeString (value.textField "text" ""))

namespace FileSystem

/-- Puts an entry where a path says; where that cannot be, nothing is changed. -/
def placed (fs : FileSystem) (path : Path) (e : Entry) : FileSystem :=
  match fs.place path e with
  | .ok fs => fs
  | .error _ => fs

/-- Puts entries into a file system. Their paths may be relative to a directory. -/
def ofEntries (fs : FileSystem) (directory : Path) (entries : List Value) : FileSystem :=
  entries.foldl
    (fun fs e => fs.placed (directory.under (e.textField "path" "")) (.ofValue e)) fs

end FileSystem

end ScriptAudit
