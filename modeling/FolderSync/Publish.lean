import FolderSync.Manifest

/-!
# Publishing

How a server writes a manifest: `publishedEntry` describes one content under a name and an address,
and `publishedManifest` puts entries together.
-/

namespace FolderSync

/-- The text without a pattern that is repeated at its start. -/
def trimStartAll (pattern : List Char) (text : List Char) : List Char :=
  if pattern ≠ [] ∧ pattern.isPrefixOf text = true then
    trimStartAll pattern (text.drop pattern.length)
  else text
termination_by text.length
decreasing_by
  rename_i h
  have hp : 0 < pattern.length := List.length_pos_iff.2 h.1
  have hle := (List.isPrefixOf_iff_prefix.1 h.2).length_le
  simp only [List.length_drop]
  omega

/-- The text without a pattern that is repeated at its end. -/
def trimEndAll (pattern : List Char) (text : List Char) : List Char :=
  (trimStartAll pattern.reverse text.reverse).reverse

/-- The project of a file: its name without the usual opening and ending. -/
def projectOf (filename : String) : String :=
  let f : Filter := {}
  String.ofList (trimEndAll f.ending.toList (trimStartAll f.opening.toList filename.toList))

/-- The entry of a manifest for a content that can be fetched at an address. -/
def publishedEntry (filename : String) (content : Bytes) (url : String) : Json :=
  .objectOf [
    ("filename", .string filename),
    ("project_name", .string (projectOf filename)),
    ("download_url", .string url),
    ("size", .integer content.length),
    ("sha1", .string (ContentHash.of content).hex)]

/-- The manifest with the given entries. -/
def publishedManifest (entries : List Json) : Json :=
  .objectOf [
    ("success", .boolean true),
    ("server_ip", .string "127.0.0.1"),
    ("mods_count", .integer entries.length),
    ("mods", .array entries)]

end FolderSync
