import Groundwork.Catalog.Document
import Groundwork.Path

/-!
# Catalogs in files

The manifests of a catalog that is read from a file are meant as seen from the file's directory.
Urls and absolute paths stay what they are.
-/

namespace Groundwork.Catalog

/-- Whether a manifest is given by a url. -/
def isUrl (manifest : String) : Bool :=
  Text.startsWith manifest "http://" || Text.startsWith manifest "https://"

/-- A manifest as seen from a directory. -/
def locateManifest (directory manifest : String) : String :=
  if Path.isAbsolute manifest || isUrl manifest then manifest else Path.joined directory manifest

/-- The catalog with its manifests as seen from a directory. -/
def locate (directory : String) (c : Catalog) : Catalog :=
  { c with units := c.units.map fun u =>
      { u with manifest := u.manifest.map (locateManifest directory) } }

/-- The catalog that the content of the file at `path` describes. -/
def parseFile (path : String) (content : Except IoFault String) : Except SetupError Catalog :=
  match content with
  | .error fault => .error (.io fault)
  | .ok text => (parse text).map (locate ((Path.directory? path).getD "."))

end Groundwork.Catalog
