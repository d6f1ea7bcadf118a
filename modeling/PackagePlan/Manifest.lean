import PackagePlan.Paths
import PackagePlan.Spec
import PackagePlan.Text.Lines
import PackagePlan.Text.Lowercase

/-! # Package manifests

The APKBUILD by which the packaging tool makes the package.  It fetches and compiles nothing:
its `package` copies what the build has put together. -/

namespace PackagePlan.Manifest

/-- The name of the manifest's file. -/
def fileName : String := "APKBUILD"

/-- The line that assigns a value to a shell variable. -/
def assignment (name value : String) : String := s!"{name}=\"{value}\""

/-- The assignments that depend on the spec, in the order in which they are written. -/
def fields (spec : Spec) : List (String × String) :=
  [("pkgname", Text.lowercase spec.name),
   ("pkgver", spec.version),
   ("pkgrel", toString spec.epoch.toNat),
   ("pkgdesc", spec.description),
   ("url", spec.url),
   ("arch", "all"),
   ("license", spec.license),
   ("depends", " ".intercalate spec.runtime),
   ("options", "!check !strip"),
   ("source", "")]

/-- The functions of the manifest. -/
def functionLines : List String :=
  ["",
   "build() \x7b",
   "\ttrue",
   "\x7d",
   "",
   "package() \x7b",
   "\tmkdir -p \"$pkgdir\"",
   s!"\tcp -a {Paths.input}{Paths.output}/* \"$pkgdir\"/ 2>/dev/null || cp -a {Paths.input}/* \"$pkgdir\"/",
   "\x7d"]

/-- The manifest of a package. -/
def render (spec : Spec) : String :=
  Text.unlines <|
    "# Contributor: apkforge" :: (fields spec).map (fun f => assignment f.1 f.2) ++ functionLines

end PackagePlan.Manifest
