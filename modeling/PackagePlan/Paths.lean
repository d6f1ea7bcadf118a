/-! # Paths inside the build

The places that scripts and stages are written against.  They are fixed: pipelines rely on
them. -/

namespace PackagePlan.Paths

/-- Where the steps put the contents of the package. -/
def output : String := "/pkg"

/-- Where the source tree lies. -/
def source : String := "/src"

/-- Where the result of the build is mounted for packaging. -/
def input : String := "/input"

/-- Where the package is put together. -/
def work : String := "/work"

/-- Where the finished package lies. -/
def result : String := "/out"

/-- The list of package repositories. -/
def repositories : String := "/etc/apk/repositories"

/-- The keys that packages are checked against. -/
def keys : String := "/etc/apk/keys"

end PackagePlan.Paths
