import PackagePlan.Catalog
import PackagePlan.Text.Lines

/-! # Bundled pipelines

The definitions that every catalog of the program starts with, line by line. -/

namespace PackagePlan.Bundled

/-- Downloads a source archive and unpacks it. -/
def fetch : List String :=
  ["name: Fetch and extract an upstream source archive",
   "",
   "needs:",
   "  packages:",
   "    - wget",
   "    - tar",
   "",
   "inputs:",
   "  url:",
   "    description: URL of the archive to download",
   "    required: true",
   "  expected-sha256:",
   "    description: Expected SHA-256 of the archive; skipped when empty",
   "  strip-components:",
   "    description: Leading path components removed while extracting",
   "    default: 1",
   "  extract:",
   "    description: Whether to unpack the archive after downloading",
   "    default: true",
   "  directory:",
   "    description: Directory the archive is unpacked into",
   "    default: .",
   "",
   "runs: |",
   "  mkdir -p \"$\x7b\x7binputs.directory\x7d\x7d\"",
   "  archive=\"/tmp/$(basename \"$\x7b\x7binputs.url\x7d\x7d\")\"",
   "  wget -q -O \"$archive\" \"$\x7b\x7binputs.url\x7d\x7d\"",
   "  if [ -n \"$\x7b\x7binputs.expected-sha256\x7d\x7d\" ]; then",
   "    echo \"$\x7b\x7binputs.expected-sha256\x7d\x7d  $archive\" | sha256sum -c -",
   "  fi",
   "  if [ \"$\x7b\x7binputs.extract\x7d\x7d\" = \"true\" ]; then",
   "    tar -x -f \"$archive\" -C \"$\x7b\x7binputs.directory\x7d\x7d\" --strip-components=$\x7b\x7binputs.strip-components\x7d\x7d",
   "  fi"]

/-- Checks out a repository. -/
def gitCheckout : List String :=
  ["name: Check out a git repository",
   "",
   "needs:",
   "  packages:",
   "    - git",
   "",
   "inputs:",
   "  repository:",
   "    description: Repository URL to clone",
   "    required: true",
   "  tag:",
   "    description: Tag or branch to check out",
   "    default: \"\"",
   "  destination: .",
   "  depth: 1",
   "",
   "runs: |",
   "  if [ -n \"$\x7b\x7binputs.tag\x7d\x7d\" ]; then",
   "    git clone --depth $\x7b\x7binputs.depth\x7d\x7d --branch \"$\x7b\x7binputs.tag\x7d\x7d\" \"$\x7b\x7binputs.repository\x7d\x7d\" \"$\x7b\x7binputs.destination\x7d\x7d\"",
   "  else",
   "    git clone --depth $\x7b\x7binputs.depth\x7d\x7d \"$\x7b\x7binputs.repository\x7d\x7d\" \"$\x7b\x7binputs.destination\x7d\x7d\"",
   "  fi"]

/-- Strips installed binaries. -/
def strip : List String :=
  ["name: Strip debug symbols from installed binaries",
   "",
   "needs:",
   "  packages:",
   "    - binutils",
   "    - file",
   "",
   "inputs:",
   "  opts:",
   "    description: Extra arguments passed to strip",
   "    default: --strip-unneeded",
   "",
   "runs: |",
   "  find \"$\x7b\x7btargets.contextdir\x7d\x7d\" -type f | while read -r f; do",
   "    if file \"$f\" | grep -q ELF; then",
   "      strip $\x7b\x7binputs.opts\x7d\x7d \"$f\" || true",
   "    fi",
   "  done"]

/-- Runs a configure script. -/
def autoconfConfigure : List String :=
  ["name: Run an autoconf configure script",
   "",
   "needs:",
   "  packages:",
   "    - autoconf",
   "    - automake",
   "",
   "inputs:",
   "  dir: .",
   "  host: \"\"",
   "  prefix: /usr",
   "  opts:",
   "    description: Extra arguments passed to configure",
   "    default: \"\"",
   "",
   "runs: |",
   "  cd \"$\x7b\x7binputs.dir\x7d\x7d\"",
   "  ./configure \\",
   "    --prefix=$\x7b\x7binputs.prefix\x7d\x7d \\",
   "    --sysconfdir=/etc \\",
   "    --localstatedir=/var \\",
   "    $\x7b\x7binputs.host\x7d\x7d $\x7b\x7binputs.opts\x7d\x7d"]

/-- Runs make. -/
def autoconfMake : List String :=
  ["name: Run make",
   "",
   "needs:",
   "  packages:",
   "    - make",
   "",
   "inputs:",
   "  dir: .",
   "  opts: \"\"",
   "",
   "runs: |",
   "  make -C \"$\x7b\x7binputs.dir\x7d\x7d\" -j$(nproc) $\x7b\x7binputs.opts\x7d\x7d"]

/-- Installs with make into the package. -/
def autoconfMakeInstall : List String :=
  ["name: Run make install into the package directory",
   "",
   "needs:",
   "  packages:",
   "    - make",
   "",
   "inputs:",
   "  dir: .",
   "  opts: \"\"",
   "",
   "runs: |",
   "  make -C \"$\x7b\x7binputs.dir\x7d\x7d\" install DESTDIR=\"$\x7b\x7btargets.contextdir\x7d\x7d\" $\x7b\x7binputs.opts\x7d\x7d"]

/-- Configures a project for a build directory. -/
def cmakeConfigure : List String :=
  ["name: Configure a CMake project",
   "",
   "needs:",
   "  packages:",
   "    - cmake",
   "    - samurai",
   "",
   "inputs:",
   "  source-dir: .",
   "  output-dir: build",
   "  build-type: Release",
   "  prefix: /usr",
   "  opts: \"\"",
   "",
   "runs: |",
   "  cmake -S \"$\x7b\x7binputs.source-dir\x7d\x7d\" -B \"$\x7b\x7binputs.output-dir\x7d\x7d\" -G Ninja \\",
   "    -DCMAKE_BUILD_TYPE=$\x7b\x7binputs.build-type\x7d\x7d \\",
   "    -DCMAKE_INSTALL_PREFIX=$\x7b\x7binputs.prefix\x7d\x7d \\",
   "    $\x7b\x7binputs.opts\x7d\x7d"]

/-- Builds a configured project. -/
def cmakeBuild : List String :=
  ["name: Build a configured CMake project",
   "",
   "needs:",
   "  packages:",
   "    - cmake",
   "    - samurai",
   "",
   "inputs:",
   "  output-dir: build",
   "  opts: \"\"",
   "",
   "runs: |",
   "  cmake --build \"$\x7b\x7binputs.output-dir\x7d\x7d\" -j $(nproc) $\x7b\x7binputs.opts\x7d\x7d"]

/-- Installs a built project into the package. -/
def cmakeInstall : List String :=
  ["name: Install a CMake project into the package directory",
   "",
   "needs:",
   "  packages:",
   "    - cmake",
   "",
   "inputs:",
   "  output-dir: build",
   "",
   "runs: |",
   "  DESTDIR=\"$\x7b\x7btargets.contextdir\x7d\x7d\" cmake --install \"$\x7b\x7binputs.output-dir\x7d\x7d\""]

/-- The bundled pipelines by name. -/
def sources : List (String × String) :=
  [("fetch", Text.unlines fetch),
   ("git-checkout", Text.unlines gitCheckout),
   ("strip", Text.unlines strip),
   ("autoconf/configure", Text.unlines autoconfConfigure),
   ("autoconf/make", Text.unlines autoconfMake),
   ("autoconf/make-install", Text.unlines autoconfMakeInstall),
   ("cmake/configure", Text.unlines cmakeConfigure),
   ("cmake/build", Text.unlines cmakeBuild),
   ("cmake/install", Text.unlines cmakeInstall)]

end PackagePlan.Bundled

namespace PackagePlan

/-- The catalog of the bundled pipelines. -/
def Catalog.bundled : Catalog := .ofList Bundled.sources

end PackagePlan
