import ConsumerCheck.Text.Blank
import ConsumerCheck.Text.LowerCase

/-!
# Names of operating systems and architectures

Settings name systems and architectures freely. Two names mean the same if their normal forms are
equal: the name without surrounding blanks, in lower case, and with well-known aliases replaced.

* `normalizeOs`, `normalizeArch` — the normal forms (`normalize_os`, `normalize_arch`);
* `hostOs`, `hostArch` — the machine that the program runs on;
* `defaultCompiler` — the compiler that a system comes with (`default_compiler`).
-/

namespace ConsumerCheck

/-- Other names of operating systems, in lower case, with their normal forms. -/
def osAliases : List (String × String) := [
  ("macosx", "macos"), ("darwin", "macos"), ("osx", "macos"),
  ("win32", "windows"), ("win64", "windows"), ("windowsstore", "windows"),
  ("windowsce", "windows"), ("solaris", "sunos"), ("illumos", "sunos")]

/-- Other names of architectures, in lower case, with their normal forms. -/
def archAliases : List (String × String) := [
  ("amd64", "x86_64"), ("x64", "x86_64"), ("i386", "x86"), ("i686", "x86"), ("win32", "x86"),
  ("aarch64", "armv8"), ("arm64", "armv8"), ("arm", "armv7"), ("armv7l", "armv7"),
  ("powerpc64", "ppc64")]

/-- A name without surrounding blanks, in lower case, and replaced if it is an alias. -/
def normalizeName (aliases : List (String × String)) (name : String) : String :=
  let lower := Text.toLower (Text.trim name)
  (aliases.lookup lower).getD lower

/-- The normal form of the name of an operating system. -/
def normalizeOs (name : String) : String := normalizeName osAliases name

/-- The normal form of the name of an architecture. -/
def normalizeArch (name : String) : String := normalizeName archAliases name

/-- The operating system of the host. -/
def hostOs : String := "Linux"

/-- The architecture of the host. -/
def hostArch : String := "x86_64"

/-- The compiler that is taken for granted on an operating system. -/
def defaultCompiler (os : String) : String :=
  match normalizeOs os with
  | "windows" => "Visual Studio"
  | "macos" => "apple-clang"
  | "ios" => "apple-clang"
  | "freebsd" => "clang"
  | _ => "gcc"

end ConsumerCheck
