/-!
# Path texts

A path is a text whose components are set apart by `/`. Empty components and `.` say nothing and
are skipped; `..` is a component that names no file.

- `components`: the parts between slashes.
- `normalizeSeparators`: `/` for every backslash.
- `fileName?`: the last component that names something.
- `extension?`: what follows the last dot of the file name.
- `child`: the path of an entry of a directory.
-/

namespace CodeSearch.Path

/-- The parts of a text between slashes. -/
def components (path : String) : List String :=
  (path.toList.splitOn '/').map String.ofList

/-- The path with `/` for every backslash. -/
def normalizeSeparators (path : String) : String :=
  String.ofList (path.toList.map fun c => if c = '\\' then '/' else c)

/-- The last component that names something, unless it is `..`. -/
def fileName? (path : String) : Option String :=
  match ((components path).filter fun part => part != "" && part != ".").getLast? with
  | none => none
  | some name => if name = ".." then none else some name

/-- What follows the last dot of a file name. A name that starts with its only dot has none. -/
def extensionOfName? (name : String) : Option String :=
  let after := name.toList.reverse.takeWhile (· != '.')
  let before := name.toList.reverse.drop (after.length + 1)
  if after.length < name.toList.length && !before.isEmpty then some (String.ofList after.reverse)
  else none

/-- The extension of the file that the path names. -/
def extension? (path : String) : Option String :=
  (fileName? path).bind extensionOfName?

/-- The path of the entry `name` of the directory `directory`. -/
def child (directory name : String) : String :=
  if directory.toList.getLast? = some '/' then directory ++ name else directory ++ "/" ++ name

example : fileName? "a/b/." = some "b" := by decide +kernel
example : fileName? "a/.." = none := by decide +kernel
example : extension? "..ts" = some "ts" := by decide +kernel
example : extension? ".ts" = none := by decide +kernel

end CodeSearch.Path
