import CodeSearch.Path

/-!
# Languages with a grammar

Files whose extension belongs to one of these languages come with an outline; the text of all
other files is read line by line.
-/

namespace CodeSearch

/-- A language and the file extensions it goes by. -/
structure Language where
  name : String
  extensions : List String
  deriving DecidableEq, Repr, Inhabited

namespace Language

/-- Every known language. No extension belongs to two of them; files with markup have a grammar of
their own. -/
def all : List Language :=
  [⟨"typescript", ["ts", "mts", "cts"]⟩,
   ⟨"tsx", ["tsx"]⟩,
   ⟨"javascript", ["js", "jsx", "mjs", "cjs"]⟩]

/-- The language an extension belongs to. Case matters. -/
def ofExtension? (extension : String) : Option Language :=
  all.find? fun language => language.extensions.contains extension

/-- The language of the file that a path names. -/
def ofPath? (path : String) : Option Language :=
  (Path.extension? path).bind ofExtension?

end Language

end CodeSearch
