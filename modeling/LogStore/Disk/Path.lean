/-!
# Paths

Paths are texts of components separated by `/`; a path that starts with `/` is absolute, any
other is relative to the working directory. Cleaning a path is purely lexical: repeated
separators and `.` components go, a `..` removes the component before it (and at the root
nothing), and an empty result is `.`.

* `clean`, `join`, `dir` (everything before the last component, cleaned) and `abs` (a path made
  absolute against a working directory) are the text operations.
* `resolve cwd p` is the list of components of the absolute location `p` names.
-/

namespace LogStore.Path

/-- The non-empty components of a path other than `.`. -/
def parts (p : String) : List String :=
  ((p.toList.splitOn '/').map String.ofList).filter (fun c => c ≠ "" ∧ c ≠ ".")

/-- Whether a path is absolute. -/
def isAbs (p : String) : Bool :=
  p.startsWith "/"

/-- Applies `..` components to a stack of components (newest first); at the root a `..` is
dropped, in a relative path it is kept when nothing precedes it. -/
def fold (rooted : Bool) (acc : List String) : List String → List String
  | [] => acc
  | c :: cs =>
    if c = ".." then
      match acc with
      | top :: rest => if top = ".." then fold rooted (c :: acc) cs else fold rooted rest cs
      | [] => if rooted then fold rooted [] cs else fold rooted [c] cs
    else fold rooted (c :: acc) cs

/-- The lexically shortest path naming the same location. -/
def clean (p : String) : String :=
  let rooted := isAbs p
  let body := "/".intercalate (fold rooted [] (parts p)).reverse
  if rooted then "/" ++ body
  else if body.isEmpty then "." else body

/-- Two paths joined by a separator and cleaned; an empty part is left out. -/
def join (a b : String) : String :=
  if a.isEmpty then clean b
  else if b.isEmpty then clean a
  else clean (a ++ "/" ++ b)

/-- Everything before the last component, cleaned: `.` for a bare name. -/
def dir (p : String) : String :=
  let cs := p.toList
  let upto := (cs.reverse.dropWhile (· ≠ '/')).reverse
  clean (String.ofList upto)

/-- The last component of a path. -/
def base (p : String) : String :=
  let trimmed := (p.toList.reverse.dropWhile (· = '/')).reverse
  if trimmed.isEmpty then (if p.isEmpty then "." else "/")
  else String.ofList (trimmed.reverse.takeWhile (· ≠ '/')).reverse

/-- A path made absolute against the working directory `cwd`, and cleaned. -/
def abs (cwd p : String) : String :=
  if isAbs p then clean p else join cwd p

/-- The components of the absolute location a path names. -/
def resolve (cwd p : String) : List String :=
  parts (abs cwd p)

/-- The absolute path of a list of components. -/
def ofParts (cs : List String) : String :=
  "/" ++ "/".intercalate cs

end LogStore.Path
