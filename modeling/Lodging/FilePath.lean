import Lodging.Text.Parts

/-!
# File paths

Paths are texts whose parts are divided by slashes. Two paths are the same place if their parts
agree, where empty parts and dots behind the first part do not count.
-/

namespace Lodging.FilePath

def join (directory name : String) : String :=
  if directory.isEmpty || directory.toList.getLast? = some '/' then directory ++ name
  else directory ++ "/" ++ name

/-- Whether a part leads anywhere. -/
def leads (part : List Char) : Bool := part ≠ [] && part ≠ ['.']

/-- Whether the path starts at the root, and its parts without those that lead nowhere. A path that
starts with a dot keeps it. -/
def places (path : String) : Bool × List (List Char) :=
  match Text.partsAt '/' path.toList with
  | [] => (false, [])
  | [[]] => (false, [])
  | [] :: rest => (true, rest.filter leads)
  | first :: rest => (false, first :: rest.filter leads)

def same (p q : String) : Bool := decide (places p = places q)

end Lodging.FilePath
