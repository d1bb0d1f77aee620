import FieldRules.Table
import FieldRules.Text.Pieces
/-!
Files as a run finds them. What stands at an absolute path is up to the machine; a relative path
starts in the working folder. A file may also be looked for: in the working folder first and then in
the folders above it (`Files.locate?`).

`Files.ofTable` is a machine that holds nothing but some texts.
-/

namespace FieldRules.Command

/-- Why reading fails. -/
inductive ReadFault where
  | missing
  | folder
  /-- The path leads through a file. -/
  | notFolder
  | denied
  /-- The bytes are no UTF-8 text. -/
  | notText
  /-- Any other fault, in the words of the system. -/
  | other (message : String)
  deriving DecidableEq

/-- What follows a message about a path. Of a file that is missing nothing more is said. -/
def ReadFault.text : ReadFault → String
  | missing => ""
  | folder => ": Is a directory (os error 21)"
  | notFolder => ": Not a directory (os error 20)"
  | denied => ": Permission denied (os error 13)"
  | notText => ": stream did not contain valid UTF-8"
  | other message => ": " ++ message

/-- What stands at a path: whether it is a regular file, and what reading it gives. -/
structure Entry where
  isFile : Bool
  text : Except ReadFault String

def Entry.missing : Entry := ⟨false, .error .missing⟩

structure Files where
  /-- What stands at an absolute path. -/
  entry : String → Entry
  /-- The names on the way from the root to the working folder, the last one first. There are none
  when the working folder is gone. -/
  working : Option (List String)

namespace Files

/-! ### Paths -/

/-- The names on the way of a path; points for the folder itself do not count. -/
def steps (path : String) : List String :=
  ((Text.split '/' path.toList).map String.ofList).filter fun s => s ≠ "" && s ≠ "."

/-- The letters after the last point of a file's name, if something stands before it. -/
def extension? (path : String) : Option String :=
  match (steps path).getLast? with
  | none => none
  | some name =>
    match (Text.split '.' name.toList).reverse with
    | last :: before =>
      if before = [] ∨ before = [[]] ∨ name = ".." then none else some (String.ofList last)
    | [] => none

def isAbsolute (path : String) : Bool := path.toList.head? = some '/'

/-- The path of a folder by the names on the way to it, the last one first. -/
def folderPath (names : List String) : String := "/" ++ Text.joined "/" names.reverse

/-- The path from the root that a path means in a folder. -/
def pathIn (folder path : String) : String :=
  if isAbsolute path then path
  else if folder = "/" then folder ++ path
  else folder ++ "/" ++ path

/-- The paths of a folder and of all folders above it. -/
def foldersFrom : List String → List String
  | [] => [folderPath []]
  | name :: names => folderPath (name :: names) :: foldersFrom names

/-! ### Reading and looking -/

variable (files : Files)

/-- The working folder and the folders above it, the nearest one first. -/
def folders : List String := (files.working.map foldersFrom).getD []

/-- What stands at a path. -/
def find (path : String) : Entry :=
  if path = "" then .missing
  else if isAbsolute path then files.entry path
  else
    match files.folders with
    | folder :: _ => files.entry (pathIn folder path)
    | [] => .missing

def isFile (path : String) : Bool := (files.find path).isFile

/-- The text of the file at a path. -/
def read (path : String) : Except ReadFault String := (files.find path).text

/-- The places that a path is looked for at, in this order. -/
def places (path : String) : List String :=
  if isAbsolute path then [path] else files.folders.map fun folder => pathIn folder path

/-- The first place where there is a file of this path. -/
def locate? (path : String) : Option String := (files.places path).find? files.isFile

/-! ### Machines that hold some texts -/

/-- Texts by the names on the way from the root, the last one first. -/
abbrev Texts := List (List String × String)

/-- What a machine holds at the end of some names: a text, a folder on the way to one or to the
working folder, or nothing. -/
def standing (texts : Texts) (working names : List String) : Entry :=
  match texts.lookup names with
  | some text => ⟨true, .ok text⟩
  | none =>
    if (working :: texts.map Prod.fst).any fun way => names.isSuffixOf way then
      ⟨false, .error .folder⟩
    else .missing

/-- The names after one more step; two points lead back. -/
def follow (names : List String) (step : String) : List String :=
  if step = "" ∨ step = "." then names
  else if step = ".." then names.tail
  else step :: names

/-- What steps lead to. Each of them starts in a folder. -/
def walk (texts : Texts) (working names : List String) : List String → Entry
  | [] => standing texts working names
  | step :: steps =>
    match (standing texts working names).text with
    | .error .folder => walk texts working (follow names step) steps
    | .error fault => ⟨false, .error fault⟩
    | .ok _ => ⟨false, .error .notFolder⟩

/-- The folder that paths start in on a machine that holds some texts. -/
def workingFolder : List String := ["work"]

/-- A machine that holds texts by paths from its working folder, and nothing else. -/
def ofTable (t : Table String) : Files where
  entry path :=
    walk (t.entries.map fun e => ((steps e.1).foldl follow workingFolder, e.2)) workingFolder []
      ((Text.split '/' path.toList).map String.ofList)
  working := some workingFolder

instance : Coe (Table String) Files := ⟨ofTable⟩

def ofList (texts : List (String × String)) : Files := ofTable (.ofList texts)

end Files

end FieldRules.Command
