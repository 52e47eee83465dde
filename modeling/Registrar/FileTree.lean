/- Directories and files below a working directory, and paths that lead to them. Directories above
   the working directory exist; links do not occur. -/
namespace Registrar

/-- A path as it is written: the pieces between its slashes. -/
structure FilePath where
  pieces : List String
  deriving DecidableEq, Repr

namespace FilePath

def split : List Char → List (List Char)
  | [] => [[]]
  | c :: rest =>
    match split rest with
    | [] => [[c]]
    | p :: ps => if c = '/' then [] :: p :: ps else (c :: p) :: ps

def ofText (text : String) : FilePath := ⟨(split text.toList).map String.ofList⟩

def isIdle (piece : String) : Bool := piece = "" || piece = "."

def parts (p : FilePath) : List String := p.pieces.filter (!isIdle ·)

/-- A slash, or a slash and a point, at the end: only a directory is meant. -/
def wantsDirectory (p : FilePath) : Bool := p.pieces.getLast?.any isIdle

def trimmed (p : FilePath) : FilePath := ⟨(p.pieces.reverse.dropWhile isIdle).reverse⟩

def front (p : FilePath) : FilePath := ⟨p.trimmed.pieces.dropLast⟩

def parent (p : FilePath) : FilePath := p.front.trimmed

def fileName? (p : FilePath) : Option String :=
  match p.parts.getLast? with
  | none => none
  | some name => if name = ".." then none else some name

/-- A name without its last point and what follows it. A point in front is part of the name. -/
def stem (name : List Char) : List Char :=
  let back := name.reverse.dropWhile (· ≠ '.')
  match back with
  | [] => name
  | _ :: front => if front = [] then name else front.reverse

/-- The path with the last extension of its name replaced. The old one goes first and leaves its
    point: of `..a` the two points stay, which are no name, and nothing is put after them. -/
def withExtension (p : FilePath) (extension : String) : FilePath :=
  match p.fileName? with
  | none => p
  | some name =>
    let rest := String.ofList (stem name.toList)
    let last := if rest = "." ∧ !p.wantsDirectory then ".." else rest ++ "." ++ extension
    ⟨p.front.pieces ++ [last]⟩

def joinedSize : List String → Nat
  | [] => 0
  | [p] => p.utf8ByteSize
  | p :: rest => p.utf8ByteSize + 1 + joinedSize rest

def byteSize (p : FilePath) : Nat := joinedSize p.pieces

def greatestSize : Nat := 4095

def isName (name : String) : Bool := name.utf8ByteSize ≤ 255

/-- Whether the system takes the path at all when so many bytes stand before it: the whole of it is
    not too long, and no piece holds the character that ends texts. -/
def isTaken (leading : Nat) (p : FilePath) : Bool :=
  leading + p.byteSize ≤ greatestSize && p.pieces.all fun piece => !piece.toList.contains '\x00'

end FilePath

/-- The names from the working directory down; above it, `..` for every step up comes first. Their
    number is looked at first, which tells most places apart. -/
structure Place where
  depth : Nat
  names : List String
  length_names : names.length = depth
  deriving DecidableEq, Repr

namespace Place

def ofNames (names : List String) : Place := ⟨names.length, names, rfl⟩

def root : Place := ofNames []

def isAbove (p : Place) : Bool := p.names.all (· = "..")

def child (p : Place) (name : String) : Place := ofNames (p.names ++ [name])

def step (p : Place) (part : String) : Place :=
  if part = ".." ∧ !p.isAbove then ofNames p.names.dropLast else p.child part

def text (p : Place) : String := String.intercalate "/" p.names

end Place

inductive Node where
  | directory
  | file (text : List Char)
  deriving DecidableEq, Repr

structure FileTree where
  nodes : List (Place × Node)
  /-- The bytes before every path that is passed on, which lead to the working directory. -/
  leading : Nat
  deriving DecidableEq, Repr

namespace FileTree

/-- Nothing yet, by default in a temporary directory. -/
def empty (leading : Nat := "/tmp/.tmpAbCdEf/".utf8ByteSize) : FileTree := ⟨[], leading⟩

def node? (t : FileTree) (p : Place) : Option Node :=
  if p.isAbove then some .directory else t.nodes.lookup p

def isDirectory (t : FileTree) (p : Place) : Bool := t.node? p = some .directory

def walk (t : FileTree) : Place → List String → Option Place
  | p, [] => some p
  | p, part :: rest =>
    let q := p.step part
    if t.isDirectory q then walk t q rest else none

def put (t : FileTree) (p : Place) (n : Node) : FileTree :=
  { t with nodes := t.nodes.filter (fun e => decide (e.1 ≠ p)) ++ [(p, n)] }

def drop (t : FileTree) (p : Place) : FileTree :=
  { t with nodes := t.nodes.filter fun e => decide (e.1 ≠ p) }

/-- Makes the directories of a path that are missing, one after the other. What was made stays
    made if a later one cannot be. -/
def makeFrom (t : FileTree) : Place → List String → FileTree × Bool
  | _, [] => (t, true)
  | p, part :: rest =>
    let q := p.step part
    if t.isDirectory q then makeFrom t q rest
    else if (t.node? q).isNone && FilePath.isName part then makeFrom (t.put q .directory) q rest
    else (t, false)

def makeDirectories (t : FileTree) (p : FilePath) : FileTree × Bool :=
  if p.isTaken t.leading then makeFrom t .root p.parts else (t, false)

def filePlace? (t : FileTree) (p : FilePath) : Option Place :=
  match p.fileName? with
  | none => none
  | some name =>
    if p.wantsDirectory || !p.isTaken t.leading || !FilePath.isName name then none
    else match t.walk .root p.parent.parts with
      | none => none
      | some dir => if t.isDirectory (dir.child name) then none else some (dir.child name)

def write? (t : FileTree) (p : FilePath) (text : List Char) : Option FileTree :=
  (t.filePlace? p).map fun place => t.put place (.file text)

def rename? (t : FileTree) (old new : FilePath) : Option FileTree := do
  let source ← t.filePlace? old
  let target ← t.filePlace? new
  match t.node? source with
  | some (.file text) => some ((t.drop source).put target (.file text))
  | _ => none

def read? (t : FileTree) (p : FilePath) : Option (List Char) := do
  let place ← t.filePlace? p
  match t.node? place with
  | some (.file text) => some text
  | _ => none

def listing (t : FileTree) : List String :=
  let below := t.nodes.filter fun e => decide (e.1.names.head? ≠ some "..")
  let paths := below.map fun (p, n) =>
    match n with
    | .directory => p.text ++ "/"
    | .file _ => p.text
  paths.mergeSort fun a b => decide (a ≤ b)

end FileTree
end Registrar
