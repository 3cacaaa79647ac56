import NotebookKernel.Host.IoError
import NotebookKernel.Host.Path
import NotebookKernel.Text.Utf8

/-!
Files and directories by their absolute path. Operations fail as a system makes
them fail.
-/

namespace NotebookKernel

open Text (Bytes)

/-- The programs that a machine comes with. -/
inductive Tool where
  | shell
  | echo
  | cat
  | sleep
  | succeed
  | giveUp
  | head
  | tail
  | count
  | exchange
  | sequence
  | showVariable
  deriving DecidableEq, Repr

inductive Node where
  | directory
  | file (content : Bytes) (executable : Bool)
  | tool (tool : Tool)
  /-- Takes everything and holds nothing, or zeros without end. -/
  | device (endless : Bool)
  deriving DecidableEq, Repr

/-- `here` is the directory that relative paths start from. -/
structure FileTree where
  nodes : List (List String × Node)
  here : List String
  deriving Repr

namespace FileTree

def node? (tree : FileTree) (names : List String) : Option Node :=
  if names.isEmpty then some .directory
  else (tree.nodes.find? fun node => node.1 == names).map (·.2)

def put (tree : FileTree) (names : List String) (node : Node) : FileTree :=
  { tree with nodes := (names, node) :: tree.nodes.filter fun old => old.1 != names }

/-- Every name but the last must be that of a directory. -/
def walk (tree : FileTree) (reached : List String) : List String → Except IoError (List String)
  | [] => .ok reached
  | name :: rest =>
    match tree.node? reached with
    | none => .error .notFound
    | some .directory =>
      if 255 < name.utf8ByteSize then .error .nameTooLong
      else walk tree (if name = ".." then reached.dropLast else reached ++ [name]) rest
    | some _ => .error .notDirectory

def resolve (tree : FileTree) (path : String) : Except IoError (List String) :=
  if path.toList.contains '\x00' then .error .nulInPath
  else if path = "" then .error .notFound
  else if 4096 ≤ path.utf8ByteSize then .error .nameTooLong
  else tree.walk (if Path.isAbsolute path then [] else tree.here) (Path.names path)

def endsInSeparator (path : String) : Bool := path.toList.getLast? == some '/'

def stat (tree : FileTree) (path : String) : Except IoError Node :=
  match tree.resolve path with
  | .error e => .error e
  | .ok names =>
    match tree.node? names with
    | none => .error .notFound
    | some .directory => .ok .directory
    | some node => if endsInSeparator path then .error .notDirectory else .ok node

def exists? (tree : FileTree) (path : String) : Bool :=
  match tree.stat path with
  | .ok _ => true
  | .error _ => false

def isFile (tree : FileTree) (path : String) : Bool :=
  match tree.stat path with
  | .ok (.file _ _) | .ok (.tool _) => true
  | _ => false

def isDirectory (tree : FileTree) (path : String) : Bool :=
  match tree.stat path with
  | .ok .directory => true
  | _ => false

def read (tree : FileTree) (path : String) : Except IoError Bytes :=
  match tree.stat path with
  | .error e => .error e
  | .ok .directory => .error .isDirectory
  | .ok (.file content _) => .ok content
  | .ok _ => .ok []

/-- A file's content as text. -/
def readText (tree : FileTree) (path : String) : Except IoError String :=
  match tree.read path with
  | .error e => .error e
  | .ok bytes =>
    match Text.Utf8.decode bytes with
    | .ok cs => .ok (.ofList cs)
    | .error _ => .error .invalidText

/-- A file that exists keeps its permissions. -/
def write (tree : FileTree) (path : String) (content : Bytes) : Except IoError FileTree :=
  match tree.resolve path with
  | .error e => .error e
  | .ok names =>
    match tree.node? names with
    | some .directory => .error .isDirectory
    | some (.file _ executable) =>
      if endsInSeparator path then .error .notDirectory
      else .ok (tree.put names (.file content executable))
    | some _ => .ok tree
    | none =>
      if endsInSeparator path then .error .isDirectory
      else
        match tree.node? names.dropLast with
        | some .directory => .ok (tree.put names (.file content false))
        | some _ => .error .notDirectory
        | none => .error .notFound

def makeDirectory (tree : FileTree) (path : String) : Except IoError FileTree :=
  match tree.resolve path with
  | .error e => .error e
  | .ok names =>
    match tree.node? names with
    | some _ => .error .alreadyExists
    | none =>
      match tree.node? names.dropLast with
      | some .directory => .ok (tree.put names .directory)
      | some _ => .error .notDirectory
      | none => .error .notFound

/-- A directory with all that lead to it. One that is missing is made from its
parent; the fuel bounds the number of parents. -/
def makeDirectories (tree : FileTree) : Nat → String → Except IoError FileTree
  | 0, _ => .error .notFound
  | fuel + 1, path =>
    if path = "" then .ok tree
    else match tree.makeDirectory path with
      | .ok tree => .ok tree
      | .error e =>
        if e = .notFound then
          match Path.parent? path with
          | none => .error e
          | some parent =>
            match makeDirectories tree fuel parent with
            | .error e => .error e
            | .ok tree =>
              match tree.makeDirectory path with
              | .ok tree => .ok tree
              | .error e => if tree.isDirectory path then .ok tree else .error e
        else if tree.isDirectory path then .ok tree
        else .error e

def ensureDirectory (tree : FileTree) (path : String) : Except IoError FileTree :=
  tree.makeDirectories (path.length + 1) path

/-- Puts something at a path, with the directories that lead there. -/
def place (tree : FileTree) (path : String) (node : Node) : FileTree :=
  let prepared : FileTree :=
    match (Path.parent? path).map tree.ensureDirectory with
    | some (.ok tree) => tree
    | _ => tree
  match prepared.resolve path with
  | .ok names => prepared.put names node
  | .error _ => prepared

/-- A machine with the usual tools and an empty directory to work in. -/
def initial (here : List String) : FileTree :=
  let tools : List (String × Tool) :=
    [("sh", .shell), ("dash", .shell), ("echo", .echo), ("cat", .cat), ("sleep", .sleep),
      ("true", .succeed), ("false", .giveUp), ("head", .head), ("tail", .tail), ("wc", .count),
      ("tr", .exchange), ("seq", .sequence), ("printenv", .showVariable)]
  let places : List (List String) := [["bin"], ["usr", "bin"]]
  let directories : List (List String) :=
    [["bin"], ["usr"], ["usr", "bin"], ["dev"], ["tmp"], ["etc"], ["root"], ["home"]] ++
      (List.range here.length).map fun n => here.take (n + 1)
  { nodes :=
      (directories.map fun names => (names, .directory)) ++
        (places.flatMap fun place => tools.map fun tool => (place ++ [tool.1], .tool tool.2)) ++
        [(["dev", "null"], .device false), (["dev", "zero"], .device true)]
    here }

end FileTree

end NotebookKernel
