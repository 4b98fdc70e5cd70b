import ScriptSandbox.Os.Failure

/-!
# File trees

A tree of directories holds files and symbolic links. A path is walked component by component from a
directory; a link in it is replaced by the path it holds, at most forty times.

## Main definitions

* `Files.Content`, `Files.Node`: what a tree is made of
* `Files.View`: what paths lead to
* `Files.advance`: a walk up to its end or to the next link
* `Files.Volume`: a tree with the directory that relative paths start from
* `Files.Volume.view`: what paths lead to in a tree
-/

namespace ScriptSandbox.Files

/-- The bytes of a file: some that are written out, and zeros behind them. Their number fits 64
bits. -/
structure Content where
  bytes : List UInt8
  zeros : Nat
  fits : bytes.length + zeros < UInt64.size
  deriving Repr, DecidableEq

namespace Content

/-- The content of some bytes and some zeros, if it is not too long. -/
def of? (bytes : List UInt8) (zeros : Nat) : Option Content :=
  if h : bytes.length + zeros < UInt64.size then some ⟨bytes, zeros, h⟩ else none

/-- How many bytes there are. -/
def size (c : Content) : Nat := c.bytes.length + c.zeros

/-- All bytes. -/
def toList (c : Content) : List UInt8 := c.bytes ++ List.replicate c.zeros 0

/-- The first `n` bytes. -/
def take (c : Content) (n : Nat) : List UInt8 :=
  c.bytes.take n ++ List.replicate (min (n - c.bytes.length) c.zeros) 0

/-- The sum of all bytes. -/
def sum (c : Content) : Nat := c.bytes.foldl (fun n b => n + b.toNat) 0

end Content

/-- A name or a path. -/
abbrev Path := List UInt8

/-- A file, a directory or a link. -/
inductive Node where
  | file (c : Content)
  | directory (entries : List (Path × Node))
  | link (target : Path)
  deriving Repr

/-- The entries of a directory. -/
abbrev Directory := List (Path × Node)

/-! ### Paths -/

/-- The byte between components. -/
def separator : UInt8 := 0x2F

/-- The name of a directory in itself. -/
def here : Path := [0x2E]

/-- The name of the enclosing directory. -/
def above : Path := [0x2E, 0x2E]

/-- The parts of a path between separators, `part` being the reversed start of the first one. -/
def split (part : Path) : Path → List Path
  | [] => [part.reverse]
  | b :: p => if b = separator then part.reverse :: split [] p else split (b :: part) p

/-- The components of a path. A separator at the end asks for a directory, as its name in itself
does. -/
def components (p : Path) : List Path :=
  (split [] p).filter (· ≠ []) ++ if p.getLast? = some separator then [here] else []

/-- Whether a path starts at the root. -/
def isAbsolute (p : Path) : Bool := p.head? = some separator

/-! ### Walks -/

/-- A directory and those that enclose it, the nearest one first. -/
structure Place where
  directory : Directory
  enclosing : List Directory := []
  deriving Repr

namespace Place

/-- The enclosing directory; the root encloses itself. -/
def up (p : Place) : Place :=
  match p.enclosing with
  | [] => p
  | d :: ds => ⟨d, ds⟩

/-- A directory of this one. -/
def down (p : Place) (d : Directory) : Place := ⟨d, p.directory :: p.enclosing⟩

/-- The outermost directory. -/
def root (p : Place) : Place := ⟨p.enclosing.getLast?.getD p.directory, []⟩

end Place

/-- The longest name of a file. -/
def maxName : Nat := 255

/-- The longest path. -/
def maxPath : Nat := 4095

/-- The most links that are followed for one path. -/
def maxLinks : Nat := 40

/-- Where a walk ends. -/
inductive Arrival where
  | file (c : Content)
  | directory (p : Place)
  /-- A link of a directory, with the components that remain behind it. -/
  | link (p : Place) (target : Path) (rest : List Path)

/-- The node of a name. -/
def lookup (p : Place) (name : Path) : Except Os.Failure Node :=
  if maxName < name.length then .error .nameTooLong
  else
    match p.directory.lookup name with
    | some n => .ok n
    | none => .error .noEntry

/-- Walks up to the end or to the first link. -/
def advance (p : Place) : List Path → Except Os.Failure Arrival
  | [] => .ok (.directory p)
  | name :: rest =>
    if name = here then advance p rest
    else if name = above then advance p.up rest
    else
      match lookup p name with
      | .error f => .error f
      | .ok (.directory d) => advance (p.down d) rest
      | .ok (.link target) => .ok (.link p target rest)
      | .ok (.file c) => if rest = [] then .ok (.file c) else .error .notDirectory

/-- What a path can lead to. -/
inductive Found where
  | file (c : Content)
  | directory (d : Directory)

/-- Walks to the end, following at most `links` links. -/
def follow : (links : Nat) → Place → List Path → Except Os.Failure Found
  | links, p, cs =>
    match advance p cs with
    | .error f => .error f
    | .ok (.file c) => .ok (.file c)
    | .ok (.directory d) => .ok (.directory d.directory)
    | .ok (.link q target rest) =>
      match links with
      | 0 => .error .tooManyLinks
      | links + 1 =>
        let base := if isAbsolute target then q.root else q
        follow links base (components target ++ rest)

/-- What paths lead to. -/
abbrev View := Path → Except Os.Failure Found

/-- The content of the file at a path. -/
def View.read (v : View) (p : Path) : Except Os.Failure Content :=
  match v p with
  | .error f => .error f
  | .ok (.file c) => .ok c
  | .ok (.directory _) => .error .isDirectory

/-! ### Volumes -/

/-- A tree, given by the place that relative paths start from. -/
structure Volume where
  working : Place

namespace Volume

/-- A tree whose working directory is the only one below the root. -/
def ofDirectory (d : Directory) : Volume := ⟨⟨d, [[]]⟩⟩

/-- What paths lead to in a tree. -/
def view (v : Volume) : View := fun p =>
  if 0 ∈ p then .error .zeroByteInPath
  else if p = [] then .error .noEntry
  else if maxPath < p.length then .error .nameTooLong
  else follow maxLinks (if isAbsolute p then v.working.root else v.working) (components p)

end Volume

/-! ### Building -/

/-- A directory with a node at the end of a chain of names; directories on the way are made. -/
def Directory.insert (n : Node) : List Path → Directory → Directory
  | [], d => d
  | [name], d => (name, n) :: d.filter (·.1 ≠ name)
  | name :: rest, d =>
    let inner : Directory := match d.lookup name with
      | some (.directory e) => e
      | _ => []
    (name, .directory (Directory.insert n rest inner)) :: d.filter (·.1 ≠ name)

/-- The tree of files by path. -/
def Directory.ofList (files : List (Path × Node)) : Directory :=
  files.foldl (fun d f => Directory.insert f.2 ((components f.1).filter (· ≠ here)) d) []

end ScriptSandbox.Files
