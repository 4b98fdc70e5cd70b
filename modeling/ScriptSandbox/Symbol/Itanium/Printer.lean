import ScriptSandbox.Symbol.Itanium.Node

/-!
# Writing entities

Types are written around what is declared with them: the parts of a declaration wait until the name
or the innermost type is written, and then follow it, the innermost first, in parentheses where a
pointer stands before brackets.

## Main definitions

* `Itanium.Declarator`: a part of a declaration that waits
* `Itanium.Scope`: what names without an own meaning stand for
* `Itanium.print`: writes a term
* `Itanium.Node.text?`: the text of an entity
-/

namespace ScriptSandbox.Symbol.Itanium

/-- A part of a declaration that is written behind what is declared. -/
inductive Declarator where
  | pointer
  | reference (r : Reference)
  | qualified (q : Qualifiers) (ofArray : Bool)
  /-- What may follow the parameters of a type of functions. -/
  | functionEnd (q : Qualifiers) (r : Option Reference)
  | parameters (types : List Node)
  | brackets (length : Option Node) (element : Node)
  | memberPointer (owner : Node)

/-- What names without a meaning of their own stand for: the name of constructors, and the arguments
of the templates around them, the innermost first. -/
structure Scope where
  leaf? : Option Node := none
  arguments : List (List Node) := []

/-- The argument that a parameter of a template stands for: that of the innermost template that has
so many. -/
def Scope.argument? (s : Scope) (i : Nat) : Option Node := s.arguments.findSome? (·[i]?)

/-- A scope inside of a template, if the term is one. -/
def Scope.inside (s : Scope) (n : Node) : Scope :=
  match n.arguments? with
  | some arguments => { s with arguments := arguments :: s.arguments }
  | none => s

/-- The text so far, the last character first, and the parts of declarations that wait, the innermost
first. -/
structure Page where
  written : List Char := []
  waiting : List Declarator := []
  /-- Whether parameters of templates have no argument, but are the types of parameters. -/
  inClosure : Bool := false
  /-- Whether several arguments in the place of one have been written. -/
  hasPack : Bool := false

/-- Writes terms. Some terms have no text. -/
abbrev Printer := OptionT (StateM Page) Unit

/-- Writes text. -/
def put (s : String) : Printer :=
  modify fun p => { p with written := s.toList.reverse ++ p.written }

/-- Writes a blank, unless one was written last. -/
def space : Printer := do
  if (← get).written.head? ≠ some ' ' then put " "

/-- Writes words, each behind a blank. -/
def putWords (words : List String) : Printer := words.forM fun w => do
  space
  put w

/-- Writes the sign of a kind of references behind a blank. -/
def putReceiver (r : Option Reference) : Printer := do
  if let some r := r then
    space
    put r.text

/-- Writes several terms with a separator between them. -/
def separated (separator : String) (w : Node → Printer) : (first : Bool) → List Node → Printer
  | _, [] => return
  | first, n :: ns => do
    if !first then put separator
    w n
    separated separator w false ns

/-- Writes a part while a declarator waits, and then the declarator, unless the part has done so. -/
def around (d : Declarator) (part after : Printer) : Printer := do
  let height := (← get).waiting.length
  modify fun p => { p with waiting := d :: p.waiting }
  part
  if height < (← get).waiting.length then
    modify fun p => { p with waiting := p.waiting.tail }
    after

/-- Writes a part by itself. The declarators go on waiting. -/
def apart (w : Printer) : Printer := do
  let waiting := (← get).waiting
  modify fun p => { p with waiting := [] }
  w
  modify fun p => { p with waiting }

/-- Writes the declarators that wait, up to a certain number of them. -/
def drain (w : Declarator → Printer) : (fuel : Nat) → Printer
  | 0 => return
  | fuel + 1 => do
    match (← get).waiting with
    | [] => return
    | d :: waiting => do
      modify fun p => { p with waiting }
      w d
      drain w fuel

/-- Writes all declarators that wait. -/
def drainAll (w : Declarator → Printer) : Printer := do drain w (← get).waiting.length

/-! ### Declarators -/

/-- Writes a reference. References to references are one reference, which is of the second kind only
if all of them are. -/
def putReference : Reference → Printer
  | .left => do
    modify fun p => { p with waiting := p.waiting.dropWhile fun
      | .reference _ => true
      | _ => false }
    put "&"
  | .right => do
    modify fun p => { p with waiting := p.waiting.dropWhile fun
      | .reference .right => true
      | _ => false }
    match (← get).waiting with
    | .reference .left :: _ => return
    | _ => put "&&"

/-- Whether the declarators that wait need a blank before parameters, and whether they need
parentheses. -/
def parentheses : List Declarator → Bool × Bool
  | [] => (false, false)
  | .memberPointer _ :: _ | .qualified .. :: _ => (true, true)
  | .pointer :: _ | .reference _ :: _ => (false, true)
  | _ :: waiting => parentheses waiting

/-- Whether a declarator is an array. -/
def Declarator.isArray : Declarator → Bool
  | .brackets .. => true
  | _ => false

/-- Whether a declarator is an array or the qualifiers of one. -/
def Declarator.concernsArray : Declarator → Bool
  | .brackets .. => true
  | .qualified _ ofArray => ofArray
  | _ => false

/-- Whether a declarator stands behind all parameters. -/
def Declarator.isLate : Declarator → Bool
  | .functionEnd q _ => !q.isEmpty
  | _ => false

mutual

/-- Writes a term in a scope. -/
def print : (fuel : Nat) → Scope → Node → Printer
  | 0, _, _ => failure
  | fuel + 1, scope, n =>
    let printAll (ns : List Node) : Printer := separated ", " (print fuel scope) true ns
    let wrapped (d : Declarator) (n : Node) : Printer :=
      around d (print fuel scope n) (declarator fuel scope d)
    match n with
    | .word text => put text
    | .sequence parts => separated "" (print fuel scope) true parts
    | .abbreviated text _ => put text
    | .tagged n tag => do
      print fuel scope n
      put ("[abi:" ++ tag ++ "]")
    | .constructor => do
      match scope.leaf? with
      | some n => print fuel scope n
      | none => failure
    | .destructor => do
      put "~"
      match scope.leaf? with
      | some n => print fuel scope n
      | none => failure
    | .operatorName symbol => do
      put "operator"
      if symbol.toList.any (·.isAlpha) then space
      put symbol
    | .conversion t => do
      put "operator"
      space
      print fuel (scope.inside t) t
    | .closure parameters number => do
      -- a parameter of a template in the parameters of a closure is one that it deduces
      let outer := (← get).inClosure
      put "\x7blambda("
      modify fun p => { p with inClosure := true }
      apart (printAll parameters)
      modify fun p => { p with inClosure := outer }
      put s!")#{number}\x7d"
    | .unnamed number => put s!"\x7bunnamed type#{number}\x7d"
    | .nested outer n => do
      print fuel scope outer
      put "::"
      print fuel scope n
    | .template n arguments => do
      print fuel { scope with arguments := arguments :: scope.arguments } n
      -- brackets of one kind are kept apart
      if (← get).written.head? = some '<' then put " "
      put "<"
      apart (printAll arguments)
      if (← get).written.head? = some '>' then put " "
      put ">"
    | .method q r n => do
      print fuel scope n
      -- the declarator around the method comes before its qualifiers
      match (← get).waiting with
      | d :: waiting => do
        modify fun p => { p with waiting }
        declarator fuel scope d
      | [] => pure ()
      putWords q.words
      putReceiver r
    | .localEntity f n => do
      apart (print fuel scope f)
      put "::"
      print fuel scope n
    | .parameter i => do
      if (← get).inClosure then put s!"auto:{i + 1}"
      else
        match scope.argument? i with
        | some n => print fuel scope n
        | none => failure
    | .pointer t => wrapped .pointer t
    | .reference r t => wrapped (.reference r) t
    | .qualified q t =>
      let ofArray := match t with
        | .array .. => true
        | _ => false
      wrapped (.qualified q ofArray) t
    | .memberPointer owner t => wrapped (.memberPointer owner) t
    | .array length element => wrapped (.brackets length element) element
    | .functionType q r types =>
      let result := types.headD (.word "void")
      let d := Declarator.functionEnd q r
      around d
        (around (.parameters types.tail) (print fuel scope result) do
          space
          parameters fuel scope types.tail)
        (declarator fuel scope d)
    | .pack arguments => do
      modify fun p => { p with hasPack := true }
      printAll arguments
    | .expansion t => do
      print fuel scope t
      if !(← get).hasPack then put "..."
    | .function n types => apart do
      let scope := { scope with leaf? := n.leaf?.or scope.leaf? }
      let scope := scope.inside n
      -- the first type of a function from a template is its result
      let isTemplate := n.arguments?.isSome
      if isTemplate && !n.hasFixedResult then
        print fuel scope (types.headD (.word "void"))
        put " "
      let types := if isTemplate && !n.hasFixedResult then types.tail else types
      around (.parameters types) (print fuel scope n) (parameters fuel scope types)

/-- Writes a declarator in a scope. -/
def declarator : (fuel : Nat) → Scope → Declarator → Printer
  | 0, _, _ => failure
  | fuel + 1, scope, d =>
    match d with
    | .pointer => put "*"
    | .reference r => putReference r
    | .qualified q _ => putWords q.words
    | .functionEnd q r => do
      putWords q.words
      putReceiver r
    | .parameters types => parameters fuel scope types
    | .memberPointer owner => do
      if (← get).written.head? ≠ some '(' then put " "
      print fuel scope owner
      put "::*"
    | .brackets length _ => do
      -- what does not concern an array goes between parentheses, and all that waits behind it
      let behindArray := ((← get).waiting.takeWhile (·.concernsArray)).any (·.isArray)
      drainAll fun d => do
        if d.concernsArray then declarator fuel scope d
        else
          space
          match d with
          | .qualified q _ => do
            putWords q.words
            space
            put "("
          | d => do
            put "("
            declarator fuel scope d
          drainAll (declarator fuel scope)
          put ")"
      if !behindArray then space
      put "["
      if let some n := length then print fuel scope n
      put "]"

/-- Writes the parameters of a function, and before them the pointers to it. No parameters are
written where there is just one type, for no value. -/
def parameters : (fuel : Nat) → Scope → List Node → Printer
  | 0, _, _ => failure
  | fuel + 1, scope, types => do
    let (blank, needed) := parentheses (← get).waiting
    if needed then
      let last := (← get).written.head?
      if blank || !(last = some '(' || last = some '*') then space
      put "("
    -- the qualifiers of a function wait until its parameters are written
    let waiting := (← get).waiting
    modify fun p => { p with waiting := waiting.filter fun d => !d.isLate }
    drainAll (declarator fuel scope)
    modify fun p => { p with waiting := waiting.filter (·.isLate) }
    if needed then put ")"
    put "("
    if types.length = 1 && types.all (·.isVoid) then put ")"
    else
      apart (separated ", " (print fuel scope) true types)
      put ")"
      drainAll (declarator fuel scope)

end

/-- The most terms around a term that is written. -/
def maxPrintDepth : Nat := 128

/-- The text of an entity. -/
def Node.text? (n : Node) : Option String :=
  match (print maxPrintDepth {} n).run {} with
  | (some (), p) => some (String.ofList p.written.reverse)
  | (none, _) => none

end ScriptSandbox.Symbol.Itanium
