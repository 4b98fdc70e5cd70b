/-!
# Entities that symbols name

In symbols of the Itanium binary interface, functions, types and constants are named by terms, in
which a part may stand for one that came before. Here such parts are simply shared.

## Main definitions

* `Itanium.Node`: a term
* `Itanium.Node.leaf?`: the name that a constructor is called by
* `Itanium.Node.arguments?`: the arguments of a template
-/

namespace ScriptSandbox.Symbol.Itanium

/-- How values of a type may be used. -/
structure Qualifiers where
  restrict : Bool := false
  volatile : Bool := false
  const : Bool := false
  deriving Repr, DecidableEq

/-- Whether no qualifier is set. -/
def Qualifiers.isEmpty (q : Qualifiers) : Bool := !(q.restrict || q.volatile || q.const)

/-- The words of qualifiers, in the order in which they are written. -/
def Qualifiers.words (q : Qualifiers) : List String :=
  (if q.const then ["const"] else []) ++ (if q.volatile then ["volatile"] else []) ++
    if q.restrict then ["restrict"] else []

/-- The kinds of references. -/
inductive Reference where
  | left
  | right
  deriving Repr, DecidableEq

/-- The sign of a kind of references. -/
def Reference.text : Reference → String
  | .left => "&"
  | .right => "&&"

/-- A term that names an entity. -/
inductive Node where
  /-- Text that is written as it is. -/
  | word (text : String)
  /-- Parts that are written one after the other. -/
  | sequence (parts : List Node)
  /-- A name that has an abbreviation: all of it, and its last part. -/
  | abbreviated (text leaf : String)
  /-- A name with a mark that tells it from those of other interfaces. -/
  | tagged (name : Node) (tag : String)
  | constructor
  | destructor
  | operatorName (symbol : String)
  | conversion (type : Node)
  /-- A function without a name, its parameters, and which one of its kind it is. -/
  | closure (parameters : List Node) (number : Nat)
  | unnamed (number : Nat)
  | nested (scope name : Node)
  | template (name : Node) (arguments : List Node)
  /-- A name of a function that may be called for certain objects only. -/
  | method (q : Qualifiers) (r : Option Reference) (name : Node)
  /-- An entity inside of a function. -/
  | localEntity (function name : Node)
  /-- The parameter of a template that has a number. -/
  | parameter (i : Nat)
  | pointer (target : Node)
  | reference (r : Reference) (target : Node)
  | qualified (q : Qualifiers) (type : Node)
  /-- A type of functions: its result and its parameters. -/
  | functionType (q : Qualifiers) (r : Option Reference) (types : List Node)
  | array (length : Option Node) (element : Node)
  | memberPointer (owner target : Node)
  /-- Several arguments in the place of one. -/
  | pack (arguments : List Node)
  | expansion (type : Node)
  /-- A function: its name and types. Only where the name is a template, the first type is that of
  the result. -/
  | function (name : Node) (types : List Node)
  deriving Repr, Inhabited

namespace Node

/-- The last part of a name that has no sign of its own, which names the constructors inside of it. -/
def leaf? : Node → Option Node
  | .word text => some (.word text)
  | .abbreviated _ leaf => some (.word leaf)
  | .closure parameters number => some (.closure parameters number)
  | .unnamed number => some (.unnamed number)
  | .tagged name _ => name.leaf?
  | .nested scope name => name.leaf?.or scope.leaf?
  | .template name _ => name.leaf?
  | .method _ _ name => name.leaf?
  | .localEntity _ name => name.leaf?
  | _ => none

/-- The arguments of a template that has been given arguments. -/
def arguments? : Node → Option (List Node)
  | .template _ arguments => some arguments
  | .method _ _ name => name.arguments?
  | .localEntity _ name => name.arguments?
  | _ => none

/-- Whether a name is that of a constructor, a destructor or a conversion, whose result is no part of
its types. -/
def hasFixedResult : Node → Bool
  | .constructor | .destructor | .conversion _ => true
  | .tagged name _ => name.hasFixedResult
  | .nested _ name => name.hasFixedResult
  | .template name _ => name.hasFixedResult
  | .method _ _ name => name.hasFixedResult
  | .localEntity _ name => name.hasFixedResult
  | _ => false

/-- Whether arguments may follow a scope. -/
def takesArguments : Node → Bool
  | .template _ _ | .sequence _ => false
  | _ => true

/-- Whether a term is one for no value. -/
def isVoid : Node → Bool
  | .word text => text = "void"
  | _ => false

end Node

end ScriptSandbox.Symbol.Itanium
