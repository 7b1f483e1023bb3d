import ScriptBinding.Text.CodePoint

/-!
The declarations of one compilation unit: global functions, classes, and the types of their
arguments, properties and results. Nothing here is checked; a declaration built in memory may break
every rule that the check states.
-/
namespace ScriptBinding

/-- The names of the types that have one of their own. -/
def Primitive.kinds : List Text :=
  List.map Text.ofString
  ["void", "boolean", "int32", "int64", "double", "string", "object", "any", "function"]

/-- The types that have a name of their own. A declaration built in memory may name a kind that
there is not. -/
inductive Primitive where
  | void
  | boolean
  | int32
  | int64
  | double
  | string
  | object
  | any
  | function
  | unlisted (kind : Text) (other : kind ∉ Primitive.kinds)
deriving DecidableEq

namespace Primitive

def listed : List (Text × Primitive) :=
  [("void", void), ("boolean", boolean), ("int32", int32), ("int64", int64), ("double", double),
   ("string", string), ("object", object), ("any", any), ("function", function)]

def ofName? (name : Text) : Option Primitive := listed.lookup name

def name : Primitive → Text
  | void => "void"
  | boolean => "boolean"
  | int32 => "int32"
  | int64 => "int64"
  | double => "double"
  | string => "string"
  | object => "object"
  | any => "any"
  | function => "function"
  | unlisted kind _ => kind

end Primitive

/-- The type of an argument, a property or a result. `promise` and `owned` are meant for results
only: a promise handle, and an owning pointer to an instance of the named interface. -/
inductive ValueType where
  | primitive (p : Primitive)
  | interface (name : Text)
  | sequence (element : ValueType)
  | promise
  | owned (name : Text)
deriving DecidableEq

namespace ValueType

/-- The interface a type names, at the bottom of its sequences. -/
def interfaceName? : ValueType → Option Text
  | primitive _ | promise => none
  | interface name | owned name => some name
  | sequence element => element.interfaceName?

/-- `void` stands at the bottom of the sequences. -/
def containsVoid : ValueType → Bool
  | primitive p => p = .void
  | sequence element => element.containsVoid
  | interface _ | promise | owned _ => false

end ValueType

structure Argument where
  name : Text
  type : ValueType
  required : Bool
deriving DecidableEq

structure FunctionDecl where
  name : Text
  arguments : List Argument
  result : ValueType
deriving DecidableEq

def FunctionDecl.requiredCount (f : FunctionDecl) : Nat := f.arguments.countP (·.required)

/-- A function of this name creates an instance. -/
def constructorName : Text := "constructor"

def FunctionDecl.isConstructor (f : FunctionDecl) : Bool := f.name = constructorName

structure PropertyDecl where
  name : Text
  type : ValueType
  readOnly : Bool
deriving DecidableEq

structure ClassDecl where
  constructor : FunctionDecl
  properties : List PropertyDecl
  methods : List FunctionDecl
deriving DecidableEq

inductive Member where
  /-- A function of the global object. -/
  | function (decl : FunctionDecl)
  /-- A class whose constructor is a property of the global object. -/
  | cls (decl : ClassDecl)
deriving DecidableEq

/-- One compilation unit. `backing` is the native class behind every member; an empty
`implementation` stands for the header named after the unit. -/
structure Module where
  id : Text
  backing : Text
  members : List Member
  implementation : Text
deriving DecidableEq

def Member.function? : Member → Option FunctionDecl
  | function decl => some decl
  | cls _ => none

def Member.class? : Member → Option ClassDecl
  | function _ => none
  | cls decl => some decl

namespace Module

def functions (m : Module) : List FunctionDecl := m.members.filterMap Member.function?

def classes (m : Module) : List ClassDecl := m.members.filterMap Member.class?

def hasClass (m : Module) : Bool := !m.classes.isEmpty

end Module

/-- What all generated files of one run have in common. -/
structure Options where
  namespaceName : Text
  /-- Reject a call with more arguments than declared, in place of ignoring them. -/
  strictArity : Bool
  banner : Text
  includeRoot : Text
  extraIncludes : List Text

def defaultBanner : Text :=
  Text.join "\n"
    ["/*", " * Copyright (C) 2021 Alibaba Inc. All rights reserved.", " * Author: Kraken Team.",
     " */"]

def Options.standard : Options := ⟨"kraken", false, defaultBanner, "core", []⟩

end ScriptBinding
