/-!
# Target languages

An artifact is emitted for one of two languages. Each has fixed templates: a prologue and an
epilogue around the whole, a definition for every overload and, where the language needs it, a
declaration. A template names its placeholders as `Template.hole` writes them.
-/

namespace FactoryOverloads

/-- A placeholder in a template: a dollar sign and the name in braces. -/
def Template.hole (name : String) : String := "$\x7b" ++ name ++ "\x7d"

/-- A language an artifact can be emitted for. -/
inductive Target where
  /-- A header of function templates. -/
  | cpp
  /-- A source file of generic functions. -/
  | rust
  deriving DecidableEq, Repr

namespace Target

open Template (hole)

/-- The targets. -/
def all : List Target := [.cpp, .rust]

/-- The name of the target in settings, options and messages. -/
def name : Target → String
  | .cpp => "cpp"
  | .rust => "rust"

/-- The target of a name. -/
def ofName? (name : String) : Option Target := all.find? fun target => target.name == name

/-- The target of a name in an option, where the case of ASCII letters may be passed over. -/
def parse? (ignoreCase : Bool) (name : String) : Option Target :=
  if ignoreCase then all.find? fun target => target.name == name.toLower else ofName? name

/-- The extension of the artifact's file name. -/
def fileExtension : Target → String
  | .cpp => "hpp"
  | .rust => "rs"

/-- What begins the artifact. -/
def prologue : Target → String
  | .cpp =>
    "// @generated by genmakeimpl. Do not edit by hand.\n" ++
    "//\n" ++
    "// Factory overloads for constructor arities " ++ hole "min_arity" ++ " through " ++
      hole "max_arity" ++ ".\n" ++
    "// Each overload takes the explicit arguments named by its pattern_tag and\n" ++
    "// resolves every other constructor parameter from the container.\n" ++
    "\n" ++
    "#pragma once\n" ++
    "\n" ++
    "#include <utility>\n" ++
    "\n" ++
    "namespace makeimpl \x7b\n" ++
    "\n" ++
    "// Marks which constructor positions an overload takes explicitly.\n" ++
    "template<bool... Markers>\n" ++
    "struct pattern_tag \x7b\x7d;\n" ++
    "\n"
  | .rust =>
    "// @generated by genmakeimpl. Do not edit by hand.\n" ++
    "//\n" ++
    "// Factory functions for constructor arities " ++ hole "min_arity" ++ " through " ++
      hole "max_arity" ++ ".\n" ++
    "// `Container` and `Resolve<T>` must be in scope where this file is included.\n" ++
    "\n"

/-- What declares an overload ahead of its definition. -/
def declaration? : Target → Option String
  | .cpp => some (
    "// arity " ++ hole "arity" ++ ", pattern " ++ hole "pattern" ++ "\n" ++
    "template<" ++ hole "type_params" ++ ">\n" ++
    "Impl_* make_impl(" ++ hole "params" ++ ");\n" ++
    "\n")
  | .rust => none

/-- What defines an overload. -/
def definition : Target → String
  | .cpp =>
    "template<" ++ hole "type_params" ++ ">\n" ++
    "Impl_* make_impl(" ++ hole "params" ++ ")\n" ++
    "\x7b\n" ++
    "    return new Impl_(" ++ hole "call_args" ++ ");\n" ++
    "\x7d\n" ++
    "\n"
  | .rust =>
    "/// Arity " ++ hole "arity" ++ ", pattern `" ++ hole "pattern" ++ "`.\n" ++
    "#[allow(clippy::too_many_arguments, unused_variables)]\n" ++
    "pub fn " ++ hole "name" ++ "<" ++ hole "type_params" ++ ">(" ++ hole "params" ++
      ") -> Result<R, C::Error>\n" ++
    "where\n" ++
    hole "bounds" ++ "\n" ++
    "\x7b\n" ++
    "    Ok(ctor(" ++ hole "call_args" ++ "))\n" ++
    "\x7d\n" ++
    "\n"

/-- What ends the artifact. -/
def epilogue : Target → String
  | .cpp => "\x7d // namespace makeimpl\n"
  | .rust => ""

end Target

end FactoryOverloads
