import PromptTemplates.Entries
import PromptTemplates.Journal
import PromptTemplates.Value.Basic

/-!
# Signatures and handlers

A handler takes its arguments by position and by name, as its signature says. Binding gives every
parameter its value, in the order of the signature; it fails when a parameter has none, or when an
argument finds no parameter. A handler without a signature takes all arguments as they come.
-/

namespace PromptTemplates

/-- How a parameter takes its argument: by position only, by position or by name, by name only, or
as the collection of all arguments that are left, by position or by name. -/
inductive ParameterKind where
  | positionalOnly
  | ordinary
  | variadic
  | keywordOnly
  | variadicKeyword
  deriving DecidableEq, Repr

/-- Whether the parameter takes a single argument by position. -/
def ParameterKind.isPositional : ParameterKind → Bool
  | .positionalOnly => true
  | .ordinary => true
  | _ => false

/-- A parameter. `fallback` is its value when no argument is given. -/
structure Parameter where
  name : String
  kind : ParameterKind := .ordinary
  fallback : Option Value := none
  deriving Repr

/-- The parameters of a handler in order. -/
abbrev Signature := List Parameter

/-- Values by name. -/
abbrev Named := Entries String Value

namespace Signature

/-- Gives every parameter its value, or `none` if the arguments do not fit. -/
def bind? : (signature : Signature) → (args : List Value) → (kwargs : Named) → Option Named
  | [], [], [] => some []
  | [], _, _ => none
  | p :: rest, args, kwargs =>
    match p.kind, args with
    | .positionalOnly, arg :: args => (bind? rest args kwargs).map ((p.name, arg) :: ·)
    | .positionalOnly, [] =>
      p.fallback.bind fun v => (bind? rest [] kwargs).map ((p.name, v) :: ·)
    | .ordinary, arg :: args =>
      if kwargs.has p.name then none else (bind? rest args kwargs).map ((p.name, arg) :: ·)
    | .ordinary, [] =>
      (kwargs.get? p.name <|> p.fallback).bind fun v =>
        (bind? rest [] (kwargs.erase p.name)).map ((p.name, v) :: ·)
    | .variadic, args => (bind? rest [] kwargs).map ((p.name, .tuple args) :: ·)
    | .keywordOnly, args =>
      (kwargs.get? p.name <|> p.fallback).bind fun v =>
        (bind? rest args (kwargs.erase p.name)).map ((p.name, v) :: ·)
    | .variadicKeyword, args =>
      (bind? rest args []).map ((p.name, .map (kwargs.map fun (k, v) => (.str k, v))) :: ·)

end Signature

/-- Renders some nodes in a scope: the parts of the resulting text. -/
abbrev Enter := List Node → Value → Action (List String)

/-- What a running handler sees: its parameters with their values, and a way to render the branches
of a block. -/
structure Frame where
  bound : Named
  enter : Enter

/-- A handler: its signature, if it can be told, and what it does. -/
structure Handler where
  signature : Option Signature
  run : Frame → Action Value

namespace Handler

/-- The parameters with their values. Without a signature all arguments are collected. -/
def bind? (h : Handler) (args : List Value) (kwargs : Named) : Option Named :=
  match h.signature with
  | some signature => signature.bind? args kwargs
  | none => some [("args", .tuple args), ("kwargs", .map (kwargs.map fun (k, v) => (.str k, v)))]

/-- Calls the handler. -/
def call (h : Handler) (args : List Value) (kwargs : Named) (enter : Enter) : Action Value := do
  match h.bind? args kwargs with
  | some bound => h.run ⟨bound, enter⟩
  | none => Action.failWith .badType

end Handler

namespace Frame

/-- The value of a parameter; null if there is none of that name. -/
def get (frame : Frame) (name : String) : Value := (frame.bound.get? name).getD .null

end Frame

end PromptTemplates
