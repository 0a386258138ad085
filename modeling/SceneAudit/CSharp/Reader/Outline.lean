import SceneAudit.CSharp.Reader.Token

/-!
# Outlines of C# sources

The outline of a source says which fields it declares and in what scopes.  Classes, the other types, namespaces and the
parts under a condition are scopes.
-/

namespace SceneAudit.CSharp

inductive Scope where
  | classBody
  /-- The body of a struct, interface, record or enumeration, of a namespace, or a part under a condition. -/
  | other
deriving DecidableEq

structure Field where
  /-- Where the modifiers stand, such as `public`. -/
  modifiers : List Span
  /-- Where the names of the attributes stand. -/
  attributes : List Span
  /-- Where the names of the declared variables stand, also of those in the bodies of functions within an attribute
  or an initialiser. -/
  declared : List Span
deriving DecidableEq

inductive Outline where
  | field (content : Field)
  | scope (kind : Scope) (members : List Outline)

end SceneAudit.CSharp
