import SceneAudit.CSharp.Reader.Lexer

/-!
# Bracket trees

The tokens of a source form a tree: what stands between a bracket and its partner belongs together.  Angle brackets
are brackets only around type arguments, and everywhere else they are operators.  They are taken for brackets if they
follow a word or the star of a function pointer, if all up to the partner may stand among type arguments, and if what
comes next may follow a type.
-/

namespace SceneAudit.CSharp

inductive Tree where
  | leaf (token : Token)
  /-- The bracket, what is inside, and the partner. -/
  | group (bracket : Bracket) (first : Token) (inner : List Tree) (last : Token)

/-! ## Type arguments -/

/-- The words that may stand before a word among type arguments. -/
def variances : List String := ["in", "out", "ref", "readonly"]

/-- Whether a token may stand among type arguments after the given one. -/
def mayStandInTypeArguments (enclosing : List Bracket) (previous token : Token) : Bool :=
  match token.kind with
  | .word =>
    enclosing.head? = some .round
      || if previous.kind = .word then variances.contains previous.text
        else !(previous.isMark "?" || previous.isMark ">")
  | .mark => [",", ".", "::", "?", "*"].contains token.text
  | _ => false

/-- The marks that may follow type arguments. -/
def marksAfterTypeArguments : List String :=
  [";", ",", ".", ":", "::", "?", "?.", "??", "=", "=>", "==", "!=", "&&", "||", "&", "|", "^", "*"]

/-- Whether a token may follow type arguments. -/
def mayFollowTypeArguments (next : Option Token) : Bool :=
  match next with
  | none => true
  | some token =>
    match token.kind with
    | .word | .closing _ | .branch | .opening .round | .opening .square | .opening .curly => true
    | .opening .conditional => true
    | .mark => marksAfterTypeArguments.contains token.text
    | _ => false

/-- Whether the tokens after an angle bracket, as far as its partner, may be type arguments. -/
def holdsTypeArguments (enclosing : List Bracket) (previous : Token) : List Token → Bool
  | [] => false
  | token :: rest =>
    match token.kind with
    | .opening bracket =>
      (bracket = .round || bracket = .square) && holdsTypeArguments (bracket :: enclosing) token rest
    | .closing bracket =>
      match enclosing with
      | innermost :: outer => innermost = bracket && holdsTypeArguments outer token rest
      | [] => false
    | _ =>
      if token.isMark "<" then
        previous.kind = .word && holdsTypeArguments (.angle :: enclosing) token rest
      else if token.isMark ">" then
        match enclosing with
        | [.angle] => mayFollowTypeArguments rest.head?
        | .angle :: outer => holdsTypeArguments outer token rest
        | _ => false
      else
        mayStandInTypeArguments enclosing previous token && holdsTypeArguments enclosing token rest

/-- Whether the angle bracket between the given tokens opens type arguments. -/
def opensTypeArguments (previous : Option Token) (bracket : Token) (rest : List Token) : Bool :=
  match previous with
  | some token =>
    ((token.kind = .word && token.text ≠ "operator") || token.isMark "*") && holdsTypeArguments [.angle] bracket rest
  | none => false

/-! ## Building the tree -/

/-- A bracket whose partner has not come yet. -/
structure OpenGroup where
  bracket : Bracket
  first : Token
  /-- What stands before the bracket in the group around it, the last first. -/
  before : List Tree

/-- What a token does to the groups that are open. -/
inductive Step where
  | opens (bracket : Bracket)
  | closes (bracket : Bracket)
  | stands

/-- What a token does, given the innermost open bracket, the token before it and the tokens after it. -/
def stepOf (innermost : Option Bracket) (previous : Option Token) (token : Token) (rest : List Token) : Step :=
  match token.kind with
  | .opening bracket => .opens bracket
  | .closing bracket => .closes bracket
  | _ =>
    if token.isMark "<" && (innermost = some .angle || opensTypeArguments previous token rest) then .opens .angle
    else if token.isMark ">" && innermost = some .angle then .closes .angle
    else .stands

/-- The trees of the tokens ahead, given the open groups, the innermost first, and what the innermost one holds so far,
the last first.  An error is the number of the line where it is. -/
def treesFrom (groups : List OpenGroup) (reversed : List Tree) (previous : Option Token) :
    List Token → Except Nat (List Tree)
  | [] =>
    match groups with
    | [] => .ok reversed.reverse
    | group :: _ => .error (previous.getD group.first).line
  | token :: rest =>
    match stepOf (groups.head?.map OpenGroup.bracket) previous token rest with
    | .opens bracket => treesFrom (⟨bracket, token, reversed⟩ :: groups) [] (some token) rest
    | .closes bracket =>
      match groups with
      | [] => .error token.line
      | group :: outer =>
        if group.bracket = bracket then
          treesFrom outer (.group bracket group.first reversed.reverse token :: group.before) (some token) rest
        else
          .error token.line
    | .stands => treesFrom groups (.leaf token :: reversed) (some token) rest

/-- The trees of a sequence of tokens; if the brackets do not match, the line where that shows. -/
def trees (tokens : List Token) : Except Nat (List Tree) :=
  treesFrom [] [] none tokens

end SceneAudit.CSharp
