import AppManifest.Json.Basic
import AppManifest.Json.Token

/-!
# The tree of a text

Every text has a tree, also one that breaks off or is malformed: the tree then holds everything up
to the first fault and marks the place. Reading a tree in order therefore meets the same faults in
the same order as reading the text does, and two texts with the same tree are read alike.

`Tree.isWellFormed` says that a tree has no fault, and `Tree.value?` is its JSON value.
-/

namespace AppManifest

/-- What stands in a text, without its contents if it has parts. -/
inductive Found where
  | scalar (value : Scalar)
  | array
  | object

/-- The tree of a text. After the first fault it holds nothing more. -/
inductive Tree where
  /-- There is no value, or none that can be read. -/
  | broken
  | scalar (value : Scalar)
  /-- An array; `closed` if its closing bracket is there. -/
  | array (items : List Tree) (closed : Bool)
  /-- An object; `closed` if its closing brace is there. A name has no text if half of a surrogate
  pair stands alone in it. -/
  | object (members : List (Option String × Tree)) (closed : Bool)
deriving Inhabited

namespace Scalar

/-- The JSON value of a scalar that has one. -/
def value? : Scalar → Option Json
  | .null => some .null
  | .bool value => some (.bool value)
  | .number value => value.map .number
  | .string value => value.map .string

end Scalar

namespace Tree

/-- What stands at the root, unless it is a fault. -/
def found? : Tree → Option Found
  | .broken => none
  | .scalar (.number none) | .scalar (.string none) => none
  | .scalar value => some (.scalar value)
  | .array _ _ => some .array
  | .object _ _ => some .object

mutual

/-- The tree has no fault. Numbers may be too large, and halves of surrogate pairs may stand
alone. -/
def isWellFormed : Tree → Bool
  | .broken => false
  | .scalar _ => true
  | .array items closed => areWellFormed items && closed
  | .object members closed => areMembersWellFormed members && closed

/-- No item has a fault. -/
def areWellFormed : List Tree → Bool
  | [] => true
  | item :: rest => item.isWellFormed && areWellFormed rest

/-- No member has a fault. -/
def areMembersWellFormed : List (Option String × Tree) → Bool
  | [] => true
  | (_, value) :: rest => value.isWellFormed && areMembersWellFormed rest

end

mutual

/-- The JSON value of a tree that has no fault, whose scalars all have values, and whose arrays and
objects are nested at most `levels` deep. Of several members with one name the last is kept. -/
def value? (levels : Nat) : Tree → Option Json
  | .broken => none
  | .scalar value => value.value?
  | .array items closed =>
      match levels with
      | 0 => none
      | levels + 1 => if closed then (values? levels items).map .array else none
  | .object members closed =>
      match levels with
      | 0 => none
      | levels + 1 =>
          if closed then
            (memberValues? levels members).map fun entries => .object (Entries.ofList entries)
          else none

/-- The JSON values of a list of trees. -/
def values? (levels : Nat) : List Tree → Option (List Json)
  | [] => some []
  | item :: rest =>
      (item.value? levels).bind fun value => (values? levels rest).map (value :: ·)

/-- The named JSON values of a list of members. -/
def memberValues? (levels : Nat) : List (Option String × Tree) → Option (List (String × Json))
  | [] => some []
  | (name?, member) :: rest =>
      name?.bind fun name =>
        (member.value? levels).bind fun value =>
          (memberValues? levels rest).map ((name, value) :: ·)

end

end Tree

/-- An array or object that is being read, around the place at which the reader stands. -/
inductive Frame where
  /-- An array, after these items, the latest first. -/
  | array (items : List Tree)
  /-- An object, after these members, the latest first, at the value of the name. -/
  | object (members : List (Option String × Tree)) (name : Option String)

namespace Frame

/-- The broken tree of the innermost array or object, around the tree of its last part. -/
def wrap (inner : Tree) : Frame → Tree
  | .array items => .array (inner :: items).reverse false
  | .object members name => .object ((name, inner) :: members).reverse false

end Frame

/-- Where the tree builder stands between two tokens. The frames are those of the arrays and objects
around that place, the innermost first. -/
inductive Builder where
  /-- A value must follow. -/
  | atValue (frames : List Frame)
  /-- After an opening bracket: a first item or the closing bracket must follow. -/
  | atFirst (frames : List Frame)
  /-- After an opening brace or after the comma behind a member: a name must follow, or, if there
  are no members, the closing brace. -/
  | atName (frames : List Frame) (members : List (Option String × Tree))
  /-- After a name: a colon must follow. -/
  | atColon (frames : List Frame) (members : List (Option String × Tree)) (name : Option String)
  /-- After a complete value. -/
  | complete (frames : List Frame) (value : Tree)
  /-- After the end of the tree or its first fault. -/
  | stopped (tree : Tree) (trailing : Bool)

namespace Builder

/-- Stops at a fault inside the frames. -/
def halt (frames : List Frame) (inner : Tree) : Builder :=
  .stopped (frames.foldl Frame.wrap inner) false

/-- Takes the first token of a value. -/
def startValue (frames : List Frame) : Token → Builder
  | .scalar value => .complete frames (.scalar value)
  | .openArray => .atFirst frames
  | .openObject => .atName frames []
  | _ => halt frames .broken

/-- Takes the token in the place of a name. -/
def startName (frames : List Frame) (members : List (Option String × Tree)) : Token → Builder
  | .scalar (.string name) => .atColon frames members name
  | .closeObject =>
      if members.isEmpty then .complete frames (.object [] true)
      else halt frames (.object members.reverse false)
  | _ => halt frames (.object members.reverse false)

/-- Takes the token after a complete value. -/
def afterValue (value : Tree) : List Frame → Token → Builder
  | [], _ => .stopped value true
  | .array items :: frames, .comma => .atValue (.array (value :: items) :: frames)
  | .array items :: frames, .closeArray => .complete frames (.array (value :: items).reverse true)
  | .object members name :: frames, .comma => .atName frames ((name, value) :: members)
  | .object members name :: frames, .closeObject =>
      .complete frames (.object ((name, value) :: members).reverse true)
  | frames, _ => halt frames value

/-- Takes one token. -/
def step : Builder → Token → Builder
  | .atValue frames, token => startValue frames token
  | .atFirst frames, .closeArray => .complete frames (.array [] true)
  | .atFirst frames, token => startValue (.array [] :: frames) token
  | .atName frames members, token => startName frames members token
  | .atColon frames members name, .colon => .atValue (.object members name :: frames)
  | .atColon frames members name, _ =>
      halt frames (.object ((name, .broken) :: members).reverse false)
  | .complete frames value, token => afterValue value frames token
  | .stopped tree trailing, _ => .stopped tree trailing

/-- The tree when no token follows. -/
def finish : Builder → Tree
  | .atValue frames => frames.foldl Frame.wrap .broken
  | .atFirst frames => frames.foldl Frame.wrap (.array [] false)
  | .atName frames members => frames.foldl Frame.wrap (.object members.reverse false)
  | .atColon frames members name =>
      frames.foldl Frame.wrap (.object ((name, .broken) :: members).reverse false)
  | .complete frames value => frames.foldl Frame.wrap value
  | .stopped tree _ => tree

/-- Tokens follow the complete tree. -/
def hasTrailing : Builder → Bool
  | .stopped _ trailing => trailing
  | _ => false

end Builder

/-- The tree of a text, and whether anything but blanks follows it. -/
structure Outline where
  tree : Tree
  trailing : Bool

namespace Outline

/-- The outline of a sequence of tokens. -/
def ofTokens (tokens : List Token) : Outline :=
  let builder := tokens.foldl Builder.step (.atValue [])
  ⟨builder.finish, builder.hasTrailing⟩

/-- The outline of a text. -/
def ofText (text : String) : Outline :=
  ofTokens (Token.scan text.toList)

/-- The JSON value of a text that is nothing but one, nested at most `levels` deep. -/
def value? (outline : Outline) (levels : Nat) : Option Json :=
  if outline.trailing then none else outline.tree.value? levels

end Outline

end AppManifest
