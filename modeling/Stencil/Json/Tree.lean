import Stencil.Json.Token

/-!
# Trees of JSON texts

What a text says up to its first fault, with the places that later complaints refer
to.  A fault is a leaf where the missing value or member would stand, so whoever
walks the tree from left to right meets everything in front of the fault first, and
nothing is behind it.

The tree grows along the tokens.  The brackets that are open are a list of frames,
the innermost first.

## Main definitions

* `Node`, `Member`: trees.
* `TextTree.read`: the tree of a text.
-/

namespace Stencil.Json

mutual

/-- A value in a text. -/
inductive Node where
  /-- No value, because of a fault. -/
  | broken (fault : Fault)
  /-- A scalar and where it stops. -/
  | scalar (value : Scalar) (stop : Place)
  /-- A list and where it starts. -/
  | list (start : Place) (items : List Node)
  /-- An object and where it starts. -/
  | object (start : Place) (members : List Member)

/-- A member of an object in a text. -/
inductive Member where
  /-- No member, because of a fault. -/
  | broken (fault : Fault)
  /-- A key and its value.  A complaint about the object that is raised at the key
  or after the value is reported at the place beside it. -/
  | entry (key : String) (atKey : Place) (value : Node) (atValue : Place)

end

/-- A bracket that is open. -/
inductive Frame where
  /-- A list and its items so far, the last one first. -/
  | list (start : Place) (before : List Node)
  /-- An object and its members so far, the last one first. -/
  | object (start : Place) (before : List Member)
  /-- An object with a key whose value is missing. -/
  | member (start : Place) (before : List Member) (key : String) (atKey : Place)

/-- What may come next. -/
inductive Expectation where
  | value
  /-- A value or the end of an empty list. -/
  | firstItem
  | afterItem
  /-- A key or the end of an empty object. -/
  | firstKey
  | key
  | colon
  | afterMember

/-- The tree of a text, and the fault behind it if something follows the value. -/
structure TextTree where
  root : Node
  trailing : Option Fault

/-- The number of brackets that may not be open at once. -/
def depthLimit : Nat := 128

namespace Frame

/-- The whole tree when nothing more is read: the node is the last one that is
known. -/
def abandon (node : Node) : List Frame → Node
  | [] => node
  | .list start before :: frames => abandon (.list start (node :: before).reverse) frames
  | .object start before :: frames => abandon (.object start before.reverse) frames
  | .member start before key atKey :: frames =>
    abandon (.object start (.entry key atKey node {} :: before).reverse) frames

/-- The whole tree when a member is missing in the innermost object. -/
def abandonMember (fault : Fault) : List Frame → Node
  | .object start before :: frames =>
    abandon (.object start (.broken fault :: before).reverse) frames
  | frames => abandon (.broken fault) frames

end Frame

/-- Where a complaint is reported that is raised before the token: behind the token
if it ends an object. -/
def Token.settle : List Token → Place
  | [] => {}
  | t :: _ =>
    match t.lexeme with
    | .endObject => t.stop
    | _ => t.start

namespace TextTree

/-- The fault behind a complete value. -/
def trailing? : List Token → Option Fault
  | [] => none
  | t :: _ =>
    match t.lexeme with
    | .finish => none
    | _ => some ⟨.trailingCharacters, t.glance⟩

/-- What a complete value leads to: more of the bracket around it, or the end. -/
def attach (node : Node) (rest : List Token) : List Frame → Option (List Frame × Expectation)
  | [] => none
  | .list start before :: frames => some (.list start (node :: before) :: frames, .afterItem)
  | .member start before key atKey :: frames =>
    some (.object start (.entry key atKey node (Token.settle rest) :: before) :: frames,
      .afterMember)
  | .object start before :: frames => some (.object start before :: frames, .afterMember)

/-- The tree that grows out of the open brackets along the tokens. -/
def grow (frames : List Frame) (expectation : Expectation) : List Token → TextTree
  | [] => ⟨Frame.abandon (.broken ⟨.endInValue, {}⟩) frames, none⟩
  | t :: rest =>
    let stop (node : Node) : TextTree := ⟨Frame.abandon node frames, none⟩
    let fail (reason : Reason) : TextTree := stop (.broken ⟨reason, t.glance⟩)
    let failMember (reason : Reason) : TextTree :=
      ⟨Frame.abandonMember ⟨reason, t.glance⟩ frames, none⟩
    let complete (node : Node) (frames : List Frame) : TextTree :=
      match attach node rest frames with
      | none => ⟨node, trailing? rest⟩
      | some (frames, expectation) => grow frames expectation rest
    let open' (frame : Frame) (expectation : Expectation) : TextTree :=
      if frames.length + 1 < depthLimit then grow (frame :: frames) expectation rest
      else fail .tooDeep
    let value (_ : Unit) : TextTree :=
      match t.lexeme with
      | .scalar v => complete (.scalar v t.stop) frames
      | .beginList => open' (.list t.start []) .firstItem
      | .beginObject => open' (.object t.start []) .firstKey
      | .broken fault _ => stop (.broken fault)
      | .finish => fail .endInValue
      | _ => fail .noValue
    let key (frames : List Frame) (start : Place) (before : List Member) : TextTree :=
      match t.lexeme with
      | .scalar (.text key) =>
        grow (.member start before key (Token.settle rest) :: frames) .colon rest
      | .broken fault true => ⟨Frame.abandonMember fault (.object start before :: frames), none⟩
      | _ => failMember .keyNotText
    match expectation, frames with
    | .value, _ =>
      match t.lexeme, frames with
      | .endList, .list _ (_ :: _) :: _ => fail .trailingComma
      | _, _ => value ()
    | .firstItem, .list start before :: outer =>
      match t.lexeme with
      | .endList => complete (.list start before.reverse) outer
      | .finish => fail .endInList
      | _ => value ()
    | .afterItem, .list start before :: outer =>
      match t.lexeme with
      | .endList => complete (.list start before.reverse) outer
      | .comma => grow frames .value rest
      | .finish => fail .endInList
      | _ => fail .noListComma
    | .firstKey, .object start before :: outer =>
      match t.lexeme with
      | .endObject => complete (.object start before.reverse) outer
      | .finish => failMember .endInObject
      | _ => key outer start before
    | .key, .object start before :: outer =>
      match t.lexeme with
      | .endObject => failMember .trailingComma
      | .finish => failMember .endInValue
      | _ => key outer start before
    | .colon, .member _ _ _ _ :: _ =>
      match t.lexeme with
      | .colon => grow frames .value rest
      | .finish => fail .endInObject
      | _ => fail .noColon
    | .afterMember, .object start before :: outer =>
      match t.lexeme with
      | .endObject => complete (.object start before.reverse) outer
      | .comma => grow frames .key rest
      | .finish => failMember .endInObject
      | _ => failMember .noObjectComma
    | _, _ => value ()

/-- The tree of a text. -/
def read (text : String) : TextTree := grow [] .value (Token.scan text)

end TextTree

end Stencil.Json
