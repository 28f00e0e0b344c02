import Reconciliation.Settings.Yaml.Node
import Reconciliation.Settings.Yaml.Token

/-!
# YAML documents

* `Composer.node` puts a node together from its tokens.
* `Composer.document` is the document of all tokens, of which there is one at most.
* `Yaml.parse` reads a text. No document is an empty table.
-/

namespace Reconciliation.Settings.Yaml

open Json (Value)

/-- What tokens are left, and what was said before. -/
structure Composer where
  tokens : List Token
  /-- What handles of tags stand for. -/
  handles : List (String × String)
  /-- What anchors stand for, in the order of the text; nothing yet while their node has no end. -/
  anchors : Array (String × Option Node)

abbrev Composing := StateT Composer Option

namespace Composer

def peek : Composing (Option Token) := do pure (← get).tokens.head?

def skip : Composing Unit := modify fun s => { s with tokens := s.tokens.tail }

/-- Passes over a token that has to be there. -/
def expect (t : Token) : Composing Unit := do
  if (← peek) ≠ some t then failure
  skip

/-- One more than the number of tokens that are left. -/
def steps : Composing Nat := do pure ((← get).tokens.length + 1)

/-- A node, but null where one of these tokens stands instead. -/
def nodeBefore (ends : List Token) (node : Composing Node) : Composing Node := do
  if (← peek).any ends.contains then pure .null else node

/-! ### Anchors and tags -/

/-- An anchor, if there is one: its number. -/
def anchor? : Composing (Option Nat) := do
  match ← peek with
  | some (.anchor name) => do
    skip
    let s ← get
    set { s with anchors := s.anchors.push (name, none) }
    pure (some s.anchors.size)
  | _ => pure none

/-- A tag, if there is one. -/
def tag? : Composing (Option Tag) := do
  match ← peek with
  | some (.tag t) => do
    skip
    match t.resolve? (← get).handles with
    | some t => pure (some t)
    | none => failure
  | _ => pure none

/-- An anchor and a tag, in any order. -/
def properties : Composing (Option Nat × Option Tag) := do
  match ← anchor? with
  | some anchor => do pure (some anchor, ← tag?)
  | none =>
    let tag ← tag?
    let anchor ← if tag.isSome then anchor? else pure none
    pure (anchor, tag)

/-- The node that an anchor stands for; the last one of this name counts. -/
def referent (name : String) : Composing Node := do
  match (← get).anchors.toList.reverse.find? (·.1 == name) with
  | some (_, n) => pure (n.getD .unknown)
  | none => failure

def setAnchor (number : Nat) (n : Node) : Composing Unit :=
  modify fun s => { s with anchors := s.anchors.modify number fun a => (a.1, some n) }

/-! ### Blocks -/

/-- The items of a sequence that are left. -/
def blockItems (item : Composing Node) : (fuel : Nat) → Composing (List Node)
  | 0 => failure
  | fuel + 1 => do
    match ← peek with
    | some .closeBlock => do
      skip
      pure []
    | _ => do
      expect .item
      let n ← nodeBefore [.item, .closeBlock] item
      pure (n :: (← blockItems item fuel))

/-- The items that are left of a sequence that is not indented. -/
def bareItems (item : Composing Node) : (fuel : Nat) → Composing (List Node)
  | 0 => failure
  | fuel + 1 => do
    match ← peek with
    | some .item => do
      skip
      let n ← nodeBefore [.item, .key, .value, .closeBlock] item
      pure (n :: (← bareItems item fuel))
    | _ => pure []

/-- A value behind its sign, or null; it ends at these tokens. -/
def valueBefore (ends : List Token) (node : Composing Node) : Composing Node := do
  match ← peek with
  | some .value => do
    skip
    nodeBefore ends node
  | _ => pure .null

/-- The keys and values of a mapping that are left. -/
def blockEntries (node : Composing Node) : (fuel : Nat) → Composing (List Node)
  | 0 => failure
  | fuel + 1 => do
    let ends : List Token := [.key, .value, .closeBlock]
    match ← peek with
    | some .closeBlock => do
      skip
      pure []
    | t => do
      let key ← if t = some .value then pure .null else do
        expect .key
        nodeBefore ends node
      let value ← valueBefore ends node
      pure (key :: value :: (← blockEntries node fuel))

/-! ### Between brackets -/

/-- Passes over the comma in front of what is not the first item. -/
def commaUnless (first : Bool) : Composing Unit := do
  if !first then expect .comma

/-- A table of one key and its value, behind the token of the key. -/
def pair (node : Composing Node) : Composing Node := do
  let ends : List Token := [.comma, .closeList]
  let key ←
    if (← peek).any (.value :: ends).contains then do
      skip
      pure .null
    else node
  let value ← valueBefore ends node
  match Node.ofParts? [key, value] with
  | some n => pure n
  | none => failure

/-- The items of a list that are left. -/
def listItems (node : Composing Node) : (fuel : Nat) → (first : Bool) → Composing (List Node)
  | 0, _ => failure
  | fuel + 1, first => do
    if (← peek) = some .closeList then do
      skip
      pure []
    else
      commaUnless first
      match ← peek with
      | some .closeList => do
        skip
        pure []
      | some .key => do
        skip
        let n ← pair node
        pure (n :: (← listItems node fuel false))
      | _ => do
        let n ← node
        pure (n :: (← listItems node fuel false))

/-- The keys and values of a table that are left. -/
def tableEntries (node : Composing Node) : (fuel : Nat) → (first : Bool) → Composing (List Node)
  | 0, _ => failure
  | fuel + 1, first => do
    if (← peek) = some .closeTable then do
      skip
      pure []
    else
      commaUnless first
      let ends : List Token := [.comma, .closeTable]
      match ← peek with
      | some .closeTable => do
        skip
        pure []
      | some .key => do
        skip
        let key ← nodeBefore (.value :: ends) node
        let value ← valueBefore ends node
        pure (key :: value :: (← tableEntries node fuel false))
      | some .value => do
        let value ← valueBefore ends node
        pure (.null :: value :: (← tableEntries node fuel false))
      | _ => do
        let key ← node
        pure (key :: .null :: (← tableEntries node fuel false))

/-! ### Nodes -/

def table (parts : Composing (List Node)) : Composing Node := do
  match Node.ofParts? (← parts) with
  | some n => pure n
  | none => failure

/-- A node behind its anchor and its tag; `inner` reads nodes within it. Blocks may stand in a block, and behind the
sign of a key or a value also a sequence that is not indented. A node that is marked by an anchor or a tag may be
empty. -/
def content (inner : (inBlock behindKey : Bool) → Composing Node) (inBlock behindKey : Bool) (isMarked : Bool)
    (tag : Option Tag) : Composing Node := do
  let empty : Composing Node := if isMarked then pure (Node.ofText tag true "") else failure
  match ← peek with
  | some (.text isPlain s) => do
    skip
    pure (Node.ofText tag isPlain s)
  | some .openList => do
    skip
    pure (.list (← listItems (inner false false) (← steps) true))
  | some .openTable => do
    skip
    table do tableEntries (inner false false) (← steps) true
  | some .item =>
    if behindKey then do pure (.list (← bareItems (inner true false) (← steps))) else empty
  | some .openSequence =>
    if inBlock then do
      skip
      pure (.list (← blockItems (inner true false) (← steps)))
    else empty
  | some .openMapping =>
    if inBlock then do
      skip
      table do blockEntries (inner true true) (← steps)
    else empty
  | _ => empty

/-- A node with at most `levels` others around each other. -/
def node : (levels : Nat) → (inBlock behindKey : Bool) → Composing Node
  | 0, _, _ => failure
  | levels + 1, inBlock, behindKey => do
    match ← peek with
    | some (.reference name) => do
      skip
      referent name
    | _ =>
      let (anchor, tag) ← properties
      let n ← content (node levels) inBlock behindKey (anchor.isSome || tag.isSome) tag
      match anchor with
      | some number => setAnchor number n
      | none => pure ()
      pure n

/-! ### Documents -/

def endMarks : (fuel : Nat) → Composing Unit
  | 0 => failure
  | fuel + 1 => do
    if (← peek) = some .endMark then do
      skip
      endMarks fuel

/-- Directives in front of a document. Only the last one says what a handle stands for, and there is one version at
most. -/
def directives (versioned : Bool) : (fuel : Nat) → Composing Unit
  | 0 => failure
  | fuel + 1 => do
    match ← peek with
    | some (.directive .version) => do
      if versioned then failure
      skip
      modify fun s => { s with handles := [] }
      directives true fuel
    | some (.directive (.handle name meaning)) => do
      skip
      modify fun s => { s with handles := [(name, meaning)] }
      directives versioned fuel
    | _ => pure ()

/-- The document behind its mark, or without one. -/
def documentNode : Composing Node := do
  match ← peek with
  | some .startMark | some (.directive _) => do
    directives false (← steps)
    expect .startMark
    match ← peek with
    | none | some .startMark | some .endMark | some (.directive _) => pure .null
    | _ => node (← steps) true false
  | _ => node (← steps) true false

/-- The document, if there is one. -/
def document : Composing (Option Node) := do
  endMarks (← steps)
  if (← peek).isNone then pure none
  else
    let n ← documentNode
    endMarks (← steps)
    if (← peek).isSome then failure
    pure (some n)

end Composer

/-- Ends of lines in one way. -/
def lineFeeds : List Char → List Char
  | '\r' :: '\n' :: rest => '\n' :: lineFeeds rest
  | '\r' :: rest => '\n' :: lineFeeds rest
  | c :: rest => c :: lineFeeds rest
  | [] => []

/-- Reads a text with one document at most. A text ends at its first null character. -/
def parse (text : String) : Option Value := do
  let tokens ← Token.ofText? (lineFeeds (text.toList.takeWhile (· ≠ '\x00')))
  let (n, _) ← Composer.document.run ⟨tokens, [], #[]⟩
  match n with
  | some n => n.value?
  | none => some (.object [])

end Reconciliation.Settings.Yaml
