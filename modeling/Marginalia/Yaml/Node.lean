import Marginalia.Table
import Marginalia.Yaml.Token

/-!
# Nodes

A document is a tree of nodes: scalars, sequences and mappings, each with the tag it was given.
Where a node may be left out, an empty plain scalar stands for it.  The reader of nodes takes tokens
off the front of a list; its depth is bounded by twice the number of tokens, since of two calls in
a row at least one takes a token.
-/

namespace Marginalia

namespace Yaml

/-- A node of a document. -/
inductive Node where
  /-- A scalar; a plain one may stand for a value of another kind. -/
  | scalar (tag : Option Text) (content : Text) (isPlain : Bool)
  /-- A sequence. -/
  | sequence (tag : Option Text) (items : List Node)
  /-- A mapping, with its entries as they are written. -/
  | mapping (tag : Option Text) (entries : List (Node × Node))
deriving Inhabited

namespace Node

/-- What stands for a node that is left out. -/
def empty : Node :=
  .scalar none [] true

/-- How far the reading of a document has come. -/
structure Progress where
  /-- The tokens that are left. -/
  rest : List Token
  /-- The nodes that have a name. -/
  anchors : Table Text Node := []

/-- A reading of a part of a document, which may fail. -/
abbrev Reader := StateT Progress Option

namespace Reader

/-- The next token. -/
def next? : Reader (Option Token) := do
  return (← get).rest.head?

/-- Whether the next token is one of the given ones. -/
def isNext (tokens : List Token) : Reader Bool := do
  return (← next?).any tokens.contains

/-- Pass over the next token. -/
def pass : Reader Unit :=
  modify fun progress => { progress with rest := progress.rest.drop 1 }

/-- Pass over the next token if it is the given one. -/
def passIf (token : Token) : Reader Bool := do
  if ← isNext [token] then
    pass
    return true
  else return false

/-- Pass over the given token; nothing else may stand here. -/
def expect (token : Token) : Reader Unit := do
  guard (← passIf token)

/-- The name that the next node is given. -/
def anchor? : Reader (Option Text) := do
  match ← next? with
  | some (.anchor name) => do
      pass
      return some name
  | _ => return none

/-- The tag that the next node is given, in full; a handle has to be declared. -/
def tag? (handles : Table Text Text) : Reader (Option Text) := do
  match ← next? with
  | some (.tag none ending) => do
      pass
      return some ending
  | some (.tag (some handle) ending) => do
      pass
      let expansion ← (Table.get? handle handles : Option Text)
      return some (expansion ++ ending)
  | _ => return none

/-- The name and the tag of the next node, in either order. -/
def properties (handles : Table Text Text) : Reader (Option Text × Option Text) := do
  match ← anchor? with
  | some name => return (some name, ← tag? handles)
  | none => do
      let tag ← tag? handles
      match tag with
      | none => return (none, none)
      | some tag => return (← anchor?, some tag)

/-- A node that may be left out before the given tokens. -/
def orNothingBefore (stops : List Token) (read : Reader Node) : Reader Node := do
  if ← isNext stops then return Node.empty else read

/-- Give a node its name; no two nodes have the same. -/
def named (name : Option Text) (read : Reader Node) : Reader Node := do
  match name with
  | none => read
  | some name => do
      guard (Table.get? name (← get).anchors).isNone
      let node ← read
      guard (Table.get? name (← get).anchors).isNone
      modify fun progress => { progress with anchors := progress.anchors.put name node }
      return node

end Reader

open Reader

/-- Whether a node is a part of a block, and whether the items of a sequence may stand in the column
of the key before them. -/
structure Position where
  /-- Whether block collections may stand here. -/
  isBlock : Bool
  /-- Whether a sequence may begin with its first item. -/
  isIndentless : Bool

/-- The tag that says that a node is what it looks like. -/
def plainTag : Text := ['!']

/-- The tag of a collection: one that says nothing is none. -/
def collectionTag (tag : Option Text) : Option Text :=
  if tag = some plainTag then none else tag

/-- A node of which there is nothing but a name or a tag. -/
def readNothing (name tag : Option Text) : Reader Node := do
  guard (name.isSome || tag.isSome)
  if tag = some plainTag then return Node.empty
  else return .scalar tag [] tag.isNone

mutual

/-- Read a node. -/
def read (handles : Table Text Text) : Nat → Position → Reader Node
  | 0, _ => failure
  | bound + 1, position => do
      match ← next? with
      | some (.alias name) => do
          pass
          (Table.get? name (← get).anchors : Option Node)
      | _ => do
          let (name, tag) ← properties handles
          named name do
            match ← next? with
            | some (.scalar content isPlain) => do
                pass
                if tag = some plainTag then return .scalar none content true
                else return .scalar tag content (isPlain && tag.isNone)
            | some .openSequence => do
                pass
                return .sequence (collectionTag tag) (← readFlowItems handles bound true)
            | some .openMapping => do
                pass
                return .mapping (collectionTag tag) (← readFlowEntries handles bound true)
            | some token => do
                if token = .blockEntry && position.isIndentless then
                  return .sequence (collectionTag tag) (← readIndentless handles bound)
                else if token = .blockSequence && position.isBlock then do
                  pass
                  return .sequence (collectionTag tag) (← readItems handles bound)
                else if token = .blockMapping && position.isBlock then do
                  pass
                  return .mapping (collectionTag tag) (← readEntries handles bound)
                else readNothing name tag
            | none => readNothing name tag

/-- Read the items of a block sequence. -/
def readItems (handles : Table Text Text) : Nat → Reader (List Node)
  | 0 => failure
  | bound + 1 => do
      if ← passIf .blockEntry then do
        let item ← orNothingBefore [.blockEntry, .blockEnd]
          (read handles bound { isBlock := true, isIndentless := false })
        return item :: (← readItems handles bound)
      else do
        expect .blockEnd
        return []

/-- Read the items of a sequence that stands in the column of its key. -/
def readIndentless (handles : Table Text Text) : Nat → Reader (List Node)
  | 0 => failure
  | bound + 1 => do
      if ← passIf .blockEntry then do
        let item ← orNothingBefore [.blockEntry, .key, .value, .blockEnd]
          (read handles bound { isBlock := true, isIndentless := false })
        return item :: (← readIndentless handles bound)
      else return []

/-- Read the entries of a block mapping. -/
def readEntries (handles : Table Text Text) : Nat → Reader (List (Node × Node))
  | 0 => failure
  | bound + 1 => do
      if ← passIf .key then do
        let part := orNothingBefore [.key, .value, .blockEnd]
          (read handles bound { isBlock := true, isIndentless := true })
        let key ← part
        let value ← if ← passIf .value then part else pure Node.empty
        return (key, value) :: (← readEntries handles bound)
      else do
        expect .blockEnd
        return []

/-- Read a key of a flow collection, after its mark, and the value after it. -/
def readFlowPair (handles : Table Text Text) (close : Token) : Nat → Reader (Node × Node)
  | 0 => failure
  | bound + 1 => do
      let part := read handles bound { isBlock := false, isIndentless := false }
      let key ← orNothingBefore [.value, .flowEntry, close] part
      let value ←
        if ← passIf .value then orNothingBefore [.flowEntry, close] part else pure Node.empty
      return (key, value)

/-- Read the items of a flow sequence.  A key among them makes a mapping of one entry. -/
def readFlowItems (handles : Table Text Text) : Nat → Bool → Reader (List Node)
  | 0, _ => failure
  | bound + 1, isFirst => do
      if ← passIf .closeSequence then return []
      else do
        if !isFirst then expect .flowEntry
        if ← passIf .key then do
          let pair ← readFlowPair handles .closeSequence bound
          return .mapping none [pair] :: (← readFlowItems handles bound false)
        else if ← passIf .closeSequence then return []
        else do
          let item ← read handles bound { isBlock := false, isIndentless := false }
          return item :: (← readFlowItems handles bound false)

/-- Read the entries of a flow mapping.  An item without a mark is a key without a value. -/
def readFlowEntries (handles : Table Text Text) : Nat → Bool → Reader (List (Node × Node))
  | 0, _ => failure
  | bound + 1, isFirst => do
      if ← passIf .closeMapping then return []
      else do
        if !isFirst then expect .flowEntry
        if ← passIf .key then do
          let pair ← readFlowPair handles .closeMapping bound
          return pair :: (← readFlowEntries handles bound false)
        else if ← passIf .closeMapping then return []
        else do
          let key ← read handles bound { isBlock := false, isIndentless := false }
          return (key, Node.empty) :: (← readFlowEntries handles bound false)

end

/-! ## Documents -/

/-- What a document declares about itself. -/
structure Declarations where
  /-- Whether the version of the format is declared. -/
  hasVersion : Bool := false
  /-- The handles of tags. -/
  handles : Table Text Text := []

/-- The handles that need no declaration. -/
def commonHandles : Table Text Text :=
  [(plainTag, plainTag), (['!', '!'], "tag:yaml.org,2002:".toList)]

/-- Read the declarations before a document. -/
def declarations (found : Declarations) : List Token → Option (Declarations × List Token)
  | .version major :: rest =>
      if found.hasVersion || major ≠ 1 then none
      else declarations { found with hasVersion := true } rest
  | .tagHandle handle expansion :: rest =>
      if (found.handles.get? handle).isSome then none
      else declarations { found with handles := found.handles.put handle expansion } rest
  | .reserved :: rest => declarations found rest
  | rest => some (found, rest)

/-- Read the node of a document, and see that nothing but marks of its end follows. -/
def readDocument (handles : Table Text Text) (tokens : List Token) : Option Node := do
  let (node, progress) ←
    (read handles (2 * tokens.length + 2) { isBlock := true, isIndentless := false }).run
      { rest := tokens }
  guard (progress.rest.all (· = .documentEnd))
  some node

/-- The node of a document that is given as tokens; without tokens there is none. -/
def ofTokens (tokens : List Token) : Option (Option Node) := do
  let (found, rest) ← declarations {} tokens
  let handles := commonHandles.foldl
    (fun handles (handle, expansion) =>
      if (handles.get? handle).isSome then handles else handles.put handle expansion)
    found.handles
  match tokens, rest with
  | [], _ => some none
  | _, .documentStart :: rest =>
      match rest with
      | [] => some (some Node.empty)
      | .documentEnd :: rest => do
          guard (rest.all (· = .documentEnd))
          some (some Node.empty)
      | rest => (readDocument handles rest).map some
  | _, rest => do
      guard (rest.length = tokens.length)
      (readDocument handles rest).map some

end Node

end Yaml

end Marginalia
