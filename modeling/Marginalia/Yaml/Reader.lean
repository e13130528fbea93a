import Marginalia.Yaml.Node
import Marginalia.Yaml.Plain

/-!
# Reading YAML

A text is read by way of its tokens and its nodes.  What the nodes stand for is a value: a plain
scalar may be a number, a truth value or nothing, a tag may say what a node is, and a mapping may
take the entries of others for those it does not have itself.  A key that comes twice keeps its
first place and its last value.
-/

namespace Marginalia

namespace Yaml

/-- The full tag of a kind of values. -/
def standardTag (kind : String) : Text :=
  "tag:yaml.org,2002:".toList ++ kind.toList

/-- The key under which a mapping names those whose entries it takes. -/
def mergeKey : Text := ['<', '<']

/-- The scalar that stands for the value of a mapping as a whole, and for nothing elsewhere. -/
def valueKey : Text := ['=']

/-- The value of a scalar with a tag. -/
def taggedValue (tag content : Text) : Except Fault Value :=
  if tag = standardTag "str" then .ok (.text content)
  else if tag = standardTag "null" then .ok .null
  else if tag = standardTag "bool" then
    match truthWords.get? (content.map Char.toLower) with
    | some truth => .ok (.bool truth)
    | none => .error .malformed
  else if tag = standardTag "int" then
    match integer? content with
    | some number => number.map Value.integer
    | none => .error .malformed
  else if tag = standardTag "float" then
    match decimal? content <|> Text.readDecimal content with
    | some number => .ok (.decimal number)
    | none => .error .malformed
  else .error .malformed

/-- The value of a scalar. -/
def scalarValue (tag : Option Text) (content : Text) (isPlain : Bool) : Except Fault Value :=
  match tag with
  | some tag => taggedValue tag content
  | none =>
      if !isPlain then .ok (.text content)
      else if content = mergeKey || content = valueKey then .error .malformed
      else plainValue content

/-- Whether a collection may have a tag. -/
def allowsTag (kind : String) (tag : Option Text) : Bool :=
  tag.all (· = standardTag kind)

/-- Whether a value can be a key: no collection can. -/
def isKey : Value → Bool
  | .list _ => false
  | .mapping _ => false
  | _ => true

/-- Set several keys of a mapping, one after the other. -/
def putAll (added entries : List (Value × Value)) : List (Value × Value) :=
  added.foldl (fun entries (key, value) => Value.put key value entries) entries

/-- The entries that a mapping takes from the value under the merge key: those of one mapping, or of
several, of which the first has the last word. -/
def mergedEntries : Value → Except Fault (List (Value × Value))
  | .mapping entries => .ok entries
  | .list items => do
      let parts ← items.mapM fun item =>
        match item with
        | .mapping entries => Except.ok entries
        | _ => .error .malformed
      return parts.reverse.flatten
  | _ => .error .malformed

/-- Whether a node is the merge key. -/
def isMergeKey : Node → Bool
  | .scalar none content true => content = mergeKey
  | _ => false

/-- Whether a node is the value key, which as a key is a text. -/
def isValueKey : Node → Bool
  | .scalar none content true => content = valueKey
  | _ => false

/-- The key that a node stands for, given the value that it has elsewhere. -/
def asKey (node : Node) (elsewhere : Except Fault Value) : Except Fault Value := do
  if isValueKey node then return .text valueKey
  let key ← elsewhere
  if isKey key then return key else .error .malformed

mutual

/-- The value of a node. -/
def valueOf : Node → Except Fault Value
  | .scalar tag content isPlain => scalarValue tag content isPlain
  | .sequence tag items =>
      if allowsTag "seq" tag then (valuesOf items).map Value.list else .error .malformed
  | .mapping tag entries =>
      if allowsTag "map" tag then do
        let (merged, own) ← entriesOf entries
        return .mapping (putAll own (putAll merged []))
      else .error .malformed

/-- The values of nodes. -/
def valuesOf : List Node → Except Fault (List Value)
  | [] => .ok []
  | item :: items => do
      let value ← valueOf item
      return value :: (← valuesOf items)

/-- The entries that a mapping takes from others, and those of its own. -/
def entriesOf :
    List (Node × Node) → Except Fault (List (Value × Value) × List (Value × Value))
  | [] => .ok ([], [])
  | (key, node) :: entries =>
      if isMergeKey key then do
        let merged ← mergedEntries (← valueOf node)
        let (more, own) ← entriesOf entries
        return (merged ++ more, own)
      else do
        let key ← asKey key (valueOf key)
        let value ← valueOf node
        let (merged, own) ← entriesOf entries
        return (merged, (key, value) :: own)

end

/-- Read a document; an empty one says nothing. -/
def read (text : Text) : Except Fault Value :=
  if !text.all isAllowed then .error .malformed
  else
    match tokens (Text.normalizeNewlines text) >>= Node.ofTokens with
    | none => .error .malformed
    | some none => .ok .null
    | some (some node) => valueOf node

end Yaml

end Marginalia
