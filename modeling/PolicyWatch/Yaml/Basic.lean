/-!
# Tokens and nodes of configuration files

A YAML file is read as a row of tokens, and the tokens as a tree of nodes.
-/

namespace PolicyWatch.Yaml

/-- How a scalar is written. -/
inductive ScalarStyle where
  | plain
  | singleQuoted
  | doubleQuoted
  | literal
  | folded
  deriving DecidableEq, Repr

inductive Token where
  | versionDirective (major minor : Nat)
  | tagDirective (handle front : String)
  | documentStart
  | documentEnd
  | blockSequenceStart
  | blockMappingStart
  | blockEnd
  | flowSequenceStart
  | flowSequenceEnd
  | flowMappingStart
  | flowMappingEnd
  | blockEntry
  | flowEntry
  | key
  | value
  | alias (name : String)
  | anchor (name : String)
  | tag (handle suffix : String)
  | scalar (text : String) (style : ScalarStyle)
  deriving DecidableEq, Repr, Inhabited

/-- A node.  An alias stands for the node in a slot of the anchors. -/
inductive Node where
  | scalar (text : String) (style : ScalarStyle) (tag : Option String)
  | sequence (elements : List Node)
  | mapping (pairs : List (Node × Node))
  | alias (slot : Nat)
  deriving Inhabited

/-- The node that stands where nothing is written. -/
def Node.empty : Node := .scalar "" .plain none

end PolicyWatch.Yaml
