import Swatch.Yaml.Cell

/-!
The tokens of a document. The blocks that indentation opens and closes, and the keys of mappings,
have tokens of their own, so that the grammar of tokens does not mention columns. What is no token
ends the tokens before the document does; the fault then lies behind those that were complete, and
one that these lead to comes first.
-/
namespace Swatch.Yaml

/-- A token of a document. -/
inductive Token where
  | version (major minor : Nat)
  | tagHandle (handle lead : Text)
  | otherDirective
  | documentStart
  | documentEnd
  | blockSequence
  | blockMapping
  | blockEnd
  | sequenceOpen
  | sequenceClose
  | mappingOpen
  | mappingClose
  | entry
  | comma
  | key
  | value
  | alias (name : Text)
  | anchor (name : Text)
  | tag (handle : Option Text) (suffix : Text)
  | scalar (text : Text) (plain : Bool)
  deriving DecidableEq

/-- The tokens of a document up to its end or to a fault. -/
structure TokenRun where
  tokens : List Token
  fault : Option Fault := none
  deriving DecidableEq

end Swatch.Yaml
