/-!
# Why a text is not a YAML document

One cause per kind of problem, with its wording in `Problem.message`.
-/

namespace FactoryOverloads.Yaml

/-- A reason for which a text does not hold one YAML value. -/
inductive Problem where
  | controlCharacter
  | unexpectedCharacter
  | unexpectedColon
  | missingColon
  | misplacedEntry
  | misplacedKey
  | misplacedValue
  | misplacedTab
  | unclosedScalar
  | unknownEscape
  | invalidEscape
  | blockHeader
  | directive
  | version
  | anchorName
  | tagName
  | undefinedHandle
  | missingNode
  | missingIndicator
  | severalDocuments
  | unknownAnchor
  | aliasLimit
  | depthLimit
  | duplicateKey
  | scalarForm
  | integerRange
  deriving DecidableEq, Repr

/-- The description of a problem. -/
def Problem.message : Problem → String
  | .controlCharacter => "control characters are not allowed"
  | .unexpectedCharacter => "found character that cannot start any token"
  | .unexpectedColon => "found unexpected ':'"
  | .missingColon => "could not find expected ':'"
  | .misplacedEntry => "block sequence entries are not allowed in this context"
  | .misplacedKey => "mapping keys are not allowed in this context"
  | .misplacedValue => "mapping values are not allowed in this context"
  | .misplacedTab => "found a tab character where an indentation space is expected"
  | .unclosedScalar => "found unexpected end of a quoted scalar"
  | .unknownEscape => "found unknown escape character"
  | .invalidEscape => "found an invalid escape sequence"
  | .blockHeader => "found an invalid block scalar header"
  | .directive => "found an invalid directive"
  | .version => "found incompatible YAML document"
  | .anchorName => "did not find expected alphabetic or numeric character"
  | .tagName => "did not find expected tag"
  | .undefinedHandle => "found undefined tag handle"
  | .missingNode => "did not find expected node content"
  | .missingIndicator => "did not find expected indicator"
  | .severalDocuments => "the text holds more than one document"
  | .unknownAnchor => "unknown anchor"
  | .aliasLimit => "repetition limit exceeded"
  | .depthLimit => "recursion limit exceeded"
  | .duplicateKey => "duplicate entry"
  | .scalarForm => "a scalar does not have the form its tag asks for"
  | .integerRange => "an integer needs more than 64 bits"

end FactoryOverloads.Yaml
