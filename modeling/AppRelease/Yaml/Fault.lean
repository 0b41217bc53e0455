import AppRelease.Numeral

/-!
# What is wrong with a YAML text, and where

A fault names a problem, the place of it, and what was being read there. Places count lines and
columns from zero; the start of the text is not mentioned.
-/

namespace AppRelease.Yaml

/-- A place in a text. -/
structure Mark where
  index : Nat := 0
  line : Nat := 0
  column : Nat := 0
  deriving DecidableEq, Repr

/-- The place after a character that ends no line. -/
def Mark.step (m : Mark) : Mark := ⟨m.index + 1, m.line, m.column + 1⟩

/-- The place after a line end. -/
def Mark.newLine (m : Mark) : Mark := ⟨m.index + 1, m.line + 1, 0⟩

/-- Whether a place is the start of the text. -/
def Mark.isStart (m : Mark) : Bool := m.line = 0 && m.column = 0

/-- A place in words. -/
def Mark.text (m : Mark) : String :=
  "line " ++ Numeral.decimal (m.line + 1) ++ " column " ++ Numeral.decimal (m.column + 1)

/-- A place in words after a text, unless it is the start. -/
def Mark.after (m : Mark) (text : String) : String :=
  if m.isStart then text else text ++ " at " ++ m.text

/-- What is wrong. -/
inductive Problem where
  | valueMissing
  | entryMisplaced
  | keyMisplaced
  | valueMisplaced
  | noToken
  | unknownDirective
  | directiveNameMissing
  | directiveNameMalformed
  | lineEndMissing
  | versionPointMissing
  | versionTooLong
  | versionMissing
  | blankMissing
  | blankOrLineEndMissing
  | nameMissing
  | exclamationMissing
  | angleMissing
  | addressMissing
  | octetMissing
  | leadingOctet
  | trailingOctet
  | zeroIndentation
  | tabAsIndentation
  | documentMarkInside
  | endInside
  | unknownEscape
  | hexadecimalMissing
  | invalidCode
  | colonMisplaced
  | tabMisplaced
  | documentStartMissing
  | versionTwice
  | versionUnknown
  | handleTwice
  | handleUnknown
  | nodeMissing
  | entryMissing
  | keyMissing
  | sequenceEndMissing
  | mappingEndMissing
  deriving DecidableEq, Repr

/-- The wording of a problem. -/
def Problem.text : Problem → String
  | .valueMissing => "could not find expected ':'"
  | .entryMisplaced => "block sequence entries are not allowed in this context"
  | .keyMisplaced => "mapping keys are not allowed in this context"
  | .valueMisplaced => "mapping values are not allowed in this context"
  | .noToken => "found character that cannot start any token"
  | .unknownDirective => "found unknown directive name"
  | .directiveNameMissing => "could not find expected directive name"
  | .directiveNameMalformed => "found unexpected non-alphabetical character"
  | .lineEndMissing => "did not find expected comment or line break"
  | .versionPointMissing => "did not find expected digit or '.' character"
  | .versionTooLong => "found extremely long version number"
  | .versionMissing => "did not find expected version number"
  | .blankMissing => "did not find expected whitespace"
  | .blankOrLineEndMissing => "did not find expected whitespace or line break"
  | .nameMissing => "did not find expected alphabetic or numeric character"
  | .exclamationMissing => "did not find expected '!'"
  | .angleMissing => "did not find the expected '>'"
  | .addressMissing => "did not find expected tag URI"
  | .octetMissing => "did not find URI escaped octet"
  | .leadingOctet => "found an incorrect leading UTF-8 octet"
  | .trailingOctet => "found an incorrect trailing UTF-8 octet"
  | .zeroIndentation => "found an indentation indicator equal to 0"
  | .tabAsIndentation => "found a tab character where an indentation space is expected"
  | .documentMarkInside => "found unexpected document indicator"
  | .endInside => "found unexpected end of stream"
  | .unknownEscape => "found unknown escape character"
  | .hexadecimalMissing => "did not find expected hexdecimal number"
  | .invalidCode => "found invalid Unicode character escape code"
  | .colonMisplaced => "found unexpected ':'"
  | .tabMisplaced => "found a tab character that violates indentation"
  | .documentStartMissing => "did not find expected <document start>"
  | .versionTwice => "found duplicate %YAML directive"
  | .versionUnknown => "found incompatible YAML document"
  | .handleTwice => "found duplicate %TAG directive"
  | .handleUnknown => "found undefined tag handle"
  | .nodeMissing => "did not find expected node content"
  | .entryMissing => "did not find expected '-' indicator"
  | .keyMissing => "did not find expected key"
  | .sequenceEndMissing => "did not find expected ',' or ']'"
  | .mappingEndMissing => "did not find expected ',' or '\x7d'"

/-- What was being read. -/
inductive Context where
  | token
  | simpleKey
  | directive
  | versionDirective
  | tagDirective
  | tagDirectiveStart
  | tagDirectiveHandle
  | tagDirectiveAddress
  | anchor
  | alias
  | tag
  | tagAddress
  | blockScalar
  | quotedScalar
  | escape
  | plainScalar
  | node
  | blockNode
  | flowNode
  | blockSequence
  | blockMapping
  | flowSequence
  | flowMapping
  deriving DecidableEq, Repr

/-- The wording of what was being read. -/
def Context.text : Context → String
  | .token => "while scanning for the next token"
  | .simpleKey => "while scanning a simple key"
  | .directive => "while scanning a directive"
  | .versionDirective => "while scanning a %YAML directive"
  | .tagDirective => "while scanning a %TAG directive"
  | .tagDirectiveStart => "while scanning a tag directive"
  | .tagDirectiveHandle => "while parsing a tag directive"
  | .tagDirectiveAddress => "while parsing a %TAG directive"
  | .anchor => "while scanning an anchor"
  | .alias => "while scanning an alias"
  | .tag => "while scanning a tag"
  | .tagAddress => "while parsing a tag"
  | .blockScalar => "while scanning a block scalar"
  | .quotedScalar => "while scanning a quoted scalar"
  | .escape => "while parsing a quoted scalar"
  | .plainScalar => "while scanning a plain scalar"
  | .node => "while parsing a node"
  | .blockNode => "while parsing a block node"
  | .flowNode => "while parsing a flow node"
  | .blockSequence => "while parsing a block collection"
  | .blockMapping => "while parsing a block mapping"
  | .flowSequence => "while parsing a flow sequence"
  | .flowMapping => "while parsing a flow mapping"

/-- Why a text is not YAML. -/
inductive Fault where
  | controlCharacter (offset : Nat)
  | found (problem : Problem) (place : Mark) (reading : Option (Context × Mark))
  deriving DecidableEq, Repr

/-- The wording of a fault. The place of what was being read is mentioned when it is another one. -/
def Fault.message : Fault → String
  | .controlCharacter offset =>
    "control characters are not allowed"
      ++ if offset = 0 then "" else " at position " ++ Numeral.decimal offset
  | .found problem place reading =>
    place.after problem.text
      ++ match reading with
        | none => ""
        | some (context, mark) =>
          ", " ++ if mark.line = place.line && mark.column = place.column then context.text
            else mark.after context.text

end AppRelease.Yaml
