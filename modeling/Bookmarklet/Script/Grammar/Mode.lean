import Bookmarklet.Script.Terminal

/-!
# Lexical modes

Which tokens are looked for depends on the parse state. States that look for the same tokens share a mode; words are
looked for as identifiers. `contexts` lists, in the same way, the tokens that need more than a pattern.
-/

namespace Bookmarklet.Script.Grammar

/-- The tokens with a pattern that are looked for in each mode. The first mode belongs to error recovery. -/
def modes : List (List Terminal) := [
  [
    .endOfInput, .identifier, .hashBangLine, .star, .lbrace, .comma, .rbrace, .lparen, .semicolon, .rparen,
    .colon, .assign, .lbracket, .rbracket, .less, .greater, .dot, .lessSlash, .doubleQuote, .singleQuote,
    .arrow, .optionalChain, .plusAssign, .minusAssign, .starAssign, .slashAssign, .percentAssign, .caretAssign,
    .ampAssign, .barAssign, .shiftRightAssign, .unsignedShiftRightAssign, .shiftLeftAssign, .powerAssign,
    .andAssign, .orAssign, .nullishAssign, .ellipsis, .logicalAnd, .logicalOr, .shiftRight, .unsignedShiftRight,
    .shiftLeft, .amp, .caret, .bar, .plus, .minus, .slash, .percent, .power, .lessEqual, .looseEqual,
    .strictEqual, .looseNotEqual, .strictNotEqual, .greaterEqual, .nullish, .bang, .tilde, .increment,
    .decrement, .escapeSequence, .comment, .backquote, .substitutionOpen, .regexClose, .number,
    .privatePropertyIdentifier, .at, .staticGet],
  [
    .endOfInput, .identifier, .hashBangLine, .star, .lbrace, .comma, .rbrace, .lparen, .semicolon, .rparen,
    .colon, .assign, .lbracket, .rbracket, .less, .greater, .doubleQuote, .singleQuote, .arrow, .ellipsis,
    .plus, .minus, .slash, .bang, .tilde, .increment, .decrement, .comment, .backquote, .number,
    .privatePropertyIdentifier, .at, .staticGet],
  [
    .endOfInput, .identifier, .star, .lbrace, .comma, .rbrace, .lparen, .semicolon, .rparen, .colon, .assign,
    .lbracket, .rbracket, .less, .greater, .dot, .doubleQuote, .singleQuote, .optionalChain, .logicalAnd,
    .logicalOr, .shiftRight, .unsignedShiftRight, .shiftLeft, .amp, .caret, .bar, .plus, .minus, .slash,
    .percent, .power, .lessEqual, .looseEqual, .strictEqual, .looseNotEqual, .strictNotEqual, .greaterEqual,
    .nullish, .bang, .tilde, .increment, .decrement, .comment, .backquote, .number, .privatePropertyIdentifier,
    .at, .staticGet],
  [
    .identifier, .lbrace, .lparen, .colon, .lbracket, .less, .greater, .dot, .doubleQuote, .singleQuote, .plus,
    .minus, .slash, .bang, .tilde, .increment, .decrement, .comment, .backquote, .number,
    .privatePropertyIdentifier, .at],
  [
    .identifier, .star, .lbrace, .comma, .rbrace, .lparen, .semicolon, .rparen, .colon, .assign, .lbracket,
    .rbracket, .less, .greater, .dot, .doubleQuote, .singleQuote, .arrow, .optionalChain, .plusAssign,
    .minusAssign, .starAssign, .slashAssign, .percentAssign, .caretAssign, .ampAssign, .barAssign,
    .shiftRightAssign, .unsignedShiftRightAssign, .shiftLeftAssign, .powerAssign, .andAssign, .orAssign,
    .nullishAssign, .logicalAnd, .logicalOr, .shiftRight, .unsignedShiftRight, .shiftLeft, .amp, .caret, .bar,
    .plus, .minus, .slash, .percent, .power, .lessEqual, .looseEqual, .strictEqual, .looseNotEqual,
    .strictNotEqual, .greaterEqual, .nullish, .increment, .decrement, .comment, .backquote, .number,
    .privatePropertyIdentifier, .at],
  [
    .identifier, .star, .lbrace, .comma, .rbrace, .lparen, .semicolon, .rparen, .colon, .lbracket, .rbracket,
    .less, .greater, .dot, .optionalChain, .logicalAnd, .logicalOr, .shiftRight, .unsignedShiftRight,
    .shiftLeft, .amp, .caret, .bar, .plus, .minus, .slash, .percent, .power, .lessEqual, .looseEqual,
    .strictEqual, .looseNotEqual, .strictNotEqual, .greaterEqual, .nullish, .increment, .decrement, .comment,
    .backquote, .regexFlags],
  [
    .identifier, .lbrace, .colon, .assign, .htmlCharacterReference, .less, .greater, .jsxIdentifier, .dot,
    .lessSlash, .slashGreater, .comment],
  [
    .escapeSequence, .comment, .backquote, .substitutionOpen],
  [
    .doubleQuote, .doubleFragment, .escapeSequence, .comment],
  [
    .singleQuote, .singleFragment, .escapeSequence, .comment],
  [
    .htmlCharacterReference, .doubleQuote, .jsxDoubleFragment, .comment],
  [
    .htmlCharacterReference, .singleQuote, .jsxSingleFragment, .comment],
  [
    .comment, .regexPattern]]

/-- The tokens found by inspecting the text around them, for each group of states. -/
def contexts : List (List Terminal) := [
  [.automaticSemicolon, .templateChars, .question, .htmlComment, .logicalOr, .escapeSequence, .jsxText],
  [.htmlComment],
  [.question, .htmlComment, .logicalOr],
  [.automaticSemicolon, .question, .htmlComment, .logicalOr],
  [.automaticSemicolon, .htmlComment],
  [.htmlComment, .jsxText],
  [.templateChars, .htmlComment, .escapeSequence],
  [.htmlComment, .escapeSequence],
  [.htmlComment, .regexPattern]]

end Bookmarklet.Script.Grammar
