/-!
# Terminals of the grammar

The tokens that the parser shifts, in the order in which the parse tables number them: the end of input, the
identifier, the operators, punctuation and words with a fixed spelling, then the tokens that only the surrounding
parse state makes possible (`automaticSemicolon` to `jsxText`).
-/

namespace Bookmarklet.Script

/-- The tokens of the grammar. -/
inductive Terminal where
  | endOfInput | identifier | hashBangLine | kwExport | star | kwDefault | kwAs | lbrace | comma | rbrace
  | kwImport | kwFrom | kwWith | kwVar | kwLet | kwConst | kwElse | kwIf | kwSwitch | kwFor | lparen
  | semicolon | rparen | kwAwait | kwIn | kwOf | kwWhile | kwDo | kwTry | kwBreak | kwContinue | kwDebugger
  | kwReturn | kwThrow | colon | kwCase | kwCatch | kwFinally | kwYield | assign | lbracket | rbracket
  | htmlCharacterReference | less | greater | jsxIdentifier | dot | lessSlash | slashGreater | doubleQuote
  | singleQuote | jsxDoubleFragment | jsxSingleFragment | kwClass | kwExtends | kwAsync | kwFunction | arrow
  | optionalChain | kwNew | plusAssign | minusAssign | starAssign | slashAssign | percentAssign | caretAssign
  | ampAssign | barAssign | shiftRightAssign | unsignedShiftRightAssign | shiftLeftAssign | powerAssign
  | andAssign | orAssign | nullishAssign | ellipsis | logicalAnd | logicalOr | shiftRight | unsignedShiftRight
  | shiftLeft | amp | caret | bar | plus | minus | slash | percent | power | lessEqual | looseEqual
  | strictEqual | looseNotEqual | strictNotEqual | greaterEqual | nullish | kwInstanceof | bang | tilde
  | kwTypeof | kwVoid | kwDelete | increment | decrement | doubleFragment | singleFragment | escapeSequence
  | comment | backquote | substitutionOpen | regexClose | regexPattern | regexFlags | number
  | privatePropertyIdentifier | kwTarget | kwMeta | thisRef | superRef | trueLiteral | falseLiteral
  | nullLiteral | undefinedRef | at | kwStatic | staticGet | kwGet | kwSet | automaticSemicolon | templateChars
  | question | htmlComment | jsxText
  deriving DecidableEq, Inhabited

namespace Terminal

/-- The number that the parse tables give to a terminal. -/
def index (t : Terminal) : Nat := t.ctorIdx

/-- How many terminals there are. -/
def count : Nat := 133

/-- Every terminal, in table order. -/
def all : List Terminal := (List.range count).map ofNat

/-- The fixed spelling of an operator, a punctuation mark or a word. -/
def spelling? : Terminal → Option String
  | .kwExport => some "export"
  | .star => some "*"
  | .kwDefault => some "default"
  | .kwAs => some "as"
  | .lbrace => some "\x7b"
  | .comma => some ","
  | .rbrace => some "\x7d"
  | .kwImport => some "import"
  | .kwFrom => some "from"
  | .kwWith => some "with"
  | .kwVar => some "var"
  | .kwLet => some "let"
  | .kwConst => some "const"
  | .kwElse => some "else"
  | .kwIf => some "if"
  | .kwSwitch => some "switch"
  | .kwFor => some "for"
  | .lparen => some "("
  | .semicolon => some ";"
  | .rparen => some ")"
  | .kwAwait => some "await"
  | .kwIn => some "in"
  | .kwOf => some "of"
  | .kwWhile => some "while"
  | .kwDo => some "do"
  | .kwTry => some "try"
  | .kwBreak => some "break"
  | .kwContinue => some "continue"
  | .kwDebugger => some "debugger"
  | .kwReturn => some "return"
  | .kwThrow => some "throw"
  | .colon => some ":"
  | .kwCase => some "case"
  | .kwCatch => some "catch"
  | .kwFinally => some "finally"
  | .kwYield => some "yield"
  | .assign => some "="
  | .lbracket => some "["
  | .rbracket => some "]"
  | .less => some "<"
  | .greater => some ">"
  | .dot => some "."
  | .lessSlash => some "</"
  | .slashGreater => some "/>"
  | .doubleQuote => some "\""
  | .singleQuote => some "'"
  | .kwClass => some "class"
  | .kwExtends => some "extends"
  | .kwAsync => some "async"
  | .kwFunction => some "function"
  | .arrow => some "=>"
  | .kwNew => some "new"
  | .plusAssign => some "+="
  | .minusAssign => some "-="
  | .starAssign => some "*="
  | .slashAssign => some "/="
  | .percentAssign => some "%="
  | .caretAssign => some "^="
  | .ampAssign => some "&="
  | .barAssign => some "|="
  | .shiftRightAssign => some ">>="
  | .unsignedShiftRightAssign => some ">>>="
  | .shiftLeftAssign => some "<<="
  | .powerAssign => some "**="
  | .andAssign => some "&&="
  | .orAssign => some "||="
  | .nullishAssign => some "??="
  | .ellipsis => some "..."
  | .logicalAnd => some "&&"
  | .logicalOr => some "||"
  | .shiftRight => some ">>"
  | .unsignedShiftRight => some ">>>"
  | .shiftLeft => some "<<"
  | .amp => some "&"
  | .caret => some "^"
  | .bar => some "|"
  | .plus => some "+"
  | .minus => some "-"
  | .slash => some "/"
  | .percent => some "%"
  | .power => some "**"
  | .lessEqual => some "<="
  | .looseEqual => some "=="
  | .strictEqual => some "==="
  | .looseNotEqual => some "!="
  | .strictNotEqual => some "!=="
  | .greaterEqual => some ">="
  | .nullish => some "??"
  | .kwInstanceof => some "instanceof"
  | .bang => some "!"
  | .tilde => some "~"
  | .kwTypeof => some "typeof"
  | .kwVoid => some "void"
  | .kwDelete => some "delete"
  | .increment => some "++"
  | .decrement => some "--"
  | .backquote => some "`"
  | .substitutionOpen => some "$\x7b"
  | .regexClose => some "/"
  | .kwTarget => some "target"
  | .kwMeta => some "meta"
  | .at => some "@"
  | .kwStatic => some "static"
  | .kwGet => some "get"
  | .kwSet => some "set"
  | .question => some "?"
  | .optionalChain => some "?."
  | .thisRef => some "this"
  | .superRef => some "super"
  | .trueLiteral => some "true"
  | .falseLiteral => some "false"
  | .nullLiteral => some "null"
  | .undefinedRef => some "undefined"
  | _ => none

/-- The words that are lexed as identifiers first and read as themselves only where the grammar expects them. -/
def isKeyword : Terminal → Bool
  | .kwExport | .kwDefault | .kwAs | .kwImport | .kwFrom | .kwWith | .kwVar | .kwLet | .kwConst | .kwElse
  | .kwIf | .kwSwitch | .kwFor | .kwAwait | .kwIn | .kwOf | .kwWhile | .kwDo | .kwTry | .kwBreak
  | .kwContinue | .kwDebugger | .kwReturn | .kwThrow | .kwCase | .kwCatch | .kwFinally | .kwYield
  | .kwClass | .kwExtends | .kwAsync | .kwFunction | .kwNew | .kwInstanceof | .kwTypeof | .kwVoid
  | .kwDelete | .kwTarget | .kwMeta | .thisRef | .superRef | .trueLiteral | .falseLiteral | .nullLiteral
  | .undefinedRef | .kwStatic | .kwGet | .kwSet => true
  | _ => false

/-- The keywords. -/
def keywords : List Terminal := all.filter isKeyword

end Terminal
end Bookmarklet.Script
