import Overseer.Shell.Nest

/-!
# Tokens of the shell language

A script is cut into words, operators and line ends.  A word goes on through
quotes and through everything nested in it; commands in parentheses that stand in
a word are gone past token by token, because a parenthesis in them need not be the
one at their end.
-/

namespace Overseer.Shell

/-- A token. -/
inductive Token
  /-- A word as it is written. -/
  | word (raw : Bytes)
  /-- An operator. -/
  | operator (text : String)
  /-- The start of a redirection. -/
  | redirection (descriptor : Nat) (kind : RedirectionKind)
  /-- The end of a line. -/
  | newline
  /-- A text that an earlier redirection reads, and whether the line that ends it
  was there. -/
  | document (ends expands : Bool) (text : Bytes)
  /-- Something nested that is not closed, and all that is left of the script. -/
  | unterminated (inside : Nest) (isDocument : Bool) (raw : Bytes)
deriving DecidableEq, Repr

/-- The words that have a meaning of their own where a command begins. -/
def reservedWords : List String :=
  ["!", "case", "do", "done", "elif", "else", "esac", "fi", "for", "if", "in", "then", "until",
    "while", "\x7b", "\x7d"]

/-- Whether a word has a meaning of its own where a command begins. -/
def isReserved (raw : Bytes) : Bool :=
  reservedWords.any (fun word => utf8 word = raw)

/-- The operators, longer ones before their beginnings. -/
def operators : List String :=
  ["&&", "||", ";;", ";", "&", "|", "(", ")"]

/-- What follows an operator.  Where that may be the beginning of a longer one, joined lines
after it were gone past to see what comes next. -/
def afterOperator (operator : String) (r : Remainder) : Remainder :=
  if [";", "&", "|"].contains operator then
    let next := dropJoins r.text
    { lines := r.lines + next.lines, text := next.text }
  else r

/-- The operator a text begins with, and what follows. -/
def operator? (text : Bytes) : Option (String × Remainder) :=
  operators.findSome? (fun op =>
    (after? (utf8 op) text).map (fun rest => (op, afterOperator op rest)))

/-- The redirection sign a text begins with: the descriptor it is for, its kind,
and what follows. -/
def redirection? (text : Bytes) : Option (Nat × RedirectionKind × Remainder) :=
  let signs : List (String × Nat × RedirectionKind) :=
    [(">>", 1, .append), (">&", 1, .copy), (">|", 1, .overwrite), (">", 1, .write),
      ("<<", 0, .text true), ("<&", 0, .copy), ("<>", 0, .update), ("<", 0, .read)]
  signs.findSome? (fun (sign, descriptor, kind) =>
    (after? (utf8 sign) text).map (fun rest => (descriptor, kind, rest)))

/-- Whether a byte ends an unquoted word. -/
def endsWord (b : UInt8) : Bool :=
  Byte.isGap b || b = Byte.newline || b = 0x3b || b = 0x26 || b = 0x7c || b = 0x3c || b = 0x3e ||
    b = openParen || b = closeParen

/-! ## Texts in scripts -/

/-- A text that stands in the script after the line that asks for it. -/
structure Document where
  /-- Whether tabs at the beginnings of lines are left out. -/
  dropsTabs : Bool
  /-- Whether expansions in it are carried out. -/
  expands : Bool
  /-- The line that ends it. -/
  ending : Bytes

/-- A word without its quotes, given what it is in the middle of. -/
def unquotedWithin : Option Nest → Bytes → Bytes
  | _, [] => []
  | some .single, b :: rest =>
      if b = Byte.quote then unquotedWithin none rest else b :: unquotedWithin (some .single) rest
  | inside, 0x5c :: c :: rest =>
      if inside = some .double && !(utf8 "\\\"$").contains c && c ≠ backquote then
        Byte.backslash :: c :: unquotedWithin inside rest
      else c :: unquotedWithin inside rest
  | inside, b :: rest =>
      if b = Byte.doubleQuote then
        unquotedWithin (if inside = some .double then none else some .double) rest
      else if b = Byte.quote && inside ≠ some .double then unquotedWithin (some .single) rest
      else b :: unquotedWithin inside rest

/-- A word without its quotes. -/
def unquoted (raw : Bytes) : Bytes :=
  unquotedWithin none raw

/-- The text of a document as it was found. -/
structure Document.Found where
  /-- The text. -/
  body : Bytes := []
  /-- Whether the line that ends it is there. -/
  ends : Bool := false
  /-- What it ends in the middle of. -/
  nesting : List Nest := []
  /-- The number of lines gone past. -/
  lines : Nat := 0
  /-- What follows it. -/
  rest : Bytes := []

/-- Put a part of a text, with its lines, in front of what was found after it. -/
def Document.Found.after (part : Bytes) (lines : Nat) (found : Found) : Found :=
  { found with body := part ++ found.body, lines := lines + found.lines }

/-- Something nested that is not closed. -/
structure Unclosed where
  /-- What it is. -/
  inside : Nest
  /-- How many lines were gone past. -/
  lines : Nat

/-- A token where it stands. -/
structure Lexeme where
  /-- The line it begins on. -/
  first : Nat
  /-- The line it ends on, which for the end of a line is the next. -/
  last : Nat
  /-- The token. -/
  token : Token
  /-- What follows it. -/
  rest : Bytes
  /-- The documents that its line has asked for up to it. -/
  asked : List Document

/-! ## Commands in parentheses -/

/-- What surrounds a token of commands in parentheses. -/
inductive Surrounding
  /-- Parentheses inside. -/
  | group
  /-- A choice whose subject comes next. -/
  | subject
  /-- A choice whose subject was read. -/
  | chosen
  /-- A choice of which a pattern may come next. -/
  | patterns
  /-- Patterns of a choice. -/
  | pattern
  /-- A body of a choice. -/
  | body
deriving DecidableEq, Repr

/-- A place in commands in parentheses. -/
structure ScriptPlace where
  /-- What surrounds it, the innermost first. -/
  around : List Surrounding := []
  /-- Whether a command may begin here. -/
  begins : Bool := true
  /-- Whether the next word belongs to a redirection. -/
  redirects : Bool := false

namespace ScriptPlace

/-- The place after an operator; there is none after the closing parenthesis. -/
def afterOperator? (p : ScriptPlace) (operator : String) : Option ScriptPlace :=
  match operator, p.around with
  | "(", .patterns :: outer => some { around := .pattern :: outer }
  | "(", around => some { around := .group :: around }
  | ")", .group :: outer => some { around := outer }
  | ")", .patterns :: outer | ")", .pattern :: outer => some { around := .body :: outer }
  | ")", _ => none
  | ";;", .body :: outer => some { around := .patterns :: outer }
  | _, around => some { around }

/-- The place after a word. -/
def afterWord (p : ScriptPlace) (raw : Bytes) : ScriptPlace :=
  if p.redirects then { p with redirects := false }
  else
    match p.around with
    | .subject :: outer => { around := .chosen :: outer }
    | .chosen :: outer => if raw = utf8 "in" then { around := .patterns :: outer } else p
    | .patterns :: outer =>
        if raw = utf8 "esac" then { around := outer } else { around := .pattern :: outer }
    | .pattern :: _ => p
    | around =>
        if !p.begins then p
        else if raw = utf8 "case" then { around := .subject :: around }
        else
          match around with
          | .body :: outer =>
              if raw = utf8 "esac" then { around := outer }
              else { p with begins := isReserved raw && raw ≠ utf8 "for" }
          | _ => { p with begins := isReserved raw && raw ≠ utf8 "for" }

/-- The place after a token; there is none after the closing parenthesis. -/
def after? (p : ScriptPlace) : Token → Option ScriptPlace
  | .word raw => some (p.afterWord raw)
  | .operator text => p.afterOperator? text
  | .redirection _ _ => some { p with redirects := true }
  | .newline => some { p with begins := true }
  | _ => some p

end ScriptPlace

/-! ## Scanning -/

/-- What follows a byte, with lines joined as far as the byte may begin an expansion with
what follows. -/
def joinAfter (stack : List Nest) (b : UInt8) (rest : Bytes) : Remainder :=
  if b = Byte.dollar && stack.head? ≠ some .single && stack.head? ≠ some .back then
    let here := dropJoins rest
    match here.text with
    | 0x7b :: text =>
        let head := joinHead text
        { lines := here.lines + head.lines, text := Byte.openBrace :: head.text }
    | _ => here
  else { text := rest }

/- Every function takes a bound on the number of its steps. -/

mutual

/-- What is read at once with a byte.  Commands in parentheses are read as a whole; if
they are not closed, so is all that is left. -/
def stepInto (fuel : Nat) (stack : List Nest) (b : UInt8) (rest : Bytes) : Stride :=
  match fuel with
  | 0 => { stack, length := 1 }
  | fuel + 1 =>
      if Nest.opensScript stack b rest then
        match scanScript fuel {} [] 0 rest.tail with
        | .ok { lines, text } => { stack, length := 1 + rest.length - text.length, lines }
        | .error { inside, lines } =>
            let stack := if inside = .paren then .paren :: stack else inside :: .paren :: stack
            { stack, length := 1 + rest.length, lines }
      else Nest.step stack b rest

/-- Go past commands up to the closing parenthesis, after some lines: what follows, or
what is not closed. -/
def scanScript (fuel : Nat) (place : ScriptPlace) (asked : List Document) (lines : Nat)
    (text : Bytes) : Except Unclosed Remainder :=
  match fuel with
  | 0 => .error { inside := .paren, lines }
  | fuel + 1 =>
      let lexemes := nextLexemes fuel lines asked text
      match lexemes.getLast? with
      | none => .error { inside := .paren, lines := lines + lineFeeds text }
      | some { token := .unterminated inside _ _, last, .. } => .error { inside, lines := last }
      | some { token := .document _ _ _, last, .. } => .error { inside := .paren, lines := last }
      | some { rest, asked, last, .. } =>
          match lexemes.foldlM (fun place l => place.after? l.token) place with
          | none => .ok { lines := last, text := rest }
          | some place => scanScript fuel place asked last rest

/-- Read a word: what it is made of, latest byte first in `read`, how many lines were
gone past, and what follows.  Instead there is what is not closed.  Joined lines are
read as one, though between quotes what joins them stays. -/
def scanWord (fuel : Nat) (stack : List Nest) (read : Bytes) (lines : Nat) (text : Bytes) :
    Except Unclosed (Bytes × Remainder) :=
  match fuel, text with
  | 0, _ => .error { inside := Nest.unclosed stack, lines }
  | _, [] =>
      if Nest.isOutermost stack then .ok (read.reverse, { lines, text := [] })
      else .error { inside := Nest.unclosed stack, lines }
  | fuel + 1, b :: rest =>
      if Nest.isOutermost stack && endsWord b then .ok (read.reverse, { lines, text := b :: rest })
      else if joinsLines b rest && stack.head? ≠ some .single then
        let kept := if Nest.keepsJoins stack then [Byte.newline, b] else []
        scanWord fuel stack (kept ++ read) (lines + 1) rest.tail
      else
        let joined := joinAfter stack b rest
        let stride := stepInto fuel stack b joined.text
        let piece := (b :: joined.text).take stride.length
        scanWord fuel stride.stack (piece.reverse ++ read) (lines + joined.lines + stride.lines)
          ((b :: joined.text).drop stride.length)

/-- Find the text of a document.  The line that ends it does not count inside of
commands that stand in the text, nor after a backslash; `fresh` says whether a line
begins that may be it.  After tabs that are left out a backslash does not join lines. -/
def findDocument (fuel : Nat) (d : Document) (nesting : List Nest) (fresh : Bool)
    (text : Bytes) : Document.Found :=
  match fuel, text with
  | 0, rest => { nesting, rest }
  | _, [] => { nesting }
  | fuel + 1, b :: rest =>
      let tabs :=
        if fresh && d.dropsTabs then ((b :: rest).takeWhile (· = Byte.tab)).length else 0
      let after := (b :: rest).drop (tabs + d.ending.length)
      if fresh && d.ending.isPrefixOf ((b :: rest).drop tabs) &&
          after.head?.all (· = Byte.newline) then
        { ends := true, nesting, lines := 1, rest := after.tail }
      else if tabs ≠ 0 then
        let text := (b :: rest).drop tabs
        if d.expands && joinsLines (text.headD 0) text.tail then
          .after [Byte.backslash, Byte.backslash, Byte.newline] 0
            (findDocument fuel d nesting false (text.drop 2))
        else findDocument fuel d nesting false text
      else if !d.expands then
        .after [b] (lineFeeds [b]) (findDocument fuel d nesting (b = Byte.newline) rest)
      else if joinsLines b rest && nesting.head? ≠ some .single then
        let kept := if nesting.head? = some .back then [] else [b, Byte.newline]
        .after kept 1 (findDocument fuel d nesting fresh rest.tail)
      else
        let joined := joinAfter nesting b rest
        let stride := stepInto fuel nesting b joined.text
        let fresh := b = Byte.newline && stride.stack.head? ≠ some .back
        .after ((b :: joined.text).take stride.length) (joined.lines + stride.lines)
          (findDocument fuel d stride.stack fresh ((b :: joined.text).drop stride.length))

/-- The documents that are asked for, as tokens, and what follows them on a line. -/
def readDocuments (fuel : Nat) (line : Nat) (asked : List Document) (text : Bytes) :
    List Lexeme × Nat × Bytes :=
  match fuel, asked with
  | 0, _ | _, [] => ([], line, text)
  | fuel + 1, d :: ds =>
      let found := findDocument fuel d [.document] true text
      if found.nesting.length > 1 then
        let read := text.take (text.length - found.rest.length)
        let token := Token.unterminated (Nest.unclosed found.nesting) true read
        let last := line + found.lines
        ([{ first := line, last, token, rest := [], asked := [] }], last, [])
      else
        let next := line + found.lines
        let lexeme : Lexeme := {
          first := line, last := if found.ends then next - 1 else next
          token := .document found.ends d.expands found.body, rest := found.rest, asked := [] }
        let (later, last, rest) := readDocuments fuel next ds found.rest
        (lexeme :: later, last, rest)

/-- A sign that asks for a document, with the word that ends it, given what follows the
sign. -/
def askForDocument (fuel : Nat) (sign : Lexeme) : List Lexeme :=
  match fuel with
  | 0 => [sign]
  | fuel + 1 =>
      let here := dropJoins sign.rest
      let dropsTabs := here.text.head? = some 0x2d
      let after := if dropsTabs then here.text.tail else here.text
      let sign := { sign with last := sign.last + here.lines, rest := after }
      let gap := skipGaps after
      let first := sign.last + gap.lines
      match scanWord fuel [.ending] [] 0 gap.text with
      | .ok ([], _) => [sign]
      | .error { inside, lines } =>
          [sign, { sign with
            first, last := first + lines, token := .unterminated inside false [], rest := [] }]
      | .ok (raw, r) =>
          let ending := unquoted raw
          let expands := ending = raw
          [sign, {
            first, last := first + r.lines, token := .word raw, rest := r.text
            asked := sign.asked ++ [{ dropsTabs, expands, ending }] }]

/-- The next token from a line on, after the documents that end before it. -/
def nextLexemes (fuel : Nat) (line : Nat) (asked : List Document) (text : Bytes) : List Lexeme :=
  match fuel with
  | 0 => []
  | fuel + 1 =>
      let gap := skipGaps text
      let line := line + gap.lines
      match gap.text with
      | [] => (readDocuments fuel line asked []).1
      | b :: rest =>
          if b = Byte.newline then
            let (found, last, rest) := readDocuments fuel (line + 1) asked rest
            found ++ [{ first := line, last, token := .newline, rest, asked := [] }]
          else
            let text := b :: rest
            let digits := (text.takeWhile Byte.isDigit).take 1
            match redirection? (dropJoins (text.drop digits.length)).text with
            | some (standard, kind, r) =>
                let descriptor := (digits.head?.map (fun d => (d - 0x30).toNat)).getD standard
                let sign : Lexeme := {
                  first := line, last := line + r.lines
                  token := .redirection descriptor kind, rest := r.text, asked }
                match kind with
                | .text _ => askForDocument fuel sign
                | _ => [sign]
            | none =>
                match operator? text with
                | some (op, r) =>
                    [{ first := line, last := line + r.lines, token := .operator op,
                       rest := r.text, asked }]
                | none =>
                    match scanWord fuel [] [] 0 text with
                    | .error { inside, lines } =>
                        [{ first := line, last := line + lines,
                           token := .unterminated inside false text, rest := [], asked := [] }]
                    | .ok (raw, r) =>
                        [{ first := line, last := line + r.lines, token := .word raw,
                           rest := r.text, asked }]

end

/-- The number of steps that a text can take. -/
def scanBound (text : Bytes) : Nat :=
  4 * text.length + 16

/-- Read from some nesting until it is closed and only the one around it is left:
what is inside, latest byte first in `read`, and what follows its end. -/
def scanNested (around : List Nest) : Nat → List Nest → Bytes → Bytes → Option (Bytes × Bytes)
  | 0, _, _, _ => none
  | _ + 1, _, _, [] => none
  | fuel + 1, stack, read, b :: rest =>
      let { stack := after, length, .. } := stepInto fuel stack b rest
      if after = around then some (read.reverse, (b :: rest).drop length)
      else
        scanNested around fuel after (((b :: rest).take length).reverse ++ read)
          ((b :: rest).drop length)

/-- Cut a text in which something nested begins after the end of that. -/
def cutNested? (around : List Nest) (inside : Nest) (text : Bytes) : Option (Bytes × Bytes) :=
  scanNested around (scanBound text) (inside :: around) [] text

/-- Cut a text in which a parameter in braces begins after the closing brace. -/
def cutParameter? (around : List Nest) (text : Bytes) : Option (Bytes × Bytes) :=
  let head := ParameterHead.read text
  scanNested around (scanBound text) (head.nest :: around) (text.take head.length).reverse
    (text.drop head.length)

/-- Cut a text that begins with commands after their closing parenthesis. -/
def cutScript? (text : Bytes) : Option (Bytes × Bytes) :=
  match scanScript (scanBound text) {} [] 0 text with
  | .ok { text := rest, .. } => some (text.take (text.length - rest.length - 1), rest)
  | .error _ => none

/-- The tokens of a script from a line on, after a line has asked for documents; the
first argument bounds their number. -/
def scanLexemes (bound : Nat) : Nat → Nat → List Document → Bytes → List Lexeme
  | 0, _, _, _ => []
  | fuel + 1, line, asked, text =>
      let lexemes := nextLexemes bound line asked text
      match lexemes.getLast? with
      | none => []
      | some { token := .unterminated _ _ _, .. } | some { token := .document _ _ _, .. } => lexemes
      | some { last, rest, asked, .. } => lexemes ++ scanLexemes bound fuel last asked rest

/-- Whether a token is a word. -/
def Token.isWord : Token → Bool
  | word _ => true
  | _ => false

/-- Give redirections the documents they ask for, in order. -/
def attachDocuments : List Lexeme → List Lexeme → List Lexeme
  | d :: ds, l :: target :: rest =>
      match l.token, d.token with
      | .redirection descriptor (.text _), .document _ expands body =>
          if !target.token.isWord then l :: attachDocuments (d :: ds) (target :: rest)
          else { l with token := .redirection descriptor (.text expands) } ::
            { target with token := .word body, first := d.first, last := d.last } ::
            attachDocuments ds rest
      | _, _ => l :: attachDocuments (d :: ds) (target :: rest)
  | _, lexemes => lexemes

/-- Whether a token is a document. -/
def Token.isDocument : Token → Bool
  | document _ _ _ => true
  | _ => false

/-- Whether a token shows that a script is not complete. -/
def Token.isOpen : Token → Bool
  | unterminated _ _ _ | document false _ _ => true
  | _ => false

/-- A script as tokens. -/
structure Tokenized where
  /-- The tokens, where redirections have the texts that they read. -/
  lexemes : List Lexeme
  /-- The line on which the script ends. -/
  final : Nat
  /-- Whether something in it is not closed. -/
  isOpen : Bool

/-- The tokens of a script from a line on that has asked for some documents already. -/
def tokenize (line : Nat) (asked : List Document) (script : Bytes) : Tokenized :=
  let lexemes := scanLexemes (scanBound script) (script.length + 2) line asked script
  let (documents, others) := lexemes.partition (fun l => l.token.isDocument)
  { lexemes := attachDocuments (documents.drop asked.length) others
    final := (lexemes.getLast?.map (fun l => l.last + lineFeeds l.rest)).getD
      (line + lineFeeds script)
    isOpen := lexemes.any (fun l => l.token.isOpen) }

end Overseer.Shell
