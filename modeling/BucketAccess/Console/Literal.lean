import BucketAccess.Text.Alphanumeric
import BucketAccess.Text.Numeral

/-!
# Literals

The arguments of an action are literals: numbers, quoted texts, a few words,
and tuples, sets and tables of literals.  Only whether a text is a literal is
asked here, and of its value no more than that needs: a sign stands in front of
a plain number only, only an imaginary number is added to a real one, texts
stand next to each other only if they are of one kind, and neither sets nor
tables are members of a set or keys of a table.  Comments run from a hash to the
end of their line.  The escape of a text that gives a character by its name is
not read.
-/

namespace BucketAccess.Console

/-- What is known of a literal. -/
inductive LiteralKind where
  /-- A number without a sign. -/
  | number (imaginary : Bool)
  | signedNumber (imaginary : Bool)
  /-- A word, a text, a sum, or a tuple of such literals. -/
  | fixed
  /-- A set, a table, or a tuple with one of these in it. -/
  | collection
deriving DecidableEq, Repr

/-- May be a member of a set. -/
def LiteralKind.isMember (kind : LiteralKind) : Bool := kind ≠ .collection

/-- May stand in a word behind its first character. -/
def inWord (char : Char) : Bool :=
  char.isAlphanum || char = '_' || 0x80 ≤ char.toNat

/-- Ends a line. -/
def isLineEnd (char : Char) : Bool := char = '\n' || char = '\r'

/-- How many brackets may stand open at a time. -/
def deepestBracket : Nat := 200

/-- What follows the blanks, joined line ends and comments at the front.  Line ends
count as blanks between brackets only.  The flag says that a comment has started. -/
def skipSpaceFrom (nested : Bool) : Bool → List Char → List Char
  | _, [] => []
  | true, char :: rest =>
      if isLineEnd char then
        if nested then skipSpaceFrom nested false rest else char :: rest
      else skipSpaceFrom nested true rest
  | false, '\\' :: '\r' :: '\n' :: rest => skipSpaceFrom nested false rest
  | false, '\\' :: '\n' :: rest => skipSpaceFrom nested false rest
  | false, '\\' :: '\r' :: rest => skipSpaceFrom nested false rest
  | false, char :: rest =>
      if char = ' ' || char = '\t' || char = '\x0c' then skipSpaceFrom nested false rest
      else if char = '#' then skipSpaceFrom nested true rest
      else if nested && isLineEnd char then skipSpaceFrom nested false rest
      else char :: rest

/-- The same with no comment started, at a depth of open brackets. -/
def skipSpace (depth : Nat) : List Char → List Char := skipSpaceFrom (0 < depth) false

/-- What follows the lines in front of a literal that are empty but for blanks and
comments, unless the literal is indented.  The first flag says that a comment has
started, the second that its line is indented so far, the third that a line was that
it is joined to. -/
def skipLines : Bool → Bool → Bool → List Char → Option (List Char)
  | _, _, _, [] => none
  | true, indented, joined, char :: rest =>
      if isLineEnd char then skipLines false false false rest
      else skipLines true indented joined rest
  | false, indented, joined, '\\' :: '\r' :: '\n' :: rest =>
      skipLines false indented (joined || indented) rest
  | false, indented, joined, '\\' :: '\n' :: rest =>
      skipLines false indented (joined || indented) rest
  | false, indented, joined, '\\' :: '\r' :: rest =>
      skipLines false indented (joined || indented) rest
  | false, indented, joined, char :: rest =>
      if char = ' ' || char = '\t' then skipLines false true joined rest
      else if char = '\x0c' then skipLines false false joined rest
      else if char = '#' then skipLines true indented joined rest
      else if isLineEnd char then skipLines false false false rest
      else if indented || joined then none
      else some (char :: rest)

/-! ## Numbers -/

/-- Digits of a kind at the front, with single underscores between them. -/
def takeGroup (isDigit : Char → Bool) : List Char → List Char × List Char
  | [] => ([], [])
  | '_' :: char :: rest =>
      if isDigit char then
        let (digits, rest) := takeGroup isDigit rest
        (char :: digits, rest)
      else ([], '_' :: char :: rest)
  | char :: rest =>
      if isDigit char then
        let (digits, rest) := takeGroup isDigit rest
        (char :: digits, rest)
      else ([], char :: rest)

/-- As `takeGroup`, but the first character is a digit. -/
def takeDigits (isDigit : Char → Bool) : List Char → List Char × List Char
  | '_' :: rest => ([], '_' :: rest)
  | chars => takeGroup isDigit chars

/-- The digits that a letter behind a zero announces. -/
def radixDigits? (letter : Char) : Option (Char → Bool) :=
  if letter = 'x' || letter = 'X' then some fun char => (Text.hexValue? char).isSome
  else if letter = 'o' || letter = 'O' then some fun char => '0' ≤ char && char ≤ '7'
  else if letter = 'b' || letter = 'B' then some fun char => char = '0' || char = '1'
  else none

/-- An exponent at the front, if there is one. -/
def takePower (chars : List Char) : Bool × List Char :=
  match chars with
  | mark :: rest =>
      if mark = 'e' || mark = 'E' then
        match takeDigits Text.isAsciiDigit (Text.takeSign rest).2 with
        | ([], _) => (false, chars)
        | (_, rest) => (true, rest)
      else (false, chars)
  | [] => (false, [])

/-- A number in plain decimal: it may have a point, an exponent, and the mark of
an imaginary number. -/
def takeDecimal (chars : List Char) : Option (LiteralKind × List Char) :=
  let (whole, afterWhole) := takeDigits Text.isAsciiDigit chars
  let (pointed, fraction, afterFraction) :=
    match afterWhole with
    | '.' :: rest =>
        let (fraction, rest) := takeDigits Text.isAsciiDigit rest
        (true, fraction, rest)
    | rest => (false, [], rest)
  if whole.isEmpty && fraction.isEmpty then none
  else
    let (powered, rest) := takePower afterFraction
    if rest.head?.any fun mark => mark = 'j' || mark = 'J' then some (.number true, rest.tail)
    else if pointed || powered then some (.number false, rest)
    else if (whole.head? = some '0' && whole.any (· ≠ '0')) ||
        Text.longestNumeral < whole.length then none
    else some (.number false, rest)

/-- A number in plain decimal, or in another base that is announced. -/
def takeRadix (chars : List Char) : Option (LiteralKind × List Char) :=
  match chars with
  | '0' :: letter :: rest =>
      match radixDigits? letter with
      | some isDigit =>
          match takeGroup isDigit rest with
          | ([], _) => none
          | (_, rest) => some (.number false, rest)
      | none => takeDecimal chars
  | _ => takeDecimal chars

/-- A number at the front.  No word may follow it directly. -/
def takeNumeral (chars : List Char) : Option (LiteralKind × List Char) :=
  (takeRadix chars).filter fun taken => !taken.2.head?.any inWord

/-! ## Texts -/

/-- How a text is quoted. -/
structure Quoting where
  /-- Backslashes stand for themselves. -/
  raw : Bool
  /-- The text is one of bytes. -/
  bytes : Bool
  quote : Char
  /-- The quote stands three times at either end. -/
  triple : Bool
deriving DecidableEq, Repr

/-- The letters that may stand in front of a text: whether they make it raw, and
one of bytes. -/
def quotingLetters : List (List Char × Bool × Bool) :=
  [([], false, false), (['u'], false, false), (['r'], true, false), (['b'], false, true),
   (['b', 'r'], true, true), (['r', 'b'], true, true)]

/-- The quotes that open a text, and the rest behind them. -/
def takeQuotes (raw bytes : Bool) : List Char → Option (Quoting × List Char)
  | '\x22' :: '\x22' :: '\x22' :: rest => some (⟨raw, bytes, '\x22', true⟩, rest)
  | '\x27' :: '\x27' :: '\x27' :: rest => some (⟨raw, bytes, '\x27', true⟩, rest)
  | '\x22' :: rest => some (⟨raw, bytes, '\x22', false⟩, rest)
  | '\x27' :: rest => some (⟨raw, bytes, '\x27', false⟩, rest)
  | _ => none

/-- How a text at the front is quoted, and the rest behind its first quote. -/
def takeQuoting (chars : List Char) : Option (Quoting × List Char) :=
  quotingLetters.findSome? fun entry =>
    if (chars.take entry.1.length).map Char.toLower = entry.1 then
      takeQuotes entry.2.1 entry.2.2 (chars.drop entry.1.length)
    else none

/-- The number of hexadecimal digits that an escape needs, if it needs some. -/
def escapeDigits (bytes : Bool) (letter : Char) : Nat :=
  if letter = 'x' then 2
  else if bytes then 0
  else if letter = 'u' then 4
  else if letter = 'U' then 8
  else 0

/-- An escape is well formed, by the characters from its letter on. -/
def isEscape (bytes : Bool) : List Char → Bool
  | [] => false
  | letter :: rest =>
      let count := escapeDigits bytes letter
      let digits := (rest.take count).filterMap Text.hexValue?
      digits.length = count && digits.foldl (fun value digit => 16 * value + digit) 0 < 0x110000 &&
        (bytes || letter ≠ 'N')

/-- What follows the quotes that close a text.  The flag says that the next
character stands behind a backslash. -/
def skipQuoted (quoting : Quoting) : Bool → List Char → Option (List Char)
  | _, [] => none
  | true, char :: rest =>
      if quoting.bytes && 0x80 ≤ char.toNat then none
      else if char = '\r' && rest.head? = some '\n' then skipQuoted quoting true rest
      else skipQuoted quoting false rest
  | false, char :: rest =>
      if char = quoting.quote && (!quoting.triple || rest.take 2 = [char, char]) then
        some (if quoting.triple then rest.drop 2 else rest)
      else if char = '\\' then
        if quoting.raw || isEscape quoting.bytes rest then skipQuoted quoting true rest else none
      else if !quoting.triple && (char = '\n' || char = '\r') then none
      else if quoting.bytes && 0x80 ≤ char.toNat then none
      else skipQuoted quoting false rest

/-- A text at the front: whether it is one of bytes, and what follows it. -/
def takeQuoted (chars : List Char) : Option (Bool × List Char) := do
  let (quoting, rest) ← takeQuoting chars
  let rest ← skipQuoted quoting false rest
  pure (quoting.bytes, rest)

/-- Further texts of a kind that stand next to one.  The fuel bounds their
number. -/
def takeMoreQuoted (depth : Nat) (bytes : Bool) : Nat → List Char → Option (List Char)
  | 0, _ => none
  | fuel + 1, chars =>
      match takeQuoted (skipSpace depth chars) with
      | some (more, rest) => if more = bytes then takeMoreQuoted depth bytes fuel rest else none
      | none => some chars

/-! ## Literals -/

/-- The words that are literals. -/
def literalWords : List (List Char) :=
  ["None".toList, "True".toList, "False".toList]

/-- A literal that starts with a word: one of three words, or the empty set. -/
def takeWord (depth : Nat) (chars : List Char) : Option (LiteralKind × List Char) :=
  let word := chars.takeWhile inWord
  let rest := chars.dropWhile inWord
  if literalWords.contains word then some (.fixed, rest)
  else if word = "set".toList then
    match skipSpace depth rest with
    | '(' :: rest =>
        match skipSpace (depth + 1) rest with
        | ')' :: rest => if depth < deepestBracket then some (.collection, rest) else none
        | _ => none
    | _ => none
  else none

/-- A literal with a sign in front. -/
def withSign : LiteralKind → Option LiteralKind
  | .number imaginary => some (.signedNumber imaginary)
  | _ => none

/-- The sum or difference of two literals. -/
def sumOf : LiteralKind → LiteralKind → Option LiteralKind
  | .number false, .number true => some .fixed
  | .signedNumber false, .number true => some .fixed
  | _, _ => none

/-- A tuple of literals, by whether one has been met that is no member of
sets. -/
def tupleKind (hasCollection : Bool) : LiteralKind :=
  if hasCollection then .collection else .fixed

mutual

/-- A number, a text, a word or something in brackets at the front, at a depth of open
brackets.  The fuel bounds the number of nested steps. -/
def takeOperand : Nat → Nat → List Char → Option (LiteralKind × List Char)
  | 0, _, _ => none
  | fuel + 1, depth, chars =>
      match chars with
      | '(' :: rest =>
          if deepestBracket ≤ depth then none
          else
            match skipSpace (depth + 1) rest with
            | ')' :: rest => some (.fixed, rest)
            | rest => do
                let (kind, rest) ← takeTuple fuel (depth + 1) rest
                match skipSpace (depth + 1) rest with
                | ')' :: rest => some (kind, rest)
                | _ => none
      | '\x7b' :: rest =>
          if deepestBracket ≤ depth then none
          else
            match skipSpace (depth + 1) rest with
            | '\x7d' :: rest => some (.collection, rest)
            | rest => do
                let (first, afterFirst) ← takeSum fuel (depth + 1) rest
                match skipSpace (depth + 1) afterFirst with
                | ':' :: _ =>
                    (takeEntries fuel (depth + 1) true rest).map fun rest => (.collection, rest)
                | _ =>
                    if first.isMember then
                      (takeEntries fuel (depth + 1) false rest).map fun rest => (.collection, rest)
                    else none
      | '.' :: '.' :: '.' :: rest => some (.fixed, rest)
      | _ =>
          match takeQuoted chars with
          | some (bytes, rest) =>
              (takeMoreQuoted depth bytes (rest.length + 1) rest).map fun rest => (.fixed, rest)
          | none =>
              match takeNumeral chars with
              | some taken => some taken
              | none => takeWord depth chars

/-- An operand at the front, with a sign if it has one. -/
def takeSigned : Nat → Nat → List Char → Option (LiteralKind × List Char)
  | 0, _, _ => none
  | fuel + 1, depth, chars =>
      match chars with
      | '-' :: rest | '+' :: rest => do
          let (kind, rest) ← takeOperand fuel depth (skipSpace depth rest)
          let kind ← withSign kind
          pure (kind, rest)
      | _ => takeOperand fuel depth chars

/-- A literal at the front that is no tuple without brackets. -/
def takeSum : Nat → Nat → List Char → Option (LiteralKind × List Char)
  | 0, _, _ => none
  | fuel + 1, depth, chars => do
      let (left, afterLeft) ← takeSigned fuel depth chars
      match skipSpace depth afterLeft with
      | '-' :: rest | '+' :: rest => do
          let (right, rest) ← takeOperand fuel depth (skipSpace depth rest)
          let kind ← sumOf left right
          pure (kind, rest)
      | _ => pure (left, afterLeft)

/-- A literal at the front, or literals with commas between them. -/
def takeTuple : Nat → Nat → List Char → Option (LiteralKind × List Char)
  | 0, _, _ => none
  | fuel + 1, depth, chars => do
      let (first, rest) ← takeSum fuel depth chars
      match skipSpace depth rest with
      | ',' :: rest => takeTupleRest fuel depth (!first.isMember) rest
      | _ => pure (first, rest)

/-- What follows a comma in a tuple. -/
def takeTupleRest : Nat → Nat → Bool → List Char → Option (LiteralKind × List Char)
  | 0, _, _, _ => none
  | fuel + 1, depth, hasCollection, chars =>
      match skipSpace depth chars with
      | [] => some (tupleKind hasCollection, [])
      | char :: rest =>
          if char = ')' || isLineEnd char then some (tupleKind hasCollection, char :: rest)
          else do
            let (next, rest) ← takeSum fuel depth (char :: rest)
            let hasCollection := hasCollection || !next.isMember
            match skipSpace depth rest with
            | ',' :: rest => takeTupleRest fuel depth hasCollection rest
            | _ => pure (tupleKind hasCollection, rest)

/-- The entries of a table, or the members of a set, up to and with the closing
brace. -/
def takeEntries : Nat → Nat → Bool → List Char → Option (List Char)
  | 0, _, _, _ => none
  | fuel + 1, depth, isTable, chars => do
      let (key, rest) ← takeSum fuel depth chars
      if !key.isMember then none
      else do
        let rest ← if isTable then
            match skipSpace depth rest with
            | ':' :: rest => (takeSum fuel depth (skipSpace depth rest)).map (·.2)
            | _ => none
          else some rest
        match skipSpace depth rest with
        | '\x7d' :: rest => some rest
        | ',' :: rest =>
            match skipSpace depth rest with
            | '\x7d' :: rest => some rest
            | rest => takeEntries fuel depth isTable rest
        | _ => none

end

/-- Is a literal and nothing else.  Every step into a literal consumes a
character or is one of five in a row, which bounds the steps. -/
def isLiteral (chars : List Char) : Bool :=
  match skipLines false false false chars with
  | some front =>
      match takeTuple (5 * chars.length + 5) 0 front with
      | some (_, rest) => (skipSpaceFrom true false rest).isEmpty && !chars.contains '\x00'
      | none => false
  | none => false

/-- A name of an action, with or without dots. -/
def inActionName (char : Char) : Bool :=
  Text.isAlphanumeric char || char = '_' || char = '.'

/-- What is told of an action: a name alone, a name with arguments in
parentheses, or arguments alone. -/
def isAction (chars : List Char) : Bool :=
  match chars.dropWhile inActionName with
  | [] => true
  | '(' :: rest =>
      if rest.getLast? = some ')' && !rest.contains '\n' then isLiteral ('(' :: rest)
      else isLiteral chars
  | _ => isLiteral chars

end BucketAccess.Console
