import LocalProxy.Yaml.Scalar

/-! The tokens of a YAML text. Indentation shows as tokens that open and close blocks, and a
key is marked once the `:` after it has been seen. -/
namespace LocalProxy.Yaml

inductive Token
  | version (major minor : List Char)
  | tagHandle (handle uri : List Char)
  | documentStart
  | documentEnd
  | streamEnd
  | blockSequence
  | blockMapping
  | blockEnd
  | flowSequence
  | flowSequenceEnd
  | flowMapping
  | flowMappingEnd
  | blockEntry
  | flowEntry
  | key
  | value
  | reference (name : List Char)
  | anchor (name : List Char)
  | tag (handle suffix : List Char)
  | scalar (text : List Char) (style : Style)
  /-- The text is defective, and no token follows. -/
  | broken (problem : Problem)
deriving DecidableEq, Repr

/-- A token with the places where it begins and ends. -/
structure Lexeme where
  token : Token
  start : Place
  stop : Place
deriving Repr

/-- A place where a key without `?` may have begun. A required one must turn out to be a
key. -/
structure Candidate where
  required : Bool
  position : Nat
  place : Place
deriving Repr

structure Lexer where
  here : Cursor
  /-- The number of characters of the text, which bounds every loop. -/
  size : Nat
  indent : Int
  indents : List Int
  keyAllowed : Bool
  /-- One entry per open flow collection and one for the block around them. -/
  candidates : List (Option Candidate)
  /-- The lexemes so far, the last in front. -/
  lexemes : List Lexeme
  /-- The number of lexemes so far. -/
  count : Nat
deriving Repr

namespace Lexer

def start (s : List Char) : Lexer where
  here := Cursor.ofText s
  size := s.length
  indent := -1
  indents := []
  keyAllowed := true
  candidates := [none]
  lexemes := []
  count := 0

def inFlow (l : Lexer) : Bool := l.candidates.length > 1

/-- Adds the token between the cursor and a later one, and moves there. -/
def emit (t : Token) (c : Cursor) (l : Lexer) : Lexer :=
  { l with lexemes := ⟨t, l.here.place, c.place⟩ :: l.lexemes, count := l.count + 1, here := c }

/-- Adds a token after so many of those there are. -/
def emitAt (position : Nat) (t : Token) (p : Place) (l : Lexer) : Lexer :=
  let later := l.count - position
  { l with
    lexemes := l.lexemes.take later ++ ⟨t, p, p⟩ :: l.lexemes.drop later
    count := l.count + 1 }

def allowKey (b : Bool) (l : Lexer) : Lexer := { l with keyAllowed := b }

def fail {α : Type} (l : Lexer) (what : String) : Except Problem α :=
  .error ⟨what, l.here.place, none⟩

/-- Closes the blocks indented deeper than the column. -/
def closeBlocks (column : Int) (l : Lexer) : Lexer :=
  if l.inFlow then l
  else
    let levels := l.indent :: l.indents
    let closed := levels.takeWhile (· > column)
    let left := levels.drop closed.length
    { l with
      indent := left.headD (-1)
      indents := left.drop 1
      lexemes := closed.map (fun _ => ⟨.blockEnd, l.here.place, l.here.place⟩) ++ l.lexemes
      count := l.count + closed.length }

/-- Opens a block at the place unless one that deep is open. -/
def openBlock (p : Place) (position : Nat) (t : Token) (l : Lexer) : Lexer :=
  if l.inFlow || decide (l.indent ≥ p.column) then l
  else { l with indents := l.indent :: l.indents, indent := p.column }.emitAt position t p

def missingColon {α : Type} (l : Lexer) (k : Candidate) : Except Problem α :=
  l.here.fail "while scanning a simple key" k.place "could not find expected ':'"

/-- Gives up the innermost candidate; a required one may not be given up. -/
def dropCandidate (l : Lexer) : Except Problem Lexer :=
  match l.candidates with
  | some k :: rest =>
    if k.required then l.missingColon k else .ok { l with candidates := none :: rest }
  | _ => .ok l

/-- Notes that a key may begin here. -/
def noteCandidate (l : Lexer) : Except Problem Lexer :=
  if l.keyAllowed then do
    let l ← l.dropCandidate
    let k : Candidate := {
      required := !l.inFlow && l.indent == (l.here.column : Int)
      position := l.count
      place := l.here.place }
    return { l with candidates := some k :: l.candidates.drop 1 }
  else .ok l

/-- A key without `?` lies on one line and within 1024 characters. -/
def isStale (here : Place) (k : Candidate) : Bool :=
  k.place.line < here.line || k.place.index + 1024 < here.index

def dropStale (l : Lexer) : Except Problem Lexer :=
  let stale := isStale l.here.place
  match (l.candidates.reverse.filterMap id).find? fun k => stale k && k.required with
  | some k => l.missingColon k
  | none => .ok { l with candidates := l.candidates.map fun k => k.filter (!stale ·) }

/-- Past blanks, comments and line breaks. A tab may stand where no block can begin, and a byte
order mark, which takes up a column, at the start of a line. -/
def skipToToken : Nat → Lexer → Lexer
  | 0, l => l
  | fuel + 1, l =>
    let c := if l.here.column == 0 && l.here.sees '\uFEFF' then l.here.next else l.here
    let c := c.dropWhile fun x => x == ' ' || (x == '\t' && (l.inFlow || !l.keyAllowed))
    let c := if c.sees '#' then c.dropWhile (!isBreak ·) else c
    if c.at? 0 isBreak then
      skipToToken fuel { l with here := c.nextLine.2, keyAllowed := l.keyAllowed || !l.inFlow }
    else { l with here := c }

def takeVersion (start : Place) (c : Cursor) : Except Problem (Token × Cursor) := do
  let number := fun (c : Cursor) => do
    let (digits, after) := c.takeWhile Char.isDigit
    if digits.length > 9 then
      c.fail "while scanning a %YAML directive" start "found extremely long version number"
    else if digits.isEmpty then
      c.fail "while scanning a %YAML directive" start "did not find expected version number"
    else pure (digits, after)
  let (major, c) ← number (c.dropWhile isBlank)
  if !c.sees '.' then
    c.fail "while scanning a %YAML directive" start "did not find expected digit or '.' character"
  else
    let (minor, c) ← number c.next
    return (.version major minor, c)

def takeTagHandle (start : Place) (c : Cursor) : Except Problem (Token × Cursor) := do
  let c := c.dropWhile isBlank
  if !c.sees '!' then
    c.fail "while scanning a tag directive" start "did not find expected '!'"
  else
    let (word, c) := c.next.takeWhile isWord
    let (handle, c) := if c.sees '!' then ('!' :: word ++ ['!'], c.next) else ('!' :: word, c)
    if handle.length > 1 && handle.getLast? != some '!' then
      c.fail "while parsing a tag directive" start "did not find expected '!'"
    else if !c.at? 0 isBlank then
      c.fail "while scanning a %TAG directive" start "did not find expected whitespace"
    else
      let (uri, c) := (c.dropWhile isBlank).takeWhile fun x => !isBlank x && !isBreak x
      if uri.isEmpty then
        c.fail "while parsing a %TAG directive" start "did not find expected tag URI"
      else return (.tagHandle handle uri, c)

def takeDirective (l : Lexer) : Except Problem Lexer := do
  let start := l.here.place
  let activity := "while scanning a directive"
  let (name, c) := l.here.next.takeWhile isWord
  if name.isEmpty then c.fail activity start "could not find expected directive name"
  else if !c.endsWord 0 then c.fail activity start "found unexpected non-alphabetical character"
  else
    let (t, c) ←
      if name = "YAML".toList then takeVersion start c
      else if name = "TAG".toList then takeTagHandle start c
      else c.fail activity start "found unknown directive name"
    let c' ← c.finishLine activity start
    return { l.emit t c with here := c' }

/-- An anchor or alias name, which ends before a blank or one of a few indicators. -/
def takeName (activity : String) (start : Place) (c : Cursor) :
    Except Problem (List Char × Cursor) :=
  let (name, after) := c.takeWhile isWord
  if name.isEmpty || !(after.endsWord 0 || after.at? 0 ("?:,]\x7d%@`".toList.contains ·)) then
    after.fail activity start "did not find expected alphabetic or numeric character"
  else .ok (name, after)

def isUriChar (x : Char) : Bool :=
  isWord x || ";/?:@&=+$.!~*'()".toList.contains x

/-- The characters of a tag, where `%` and two digits stand for one octet. -/
def takeUri (start : Place) (more : Char → Bool) :
    Nat → List Char → Cursor → Except Problem (List Char × Cursor)
  | 0, done, c => .ok (done.reverse, c)
  | fuel + 1, done, c =>
    match c.peek? 0 with
    | none => .ok (done.reverse, c)
    | some x =>
      if x == '%' then
        let digits := (c.rest.drop 1).take 2
        if digits.length < 2 ∨ digits.any (fun d => (Text.digitValue 16 d).isNone) then
          c.fail "while parsing a tag" start "did not find URI escaped octet"
        else
          let n := Text.digitsValue 16 digits
          if n ≥ 0x80 then
            c.fail "while parsing a tag" start "found an incorrect leading UTF-8 octet"
          else takeUri start more fuel (Char.ofNat n :: done) (c.skip 3)
      else if isUriChar x || more x then takeUri start more fuel (x :: done) c.next
      else .ok (done.reverse, c)

def takeTag (l : Lexer) : Except Problem (Token × Cursor) := do
  let c := l.here
  let start := c.place
  let noUri := fun (c : Cursor) =>
    (c.fail "while parsing a tag" start "did not find expected tag URI" :
      Except Problem (Token × Cursor))
  let (t, c) ←
    if c.at? 1 (· == '<') then do
      let (uri, c) ←
        takeUri start (fun x => x == ',' || x == '[' || x == ']') c.rest.length [] (c.skip 2)
      if uri.isEmpty then noUri c
      else if !c.sees '>' then
        c.fail "while scanning a tag" start "did not find the expected '>'"
      else pure (Token.tag [] uri, c.next)
    else do
      let (word, after) := c.next.takeWhile isWord
      if after.sees '!' then
        let (suffix, c) ← takeUri start (fun _ => false) c.rest.length [] after.next
        if suffix.isEmpty then noUri c else pure (Token.tag ('!' :: word ++ ['!']) suffix, c)
      else
        let (suffix, c) ← takeUri start (fun _ => false) c.rest.length [] c.next
        if suffix.isEmpty then pure (Token.tag [] ['!'], c) else pure (Token.tag ['!'] suffix, c)
  if c.endsWord 0 || (l.inFlow && c.sees ',') then return (t, c)
  else c.fail "while scanning a tag" start "did not find expected whitespace or line break"

def takeDocumentMarker (t : Token) (l : Lexer) : Except Problem Lexer := do
  let l ← (l.closeBlocks (-1)).dropCandidate
  return (l.allowKey false).emit t (l.here.skip 3)

def openFlow (t : Token) (l : Lexer) : Except Problem Lexer := do
  let l ← l.noteCandidate
  return { l.emit t l.here.next with candidates := none :: l.candidates, keyAllowed := true }

def closeFlow (t : Token) (l : Lexer) : Except Problem Lexer := do
  let l ← l.dropCandidate
  let outer := if l.inFlow then l.candidates.drop 1 else l.candidates
  return { l.emit t l.here.next with candidates := outer, keyAllowed := false }

def takeFlowEntry (l : Lexer) : Except Problem Lexer := do
  let l ← l.dropCandidate
  return (l.allowKey true).emit .flowEntry l.here.next

def takeBlockEntry (l : Lexer) : Except Problem Lexer :=
  if !l.inFlow && !l.keyAllowed then
    l.fail "block sequence entries are not allowed in this context"
  else do
    let l ← (l.openBlock l.here.place l.count .blockSequence).dropCandidate
    return (l.allowKey true).emit .blockEntry l.here.next

def takeKey (l : Lexer) : Except Problem Lexer :=
  if !l.inFlow && !l.keyAllowed then l.fail "mapping keys are not allowed in this context"
  else do
    let l ← (l.openBlock l.here.place l.count .blockMapping).dropCandidate
    return (l.allowKey (!l.inFlow)).emit .key l.here.next

def takeValue (l : Lexer) : Except Problem Lexer :=
  match l.candidates with
  | some k :: rest =>
    let l := { l with candidates := none :: rest }
    let l := (l.emitAt k.position .key k.place).openBlock k.place k.position .blockMapping
    .ok ((l.allowKey false).emit .value l.here.next)
  | _ =>
    if !l.inFlow && !l.keyAllowed then l.fail "mapping values are not allowed in this context"
    else
      let l := l.openBlock l.here.place l.count .blockMapping
      .ok ((l.allowKey (!l.inFlow)).emit .value l.here.next)

def takeNamed (activity : String) (t : List Char → Token) (l : Lexer) : Except Problem Lexer := do
  let l ← l.noteCandidate
  let (name, c) ← takeName activity l.here.place l.here.next
  return (l.allowKey false).emit (t name) c

def takeTagged (l : Lexer) : Except Problem Lexer := do
  let l ← l.noteCandidate
  let (t, c) ← l.takeTag
  return (l.allowKey false).emit t c

def takeBlockScalar (literal : Bool) (l : Lexer) : Except Problem Lexer := do
  let l ← l.dropCandidate
  let (text, c) ← takeBlock literal l.indent l.size l.here
  let style := if literal then Style.literal else Style.folded
  return (l.allowKey true).emit (.scalar text style) c

def takeQuotedScalar (single : Bool) (l : Lexer) : Except Problem Lexer := do
  let l ← l.noteCandidate
  let (text, c) ← takeQuoted single l.here.place (l.size + 1) [] l.here.next
  let style := if single then Style.singleQuoted else Style.doubleQuoted
  return (l.allowKey false).emit (.scalar text style) c

def takePlainScalar (l : Lexer) : Except Problem Lexer := do
  let l ← l.noteCandidate
  let (text, broken, c) ←
    takePlain l.inFlow (l.indent + 1) l.here.place (l.size + 1) {} [] l.here
  return (l.allowKey broken).emit (.scalar text .plain) c

/-- Indicators that begin something other than a plain scalar. -/
def isIndicator (x : Char) : Bool := "-?:,[]\x7b\x7d#&*!|>'\"%@`".toList.contains x

def startsPlain (l : Lexer) (x : Char) : Bool :=
  !(isIndicator x || isBlank x) || (x == '-' && !l.here.at? 1 isBlank) ||
    (!l.inFlow && (x == '?' || x == ':') && !l.here.endsWord 1)

/-- The end of the text is the start of a line. -/
def finish (l : Lexer) : Except Problem Lexer := do
  let p := l.here.place
  let p := if p.column = 0 then p else ⟨p.index, p.line + 1, 0⟩
  let l := { l with here := ⟨[], p⟩ }
  let l ← (l.closeBlocks (-1)).dropCandidate
  return l.emit .streamEnd l.here

/-- Takes the next token, or says that the text has ended. -/
def advance (l : Lexer) : Except Problem (Bool × Lexer) := do
  let l := skipToToken (l.size + 1) l
  let l ← l.dropStale
  let l := l.closeBlocks l.here.column
  let more := fun (l : Lexer) => (true, l)
  match l.here.peek? 0 with
  | none => return (false, ← l.finish)
  | some x =>
    if l.here.column == 0 && x == '%' then
      let l ← (l.closeBlocks (-1)).dropCandidate
      return more (← (l.allowKey false).takeDirective)
    else if l.here.seesMarker '-' then return more (← l.takeDocumentMarker .documentStart)
    else if l.here.seesMarker '.' then return more (← l.takeDocumentMarker .documentEnd)
    else if x == '[' then return more (← l.openFlow .flowSequence)
    else if x == '{' then return more (← l.openFlow .flowMapping)
    else if x == ']' then return more (← l.closeFlow .flowSequenceEnd)
    else if x == '}' then return more (← l.closeFlow .flowMappingEnd)
    else if x == ',' then return more (← l.takeFlowEntry)
    else if x == '-' && l.here.endsWord 1 then return more (← l.takeBlockEntry)
    else if x == '?' && (l.inFlow || l.here.endsWord 1) then return more (← l.takeKey)
    else if x == ':' && (l.inFlow || l.here.endsWord 1) then return more (← l.takeValue)
    else if x == '*' then return more (← l.takeNamed "while scanning an alias" .reference)
    else if x == '&' then return more (← l.takeNamed "while scanning an anchor" .anchor)
    else if x == '!' then return more (← l.takeTagged)
    else if x == '|' && !l.inFlow then return more (← l.takeBlockScalar true)
    else if x == '>' && !l.inFlow then return more (← l.takeBlockScalar false)
    else if x == '\'' then return more (← l.takeQuotedScalar true)
    else if x == '"' then return more (← l.takeQuotedScalar false)
    else if l.startsPlain x then return more (← l.takePlainScalar)
    else
      l.here.fail "while scanning for the next token" l.here.place
        "found character that cannot start any token"

/-- The tokens that are settled when a defect shows: those before the first candidate whose
`:` may still come. -/
def settled (l : Lexer) : List Lexeme :=
  let open_ := (l.candidates.filterMap id).filter fun k => !isStale l.here.place k
  let bound := open_.foldl (fun n k => min n k.position) l.count
  (l.lexemes.drop (l.count - bound)).reverse

def run : Nat → Lexer → List Lexeme
  | 0, l => l.lexemes.reverse
  | fuel + 1, l =>
    match l.advance with
    | .ok (true, l) => run fuel l
    | .ok (false, l) => l.lexemes.reverse
    | .error p => l.settled ++ [⟨.broken p, p.place, p.place⟩]

end Lexer

/-- The octets before the first character that no document may hold. -/
def disallowedAt? : Nat → List Char → Option Nat
  | _, [] => none
  | n, c :: rest => if isAllowed c then disallowedAt? (n + c.utf8Size) rest else some n

/-- The tokens of a text. A defect is the last token. -/
def lexemes (s : String) : List Lexeme :=
  let chars := s.toList
  match disallowedAt? 0 chars with
  | some n =>
    let where_ := if n = 0 then "" else " at position " ++ toString n
    let p : Problem := ⟨"control characters are not allowed" ++ where_, ⟨0, 0, 0⟩, none⟩
    [⟨.broken p, p.place, p.place⟩]
  | none => Lexer.run (2 * chars.length + 2) (Lexer.start chars)

end LocalProxy.Yaml
