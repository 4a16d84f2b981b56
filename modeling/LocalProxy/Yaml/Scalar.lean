import LocalProxy.Yaml.Cursor

/-! The text of scalars in their five written styles. -/
namespace LocalProxy.Yaml

inductive Style
  | plain
  | singleQuoted
  | doubleQuoted
  | literal
  | folded
deriving DecidableEq, Repr

/-- White space met inside a scalar: blanks on the line, or the first line break and those
after it. -/
structure Gap where
  blanks : List Char := []
  first : Option (List Char) := none
  more : List Char := []
deriving Repr

/-- A single line break folds to a space, and further ones stand for themselves. -/
def Gap.fold (g : Gap) : List Char :=
  match g.first with
  | none => g.blanks
  | some ['\n'] => if g.more.isEmpty then [' '] else g.more
  | some other => other ++ g.more

/-- Takes the blanks and line breaks here. A tab that indents a continuation line less than
`indent` ends them. -/
def takeGap (indent : Option Int) : Nat → Gap → Cursor → Gap × Cursor
  | 0, g, c => (g, c)
  | fuel + 1, g, c =>
    match c.peek? 0 with
    | none => (g, c)
    | some x =>
      if isBlank x then
        if g.first.isNone then takeGap indent fuel { g with blanks := g.blanks ++ [x] } c.next
        else if x == '\t' && indent.any (fun i => decide ((c.column : Int) < i)) then (g, c)
        else takeGap indent fuel g c.next
      else if isBreak x then
        let (mark, after) := c.nextLine
        if g.first.isNone then takeGap indent fuel { blanks := [], first := some mark } after
        else takeGap indent fuel { g with more := g.more ++ mark } after
      else (g, c)

/-- The number of hexadecimal digits after an escape letter. -/
def escapeWidth : Char → Option Nat
  | 'x' => some 2
  | 'u' => some 4
  | 'U' => some 8
  | _ => none

def escapeLetter : Char → Option Char
  | '0' => some '\x00'
  | 'a' => some '\x07'
  | 'b' => some '\x08'
  | 't' => some '\t'
  | '\t' => some '\t'
  | 'n' => some '\n'
  | 'v' => some '\x0b'
  | 'f' => some '\x0c'
  | 'r' => some '\r'
  | 'e' => some '\x1b'
  | ' ' => some ' '
  | '"' => some '"'
  | '/' => some '/'
  | '\\' => some '\\'
  | 'N' => some '\u0085'
  | '_' => some '\u00a0'
  | 'L' => some '\u2028'
  | 'P' => some '\u2029'
  | _ => none

/-- The character of a double-quoted escape; the cursor stands on the backslash. -/
def takeEscape (start : Place) (c : Cursor) : Except Problem (Char × Cursor) :=
  let letter := (c.peek? 1).getD '\x00'
  match if c.at? 1 (fun _ => true) then escapeLetter letter else none with
  | some x => .ok (x, c.skip 2)
  | none =>
    match escapeWidth letter with
    | none => c.fail "while parsing a quoted scalar" start "found unknown escape character"
    | some width =>
      let c := c.skip 2
      let digits := c.rest.take width
      if digits.length < width ∨ digits.any (fun x => (Text.digitValue 16 x).isNone) then
        c.fail "while parsing a quoted scalar" start "did not find expected hexdecimal number"
      else
        let n := Text.digitsValue 16 digits
        if n.isValidChar then .ok (Char.ofNat n, c.skip width)
        else c.fail "while parsing a quoted scalar" start
          "found invalid Unicode character escape code"

/-- The inside of a quoted scalar up to its closing quote. `done` is the text so far, turned
around. -/
def takeQuoted (single : Bool) (start : Place) :
    Nat → List Char → Cursor → Except Problem (List Char × Cursor)
  | 0, _, c => c.fail "while scanning a quoted scalar" start "found unexpected end of stream"
  | fuel + 1, done, c =>
    let quote := if single then '\'' else '"'
    if c.seesAnyMarker then
      c.fail "while scanning a quoted scalar" start "found unexpected document indicator"
    else match c.peek? 0 with
      | none => c.fail "while scanning a quoted scalar" start "found unexpected end of stream"
      | some x =>
        if single && x == '\'' && c.at? 1 (· == '\'') then
          takeQuoted single start fuel ('\'' :: done) (c.skip 2)
        else if x == quote then .ok (done.reverse, c.next)
        else if !single && x == '\\' && c.at? 1 isBreak then
          let c := c.next.nextLine.2
          if c.sees quote then .ok (done.reverse, c.next)
          else
            let (g, c) := takeGap none fuel { first := some [] } c
            takeQuoted single start fuel (g.more.reverse ++ done) c
        else if !single && x == '\\' then do
          let (y, c) ← takeEscape start c
          takeQuoted single start fuel (y :: done) c
        else if isBlank x || isBreak x then
          let (g, c) := takeGap none fuel {} c
          takeQuoted single start fuel (g.fold.reverse ++ done) c
        else takeQuoted single start fuel (x :: done) c.next

/-- Indicators that end a plain scalar inside a flow collection. -/
def isFlowIndicator (c : Char) : Bool :=
  c == ',' || c == '[' || c == ']' || c == '{' || c == '}'

/-- A word of a plain scalar: it ends before blanks, before `: `, and in a flow collection
before an indicator. -/
def takePlainWord (flow : Bool) (start : Place) :
    Nat → List Char → Cursor → Except Problem (List Char × Cursor)
  | 0, done, c => .ok (done, c)
  | fuel + 1, done, c =>
    match c.peek? 0 with
    | none => .ok (done, c)
    | some x =>
      if isBlank x || isBreak x then .ok (done, c)
      else if flow && x == ':' && c.at? 1 (fun y => isFlowIndicator y || y == '?') then
        c.fail "while scanning a plain scalar" start "found unexpected ':'"
      else if (x == ':' && c.endsWord 1) || (flow && isFlowIndicator x) then .ok (done, c)
      else takePlainWord flow start fuel (x :: done) c.next

/-- A plain scalar that continues on lines indented by at least `indent`. The flag tells
whether the scalar ended after a line break. -/
def takePlain (flow : Bool) (indent : Int) (start : Place) :
    Nat → Gap → List Char → Cursor → Except Problem (List Char × Bool × Cursor)
  | 0, gap, done, c => .ok (done.reverse, gap.first.isSome, c)
  | fuel + 1, gap, done, c =>
    if c.seesAnyMarker || c.sees '#' then .ok (done.reverse, gap.first.isSome, c)
    else do
      let (word, c) ← takePlainWord flow start fuel [] c
      let (gap, done) :=
        if word.isEmpty then (gap, done) else ({}, word ++ gap.fold.reverse ++ done)
      if !(c.at? 0 fun x => isBlank x || isBreak x) then
        return (done.reverse, gap.first.isSome, c)
      let (gap, c) := takeGap (some indent) fuel gap c
      if c.sees '\t' then
        c.fail "while scanning a plain scalar" start
          "found a tab character that violates indentation"
      else if !flow && decide ((c.column : Int) < indent) then
        return (done.reverse, gap.first.isSome, c)
      else takePlain flow indent start fuel gap done c

/-- What happens to the line breaks at the end of a block scalar. -/
inductive Chomp
  | strip
  | clip
  | keep
deriving DecidableEq, Repr

def takeChomp (c : Cursor) : Option (Chomp × Cursor) :=
  if c.sees '+' then some (.keep, c.next)
  else if c.sees '-' then some (.strip, c.next)
  else none

def takeWidth (start : Place) (c : Cursor) : Except Problem (Option Nat × Cursor) :=
  match c.peek? 0 with
  | some x =>
    if x == '0' then
      c.fail "while scanning a block scalar" start "found an indentation indicator equal to 0"
    else if x.isDigit then .ok (some (x.toNat - 48), c.next)
    else .ok (none, c)
  | none => .ok (none, c)

/-- The indicators after `|` or `>`: chomping and the indentation, in either order. -/
def takeBlockHeader (start : Place) (c : Cursor) :
    Except Problem (Chomp × Option Nat × Cursor) := do
  match takeChomp c with
  | some (chomp, c) =>
    let (width, c) ← takeWidth start c
    return (chomp, width, c)
  | none =>
    let (width, c) ← takeWidth start c
    match if width.isSome then takeChomp c else none with
    | some (chomp, c) => return (chomp, width, c)
    | none => return (.clip, width, c)

/-- Takes empty lines and indentation. With no indentation known yet the deepest line
settles it. -/
def takeBlockBreaks (start : Place) (indent : Option Nat) (outer : Int) :
    Nat → Nat → List Char → Cursor → Except Problem (List Char × Nat × Cursor)
  | 0, _, breaks, c => .ok (breaks, indent.getD 1, c)
  | fuel + 1, deepest, breaks, c =>
    let spaces := (c.rest.takeWhile (· == ' ')).length
    let c := c.skip (match indent with
      | some i => min spaces (i - c.column)
      | none => spaces)
    let deepest := max deepest c.column
    if indent.all (c.column < ·) && c.sees '\t' then
      c.fail "while scanning a block scalar" start
        "found a tab character where an indentation space is expected"
    else if c.at? 0 isBreak then
      let (mark, c) := c.nextLine
      takeBlockBreaks start indent outer fuel deepest (breaks ++ mark) c
    else
      let settled := match indent with
        | some i => i
        | none => (max (max (deepest : Int) (outer + 1)) 1).toNat
      .ok (breaks, settled, c)

/-- The lines of a block scalar. `lead` is the break before the line at the cursor, `empty`
the breaks of empty lines after it, and `wasBlank` tells whether the line before began with
a blank. -/
def takeBlockLines (literal : Bool) (start : Place) (indent : Nat) (outer : Int) :
    Nat → List Char → List Char → Bool → List Char → Cursor →
    Except Problem (List Char × List Char × List Char × Cursor)
  | 0, lead, empty, _, done, c => .ok (done, lead, empty, c)
  | fuel + 1, lead, empty, wasBlank, done, c =>
    if c.column = indent ∧ !c.isEnd then do
      let blank := c.at? 0 isBlank
      let joined :=
        if !literal && lead == ['\n'] && !wasBlank && !blank then
          if empty.isEmpty then [' '] else []
        else lead
      let (text, c) := c.takeWhile (!isBreak ·)
      let done := text.reverse ++ empty.reverse ++ joined.reverse ++ done
      let (lead, c) := c.nextLine
      let (empty, _, c) ← takeBlockBreaks start (some indent) outer fuel 0 [] c
      takeBlockLines literal start indent outer fuel lead empty blank done c
    else .ok (done, lead, empty, c)

/-- A block scalar in a block indented by `outer`; the cursor stands on `|` or `>`, with at most
`size` characters to come. -/
def takeBlock (literal : Bool) (outer : Int) (size : Nat) (c : Cursor) :
    Except Problem (List Char × Cursor) := do
  let start := c.place
  let (chomp, width, c) ← takeBlockHeader start c.next
  let c ← c.finishLine "while scanning a block scalar" start
  let indent := width.map fun n => (if outer ≥ 0 then outer + n else n).toNat
  let (empty, indent, c) ← takeBlockBreaks start indent outer (size + 1) 0 [] c
  let (done, lead, empty, c) ←
    takeBlockLines literal start indent outer (size + 2) [] empty false [] c
  let tail := match chomp with
    | .strip => []
    | .clip => lead
    | .keep => lead ++ empty
  return (done.reverse ++ tail, c)

end LocalProxy.Yaml
