import LocalProxy.Yaml.Token

/-! The tree of a YAML document: scalars, sequences and mappings with their tags, where an
alias is replaced by the node it names. Of a defective text the tree holds what comes before
the defect. -/
namespace LocalProxy.Yaml

inductive Node
  | scalar (place : Place) (tag : Option String) (style : Style) (text : String)
  | sequence (place : Place) (tag : Option String) (items : List Node)
  | mapping (place : Place) (tag : Option String) (entries : List (Node × Node))
  /-- An alias of a collection inside that collection. -/
  | cycle
  | broken (problem : Problem)
deriving Repr, Inhabited

def Node.emptyAt (p : Place) : Node := scalar p none .plain ""

/-- What is left to read, the tag handles of the document, and its anchors so far. -/
structure Reading where
  lexemes : List Lexeme
  handles : List (List Char × List Char)
  anchors : List (List Char × Nat)
  nodes : List (Nat × Node)
  fresh : Nat

namespace Reading

def drop (r : Reading) : Reading := { r with lexemes := r.lexemes.drop 1 }

def peek (r : Reading) : Lexeme := r.lexemes.headD ⟨.streamEnd, default, default⟩

def sees (r : Reading) (t : Token) : Bool := r.peek.token == t

def seesAny (r : Reading) (ts : List Token) : Bool := ts.contains r.peek.token

/-- The defect here: that of the text, or an unexpected token. -/
def problem (r : Reading) (activity : String) (start : Place) (what : String) : Problem :=
  match r.peek.token with
  | .broken p => p
  | _ => ⟨what, r.peek.start, some (activity, start)⟩

def defaultHandles : List (List Char × List Char) :=
  [(['!'], ['!']), (['!', '!'], "tag:yaml.org,2002:".toList)]

def resolve (r : Reading) (start place : Place) (handle suffix : List Char) :
    Except Problem String :=
  if handle = [] then .ok (.ofList suffix)
  else match r.handles.lookup handle with
    | some uri => .ok (.ofList (uri ++ suffix))
    | none => .error ⟨"found undefined tag handle", place, some ("while parsing a node", start)⟩

/-- The anchor and the tag before a node, in either order. -/
def takeProperties (r : Reading) :
    Except Problem (Option (List Char) × Option String × Reading) := do
  let start := r.peek.start
  match r.peek.token with
  | .anchor name =>
    let r := r.drop
    match r.peek.token with
    | .tag handle suffix =>
      return (some name, some (← r.resolve start r.peek.start handle suffix), r.drop)
    | _ => return (some name, none, r)
  | .tag handle suffix =>
    let place := start
    let r := r.drop
    match r.peek.token with
    | .anchor name => return (some name, some (← r.resolve start place handle suffix), r.drop)
    | .broken p => throw p
    | _ => return (none, some (← r.resolve start place handle suffix), r)
  | _ => return (none, none, r)

/-- Makes a name stand for the node about to be read. -/
def openAnchor (r : Reading) : Option (List Char) → Reading
  | none => r
  | some name => { r with anchors := (name, r.fresh) :: r.anchors, fresh := r.fresh + 1 }

def closeAnchor (name : Option (List Char)) (id : Nat) (node : Node) (r : Reading) : Reading :=
  if name.isSome then { r with nodes := (id, node) :: r.nodes } else r

/-- The node left out before the end of a collection: it is empty. -/
def isOmitted (r : Reading) (ends : List Token) : Bool := r.seesAny ends

mutual

/-- A node, and what is left unless a defect ended the reading. `block` admits block
collections, and `indentless` a sequence that is not indented below its key. -/
def node : Nat → Bool → Bool → Reading → Node × Option Reading
  | 0, _, _, _ => (.broken default, none)
  | fuel + 1, block, indentless, r =>
    let start := r.peek.start
    match r.peek.token with
    | .reference name =>
      match r.anchors.lookup name with
      | some id => ((r.nodes.lookup id).getD .cycle, some r.drop)
      | none => (.broken ⟨"unknown anchor", start, none⟩, none)
    | _ =>
      match r.takeProperties with
      | .error p => (.broken p, none)
      | .ok (anchor, tag, r) =>
        let id := r.fresh
        let r := r.openAnchor anchor
        let close := fun (n : Node) (r : Option Reading) =>
          (n, r.map (closeAnchor anchor id n))
        let here := r.peek.start
        let activity := if block then "while parsing a block node" else "while parsing a flow node"
        match r.peek.token with
        | .scalar text style =>
          let tag := if tag = some "!" then none else tag
          close (.scalar start tag style (.ofList text)) (some r.drop)
        | .flowSequence =>
          let (items, r) := flowItems fuel here true r.drop
          close (.sequence start tag items) r
        | .flowMapping =>
          let (entries, r) := flowEntries fuel here true r.drop
          close (.mapping start tag entries) r
        | .blockSequence =>
          if block then
            let (items, r) := blockItems fuel here r.drop
            close (.sequence start tag items) r
          else if anchor.isSome || tag.isSome then close (.scalar start tag .plain "") (some r)
          else (.broken (r.problem activity start "did not find expected node content"), none)
        | .blockMapping =>
          if block then
            let (entries, r) := blockEntries fuel here r.drop
            close (.mapping start tag entries) r
          else if anchor.isSome || tag.isSome then close (.scalar start tag .plain "") (some r)
          else (.broken (r.problem activity start "did not find expected node content"), none)
        | .broken p => (.broken p, none)
        | t =>
          if t == .blockEntry && indentless then
            let (items, r) := plainItems fuel r
            close (.sequence start tag items) r
          else if anchor.isSome || tag.isSome then close (.scalar start tag .plain "") (some r)
          else (.broken (r.problem activity start "did not find expected node content"), none)

def blockItems : Nat → Place → Reading → List Node × Option Reading
  | 0, _, _ => ([.broken default], none)
  | fuel + 1, start, r =>
    match r.peek.token with
    | .blockEntry =>
      let stop := r.peek.stop
      let r := r.drop
      let (n, left) :=
        if r.isOmitted [.blockEntry, .blockEnd] then (.emptyAt stop, some r)
        else node fuel true false r
      match left with
      | none => ([n], none)
      | some r =>
        let (ns, r) := blockItems fuel start r
        (n :: ns, r)
    | .blockEnd => ([], some r.drop)
    | _ =>
      ([.broken (r.problem "while parsing a block collection" start
        "did not find expected '-' indicator")], none)

def plainItems : Nat → Reading → List Node × Option Reading
  | 0, _ => ([.broken default], none)
  | fuel + 1, r =>
    match r.peek.token with
    | .blockEntry =>
      let stop := r.peek.stop
      let r := r.drop
      let (n, left) :=
        if r.isOmitted [.blockEntry, .key, .value, .blockEnd] then (.emptyAt stop, some r)
        else node fuel true false r
      match left with
      | none => ([n], none)
      | some r =>
        let (ns, r) := plainItems fuel r
        (n :: ns, r)
    | .broken p => ([.broken p], none)
    | _ => ([], some r)

/-- The value after a key: `ends` show that it was left out. -/
def valueOf : Nat → Bool → Bool → List Token → Reading → Node × Option Reading
  | 0, _, _, _, _ => (.broken default, none)
  | fuel + 1, block, indentless, ends, r =>
    match r.peek.token with
    | .value =>
      let stop := if block then r.peek.stop else r.drop.peek.start
      let r := r.drop
      if r.isOmitted ends then (.emptyAt stop, some r) else node fuel block indentless r
    | .broken p => (.broken p, none)
    | _ => (.emptyAt r.peek.start, some r)

def blockEntries : Nat → Place → Reading → List (Node × Node) × Option Reading
  | 0, _, _ => ([(.broken default, .cycle)], none)
  | fuel + 1, start, r =>
    let ends := [Token.key, .value, .blockEnd]
    match r.peek.token with
    | .key =>
      let stop := r.peek.stop
      let r := r.drop
      let (k, left) :=
        if r.isOmitted ends then (.emptyAt stop, some r) else node fuel true true r
      match left with
      | none => ([(k, .cycle)], none)
      | some r =>
        let (v, left) := valueOf fuel true true ends r
        match left with
        | none => ([(k, v)], none)
        | some r =>
          let (es, r) := blockEntries fuel start r
          ((k, v) :: es, r)
    | .blockEnd => ([], some r.drop)
    | _ =>
      ([(.broken (r.problem "while parsing a block mapping" start "did not find expected key"),
        .cycle)], none)

def flowItems : Nat → Place → Bool → Reading → List Node × Option Reading
  | 0, _, _, _ => ([.broken default], none)
  | fuel + 1, start, isFirst, r =>
    if r.sees .flowSequenceEnd then ([], some r.drop)
    else if !isFirst && !r.sees .flowEntry then
      ([.broken (r.problem "while parsing a flow sequence" start
        "did not find expected ',' or ']'")], none)
    else
      let r := if isFirst then r else r.drop
      if r.sees .flowSequenceEnd then ([], some r.drop)
      else
        let (n, left) := if r.sees .key then flowPair fuel r else node fuel false false r
        match left with
        | none => ([n], none)
        | some r =>
          let (ns, r) := flowItems fuel start false r
          (n :: ns, r)

/-- A mapping of one entry written inside a flow sequence. -/
def flowPair : Nat → Reading → Node × Option Reading
  | 0, _ => (.broken default, none)
  | fuel + 1, r =>
    let ends := [Token.flowEntry, .flowSequenceEnd]
    let start := r.peek.start
    let r := r.drop
    let (k, left) :=
      if r.isOmitted (.value :: ends) then (.emptyAt r.peek.stop, some r.drop)
      else node fuel false false r
    match left with
    | none => (.mapping start none [(k, .cycle)], none)
    | some r =>
      let (v, r) := valueOf fuel false false ends r
      (.mapping start none [(k, v)], r)

def flowEntries : Nat → Place → Bool → Reading → List (Node × Node) × Option Reading
  | 0, _, _, _ => ([(.broken default, .cycle)], none)
  | fuel + 1, start, isFirst, r =>
    let ends := [Token.flowEntry, .flowMappingEnd]
    if r.sees .flowMappingEnd then ([], some r.drop)
    else if !isFirst && !r.sees .flowEntry then
      ([(.broken (r.problem "while parsing a flow mapping" start
        "did not find expected ',' or '\x7d'"), .cycle)], none)
    else
      let r := if isFirst then r else r.drop
      if r.sees .flowMappingEnd then ([], some r.drop)
      else
        let keyed := r.sees .key
        let r := if keyed then r.drop else r
        let (k, left) :=
          if keyed && r.isOmitted (.value :: ends) then (.emptyAt r.peek.start, some r)
          else node fuel false false r
        match left with
        | none => ([(k, .cycle)], none)
        | some r =>
          let (v, left) :=
            if keyed then valueOf fuel false false ends r else (.emptyAt r.peek.start, some r)
          match left with
          | none => ([(k, v)], none)
          | some r =>
            let (es, r) := flowEntries fuel start false r
            ((k, v) :: es, r)

end

/-- Directives, of which a version may stand once and a tag handle once each. -/
def directives : Bool → List (List Char × List Char) → List Lexeme →
    Except Problem (List (List Char × List Char) × List Lexeme)
  | versioned, handles, ls@(l :: rest) =>
    match l.token with
    | .version major minor =>
      let minor := Text.digitsValue 10 minor
      if versioned then .error ⟨"found duplicate %YAML directive", l.start, none⟩
      else if Text.digitsValue 10 major != 1 || (minor != 1 && minor != 2) then
        .error ⟨"found incompatible YAML document", l.start, none⟩
      else directives true handles rest
    | .tagHandle handle uri =>
      if handles.any (·.1 == handle) then
        .error ⟨"found duplicate %TAG directive", l.start, none⟩
      else directives versioned ((handle, uri) :: handles) rest
    | .broken p => .error p
    | _ => .ok (handles, ls)
  | _, handles, [] => .ok (handles, [])

end Reading

/-- What follows a document. -/
inductive Ending
  | nothing
  | broken (problem : Problem)
  | another
deriving Repr

/-- What a text holds: no document, or a first one and what follows it. -/
inductive Content
  | nothing
  | document (root : Node) (ending : Ending)
deriving Repr

def Content.ofRoot (handles : List (List Char × List Char)) (ls : List Lexeme) : Content :=
  let r : Reading := ⟨ls, handles ++ Reading.defaultHandles, [], [], 0⟩
  let isOmitted := match r.peek.token with
    | .version _ _ => true
    | .tagHandle _ _ => true
    | .documentStart => true
    | .documentEnd => true
    | .streamEnd => true
    | _ => false
  let (root, left) :=
    if isOmitted then (.emptyAt r.peek.start, some r)
    else Reading.node (4 * ls.length + 8) true false r
  match left with
  | none => .document root .nothing
  | some r =>
    match r.peek.token with
    | .broken p => .document root (.broken p)
    | _ =>
      match r.lexemes.dropWhile (·.token == .documentEnd) with
      | [] => .document root .nothing
      | l :: _ => .document root (if l.token == .streamEnd then .nothing else .another)

def Content.ofText (s : String) : Content :=
  match lexemes s with
  | [] => .nothing
  | ls@(l :: rest) =>
    match l.token with
    | .streamEnd => .nothing
    | .documentStart => ofRoot [] rest
    | .version _ _ | .tagHandle _ _ =>
      match Reading.directives false [] ls with
      | .error p => .document (.broken p) .nothing
      | .ok (handles, l :: rest) =>
        if l.token == .documentStart then ofRoot handles rest
        else .document (.broken ⟨"did not find expected <document start>", l.start, none⟩) .nothing
      | .ok (_, []) => .nothing
    | .documentEnd =>
      .document (.broken ⟨"did not find expected node content", l.start,
        some ("while parsing a block node", l.start)⟩) .nothing
    | _ => ofRoot [] ls

end LocalProxy.Yaml
