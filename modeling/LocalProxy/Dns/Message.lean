import LocalProxy.Dns.Record
import LocalProxy.Json

/-! Queries as they are sent, and messages as they are read and shown. -/
namespace LocalProxy.Dns

/-- A question of a message. -/
structure Question where
  name : Name
  type : RecordType
  classCode : UInt16
deriving DecidableEq, Repr

/-- A recursive query with one question of the Internet class. -/
structure Query where
  id : UInt16
  name : Name
  type : RecordType
deriving DecidableEq, Repr

/-- The header asks for recursion and counts one question. -/
def Query.wire (q : Query) : Bytes :=
  wordBytes q.id ++ [1, 0] ++ [0, 1] ++ [0, 0, 0, 0, 0, 0] ++ q.name.wire ++
    wordBytes q.type.code ++ wordBytes 1

structure Message where
  id : UInt16
  status : Nat
  truncated : Bool
  recursionDesired : Bool
  recursionAvailable : Bool
  authenticData : Bool
  checkingDisabled : Bool
  questions : List Question
  answers : List ResourceRecord
  authorities : List ResourceRecord
deriving DecidableEq, Repr

/-- Reads a number of things one after the other. -/
def readMany {α : Type} (read : Reading → Option (α × Reading)) :
    Nat → Reading → Option (List α × Reading)
  | 0, r => some ([], r)
  | n + 1, r => do
    let (a, r) ← read r
    let (rest, r) ← readMany read n r
    return (a :: rest, r)

def Question.read (r : Reading) : Option (Question × Reading) := do
  let (name, r) ← r.name
  let (type, r) ← r.word
  let (classCode, r) ← r.word
  return (⟨name, ⟨type⟩, classCode⟩, r)

def bitOf (b : UInt8) (place : Nat) : Bool := b.toNat.testBit place

/-- The operations a message may carry: query, status, notify and update. -/
def operations : List Nat := [0, 2, 4, 5]

namespace Message

/-- An option record may only stand in the last section, once; it holds the upper bits of the
status in the upper octet of its time to live. -/
def read (r : Reading) : Option Message := do
  let (id, r) ← r.word
  let (high, r) ← r.octet
  let (low, r) ← r.octet
  if high.toNat / 8 % 16 ∉ operations then none
  let (questionCount, r) ← r.word
  let (answerCount, r) ← r.word
  let (authorityCount, r) ← r.word
  let (otherCount, r) ← r.word
  let (questions, r) ← readMany Question.read questionCount.toNat r
  let (answers, r) ← readMany ResourceRecord.read answerCount.toNat r
  let (authorities, r) ← readMany ResourceRecord.read authorityCount.toNat r
  let (others, _) ← readMany ResourceRecord.read otherCount.toNat r
  if (answers ++ authorities).any (·.type == .opt) then none
  let options := others.filter (·.type == .opt)
  if options.length > 1 then none
  let upper := (options.head?.map fun o => o.ttl / 0x1000000).getD 0
  return {
    id := id
    status := upper * 16 + low.toNat % 16
    truncated := bitOf high 1
    recursionDesired := bitOf high 0
    recursionAvailable := bitOf low 7
    authenticData := bitOf low 5
    checkingDisabled := bitOf low 4
    questions := questions
    answers := answers
    authorities := authorities }

def decode? (bytes : Bytes) : Option Message := read ⟨bytes.toArray, 0⟩

def questionJson (q : Question) : Json :=
  .obj [("name", .str q.name.text), ("type", .nat q.type.code.toNat),
    ("class", .nat q.classCode.toNat)]

def recordJson (r : ResourceRecord) : Json :=
  .obj [("name", .str r.name.text), ("type", .nat r.type.code.toNat), ("TTL", .nat r.ttl),
    ("data", .str r.data.shown)]

def json (m : Message) : Json :=
  .obj [("Status", .nat m.status), ("Question", .arr (m.questions.map questionJson)),
    ("TC", .bool m.truncated), ("RD", .bool m.recursionDesired),
    ("RA", .bool m.recursionAvailable), ("AD", .bool m.authenticData),
    ("CD", .bool m.checkingDisabled), ("Answer", .arr (m.answers.map recordJson)),
    ("Authority", .arr (m.authorities.map recordJson))]

end Message

end LocalProxy.Dns
