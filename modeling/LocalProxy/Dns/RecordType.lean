import LocalProxy.Text

/-! The record types that a query may ask for. -/
namespace LocalProxy.Dns

/-- A record type by its number. -/
structure RecordType where
  code : UInt16
deriving DecidableEq, Repr, Inhabited

namespace RecordType

def a : RecordType := ⟨1⟩
def ns : RecordType := ⟨2⟩
def cname : RecordType := ⟨5⟩
def soa : RecordType := ⟨6⟩
def ptr : RecordType := ⟨12⟩
def hinfo : RecordType := ⟨13⟩
def mx : RecordType := ⟨15⟩
def txt : RecordType := ⟨16⟩
def aaaa : RecordType := ⟨28⟩
def srv : RecordType := ⟨33⟩
def opt : RecordType := ⟨41⟩
def caa : RecordType := ⟨257⟩
def aname : RecordType := ⟨65305⟩

/-- The names a query may use. -/
def names : List (String × RecordType) :=
  [("A", a), ("AAAA", aaaa), ("ANAME", aname), ("ANY", ⟨255⟩), ("AXFR", ⟨252⟩), ("CAA", caa),
   ("CDNSKEY", ⟨60⟩), ("CDS", ⟨59⟩), ("CNAME", cname), ("CSYNC", ⟨62⟩), ("DNSKEY", ⟨48⟩),
   ("DS", ⟨43⟩), ("HINFO", hinfo), ("HTTPS", ⟨65⟩), ("KEY", ⟨25⟩), ("MX", mx),
   ("NAPTR", ⟨35⟩), ("NS", ns), ("NSEC", ⟨47⟩), ("NSEC3", ⟨50⟩), ("NSEC3PARAM", ⟨51⟩),
   ("NULL", ⟨10⟩), ("OPENPGPKEY", ⟨61⟩), ("PTR", ptr), ("RRSIG", ⟨46⟩), ("SIG", ⟨24⟩),
   ("SOA", soa), ("SRV", srv), ("SSHFP", ⟨44⟩), ("SVCB", ⟨64⟩), ("TLSA", ⟨52⟩),
   ("TSIG", ⟨250⟩), ("TXT", txt), ("*", ⟨255⟩)]

/-- The type of a name in any letter case, with blanks around it. -/
def parse? (s : String) : Option RecordType := names.lookup (Text.upper (Text.trim s))

def name (t : RecordType) : String :=
  match names.find? (·.2 == t) with
  | some (name, _) => name
  | none => "TYPE" ++ toString t.code.toNat

end RecordType

end LocalProxy.Dns
