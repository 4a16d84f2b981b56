import LocalProxy.Text

/-! Routing rules, written `TYPE,payload,proxy[,option…]` or `MATCH,proxy`. -/
namespace LocalProxy

inductive RuleType
  | domain
  | domainSuffix
  | domainKeyword
  | geoIp
  | ipCidr
  | srcIpCidr
  | srcPort
  | dstPort
  | process
  | processPath
  | ipSet
  | «match»
deriving DecidableEq, Repr

structure Rule where
  type : RuleType
  payload : String
  proxy : String
  options : List String
deriving DecidableEq, Repr

inductive RuleFault
  | tooFewFields (line : String)
  | unknownType (keyword : String)
deriving DecidableEq, Repr

def RuleFault.message : RuleFault → String
  | tooFewFields line => "rule `" ++ line ++ "` has too few fields"
  | unknownType keyword => "unsupported rule type `" ++ keyword ++ "`"

namespace RuleType

/-- The name under which listings show the type. -/
def name : RuleType → String
  | domain => "Domain"
  | domainSuffix => "DomainSuffix"
  | domainKeyword => "DomainKeyword"
  | geoIp => "GeoIP"
  | ipCidr => "IPCIDR"
  | srcIpCidr => "SrcIPCIDR"
  | srcPort => "SrcPort"
  | dstPort => "DstPort"
  | process => "Process"
  | processPath => "ProcessPath"
  | ipSet => "IPSet"
  | «match» => "Match"

/-- The keywords of rule lines. -/
def keywords : List (String × RuleType) :=
  [("DOMAIN", domain), ("DOMAIN-SUFFIX", domainSuffix), ("DOMAIN-KEYWORD", domainKeyword),
   ("GEOIP", geoIp), ("IP-CIDR", ipCidr), ("IP-CIDR6", ipCidr), ("SRC-IP-CIDR", srcIpCidr),
   ("SRC-PORT", srcPort), ("DST-PORT", dstPort), ("PROCESS-NAME", process),
   ("PROCESS-PATH", processPath), ("IPSET", ipSet), ("MATCH", «match»)]

/-- The type of a keyword in any case, or the keyword as it was compared. -/
def parse (s : String) : Except String RuleType :=
  let keyword := Text.upper (Text.trim s)
  match keywords.lookup keyword with
  | some type => .ok type
  | none => .error keyword

end RuleType

namespace Rule

def parse (line : String) : Except RuleFault Rule :=
  match (Text.fields ',' line).map Text.trim with
  | [] => .error (.tooFewFields line)
  | keyword :: rest =>
    match RuleType.parse keyword, rest with
    | .error unknown, _ => .error (.unknownType unknown)
    | .ok .match, proxy :: _ =>
      if proxy = "" then .error (.tooFewFields line) else .ok ⟨.match, "", proxy, []⟩
    | .ok type, payload :: proxy :: options =>
      if payload = "" ∨ proxy = "" then .error (.tooFewFields line)
      else .ok ⟨type, payload, proxy, options⟩
    | .ok _, _ => .error (.tooFewFields line)

/-- The line of a rule under a keyword of its type. -/
def line (keyword : String) (r : Rule) : String :=
  match r.type with
  | .match => ",".intercalate [keyword, r.proxy]
  | _ => ",".intercalate (keyword :: r.payload :: r.proxy :: r.options)

end Rule

end LocalProxy
