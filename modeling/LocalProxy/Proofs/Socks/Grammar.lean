import LocalProxy.Handshake.Inbound
import LocalProxy.Proofs.Socks.Addresses

/-! The handshakes by which SOCKS 4, 4a and 5 ask for a connection, as they are written, and that
an inbound accepts these and no others. Main statement: `accepted_iff_written`. -/
namespace LocalProxy.Socks

open Handshake Text

/-- A handshake that asks for a connection to the target, as it is written: in version 5, in
version 4 to an address, and in version 4 to a domain, which 0.0.0.x announces. -/
inductive Connects : Target → Bytes → Prop
  | five {target : Target} {methods address : Bytes} {reserved code : UInt8}
      (count : methods.length ≤ 255) (offered : 0 ∈ methods)
      (written : Address code target address) :
      Connects target
        ([5, methods.length.toUInt8] ++ methods ++ [5, 1, reserved, code] ++ address)
  | four {user : Bytes} {ip : Ipv4} {port : UInt16} (named : Field 255 user)
      (plain : ∀ x ≠ 0, ip ≠ ⟨0, 0, 0, x⟩) :
      Connects (.address (.v4 ip port)) ([4, 1] ++ wordBytes port ++ ip.octets ++ user ++ [0])
  | fourDomain {user : Bytes} {host : String} {port : UInt16} {x : UInt8} (named : Field 255 user)
      (marked : x ≠ 0) (text : Field 255 (utf8 host)) :
      Connects (.domain host port)
        ([4, 1] ++ wordBytes port ++ [0, 0, 0, x] ++ user ++ [0] ++ utf8 host ++ [0])

theorem readMethods_reads : Reads readMethods fun methods front =>
    methods.length ≤ 255 ∧ front = methods.length.toUInt8 :: methods :=
  counted_reads

/-- A command and its address, from what follows the four octets in front of them. -/
def afterHeader (header s : Bytes) : Except HandshakeFault ((UInt8 × Target) × Bytes) :=
  match header with
  | [version, command, _, code] =>
    if version = version5 then (readAddress code s).map fun p => ((command, p.1), p.2)
    else .error (.protocol (.requestVersion version))
  | _ => .error .endInBlock

theorem readCommand_eq (s : Bytes) :
    (readCommand s).map (fun p => ((p.1, p.2.1), p.2.2)) =
      block 4 s >>= fun p => afterHeader p.1 p.2 := by
  unfold readCommand
  cases block 4 s with
  | error fault => rfl
  | ok p =>
    match p with
    | ([version, command, reserved, code], rest) =>
      by_cases five : version = version5
      · subst five
        change Except.map _ (readAddress code rest >>= fun p => .ok (command, p.1, p.2)) =
          (readAddress code rest).map fun p => ((command, p.1), p.2)
        cases readAddress code rest <;> rfl
      · change Except.map _ (if version ≠ version5 then _ else _) =
          if version = version5 then _ else _
        rw [if_pos five, if_neg five]
        rfl
    | ([], _) | ([_], _) | ([_, _], _) | ([_, _, _], _) | (_ :: _ :: _ :: _ :: _ :: _, _) => rfl

theorem afterHeader_reads (header : Bytes) :
    Reads (afterHeader header) fun asked rest => ∃ reserved code,
      header = [5, asked.1, reserved, code] ∧ Address code asked.2 rest := by
  unfold afterHeader
  split
  next version command reserved code =>
    by_cases five : version = version5
    · simp only [if_pos five]
      refine ((readAddress_reads code).map fun target => (command, target)).congr
        fun asked rest => ?_
      constructor
      · rintro ⟨target, written, rfl⟩
        exact ⟨reserved, code, by rw [five]; rfl, written⟩
      · rintro ⟨_, _, ⟨⟩, written⟩
        exact ⟨asked.2, written, rfl⟩
    · simp only [if_neg five]
      refine (Reads.never _).congr fun asked rest => ⟨False.elim, ?_⟩
      rintro ⟨_, _, ⟨⟩, -⟩
      exact five rfl
  next others =>
    refine (Reads.never _).congr fun asked rest => ⟨False.elim, ?_⟩
    rintro ⟨_, _, rfl, -⟩
    exact others _ _ _ _ rfl

/-- A command of version 5 and its address. -/
theorem readCommand_reads :
    Reads (fun s => (readCommand s).map fun p => ((p.1, p.2.1), p.2.2)) fun asked front =>
      ∃ reserved code address, Address code asked.2 address ∧
        front = [5, asked.1, reserved, code] ++ address := by
  rw [funext readCommand_eq]
  refine ((block_reads 4).bind afterHeader_reads).congr fun asked front => ?_
  constructor
  · rintro ⟨_, _, address, ⟨-, rfl⟩, ⟨reserved, code, rfl, written⟩, rfl⟩
    exact ⟨reserved, code, address, written, rfl⟩
  · rintro ⟨reserved, code, address, written, rfl⟩
    exact ⟨_, _, address, ⟨rfl, rfl⟩, ⟨reserved, code, rfl, written⟩, rfl⟩

theorem answerCommand_eq (here : Endpoint) :
    answerCommand here =
      onward (fun s => (readCommand s).map fun p => ((p.1, p.2.1), p.2.2)) fun asked s =>
        if asked.1 = connectCommand then ⟨reply5 succeeded here, .accepted asked.2 [] s⟩
        else if asked.1 = associateCommand then ⟨reply5 succeeded here, .finished⟩
        else .refuse (.command asked.1) (reply5 commandNotSupported here) := by
  funext s
  unfold answerCommand onward
  dsimp only
  cases readCommand s <;> rfl

theorem answerCommand_admits (here : Endpoint) :
    Admits (answerCommand here) fun target front =>
      ∃ reserved code address, Address code target address ∧
        front = [5, 1, reserved, code] ++ address := by
  rw [answerCommand_eq]
  refine .congr (.onward readCommand_reads fun asked =>
    .only (.granted _ asked.2) _ fun s target payload => ?_) fun target front => ?_
  · split
    · exact not_takes nofun
    · exact not_takes nofun
  · constructor
    · rintro ⟨⟨command, asked⟩, _, _, ⟨reserved, code, address, written, rfl⟩, ⟨rfl, rfl, rfl⟩,
        rfl⟩
      exact ⟨reserved, code, address, written, List.append_nil _⟩
    · rintro ⟨reserved, code, address, written, rfl⟩
      exact ⟨(1, target), _, [], ⟨reserved, code, address, written, rfl⟩, ⟨rfl, rfl, rfl⟩,
        (List.append_nil _).symm⟩

theorem serve5_eq (here : Endpoint) :
    serve5 here = onward readMethods fun methods s =>
      if noAuthentication ∈ methods then (answerCommand here s).after [version5, noAuthentication]
      else .refuse .noMethod [version5, 0xFF] := by
  funext s
  unfold serve5 onward
  cases readMethods s <;> rfl

theorem serve5_admits (here : Endpoint) :
    Admits (serve5 here) fun target front =>
      ∃ methods reserved code address, methods.length ≤ 255 ∧ 0 ∈ methods ∧
        Address code target address ∧
        front = methods.length.toUInt8 :: methods ++ [5, 1, reserved, code] ++ address := by
  rw [serve5_eq]
  refine .congr (.onward readMethods_reads fun methods =>
    .only (.after (answerCommand_admits here) _) _ fun s target payload => not_takes nofun)
      fun target front => ?_
  constructor
  · rintro ⟨methods, _, _, ⟨fits, rfl⟩, ⟨offered, reserved, code, address, written, rfl⟩, rfl⟩
    exact ⟨methods, reserved, code, address, fits, offered, written, by simp⟩
  · rintro ⟨methods, reserved, code, address, fits, offered, written, rfl⟩
    exact ⟨methods, _, _, ⟨fits, rfl⟩, ⟨offered, reserved, code, address, written, rfl⟩, by simp⟩

theorem readShortRequest_eq :
    readShortRequest = fun s => octet s >>= fun p => word p.2 >>= fun q => block 4 q.2 >>=
      fun r => untilNul maxField r.2 >>= fun u =>
        given (Ipv4.ofOctets? r.1) (ShortRequest.mk p.1 q.1) .endInBlock u.2 := by
  funext s
  refine bind_congr ?_
  rintro ⟨command, s⟩
  refine bind_congr ?_
  rintro ⟨port, s⟩
  refine bind_congr ?_
  rintro ⟨octets, s⟩
  refine bind_congr ?_
  rintro ⟨user, s⟩
  cases Ipv4.ofOctets? octets <;> rfl

theorem readShortRequest_reads : Reads readShortRequest fun request front =>
    ∃ user, Field maxField user ∧ front =
      [request.command] ++ wordBytes request.port ++ request.ip.octets ++ user ++ [0] := by
  rw [readShortRequest_eq]
  refine (octet_reads.bind fun command => word_reads.bind fun port => (block_reads 4).bind
    fun octets => (untilNul_reads maxField).bind fun _ =>
      .given (Ipv4.ofOctets? octets) (ShortRequest.mk command port) _).congr
        fun request front => ?_
  constructor
  · rintro ⟨command, _, _, rfl, ⟨port, _, _, rfl, ⟨_, octets, _, ⟨-, rfl⟩, ⟨user, _, _,
      ⟨named, rfl⟩, ⟨⟨ip, known, rfl⟩, rfl⟩, rfl⟩, rfl⟩, rfl⟩, rfl⟩
    obtain rfl := Ipv4.ofOctets?_eq_some_iff.mp known
    exact ⟨user, named, by simp⟩
  · rintro ⟨user, named, rfl⟩
    exact ⟨request.command, _, _, rfl, ⟨request.port, _, _, rfl, ⟨request.ip.octets, _, _,
      ⟨rfl, rfl⟩, ⟨user, _, [], ⟨named, rfl⟩, ⟨⟨request.ip, rfl, rfl⟩, rfl⟩, rfl⟩, rfl⟩, rfl⟩,
      by simp⟩

/-- The target of a request of version 4, and what is written of it behind the user's name. -/
inductive ShortTarget (r : ShortRequest) : Target → Bytes → Prop
  | address (plain : ¬ namesDomain r.ip) : ShortTarget r (.address (.v4 r.ip r.port)) []
  | domain {host : String} (marked : namesDomain r.ip) (text : Field maxField (utf8 host)) :
      ShortTarget r (.domain host r.port) (utf8 host ++ [0])

theorem readShortTarget_eq (r : ShortRequest) :
    readShortTarget r = if namesDomain r.ip then
        fun s => untilNul maxField s >>= fun p =>
          given (ofUtf8? p.1) (fun host => Target.domain host r.port) (.protocol .hostNotText) p.2
      else fun s => .ok (.address (.v4 r.ip r.port), s) := by
  funext s
  unfold readShortTarget
  split
  · refine bind_congr ?_
    rintro ⟨name, s⟩
    dsimp only
    cases ofUtf8? name <;> rfl
  · rfl

theorem readShortTarget_reads (r : ShortRequest) :
    Reads (readShortTarget r) (ShortTarget r) := by
  rw [readShortTarget_eq]
  split
  next marked =>
    refine ((untilNul_reads maxField).bind fun name =>
      .given (ofUtf8? name) (fun host => Target.domain host r.port) _).congr
        fun target front => ?_
    constructor
    · rintro ⟨name, _, _, ⟨field, rfl⟩, ⟨⟨host, text, rfl⟩, rfl⟩, rfl⟩
      obtain rfl := ofUtf8?_eq_some_iff.mp text
      rw [List.append_nil]
      exact .domain marked field
    · intro written
      cases written with
      | address plain => exact absurd marked plain
      | @domain host _ text =>
        exact ⟨utf8 host, _, [], ⟨text, rfl⟩, ⟨⟨host, ofUtf8?_utf8 host, rfl⟩, rfl⟩,
          (List.append_nil _).symm⟩
  next plain =>
    refine (Reads.pure _).congr fun target front => ?_
    constructor
    · rintro ⟨rfl, rfl⟩
      exact .address plain
    · intro written
      cases written with
      | address => exact ⟨rfl, rfl⟩
      | domain marked => exact absurd marked plain

theorem serve4_eq :
    serve4 = onward readShortRequest fun request s =>
      if request.command = connectCommand then
        onward (readShortTarget request)
          (fun target s => ⟨reply4 granted, .accepted target [] s⟩) s
      else .refuse (.shortCommand request.command) (reply4 rejected) := by
  funext s
  unfold serve4 onward
  cases readShortRequest s with
  | error fault => rfl
  | ok p =>
    obtain ⟨request, s⟩ := p
    dsimp only
    rw [ite_not]
    cases readShortTarget request s <;> rfl

theorem serve4_admits : Admits serve4 fun target front =>
    ∃ port ip user more, Field maxField user ∧ ShortTarget ⟨1, port, ip⟩ target more ∧
      front = [1] ++ wordBytes port ++ ip.octets ++ user ++ [0] ++ more := by
  rw [serve4_eq]
  refine .congr (.onward readShortRequest_reads fun request =>
    .only (.onward (readShortTarget_reads request) fun target => .granted _ target) _
      fun s target payload => not_takes nofun) fun target front => ?_
  constructor
  · rintro ⟨⟨_, port, ip⟩, _, _, ⟨user, named, rfl⟩, ⟨rfl, target, more, _, written, ⟨rfl, rfl⟩,
      rfl⟩, rfl⟩
    exact ⟨port, ip, user, more, named, written, by rw [List.append_nil]; rfl⟩
  · rintro ⟨port, ip, user, more, named, written, rfl⟩
    exact ⟨⟨1, port, ip⟩, _, more, ⟨user, named, rfl⟩,
      ⟨rfl, target, more, [], written, ⟨rfl, rfl⟩, (List.append_nil more).symm⟩, rfl⟩

theorem namesDomain_iff (ip : Ipv4) : namesDomain ip = true ↔ ∃ x ≠ 0, ip = ⟨0, 0, 0, x⟩ := by
  obtain ⟨a, b, c, d⟩ := ip
  simp only [namesDomain, Bool.and_eq_true, decide_eq_true_eq, Ipv4.mk.injEq]
  constructor
  · rintro ⟨⟨⟨rfl, rfl⟩, rfl⟩, marked⟩
    exact ⟨d, marked, rfl, rfl, rfl, rfl⟩
  · rintro ⟨x, marked, rfl, rfl, rfl, rfl⟩
    exact ⟨⟨⟨rfl, rfl⟩, rfl⟩, marked⟩

theorem serve_eq (here : Endpoint) :
    serve here = onward octet fun version s =>
      if version = version5 then serve5 here s
      else if version = version4 then serve4 s
      else .refuse (.version version) := by
  funext s
  unfold serve onward
  cases octet s <;> rfl

theorem serve_admits (here : Endpoint) : Admits (serve here) Connects := by
  rw [serve_eq]
  refine .congr (.onward octet_reads fun version => .cond (serve5_admits here) _
    (.only serve4_admits _ fun s target payload => not_takes nofun)) fun target front => ?_
  constructor
  · rintro ⟨version, _, rest, rfl, written, rfl⟩
    split at written
    next five =>
      obtain ⟨methods, reserved, code, address, fits, offered, written, rfl⟩ := written
      rw [five]
      exact Connects.five fits offered written
    next =>
      obtain ⟨rfl, port, ip, user, more, named, written, rfl⟩ := written
      cases written with
      | address plain =>
        rw [List.append_nil]
        refine Connects.four named fun x marked same => ?_
        exact plain ((namesDomain_iff ip).mpr ⟨x, marked, same⟩)
      | @domain host announced text =>
        obtain ⟨x, marked, rfl⟩ := (namesDomain_iff ip).mp announced
        have asked : Connects (.domain host port) _ := .fourDomain named marked text
        simpa [Ipv4.octets, version4] using asked
  · intro written
    cases written with
    | five fits offered written =>
      exact ⟨5, [5], _, rfl, ⟨_, _, _, _, fits, offered, written, rfl⟩, rfl⟩
    | @four user ip port named plain =>
      have unmarked : ¬ namesDomain ip := fun announced =>
        have ⟨x, marked, same⟩ := (namesDomain_iff ip).mp announced
        plain x marked same
      exact ⟨4, [4], _, rfl, ⟨rfl, port, ip, user, [], named, .address unmarked, rfl⟩, by simp⟩
    | @fourDomain user host port x named marked text =>
      exact ⟨4, [4], _, rfl, ⟨rfl, port, ⟨0, 0, 0, x⟩, user, _, named,
        .domain ((namesDomain_iff _).mpr ⟨x, marked, rfl⟩) text, rfl⟩, by simp [Ipv4.octets]⟩

/-- What starts like a request for an association of datagrams asks for no connection. -/
theorem not_connects_associate {methods tail rest front : Bytes} {target : Target}
    (count : methods.length ≤ 255)
    (same : [5, methods.length.toUInt8] ++ methods ++ [5, 3] ++ tail = front ++ rest) :
    ¬ Connects target front := by
  intro written
  cases written with
  | @five _ methods' address reserved code count' offered written =>
    simp only [List.cons_append, List.nil_append, List.append_assoc, List.cons.injEq,
      true_and] at same
    obtain ⟨sizes, same⟩ := same
    -- The same octet counts the methods of both, so that their commands stand at one place.
    have lengths : methods.length = methods'.length :=
      (length_eq_toNat_iff.mpr ⟨count, sizes.symm⟩).trans
        (length_eq_toNat_iff.mpr ⟨count', rfl⟩).symm
    obtain ⟨-, same⟩ := List.append_inj same lengths
    cases (List.cons.inj (List.cons.inj same).2).1
  | four => cases (List.cons.inj same).1
  | fourDomain => cases (List.cons.inj same).1

/-- A request for an association is granted and holds the connection, and that is all. -/
theorem serve_associate {methods address rest : Bytes} {reserved code : UInt8} {target : Target}
    (here : Endpoint) (count : methods.length ≤ 255) (offered : 0 ∈ methods)
    (written : Address code target address) :
    (serve here ([5, methods.length.toUInt8] ++ methods ++ [5, 3, reserved, code] ++ address ++
      rest)).outcome = .finished := by
  have whole : [5, methods.length.toUInt8] ++ methods ++ [5, 3, reserved, code] ++ address ++ rest =
      5 :: (methods.length.toUInt8 :: methods ++ ([5, 3, reserved, code] ++ address ++ rest)) := by
    simp
  rw [whole]
  change (serve5 here _).outcome = _
  have allowed : noAuthentication ∈ methods := offered
  rw [serve5_eq, readMethods_reads.onward_eq ⟨count, rfl⟩, if_pos allowed, answerCommand_eq]
  exact congrArg Exchange.outcome (readCommand_reads.onward_eq (a := (3, target))
    ⟨reserved, code, address, written, rfl⟩ _ rest)

theorem connection?_eq_none {e : Exchange} (refuses : ∀ target payload, ¬ Takes e target payload)
    (origin : Origin) (peer : Endpoint) (specialProxy : Option String) :
    e.connection? origin peer specialProxy = none := by
  unfold Exchange.connection?
  split
  next target buffered unread accepted =>
    exact absurd ⟨buffered, unread, accepted, rfl⟩ (refuses target (buffered ++ unread))
  next => rfl

/-- The first octet is a version of SOCKS. -/
def OpensSocks (s : Bytes) : Prop := s.head? = some 4 ∨ s.head? = some 5

theorem Connects.opensSocks {target : Target} {front tail : Bytes}
    (written : Connects target (front ++ tail)) (begun : front ≠ []) : OpensSocks front := by
  obtain ⟨b, rest, rfl⟩ := List.exists_cons_of_ne_nil begun
  generalize whole : b :: rest ++ tail = s at written
  cases written with
  | five => exact .inr (congrArg some (List.cons.inj whole).1)
  | four => exact .inl (congrArg some (List.cons.inj whole).1)
  | fourDomain => exact .inl (congrArg some (List.cons.inj whole).1)

theorem serveMixed_eq {arriving : List Bytes} (here : Endpoint)
    (opens : OpensSocks arriving.flatten) : serveMixed here arriving = serveSocks here arriving := by
  have known : ∃ b rest, arriving.flatten = b :: rest ∧ (b = version4 ∨ b = version5) := by
    obtain first | first := opens
    · obtain ⟨rest, whole⟩ := List.head?_eq_some_iff.mp first
      exact ⟨4, rest, whole, .inl rfl⟩
    · obtain ⟨rest, whole⟩ := List.head?_eq_some_iff.mp first
      exact ⟨5, rest, whole, .inr rfl⟩
  obtain ⟨b, rest, whole, known⟩ := known
  rw [serveMixed, whole]
  exact if_pos known

/-- What an inbound does for the clients that it takes for speakers of SOCKS. It takes a client to
a target with a payload just when the client's bytes are a handshake for that target and then the
payload. A handshake that breaks off is dropped as the end of the client's bytes. A request for an
association leads to no connection, and a whole one is granted and held. -/
structure SpeaksSocks (inbound : List Bytes → Exchange) (heard : Bytes → Prop) : Prop where
  accepts : ∀ arriving target payload, heard arriving.flatten →
    (Takes (inbound arriving) target payload ↔
      ∃ front, Connects target front ∧ arriving.flatten = front ++ payload)
  brokenOff : ∀ arriving target tail, Connects target (arriving.flatten ++ tail) →
    arriving.flatten ≠ [] → tail ≠ [] →
    ∃ fault, Ended fault ∧ (inbound arriving).outcome = .dropped fault
  associates : ∀ arriving methods tail, methods.length ≤ 255 →
    arriving.flatten = [5, methods.length.toUInt8] ++ methods ++ [5, 3] ++ tail →
    ∀ origin peer specialProxy, (inbound arriving).connection? origin peer specialProxy = none
  held : ∀ arriving methods reserved code target address rest, methods.length ≤ 255 →
    0 ∈ methods → Address code target address →
    arriving.flatten =
      [5, methods.length.toUInt8] ++ methods ++ [5, 3, reserved, code] ++ address ++ rest →
    (inbound arriving).outcome = .finished

theorem serveSocks_speaks (here : Endpoint) : SpeaksSocks (serveSocks here) fun _ => True where
  accepts arriving target payload _ := by
    constructor
    · exact (serve_admits here).sound
    · rintro ⟨front, written, whole⟩
      rw [serveSocks, whole]
      exact (serve_admits here).complete written payload
  brokenOff arriving target tail written _ cut := (serve_admits here).short written cut
  associates arriving methods tail count whole := by
    refine connection?_eq_none fun target payload taken => ?_
    obtain ⟨front, written, same⟩ := (serve_admits here).sound taken
    exact not_connects_associate count (whole.symm.trans same) written
  held arriving methods reserved code target address rest count offered written whole := by
    rw [serveSocks, whole]
    exact serve_associate here count offered written

theorem serveMixed_speaks (here : Endpoint) : SpeaksSocks (serveMixed here) OpensSocks where
  accepts arriving target payload opens := by
    rw [serveMixed_eq here opens]
    exact (serveSocks_speaks here).accepts arriving target payload trivial
  brokenOff arriving target tail written begun cut := by
    rw [serveMixed_eq here (written.opensSocks begun)]
    exact (serveSocks_speaks here).brokenOff arriving target tail written begun cut
  associates arriving methods tail count whole := by
    rw [serveMixed_eq here (whole ▸ .inr rfl)]
    exact (serveSocks_speaks here).associates arriving methods tail count whole
  held arriving methods reserved code target address rest count offered written whole := by
    rw [serveMixed_eq here (whole ▸ .inr rfl)]
    exact (serveSocks_speaks here).held arriving methods reserved code target address rest count
      offered written whole

/-- A SOCKS inbound accepts what is written as a handshake and nothing else, whatever its client
sends, and an inbound of both kinds does so for what opens with a version of SOCKS. -/
theorem accepted_iff_written (here : Endpoint) :
    SpeaksSocks (serveSocks here) (fun _ => True) ∧ SpeaksSocks (serveMixed here) OpensSocks :=
  ⟨serveSocks_speaks here, serveMixed_speaks here⟩

end LocalProxy.Socks
