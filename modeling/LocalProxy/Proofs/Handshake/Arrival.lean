import LocalProxy.Handshake.Inbound

/-! A request head that arrives in pieces. What a handshake comes to depends on the client's bytes
and not on where they are cut: the head is all up to the first empty line, if that ends within the
limit, and every byte after it is forwarded once and in order. Main statement: `served_by_bytes`. -/
namespace LocalProxy.Handshake

def emptyLine : Bytes := [13, 10, 13, 10]

/-- The first empty line of the bytes ends after so many of them. -/
structure HeadEnds (s : Bytes) (size : Nat) : Prop where
  written : ∃ before after, s = before ++ emptyLine ++ after ∧ size = before.length + 4
  first : ∀ before after, s = before ++ emptyLine ++ after → size ≤ before.length + 4

section HeadEnd

variable {s t : Bytes} {size : Nat}

theorem headEnds_cons_of_prefix {b : UInt8} {rest : Bytes} (here : emptyLine <+: b :: rest) :
    HeadEnds (b :: rest) size ↔ size = 4 := by
  obtain ⟨after, split⟩ := here
  constructor
  · rintro ⟨⟨before, _, -, rfl⟩, first⟩
    have le := first [] after split.symm
    simp only [List.length_nil] at le
    omega
  · rintro rfl
    exact ⟨⟨[], after, split.symm, rfl⟩, fun before _ _ => Nat.le_add_left 4 before.length⟩

/-- An empty line that does not stand in front ends one octet later than in the rest. -/
theorem headEnds_cons {b : UInt8} {rest : Bytes} (away : ¬ emptyLine <+: b :: rest) :
    HeadEnds (b :: rest) size ↔ ∃ n, HeadEnds rest n ∧ n + 1 = size := by
  have shift : ∀ before after, b :: rest = before ++ emptyLine ++ after →
      ∃ front, before = b :: front ∧ rest = front ++ emptyLine ++ after := by
    intro before after split
    cases before with
    | nil => exact absurd ⟨after, split.symm⟩ away
    | cons c front =>
      obtain ⟨rfl, rfl⟩ := List.cons.inj split
      exact ⟨front, rfl, rfl⟩
  constructor
  · rintro ⟨⟨before, after, split, rfl⟩, first⟩
    obtain ⟨front, rfl, split'⟩ := shift before after split
    refine ⟨front.length + 4, ⟨⟨front, after, split', rfl⟩, fun before' after' other => ?_⟩, rfl⟩
    have le := first (b :: before') after' (by rw [other]; rfl)
    simp only [List.length_cons] at le
    omega
  · rintro ⟨n, ⟨⟨front, after, split, rfl⟩, first⟩, rfl⟩
    refine ⟨⟨b :: front, after, by rw [split]; rfl, rfl⟩, ?_⟩
    intro before after' other
    obtain ⟨front', rfl, split'⟩ := shift before after' other
    have le := first front' after' split'
    simp only [List.length_cons]
    omega

theorem headEnd?_eq_some_iff : headEnd? s = some size ↔ HeadEnds s size := by
  induction s generalizing size with
  | nil =>
    refine ⟨nofun, ?_⟩
    rintro ⟨⟨before, after, split, -⟩, -⟩
    simp [emptyLine] at split
  | cons b rest ih =>
    rw [headEnd?, show [13, 10, 13, 10] = emptyLine from rfl]
    by_cases here : emptyLine <+: b :: rest
    · rw [if_pos (List.isPrefixOf_iff_prefix.mpr here), headEnds_cons_of_prefix here,
        Option.some.injEq, eq_comm]
    · rw [if_neg (by rwa [List.isPrefixOf_iff_prefix]), headEnds_cons here,
        Option.map_eq_some_iff]
      simp only [ih]

theorem not_headEnds (unended : headEnd? s = none) : ¬ HeadEnds s size := by
  intro ends
  rw [headEnd?_eq_some_iff.mpr ends] at unended
  cases unended

theorem HeadEnds.unique {other : Nat} (ends : HeadEnds s size) (ends' : HeadEnds s other) :
    size = other :=
  Option.some.inj ((headEnd?_eq_some_iff.mpr ends).symm.trans (headEnd?_eq_some_iff.mpr ends'))

theorem HeadEnds.le_length (ends : HeadEnds s size) : size ≤ s.length := by
  obtain ⟨before, after, rfl, rfl⟩ := ends.written
  simp only [List.length_append, emptyLine, List.length_cons, List.length_nil]
  omega

/-- More bytes do not move the first empty line. -/
theorem headEnds_append (within : size ≤ s.length) :
    HeadEnds (s ++ t) size ↔ HeadEnds s size := by
  have extend : ∀ before after, s = before ++ emptyLine ++ after →
      s ++ t = before ++ emptyLine ++ (after ++ t) := by
    rintro before after rfl
    exact List.append_assoc _ _ _
  have restrict : ∀ before after, s ++ t = before ++ emptyLine ++ after →
      before.length + 4 ≤ s.length → ∃ after, s = before ++ emptyLine ++ after := by
    intro before after split fits
    obtain ⟨rest, whole⟩ := List.prefix_of_prefix_length_le ⟨after, split.symm⟩
      (List.prefix_append s t) (by simpa [emptyLine] using fits)
    exact ⟨rest, whole.symm⟩
  constructor
  · rintro ⟨⟨before, after, split, rfl⟩, first⟩
    obtain ⟨after, whole⟩ := restrict before after split within
    exact ⟨⟨before, after, whole, rfl⟩, fun before' after' other =>
      first before' (after' ++ t) (extend before' after' other)⟩
  · rintro ⟨⟨before, after, split, rfl⟩, first⟩
    refine ⟨⟨before, after ++ t, extend before after split, rfl⟩, fun before' after' other => ?_⟩
    refine Nat.le_of_not_lt fun earlier => ?_
    obtain ⟨after', whole⟩ := restrict before' after' other (by omega)
    exact absurd (first before' after' whole) (Nat.not_le.mpr earlier)

end HeadEnd

theorem bufferSize_le {filled : Nat} (fits : filled < maxHead) : bufferSize filled ≤ maxHead := by
  unfold bufferSize
  split
  · decide
  · rename_i more
    -- The limit is a power of two, which doubling meets before it can pass it.
    have positive : filled ≠ 0 := fun none => more (none ▸ (by decide : 0 < firstRoom))
    have short : filled.log2 < 14 := (Nat.log2_lt positive).mpr fits
    calc Nat.pow 2 (filled.log2 + 1) ≤ 2 ^ 14 := Nat.pow_le_pow_right (by decide) short
      _ = maxHead := rfl

/-- There is always room for a read. -/
theorem lt_bufferSize (filled : Nat) : filled < bufferSize filled := by
  unfold bufferSize
  split
  · assumption
  · exact Nat.lt_log2_self

/-- A read takes bytes off the front of those that are to arrive. -/
theorem nextRead_spec {room : Nat} (some : 0 < room) (arriving : List Bytes) :
    (nextRead room arriving).1 ++ (nextRead room arriving).2.flatten = arriving.flatten ∧
      (nextRead room arriving).1.length ≤ room ∧
      ((nextRead room arriving).1 = [] → arriving.flatten = []) := by
  fun_induction nextRead room arriving with
  | case1 => simp
  | case2 later ih => simpa using ih
  | case3 piece later filled fits => simp_all
  | case4 piece later filled excess =>
    refine ⟨?_, List.length_take_le _ _, fun none => ?_⟩
    · simp [← List.append_assoc]
    · obtain no | no := List.take_eq_nil_iff.mp none
      · exact absurd no (Nat.pos_iff_ne_zero.mp some)
      · exact absurd no filled

section Loop

variable {arriving later : List Bytes} {buffer read : Bytes} {b : UInt8}

/-- A turn of the loop moves bytes into the buffer and keeps it within the limit. -/
theorem turn_spec (room : buffer.length < maxHead)
    (next : nextRead (bufferSize buffer.length - buffer.length) arriving = (b :: read, later)) :
    (buffer ++ b :: read) ++ later.flatten = buffer ++ arriving.flatten ∧
      (buffer ++ b :: read).length ≤ maxHead := by
  have more := lt_bufferSize buffer.length
  have bounded := bufferSize_le room
  obtain ⟨whole, fits, -⟩ := nextRead_spec (Nat.sub_pos_of_lt more) arriving
  rw [next] at whole fits
  refine ⟨by rw [← whole, List.append_assoc], ?_⟩
  rw [List.length_append]
  dsimp only at fits
  omega

theorem readHead_next (unended : headEnd? buffer = none) (room : buffer.length < maxHead)
    (next : nextRead (bufferSize buffer.length - buffer.length) arriving = (b :: read, later)) :
    readHead buffer arriving = readHead (buffer ++ b :: read) later := by
  rw [readHead, unended]
  simp only [if_neg (Nat.not_le.mpr room), next]

/-- What reading a head comes to. -/
inductive HeadRead (s : Bytes) : Except ProtocolFault (Bytes × Bytes × List Bytes) → Prop
  | whole {size : Nat} {past : Bytes} {later : List Bytes} (ends : HeadEnds s size)
      (within : size ≤ maxHead) (rest : past ++ later.flatten = s.drop size) :
      HeadRead s (.ok (s.take size, past, later))
  | tooLarge (unended : ∀ size ≤ maxHead, ¬ HeadEnds s size) (long : maxHead ≤ s.length) :
      HeadRead s (.error .headTooLarge)
  | closed (unended : ∀ size, ¬ HeadEnds s size) (short : s.length < maxHead) :
      HeadRead s (.error .closedBeforeHead)

/-- The buffer and the bytes to come make up the whole at every turn, so that the head found in
the buffer is the head of the whole. -/
theorem readHead_spec (buffer : Bytes) (arriving : List Bytes) (fits : buffer.length ≤ maxHead) :
    HeadRead (buffer ++ arriving.flatten) (readHead buffer arriving) := by
  fun_induction readHead buffer arriving with
  | case1 buffer arriving size found =>
    have ends := headEnd?_eq_some_iff.mp found
    have le := ends.le_length
    have head : (buffer ++ arriving.flatten).take size = buffer.take size :=
      List.take_append_of_le_length le
    rw [← head]
    exact .whole ((headEnds_append le).mpr ends) (Nat.le_trans le fits)
      (List.drop_append_of_le_length le).symm
  | case2 buffer arriving unended full =>
    -- A head within the limit would end within the buffer, which has reached it.
    refine .tooLarge (fun size within ends => ?_) (by rw [List.length_append]; omega)
    exact not_headEnds unended ((headEnds_append (Nat.le_trans within full)).mp ends)
  | case3 buffer arriving unended room later ended =>
    have none : arriving.flatten = [] :=
      (nextRead_spec (Nat.sub_pos_of_lt (lt_bufferSize buffer.length)) arriving).2.2 (by rw [ended])
    rw [none, List.append_nil]
    exact .closed (fun size => not_headEnds unended) (Nat.not_le.mp room)
  | case4 buffer arriving unended room b read later next ih =>
    obtain ⟨whole, fits⟩ := turn_spec (Nat.not_le.mp room) next
    rw [← whole]
    exact ih fits

/-- So many turns of the loop have left this in the buffer and that to come. -/
inductive Turns (arriving : List Bytes) : Nat → Bytes → List Bytes → Prop
  | none : Turns arriving 0 [] arriving
  | more {n : Nat} {buffer read : Bytes} {b : UInt8} {rest later : List Bytes}
      (so : Turns arriving n buffer rest) (unended : headEnd? buffer = none)
      (room : buffer.length < maxHead)
      (next : nextRead (bufferSize buffer.length - buffer.length) rest = (b :: read, later)) :
      Turns arriving (n + 1) (buffer ++ b :: read) later

/-- Every turn adds an octet to a buffer that stays within the limit, and the reading goes on
from there. -/
theorem Turns.spec {n : Nat} {rest : List Bytes} (turns : Turns arriving n buffer rest) :
    n ≤ buffer.length ∧ buffer.length ≤ maxHead ∧ buffer ++ rest.flatten = arriving.flatten ∧
      readHead buffer rest = readHead [] arriving := by
  induction turns with
  | none => exact ⟨Nat.le_refl 0, Nat.zero_le _, rfl, rfl⟩
  | more so unended room next ih =>
    obtain ⟨count, -, whole, same⟩ := ih
    obtain ⟨whole', fits⟩ := turn_spec room next
    refine ⟨?_, fits, whole'.trans whole, ?_⟩
    · simp only [List.length_append, List.length_cons]
      omega
    · rw [← same, readHead_next unended room next]

end Loop

/-- An exchange with all that is to be forwarded in one, wherever the reading of it stopped. -/
def joined (e : Exchange) : Exchange :=
  match e.outcome with
  | .accepted target buffered unread => ⟨e.reply, .accepted target [] (buffered ++ unread)⟩
  | _ => e

theorem joined_accepted (reply : Bytes) (target : Target) (buffered unread : Bytes) :
    joined ⟨reply, .accepted target buffered unread⟩ =
      ⟨reply, .accepted target [] (buffered ++ unread)⟩ :=
  rfl

/-- How a client with these bytes is served. -/
inductive Served (s : Bytes) : Exchange → Prop
  | connected {size : Nat} {target : Target} (ends : HeadEnds s size) (within : size ≤ maxHead)
      (asked : ProxyRequest.parse (s.take size) = .ok (.connect target)) :
      Served s ⟨connected, .accepted target [] (s.drop size)⟩
  | forwarded {size : Nat} {target : Target} {head : Bytes} (ends : HeadEnds s size)
      (within : size ≤ maxHead)
      (asked : ProxyRequest.parse (s.take size) = .ok (.forward target head)) :
      Served s ⟨[], .accepted target [] (head ++ s.drop size)⟩
  | refused {size : Nat} {fault : ProtocolFault} (ends : HeadEnds s size) (within : size ≤ maxHead)
      (asked : ProxyRequest.parse (s.take size) = .error fault) :
      Served s (.refuse fault badRequest)
  | tooLarge (unended : ∀ size ≤ maxHead, ¬ HeadEnds s size) (long : maxHead ≤ s.length) :
      Served s (.refuse .headTooLarge)
  | closed (unended : ∀ size ≤ maxHead, ¬ HeadEnds s size) (short : s.length < maxHead) :
      Served s (.refuse .closedBeforeHead)

theorem Served.unique {s : Bytes} {e e' : Exchange} (served : Served s e) (served' : Served s e') :
    e = e' := by
  cases served <;> cases served' <;> grind [HeadEnds.unique]

theorem serveHttp_served (arriving : List Bytes) :
    Served arriving.flatten (joined (serveHttp arriving)) := by
  have read := readHead_spec [] arriving (Nat.zero_le _)
  rw [List.nil_append] at read
  unfold serveHttp
  generalize readHead [] arriving = result at read
  cases read with
  | whole ends within rest =>
    dsimp only
    split
    · exact .refused ends within ‹_›
    · rw [joined_accepted, rest]
      exact .connected ends within ‹_›
    · rw [joined_accepted, List.append_assoc, rest]
      exact .forwarded ends within ‹_›
  | tooLarge unended long => exact .tooLarge unended long
  | closed unended short => exact .closed (fun size _ => unended size) short

/-- How the client of a request is served follows from its bytes, in whatever pieces they arrive.
The loop that reads the head makes no more turns than there are octets and than it has room for,
and an inbound of both kinds does the same for what does not open like SOCKS. -/
theorem served_by_bytes (here : Endpoint) (arriving : List Bytes) :
    Served arriving.flatten (joined (serveHttp arriving)) ∧
      (∀ pieces, pieces.flatten = arriving.flatten →
        joined (serveHttp pieces) = joined (serveHttp arriving)) ∧
      (∀ n buffer rest, Turns arriving n buffer rest →
        n ≤ arriving.flatten.length ∧ n ≤ maxHead ∧ readHead buffer rest = readHead [] arriving) ∧
      ∀ b, arriving.flatten.head? = some b → b ≠ Socks.version4 → b ≠ Socks.version5 →
        serveMixed here arriving = serveHttp arriving := by
  refine ⟨serveHttp_served arriving, ?_, ?_, ?_⟩
  · intro pieces same
    exact (same ▸ serveHttp_served pieces).unique (serveHttp_served arriving)
  · intro n buffer rest turns
    obtain ⟨count, fits, whole, same⟩ := turns.spec
    have inside := congrArg List.length whole
    rw [List.length_append] at inside
    exact ⟨by omega, Nat.le_trans count fits, same⟩
  · intro b first not4 not5
    obtain ⟨rest, opens⟩ := List.head?_eq_some_iff.mp first
    rw [serveMixed, opens]
    exact if_neg (not_or.mpr ⟨not4, not5⟩)

end LocalProxy.Handshake
