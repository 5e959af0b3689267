import AgentKit.Proofs.LoggerRun

/-!
# Recovering records from a stream

A collector cuts a stream at newlines. A call that is done leaves its record and a newline in the
stream, together. Whether the record begins a line depends on the calls before it: one that failed
or panicked inside its line leaves a front of it, nothing ends that front, and the next record on
the stream is written behind it. The collector then finds the fronts and the record as one line.

The open end of a stream is what stands behind its last newline. It is empty exactly when a new
record begins a line, and a run of calls changes it in one way: a whole line empties it, and any
other call adds the front that it left.
-/

namespace AgentKit

/-- The octet that ends lines. -/
def newline : UInt8 := 0x0A

/-- What stands behind the last newline. -/
def openEnd (octets : Bytes) : Bytes := (octets.reverse.takeWhile (· != newline)).reverse

/-- A new line begins behind these octets: they are none, or end with a newline. -/
def AtLineStart (octets : Bytes) : Prop := octets = [] ∨ octets.getLast? = some newline

/-- A stream holds a text as a line of its own. -/
def HasLine (stream text : Bytes) : Prop :=
  ∃ front behind, stream = front ++ (text ++ newline :: behind) ∧ AtLineStart front

/-- Octets without a newline extend the open end. -/
theorem openEnd_append (octets piece : Bytes) (inside : newline ∉ piece) :
    openEnd (octets ++ piece) = openEnd octets ++ piece := by
  have passes : ∀ octet ∈ piece.reverse, (octet != newline) = true := by
    intro octet member
    rw [bne_iff_ne]
    rintro rfl
    exact inside (List.mem_reverse.mp member)
  rw [openEnd, List.reverse_append, List.takeWhile_append_of_pos passes, List.reverse_append,
    List.reverse_reverse, openEnd]

/-- A newline leaves no open end. -/
theorem openEnd_newline (octets : Bytes) : openEnd (octets ++ [newline]) = [] := by
  simp [openEnd]

/-- A stream is a front at whose end a line begins, and its open end, which holds no newline.

The reversed stream is cut at its first newline, and both parts are reversed. -/
theorem openEnd_split (octets : Bytes) :
    ∃ front, octets = front ++ openEnd octets ∧ AtLineStart front ∧ newline ∉ openEnd octets := by
  refine ⟨(octets.reverse.dropWhile (· != newline)).reverse, ?_, ?_, ?_⟩
  · rw [openEnd, ← List.reverse_append, List.takeWhile_append_dropWhile, List.reverse_reverse]
  · have stops := List.head?_dropWhile_not (· != newline) octets.reverse
    rw [AtLineStart, List.getLast?_reverse, List.reverse_eq_nil_iff]
    cases rest : octets.reverse.dropWhile (· != newline) with
    | nil => exact Or.inl rfl
    | cons octet later =>
      rw [rest] at stops
      have same : octet = newline := by simpa using stops
      exact Or.inr (congrArg some same)
  · intro member
    have passes := List.all_eq_true.mp List.all_takeWhile newline (List.mem_reverse.mp member)
    simp at passes

/-- A line begins exactly where the open end is empty. -/
theorem atLineStart_iff (octets : Bytes) : AtLineStart octets ↔ openEnd octets = [] := by
  constructor
  · rintro (rfl | last)
    · rfl
    · obtain ⟨front, rfl⟩ := List.getLast?_eq_some_iff.mp last
      exact openEnd_newline front
  · intro empty
    obtain ⟨front, split, start, _⟩ := openEnd_split octets
    rw [empty, List.append_nil] at split
    rw [split]
    exact start

/-- The only newline of a stream stands behind the same octets however the stream is cut at a
newline. -/
theorem only_newline (left right behind : Bytes) (inside : newline ∉ left)
    (same : left ++ [newline] = right ++ newline :: behind) : left = right := by
  rcases List.append_eq_append_iff.mp same with ⟨more, longer, rest⟩ | ⟨more, longer, rest⟩
  · have none : more = [] := by
      have lengths := congrArg List.length rest
      simp only [List.length_append, List.length_cons, List.length_nil] at lengths
      exact List.eq_nil_of_length_eq_zero (by omega)
    rw [longer, none, List.append_nil]
  · cases more with
    | nil => rw [longer, List.append_nil]
    | cons octet later =>
      have first : newline = octet := (List.cons.inj rest).1
      rw [longer, ← first] at inside
      exact absurd (List.mem_append_right _ List.mem_cons_self) inside

/-- What a call makes of the open end of a stream: a whole line closes it, a front of a line is
added to it, and a call on the other stream leaves it. -/
def Logger.LogCall.leaves (stream : Stream) (held : Bytes) (call : Logger.LogCall) : Bytes :=
  if call.stream = stream then
    if call.accepted = call.record.line then [] else held ++ call.accepted
  else held

/-- The fronts of lines that calls have left on a stream since its last whole line, behind what was
open before. -/
def Logger.tornSince (stream : Stream) (held : Bytes) (calls : List Logger.LogCall) : Bytes :=
  calls.foldl (Logger.LogCall.leaves stream) held

namespace Logger

/-- One call makes of the open end what is left of it. -/
theorem openEnd_added (stream : Stream) (octets : Bytes) (call : LogCall)
    (faithful : call.Faithful) :
    openEnd (octets ++ call.added stream) = call.leaves stream (openEnd octets) := by
  obtain ⟨whole, single⟩ := call.record.line_single
  rw [LogCall.added, LogCall.leaves]
  by_cases own : call.stream = stream
  · rw [if_pos own, if_pos own]
    rcases faithful.part with all | ⟨count, proper, part⟩
    · rw [if_pos all, all, whole, ← List.append_assoc]
      exact openEnd_newline _
    · have shorter : call.accepted.length < call.record.line.length := by
        rw [part, List.length_take]
        omega
      have notAll : call.accepted ≠ call.record.line := by
        intro same
        rw [same] at shorter
        exact Nat.lt_irrefl _ shorter
      have inside : newline ∉ call.accepted := by
        rw [whole, List.length_append, List.length_singleton] at proper
        rw [part, whole, List.take_append_of_le_length (by omega)]
        exact fun member => single (List.mem_of_mem_take member)
      rw [if_neg notAll]
      exact openEnd_append octets call.accepted inside
  · rw [if_neg own, if_neg own, List.append_nil]

/-- A run of calls makes of the open end what its calls leave of it one after the other. -/
theorem openEnd_run (stream : Stream) (octets : Bytes) (calls : List LogCall)
    (faithful : ∀ call ∈ calls, call.Faithful) :
    openEnd (octets ++ calls.flatMap (LogCall.added stream)) =
      tornSince stream (openEnd octets) calls := by
  induction calls generalizing octets with
  | nil => rw [List.flatMap_nil, List.append_nil, tornSince, List.foldl_nil]
  | cons call later inductionHypothesis =>
    have behind := inductionHypothesis (octets ++ call.added stream) fun other member =>
      faithful other (List.mem_cons_of_mem _ member)
    rw [openEnd_added stream octets call (faithful call List.mem_cons_self)] at behind
    rw [List.flatMap_cons, ← List.append_assoc, behind, tornSince, tornSince, List.foldl_cons]

/-- A call that is done leaves its record and a newline in its stream, together. The record is a
line of its own exactly when every front of a line that an earlier call left on the stream has
since been followed by a whole line; a collector finds it behind the fronts that have not. -/
theorem done_record_line (host : Host) (guarded : host.Guarded) (earlier : List Record)
    (record : Record) (later : List Record)
    (done : (call (run host earlier).2 record).1 = .done ()) :
    let stream := record.level.stream
    let sofar := (run host earlier).2.octets stream
    let torn := tornSince stream (openEnd (host.octets stream)) (run host earlier).1
    ∃ front behind,
      (run host (earlier ++ record :: later)).2.octets stream =
        sofar ++ (Utf8.encode record.text ++ newline :: behind) ∧
      (AtLineStart sofar ↔ torn = []) ∧
      sofar = front ++ torn ∧ AtLineStart front ∧ newline ∉ torn ++ Utf8.encode record.text := by
  intro stream sofar torn
  obtain ⟨keptEarlier, faithful, grown⟩ := run_streams host guarded earlier
  have opened : openEnd sofar = torn := by
    have counted := openEnd_run stream (host.octets stream) (run host earlier).1 faithful
    rwa [← grown stream] at counted
  obtain ⟨whole, single⟩ := record.line_single
  have added := done_call_adds (run host earlier).2 keptEarlier record done
  have kept := call_keeps_guarded (run host earlier).2 record keptEarlier
  have behind := (run_streams (call (run host earlier).2 record).2 kept later).2.2 stream
  obtain ⟨front, split, start, inside⟩ := openEnd_split sofar
  rw [opened] at split inside
  refine ⟨front, (run (call (run host earlier).2 record).2 later).1.flatMap (LogCall.added stream),
    ?_, ?_, split, start, ?_⟩
  · rw [run_append, run_cons]
    change (run (call (run host earlier).2 record).2 later).2.octets stream = _
    rw [behind, added, whole, List.append_assoc, List.append_assoc]
    rfl
  · rw [atLineStart_iff, opened]
  · intro member
    rcases List.mem_append.mp member with member | member
    · exact inside member
    · exact single member

/-- A host whose output stream takes five octets and then breaks off once. -/
def breaking : Host where
  environment := .table []
  files := .fresh
  out := .guarded ⟨.ofScript [.accept 5, .fail .brokenPipe] [], false⟩
  err := .guarded ⟨.ofScript [] [], false⟩
  clock := .masked
  diagnostics := .kept []

/-- A record at level `info`, without fields. -/
def plain (message : String) : Record := ⟨.info, message, .masked, []⟩

/-- The first record breaks off, the second is done and stands behind the octets of the first. -/
theorem breaking_two_records :
    breaking.Guarded ∧ (call (run breaking [plain "a"]).2 (plain "b")).1 = .done () ∧
    ∃ front behind,
      (run breaking ([plain "a"] ++ plain "b" :: [])).2.octets .out =
        (run breaking [plain "a"]).2.octets .out ++
          (Utf8.encode (plain "b").text ++ newline :: behind) ∧
      (AtLineStart ((run breaking [plain "a"]).2.octets .out) ↔
        tornSince .out (openEnd (breaking.octets .out)) (run breaking [plain "a"]).1 = []) ∧
      (run breaking [plain "a"]).2.octets .out =
        front ++ tornSince .out (openEnd (breaking.octets .out)) (run breaking [plain "a"]).1 ∧
      AtLineStart front ∧
      newline ∉ tornSince .out (openEnd (breaking.octets .out)) (run breaking [plain "a"]).1 ++
        Utf8.encode (plain "b").text := by
  have guarded : breaking.Guarded := by
    intro stream
    cases stream
    · exact ⟨_, rfl⟩
    · exact ⟨_, rfl⟩
  have done : (call (run breaking [plain "a"]).2 (plain "b")).1 = .done () := by decide +kernel
  exact ⟨guarded, done, done_record_line breaking guarded [plain "a"] (plain "b") [] done⟩

/-- The stream then holds one line only, and it is not that of the record whose call is done. -/
theorem breaking_hides_record :
    (run breaking [plain "a", plain "b"]).1.map LogCall.outcome =
      [.failed (.io (Writer.fault .brokenPipe)), .done ()] ∧
    ¬ HasLine ((run breaking [plain "a", plain "b"]).2.octets .out)
      (Utf8.encode (plain "b").text) := by
  refine ⟨by decide +kernel, ?_⟩
  have stream : (run breaking [plain "a", plain "b"]).2.octets .out =
      Utf8.encode ['{', '"', 'l', 'e', 'v'] ++ (plain "b").line := by decide +kernel
  obtain ⟨whole, single⟩ := (plain "b").line_single
  have inside : newline ∉
      Utf8.encode ['{', '"', 'l', 'e', 'v'] ++ Utf8.encode (plain "b").text := by
    intro member
    rcases List.mem_append.mp member with member | member
    · exact absurd member (by decide)
    · exact single member
  rintro ⟨front, behind, split, start⟩
  rw [stream, whole, ← List.append_assoc, ← List.append_assoc] at split
  have fronts := List.append_cancel_right (only_newline _ _ behind inside split)
  rw [← fronts] at start
  rcases start with empty | last
  · exact absurd empty (by decide)
  · exact absurd last (by decide)

end Logger

end AgentKit
