import TraceRelay.Proofs.Session.Watching
import TraceRelay.Proofs.Text.Lossy

/-!
# The lines of a stream

A session asks for the next line of its tracer until there is none. Each time the two streams are
read up to a line break, whichever is first, and what the other one has come to by then is kept for
later. `Reader.yielded` is this loop over the reads that there are; `Exhausts` says which reads a
stream can be read out by.

Of each stream the loop yields the lines of the bytes written to it, whatever is read of the other
stream in between, wherever reads are given up, and however the stream ends.
-/

namespace TraceRelay

open Text

/-- One read on a stream, up to a line break or the end of the stream. It may be given up before it
comes to either. -/
structure StreamRead where
  stream : Stream
  bytes : List UInt8
  completed : Bool
deriving DecidableEq, Repr

/-- What a read comes to in the middle of a line: the line that it ends, if it ends one, and what is
kept of the stream unless it is over. What a read has added is kept when it is given up. A completed
read of no bytes is the end of the stream, which makes a line of what is left if anything is. -/
def StreamRead.after (read : StreamRead) (buffered : List UInt8) :
    Option String × Option (List UInt8) :=
  let line := buffered ++ read.bytes
  if read.completed = false then (none, some line)
  else if read.bytes = [] then (if line = [] then none else some (Tracer.lineText line), none)
  else if line.getLast? = some 0x0A then (some (Tracer.lineText line), some [])
  else (none, some line)

namespace Reader

/-- Takes in one read, of a stream that is not over. -/
def take (reader : Reader) (read : StreamRead) : Option String × Reader :=
  match reader read.stream with
  | none => (none, reader)
  | some buffered =>
    ((read.after buffered).1, Function.update reader read.stream (read.after buffered).2)

/-- The lines that the calls for the next one yield over these reads, each with its stream, and the
reader after them. -/
def yielded : Reader → List StreamRead → List (Stream × String) × Reader
  | reader, [] => ([], reader)
  | reader, read :: reads =>
    let rest := yielded (reader.take read).2 reads
    ((reader.take read).1.toList.map (read.stream, ·) ++ rest.1, rest.2)

end Reader

/-- The lines of one stream among those of both. -/
def linesOf (stream : Stream) (lines : List (Stream × String)) : List String :=
  lines.filterMap fun (origin, line) => if origin = stream then some line else none

/-- Reads on a stream that read out the bytes still to come and then find its end. A read stops at a
line break, behind which the next one begins; one that comes to the end of the stream in the middle
of a line is completed with what there was, and the end is found by another. -/
inductive Exhausts (stream : Stream) : List UInt8 → List StreamRead → Prop
  | atEnd : Exhausts stream [] [⟨stream, [], true⟩]
  | line {body rest reads} : Tracer.Unfinished body → Exhausts stream rest reads →
      Exhausts stream (body ++ 0x0A :: rest) (⟨stream, body ++ [0x0A], true⟩ :: reads)
  | brokenOff {body reads} : Tracer.Unfinished body → body ≠ [] → Exhausts stream [] reads →
      Exhausts stream body (⟨stream, body, true⟩ :: reads)
  | givenUp {body rest reads} : Tracer.Unfinished body → Exhausts stream rest reads →
      Exhausts stream (body ++ rest) (⟨stream, body, false⟩ :: reads)

/-- Whatever is written to a stream, there are reads that read it out: one for each line. -/
theorem exists_exhausts (stream : Stream) (bytes : List UInt8) :
    ∃ reads, Exhausts stream bytes reads := by
  induction bytes using cut_induction (0x0A : UInt8) with
  | unended body h =>
    by_cases hne : body = []
    · rw [hne]
      exact ⟨_, .atEnd⟩
    · exact ⟨_, .brokenOff (beq_eq_false_of_not_mem h) hne .atEnd⟩
  | ended body rest h ih =>
    obtain ⟨reads, hreads⟩ := ih
    exact ⟨_, .line (beq_eq_false_of_not_mem h) hreads⟩

section Exhausts

variable {stream : Stream} {bytes : List UInt8} {reads : List StreamRead}

/-- They are reads of that stream only. -/
theorem Exhausts.stream_eq (h : Exhausts stream bytes reads) :
    ∀ read ∈ reads, read.stream = stream := by
  induction h with
  | atEnd => simp
  | line _ _ ih | brokenOff _ _ _ ih | givenUp _ _ ih => simpa using ih

theorem Exhausts.filter_eq (h : Exhausts stream bytes reads) (chosen : Stream) :
    reads.filter (·.stream = chosen) = if stream = chosen then reads else [] := by
  split
  · next heq =>
    refine List.filter_eq_self.mpr fun read hread => ?_
    simpa [heq] using h.stream_eq read hread
  · next hne =>
    refine List.filter_eq_nil_iff.mpr fun read hread => ?_
    simpa [h.stream_eq read hread] using hne

/-- Whatever is written to both streams, there are reads that read both out. -/
theorem exists_reads (output : Stream → List UInt8) : ∃ reads : List StreamRead,
    ∀ stream, Exhausts stream (output stream) (reads.filter (·.stream = stream)) := by
  obtain ⟨outs, houts⟩ := exists_exhausts .stdout (output .stdout)
  obtain ⟨errs, herrs⟩ := exists_exhausts .stderr (output .stderr)
  refine ⟨outs ++ errs, fun stream => ?_⟩
  rw [List.filter_append, houts.filter_eq, herrs.filter_eq]
  cases stream with
  | stdout => simpa using houts
  | stderr => simpa using herrs

end Exhausts

/-! ## One read -/

namespace StreamRead

variable (stream : Stream) (buffered : List UInt8) {body : List UInt8}

theorem after_line :
    (StreamRead.mk stream (body ++ [0x0A]) true).after buffered =
      (some (Tracer.lineText (buffered ++ body ++ [0x0A])), some []) := by
  simp [after]

theorem after_givenUp :
    (StreamRead.mk stream body false).after buffered = (none, some (buffered ++ body)) := by
  simp [after]

theorem after_brokenOff (h : Tracer.Unfinished body) (hne : body ≠ []) :
    (StreamRead.mk stream body true).after buffered = (none, some (buffered ++ body)) := by
  simp [after, hne, h.getLast?_ne]

variable {buffered}

theorem after_atEnd (h : Tracer.Unfinished buffered) :
    (StreamRead.mk stream [] true).after buffered = ((Tracer.lines buffered).head?, none) := by
  by_cases hne : buffered = []
  · simp [after, hne, Tracer.lines, segments]
  · rw [Tracer.lines_of_unfinished h hne]
    simp [after, hne]

end StreamRead

theorem Tracer.Unfinished.append {pending body : List UInt8} (h : Unfinished pending)
    (hbody : Unfinished body) : Unfinished (pending ++ body) :=
  List.forall_mem_append.mpr ⟨h, hbody⟩

/-! ## All reads -/

namespace Reader

variable {reader : Reader} {stream : Stream} {read : StreamRead} {reads : List StreamRead}

theorem take_of_some {buffered : List UInt8} (h : reader read.stream = some buffered) :
    reader.take read =
      ((read.after buffered).1, Function.update reader read.stream (read.after buffered).2) := by
  simp [take, h]

/-- A read on the one stream is no concern of the other. -/
theorem take_of_ne (reader : Reader) (h : read.stream ≠ stream) :
    (reader.take read).2 stream = reader stream := by
  unfold take
  split
  · rfl
  · exact Function.update_of_ne h.symm ..

theorem yielded_cons (reader : Reader) (read : StreamRead) (reads : List StreamRead) :
    reader.yielded (read :: reads) =
      ((reader.take read).1.toList.map (read.stream, ·) ++
          ((reader.take read).2.yielded reads).1, ((reader.take read).2.yielded reads).2) :=
  rfl

theorem linesOf_yielded_cons (reader : Reader) (read : StreamRead) (reads : List StreamRead) :
    linesOf stream (reader.yielded (read :: reads)).1 =
      (if read.stream = stream then (reader.take read).1.toList else []) ++
        linesOf stream ((reader.take read).2.yielded reads).1 := by
  rw [yielded_cons]
  by_cases h : read.stream = stream
  · cases (reader.take read).1 <;> simp [linesOf, h]
  · cases (reader.take read).1 <;> simp [linesOf, h]

/-- A stream on which nothing is read any more. -/
theorem yielded_of_filter_nil (reader : Reader) (h : reads.filter (·.stream = stream) = []) :
    linesOf stream (reader.yielded reads).1 = [] ∧
      (reader.yielded reads).2 stream = reader stream := by
  induction reads generalizing reader with
  | nil => exact ⟨rfl, rfl⟩
  | cons read reads ih =>
    rw [List.filter_eq_nil_iff, List.forall_mem_cons, decide_eq_true_eq] at h
    obtain ⟨hlines, hkept⟩ := ih (reader.take read).2 (List.filter_eq_nil_iff.mpr h.2)
    rw [linesOf_yielded_cons, if_neg h.1, hlines]
    exact ⟨rfl, hkept.trans (reader.take_of_ne h.1)⟩

/-- The lines that a stream still yields are those of what is kept of it and of the bytes to come.
By induction on all reads, those on the other stream included, with what is kept by then. -/
theorem yielded_of_exhausts {buffered bytes : List UInt8} (hkept : reader stream = some buffered)
    (hbuffered : Tracer.Unfinished buffered)
    (h : Exhausts stream bytes (reads.filter (·.stream = stream))) :
    linesOf stream (reader.yielded reads).1 = Tracer.lines (buffered ++ bytes) ∧
      (reader.yielded reads).2 stream = none := by
  induction reads generalizing reader buffered bytes with
  | nil => cases h
  | cons read reads ih =>
    rw [linesOf_yielded_cons]
    by_cases hstream : read.stream = stream
    · obtain ⟨origin, added, completed⟩ := read
      obtain rfl : origin = stream := hstream
      rw [List.filter_cons_of_pos (by simp)] at h
      rw [if_pos rfl, yielded_cons, take_of_some hkept]
      generalize hown : reads.filter (·.stream = origin) = own at h
      cases h with
      | atEnd =>
        obtain ⟨hlines, hend⟩ := yielded_of_filter_nil (Function.update reader origin none) hown
        rw [StreamRead.after_atEnd origin hbuffered]
        dsimp only
        rw [hlines, hend, Tracer.toList_head_lines hbuffered, List.append_nil, List.append_nil]
        exact ⟨rfl, Function.update_self ..⟩
      | line hbody hrest =>
        subst hown
        rw [StreamRead.after_line]
        dsimp only
        obtain ⟨hlines, hend⟩ := ih (Function.update_self origin _ reader)
          Tracer.unfinished_nil hrest
        rw [hlines, ← List.append_assoc, Tracer.lines_cut (hbuffered.append hbody)]
        exact ⟨rfl, hend⟩
      | brokenOff hbody hne hrest =>
        subst hown
        rw [StreamRead.after_brokenOff origin buffered hbody hne]
        dsimp only
        obtain ⟨hlines, hend⟩ := ih (Function.update_self origin _ reader)
          (hbuffered.append hbody) hrest
        rw [hlines, List.append_nil]
        exact ⟨rfl, hend⟩
      | givenUp hbody hrest =>
        subst hown
        rw [StreamRead.after_givenUp]
        dsimp only
        obtain ⟨hlines, hend⟩ := ih (Function.update_self origin _ reader)
          (hbuffered.append hbody) hrest
        rw [hlines, List.append_assoc]
        exact ⟨rfl, hend⟩
    · rw [List.filter_cons_of_neg (by simpa using hstream)] at h
      rw [if_neg hstream, yielded_cons]
      exact ih ((reader.take_of_ne hstream).trans hkept) hbuffered h

end Reader

/-- **Of each stream the session sees the lines of the bytes written to it**, whatever is written to
the other one in between. The lines are the texts of the segments of the bytes, one each, and make
up the text of all of them. They are not empty, have a line break at the end and nowhere else, and
only the last one has none, just if the bytes do not end with one. There are such reads for any
bytes (`exists_reads`). -/
theorem lines_of_stream {reads : List StreamRead} {output : Stream → List UInt8}
    (h : ∀ stream, Exhausts stream (output stream) (reads.filter (·.stream = stream))) :
    (Reader.yielded .fresh reads).2.isOver = true ∧
      ∀ stream,
        let bytes := output stream
        let yielded := linesOf stream (Reader.yielded .fresh reads).1
        let texts := yielded.map String.toList
        yielded = Tracer.lines bytes ∧
          Cuts 0x0A bytes (segments (· == 0x0A) bytes) ∧
          texts = (segments (· == 0x0A) bytes).map decodeLossy ∧
          Cuts '\n' (decodeLossy bytes) texts ∧
          ∀ last ∈ texts.getLast?, '\n' ∈ last ↔ bytes.getLast? = some 0x0A := by
  have hread (stream : Stream) :
      linesOf stream (Reader.yielded .fresh reads).1 = Tracer.lines (output stream) ∧
        (Reader.yielded .fresh reads).2 stream = none :=
    Reader.yielded_of_exhausts rfl Tracer.unfinished_nil (h stream)
  refine ⟨(Reading.isOver_iff _ .stdout).mpr ⟨(hread _).2, (hread _).2⟩, fun stream => ?_⟩
  dsimp only
  have htexts : (Tracer.lines (output stream)).map String.toList =
      (segments (· == 0x0A) (output stream)).map decodeLossy := by
    simp [Tracer.lines, Tracer.lineText, Function.comp_def]
  rw [(hread stream).1, htexts]
  have hbytes := cuts_segments 0x0A (output stream)
  refine ⟨rfl, hbytes, rfl, cuts_decodeLossy _, ?_⟩
  intro last hlast
  rw [List.getLast?_map, Option.mem_def, Option.map_eq_some_iff] at hlast
  obtain ⟨segment, hsegment, rfl⟩ := hlast
  rw [newline_mem_decodeLossy_iff]
  exact hbytes.mem_getLast_iff hsegment

/-- One stream breaks off in the middle of a character and of its last line, reads on it are given
up, and the other stream is over before. -/
theorem lines_of_stream_interleaved :
    let reads : List StreamRead :=
      [⟨.stderr, [0xE2], false⟩, ⟨.stdout, [0x61, 0x0A], true⟩, ⟨.stderr, [0x0A], true⟩,
        ⟨.stdout, [], true⟩, ⟨.stderr, [0x68], false⟩, ⟨.stderr, [0x69], true⟩,
        ⟨.stderr, [], true⟩]
    let yields := Reader.yielded .fresh reads
    yields.2.isOver = true ∧ linesOf .stdout yields.1 = ["a\n"] ∧
      linesOf .stderr yields.1 = ["\uFFFD\n", "hi"] := by
  intro reads yields
  have hunfinished : ∀ b ∈ [0xE2, 0x61, 0x68, 0x69], Tracer.Unfinished [b] := by
    simp [Tracer.Unfinished]
  have hread (stream : Stream) : Exhausts stream
      (if stream = .stdout then [0x61, 0x0A] else [0xE2, 0x0A, 0x68, 0x69])
      (reads.filter (·.stream = stream)) := by
    cases stream with
    | stdout => exact .line (hunfinished 0x61 (by simp)) .atEnd
    | stderr =>
      refine .givenUp (hunfinished 0xE2 (by simp)) (.line Tracer.unfinished_nil ?_)
      refine .givenUp (hunfinished 0x68 (by simp)) ?_
      exact .brokenOff (hunfinished 0x69 (by simp)) (by simp) .atEnd
  obtain ⟨hover, hlines⟩ := lines_of_stream hread
  exact ⟨hover, (hlines .stdout).1.trans (by decide), (hlines .stderr).1.trans (by decide)⟩

end TraceRelay
