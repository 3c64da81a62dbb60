import Testbed.Writer

/-!
# What a writer without enough room is left with

A dry run that runs out of room has printed the beginning of the script and nothing else.
Where the limit falls does not matter: in the middle of a line, inside the bytes of one
character, or between a line and the line feed that ends it.

The last of these is why it is not enough to look at one command as one write. A printer
may well hand over a line and its line feed separately, and it stops between the two if
only the line fits. So the statement is about all ways of cutting each command into
pieces. They come to the same because a writer that has refused a piece has no room left,
and what was written until then is as much as would have been written of the whole
(`Writer.write_append`).
-/

namespace Testbed

/-- The bytes of a text are those of its standard encoding. -/
theorem Text.bytes_eq_toUTF8 (s : String) : bytes s = s.toUTF8.data.toList := by
  have hencoded : s.toUTF8 = s.toList.utf8Encode := by
    rw [← String.toByteArray_ofList, String.ofList_toList]
    rfl
  rw [hencoded, List.utf8Encode, List.toList_data_toByteArray, bytes]

namespace Writer

variable {cut : Operation → List (List UInt8)}

/-- Writes the pieces one after the other, up to the first that does not fit. -/
def writeAll (w : Writer) : List (List UInt8) → Except WriteFailure Unit × Writer
  | [] => (.ok (), w)
  | piece :: pieces =>
    match w.write piece with
    | (.ok (), next) => next.writeAll pieces
    | (.error e, next) => (.error e, next)

/-- As a sink of operations that hands over each command in pieces. -/
def piecewise (cut : Operation → List (List UInt8)) : Sink WriteFailure Writer where
  apply op := fun w => w.writeAll (cut op)

theorem writeAll_eq_write (w : Writer) (pieces : List (List UInt8)) :
    w.writeAll pieces = w.write pieces.flatten := by
  induction pieces generalizing w with
  | nil => exact (write_nil w).symm
  | cons piece pieces ih =>
    rw [writeAll, List.flatten_cons, write_append]
    rcases w.write piece with ⟨_ | _, next⟩
    · rfl
    · exact ih next

/-- The pieces do not show in what is written, or in whether it fits. -/
theorem piecewise_eq_sink
    (hcut : ∀ op, (cut op).flatten = Text.bytes ((Command.ofOperation op).line ++ "\n")) :
    piecewise cut = sink := by
  have happly : (piecewise cut).apply = sink.apply := by
    funext op w
    exact (writeAll_eq_write w (cut op)).trans (by rw [hcut]; rfl)
  rw [piecewise, sink, Sink.mk.injEq]
  exact ⟨happly, rfl⟩

/-- A single write, with room for `limit` bytes. -/
theorem write_limited (limit : Nat) (text : List UInt8) :
    ({ room := some limit } : Writer).write text =
      (if text.length ≤ limit then .ok () else .error .full,
        { written := text.take (min limit text.length),
          room := some (limit - text.length) }) := by
  by_cases hfits : text.length ≤ limit
  · rw [if_pos hfits, Nat.min_eq_right hfits, List.take_length]
    exact if_pos hfits
  · have hlong : limit ≤ text.length := Nat.le_of_not_le hfits
    rw [if_neg hfits, Nat.min_eq_left hlong, Nat.sub_eq_zero_of_le hlong]
    exact if_neg hfits

end Writer

/-- A dry run with room for `limit` bytes prints as much of the script as fits, to the
byte, and it succeeds if and only if that is all of it. In which pieces it hands over the
line of a command makes no difference. -/
theorem provision_writer_exact (t : Topology) (limit : Nat) :
    Text.bytes (script t.plan) = (script t.plan).toUTF8.data.toList ∧
    (provision t Writer.sink).run.run { room := some limit } =
      (if (Text.bytes (script t.plan)).length ≤ limit then .ok t.plan.length else .error .full,
        { written :=
            (Text.bytes (script t.plan)).take (min limit (Text.bytes (script t.plan)).length),
          room := some (limit - (Text.bytes (script t.plan)).length) }) ∧
    ∀ cut : Operation → List (List UInt8),
      (∀ op, (cut op).flatten = Text.bytes ((Command.ofOperation op).line ++ "\n")) →
      (provision t (Writer.piecewise cut)).run.run { room := some limit } =
        (provision t Writer.sink).run.run { room := some limit } := by
  refine ⟨Text.bytes_eq_toUTF8 _, ?_, fun cut hcut => ?_⟩
  · rw [Sink.provision_eq_takeAll, Writer.run_takeAll_sink, Writer.write_limited, Nat.zero_add]
    by_cases hfits : (Text.bytes (script t.plan)).length ≤ limit
    · simp only [if_pos hfits]
    · simp only [if_neg hfits]
  · rw [Writer.piecewise_eq_sink hcut]

/-- The line feeds are handed over separately, and the room ends with the fifteen bytes of
the first line. -/
theorem provision_writer_exact_firstLine :
    (∀ op, [Text.bytes (Command.ofOperation op).line, Text.bytes "\n"].flatten =
      Text.bytes ((Command.ofOperation op).line ++ "\n")) ∧
    (provision ⟨[], ["é"], []⟩ (Writer.piecewise fun op =>
        [Text.bytes (Command.ofOperation op).line, Text.bytes "\n"])).run.run
        { room := some 15 } =
      (.error .full, { written := Text.bytes "ip netns add é", room := some 0 }) := by
  have hcut (op : Operation) : [Text.bytes (Command.ofOperation op).line,
      Text.bytes "\n"].flatten = Text.bytes ((Command.ofOperation op).line ++ "\n") := by simp
  obtain ⟨-, hexact, hpieces⟩ := provision_writer_exact ⟨[], ["é"], []⟩ 15
  have hplan : Topology.plan ⟨[], ["é"], []⟩ = Plan.segment "é" := rfl
  have hline : (Command.ofOperation (.createNamespace "é")).line = "ip netns add é" := by
    decide +kernel
  have hlength : (Text.bytes "ip netns add é").length = 15 := by decide +kernel
  have hlong : 15 < (Text.bytes (script (Plan.segment "é"))).length := by
    rw [Plan.segment, script_cons, hline, Text.bytes_append, Text.bytes_append,
      List.length_append, List.length_append, hlength]
    exact Nat.lt_add_right _ (Nat.lt_add_one 15)
  have hfirst : (Text.bytes (script (Plan.segment "é"))).take 15 = Text.bytes "ip netns add é" := by
    rw [Plan.segment, script_cons, hline, Text.bytes_append, Text.bytes_append,
      List.append_assoc, ← hlength, List.take_left]
  refine ⟨hcut, ?_⟩
  rw [hpieces _ hcut, hexact, hplan, if_neg (Nat.not_le_of_lt hlong),
    Nat.min_eq_left (Nat.le_of_lt hlong), hfirst, Nat.sub_eq_zero_of_le (Nat.le_of_lt hlong)]

end Testbed
