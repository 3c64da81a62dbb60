import Testbed.Command
import Testbed.Sink
import Testbed.Text.Utf8

/-!
# Writers with limited room

A writer takes bytes until its room is used up. What does not fit is written as
far as it goes, and then the write has failed; the room is gone, so nothing is
written after that. As a sink of operations it writes the command of each on a
line of its own, which makes a complete run write the script of the plan.
-/

namespace Testbed

inductive WriteFailure where
  | full
  deriving DecidableEq

def WriteFailure.message : WriteFailure → String
  | full => "failed to write whole buffer"

structure Writer where
  written : List UInt8 := []
  /-- How many more bytes fit; `none` if there is no limit. -/
  room : Option Nat := none
  deriving DecidableEq

namespace Writer

def write (w : Writer) (bytes : List UInt8) : Except WriteFailure Unit × Writer :=
  match w.room with
  | none => (.ok (), { w with written := w.written ++ bytes })
  | some n =>
    if bytes.length ≤ n then
      (.ok (), { written := w.written ++ bytes, room := some (n - bytes.length) })
    else
      (.error .full, { written := w.written ++ bytes.take n, room := some 0 })

def sink : Sink WriteFailure Writer where
  apply op := fun w => w.write (Text.bytes ((Command.ofOperation op).line ++ "\n"))

variable {w : Writer}

theorem write_nil (w : Writer) : w.write [] = (.ok (), w) := by
  rcases w with ⟨written, _ | room⟩
  · simp [write]
  · simp [write]

/-- It makes no difference whether bytes are written in one piece or in two. -/
theorem write_append (w : Writer) (xs ys : List UInt8) :
    w.write (xs ++ ys) =
      match w.write xs with
      | (.ok (), next) => next.write ys
      | (.error e, next) => (.error e, next) := by
  rcases w with ⟨written, _ | room⟩
  · simp [write]
  · by_cases hfits : xs.length ≤ room
    · have hrest : (xs ++ ys).length ≤ room ↔ ys.length ≤ room - xs.length := by
        rw [List.length_append]
        omega
      simp only [write, hrest, if_pos hfits]
      split
      · simp [Nat.sub_sub]
      · simp [List.take_append, List.take_of_length_le hfits]
    · have hlong : ¬ (xs ++ ys).length ≤ room := by
        rw [List.length_append]
        omega
      simp only [write, if_neg hfits, if_neg hlong]
      rw [List.take_append_of_le_length (Nat.le_of_not_le hfits)]

theorem write_of_le_room {bytes : List UInt8} (h : ∀ n ∈ w.room, bytes.length ≤ n) :
    w.write bytes =
      (.ok (), { written := w.written ++ bytes, room := w.room.map (· - bytes.length) }) := by
  rcases w with ⟨written, _ | n⟩
  · rfl
  · exact if_pos (h n rfl)

/-- Writing the commands one by one is writing their script. -/
theorem run_takeAll_sink (n : Nat) (ops : List Operation) (w : Writer) :
    (sink.takeAll n ops).run.run w =
      match w.write (Text.bytes (script ops)) with
      | (.ok (), next) => (.ok (n + ops.length), next)
      | (.error e, next) => (.error e, next) := by
  induction ops generalizing n w with
  | nil =>
    have hbytes : Text.bytes (script []) = [] := rfl
    rw [Sink.run_takeAll_nil, hbytes, write_nil]
    rfl
  | cons op ops ih =>
    have happly : (sink.apply op).run.run w =
        w.write (Text.bytes ((Command.ofOperation op).line ++ "\n")) := rfl
    have hbytes : Text.bytes (script (op :: ops)) =
        Text.bytes ((Command.ofOperation op).line ++ "\n") ++ Text.bytes (script ops) := by
      rw [script_cons, Text.bytes_append]
    rw [Sink.run_takeAll_cons, happly, hbytes, write_append]
    rcases w.write (Text.bytes ((Command.ofOperation op).line ++ "\n")) with ⟨_ | _, next⟩
    · rfl
    · simp only [ih, List.length_cons, Nat.add_comm ops.length, Nat.add_assoc]

end Writer

end Testbed
