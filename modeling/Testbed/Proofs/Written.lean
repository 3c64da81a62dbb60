import Testbed.Json.Grammar
import Testbed.Json.Printer

/-!
# What is written is one of the layouts

The writers of this format have one layout for every value, and it is one of those that
the format allows. A character is written in one of three ways: it stands for itself, it is
escaped by a letter, or it is escaped by four digits. A container has every part on a line
of its own, so the blanks in front of a part and in front of the closing bracket are those
of a new line, and nothing stands between a part and its comma.
-/

namespace Testbed.Json

variable {α : Type}

/-! ## Characters and strings -/

/-- A control character that has no short escape is written with four digits. -/
theorem hexQuad_controlCharacter {n : Nat} (hn : n < 32) :
    HexQuad ['0', '0', (n / 16).digitChar, (n % 16).digitChar] n := by
  have hdigit {d : Nat} (hd : d < 16) : IsHexDigit d.digitChar d := ⟨hd, .inl rfl⟩
  have hzero : IsHexDigit '0' 0 := hdigit (by decide)
  have hvalue : ((0 * 16 + 0) * 16 + n / 16) * 16 + n % 16 = n := by omega
  have hquad := HexQuad.mk hzero hzero (hdigit (by omega : n / 16 < 16))
    (hdigit (by omega : n % 16 < 16))
  rwa [hvalue] at hquad

theorem writesChar_escaped (c : Char) : WritesChar (escaped c) c := by
  rw [escaped.eq_def]
  split
  iterate 7 exact .short (by decide)
  next hquote hbackslash _ _ _ _ _ =>
  split
  next hcontrol => exact .unit (hexQuad_controlCharacter hcontrol)
  next hcontrol => exact .plain hquote hbackslash hcontrol

theorem writesString_printString (s : String) : WritesString (printString s) s := by
  refine ⟨s.toList.map escaped, ?_, rfl⟩
  exact List.forall₂_map_left_iff.mpr (List.forall₂_same.mpr fun c _ => writesChar_escaped c)

/-! ## Containers -/

theorem blank_newLine (depth : Nat) : Blank (newLine depth) := by
  intro c hc
  rcases List.mem_cons.mp hc with rfl | hc
  · rfl
  · rw [List.eq_of_mem_replicate hc]
    rfl

theorem separated_newLines (depth : Nat) (part : List Char) (parts : List (List Char)) :
    Separated (part :: parts)
      ([','].intercalate ((part :: parts).map (newLine (depth + 1) ++ ·)) ++ newLine depth) := by
  induction parts generalizing part with
  | nil =>
    have hlast : Separated [part] (newLine (depth + 1) ++ (part ++ newLine depth)) :=
      .last (blank_newLine _) (blank_newLine _)
    simpa using hlast
  | cons next parts ih =>
    have hcons : Separated (part :: next :: parts)
        (newLine (depth + 1) ++ (part ++ ([] ++ ',' :: _))) :=
      .cons (blank_newLine _) blank_nil (ih next)
    simpa using hcons

theorem enclosed_printParts (container : Container) (depth : Nat) (parts : List (List Char)) :
    Enclosed container parts (printParts container.opening container.closing depth parts) := by
  cases parts with
  | nil => exact .empty blank_nil
  | cons part parts =>
    rw [printParts, List.isEmpty_cons, if_neg Bool.false_ne_true]
    exact .parts (separated_newLines depth part parts)

theorem writesList_printList {Writes : List Char → α → Prop} {print : α → List Char}
    (hitem : ∀ x, Writes (print x) x) (depth : Nat) (xs : List α) :
    WritesList Writes (printList depth (xs.map print)) xs := by
  refine ⟨xs.map print, enclosed_printParts .list depth _, ?_⟩
  exact List.forall₂_map_left_iff.mpr (List.forall₂_same.mpr fun x _ => hitem x)

theorem writesMember_printMember (m : String × List Char) :
    WritesMember (printMember m.1 m.2) m := by
  refine ⟨printString m.1, [], [' '], writesString_printString m.1, blank_nil, by decide, ?_⟩
  simp [printMember]

theorem writesObject_printObject (depth : Nat) (ms : List (String × List Char)) :
    WritesObject (printObject depth (ms.map fun m => printMember m.1 m.2)) ms := by
  refine ⟨_, enclosed_printParts .object depth _, ?_⟩
  exact List.forall₂_map_left_iff.mpr (List.forall₂_same.mpr fun m _ => writesMember_printMember m)

/-- A record that is written has no members but its own. -/
theorem writesRecord_printObject (keys : List String) (depth : Nat)
    (ms : List (String × List Char)) :
    WritesRecord keys (printObject depth (ms.map fun m => printMember m.1 m.2)) ms :=
  ⟨ms, [], writesObject_printObject depth ms, .of_eq (List.append_nil ms).symm,
    fun _ h => nomatch h⟩

end Testbed.Json
