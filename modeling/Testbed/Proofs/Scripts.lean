import Testbed.Proofs.Fields
import Testbed.Text.Lines
import Testbed.Text.Pieces

/-!
# What can be read off a script

A script is commands on lines, and a line is words with a space between them. Two
things are in the way of taking it for that. A text with a line feed in it takes up two
lines, and a text with a space is put between quotes but looks inside like more words. If
no text of the operations holds either, they are unbroken, and the script says which they
were. This is said by a decoder, and it is exact (`decodeScript_eq_some_iff`): a text is
decoded if it is the script of unbroken operations, and it is never decoded to others.

The reading is done by words. Cutting a line at its spaces cuts each argument by itself
(`pieces_line`), which leaves a command as it is but for the loop of a setting, and that
falls into the same words every time. So commands and lines are taken apart by one
decoder, which is told into what the loops have fallen (`decodeWith`). It goes by the
words that every command has of its own, at fixed places. A text may well be one of these
words too, such as an interface called `up`; it is then the words after it that decide.
-/

namespace Testbed

variable {op op' : Operation} {ops ops' : List Operation}

namespace Command

variable {command : Command} {argument : String}

/-! ## The characters of a line -/

theorem toList_line (command : Command) :
    command.line.toList =
      [' '].intercalate (command.map fun argument => (word argument).toList) := by
  rw [line, String.toList_intercalate, List.map_map]
  rfl

theorem toList_word (argument : String) :
    (word argument).toList =
      if ' ' ∈ argument.toList then '"' :: argument.toList ++ ['"'] else argument.toList := by
  rw [word]
  split
  · simp [String.toList_append]
  · rfl

theorem mem_line {c : Char} (hc : c ∈ command.line.toList) :
    c = ' ' ∨ c = '"' ∨ ∃ argument ∈ command, c ∈ argument.toList := by
  rw [toList_line] at hc
  rcases Text.eq_or_mem_of_mem_intercalate hc with hspace | ⟨p, hp, hc⟩
  · exact .inl hspace
  · obtain ⟨argument, hargument, rfl⟩ := List.mem_map.mp hp
    rw [toList_word] at hc
    split at hc
    · rw [List.cons_append, List.mem_cons, List.mem_append, List.mem_singleton] at hc
      rcases hc with hquote | hc | hquote
      · exact .inr (.inl hquote)
      · exact .inr (.inr ⟨argument, hargument, hc⟩)
      · exact .inr (.inl hquote)
    · exact .inr (.inr ⟨argument, hargument, hc⟩)

theorem mem_line_of_mem {c : Char} (hargument : argument ∈ command) (hc : c ∈ argument.toList) :
    c ∈ command.line.toList := by
  have hword : c ∈ (word argument).toList := by
    rw [toList_word]
    split
    · exact List.mem_append_left _ (List.mem_cons_of_mem _ hc)
    · exact hc
  rw [toList_line]
  exact Text.mem_intercalate_of_mem (List.mem_map_of_mem hargument) hword

theorem newline_not_mem_line (h : ∀ field ∈ op.fields, '\n' ∉ field.toList) :
    '\n' ∉ (ofOperation op).line.toList := by
  have hown : ∀ word ∈ ownWords, '\n' ∉ word.toList := by decide +kernel
  intro hmem
  rcases mem_line hmem with hspace | hquote | ⟨argument, hargument, hc⟩
  · exact absurd hspace (by decide)
  · exact absurd hquote (by decide)
  · rcases mem_fields_or_ownWords hargument with hfield | hword
    · exact h argument hfield hc
    · exact hown argument hword hc

/-! ## Taking commands apart -/

/-- The operation whose command inside a namespace has these words. -/
def decodeInside (forwarding filter : List String) (ns : String) : List String → Option Operation
  | ["ip", "link", "add", "name", bridge, "type", "bridge"] => some (.createBridge ns bridge)
  | ["ip", "link", "set", "up", "dev", interface] => some (.setUp ns interface)
  | ["ip", "link", "set", interface, "master", bridge] => some (.attach ns interface bridge)
  | ["ip", "addr", "add", address, "dev", interface] => some (.assign ns interface address)
  | "bash" :: "-c" :: loop =>
    if loop = forwarding then some (.enableForwarding ns)
    else if loop = filter then some (.disableReversePathFilter ns)
    else none
  | _ => none

/-- The operation whose command has these words, where the loops of the two settings have
become these lists of words. -/
def decodeWith (forwarding filter : List String) : List String → Option Operation
  | ["ip", "netns", "add", name] => some (.createNamespace name)
  | ["ip", "link", "add", left, "type", "veth", "peer", "name", right] =>
    some (.createVethPair left right)
  | ["ip", "link", "set", interface, "netns", ns] => some (.move interface ns)
  | "ip" :: "netns" :: "exec" :: ns :: inside => decodeInside forwarding filter ns inside
  | _ => none

/-- The words of an operation's command, where the loops of the two settings have become
these lists of words. -/
def wordsWith (forwarding filter : List String) : Operation → List String
  | .enableForwarding ns => inNamespace ns (["bash", "-c"] ++ forwarding)
  | .disableReversePathFilter ns => inNamespace ns (["bash", "-c"] ++ filter)
  | op => ofOperation op

theorem mem_wordsWith {forwarding filter : List String} {field : String}
    (hfield : field ∈ op.fields) : field ∈ wordsWith forwarding filter op := by
  cases op with
  | enableForwarding ns =>
    obtain rfl : field = ns := List.mem_singleton.mp hfield
    simp [wordsWith, inNamespace]
  | disableReversePathFilter ns =>
    obtain rfl : field = ns := List.mem_singleton.mp hfield
    simp [wordsWith, inNamespace]
  | _ => exact mem_ofOperation hfield

theorem wordsWith_of_decodeInside {forwarding filter words : List String} {ns : String}
    (h : decodeInside forwarding filter ns words = some op) :
    wordsWith forwarding filter op = inNamespace ns words := by
  unfold decodeInside at h
  split at h
  case h_5 =>
    split at h
    · next hloop =>
      cases h
      rw [hloop]
      rfl
    · split at h
      · next hloop =>
        cases h
        rw [hloop]
        rfl
      · cases h
  all_goals
    cases h
    try rfl

/-- What is decoded is what the words are of, and nothing is decoded from other words. -/
theorem decodeWith_eq_some_iff {forwarding filter words : List String}
    (hapart : forwarding ≠ filter) :
    decodeWith forwarding filter words = some op ↔ wordsWith forwarding filter op = words := by
  constructor
  · intro h
    unfold decodeWith at h
    split at h
    case h_4 => exact wordsWith_of_decodeInside h
    all_goals
      cases h
      try rfl
  · rintro rfl
    cases op
    all_goals simp [wordsWith, ofOperation, inNamespace, decodeWith, decodeInside, hapart.symm]

/-- The words that a setting falls into: the words before its loop, and those of the loop. -/
theorem flatMap_setting {spell : String → List String} {ns : String}
    (hwords : ∀ word, ' ' ∉ word.toList → spell word = [word]) (hns : spell ns = [ns])
    (value file : String) :
    (inNamespace ns ["bash", "-c", settingLoop value file]).flatMap spell =
      inNamespace ns (["bash", "-c"] ++ spell (settingLoop value file)) := by
  have hfront : ∀ argument ∈ ["ip", "netns", "exec", ns, "bash", "-c"],
      spell argument = [argument] := by
    intro argument hmem
    -- The namespace may be called like any other word, or hold a space.
    by_cases heq : argument = ns
    · rw [heq, hns]
    · have hkept : ∀ word ∈ ["ip", "netns", "exec", "bash", "-c"], ' ' ∉ word.toList := by decide
      refine hwords argument (hkept argument ?_)
      simp only [List.mem_cons, List.not_mem_nil, or_false] at hmem ⊢
      tauto
  show (["ip", "netns", "exec", ns, "bash", "-c"] ++ [settingLoop value file]).flatMap spell = _
  rw [List.flatMap_append, Text.flatMap_eq_self hfront, List.flatMap_singleton]
  rfl

/-- A spelling of arguments that keeps the texts and the words without a space changes
nothing but the loops. -/
theorem flatMap_ofOperation {spell : String → List String}
    (hwords : ∀ word, ' ' ∉ word.toList → spell word = [word])
    (hfields : ∀ field ∈ op.fields, spell field = [field]) :
    (ofOperation op).flatMap spell =
      wordsWith (spell (settingLoop "1" "forwarding"))
        (spell (settingLoop "0" "rp_filter")) op := by
  have hkept (hsetting : op.isSetting = false) : (ofOperation op).flatMap spell = ofOperation op :=
    Text.flatMap_eq_self fun argument hmem =>
      (mem_fields_or_no_space hsetting hmem).elim (hfields argument) fun hword =>
        hwords argument hword.2
  cases op with
  | enableForwarding ns =>
    exact flatMap_setting hwords (hfields ns (List.mem_singleton.mpr rfl)) _ _
  | disableReversePathFilter ns =>
    exact flatMap_setting hwords (hfields ns (List.mem_singleton.mpr rfl)) _ _
  | _ => exact hkept rfl

/-! ## Taking lines apart -/

/-- The words that an argument takes up on a line. -/
def spelled (argument : String) : List String :=
  (Text.pieces ' ' (word argument).toList).map String.ofList

theorem spelled_of_not_mem (h : ' ' ∉ argument.toList) : spelled argument = [argument] := by
  rw [spelled, toList_word, if_neg h, Text.pieces_of_not_mem h, List.map_singleton,
    String.ofList_toList]

theorem pieces_line (hne : command ≠ []) :
    (Text.pieces ' ' command.line.toList).map String.ofList = command.flatMap spelled := by
  have hparts : command.map (fun argument => (word argument).toList) ≠ [] :=
    mt List.map_eq_nil_iff.mp hne
  rw [toList_line, Text.pieces_intercalate_eq_flatMap hparts, List.flatMap_map, List.map_flatMap]
  rfl

def decodeLine (line : List Char) : Option Operation :=
  decodeWith (spelled (settingLoop "1" "forwarding")) (spelled (settingLoop "0" "rp_filter"))
    ((Text.pieces ' ' line).map String.ofList)

theorem decodeLine_eq_some_iff {line : List Char} :
    decodeLine line = some op ↔
      (ofOperation op).line.toList = line ∧ ∀ field ∈ op.fields, ' ' ∉ field.toList := by
  have hapart : spelled (settingLoop "1" "forwarding") ≠ spelled (settingLoop "0" "rp_filter") := by
    decide +kernel
  have hspelled (hfields : ∀ field ∈ op.fields, ' ' ∉ field.toList) :
      (Text.pieces ' ' (ofOperation op).line.toList).map String.ofList =
        wordsWith (spelled (settingLoop "1" "forwarding")) (spelled (settingLoop "0" "rp_filter"))
          op := by
    rw [pieces_line (ofOperation_ne_nil op)]
    exact flatMap_ofOperation (fun _ => spelled_of_not_mem) fun field hfield =>
      spelled_of_not_mem (hfields field hfield)
  rw [decodeLine, decodeWith_eq_some_iff hapart]
  constructor
  · intro hwords
    have hfields : ∀ field ∈ op.fields, ' ' ∉ field.toList := by
      intro field hfield
      obtain ⟨p, hp, rfl⟩ := List.mem_map.mp (hwords ▸ mem_wordsWith hfield)
      rw [String.toList_ofList]
      exact (Text.of_mem_pieces hp).1
    have hpieces : Text.pieces ' ' (ofOperation op).line.toList = Text.pieces ' ' line :=
      List.map_injective_iff.mpr (fun _ _ => String.ofList_inj.mp) ((hspelled hfields).trans hwords)
    refine ⟨?_, hfields⟩
    rw [← Text.intercalate_pieces ' ' line, ← hpieces, Text.intercalate_pieces]
  · rintro ⟨rfl, hfields⟩
    exact (hspelled hfields).symm

end Command

/-! ## Scripts -/

theorem toList_script_cons (op : Operation) (ops : List Operation) :
    (script (op :: ops)).toList =
      (Command.ofOperation op).line.toList ++ '\n' :: (script ops).toList := by
  simp [script_cons, String.toList_append]

/-- The lines of a script are the commands, in order. -/
theorem lines_script (h : ∀ op ∈ ops, ∀ field ∈ op.fields, '\n' ∉ field.toList) :
    Text.lines (script ops).toList = ops.map fun op => (Command.ofOperation op).line.toList := by
  induction ops with
  | nil => rfl
  | cons op ops ih =>
    rw [List.forall_mem_cons] at h
    rw [toList_script_cons, Text.lines_append_newline (Command.newline_not_mem_line h.1), ih h.2,
      List.map_cons]

/-- A script is the lines of its commands with a line feed between them, and an empty line
at the end. -/
theorem toList_script (ops : List Operation) :
    (script ops).toList =
      ['\n'].intercalate ((ops.map fun op => (Command.ofOperation op).line.toList) ++ [[]]) := by
  induction ops with
  | nil => rfl
  | cons op ops ih =>
    have hne : (ops.map fun op => (Command.ofOperation op).line.toList) ++ [[]] ≠ [] :=
      List.append_ne_nil_of_right_ne_nil _ (List.cons_ne_nil _ _)
    rw [toList_script_cons, ih, List.map_cons, List.cons_append,
      List.intercalate_cons_of_ne_nil hne, List.append_assoc, List.singleton_append]

/-- The texts of the operation hold no space and no line feed. -/
def Operation.Unbroken (op : Operation) : Prop :=
  ∀ field ∈ op.fields, ' ' ∉ field.toList ∧ '\n' ∉ field.toList

instance (op : Operation) : Decidable op.Unbroken :=
  inferInstanceAs (Decidable (∀ field ∈ op.fields, ' ' ∉ field.toList ∧ '\n' ∉ field.toList))

/-- The operations that a text is the script of, if there are any whose texts are unbroken. -/
def decodeScript (text : String) : Option (List Operation) :=
  if (Text.pieces '\n' text.toList).getLast? = some [] then
    (Text.pieces '\n' text.toList).dropLast.mapM Command.decodeLine
  else none

theorem mapM_eq_some_iff {α β : Type} {f : α → Option β} {xs : List α} {ys : List β} :
    xs.mapM f = some ys ↔ List.Forall₂ (fun x y => f x = some y) xs ys := by
  induction xs generalizing ys with
  | nil => simp [eq_comm]
  | cons x xs ih =>
    rw [List.forall₂_cons_left_iff]
    simp only [List.mapM_cons, Option.bind_eq_bind, Option.bind_eq_some_iff, Option.pure_def,
      Option.some.injEq, ih]
    constructor
    · rintro ⟨y, hy, rest, hrest, rfl⟩
      exact ⟨y, rest, hy, hrest, rfl⟩
    · rintro ⟨y, rest, hy, hrest, rfl⟩
      exact ⟨y, hy, rest, hrest, rfl⟩

/-- Lines are decoded to the operations whose commands they are. -/
theorem mapM_decodeLine_eq_some_iff {lines : List (List Char)} :
    lines.mapM Command.decodeLine = some ops ↔
      lines = (ops.map fun op => (Command.ofOperation op).line.toList) ∧
        ∀ op ∈ ops, ∀ field ∈ op.fields, ' ' ∉ field.toList := by
  simp only [mapM_eq_some_iff, Command.decodeLine_eq_some_iff]
  constructor
  · intro hlines
    induction hlines with
    | nil => simp
    | cons hline _ ih =>
      obtain ⟨rfl, hfields⟩ := hline
      exact ⟨by rw [List.map_cons, ← ih.1], List.forall_mem_cons.mpr ⟨hfields, ih.2⟩⟩
  · rintro ⟨rfl, hfields⟩
    rw [List.forall₂_map_left_iff]
    exact List.forall₂_same.mpr fun op hop => ⟨rfl, hfields op hop⟩

/-- A text is decoded if and only if it is the script of unbroken operations, and then to
these. -/
theorem decodeScript_eq_some_iff {text : String} :
    decodeScript text = some ops ↔ script ops = text ∧ ∀ op ∈ ops, op.Unbroken := by
  constructor
  · intro h
    rw [decodeScript] at h
    split at h
    · next hlast =>
      obtain ⟨hlines, hspace⟩ := mapM_decodeLine_eq_some_iff.mp h
      have hpieces := List.dropLast_append_getLast? _ hlast
      rw [hlines] at hpieces
      refine ⟨String.toList_inj.mp ?_, fun op hop field hfield => ⟨hspace op hop field hfield, ?_⟩⟩
      · rw [toList_script, hpieces, Text.intercalate_pieces]
      · have hline : (Command.ofOperation op).line.toList ∈ Text.pieces '\n' text.toList :=
          hpieces ▸ List.mem_append_left _ (List.mem_map_of_mem hop)
        exact fun hc => (Text.of_mem_pieces hline).1
          (Command.mem_line_of_mem (Command.mem_ofOperation hfield) hc)
    · cases h
  · rintro ⟨rfl, hops⟩
    have hpieces : Text.pieces '\n' (script ops).toList =
        (ops.map fun op => (Command.ofOperation op).line.toList) ++ [[]] := by
      rw [toList_script, Text.pieces_intercalate (List.append_ne_nil_of_right_ne_nil _
        (List.cons_ne_nil _ _))]
      refine List.forall_mem_append.mpr ⟨List.forall_mem_map.mpr fun op hop => ?_, by simp⟩
      exact Command.newline_not_mem_line fun field hfield => (hops op hop field hfield).2
    rw [decodeScript, hpieces, List.getLast?_concat, if_pos rfl, List.dropLast_concat]
    exact mapM_decodeLine_eq_some_iff.mpr ⟨rfl, fun op hop field hfield =>
      (hops op hop field hfield).1⟩

theorem eq_of_script_eq (hops : ∀ op ∈ ops, op.Unbroken) (hops' : ∀ op ∈ ops', op.Unbroken)
    (hscript : script ops = script ops') : ops = ops' := by
  have hread : decodeScript (script ops) = some ops := decodeScript_eq_some_iff.mpr ⟨rfl, hops⟩
  rw [hscript, decodeScript_eq_some_iff.mpr ⟨rfl, hops'⟩] at hread
  exact (Option.some.inj hread).symm

/-- A script of operations whose texts hold no space and no line feed is of no others. -/
theorem script_inj (hspace : ∀ op ∈ ops ++ ops', ∀ field ∈ op.fields, ' ' ∉ field.toList)
    (hnewline : ∀ op ∈ ops ++ ops', ∀ field ∈ op.fields, '\n' ∉ field.toList) :
    script ops = script ops' ↔ ops = ops' := by
  have hunbroken : ∀ op ∈ ops ++ ops', op.Unbroken := fun op hop field hfield =>
    ⟨hspace op hop field hfield, hnewline op hop field hfield⟩
  rw [List.forall_mem_append] at hunbroken
  exact ⟨eq_of_script_eq hunbroken.1 hunbroken.2, fun hops => by rw [hops]⟩

/-- Scripts of unbroken operations can be read back, line by line, and whatever text is read
back is such a script. -/
theorem script_uniquely_decodable :
    (∀ (text : String) (ops : List Operation),
      decodeScript text = some ops ↔ script ops = text ∧ ∀ op ∈ ops, op.Unbroken) ∧
    ∀ ops ops' : List Operation, (∀ op ∈ ops, op.Unbroken) → (∀ op ∈ ops', op.Unbroken) →
      (script ops = script ops' → ops = ops') ∧
      Text.lines (script ops).toList =
        ops.map fun op => (Command.ofOperation op).line.toList := by
  refine ⟨fun text ops => decodeScript_eq_some_iff, fun ops ops' hops hops' => ⟨?_, ?_⟩⟩
  · exact eq_of_script_eq hops hops'
  · exact lines_script fun op hop field hfield => (hops op hop field hfield).2

/-- Texts that are words of commands, or empty, or hold quotes. -/
theorem script_uniquely_decodable_keywords :
    (∀ op ∈ [Operation.setUp "exec" "up", .move "\"netns" "", .enableForwarding "bash"],
      op.Unbroken) ∧
    decodeScript
        (script [Operation.setUp "exec" "up", .move "\"netns" "", .enableForwarding "bash"]) =
      some [Operation.setUp "exec" "up", .move "\"netns" "", .enableForwarding "bash"] ∧
    script [Operation.setUp "exec" "up", .move "\"netns" "", .enableForwarding "bash"] ≠
      script [Operation.attach "exec" "up" "dev"] := by
  have hops : ∀ op ∈ [Operation.setUp "exec" "up", .move "\"netns" "", .enableForwarding "bash"],
      op.Unbroken := by decide
  have hops' : ∀ op ∈ [Operation.attach "exec" "up" "dev"], op.Unbroken := by decide
  obtain ⟨hexact, hdecodes⟩ := script_uniquely_decodable
  exact ⟨hops, (hexact _ _).mpr ⟨rfl, hops⟩,
    fun hscript => absurd ((hdecodes _ _ hops hops').1 hscript) (by decide)⟩

/-! With a space in a text, two different moves are printed alike. -/

example : script [.move "a\" netns \"b c" "d\""] = script [.move "\"a\"" "b c\" netns d"] := by
  decide +kernel

end Testbed
