import Testbed.Proofs.Arguments
import Testbed.Proofs.Scripts

/-!
# Commands that are typed into a shell

A line of a script is meant to be what one would type to run the command. A shell makes
words of what is typed: it cuts at spaces that are not between double quotes, drops the
quotes, and gives a meaning of its own to some characters, more of them outside quotes
than inside. If it meets one of those it does not just make words, and the reader here
gives up (`words`).

Lines are written by one rule, which looks for spaces. So an argument comes back if and
only if it holds no double quote and none of the characters with a meaning in the place
where the rule puts it (`words_line_eq_self_iff`). Not all arguments of valid topologies
do. A name may hold any of these characters and is never put between quotes, as it has no
space; and the loop of a setting is, but it holds a dollar sign, which has a meaning
between quotes too.

Nothing else is in the way. Addresses, and the names that are made from names, are
literal if the declared names are (`isLiteral_fields_iff`), and a reader to whom the
dollar sign means nothing between quotes gets the settings back as well.

Reading goes from left to right with what has been read so far, as `Reading`. That is
what the lemmas on one argument and on a whole command are about, since a command is read
after other words and the end of a line does nothing that a space would not do.
-/

namespace Testbed

namespace Shell

/-! ## Making words -/

/-- The characters with a meaning outside quotes, beside the space and the quote. -/
def interpreted : List Char := "|&;<>()$`\\'*?[#~".toList

/-- The characters with a meaning between quotes, beside the quote. -/
def interpretedInQuotes : List Char := "$`\\".toList

/-- None of the marks is among the characters. -/
def Avoids (cs marks : List Char) : Prop :=
  ∀ c ∈ cs, c ∉ marks

instance (cs marks : List Char) : Decidable (Avoids cs marks) :=
  List.decidableBAll _ _

theorem avoids_cons {c : Char} {cs marks : List Char} :
    Avoids (c :: cs) marks ↔ c ∉ marks ∧ Avoids cs marks :=
  List.forall_mem_cons

/-- How far a line has been read. -/
structure Reading where
  words : List String := []
  /-- The word that has been begun. -/
  word : Option (List Char) := none
  quoted : Bool := false

namespace Reading

def extend (r : Reading) (c : Char) : Reading :=
  { r with word := some (r.word.getD [] ++ [c]) }

/-- The words up to here. -/
def cut (r : Reading) : List String :=
  r.words ++ (r.word.map String.ofList).toList

/-- Reads one more character; `inQuotes` are the characters that are not accepted between
quotes. -/
def step (inQuotes : List Char) (r : Reading) (c : Char) : Option Reading :=
  if c = '"' then some { r with word := some (r.word.getD []), quoted := !r.quoted }
  else if r.quoted then
    if c ∈ inQuotes then none else some (r.extend c)
  else if c = ' ' then some { words := r.cut }
  else if c ∈ interpreted then none
  else some (r.extend c)

/-- Reads up to the first character that is not accepted. -/
def read (inQuotes : List Char) (r : Reading) (cs : List Char) : Option Reading :=
  cs.foldlM (step inQuotes) r

/-- The words of a line that ends here. -/
def finish (r : Reading) : Option (List String) :=
  if r.quoted then none else some r.cut

end Reading

/-- The words that a line is read as, if nothing in it means more than itself. -/
def words (inQuotes : List Char) (line : String) : Option (List String) :=
  (Reading.read inQuotes {} line.toList).bind Reading.finish

variable {inQuotes cs : List Char} {c : Char} {r r' : Reading} {argument : String}
  {command : Command}

namespace Reading

@[simp]
theorem read_nil : r.read inQuotes [] = some r := rfl

@[simp]
theorem read_cons : r.read inQuotes (c :: cs) = (r.step inQuotes c).bind (read inQuotes · cs) :=
  List.foldlM_cons

@[simp]
theorem read_append {more : List Char} :
    r.read inQuotes (cs ++ more) = (r.read inQuotes cs).bind (read inQuotes · more) :=
  List.foldlM_append

/-! ## No word has a quote in it -/

structure Unquoting (r : Reading) : Prop where
  words : ∀ w ∈ r.words, '"' ∉ w.toList
  word : '"' ∉ r.word.getD []

theorem Unquoting.cut (h : r.Unquoting) : ∀ w ∈ r.cut, '"' ∉ w.toList := by
  intro w hw
  rw [Reading.cut, List.mem_append, Option.mem_toList, Option.map_eq_some_iff] at hw
  rcases hw with hw | ⟨cs, hcs, rfl⟩
  · exact h.words w hw
  · have hword := h.word
    rw [hcs, Option.getD_some] at hword
    rwa [String.toList_ofList]

theorem Unquoting.step (h : r.Unquoting) (hstep : r.step inQuotes c = some r') :
    r'.Unquoting := by
  have hextend (hquote : c ≠ '"') : (r.extend c).Unquoting := by
    refine ⟨h.words, ?_⟩
    simp only [extend, Option.getD_some, List.mem_append, List.mem_singleton, not_or]
    exact ⟨h.word, hquote.symm⟩
  rw [Reading.step] at hstep
  split_ifs at hstep with hquote hquoted hin hspace hout
  · cases hstep
    exact ⟨h.words, h.word⟩
  · cases hstep
    exact hextend hquote
  · cases hstep
    exact ⟨h.cut, List.not_mem_nil⟩
  · cases hstep
    exact hextend hquote

theorem Unquoting.read (h : r.Unquoting) (hread : r.read inQuotes cs = some r') :
    r'.Unquoting := by
  induction cs generalizing r with
  | nil =>
    cases hread
    exact h
  | cons c cs ih =>
    rw [read_cons] at hread
    obtain ⟨next, hstep, hrest⟩ := Option.bind_eq_some_iff.mp hread
    exact ih (h.step hstep) hrest

end Reading

theorem quote_not_mem_of_words {line : String} {ws : List String}
    (h : words inQuotes line = some ws) : ∀ w ∈ ws, '"' ∉ w.toList := by
  obtain ⟨r, hread, hfinish⟩ := Option.bind_eq_some_iff.mp h
  have hr : r.Unquoting :=
    Reading.Unquoting.read ⟨fun _ hw => absurd hw List.not_mem_nil, List.not_mem_nil⟩ hread
  rw [Reading.finish] at hfinish
  split at hfinish
  · cases hfinish
  · cases hfinish
    exact hr.cut

/-! ## What becomes of an argument -/

namespace Reading

/-- The characters that are not accepted where the reading has come to. -/
def refused (inQuotes : List Char) (r : Reading) : List Char :=
  if r.quoted then inQuotes else interpreted

theorem step_eq_ite (hquote : c ≠ '"') (hspace : r.quoted = false → c ≠ ' ') :
    r.step inQuotes c = if c ∈ r.refused inQuotes then none else some (r.extend c) := by
  rw [step, if_neg hquote]
  cases hquoted : r.quoted with
  | true => simp [refused, hquoted]
  | false => simp [refused, hquoted, hspace hquoted]

/-- Characters that neither quote nor cut are added to the word, unless one is refused. -/
theorem read_eq_ite (hquote : '"' ∉ cs) (hspace : r.quoted = false → ' ' ∉ cs) :
    r.read inQuotes cs =
      if Avoids cs (r.refused inQuotes) then
        some { r with word := if cs = [] then r.word else some (r.word.getD [] ++ cs) }
      else none := by
  induction cs generalizing r with
  | nil => rfl
  | cons c cs ih =>
    rw [List.mem_cons, not_or] at hquote
    have hc : r.quoted = false → c ≠ ' ' := fun hquoted =>
      Ne.symm (List.ne_of_not_mem_cons (hspace hquoted))
    rw [read_cons, step_eq_ite (Ne.symm hquote.1) hc]
    by_cases hrefused : c ∈ r.refused inQuotes
    · rw [if_pos hrefused, if_neg fun hall => hall c List.mem_cons_self hrefused]
      rfl
    · have hrest := ih (r := r.extend c) hquote.2 fun hquoted =>
        List.not_mem_of_not_mem_cons (hspace hquoted)
      have hword : (if cs = [] then (r.extend c).word
          else some ((r.extend c).word.getD [] ++ cs)) = some (r.word.getD [] ++ c :: cs) := by
        cases cs with
        | nil => rfl
        | cons c' cs =>
          rw [if_neg (List.cons_ne_nil _ _), extend, Option.getD_some, List.append_assoc]
          rfl
      rw [if_neg hrefused, Option.bind_some, hrest, hword, if_neg (List.cons_ne_nil c cs)]
      simp only [avoids_cons, hrefused, not_false_eq_true, true_and]
      rfl

end Reading

/-- Nothing in the argument has a meaning where the argument is put on the line. -/
def Passes (inQuotes : List Char) (argument : String) : Prop :=
  Avoids argument.toList (if ' ' ∈ argument.toList then inQuotes else interpreted)

instance (inQuotes : List Char) : DecidablePred (Passes inQuotes) := fun argument =>
  inferInstanceAs (Decidable (Avoids argument.toList
    (if ' ' ∈ argument.toList then inQuotes else interpreted)))

/-- The word that an argument is read as. There is none where an empty argument was. -/
theorem read_word (hquote : '"' ∉ argument.toList) (before : List String) :
    Reading.read inQuotes { words := before } (Command.word argument).toList =
      if Passes inQuotes argument then
        some { words := before, word := if argument = "" then none else some argument.toList }
      else none := by
  rw [Command.toList_word]
  by_cases hspace : ' ' ∈ argument.toList
  · have hne : argument.toList ≠ [] := List.ne_nil_of_mem hspace
    have hinside : Reading.read inQuotes ⟨before, some [], true⟩ argument.toList =
        if Avoids argument.toList inQuotes then some ⟨before, some argument.toList, true⟩
        else none := by
      rw [Reading.read_eq_ite hquote Bool.noConfusion, if_neg hne]
      rfl
    have hopen : Reading.step inQuotes { words := before } '"' = some ⟨before, some [], true⟩ := rfl
    rw [if_pos hspace, List.cons_append, Reading.read_cons, hopen, Option.bind_some,
      Reading.read_append, hinside, if_neg (mt String.toList_eq_nil_iff.mpr hne)]
    simp only [Passes, if_pos hspace]
    by_cases hpass : Avoids argument.toList inQuotes
    · rw [if_pos hpass, if_pos hpass]
      rfl
    · rw [if_neg hpass, if_neg hpass]
      rfl
  · simp only [Passes, if_neg hspace, ← String.toList_eq_nil_iff]
    exact Reading.read_eq_ite hquote fun _ => hspace

/-! ## What becomes of a command -/

theorem Reading.finish_step_space : (r.step inQuotes ' ').bind Reading.finish = r.finish := by
  cases hquoted : r.quoted with
  | true =>
    rw [step, if_neg (by decide), if_pos hquoted, finish, if_pos hquoted]
    split
    · rfl
    · exact if_pos hquoted
  | false => simp [step, finish, hquoted, cut]

/-- The end of a line does what a space would do. -/
theorem words_eq_read_append_space (inQuotes : List Char) (line : String) :
    words inQuotes line =
      (Reading.read inQuotes {} (line.toList ++ [' '])).bind Reading.finish := by
  rw [words, Reading.read_append]
  cases Reading.read inQuotes {} line.toList with
  | none => rfl
  | some r =>
    rw [Option.bind_some, Option.bind_some, Reading.read_cons]
    simp only [Reading.read_nil, Option.bind_fun_some, Reading.finish_step_space]

theorem toList_line_append_space (hne : command ≠ []) :
    command.line.toList ++ [' '] =
      command.flatMap fun argument => (Command.word argument).toList ++ [' '] := by
  induction command with
  | nil => exact absurd rfl hne
  | cons argument command ih =>
    cases command with
    | nil => simp [Command.toList_line]
    | cons next command =>
      have hrest := ih (List.cons_ne_nil _ _)
      rw [List.flatMap_cons, ← hrest]
      simp [Command.toList_line, List.intercalate_cons_cons]

/-- A command without quotes is read word by word. -/
theorem read_flatMap_word (hquote : ∀ argument ∈ command, '"' ∉ argument.toList)
    (before : List String) :
    Reading.read inQuotes { words := before }
        (command.flatMap fun argument => (Command.word argument).toList ++ [' ']) =
      if ∀ argument ∈ command, Passes inQuotes argument then
        some { words := before ++ command.filter (· ≠ "") }
      else none := by
  induction command generalizing before with
  | nil => simp
  | cons argument command ih =>
    rw [List.forall_mem_cons] at hquote
    rw [List.flatMap_cons, Reading.read_append, Reading.read_append, read_word hquote.1]
    by_cases hpass : Passes inQuotes argument
    · have hcut : Reading.step inQuotes
          ⟨before, if argument = "" then none else some argument.toList, false⟩ ' ' =
            some { words := before ++ [argument].filter (· ≠ "") } := by
        by_cases hempty : argument = ""
        · simp [Reading.step, Reading.cut, hempty]
        · simp [Reading.step, Reading.cut, hempty]
      rw [if_pos hpass, Option.bind_some, Reading.read_cons, hcut, Option.bind_some,
        Reading.read_nil, Option.bind_some, ih hquote.2, List.append_assoc, ← List.filter_append]
      simp only [List.forall_mem_cons, hpass, true_and, List.singleton_append]
    · rw [if_neg hpass, if_neg fun hall => hpass (hall argument List.mem_cons_self)]
      rfl

/-- What is read off the line of a command, if its arguments hold no quotes. -/
theorem words_line_eq_ite (hne : command ≠ [])
    (hquote : ∀ argument ∈ command, '"' ∉ argument.toList) :
    words inQuotes command.line =
      if ∀ argument ∈ command, Passes inQuotes argument then some (command.filter (· ≠ ""))
      else none := by
  rw [words_eq_read_append_space, toList_line_append_space hne, read_flatMap_word hquote,
    List.nil_append]
  by_cases hpass : ∀ argument ∈ command, Passes inQuotes argument
  · rw [if_pos hpass, if_pos hpass]
    simp [Reading.finish, Reading.cut]
  · rw [if_neg hpass, if_neg hpass]
    rfl

/-- A command is read off its line if and only if all its arguments are words that pass. -/
theorem words_line_eq_self_iff (hne : command ≠ []) :
    words inQuotes command.line = some command ↔
      ∀ argument ∈ command, argument ≠ "" ∧ '"' ∉ argument.toList ∧ Passes inQuotes argument := by
  constructor
  · intro hwords
    have hquote := quote_not_mem_of_words hwords
    rw [words_line_eq_ite hne hquote] at hwords
    split at hwords
    case isTrue hpass =>
      rw [Option.some.injEq, List.filter_eq_self] at hwords
      intro argument hmem
      exact ⟨of_decide_eq_true (hwords argument hmem), hquote argument hmem, hpass argument hmem⟩
    case isFalse => cases hwords
  · intro hall
    rw [words_line_eq_ite hne fun argument hmem => (hall argument hmem).2.1,
      if_pos fun argument hmem => (hall argument hmem).2.2, Option.some.injEq, List.filter_eq_self]
    exact fun argument hmem => decide_eq_true (hall argument hmem).1

/-! ## What becomes of the commands of a plan -/

/-- The text has no character with a meaning in it, so that it stands for itself. -/
def IsLiteral (s : String) : Prop :=
  Avoids s.toList ('"' :: interpreted)

instance : DecidablePred IsLiteral := fun s =>
  inferInstanceAs (Decidable (Avoids s.toList ('"' :: interpreted)))

/-- An argument that is not put between quotes is read back if it is literal. -/
theorem quote_not_mem_and_passes_iff (hspace : ' ' ∉ argument.toList) :
    '"' ∉ argument.toList ∧ Passes inQuotes argument ↔ IsLiteral argument := by
  rw [Passes, if_neg hspace]
  constructor
  · rintro ⟨hquote, hpass⟩ c hc
    rw [List.mem_cons, not_or]
    exact ⟨fun heq => hquote (heq ▸ hc), hpass c hc⟩
  · intro hliteral
    exact ⟨fun hquote => hliteral _ hquote List.mem_cons_self, fun c hc =>
      List.not_mem_of_not_mem_cons (hliteral c hc)⟩

/-- The loops of the two settings, which are the only arguments between quotes. -/
def settingLoops : List String :=
  [Command.settingLoop "1" "forwarding", Command.settingLoop "0" "rp_filter"]

variable {op : Operation}

theorem exists_settingLoop_mem (hsetting : op.isSetting = true) :
    ∃ loop ∈ settingLoops, loop ∈ Command.ofOperation op := by
  cases op with
  | enableForwarding ns =>
    refine ⟨_, List.mem_cons_self, ?_⟩
    simp [Command.ofOperation, Command.inNamespace]
  | disableReversePathFilter ns =>
    refine ⟨_, List.mem_cons_of_mem _ List.mem_cons_self, ?_⟩
    simp [Command.ofOperation, Command.inNamespace]
  | _ => cases hsetting

theorem words_line_ofOperation_eq_self_iff {accepted : Prop}
    (hfields : ∀ field ∈ op.fields, field ≠ "" ∧ ' ' ∉ field.toList)
    (hloops : ∀ loop ∈ settingLoops, Passes inQuotes loop ↔ accepted) :
    words inQuotes (Command.ofOperation op).line = some (Command.ofOperation op) ↔
      (op.isSetting = true → accepted) ∧ ∀ field ∈ op.fields, IsLiteral field := by
  have hown : ∀ word ∈ Command.ownWords, word ≠ "" ∧ '"' ∉ word.toList ∧
      (word ∈ settingLoops ∨ ' ' ∉ word.toList ∧ IsLiteral word) := by
    decide +kernel
  have hspaced : ∀ loop ∈ settingLoops, ' ' ∈ loop.toList := by decide +kernel
  rw [words_line_eq_self_iff (Command.ofOperation_ne_nil op)]
  constructor
  · intro hall
    refine ⟨fun hsetting => ?_, fun field hfield => ?_⟩
    · obtain ⟨loop, hloop, hmem⟩ := exists_settingLoop_mem hsetting
      exact (hloops loop hloop).mp (hall loop hmem).2.2
    · exact (quote_not_mem_and_passes_iff (hfields field hfield).2).mp
        (hall field (Command.mem_ofOperation hfield)).2
  · rintro ⟨hsetting, hliteral⟩ argument hmem
    by_cases hfield : argument ∈ op.fields
    · obtain ⟨hne, hspace⟩ := hfields argument hfield
      exact ⟨hne, (quote_not_mem_and_passes_iff hspace).mpr (hliteral argument hfield)⟩
    · have hword := (Command.mem_fields_or_ownWords hmem).resolve_left hfield
      obtain ⟨hne, hquote, hloop | ⟨hspace, hplain⟩⟩ := hown argument hword
      · refine ⟨hne, hquote, (hloops argument hloop).mpr (hsetting ?_)⟩
        -- Outside of settings, an argument with a space is one of the texts.
        by_contra hnot
        have hkept := Command.mem_fields_or_no_space (Bool.eq_false_of_not_eq_true hnot) hmem
        exact (hkept.resolve_left hfield).2 (hspaced argument hloop)
      · exact ⟨hne, (quote_not_mem_and_passes_iff hspace).mpr hplain⟩

end Shell

/-! ## The plan of a valid topology -/

namespace Topology

open Shell

variable {t : Topology}

/-- Whether the texts of a plan are literal is decided by the declared names. -/
theorem WellFormed.isLiteral_fields_iff (hw : t.WellFormed) :
    (∀ op ∈ t.plan, ∀ field ∈ op.fields, IsLiteral field) ↔
      ∀ name ∈ t.namespaces, IsLiteral name := by
  constructor
  · intro hfields name hname
    obtain ⟨before, after, hsplit⟩ := List.append_of_mem hname
    obtain ⟨done, rest, hplan, -, -⟩ := exists_plan_eq_append hsplit
    refine hfields (.createNamespace name) ?_ name (List.mem_singleton.mpr rfl)
    rw [hplan]
    exact List.mem_append_right done List.mem_cons_self
  · intro hnames op hop field hfield c hc
    have hdigits : ('"' :: interpreted).all (fun mark => !mark.isDigit) = true := by decide
    have hown : Avoids "br0-./".toList ('"' :: interpreted) := by decide
    rcases hw.mem_toList_field hop hfield hc with ⟨name, hname, hc⟩ | hdigit | hc
    · exact hnames name hname c hc
    · intro hmark
      have hnot := List.all_eq_true.mp hdigits c hmark
      rw [hdigit] at hnot
      cases hnot
    · exact hown c hc

/-- What comes of it if the plan of a valid topology is typed into a shell. A command is read
as it was meant if and only if its texts are literal and it is not that of a setting; all that
is wrong with the settings is the dollar sign in their loops. The texts are literal if and
only if the declared names are. -/
theorem words_line_of_mem_plan_iff (hv : t.validate = .ok ()) :
    (∀ op ∈ t.plan,
      (words interpretedInQuotes (Command.ofOperation op).line = some (Command.ofOperation op) ↔
        op.isSetting = false ∧ ∀ field ∈ op.fields, IsLiteral field) ∧
      (words (interpretedInQuotes.erase '$') (Command.ofOperation op).line =
          some (Command.ofOperation op) ↔
        ∀ field ∈ op.fields, IsLiteral field)) ∧
    ((∀ op ∈ t.plan, ∀ field ∈ op.fields, IsLiteral field) ↔
      ∀ name ∈ t.namespaces, IsLiteral name) := by
  have hw : t.WellFormed := validate_eq_ok_iff.mp hv
  refine ⟨fun op hop => ?_, hw.isLiteral_fields_iff⟩
  have hfields : ∀ field ∈ op.fields, field ≠ "" ∧ ' ' ∉ field.toList := fun field hfield =>
    ⟨(hw.isPlainArgument hop hfield).ne_empty, hw.not_mem_fields (by decide) op hop field hfield⟩
  have hrefused : ∀ loop ∈ settingLoops, Passes interpretedInQuotes loop ↔ False := by
    decide +kernel
  have haccepted : ∀ loop ∈ settingLoops, Passes (interpretedInQuotes.erase '$') loop ↔ True := by
    decide +kernel
  rw [words_line_ofOperation_eq_self_iff hfields hrefused,
    words_line_ofOperation_eq_self_iff hfields haccepted, imp_false, imp_true_iff, true_and,
    Bool.not_eq_true]
  exact ⟨Iff.rfl, Iff.rfl⟩

theorem words_line_of_mem_plan_iff_twoRouterLan :
    twoRouterLan.validate = .ok () ∧
      (.assign "Y" "Y-X" "10.0.1.1/31" ∈ twoRouterLan.plan ∧
        words interpretedInQuotes "ip netns exec Y ip addr add 10.0.1.1/31 dev Y-X" =
          some ["ip", "netns", "exec", "Y", "ip", "addr", "add", "10.0.1.1/31", "dev", "Y-X"]) ∧
      (.enableForwarding "Y" ∈ twoRouterLan.plan ∧
        words interpretedInQuotes (Command.ofOperation (.enableForwarding "Y")).line ≠
          some (Command.ofOperation (.enableForwarding "Y"))) ∧
      ∀ op ∈ twoRouterLan.plan, ∀ field ∈ op.fields, IsLiteral field := by
  have hv : twoRouterLan.validate = .ok () := rfl
  obtain ⟨hwords, hfields⟩ := words_line_of_mem_plan_iff hv
  have hassign : .assign "Y" "Y-X" "10.0.1.1/31" ∈ twoRouterLan.plan := by decide
  have hforward : .enableForwarding "Y" ∈ twoRouterLan.plan := by decide
  have hliteral := hfields.mpr (by decide)
  have hline : (Command.ofOperation (.assign "Y" "Y-X" "10.0.1.1/31")).line =
      "ip netns exec Y ip addr add 10.0.1.1/31 dev Y-X" := by decide +kernel
  have hread := (hwords _ hassign).1.mpr ⟨rfl, hliteral _ hassign⟩
  rw [hline] at hread
  refine ⟨hv, ⟨hassign, hread⟩, ⟨hforward, fun heq => ?_⟩, hliteral⟩
  cases ((hwords _ hforward).1.mp heq).1

/-- A segment whose name ends one command and begins another. -/
def semicolonNamed : Topology where
  segments := ["a;b"]

theorem words_line_semicolonNamed :
    semicolonNamed.validate = .ok () ∧ .createNamespace "a;b" ∈ semicolonNamed.plan ∧
      (Command.ofOperation (.createNamespace "a;b")).line = "ip netns add a;b" ∧
      words interpretedInQuotes "ip netns add a;b" ≠ some ["ip", "netns", "add", "a;b"] := by
  refine ⟨rfl, by decide, by decide +kernel, by decide +kernel⟩

end Topology

end Testbed
