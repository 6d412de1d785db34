import EpicKfc.Source.Client.CommandRouter

/-!
# Quoted arguments

A command line with every argument in double quotes, and a backslash before each
quote and backslash in it, is parsed to the command and these arguments. Of Qt's
text functions only their behaviour on ASCII is used.
-/

namespace EpicKfc.Guarantees.CommandQuoting
open EpicKfc.Source.Client
open EpicKfc.Source.Client.SlashCommandParser

/-! ## Rendering -/

def escapedChar (char : Char) : List Char :=
  if char = '"' ∨ char = '\\' then ['\\', char] else [char]

def quoted (argument : String) : List Char :=
  '"' :: argument.toList.flatMap escapedChar ++ ['"']

def commandLine (name : String) (arguments : List String) : String :=
  String.ofList ('/' :: name.toList ++ arguments.flatMap fun argument => ' ' :: quoted argument)

/-! ## The tokenizer -/

variable {text : TextLibrary} (done : List String)

theorem tokens_escaped (argument : List Char) : ∀ current : List Char,
    (argument.flatMap escapedChar).foldl (Tokens.next text) ⟨done, current, true, false⟩ =
      ⟨done, current ++ argument, true, false⟩ := by
  induction argument with
  | nil => simp
  | cons char rest ih =>
    intro current
    have one : (escapedChar char).foldl (Tokens.next text) ⟨done, current, true, false⟩ =
        ⟨done, current ++ [char], true, false⟩ := by
      unfold escapedChar
      split
      · simp [Tokens.next]
      · next plain =>
        rw [not_or] at plain
        simp [Tokens.next, plain.1, plain.2]
    rw [List.flatMap_cons, List.foldl_append, one, ih]
    simp

theorem tokens_quoted (argument : String) :
    (quoted argument).foldl (Tokens.next text) ⟨done, [], false, false⟩ =
      ⟨done, argument.toList, false, false⟩ := by
  have opened : Tokens.next text ⟨done, [], false, false⟩ '"' = ⟨done, [], true, false⟩ := by
    simp [Tokens.next]
  rw [quoted, List.cons_append, List.foldl_cons, opened, List.foldl_append, tokens_escaped]
  simp [Tokens.next]

/-- The arguments after a first one, each pushed at the space after it. -/
theorem tokens_arguments (space : text.isSpace ' ' = true) (arguments : List String)
    (nonempty : ∀ argument ∈ arguments, argument ≠ "") :
    ∀ (done : List String) (current : String), current ≠ "" →
      ∃ tokens : Tokens, (arguments.flatMap fun argument => ' ' :: quoted argument).foldl
          (Tokens.next text) ⟨done, current.toList, false, false⟩ = tokens ∧
        tokens.inQuote = false ∧ tokens.escaping = false ∧
        tokens.finished = done ++ current :: arguments := by
  induction arguments with
  | nil =>
    intro done current some'
    refine ⟨_, rfl, rfl, rfl, ?_⟩
    simp [Tokens.finished, some']
  | cons argument rest ih =>
    intro done current some'
    have pushed : Tokens.next text ⟨done, current.toList, false, false⟩ ' ' =
        ⟨done ++ [current], [], false, false⟩ := by
      simp [Tokens.next, Tokens.finished, space, some']
    rw [List.flatMap_cons, List.cons_append, List.foldl_cons, pushed, List.foldl_append,
      tokens_quoted]
    obtain ⟨tokens, same, unquoted, unescaped, finished⟩ :=
      ih (fun later member => nonempty later (List.mem_cons_of_mem _ member))
        (done ++ [current]) argument (nonempty argument List.mem_cons_self)
    refine ⟨tokens, same, unquoted, unescaped, ?_⟩
    rw [finished, List.append_assoc]
    rfl

theorem tokenize_arguments (space : text.isSpace ' ' = true) {first : String} {rest : List String}
    (nonempty : ∀ argument ∈ first :: rest, argument ≠ "") :
    tokenizeArguments text (quoted first ++ rest.flatMap fun argument => ' ' :: quoted argument) =
      .ok (first :: rest) := by
  obtain ⟨tokens, same, unquoted, unescaped, finished⟩ := tokens_arguments space rest
    (fun later member => nonempty later (List.mem_cons_of_mem _ member)) [] first
    (nonempty first List.mem_cons_self)
  have scanned : (quoted first ++ rest.flatMap fun argument => ' ' :: quoted argument).foldl
      (Tokens.next text) {} = tokens := by
    rw [List.foldl_append, tokens_quoted]
    exact same
  rw [tokenizeArguments, scanned]
  simp only [unquoted, unescaped, Bool.false_eq_true, if_false]
  exact congrArg Except.ok finished

/-! ## The line -/

/-- The names of the commands are lower-case letters. -/
theorem letters_of_name {name : String} {type : CommandType} (known : (name, type) ∈ commandLookup) :
    name ≠ "" ∧ ∀ char ∈ name.toList, 'a' ≤ char ∧ char ≤ 'z' := by
  have all : (commandLookup.all fun entry => entry.1 ≠ "" &&
      entry.1.toList.all fun char => 'a' ≤ char && char ≤ 'z') = true := by
    decide
  have entry := List.all_eq_true.mp all (name, type) known
  simpa using entry

/-- Each name has one command. -/
theorem find_name {name : String} {type : CommandType} (known : (name, type) ∈ commandLookup) :
    (commandLookup.find? fun entry => entry.1 = name).map Prod.snd = some type := by
  have all : ∀ entry ∈ commandLookup,
      (commandLookup.find? fun other => other.1 = entry.1).map Prod.snd = some entry.2 := by
    decide
  exact all (name, type) known

theorem printable_of_letter {char : Char} (letter : 'a' ≤ char ∧ char ≤ 'z') :
    0x20 < char.toNat ∧ char.toNat < 128 := by
  have low : 'a'.toNat ≤ char.toNat := letter.1
  have high : char.toNat ≤ 'z'.toNat := letter.2
  have bounds : 'a'.toNat = 97 ∧ 'z'.toNat = 122 := by decide
  omega

section Line
variable (qt : QtText text) {name : String} {type : CommandType}
  (known : (name, type) ∈ commandLookup)
include qt known

theorem trimmed_commandLine (arguments : List String) :
    text.trimmed (commandLine name arguments) = commandLine name arguments := by
  obtain ⟨nonempty, letters⟩ := letters_of_name known
  have quote := (qt.isSpace_printable (by decide : 0x20 < '"'.toNat ∧ '"'.toNat < 128)).1
  have slash := (qt.isSpace_printable (by decide : 0x20 < '/'.toNat ∧ '/'.toNat < 128)).1
  apply qt.trimmed_eq
  · simp [commandLine, slash]
  · intro char last
    rw [commandLine, String.toList_ofList] at last
    rcases arguments.eq_nil_or_concat with rfl | ⟨earlier, final, rfl⟩
    · have member := List.mem_of_getLast? last
      rw [List.flatMap_nil, List.append_nil, List.mem_cons] at member
      rcases member with rfl | letter
      · exact slash
      · exact (qt.isSpace_printable (printable_of_letter (letters char letter))).1
    · have closed : ∃ before, '/' :: name.toList ++ (earlier ++ [final]).flatMap
          (fun argument => ' ' :: quoted argument) = before ++ ['"'] := by
        refine ⟨'/' :: name.toList ++ (earlier.flatMap fun argument => ' ' :: quoted argument) ++
          ' ' :: '"' :: final.toList.flatMap escapedChar, ?_⟩
        simp [quoted]
      obtain ⟨before, same⟩ := closed
      rw [List.concat_eq_append, same, List.getLast?_concat, Option.mem_some_iff] at last
      exact last ▸ quote

theorem commandTypeFromName_known :
    text.toLower name = name ∧ commandTypeFromName text name = some type := by
  obtain ⟨nonempty, letters⟩ := letters_of_name known
  have plain : ∀ char ∈ name.toList, text.isSpace char = false := fun char member =>
    (qt.isSpace_printable (printable_of_letter (letters char member))).1
  have lower := qt.toLower name letters
  refine ⟨lower, ?_⟩
  rw [commandTypeFromName, qt.trimmed_eq (fun char first => plain char (List.mem_of_head? first))
    fun char last => plain char (List.mem_of_getLast? last), lower]
  exact find_name known

/-- Parsing inverts quoting. -/
theorem parse_commandLine {arguments : List String}
    (nonempty : ∀ argument ∈ arguments, argument ≠ "") :
    parse text (commandLine name arguments) =
      .ok ⟨type, name, arguments, commandLine name arguments⟩ := by
  obtain ⟨named, letters⟩ := letters_of_name known
  obtain ⟨lower, found⟩ := commandTypeFromName_known qt known
  have spaceless : ' ' ∉ '/' :: name.toList := by
    rw [List.mem_cons, not_or]
    refine ⟨by decide, fun member => ?_⟩
    exact (qt.isSpace_printable (printable_of_letter (letters ' ' member))).2 rfl
  rw [parse, trimmed_commandLine qt known]
  cases arguments with
  | nil =>
    have chars : (commandLine name []).toList = '/' :: name.toList := by simp [commandLine]
    have unspaced : ('/' :: name.toList).contains ' ' = false := by simpa using spaceless
    simp only [chars, unspaced]
    simp [lower, named, found, Except.map]
  | cons first rest =>
    have chars : (commandLine name (first :: rest)).toList = '/' :: name.toList ++ ' ' ::
        (quoted first ++ rest.flatMap fun argument => ' ' :: quoted argument) := by
      simp [commandLine]
    have spaced : (commandLine name (first :: rest)).toList.contains ' ' = true := by
      simp [chars]
    have place : (commandLine name (first :: rest)).toList.idxOf ' ' = name.toList.length + 1 := by
      rw [chars, List.idxOf_append_of_notMem spaceless, List.idxOf_cons_self, List.length_cons]
    have space : text.isSpace ' ' = true := by
      rw [qt.isSpace ' ' (by decide)]
      rfl
    have tokens := tokenize_arguments space nonempty
    simp only [spaced, place]
    simp only [chars]
    simp [lower, named, found, Except.map, tokens]

end Line

/-! ## A line with quotes and a backslash in it -/

theorem parse_commandLine_send :
    parse asciiText (commandLine "send" ["bob", "say \"hi\\\" "]) =
      .ok ⟨.send, "send", ["bob", "say \"hi\\\" "],
        "/send \"bob\" \"say \\\"hi\\\\\\\" \""⟩ :=
  parse_commandLine qtText_asciiText (by decide) (by decide)

end EpicKfc.Guarantees.CommandQuoting
