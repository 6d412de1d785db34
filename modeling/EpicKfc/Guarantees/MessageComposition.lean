import EpicKfc.Source.Client.CommandOutcomes

/-!
# Composed messages

What is submitted is what was typed since the composition began: the lines in
order, without the blank ones, the client's own output and its prompt. Replies and
refreshed tokens that arrive meanwhile change nothing about it.
-/

namespace EpicKfc.Guarantees.MessageComposition
open EpicKfc.Lib
open EpicKfc.Source.Client ServiceFlow
open EpicKfc.Source.Client.CommandRouter

variable (configuration : Configuration) (text : TextLibrary)

/-- The lines that end a composition. -/
def Control (line : String) : Prop :=
  text.equalsIgnoringCase (text.trimmed line) "/send" = true ∨
    text.equalsIgnoringCase (text.trimmed line) "/cancel" = true ∨
    text.equalsIgnoringCase (text.trimmed line) "/back" = true

/-- What a typed line adds to the body, if anything. -/
def bodyLine (recipient line : String) : Option String :=
  let body := withoutConversationPromptEcho text line recipient
  if (text.trimmed body).isEmpty || isClientOutputEcho text body then none else some body

def bodyLines (recipient : String) (lines : List String) : List String :=
  lines.filterMap (bodyLine text recipient)

/-- A line that is not blank, no output of the client and begins with no prompt. -/
structure Verbatim (recipient line : String) : Prop where
  prompt : afterPrefix ("[" ++ recipient ++ "] >") line = none
  blank : text.trimmed line ≠ ""
  output : text.trimmed line ≠ "Sending message..."

def lineOf : ConsoleEvent → Option String
  | .line line => some line
  | .reply _ _ => none
  | .tokensUpdated _ => none

/-- The lines among the events of a run. -/
def typed (events : List (ConsoleEvent × ServiceAnswers)) : List String :=
  events.filterMap fun event => lineOf event.1

/-! ## Joining -/

theorem foldl_joined (parts : List String) : ∀ result : String, result ≠ "" →
    parts.foldl (fun result part =>
      (if result.isEmpty then result else result ++ "\n") ++ part) result =
        "\n".intercalate (result :: parts) := by
  induction parts with
  | nil => simp
  | cons part rest ih =>
    intro result some'
    have longer : result ++ "\n" ++ part ≠ "" := by simp
    rw [List.foldl_cons, if_neg (by simpa using some'), ih _ longer]
    simp [String.append_assoc]

/-- Lines that are not empty are joined by newlines. -/
theorem joinedLines_eq {lines : List String} (nonempty : ∀ line ∈ lines, line ≠ "") :
    joinedLines lines = "\n".intercalate lines := by
  cases lines with
  | nil => simp [joinedLines, joined]
  | cons first rest =>
    rw [joinedLines, joined, List.foldl_cons, if_pos (by simp), String.empty_append]
    exact foldl_joined rest first (nonempty first List.mem_cons_self)

variable {configuration text}

theorem trimmed_empty (qt : QtText text) : text.trimmed "" = "" := by
  rw [qt.trimmed]
  rfl

theorem bodyLine_ne_empty (qt : QtText text) {recipient line body : String}
    (kept : bodyLine text recipient line = some body) : body ≠ "" := by
  rintro rfl
  simp only [bodyLine] at kept
  split at kept
  · cases kept
  · next shown =>
    rw [Option.some.injEq] at kept
    simp [kept, trimmed_empty qt] at shown

/-- A prompt with a blank after it is one without. -/
theorem afterPrefix_prompt {recipient line : String}
    (none' : afterPrefix ("[" ++ recipient ++ "] >") line = none) :
    afterPrefix ("[" ++ recipient ++ "] > ") line = none := by
  unfold afterPrefix at none' ⊢
  split at none'
  · cases none'
  · next differs =>
    rw [if_neg]
    intro longer
    rw [List.isPrefixOf_iff_prefix] at differs longer
    refine differs (List.IsPrefix.trans ?_ longer)
    simp only [String.toList_append, List.append_assoc]
    rw [List.prefix_append_right_inj, List.prefix_append_right_inj]
    exact ⟨[' '], rfl⟩

theorem Verbatim.bodyLine_eq {recipient line : String} (verbatim : Verbatim text recipient line) :
    bodyLine text recipient line = some line := by
  have kept : withoutConversationPromptEcho text line recipient = line := by
    rw [withoutConversationPromptEcho, afterPrefix_prompt verbatim.prompt, verbatim.prompt]
    split
    · rfl
    · rfl
  rw [bodyLine, kept]
  simp [isClientOutputEcho, verbatim.blank, verbatim.output]

/-- Ordinary lines are the body as they are. -/
theorem bodyLines_verbatim {recipient : String} {lines : List String}
    (verbatim : ∀ line ∈ lines, Verbatim text recipient line) :
    bodyLines text recipient lines = lines := by
  induction lines with
  | nil => rfl
  | cons line rest ih =>
    rw [bodyLines, List.filterMap_cons_some (verbatim line List.mem_cons_self).bodyLine_eq]
    exact congrArg _ (ih fun later member => verbatim later (List.mem_cons_of_mem line member))

/-! ## Steps -/

/-- A composition for a recipient, with the lines it has so far. -/
structure Composing (recipient : String) (lines : List String) (router : CommandRouter) : Prop where
  inputMode : router.inputMode = .messageComposition
  recipient : router.compositionRecipientUsername = recipient
  lines : router.compositionLines = lines

theorem Composing.connected {recipient : String} {lines : List String} {router : CommandRouter}
    (composing : Composing recipient lines router) (signal : Signal) :
    Composing recipient lines (router.connected signal) := by
  obtain ⟨mode, name, collected⟩ := composing
  cases signal <;> exact ⟨mode, name, collected⟩

theorem Composing.foldl {recipient : String} {lines : List String} (signals : List Signal) :
    ∀ router : CommandRouter, Composing recipient lines router →
      Composing recipient lines (signals.foldl CommandRouter.connected router) := by
  induction signals with
  | nil => exact fun _ composing => composing
  | cons signal rest ih => exact fun router composing => ih _ (composing.connected signal)

/-- A line that is no control adds what it adds. -/
theorem Composing.handleLine {recipient line : String} {lines : List String}
    {router : CommandRouter} (composing : Composing recipient lines router)
    (uncontrolled : ¬ Control text line) :
    Composing recipient (lines ++ (bodyLine text recipient line).toList)
      (router.handleLine configuration text line).1 := by
  obtain ⟨mode, rfl, rfl⟩ := composing
  simp only [Control, not_or] at uncontrolled
  have free : router.commandInputWhileBusy = false := by
    rw [commandInputWhileBusy, mode]
    rfl
  rw [CommandRouter.handleLine, if_neg (by simp [free]), mode]
  simp only [handleMessageComposition, if_neg uncontrolled.1, if_neg uncontrolled.2.1,
    if_neg uncontrolled.2.2, bodyLine]
  split
  · exact ⟨mode, rfl, (List.append_nil _).symm⟩
  · exact ⟨mode, rfl, rfl⟩

theorem Composing.step {recipient : String} {lines : List String} {console after : Console}
    (composing : Composing recipient lines console.router)
    {event : ConsoleEvent × ServiceAnswers}
    (uncontrolled : ∀ line ∈ lineOf event.1, ¬ Control text line)
    (moved : console.step configuration text event = some after) :
    Composing recipient (lines ++ bodyLines text recipient (lineOf event.1).toList)
      after.router := by
  obtain ⟨happened, answers⟩ := event
  cases happened with
  | line line =>
    rw [Console.step_line] at moved
    cases moved
    have added : bodyLines text recipient (lineOf (.line line)).toList =
        (bodyLine text recipient line).toList := by
      simp [bodyLines, lineOf, List.filterMap_cons]
      cases bodyLine text recipient line <;> rfl
    rw [added]
    exact Composing.foldl _ _ (composing.handleLine (uncontrolled line rfl))
  | reply index result =>
    simp only [Console.step, Console.turn, Option.map_map, Option.map_eq_some_iff] at moved
    obtain ⟨call, -, rfl⟩ := moved
    rw [show lines ++ bodyLines text recipient (lineOf (.reply index result)).toList = lines from
      List.append_nil lines]
    exact Composing.foldl _ _ composing
  | tokensUpdated tokens =>
    cases moved
    rw [show lines ++ bodyLines text recipient (lineOf (.tokensUpdated tokens)).toList = lines from
      List.append_nil lines]
    exact Composing.foldl _ _ composing

/-- Over a run without controls the typed lines are collected. -/
theorem Composing.run {recipient : String} (events : List (ConsoleEvent × ServiceAnswers)) :
    ∀ {lines : List String} {console after : Console}, Composing recipient lines console.router →
      (∀ line ∈ typed events, ¬ Control text line) →
      Runs.run (Console.step configuration text) console events = some after →
      Composing recipient (lines ++ bodyLines text recipient (typed events)) after.router := by
  induction events with
  | nil =>
    intro lines console after composing _ ends
    cases ends
    rw [typed, bodyLines, List.filterMap_nil, List.filterMap_nil, List.append_nil]
    exact composing
  | cons event rest ih =>
    intro lines console after composing uncontrolled ends
    have split : typed (event :: rest) = (lineOf event.1).toList ++ typed rest := by
      rw [typed, List.filterMap_cons]
      cases lineOf event.1 <;> rfl
    rw [split] at uncontrolled ⊢
    cases moved : console.step configuration text event with
    | none => simp [Runs.run, moved] at ends
    | some middle =>
      rw [Runs.run_cons moved] at ends
      have one := composing.step (fun line member => uncontrolled line (by
        simp [Option.mem_toList.mpr member])) moved
      have later := ih one (fun line member => uncontrolled line (by simp [member])) ends
      rwa [List.append_assoc, bodyLines, bodyLines, ← List.filterMap_append] at later

/-! ## Beginning -/

/-- A router that is in no composition enters one without lines. -/
def BeginsEmpty (handled : Handled) : Prop :=
  handled.1.inputMode = .messageComposition → handled.1.compositionLines = []

theorem beginsEmpty_of_mode {handled : Handled}
    (other : handled.1.inputMode ≠ .messageComposition) : BeginsEmpty handled :=
  fun entered => absurd entered other

theorem beginsEmpty_withArgumentCount {router : CommandRouter} {command : SlashCommand}
    {minimum : Nat} {maximum : Option Nat} {accepted : Handled}
    (mode : router.inputMode ≠ .messageComposition) (begins : BeginsEmpty accepted) :
    BeginsEmpty (withArgumentCount router command minimum maximum accepted) := by
  unfold withArgumentCount
  split_ifs
  · exact begins
  · exact beginsEmpty_of_mode mode

theorem beginsEmpty_handleSendCommand {router : CommandRouter} (command : SlashCommand)
    (mode : router.inputMode ≠ .messageComposition) :
    BeginsEmpty (handleSendCommand configuration text router command) := by
  unfold handleSendCommand
  split_ifs
  · exact fun _ => rfl
  · exact beginsEmpty_of_mode mode
  · exact beginsEmpty_withArgumentCount mode (beginsEmpty_of_mode mode)
  · exact beginsEmpty_withArgumentCount mode fun _ => rfl

theorem beginsEmpty_dispatch {router : CommandRouter} (command : SlashCommand)
    (mode : router.inputMode ≠ .messageComposition) :
    BeginsEmpty (dispatch configuration text router command) := by
  have controlled : BeginsEmpty
      (router, ClientController.handleCommand configuration text command) := beginsEmpty_of_mode mode
  unfold dispatch
  split
  · exact beginsEmpty_withArgumentCount mode (beginsEmpty_of_mode (by simp))
  · exact beginsEmpty_withArgumentCount mode (beginsEmpty_of_mode (by simp))
  · exact beginsEmpty_withArgumentCount mode (beginsEmpty_of_mode mode)
  · exact beginsEmpty_handleSendCommand command mode
  · exact beginsEmpty_withArgumentCount mode controlled
  · exact beginsEmpty_withArgumentCount mode controlled
  · exact beginsEmpty_withArgumentCount mode controlled
  · dsimp only
    split_ifs
    · exact beginsEmpty_withArgumentCount mode controlled
    · exact beginsEmpty_withArgumentCount mode controlled
    · exact controlled

theorem beginsEmpty_handleLine {router : CommandRouter} (line : String)
    (mode : router.inputMode ≠ .messageComposition) :
    BeginsEmpty (router.handleLine configuration text line) := by
  unfold CommandRouter.handleLine
  split
  · exact beginsEmpty_of_mode mode
  · split
    · unfold handleCommandMode
      dsimp only
      split_ifs
      · exact beginsEmpty_of_mode mode
      · exact beginsEmpty_of_mode mode
      · exact beginsEmpty_of_mode mode
      · split
        · exact beginsEmpty_of_mode mode
        · next command _ => exact beginsEmpty_dispatch command mode
    · exact beginsEmpty_of_mode (by simp [handleRegisterPassword])
    · exact beginsEmpty_of_mode (by simp [handleLoginPassword])
    · next composing => exact absurd composing mode

/-- A line that begins a composition leaves it without lines. -/
theorem composing_of_opened {console after : Console} {line : String} {answers : ServiceAnswers}
    (idle : console.router.inputMode ≠ .messageComposition)
    (opens : console.step configuration text (.line line, answers) = some after)
    (entered : after.router.inputMode = .messageComposition) :
    Composing after.router.compositionRecipientUsername [] after.router := by
  rw [Console.step_line] at opens
  cases opens
  have begins := @beginsEmpty_handleLine configuration text _ line idle
  simp only [Console.performed, inputMode_foldl] at entered
  have fresh : Composing (console.router.handleLine configuration text line).1.compositionRecipientUsername
      [] (console.router.handleLine configuration text line).1 := ⟨entered, rfl, begins entered⟩
  have kept := Composing.foldl ((console.router.handleLine configuration text line).2.perform
    answers 0).1 _ fresh
  exact ⟨kept.inputMode, rfl, kept.lines⟩

/-! ## The body -/

/-- The body that is submitted is the typed lines joined by newlines, each without an
echoed prompt, except for blank lines and the client's own output. -/
theorem submitted_body (qt : QtText text) {console opened after : Console}
    {opening submit : String} {answers : ServiceAnswers}
    {events : List (ConsoleEvent × ServiceAnswers)}
    (idle : console.router.inputMode ≠ .messageComposition)
    (opens : console.step configuration text (.line opening, answers) = some opened)
    (entered : opened.router.inputMode = .messageComposition)
    (uncontrolled : ∀ line ∈ typed events, ¬ Control text line)
    (ends : Runs.run (Console.step configuration text) opened events = some after)
    (submits : text.equalsIgnoringCase (text.trimmed submit) "/send" = true) :
    (after.router.handleLine configuration text submit).2 =
        ClientController.submitComposedMessage text opened.router.compositionRecipientUsername
          ("\n".intercalate (bodyLines text opened.router.compositionRecipientUsername
            (typed events))) ∧
      ((∀ line ∈ typed events,
          Verbatim text opened.router.compositionRecipientUsername line) →
        bodyLines text opened.router.compositionRecipientUsername (typed events) =
          typed events) := by
  obtain ⟨mode, recipient, lines⟩ :=
    (composing_of_opened idle opens entered).run events uncontrolled ends
  have free : after.router.commandInputWhileBusy = false := by
    rw [commandInputWhileBusy, mode]
    rfl
  have nonempty : ∀ line ∈ after.router.compositionLines, line ≠ "" := by
    intro line member
    rw [lines, List.nil_append, bodyLines, List.mem_filterMap] at member
    obtain ⟨_, -, kept⟩ := member
    exact bodyLine_ne_empty qt kept
  refine ⟨?_, bodyLines_verbatim⟩
  rw [CommandRouter.handleLine, if_neg (by simp [free]), mode]
  simp only [handleMessageComposition, if_pos submits]
  rw [joinedLines_eq nonempty, lines, recipient, List.nil_append]

/-! ## Lines that are not taken as they are -/

/-- The router that waits for more lines to bob. -/
def composingRouter (lines : List String) : CommandRouter where
  inputMode := .messageComposition
  activeConversationUsername := "bob"
  compositionRecipientUsername := "bob"
  compositionLines := lines

/-- A blank line, the client's own output and its prompt, with a refresh of the tokens between. -/
def interspersed : List (ConsoleEvent × ServiceAnswers) := [
  (.line "first", sampleAnswers), (.line "", sampleAnswers),
  (.line "Sending message...", sampleAnswers), (.tokensUpdated {}, sampleAnswers),
  (.line "[bob] > second ", sampleAnswers), (.line " third", sampleAnswers)]

theorem submitted_body_interspersed : ∃ after : Console,
    Runs.run (Console.step ⟨1, false⟩ asciiText) { router := composingRouter [] } interspersed =
      some after ∧
    (after.router.handleLine ⟨1, false⟩ asciiText "/send").2 =
      ClientController.submitComposedMessage asciiText "bob" "first\nsecond\n third" := by
  have opens : Console.step ⟨1, false⟩ asciiText {} (.line "/send bob", sampleAnswers) =
      some { router := composingRouter [] } := rfl
  have ends : Runs.run (Console.step ⟨1, false⟩ asciiText) { router := composingRouter [] }
      interspersed = some { router := composingRouter ["first", "second", " third"] } := rfl
  have uncontrolled : ∀ line ∈ typed interspersed, ¬ Control asciiText line := by
    simp [typed, interspersed, lineOf, Control]
    decide
  have body := (submitted_body qtText_asciiText (by decide) opens rfl uncontrolled ends
    (by decide : asciiText.equalsIgnoringCase (asciiText.trimmed "/send") "/send" = true)).1
  exact ⟨_, ends, body⟩

def between (line : String) : List (ConsoleEvent × ServiceAnswers) :=
  [(.line "first", sampleAnswers), (.line line, sampleAnswers), (.line "second", sampleAnswers)]

/-- A line that is no control, with which another body is submitted than the lines typed. -/
def Changes (line body : String) : Prop :=
  ∃ opened after : Console,
    Console.step ⟨1, false⟩ asciiText {} (.line "/send bob", sampleAnswers) = some opened ∧
    opened.router.inputMode = .messageComposition ∧
    (∀ other ∈ typed (between line), ¬ Control asciiText other) ∧
    Runs.run (Console.step ⟨1, false⟩ asciiText) opened (between line) = some after ∧
    (after.router.handleLine ⟨1, false⟩ asciiText "/send").2 =
      ClientController.submitComposedMessage asciiText "bob" body ∧
    body ≠ "\n".intercalate (typed (between line))

theorem composed_lines_change : Changes "" "first\nsecond" ∧
    Changes "Sending message..." "first\nsecond" ∧
    Changes "[bob] > third " "first\nthird\nsecond" := by
  have uncontrolled : ∀ line ∈ ["", "Sending message...", "[bob] > third "],
      ∀ other ∈ typed (between line), ¬ Control asciiText other := by
    simp [typed, between, lineOf, Control]
    decide
  refine ⟨?_, ?_, ?_⟩
  · exact ⟨{ router := composingRouter [] }, { router := composingRouter ["first", "second"] },
      rfl, rfl, uncontrolled "" (by simp), rfl, rfl, by decide⟩
  · exact ⟨{ router := composingRouter [] }, { router := composingRouter ["first", "second"] },
      rfl, rfl, uncontrolled "Sending message..." (by simp), rfl, rfl, by decide⟩
  · exact ⟨{ router := composingRouter [] },
      { router := composingRouter ["first", "third", "second"] },
      rfl, rfl, uncontrolled "[bob] > third " (by simp), rfl, rfl, by decide⟩

end EpicKfc.Guarantees.MessageComposition
