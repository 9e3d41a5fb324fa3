import Lockframe.Tui.Text

/-! # Command parsing

A transcription of `lockframe_tui::commands::parse` over the text primitives
of `Lockframe.Tui.Text`.

Over the transcription: what a user types for each command parses back to that
command, whitespace around the input never matters, and the inputs that give a
room or a member, and each of the six argument errors, are described exactly
through the semantics of the standard library's integer parsing. -/

namespace Lockframe

namespace Commands

/-! ## Commands -/

/-- Modelled from the spec: `RoomId`, a 128-bit unsigned integer. -/
abbrev RoomId := Fin (2 ^ 128)

inductive Command
  | connect
  | createRoom (roomId : RoomId)
  | joinRoom (roomId : RoomId)
  | leaveActiveRoom
  | publishKeyPackage
  | addMember (userId : Fin (2 ^ 64))
  | quit
  | message (content : String)
  | unknown (input : String)
  | invalidArgs (command : String) (error : String)
  deriving DecidableEq, Repr

/-- The arms of `create`, `join` and `add`: the first argument parsed, or an
`InvalidArgs` naming the command with the usage line when the argument is
missing and with `invalid` when it does not parse. -/
def withArgument (command usage invalid : String) (parseArgument : List Char → Option α)
    (build : α → Command) : Option (List Char) → Command
  | some argument =>
      match parseArgument argument with
      | some value => build value
      | none => .invalidArgs command invalid
  | none => .invalidArgs command usage

/-- The `match command` of `parse`, for the trimmed `input` and the words after
its leading `/`. -/
def parseCommand (input : String) (parts : List (List Char)) : Command :=
  match String.mk (parts.headD []) with
  | "connect" => .connect
  | "create" =>
      withArgument "create" "Usage: /create <room_id>" "Invalid room ID" (fromStr 128)
        .createRoom parts[1]?
  | "join" =>
      withArgument "join" "Usage: /join <room_id>" "Invalid room ID" (fromStr 128)
        .joinRoom parts[1]?
  | "leave" => .leaveActiveRoom
  | "publish" => .publishKeyPackage
  | "add" =>
      withArgument "add" "Usage: /add <user_id>" "Invalid user ID" (fromStr 64)
        .addMember parts[1]?
  | "quit" | "q" => .quit
  | _ => .unknown input

def parse (input : String) : Command :=
  let input := trim input.toList
  if input.isEmpty then .message ""
  else
    match input with
    | '/' :: commandChars => parseCommand (String.mk input) (splitWhitespace commandChars)
    | _ => .message (String.mk input)

example : parse "  /create 100  " = .createRoom 100 := by decide
example : parse "/add" = .invalidArgs "add" "Usage: /add <user_id>" := by decide
example : parse "/q" = .quit := by decide

/-! ## What a user types -/

/-- A command word after `/`, then the decimal text of its argument after one
space. -/
def commandLine (word : String) (argument : Nat) : String :=
  "/" ++ word ++ " " ++ toString argument

/-- The command line that asks for each command. -/
def render : Command → String
  | .connect => "/connect"
  | .createRoom roomId => commandLine "create" roomId.val
  | .joinRoom roomId => commandLine "join" roomId.val
  | .leaveActiveRoom => "/leave"
  | .publishKeyPackage => "/publish"
  | .addMember userId => commandLine "add" userId.val
  | .quit => "/quit"
  | .message content => content
  | .unknown input => input
  | .invalidArgs command _ => "/" ++ command

/-- The commands a user can ask for: all but the two error reports, and a
message of trimmed text that does not start with `/`. -/
def Printable : Command → Prop
  | .message content => Trimmed content.toList ∧ content.toList.head? ≠ some '/'
  | .unknown _ | .invalidArgs _ _ => False
  | _ => True

instance : DecidablePred Printable
  | .message content => inferInstanceAs (Decidable (Trimmed content.toList ∧ _))
  | .unknown _ | .invalidArgs _ _ => inferInstanceAs (Decidable False)
  | .connect | .createRoom _ | .joinRoom _ | .leaveActiveRoom | .publishKeyPackage
  | .addMember _ | .quit => inferInstanceAs (Decidable True)

/-- A trimmed command line reaches the `match command` with its words. -/
theorem parse_slash (rest : List Char) (trimmed : Trimmed ('/' :: rest)) :
    parse (String.mk ('/' :: rest)) =
      parseCommand (String.mk ('/' :: rest)) (splitWhitespace rest) := by
  simp only [parse, String.toList, trim_eq_self trimmed]
  rfl

/-- A command line with one argument reaches the `match command` with its
word and the argument's digits. -/
theorem parse_commandLine (word : String) (n : Nat) (isWord : Word word.toList) :
    parse (commandLine word n) =
      parseCommand (commandLine word n) [word.toList, Nat.toDigits 10 n] := by
  obtain ⟨nonempty, solid⟩ := toDigits_word n
  have chars : commandLine word n =
      String.mk ('/' :: (word.toList ++ ' ' :: Nat.toDigits 10 n)) :=
    String.ext (by simp [commandLine, toString, Nat.repr, List.asString])
  have trimmed : Trimmed ('/' :: (word.toList ++ ' ' :: Nat.toDigits 10 n)) := by
    refine ⟨by simp [isWhitespace], fun c last => solid c (List.mem_of_getLast?_eq_some ?_)⟩
    have split : '/' :: (word.toList ++ ' ' :: Nat.toDigits 10 n) =
        ('/' :: word.toList ++ [' ']) ++ Nat.toDigits 10 n := by simp
    rwa [split, List.getLast?_append_of_ne_nil _ nonempty] at last
  rw [chars, parse_slash _ trimmed, splitWhitespace_two_words isWord (toDigits_word n)]

theorem parse_render (c : Command) (printable : Printable c) : parse (render c) = c := by
  cases c with
  | connect | leaveActiveRoom | publishKeyPackage | quit => decide
  | createRoom id | joinRoom id | addMember id =>
    rw [render, parse_commandLine]
    · simp [parseCommand, withArgument, fromStr_toDigits id.isLt]
    · exact ⟨by decide, by decide⟩
  | message content =>
    obtain ⟨trimmed, notSlash⟩ := printable
    simp only [render, parse, trim_eq_self trimmed]
    split
    · next empty => cases content; simp_all
    · split
      · next rest start => exact absurd (congrArg List.head? start) notSlash
      · rfl
  | unknown _ | invalidArgs _ _ => exact printable.elim

theorem parse_render_hello_world :
    Printable (.message "hello world") ∧
      parse (render (.message "hello world")) = .message "hello world" :=
  ⟨by decide, parse_render (.message "hello world") (by decide)⟩

/-! ## The lines that give a room or a member

`create`, `join` and `add` take the second word of the line, an optional `+`
and decimal digits whose value fits, and ignore every word after it. -/

/-- An input that trims to `/`, then `word`, then a decimal text of `n` as
second word, then any further words. -/
def ArgumentLine (input word : String) (n : Nat) : Prop :=
  ∃ chars argument rest, trim input.toList = '/' :: chars ∧
    splitWhitespace chars = word.toList :: argument :: rest ∧ DecimalText argument n

/-- An argument arm returns a command other than its reports only by building
it from a parsed argument. -/
theorem withArgument_eq_iff (command usage invalid : String)
    (parseArgument : List Char → Option α) (build : α → Command)
    (argument : Option (List Char)) (result : Command)
    (notReport : ∀ command error, result ≠ .invalidArgs command error) :
    withArgument command usage invalid parseArgument build argument = result ↔
      ∃ text value, argument = some text ∧ parseArgument text = some value ∧
        build value = result := by
  unfold withArgument
  split
  · split <;> simp_all [eq_comm]
  · simpa [eq_comm] using notReport command usage

theorem eq_word_cons {parts : List (List Char)} {word : String} {text : List Char}
    (head : String.mk (parts.headD []) = word) (second : parts[1]? = some text) :
    ∃ rest, parts = word.toList :: text :: rest := by
  rcases parts with _ | ⟨first, _ | ⟨argument, rest⟩⟩ <;> simp at second
  exact ⟨rest, by simp [← head, second]⟩

theorem parseCommand_eq_argument_iff (input : String) (parts : List (List Char)) :
    (∀ roomId : RoomId, parseCommand input parts = .createRoom roomId ↔
      ∃ argument rest, parts = "create".toList :: argument :: rest ∧
        fromStr 128 argument = some roomId) ∧
    (∀ roomId : RoomId, parseCommand input parts = .joinRoom roomId ↔
      ∃ argument rest, parts = "join".toList :: argument :: rest ∧
        fromStr 128 argument = some roomId) ∧
    (∀ userId : Fin (2 ^ 64), parseCommand input parts = .addMember userId ↔
      ∃ argument rest, parts = "add".toList :: argument :: rest ∧
        fromStr 64 argument = some userId) := by
  refine ⟨fun _ => ⟨fun parsed => ?_, ?_⟩, fun _ => ⟨fun parsed => ?_, ?_⟩,
    fun _ => ⟨fun parsed => ?_, ?_⟩⟩
  all_goals try
    rintro ⟨argument, rest, rfl, parsed⟩
    simp [parseCommand, withArgument, parsed]
  all_goals
    unfold parseCommand at parsed
    split at parsed
  all_goals try simp at parsed
  all_goals
    rename_i head
    obtain ⟨text, value, second, parsedArgument, built⟩ :=
      (withArgument_eq_iff _ _ _ _ _ _ _ (by simp)).mp parsed
    cases built
  all_goals
    obtain ⟨rest, rfl⟩ := eq_word_cons head second
    exact ⟨text, rest, rfl, parsedArgument⟩

/-- A command other than a message comes from a trimmed input that starts
with `/`, through the `match command` on the words after it. -/
theorem parse_eq_iff_parseCommand (input : String) (result : Command)
    (notMessage : ∀ content, result ≠ .message content) :
    parse input = result ↔ ∃ chars, trim input.toList = '/' :: chars ∧
      parseCommand (String.mk (trim input.toList)) (splitWhitespace chars) = result := by
  simp only [parse]
  split
  · next empty =>
    rw [List.isEmpty_iff.mp empty]
    simpa [eq_comm] using notMessage ""
  · split
    · next commandChars start =>
      rw [start]
      simp
    · next notSlash =>
      exact iff_of_false (notMessage _).symm fun ⟨chars, start, _⟩ => notSlash chars start

theorem parse_eq_argument_iff (input : String) :
    (∀ roomId : RoomId, parse input = .createRoom roomId ↔
      ArgumentLine input "create" roomId.val) ∧
    (∀ roomId : RoomId, parse input = .joinRoom roomId ↔
      ArgumentLine input "join" roomId.val) ∧
    (∀ userId : Fin (2 ^ 64), parse input = .addMember userId ↔
      ArgumentLine input "add" userId.val) := by
  have characterised := parseCommand_eq_argument_iff (String.mk (trim input.toList))
  refine ⟨fun roomId => ?_, fun roomId => ?_, fun userId => ?_⟩
  all_goals
    rw [parse_eq_iff_parseCommand _ _ (by simp)]
    simp only [characterised, fromStr_eq_some_iff, ArgumentLine, DecimalText, exists_and_left]

/-! ## Whitespace around the input -/

/-- Whitespace before and after the input never changes the command. -/
theorem parse_pad (pad input pad' : String) (blank : ∀ c ∈ pad.toList, isWhitespace c = true)
    (blank' : ∀ c ∈ pad'.toList, isWhitespace c = true) :
    parse (pad ++ input ++ pad') = parse input := by
  simp only [parse, String.toList, String.data_append]
  rw [trim_pad pad.data input.data pad'.data blank blank']

theorem parse_pad_tab_newline :
    (∀ c ∈ " \t".toList, isWhitespace c = true) ∧ (∀ c ∈ "\n".toList, isWhitespace c = true) ∧
      parse (" \t" ++ "/join 7" ++ "\n") = parse "/join 7" :=
  ⟨by decide, by decide, parse_pad " \t" "/join 7" "\n" (by decide) (by decide)⟩

/-! ## The argument errors

`InvalidArgs` names its command, and gives the usage line when the line has no
second word, the invalid-id text when the second word is no decimal text of an
id that fits. -/

/-- An input that trims to `/` and the single word `word`. -/
def UsageLine (input word : String) : Prop :=
  ∃ chars, trim input.toList = '/' :: chars ∧ splitWhitespace chars = [word.toList]

/-- An input that trims to `/`, `word`, and a second word that `from_str` does
not read as a value below `2 ^ bits`. -/
def InvalidLine (input word : String) (bits : Nat) : Prop :=
  ∃ chars argument rest, trim input.toList = '/' :: chars ∧
    splitWhitespace chars = word.toList :: argument :: rest ∧
    ∀ n < 2 ^ bits, ¬DecimalText argument n

theorem withArgument_eq_invalidArgs_iff (command usage invalid : String)
    (parseArgument : List Char → Option α) (build : α → Command)
    (argument : Option (List Char)) (command' error : String)
    (built : ∀ value, build value ≠ .invalidArgs command' error) :
    withArgument command usage invalid parseArgument build argument =
        .invalidArgs command' error ↔
      command' = command ∧ (argument = none ∧ error = usage ∨
        ∃ text, argument = some text ∧ parseArgument text = none ∧ error = invalid) := by
  unfold withArgument
  split
  · split <;> simp_all [eq_comm]
  · simp [eq_comm]

theorem eq_word_nil {parts : List (List Char)} {word : String} (nonempty : word.toList ≠ [])
    (head : String.mk (parts.headD []) = word) (single : parts.length ≤ 1) :
    parts = [word.toList] := by
  rcases parts with _ | ⟨first, _ | ⟨argument, rest⟩⟩ <;> simp at single
  · simp [← head] at nonempty
  · simp [← head]

theorem parseCommand_eq_invalidArgs_iff (input : String) (parts : List (List Char)) :
    (parseCommand input parts = .invalidArgs "create" "Usage: /create <room_id>" ↔
      parts = ["create".toList]) ∧
    (parseCommand input parts = .invalidArgs "create" "Invalid room ID" ↔
      ∃ argument rest, parts = "create".toList :: argument :: rest ∧
        fromStr 128 argument = none) ∧
    (parseCommand input parts = .invalidArgs "join" "Usage: /join <room_id>" ↔
      parts = ["join".toList]) ∧
    (parseCommand input parts = .invalidArgs "join" "Invalid room ID" ↔
      ∃ argument rest, parts = "join".toList :: argument :: rest ∧
        fromStr 128 argument = none) ∧
    (parseCommand input parts = .invalidArgs "add" "Usage: /add <user_id>" ↔
      parts = ["add".toList]) ∧
    (parseCommand input parts = .invalidArgs "add" "Invalid user ID" ↔
      ∃ argument rest, parts = "add".toList :: argument :: rest ∧
        fromStr 64 argument = none) := by
  refine ⟨⟨fun parsed => ?_, ?_⟩, ⟨fun parsed => ?_, ?_⟩, ⟨fun parsed => ?_, ?_⟩,
    ⟨fun parsed => ?_, ?_⟩, ⟨fun parsed => ?_, ?_⟩, ⟨fun parsed => ?_, ?_⟩⟩
  all_goals try
    rintro ⟨argument, rest, rfl, parsed⟩
    simp [parseCommand, withArgument, parsed]
  all_goals try
    rintro rfl
    simp [parseCommand, withArgument]
  all_goals
    unfold parseCommand at parsed
    split at parsed
  all_goals try simp at parsed
  all_goals
    rename_i head
    rw [withArgument_eq_invalidArgs_iff _ _ _ _ _ _ _ _ (by simp)] at parsed
    simp at parsed
  all_goals first
    | exact eq_word_nil (by decide) head parsed
    | obtain ⟨text, second, unparsed⟩ := parsed
      obtain ⟨rest, rfl⟩ := eq_word_cons head second
      exact ⟨text, rest, rfl, unparsed⟩

theorem parse_eq_invalidArgs_iff (input : String) :
    (parse input = .invalidArgs "create" "Usage: /create <room_id>" ↔
      UsageLine input "create") ∧
    (parse input = .invalidArgs "create" "Invalid room ID" ↔ InvalidLine input "create" 128) ∧
    (parse input = .invalidArgs "join" "Usage: /join <room_id>" ↔ UsageLine input "join") ∧
    (parse input = .invalidArgs "join" "Invalid room ID" ↔ InvalidLine input "join" 128) ∧
    (parse input = .invalidArgs "add" "Usage: /add <user_id>" ↔ UsageLine input "add") ∧
    (parse input = .invalidArgs "add" "Invalid user ID" ↔ InvalidLine input "add" 64) := by
  have characterised := parseCommand_eq_invalidArgs_iff (String.mk (trim input.toList))
  refine ⟨?_, ?_, ?_, ?_, ?_, ?_⟩
  all_goals
    rw [parse_eq_iff_parseCommand _ _ (by simp)]
    simp only [characterised, fromStr_eq_none_iff, UsageLine, InvalidLine, exists_and_left]

end Commands

end Lockframe
