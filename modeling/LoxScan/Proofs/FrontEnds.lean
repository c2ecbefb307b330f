import LoxScan.Proofs.Command
import LoxScan.Proofs.JsonDump

/-!
# The command and a refusing scan

There are two ways to scan a source from outside: the command, which dumps tokens and shows
errors, and a scan in a session, which returns tokens or refuses a source with errors.  Each has
a scanner and a collector of its own: that of the command is the only reporter of its scanner, and
that of a session's scan stands behind the reporter that the scan is given
(`Session.watchedScan`).  The command decides its exit status by itself.  Still both find the same
errors, in the same order, and the command fails exactly where a session that refuses errors does.

How the tokens are dumped is a matter of the output alone.  Arguments that ask for the same
dump in JSON change nothing else, and `--json` in front of any arguments asks for that
(`Request.ofArguments_json`).

## Main Definitions

* `Request.withJson` — a request whose dump is to be in JSON
* `IsDump` — a text is the dump of some tokens
* `CommandOutcome.Matches` — an outcome tells what a scan that refuses errors answers
-/

namespace LoxScan

/-! ## Asking for JSON -/

/-- The same request, with a dump in JSON if it asks for one. -/
def Request.withJson : Request → Request
  | .help => .help
  | .version => .version
  | .dump options => .dump { options with json := true }

namespace ArgumentReading

/-- What has been read, with JSON asked for. -/
def withJson (reading : ArgumentReading) : ArgumentReading := { reading with json := true }

theorem withJson_addOperand (reading : ArgumentReading) (text : String) :
    reading.withJson.addOperand text = (reading.addOperand text).withJson := by
  obtain ⟨file, _, _, _, _⟩ := reading
  cases file <;> rfl

theorem withJson_addSeparator (reading : ArgumentReading) :
    reading.withJson.addSeparator = reading.addSeparator.withJson := by
  by_cases belongs : reading.file.isNone || reading.fileJustRead
  · simp only [addSeparator, withJson, belongs, if_true]
  · simp only [addSeparator, addSurplus, withJson, belongs, Bool.false_eq_true, if_false]

theorem withJson_addFlags (reading : ArgumentReading) (flags : List Flag) :
    reading.withJson.addFlags flags =
      (reading.addFlags flags).map Request.withJson ArgumentReading.withJson := by
  induction flags generalizing reading with
  | nil => rfl
  | cons flag rest ih =>
    cases flag with
    | help | version => rfl
    | json => exact ih { reading with json := true, fileJustRead := false }
    | verbose => exact ih { reading with verbose := true, fileJustRead := false }

theorem withJson_finish (reading : ArgumentReading) :
    reading.withJson.finish = reading.finish.map Request.withJson := by
  by_cases nothing_left : reading.surplus = []
  · simp only [finish, withJson, nothing_left, if_true, Except.map, Request.withJson]
  · simp only [finish, withJson, nothing_left, if_false, Except.map]

/-- Asking for JSON changes nothing about how the remaining arguments are read. -/
theorem withJson_read (reading : ArgumentReading) (arguments : List Argument) :
    reading.withJson.read arguments = (reading.read arguments).map Request.withJson := by
  induction arguments generalizing reading with
  | nil => exact reading.withJson_finish
  | cons argument rest ih =>
    cases argument with
    | operand text => rw [read, read, withJson_addOperand, ih]
    | separator => rw [read, read, withJson_addSeparator, ih]
    | unknown text => exact ih (reading.addSurplus text)
    | flag flag joined =>
      rw [read, read]
      cases joinedFlags flag joined with
      | error failure => rfl
      | ok flags =>
        simp only [withJson_addFlags]
        cases reading.addFlags flags with
        | inl request => rfl
        | inr next => exact ih next

end ArgumentReading

/-- **Asking for JSON in front of any arguments** asks for the same in JSON. -/
theorem Request.ofArguments_json (arguments : List String) :
    Request.ofArguments ("--json" :: arguments) =
      (Request.ofArguments arguments).map Request.withJson := by
  have asked : Argument.classify "--json" = .ok (.flag .json .nothing) := by decide
  rw [ofArguments, ofArguments, Argument.classifyAll, if_neg (by decide), asked]
  cases Argument.classifyAll arguments with
  | error failure => rfl
  | ok classified => exact ArgumentReading.initial.withJson_read classified

/-! ## What is shown -/

/-- **A text is the dump of some tokens.**  In plain form it has a line for each token, with the
kind, the lexeme and the value, or `null` where there is none.  In JSON it is the text of an array
with an object for each token, which has been written strictly; a number that is not finite is
written as text. -/
structure IsDump (json : Bool) (tokens : List Token) (text : List Char) : Prop where
  plain : json = false → text = tokens.flatMap fun token =>
    token.kind.name.toList ++ ' ' :: token.lexeme ++ ' ' ::
      (match token.literal with
        | none => "null".toList
        | some (.text characters) => characters
        | some (.number value) => value.text) ++ ['\n']
  inJson : json = true → ∃ array,
    (JsonValue.array (tokens.map fun token => .object
      [("kind", .string token.kind.name.toList),
        ("lexeme", .string token.lexeme),
        ("literal", match token.literal with
          | none => .null
          | some (.text characters) => .string characters
          | some (.number value) =>
            if value.isFinite then .number value else .string value.text),
        ("line", .integer token.line)])).writeStrict? .indentedAscii = some array ∧
      text = array ++ ['\n']

/-- The plain dump is one. -/
theorem isDump_plainDump (tokens : List Token) : IsDump false tokens (plainDump tokens) where
  plain := by
    rintro -
    refine List.flatMap_congr ?_
    rintro ⟨kind, lexeme, literal, line⟩ -
    cases literal with
    | none => rfl
    | some literal => cases literal <;> rfl
  inJson := nofun

/-- The dump in JSON is one. -/
theorem isDump_jsonDump (tokens : List Token) : IsDump true tokens (jsonDump tokens) where
  plain := nofun
  inJson := by
    rintro -
    have strict : (JsonValue.array (tokens.map Token.toJson)).writeStrict? .indentedAscii =
        some ((JsonValue.array (tokens.map Token.toJson)).write .indentedAscii 0) :=
      if_pos (itemsStrict_toJson tokens)
    refine ⟨_, ?_, rfl⟩
    rw [← strict]
    congr 2
    refine List.map_congr_left ?_
    rintro ⟨kind, lexeme, literal, line⟩ -
    cases literal with
    | none => rfl
    | some literal => cases literal <;> rfl

/-- **An outcome tells what a scan that refuses errors answers.**  The exit status is 65 exactly
if the scan has been refused, and 0 exactly if it has not, and the error output is one line for
each error of the failure, or nothing. -/
structure CommandOutcome.Matches (outcome : CommandOutcome)
    (answer : Except ScanFailure (List Token)) : Prop where
  refused_iff : outcome.status.code = 65 ↔ ∃ failure, answer = .error failure
  returned_iff : outcome.status.code = 0 ↔ ∃ tokens, answer = .ok tokens
  shown : ∀ failure, answer = .error failure →
    outcome.errorOutput = failure.errors.flatMap fun error =>
      s!"[line {error.line}] Error: {error.message}\n".toList
  silent : ∀ tokens, answer = .ok tokens → outcome.errorOutput = []

/-- The line of an error. -/
theorem asLine_formatError (line : Int) (message : String) :
    asLine (formatError line message).toList =
      s!"[line {line}] Error: {message}\n".toList :=
  (String.toList_append (s := formatError line message) (t := "\n")).symm

/-- A dump that shows no log tells what a scan answers in any session that refuses errors. -/
theorem matches_dump {options : Options} (quiet : options.verbose = false) (source : List Char)
    {s : Session} (refuses : s.ambient.config.refuseErrors = true) (given : Option Reporter)
    (sourceFile : Option String) :
    (dump options source).Matches (s.scan source given sourceFile).answer := by
  rw [dump_of_quiet quiet]
  by_cases clean : (scan source).reports = []
  · have returned : (s.scan source given sourceFile).answer = .ok (scan source).tokens := by
      rw [Session.answer_scan, if_neg fun refused => refused.2 clean]
    rw [returned]
    simp only [clean, if_true]
    exact ⟨by simp [ExitStatus.code], by simp [ExitStatus.code], nofun, fun _ _ => rfl⟩
  · have refused : (s.scan source given sourceFile).answer =
        .error ⟨(scan source).reports.map fun report => report.toRecord sourceFile⟩ := by
      rw [Session.answer_scan, if_pos ⟨refuses, clean⟩]
    rw [refused]
    simp only [clean, if_false]
    refine ⟨by simp [ExitStatus.code], by simp [ExitStatus.code], ?_, nofun⟩
    intro failure same
    rw [← Except.error.inj same, List.flatMap_map]
    exact List.flatMap_congr fun report _ => asLine_formatError _ _

/-! ## The command -/

/-- **The command and a refusing scan agree.**  Take arguments that ask for a dump.

If they do not ask for the log, and the file or the standard input that they name can be read,
the outcome tells what a scan of the text that has been read answers in any session that refuses
errors, with any reporter and any file name in its errors.  It does so too if that scan takes its
errors from a collector of its own, to which its reporter has no path.  The output is the dump of
all tokens of the text, whether or not there are errors.  Arguments that ask for the same in JSON,
such as the same ones behind `--json`, change the output alone.

If the file or the standard input cannot be read, with or without the log, the exit status is 66,
nothing is on the output and only the reason is on the error output. -/
theorem command_matches_scan (arguments : List String) (options : Options)
    (asked : Request.ofArguments arguments = .ok (.dump options)) (input : StandardInput)
    (readFile : String → Except ReadFailure (List UInt8)) :
    (∀ source, options.verbose = false → options.source input readFile = .ok source →
        ∃ outcome : CommandOutcome,
          runCommand arguments input readFile = .ok outcome ∧
          (∀ s : Session, s.ambient.config.refuseErrors = true → ∀ given sourceFile,
            outcome.Matches (s.scan source given sourceFile).answer ∧
              ((s.reporterFor given sourceFile).pathsTo s.collections.length = ∅ →
                outcome.Matches (s.watchedScan source given sourceFile).answer)) ∧
          IsDump options.json (Scanner.ofSource source).scanTokens.tokens outcome.output ∧
          (∀ arguments', (arguments' = "--json" :: arguments ∨
              Request.ofArguments arguments' = .ok (.dump { options with json := true })) →
            ∃ output, IsDump true (Scanner.ofSource source).scanTokens.tokens output ∧
              runCommand arguments' input readFile = .ok { outcome with output := output })) ∧
      ∀ failure, options.source input readFile = .error (.cannotOpen failure) →
        ∃ outcome : CommandOutcome,
          runCommand arguments input readFile = .ok outcome ∧ outcome.status.code = 66 ∧
          outcome.output = [] ∧
          outcome.errorOutput =
            ("loxlex: cannot read " ++ options.file ++ ": " ++ failure.reason ++ "\n").toList := by
  constructor
  · intro source quiet readable
    rw [(Scanner.scanTokens_ofSource source).1]
    refine ⟨dump options source, runCommand_of_readable asked readable, ?_, ?_, ?_⟩
    · intro s refuses given sourceFile
      have agrees := matches_dump quiet source refuses given sourceFile
      refine ⟨agrees, fun unreachable => ?_⟩
      rwa [Session.watchedScan_eq_scan source unreachable]
    · rw [output_dump]
      cases options.json with
      | false => exact isDump_plainDump _
      | true => exact isDump_jsonDump _
    · intro arguments' json
      have asked' : Request.ofArguments arguments' = .ok (.dump { options with json := true }) := by
        rcases json with rfl | same
        · rw [Request.ofArguments_json, asked]
          rfl
        · exact same
      have readable' : Options.source { options with json := true } input readFile = .ok source :=
        readable
      refine ⟨jsonDump (scan source).tokens, isDump_jsonDump _, ?_⟩
      rw [runCommand_of_readable asked' readable', dump_of_quiet quiet,
        dump_of_quiet (by exact quiet)]
      rfl
  · intro failure unreadable
    refine ⟨unreadableOutcome options.file failure, ?_, rfl, rfl, rfl⟩
    rw [runCommand, asked]
    simp only [Request.run, unreadable]

/-- A file with a name, a byte that is not UTF-8 and a string that is never closed: the command
fails, shows the name, and shows the two errors that a refused scan of the text carries, also if
JSON is asked for.  If the file is not there, or the standard input is a directory, the command
says so. -/
theorem command_matches_scan_undecodable :
    (∃ outcome : CommandOutcome,
      runCommand ["f"] (.bytes []) (fun _ => .ok [0x61, 0xFF, 0x0A, 0x22]) = .ok outcome ∧
        outcome.status.code = 65 ∧
        outcome.output = "IDENTIFIER a null\nEOF  null\n".toList ∧
        outcome.errorOutput = ("[line 1] Error: Unexpected character.\n" ++
          "[line 2] Error: Unterminated string.\n").toList ∧
        ∃ output,
          (JsonValue.array
            [.object [("kind", .string "IDENTIFIER".toList), ("lexeme", .string ['a']),
              ("literal", .null), ("line", .integer 1)],
            .object [("kind", .string "EOF".toList), ("lexeme", .string []),
              ("literal", .null), ("line", .integer 2)]]).writeStrict? .indentedAscii =
            some output ∧
          runCommand ["--json", "f"] (.bytes []) (fun _ => .ok [0x61, 0xFF, 0x0A, 0x22]) =
            .ok { outcome with output := output ++ ['\n'] }) ∧
      (∃ outcome : CommandOutcome,
        runCommand ["f"] (.bytes []) (fun _ => .error (.cannotOpen .notFound)) = .ok outcome ∧
          outcome.status.code = 66 ∧
          outcome.errorOutput = "loxlex: cannot read f: No such file or directory\n".toList) ∧
      ∃ outcome : CommandOutcome,
        runCommand [] (.unreadable .isDirectory) (fun _ => .error .embeddedNul) = .ok outcome ∧
          outcome.status.code = 66 ∧
          outcome.errorOutput = "loxlex: cannot read -: Is a directory\n".toList := by
  have asked : Request.ofArguments ["f"] = .ok (.dump ⟨"f", false, false⟩) := by rfl
  refine ⟨?_, ?_, ?_⟩
  · let text := 'a' :: replacementCharacter :: "\n\"".toList
    let refusing : Session := { Session.initial with ambient := ⟨⟨none, true⟩, none, 0⟩ }
    obtain ⟨outcome, done, agrees, dumped, json⟩ :=
      (command_matches_scan ["f"] _ asked (.bytes []) (fun _ => .ok [0x61, 0xFF, 0x0A, 0x22])).1
        text rfl rfl
    have reports : (scan text).reports = [⟨1, .unexpectedCharacter⟩, ⟨2, .unterminatedString⟩] := by
      decide +kernel
    have solo : (Scanner.ofSource text).scanTokens.tokens =
        [⟨.identifier, ['a'], none, 1⟩, Token.endOfInput 2] := by
      decide +kernel
    have refused : (refusing.scan text none (some "f")).answer =
        .error ⟨[⟨"Unexpected character.", 1, some "f"⟩,
          ⟨"Unterminated string.", 2, some "f"⟩]⟩ := by
      rw [Session.answer_scan, reports]
      rfl
    have told := (agrees refusing rfl none (some "f")).1
    obtain ⟨output, dumpedInJson, doneInJson⟩ := json _ (.inl rfl)
    rw [solo] at dumped dumpedInJson
    obtain ⟨array, written, rfl⟩ := dumpedInJson.inJson rfl
    refine ⟨outcome, done, told.refused_iff.mpr ⟨_, refused⟩, ?_, ?_, array, written, doneInJson⟩
    · rw [dumped.plain rfl]
      decide +kernel
    · rw [told.shown _ refused]
      decide +kernel
  · obtain ⟨outcome, done, status, -, shown⟩ :=
      (command_matches_scan ["f"] _ asked (.bytes [])
        (fun _ => .error (.cannotOpen .notFound))).2 .notFound rfl
    exact ⟨outcome, done, status, shown⟩
  · obtain ⟨outcome, done, status, -, shown⟩ :=
      (command_matches_scan [] ⟨"-", false, false⟩ rfl (.unreadable .isDirectory)
        (fun _ => .error .embeddedNul)).2 .isDirectory rfl
    exact ⟨outcome, done, status, shown⟩

end LoxScan
