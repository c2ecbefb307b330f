import LoxScan.Proofs.JsonDump
import LoxScan.Proofs.LineEndings

/-!
# Files and the standard input

The command takes its source from a file or from the standard input.  The same bytes are decoded
alike, but a file is read as text, which turns every line ending into a line feed, and the standard
input is not.  So the two differ where carriage returns matter to a scan: inside strings, where
they are part of the text, and where they stand alone, which is a blank on the standard input and
the end of a line in a file.

There are no other differences: the command does with a file what it does with the standard input
if the line endings have been turned into line feeds before.  Where every carriage return stands in
front of a line feed and none is part of a string, the outcomes are the same, and with a dump in
JSON they are the same nowhere else.
-/

namespace LoxScan

/-- Without a log, the name of the file makes no difference. -/
theorem dump_of_scan_eq (file file' : String) (json : Bool) {source source' : List Char}
    (same : scan source = scan source') :
    dump ⟨file, json, false⟩ source = dump ⟨file', json, false⟩ source' := by
  rw [dump_of_quiet rfl, dump_of_quiet rfl, same]

/-- The scan of a text file is that of its text, if carriage returns do not matter. -/
theorem scan_normalizeNewlines {text : List Char} (pairs : PairsReturns text)
    (noReturn : ∀ token ∈ (scan text).tokens, '\r' ∉ token.lexeme) :
    scan (normalizeNewlines text) = scan text := by
  rw [normalizeNewlines_eq_joinLineEnds pairs, scan_joinLineEnds_eq_self noReturn]

/-- Only then are the tokens the same: there are as many lines, and the text of a file has no
carriage returns. -/
theorem pairsReturns_of_tokens_eq {text : List Char}
    (same : (scan (normalizeNewlines text)).tokens = (scan text).tokens) :
    PairsReturns text ∧ ∀ token ∈ (scan text).tokens, '\r' ∉ token.lexeme := by
  constructor
  · have last := getLast?_tokens_scan (normalizeNewlines text)
    rw [same, getLast?_tokens_scan, Option.some.injEq] at last
    have lines : lineTotal text = lineTotal (normalizeNewlines text) := congrArg Token.line last
    refine (pairsReturns_of_count text).2 ?_
    simp only [lineTotal] at lines
    omega
  · intro token mem inside
    rw [← same] at mem
    exact carriageReturn_not_mem_normalizeNewlines text (mem_of_mem_lexeme mem inside)

/-- **A file and the standard input agree up to line endings.**  Take arguments that ask for the
dump of a file and others that ask for the same dump of the standard input, neither with the log,
and let the file have the bytes that come in.

The outcome for the file is the one for the standard input whose line endings have been turned into
line feeds.  It is the same as for the bytes themselves if every carriage return in the text stands
in front of a line feed and no token has one in it; that is so if there is none at all.  With a
dump in JSON it is the same only then. -/
theorem file_matches_input (bytes : List UInt8) (file : String) (json : Bool)
    (fileArguments inputArguments : List String)
    (ask_file : Request.ofArguments fileArguments = .ok (.dump ⟨file, json, false⟩))
    (named : file ≠ standardInputName)
    (ask_input : Request.ofArguments inputArguments = .ok (.dump ⟨standardInputName, json, false⟩))
    (readFile : String → Except ReadFailure (List UInt8)) (there : readFile file = .ok bytes)
    (input : StandardInput) :
    let text := decodeUtf8 bytes
    let ofFile := runCommand fileArguments input readFile
    let ofInput := fun input => runCommand inputArguments input readFile
    let Unaffected := PairsReturns text ∧
      ∀ token ∈ (Scanner.ofSource text).scanTokens.tokens, '\r' ∉ token.lexeme
    ofFile = ofInput (.text (normalizeNewlines text)) ∧
      (Unaffected → ofFile = ofInput (.bytes bytes)) ∧
      ('\r' ∉ text → Unaffected) ∧
      (json = true → ofFile = ofInput (.bytes bytes) → Unaffected) := by
  intro text ofFile ofInput Unaffected
  have scanned : (Scanner.ofSource text).scanTokens.tokens = (scan text).tokens :=
    (Scanner.scanTokens_ofSource text).1
  have file_readable : Options.source ⟨file, json, false⟩ input readFile =
      .ok (normalizeNewlines text) := by
    simp only [Options.source, if_neg named, there]
    rfl
  have of_file : ofFile = .ok (dump ⟨file, json, false⟩ (normalizeNewlines text)) :=
    runCommand_of_readable ask_file file_readable
  have of_input : ∀ (given : StandardInput) (source : List Char), given.decode = .ok source →
      ofInput given = .ok (dump ⟨standardInputName, json, false⟩ source) :=
    fun _ _ decoded => runCommand_of_readable ask_input ((if_pos rfl).trans decoded)
  have of_bytes : ofInput (.bytes bytes) = .ok (dump ⟨standardInputName, json, false⟩ text) :=
    of_input _ _ rfl
  refine ⟨?_, ?_, ?_, ?_⟩
  · rw [of_file, of_input _ _ rfl, dump_of_scan_eq file standardInputName json rfl]
  · rintro ⟨pairs, noReturn⟩
    rw [scanned] at noReturn
    rw [of_file, of_bytes,
      dump_of_scan_eq file standardInputName json (scan_normalizeNewlines pairs noReturn)]
  · intro noReturn
    refine ⟨fun before after same => absurd ?_ noReturn, fun token mem inside => noReturn ?_⟩
    · rw [same]
      simp
    · rw [scanned] at mem
      exact mem_of_mem_lexeme mem inside
  · -- equal dumps in JSON are dumps of equal tokens
    rintro rfl same
    rw [of_file, of_bytes] at same
    have outputs := congrArg CommandOutcome.output (Except.ok.inj same)
    rw [output_dump, output_dump] at outputs
    have tokens := jsonDump_injective (fun token => scanned_of_mem_scan)
      (fun token => scanned_of_mem_scan) outputs
    show PairsReturns text ∧ _
    rw [scanned]
    exact pairsReturns_of_tokens_eq tokens

/-- Two names on lines that end with a carriage return and a line feed: the outcomes are the same.
With the two lines inside a string they are not: the standard input leaves the carriage return in
the string, and so does the dump. -/
theorem file_matches_input_twoLines :
    (runCommand ["f"] (.bytes []) (fun _ => .ok [0x61, 0x0D, 0x0A, 0x62]) =
        runCommand ["-"] (.bytes [0x61, 0x0D, 0x0A, 0x62])
          (fun _ => .ok [0x61, 0x0D, 0x0A, 0x62])) ∧
      runCommand ["--json", "f"] (.bytes []) (fun _ => .ok [0x22, 0x61, 0x0D, 0x0A, 0x62, 0x22]) ≠
        runCommand ["--json"] (.bytes [0x22, 0x61, 0x0D, 0x0A, 0x62, 0x22])
          (fun _ => .ok [0x22, 0x61, 0x0D, 0x0A, 0x62, 0x22]) := by
  constructor
  · have agree := (file_matches_input [0x61, 0x0D, 0x0A, 0x62] "f" false ["f"] ["-"] rfl
      (by decide) rfl (fun _ => .ok [0x61, 0x0D, 0x0A, 0x62]) rfl (.bytes [])).2.1
    refine agree ⟨(pairsReturns_of_count _).2 ?_, ?_⟩
    · decide +kernel
    · decide +kernel
  · intro same
    have unaffected := (file_matches_input [0x22, 0x61, 0x0D, 0x0A, 0x62, 0x22] "f" true
      ["--json", "f"] ["--json"] rfl (by decide) rfl
      (fun _ => .ok [0x22, 0x61, 0x0D, 0x0A, 0x62, 0x22]) rfl (.bytes [])).2.2.2 rfl same
    have returned : ∃ token ∈ (Scanner.ofSource
        (decodeUtf8 [0x22, 0x61, 0x0D, 0x0A, 0x62, 0x22])).scanTokens.tokens,
        '\r' ∈ token.lexeme := by
      decide +kernel
    obtain ⟨token, mem, inside⟩ := returned
    exact unaffected.2 token mem inside

/-- Without JSON the two lines inside a string make a difference as well: the file's string has a
line feed between its letters, the string from the standard input a carriage return, too. -/
theorem file_differs_from_input_inside_string :
    runCommand ["f"] (.bytes []) (fun _ => .ok [0x22, 0x61, 0x0D, 0x0A, 0x62, 0x22]) ≠
      runCommand [] (.bytes [0x22, 0x61, 0x0D, 0x0A, 0x62, 0x22])
        (fun _ => .ok [0x22, 0x61, 0x0D, 0x0A, 0x62, 0x22]) := by
  decide +kernel

end LoxScan
