import LoxScan.Proofs.Command
import LoxScan.Proofs.JsonWriting
import LoxScan.Proofs.Meaning
import LoxScan.Proofs.Trace

/-!
# The JSON dump loses nothing

The dump in JSON can be read by anyone who reads JSON, and the tokens can be had back from it.

What makes that an issue is infinity: a number with too many digits denotes it, and JSON has no
word for it.  The dump has the text `inf` there instead, in a token of a number's kind.  A string
with that text inside is of a string's kind, so the two are told apart.

## Main Definitions

* `Token.Scanned` — what the value of a scanned token can be
* `Literal.ofJson?`, `Token.ofJson?`, `tokensOfJson?` — tokens from JSON values
-/

namespace LoxScan

/-! ## The values of scanned tokens -/

/-- Positive infinity. -/
def Binary64.infinity : Binary64 := ofRank false infinityRank

/-- A value that a scan can give to a token of a kind.  Only strings and numbers have one, and a
number is neither negative nor undefined. -/
inductive Literal.ScannedAs : Literal → TokenKind → Prop where
  | text (characters : List Char) : ScannedAs (.text characters) .string
  | number {num den : Nat} : ScannedAs (.number (Binary64.nearest num den)) .number

/-- A token has a value as scans give it, or none. -/
def Token.Scanned (token : Token) : Prop :=
  ∀ literal, token.literal = some literal → literal.ScannedAs token.kind

/-- An item becomes a token with such a value. -/
theorem Item.scanned_of_token? {item : Item} {line : Int} {token : Token}
    (found : item.token? line = some token) : token.Scanned := by
  obtain ⟨form, text⟩ := item
  cases form with
  | symbol | word =>
    cases found
    exact nofun
  | string =>
    cases found
    rintro _ ⟨⟩
    exact .text _
  | number =>
    cases found
    rintro _ ⟨⟩
    exact .number
  | blank | lineBreak | comment | strayCharacter | openString => cases found

/-- **All tokens of a scan have values as scans give them.** -/
theorem scanned_of_mem_scan {source : List Char} {token : Token}
    (mem : token ∈ (scan source).tokens) : token.Scanned := by
  rcases exists_item_of_mem_scan mem with ⟨item, -, line, found⟩ | rfl
  · exact Item.scanned_of_token? found
  · exact nofun

/-! ## Tokens from JSON -/

/-- The value of a field of an object. -/
def JsonValue.field? (key : String) : JsonValue → Option JsonValue
  | .object fields => fields.lookup key
  | .null | .bool _ | .integer _ | .number _ | .string _ | .array _ => none

/-- The value of a token of a kind, if it has one.  A text in a token of a number's kind stands
for infinity. -/
def Literal.ofJson? (kind : TokenKind) : JsonValue → Option (Option Literal)
  | .null => some none
  | .number value => some (some (.number value))
  | .string characters =>
    if kind = .number then
      if characters = "inf".toList then some (some (.number Binary64.infinity)) else none
    else some (some (.text characters))
  | .bool _ | .integer _ | .array _ | .object _ => none

/-- The token that an object describes. -/
def Token.ofJson? (value : JsonValue) : Option Token :=
  match value.field? "kind", value.field? "lexeme", value.field? "literal", value.field? "line" with
  | some (.string name), some (.string lexeme), some literal, some (.integer line) => do
    let kind ← TokenKind.ofName? (String.ofList name)
    let literal ← Literal.ofJson? kind literal
    return { kind := kind, lexeme := lexeme, literal := literal, line := line }
  | _, _, _, _ => none

/-- The tokens that an array describes. -/
def tokensOfJson? : JsonValue → Option (List Token)
  | .array items => items.mapM Token.ofJson?
  | .null | .bool _ | .integer _ | .number _ | .string _ | .object _ => none

/-- A rounded number is finite, or it is infinity. -/
theorem Binary64.nearest_cases (num den : Nat) :
    (nearest num den).isFinite = true ∨ nearest num den = infinity := by
  rcases Nat.lt_or_eq_of_le (nearest_rank_le num den) with finite | beyond
  · left
    rw [isFinite, decide_eq_true_iff]
    exact finite
  · right
    have kept : min infinityRank infinityRank = infinityRank := Nat.min_self _
    simp only [nearest, ofRank] at beyond
    simp only [infinity, nearest, ofRank, beyond, kept]

/-- Infinity is not finite, and `inf` is its text. -/
theorem Binary64.text_infinity : infinity.isFinite = false ∧ infinity.text = "inf".toList := by
  constructor
  · decide
  · rfl

/-- The value of a scanned token is had back. -/
theorem Literal.ofJson?_toJson {literal : Literal} {kind : TokenKind}
    (scanned : literal.ScannedAs kind) : ofJson? kind literal.toJson = some (some literal) := by
  cases scanned with
  | text characters => rfl
  | @number num den =>
    rcases Binary64.nearest_cases num den with finite | beyond
    · rw [toJson, if_pos finite, ofJson?]
    · obtain ⟨infinite, text⟩ := Binary64.text_infinity
      rw [beyond, toJson, infinite, if_neg Bool.false_ne_true, text, ofJson?, if_pos rfl,
        if_pos rfl]

/-- The fields of a token's object. -/
theorem Token.field?_toJson (token : Token) :
    token.toJson.field? "kind" = some (.string token.kind.name.toList) ∧
      token.toJson.field? "lexeme" = some (.string token.lexeme) ∧
      token.toJson.field? "literal" = some (token.literal.elim .null Literal.toJson) ∧
      token.toJson.field? "line" = some (.integer token.line) := by
  obtain ⟨kind, lexeme, literal, line⟩ := token
  refine ⟨rfl, rfl, ?_, rfl⟩
  cases literal with
  | none => rfl
  | some literal => rfl

/-- **A scanned token is had back.** -/
theorem Token.ofJson?_toJson {token : Token} (scanned : token.Scanned) :
    ofJson? token.toJson = some token := by
  obtain ⟨kind, lexeme, literal, line⟩ := token
  have read : Literal.ofJson? kind (literal.elim .null Literal.toJson) = some literal := by
    cases literal with
    | none => rfl
    | some literal => exact Literal.ofJson?_toJson (scanned literal rfl)
  obtain ⟨kind_field, lexeme_field, literal_field, line_field⟩ :=
    field?_toJson ⟨kind, lexeme, literal, line⟩
  simp [ofJson?, kind_field, lexeme_field, literal_field, line_field, read]

theorem mapM_ofJson?_toJson {tokens : List Token} (scanned : ∀ token ∈ tokens, token.Scanned) :
    (tokens.map Token.toJson).mapM Token.ofJson? = some tokens := by
  induction tokens with
  | nil => rfl
  | cons token rest ih =>
    rw [List.forall_mem_cons] at scanned
    rw [List.map_cons, List.mapM_cons, Token.ofJson?_toJson scanned.1, ih scanned.2]
    rfl

/-! ## The dump -/

/-- A literal is written strictly: a number that is not finite has become text. -/
theorem Literal.isStrict_toJson (literal : Literal) : literal.toJson.isStrict = true := by
  cases literal with
  | text => rfl
  | number value =>
    rw [toJson]
    split
    · rename_i finite
      exact finite
    · rfl

theorem itemsStrict_toJson (tokens : List Token) :
    JsonValue.itemsStrict (tokens.map Token.toJson) = true := by
  induction tokens with
  | nil => rfl
  | cons token rest ih =>
    rw [List.map_cons, JsonValue.itemsStrict, ih]
    obtain ⟨kind, lexeme, literal, line⟩ := token
    cases literal with
    | none => rfl
    | some literal =>
      simp [Token.toJson, JsonValue.isStrict, JsonValue.fieldsStrict, literal.isStrict_toJson]

/-- The array of some tokens as a line of its dump is JSON for it, and ASCII text. -/
theorem spelledAs_jsonDump (tokens : List Token) :
    (JsonValue.array (tokens.map Token.toJson)).SpelledAs (jsonDump tokens) ∧
      IsAscii (jsonDump tokens) := by
  have renders : JsonLayout.indentedAscii.Renders _ _ :=
    JsonLayout.renders_write (.array (tokens.map Token.toJson)) (itemsStrict_toJson tokens) 0
  have line_end : IsAscii ['\n'] := by decide
  constructor
  · have spelled := renders.spells [] ['\n'] (by rintro c ⟨⟩; rfl) (.blank rfl .nil)
    rwa [List.append_nil] at spelled
  · exact (renders.ascii rfl).append line_end

/-- **Different tokens have different dumps**, if their values are as scans give them. -/
theorem jsonDump_injective {tokens tokens' : List Token} (scanned : ∀ token ∈ tokens, token.Scanned)
    (scanned' : ∀ token ∈ tokens', token.Scanned) (same : jsonDump tokens = jsonDump tokens') :
    tokens = tokens' := by
  have spelled := (spelledAs_jsonDump tokens).1
  rw [same] at spelled
  have arrays := JsonValue.array.inj (spelled.unique (spelledAs_jsonDump tokens').1)
  have read := mapM_ofJson?_toJson scanned
  rw [arrays, mapM_ofJson?_toJson scanned'] at read
  exact (Option.some.inj read).symm

/-- **The JSON dump is strict and loses nothing.**  Take the tokens of the scan of any source, and
their array in JSON.  It can be written strictly, for none of its numbers is infinite or undefined.
The line of the text is the output of every command that is asked to dump the source in JSON; it
is ASCII text, and it is JSON for the array and for nothing else.  Reading it gives the array, and
from the array the same tokens are had back in the same order, with the values that they have. -/
theorem jsonDump_lossless (source : List Char) :
    let tokens := (Scanner.ofSource source).scanTokens.tokens
    let value := JsonValue.array (tokens.map Token.toJson)
    ∃ text, value.writeStrict? .indentedAscii = some text ∧
      (∀ arguments options input readFile,
        Request.ofArguments arguments = .ok (.dump options) → options.json = true →
        options.source input readFile = .ok source →
          ∃ outcome, runCommand arguments input readFile = .ok outcome ∧
            outcome.output = asLine text) ∧
      IsAscii (asLine text) ∧
      (∀ value' : JsonValue, value'.SpelledAs (asLine text) ↔ value' = value) ∧
      readJson (asLine text) = some value ∧
      tokensOfJson? value = some tokens := by
  intro tokens value
  have same : tokens = (scan source).tokens := (Scanner.scanTokens_ofSource source).1
  have strict : value.isStrict = true := itemsStrict_toJson tokens
  obtain ⟨spelled, ascii⟩ := spelledAs_jsonDump tokens
  refine ⟨value.write .indentedAscii 0, if_pos strict, ?_, ascii, ?_,
    readJson_of_spelledAs spelled, ?_⟩
  · intro arguments options input readFile asked json readable
    refine ⟨dump options source, runCommand_of_readable asked readable, ?_⟩
    rw [output_dump, json, if_pos rfl, ← same]
    rfl
  · intro value'
    constructor
    · exact fun spelled' => spelled'.unique spelled
    · rintro rfl
      exact spelled
  · refine mapM_ofJson?_toJson fun token mem => ?_
    rw [same] at mem
    exact scanned_of_mem_scan mem

/-- A string with `inf` inside and a number too large for a double: read back from the command's
output, one is the text and the other is infinity. -/
theorem jsonDump_lossless_inf :
    ∃ outcome,
      runCommand ["--json"] (.text ("\"inf\" ".toList ++ List.replicate 310 '9'))
          (fun _ => .error .embeddedNul) = .ok outcome ∧
        (readJson outcome.output).bind tokensOfJson? = some
          [⟨.string, "\"inf\"".toList, some (.text "inf".toList), 1⟩,
            ⟨.number, List.replicate 310 '9', some (.number Binary64.infinity), 1⟩,
            Token.endOfInput 1] := by
  obtain ⟨text, -, written, -, -, read, had_back⟩ :=
    jsonDump_lossless ("\"inf\" ".toList ++ List.replicate 310 '9')
  have tokens : (Scanner.ofSource ("\"inf\" ".toList ++ List.replicate 310 '9')).scanTokens.tokens =
      [⟨.string, "\"inf\"".toList, some (.text "inf".toList), 1⟩,
        ⟨.number, List.replicate 310 '9', some (.number Binary64.infinity), 1⟩,
        Token.endOfInput 1] := by
    decide +kernel
  obtain ⟨outcome, done, output⟩ := written ["--json"] ⟨"-", true, false⟩
    (.text ("\"inf\" ".toList ++ List.replicate 310 '9')) (fun _ => .error .embeddedNul) rfl rfl rfl
  refine ⟨outcome, done, ?_⟩
  rw [output, read, Option.bind_some, had_back, tokens]

end LoxScan
